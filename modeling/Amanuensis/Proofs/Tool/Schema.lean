import Amanuensis.Proofs.Json.Members
import Amanuensis.Tool.Schema
/-!
# Published schemas

What it means that a value satisfies a JSON schema: each keyword of the schema
says something about the value, and the value keeps it (`Satisfies`, `Keeps`).
A reference is looked up among the definitions of the document in which it
stands. A keyword that is not known is kept by no value.

What a schema of parameters publishes is satisfied by the objects that it
accepts, and by no others (`satisfies_iff_accepts`).
-/


namespace Amanuensis

namespace Tool

namespace Schema

open Json (collect present)

/-! ## Satisfaction -/

/-- The keywords of schemas. -/
inductive Keyword where
  /-- Says nothing about the value. -/
  | remark
  | type
  | enum
  | allOf
  | anyOf
  | reference
  | required
  | properties
  | unknown
deriving DecidableEq

def Keyword.names : List (String × Keyword) :=
  [("$schema", .remark), ("title", .remark), ("description", .remark),
    ("default", .remark), ("definitions", .remark), ("type", .type), ("enum", .enum),
    ("allOf", .allOf), ("anyOf", .anyOf), ("$ref", .reference), ("required", .required),
    ("properties", .properties)]

def Keyword.ofText (s : String) : Keyword := (names.lookup s).getD .unknown

/-- The name of the type of a value. -/
def typeName : Json → String
  | .null => "null"
  | .bool _ => "boolean"
  | .num _ => "number"
  | .str _ => "string"
  | .arr _ => "array"
  | .obj _ => "object"

/-- The schema to which a reference leads in a document. -/
def target (document : Json) (name : String) : Option Json :=
  (document.get? "definitions").bind fun definitions => definitions.get? name

mutual

/-- A value satisfies a schema that stands in a document: it keeps what each
keyword says. -/
inductive Satisfies (document : Json) : (schema value : Json) → Prop
  | keeps {keywords : List (String × Json)} {value : Json}
      (h : ∀ k ∈ keywords, Keeps document (.ofText k.1) k.2 value) :
      Satisfies document (.obj keywords) value

/-- A value keeps what a keyword says. -/
inductive Keeps (document : Json) : Keyword → (content value : Json) → Prop
  | remark {content value : Json} : Keeps document .remark content value
  | type {value : Json} : Keeps document .type (.str (typeName value)) value
  | types {names : List Json} {value : Json} (h : .str (typeName value) ∈ names) :
      Keeps document .type (.arr names) value
  | enum {options : List Json} {value : Json} (h : value ∈ options) :
      Keeps document .enum (.arr options) value
  | allOf {schemas : List Json} {value : Json} (h : ∀ s ∈ schemas, Satisfies document s value) :
      Keeps document .allOf (.arr schemas) value
  | anyOf {schemas : List Json} {schema value : Json} (hmem : schema ∈ schemas)
      (h : Satisfies document schema value) : Keeps document .anyOf (.arr schemas) value
  | reference {path name : String} {schema value : Json} (hpath : path = "#/definitions/" ++ name)
      (htarget : target document name = some schema) (h : Satisfies document schema value) :
      Keeps document .reference (.str path) value
  | required {keys : List Json} {members : List (String × Json)}
      (h : ∀ key ∈ keys, ∃ name, key = .str name ∧ (Json.lookup name members).isSome) :
      Keeps document .required (.arr keys) (.obj members)
  | properties {schemas members : List (String × Json)}
      (h : ∀ p ∈ schemas, ∀ value, Json.lookup p.1 members = some value →
        Satisfies document p.2 value) :
      Keeps document .properties (.obj schemas) (.obj members)
  /-- What is said of members says nothing of a value that is no object. -/
  | requiredOther {content value : Json} (h : ∀ members, value ≠ .obj members) :
      Keeps document .required content value
  | propertiesOther {content value : Json} (h : ∀ members, value ≠ .obj members) :
      Keeps document .properties content value

end

variable {document schema value content : Json} {members : List (String × Json)}

/-! ## Keyword by keyword -/

theorem satisfies_obj {keywords : List (String × Json)} :
    Satisfies document (.obj keywords) value ↔
      ∀ k ∈ keywords, Keeps document (.ofText k.1) k.2 value :=
  ⟨fun h => by cases h; assumption, .keeps⟩

/-- A schema whose keywords are all different says what each of them says. -/
theorem satisfies_ofMembers {keywords : List (String × Option Json)}
    (h : (keywords.map Prod.fst).Nodup) :
    Satisfies document (.ofMembers keywords) value ↔
      ∀ k ∈ keywords, ∀ content, k.2 = some content →
        Keeps document (.ofText k.1) content value := by
  rw [Json.ofMembers_eq, satisfies_obj]
  constructor
  · rintro hkeeps ⟨key, _⟩ hmem content rfl
    exact hkeeps (key, content)
      ((Json.mem_collect_iff (Json.nodup_present h)).2 (Json.mem_present.2 hmem))
  · rintro hkeeps ⟨key, content⟩ hmem
    have hmem := Json.mem_present.1 ((Json.mem_collect_iff (Json.nodup_present h)).1 hmem)
    exact hkeeps _ hmem content rfl

/-- A single keyword. -/
theorem keeps_single {key : String} :
    (∀ k ∈ [(key, some content)], ∀ content', k.2 = some content' →
      Keeps document (.ofText k.1) content' value) ↔
        Keeps document (.ofText key) content value := by
  constructor
  · exact fun h => h _ List.mem_cons_self _ rfl
  · intro h k hk content' hcontent
    obtain rfl := List.mem_singleton.1 hk
    obtain rfl := Option.some.inj hcontent
    exact h

theorem keeps_type {name : String} :
    Keeps document .type (.str name) value ↔ typeName value = name :=
  ⟨fun h => by cases h; rfl, fun h => h ▸ .type⟩

theorem keeps_types {names : List Json} :
    Keeps document .type (.arr names) value ↔ .str (typeName value) ∈ names :=
  ⟨fun h => by cases h; assumption, .types⟩

theorem keeps_enum {options : List Json} :
    Keeps document .enum (.arr options) value ↔ value ∈ options :=
  ⟨fun h => by cases h; assumption, .enum⟩

theorem keeps_allOf {schemas : List Json} :
    Keeps document .allOf (.arr schemas) value ↔ ∀ s ∈ schemas, Satisfies document s value :=
  ⟨fun h => by cases h; assumption, .allOf⟩

theorem keeps_anyOf {schemas : List Json} :
    Keeps document .anyOf (.arr schemas) value ↔ ∃ s ∈ schemas, Satisfies document s value :=
  ⟨fun h => by cases h with | anyOf hmem h => exact ⟨_, hmem, h⟩, fun ⟨_, hmem, h⟩ => .anyOf hmem h⟩

/-- A reference says what the schema says to which it leads. -/
theorem keeps_reference {name : String} (htarget : target document name = some schema) :
    Keeps document .reference (.str ("#/definitions/" ++ name)) value ↔
      Satisfies document schema value := by
  constructor
  · intro h
    cases h with
    | reference hpath htarget' h =>
      obtain rfl := (String.append_right_inj _).1 hpath
      obtain rfl := Option.some.inj (htarget.symm.trans htarget')
      exact h
  · exact .reference rfl htarget

theorem keeps_required {keys : List Json} :
    Keeps document .required (.arr keys) (.obj members) ↔
      ∀ key ∈ keys, ∃ name, key = .str name ∧ (Json.lookup name members).isSome := by
  constructor
  · intro h
    cases h with
    | required h => exact h
    | requiredOther h => exact absurd rfl (h members)
  · exact .required

theorem keeps_properties {schemas : List (String × Json)} :
    Keeps document .properties (.obj schemas) (.obj members) ↔
      ∀ p ∈ schemas, ∀ value, Json.lookup p.1 members = some value →
        Satisfies document p.2 value := by
  constructor
  · intro h
    cases h with
    | properties h => exact h
    | propertiesOther h => exact absurd rfl (h members)
  · exact .properties

/-! ## Parameters -/

/-- The choice that a shape speaks of. -/
def Shape.choice? : Shape → Option String
  | .text | .nullableText => none
  | .choice name | .nullableChoice name => some name

/-- A schema that says one thing of each parameter, and knows every choice. -/
structure WellFormed (s : Schema) : Prop where
  keys : (s.properties.map Property.key).Nodup
  names : (s.choices.map Choice.name).Nodup
  known : ∀ p ∈ s.properties, ∀ name ∈ p.shape.choice?, ∃ c ∈ s.choices, c.name = name

variable {s : Schema}

/-- What a choice publishes is satisfied by its options. -/
theorem satisfies_choice (c : Choice) :
    Satisfies document c.toJson value ↔ ∃ t ∈ c.options, value = .str t := by
  have hkeys : ["type", "enum", "description"].Nodup := by decide
  have hoption : value ∈ c.options.map Json.str ↔ ∃ t ∈ c.options, value = .str t := by
    rw [List.mem_map]
    exact exists_congr fun t => and_congr_right fun _ => eq_comm
  refine (satisfies_ofMembers ?_).trans ?_
  · exact hkeys
  constructor
  · intro h
    exact hoption.1 (keeps_enum.1 (h ("enum", some (texts c.options)) (by simp) _ rfl))
  · rintro ⟨t, ht, rfl⟩
    have hremark : ∀ content, c.description.map Json.str = some content →
        Keeps document (.ofText "description") content (.str t) := fun _ _ => .remark
    simp only [List.forall_mem_cons, List.not_mem_nil, false_imp_iff, implies_true, and_true]
    refine ⟨?_, ?_, hremark⟩
    · rintro _ ⟨⟩
      exact keeps_type.2 rfl
    · rintro _ ⟨⟩
      exact keeps_enum.2 (hoption.2 ⟨t, ht, rfl⟩)

/-- Where a choice is known to the document, what its reference says is that the
value is one of its options. -/
theorem satisfies_reference {c : Choice} (hc : c ∈ s.choices)
    (hnames : (s.choices.map Choice.name).Nodup)
    (htarget : target document c.name = some c.toJson) :
    Satisfies document (reference c.name) value ↔ acceptsChoice s.choices c.name value = true := by
  have hreference : Satisfies document (reference c.name) value ↔
      Keeps document .reference (.str ("#/definitions/" ++ c.name)) value := by
    refine (satisfies_ofMembers ?_).trans keeps_single
    exact List.nodup_singleton _
  rw [hreference, keeps_reference htarget, satisfies_choice]
  cases value with
  | str t =>
    have hname : ∀ c' ∈ s.choices, c'.name = c.name → c' = c := fun c' hc' =>
      List.inj_on_of_nodup_map hnames hc' hc
    simp only [acceptsChoice, List.any_eq_true, Bool.and_eq_true, decide_eq_true_eq,
      List.contains_iff_mem]
    constructor
    · rintro ⟨_, ht, ⟨⟩⟩
      exact ⟨c, hc, rfl, ht⟩
    · rintro ⟨c', hc', heq, ht⟩
      obtain rfl := hname c' hc' heq
      exact ⟨t, ht, rfl⟩
  | null | bool | num | arr | obj =>
    exact iff_of_false (by rintro ⟨_, _, ⟨⟩⟩) (by rintro ⟨⟩)

/-- **What a parameter publishes** is satisfied by the values of its shape. -/
theorem satisfies_property {p : Property} (hs : s.WellFormed) (hp : p ∈ s.properties)
    (htarget : ∀ c ∈ s.choices, target document c.name = some c.toJson) :
    Satisfies document p.toJson value ↔ p.shape.accepts s.choices value = true := by
  have hkeys : ((p.shape.members ++
      [("default", p.default), ("description", p.description.map .str)]).map Prod.fst).Nodup := by
    cases p.shape with
    | text | nullableText => exact (by decide : ["type", "default", "description"].Nodup)
    | choice name => exact (by decide : ["allOf", "default", "description"].Nodup)
    | nullableChoice name => exact (by decide : ["anyOf", "default", "description"].Nodup)
  -- beside its shape a parameter publishes only what says nothing of the value
  have hshape : Satisfies document p.toJson value ↔
      ∀ k ∈ p.shape.members, ∀ content, k.2 = some content →
        Keeps document (.ofText k.1) content value := by
    refine (satisfies_ofMembers hkeys).trans ?_
    constructor
    · exact fun h k hk => h k (List.mem_append_left _ hk)
    · intro h k hk
      rcases List.mem_append.1 hk with hk | hk
      · exact h k hk
      · obtain rfl | rfl : k = _ ∨ k = _ := by simpa using hk
        · exact fun _ _ => .remark
        · exact fun _ _ => .remark
  -- and a reference in its shape leads to a choice that the document has
  have hknown := hs.known p hp
  rw [hshape]
  generalize p.shape = shape at hknown
  cases shape with
  | text =>
    refine keeps_single.trans (keeps_type.trans ?_)
    cases value <;> simp [Shape.accepts, typeName]
  | nullableText =>
    refine keeps_single.trans (keeps_types.trans ?_)
    cases value <;> simp [Shape.accepts, typeName]
  | choice name =>
    obtain ⟨c, hc, rfl⟩ := hknown name rfl
    refine keeps_single.trans (keeps_allOf.trans ?_)
    rw [List.forall_mem_singleton, satisfies_reference hc hs.names (htarget c hc)]
    rfl
  | nullableChoice name =>
    obtain ⟨c, hc, rfl⟩ := hknown name rfl
    have hnull : Satisfies document (.ofMembers [("type", some (.str "null"))]) value ↔
        typeName value = "null" := by
      refine (satisfies_ofMembers ?_).trans (keeps_single.trans keeps_type)
      exact List.nodup_singleton _
    refine keeps_single.trans (keeps_anyOf.trans ?_)
    simp only [List.mem_cons, List.not_mem_nil, or_false, exists_eq_or_imp, exists_eq_left,
      satisfies_reference hc hs.names (htarget c hc), hnull]
    cases value with
    | null => exact iff_of_true (.inr rfl) rfl
    | bool | num | str | arr | obj => exact or_iff_left (by simp [typeName])

/-! ## Whole schemas -/

/-- The keywords of a published schema. -/
abbrev keywords (s : Schema) : List (String × Option Json) :=
  [("$schema", some (.str "http://json-schema.org/draft-07/schema#")),
    ("title", some (.str s.title)), ("description", some (.str s.description)),
    ("type", some (.str "object")), ("required", some (texts s.required)),
    ("properties", some (.ofMembers (s.properties.map fun p => (p.key, some p.toJson)))),
    ("definitions",
      if s.choices.isEmpty then none
      else some (.ofMembers (s.choices.map fun c => (c.name, some c.toJson))))]

theorem nodup_keywords (s : Schema) : (s.keywords.map Prod.fst).Nodup :=
  (by decide : ["$schema", "title", "description", "type", "required", "properties",
    "definitions"].Nodup)

/-- Every choice is among the definitions. -/
theorem target_choice (hnames : (s.choices.map Choice.name).Nodup) {c : Choice}
    (hc : c ∈ s.choices) : target s.toJson c.name = some c.toJson := by
  have hdefinitions : s.toJson.get? "definitions" =
      some (.ofMembers (s.choices.map fun c => (c.name, some c.toJson))) := by
    refine Json.get?_ofMembers s.nodup_keywords ?_
    have hsome : s.choices.isEmpty = false := by
      cases hchoices : s.choices with
      | nil => rw [hchoices] at hc; cases hc
      | cons c' rest => rfl
    simp [hsome]
  rw [target, hdefinitions, Option.bind_some]
  refine Json.get?_ofMembers ?_ (List.mem_map.2 ⟨c, hc, rfl⟩)
  rwa [List.map_map]

theorem keeps_requiredKeys :
    Keeps document .required (texts s.required) (.obj members) ↔
      ∀ key ∈ s.required, (Json.lookup key members).isSome = true := by
  rw [texts, keeps_required, List.forall_mem_map]
  refine forall₂_congr fun key _ => ?_
  constructor
  · rintro ⟨_, ⟨⟩, h⟩
    exact h
  · exact fun h => ⟨key, rfl, h⟩

theorem keeps_parameters (hs : s.WellFormed)
    (htarget : ∀ c ∈ s.choices, target document c.name = some c.toJson) :
    Keeps document .properties
        (.ofMembers (s.properties.map fun p => (p.key, some p.toJson))) (.obj members) ↔
      ∀ p ∈ s.properties, ∀ value, Json.lookup p.key members = some value →
        p.shape.accepts s.choices value = true := by
  have hkeys : ((s.properties.map fun p => (p.key, some p.toJson)).map Prod.fst).Nodup := by
    rw [List.map_map]
    exact hs.keys
  have hmem : ∀ {key schema},
      (key, schema) ∈ collect [] (present (s.properties.map fun p => (p.key, some p.toJson))) ↔
        ∃ p ∈ s.properties, p.key = key ∧ p.toJson = schema := by
    intro key schema
    rw [Json.mem_collect_iff (Json.nodup_present hkeys), Json.mem_present, List.mem_map]
    simp only [Prod.mk.injEq, Option.some.injEq]
  rw [Json.ofMembers_eq, keeps_properties]
  constructor
  · intro h p hp value hvalue
    exact (satisfies_property hs hp htarget).1 (h _ (hmem.2 ⟨p, hp, rfl, rfl⟩) value hvalue)
  · rintro h ⟨key, schema⟩ hschema value hvalue
    obtain ⟨p, hp, rfl, rfl⟩ := hmem.1 hschema
    exact (satisfies_property hs hp htarget).2 (h p hp value hvalue)

theorem accepts_iff : s.accepts members = true ↔
    (∀ key ∈ s.required, (Json.lookup key members).isSome = true) ∧
      ∀ p ∈ s.properties, ∀ value, Json.lookup p.key members = some value →
        p.shape.accepts s.choices value = true := by
  rw [accepts, Bool.and_eq_true, List.all_eq_true, List.all_eq_true]
  refine and_congr_right fun _ => forall₂_congr fun p _ => ?_
  cases Json.lookup p.key members with
  | none => exact iff_of_true rfl nofun
  | some value => exact ⟨fun h _ hvalue => Option.some.inj hvalue ▸ h, fun h => h value rfl⟩

/-- **A published schema is satisfied by the objects that it accepts.** -/
theorem satisfies_iff_accepts (hs : s.WellFormed) :
    Satisfies s.toJson s.toJson (.obj members) ↔ s.accepts members = true := by
  rw [accepts_iff, ← keeps_requiredKeys,
    ← keeps_parameters hs fun c hc => target_choice hs.names hc]
  refine (satisfies_ofMembers s.nodup_keywords).trans ?_
  constructor
  · intro h
    exact ⟨h ("required", _) (by simp) _ rfl, h ("properties", _) (by simp) _ rfl⟩
  · rintro ⟨hrequired, hproperties⟩
    simp only [List.forall_mem_cons, List.not_mem_nil, false_imp_iff, implies_true, and_true,
      Option.some.injEq, forall_eq']
    exact ⟨.remark, .remark, .remark, keeps_type.2 rfl, hrequired, hproperties,
      fun _ _ => .remark⟩

end Schema

end Tool

end Amanuensis
