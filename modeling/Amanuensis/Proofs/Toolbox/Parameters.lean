import Amanuensis.Proofs.Text.Trim
import Amanuensis.Proofs.Tool.Schema
import Amanuensis.Proofs.Wire.Values
import Amanuensis.Toolbox.Catalog
/-!
# Three views of the parameters

What a tool publishes of its parameters, what it requires of them before its
handler is entered, and what the handler then reads. They agree on every object
(`Agree`): it satisfies the published schema if and only if it is read, what is
read is let through unless a text is blank, and what is refused because
something is missing would not have been read.

A name may be given as the key of an object, and is then read though the schema
does not tell of it; such objects are left out of the first part.
-/


namespace Amanuensis

open Wire (Reads Takes valuesAt)

/-! ## Fields and properties -/

namespace Tool

namespace Schema

variable {s : Schema} {members : List (String × Json)} {fields : List Wire.Field}
variable {choices : List Choice} {value : Json}

/-- A field of a record reads what a parameter publishes, among some members. -/
structure Fits (s : Schema) (members : List (String × Json)) (field : Wire.Field) (p : Property) :
    Prop where
  key : field.key = p.key
  required : field.required = true ↔ p.key ∈ s.required
  check : ∀ value, Json.lookup p.key members = some value →
    (p.shape.accepts s.choices value = true ↔ field.check value = .ok ())

/-- A field takes the value that an object has for it, if this is as it should
be. -/
theorem Fits.takes_iff {field : Wire.Field} {p : Property} (h : Fits s members field p)
    (hnodup : (members.map Prod.fst).Nodup) :
    Takes field (valuesAt field.key members) ↔
      (p.key ∈ s.required → (Json.lookup p.key members).isSome = true) ∧
        ∀ value, Json.lookup p.key members = some value →
          p.shape.accepts s.choices value = true := by
  have hcheck := h.check
  rw [Json.valuesAt_of_nodup hnodup, h.key, ← h.required]
  generalize Json.lookup p.key members = found at hcheck
  cases found with
  | none =>
    constructor
    · intro htakes
      cases htakes with
      | absent hoptional =>
        exact ⟨fun hrequired => absurd (hoptional.symm.trans hrequired) Bool.false_ne_true, nofun⟩
    · rintro ⟨hrequired, -⟩
      exact .absent (Bool.eq_false_iff.2 fun h => absurd (hrequired h) Bool.false_ne_true)
  | some value =>
    constructor
    · intro htakes
      cases htakes with
      | once hvalue =>
        refine ⟨fun _ => rfl, fun other hother => ?_⟩
        obtain rfl := Option.some.inj hother
        exact (hcheck _ rfl).2 hvalue
    · rintro ⟨-, haccepts⟩
      exact .once ((hcheck value rfl).1 (haccepts value rfl))

theorem exists_property {properties : List Property} {field : Wire.Field}
    (hfits : List.Forall₂ (Fits s members) fields properties) (hfield : field ∈ fields) :
    ∃ p ∈ properties, p.key = field.key := by
  induction hfits with
  | nil => cases hfield
  | cons hfirst _ ih =>
    rcases List.mem_cons.1 hfield with rfl | hlater
    · exact ⟨_, List.mem_cons_self, hfirst.key.symm⟩
    · obtain ⟨p, hp, hkey⟩ := ih hlater
      exact ⟨p, List.mem_cons_of_mem _ hp, hkey⟩

/-- **A schema accepts what a record takes**, if the fields fit its
properties. -/
theorem accepts_iff_takes (hfits : List.Forall₂ (Fits s members) fields s.properties)
    (hrequired : ∀ key ∈ s.required, ∃ p ∈ s.properties, p.key = key)
    (hnodup : (members.map Prod.fst).Nodup) :
    s.accepts members = true ↔ ∀ field ∈ fields, Takes field (valuesAt field.key members) := by
  have hpairs : ∀ {fields : List Wire.Field} {properties : List Property},
      List.Forall₂ (Fits s members) fields properties →
        ((∀ field ∈ fields, Takes field (valuesAt field.key members)) ↔
          ∀ p ∈ properties, (p.key ∈ s.required → (Json.lookup p.key members).isSome = true) ∧
            ∀ value, Json.lookup p.key members = some value →
              p.shape.accepts s.choices value = true) := by
    intro fields properties h
    induction h with
    | nil => exact iff_of_true nofun nofun
    | cons hfirst _ ih =>
      rw [List.forall_mem_cons, List.forall_mem_cons, hfirst.takes_iff hnodup, ih]
  rw [hpairs hfits, accepts_iff]
  constructor
  · rintro ⟨hgiven, haccepts⟩ p hp
    exact ⟨hgiven p.key, haccepts p hp⟩
  · intro h
    refine ⟨fun key hkey => ?_, fun p hp => (h p hp).2⟩
    obtain ⟨p, hp, rfl⟩ := hrequired key hkey
    exact (h p hp).1 hkey

/-! ## Shapes -/

theorem accepts_text : Shape.text.accepts choices value = true ↔
    ∃ a, Wire.string value = .ok a := by
  simp only [Wire.string_eq_ok]
  cases value <;> simp [Shape.accepts]

theorem accepts_nullableText : Shape.nullableText.accepts choices value = true ↔
    ∃ a, Wire.nullable Wire.string value = .ok a := by
  simp only [Wire.nullable_eq_ok, Wire.string_eq_ok]
  cases value <;> simp [Shape.accepts]

/-- A choice whose options are the names that are read, for a value that is no
object. -/
theorem accepts_choice {α : Type} (names : List (String × α)) (name : String)
    (description : Option String) (hvalue : ∀ inner, value ≠ .obj inner) :
    (Shape.choice name).accepts [⟨name, description, names.map Prod.fst⟩] value = true ↔
      ∃ a, Wire.named names value = .ok a := by
  have hlookup : ∀ t, (∃ a, names.lookup t = some a) ↔ t ∈ names.map Prod.fst := by
    intro t
    induction names with
    | nil => simp
    | cons first names ih =>
      obtain ⟨other, b⟩ := first
      by_cases hkey : t = other
      · simp [hkey]
      · have hne : (t == other) = false := beq_false_of_ne hkey
        rw [List.lookup_cons, hne, ih, List.map_cons, List.mem_cons, or_iff_right hkey]
  simp only [Wire.named_eq_ok hvalue]
  cases value with
  | str t =>
    simp only [Shape.accepts, acceptsChoice, List.any_cons, List.any_nil, Bool.or_false,
      decide_true, Bool.true_and, List.contains_iff_mem, ← hlookup]
    constructor
    · rintro ⟨a, ha⟩
      exact ⟨a, t, rfl, ha⟩
    · rintro ⟨a, _, ⟨⟩, ha⟩
      exact ⟨a, ha⟩
  | null | bool | num | arr | obj =>
    exact iff_of_false (by rintro ⟨⟩) (by rintro ⟨_, _, ⟨⟩, _⟩)

theorem accepts_nullableChoice {α : Type} (names : List (String × α)) (name : String)
    (description : Option String) (hvalue : ∀ inner, value ≠ .obj inner) :
    (Shape.nullableChoice name).accepts [⟨name, description, names.map Prod.fst⟩] value = true ↔
      ∃ a, Wire.nullable (Wire.named names) value = .ok a := by
  by_cases hnull : value = .null
  · subst hnull
    exact iff_of_true rfl ⟨none, rfl⟩
  · have hchoice : (Shape.nullableChoice name).accepts [⟨name, description, names.map Prod.fst⟩]
        value = (Shape.choice name).accepts [⟨name, description, names.map Prod.fst⟩] value := by
      cases value with
      | null => exact absurd rfl hnull
      | bool | num | str | arr | obj => rfl
    rw [hchoice, accepts_choice names name description hvalue]
    simp only [Wire.nullable_eq_ok]
    constructor
    · rintro ⟨a, ha⟩
      exact ⟨some a, .inr ⟨a, hnull, ha, rfl⟩⟩
    · rintro ⟨_, ⟨h, -⟩ | ⟨a, -, ha, -⟩⟩
      · exact absurd h hnull
      · exact ⟨a, ha⟩

end Schema

/-! ## Tools -/

variable {α : Type} {t : Tool} {decode : Json → Wire.Decoded α} {s : Schema}
variable {members : List (String × Json)}

theorem exists_readParams {params : Json} :
    (∃ a, readParams t.name decode params = .ok a) ↔ ∃ a, decode params = .ok a := by
  unfold readParams
  cases decode params with
  | error e => exact iff_of_false (by rintro ⟨_, ⟨⟩⟩) (by rintro ⟨_, ⟨⟩⟩)
  | ok a => exact iff_of_true ⟨a, rfl⟩ ⟨a, rfl⟩

/-- What a tool requires is what its schema says that it requires. -/
theorem required_of_schema (h : t.parameters = s.toJson) : t.required = s.required := by
  have hkeyword : t.parameters.get? "required" = some (Schema.texts s.required) := by
    rw [h]
    exact Json.get?_ofMembers s.nodup_keywords (by simp)
  rw [required, hkeyword, Schema.texts]
  exact List.filterMap_map.trans List.filterMap_some

/-- The parameters of a tool are the same in its three views: as they are
published, as they are checked, and as they are read. -/
structure Agree (t : Tool) (decode : Json → Wire.Decoded α) (named : List String) : Prop where
  /-- An object satisfies the published schema if and only if it is read. Its
  keys are all different, as in every object that has been built, and none of
  its names is given as an object. -/
  published : ∀ members, (members.map Prod.fst).Nodup →
    (∀ key ∈ named, ∀ value, Json.lookup key members = some value →
      ∀ inner, value ≠ .obj inner) →
    (Schema.Satisfies t.parameters t.parameters (.obj members) ↔
      ∃ a, readParams t.name decode (.obj members) = .ok a)
  /-- What is read is let through, if no text that is required is blank. -/
  checked : ∀ members a, readParams t.name decode (.obj members) = .ok a →
    (∀ key ∈ t.required, ∀ text, Json.lookup key members = some (.str text) →
      ¬ ∀ c ∈ text.toList, Text.isBlank c = true) →
    t.check (.obj members) = .ok ()
  /-- What is refused because something is absent or null is not read either. -/
  refused : ∀ members, ∀ key ∈ t.required,
    Json.lookup key members = none ∨ Json.lookup key members = some .null →
    (∃ f, t.check (.obj members) = .error f) ∧
      ∃ f, readParams t.name decode (.obj members) = .error f

/-- How the parameters of a tool are read, field by field. -/
structure Reading (t : Tool) (decode : Json → Wire.Decoded α) (s : Schema)
    (fields : List Wire.Field) (named : List String) : Prop where
  parameters : t.parameters = s.toJson
  wellFormed : s.WellFormed
  /-- Whatever is required is a text. -/
  texts : ∀ key ∈ s.required, Wire.Field.needed key Wire.string ∈ fields
  reads : ∀ members, (∃ a, decode (.obj members) = .ok a) ↔
    ∀ field ∈ fields, Takes field (valuesAt field.key members)
  fits : ∀ members, (∀ key ∈ named, ∀ value, Json.lookup key members = some value →
    ∀ inner, value ≠ .obj inner) → List.Forall₂ (Schema.Fits s members) fields s.properties

namespace Reading

variable {fields : List Wire.Field} {named : List String}

/-- What is required is a text in whatever is read. -/
theorem exists_text (h : Reading t decode s fields named) {a : α}
    (hread : readParams t.name decode (.obj members) = .ok a) {key : String}
    (hkey : key ∈ t.required) : ∃ text, Json.lookup key members = some (.str text) := by
  rw [required_of_schema h.parameters] at hkey
  have htakes := (h.reads members).1 (exists_readParams.1 ⟨a, hread⟩) _ (h.texts key hkey)
  obtain ⟨text, htext⟩ := htakes.exists_field
  have hvalues := Wire.sole_string.1 (htakes.field_iff.1 htext)
  exact ⟨text, by rw [Wire.lookup_eq_head?, hvalues, List.head?_cons]⟩

theorem agree (h : Reading t decode s fields named) : Agree t decode named where
  published members hnodup hnamed := by
    have hfits := h.fits members hnamed
    have hrequired : ∀ key ∈ s.required, ∃ p ∈ s.properties, p.key = key :=
      fun key hkey => Schema.exists_property hfits (h.texts key hkey)
    -- from the schema to what it accepts, to what the fields take, to what is read
    rw [h.parameters, Schema.satisfies_iff_accepts h.wellFormed,
      Schema.accepts_iff_takes hfits hrequired hnodup, exists_readParams, h.reads]
  checked members a hread hblank := by
    -- what is required is a text in what was read, and none of the texts is blank
    have hnone : (t.required.filter fun key => isMissing (Json.lookup key members)) = [] := by
      refine List.filter_eq_nil_iff.2 fun key hkey => ?_
      obtain ⟨text, htext⟩ := h.exists_text hread hkey
      have htrim : Text.trim text.toList ≠ [] :=
        mt (Text.trim_eq_nil_iff _).1 (hblank key hkey text htext)
      rw [htext, isMissing, List.isEmpty_iff]
      exact htrim
    rw [check, hnone]
  refused members key hkey hmissing := by
    constructor
    · have hmem : key ∈ t.required.filter fun key => isMissing (Json.lookup key members) := by
        refine List.mem_filter.2 ⟨hkey, ?_⟩
        rcases hmissing with hnone | hnull
        · rw [hnone]
          rfl
        · rw [hnull]
          rfl
      rw [check]
      split
      · rename_i hfilter
        rw [hfilter] at hmem
        cases hmem
      · exact ⟨_, rfl⟩
    · cases hread : readParams t.name decode (.obj members) with
      | error f => exact ⟨f, rfl⟩
      | ok a =>
        obtain ⟨text, htext⟩ := h.exists_text hread hkey
        rcases hmissing with hnone | hnull
        · cases htext.symm.trans hnone
        · cases htext.symm.trans hnull

end Reading

end Tool

/-! ## The built-in tools -/

namespace Toolbox

open Generation (DocumentOrder Format ImageOrder)
open Research (Depth Inquiry)
open Tool (Agree Reading)
open Tool.Schema (accepts_choice accepts_nullableChoice accepts_nullableText accepts_text)

theorem research_reading :
    Reading research Inquiry.decode Inquiry.schema Inquiry.fields ["depth"] where
  parameters := rfl
  wellFormed := ⟨by decide, by decide, by decide⟩
  texts := by simp [Inquiry.schema, Inquiry.fields]
  reads members := Wire.exists_record_then (by decide) fun htakes =>
    Wire.exists_needed_then htakes fun _ hrest =>
      Wire.exists_optional_then hrest fun _ _ => ⟨_, rfl⟩
  fits members hnamed := by
    refine .cons ⟨rfl, by decide, fun value _ => ?_⟩
      (.cons ⟨rfl, by decide, fun value hvalue => ?_⟩ .nil)
    · exact accepts_text.trans Wire.check_iff.symm
    · exact (accepts_nullableChoice Depth.names "ResearchDepth" (some "研究深度")
        (hnamed "depth" (by simp) value hvalue)).trans Wire.check_iff.symm

theorem image_reading :
    Reading image ImageOrder.decode ImageOrder.schema ImageOrder.fields [] where
  parameters := rfl
  wellFormed := ⟨by decide, by decide, by decide⟩
  texts := by simp [ImageOrder.schema, ImageOrder.fields]
  reads members := Wire.exists_record_then (by decide) fun htakes =>
    Wire.exists_needed_then htakes fun _ hrest =>
      Wire.exists_optional_then hrest fun _ _ => ⟨_, rfl⟩
  fits members _ := by
    refine .cons ⟨rfl, by decide, fun value _ => ?_⟩
      (.cons ⟨rfl, by decide, fun value _ => ?_⟩ .nil)
    · exact accepts_text.trans Wire.check_iff.symm
    · exact accepts_nullableText.trans Wire.check_iff.symm

theorem document_reading :
    Reading document DocumentOrder.decode DocumentOrder.schema DocumentOrder.fields
      ["format"] where
  parameters := rfl
  wellFormed := ⟨by decide, by decide, by decide⟩
  texts := by simp [DocumentOrder.schema, DocumentOrder.fields]
  reads members := Wire.exists_record_then (by decide) fun htakes =>
    Wire.exists_needed_then htakes fun _ hrest =>
      Wire.exists_optional_then hrest fun _ hlast =>
        Wire.exists_optional_then hlast fun _ _ => ⟨_, rfl⟩
  fits members hnamed := by
    refine .cons ⟨rfl, by decide, fun value _ => ?_⟩
      (.cons ⟨rfl, by decide, fun value hvalue => ?_⟩
        (.cons ⟨rfl, by decide, fun value _ => ?_⟩ .nil))
    · exact accepts_text.trans Wire.check_iff.symm
    · exact (accepts_choice Format.names "DocumentFormat" none
        (hnamed "format" (by simp) value hvalue)).trans Wire.check_iff.symm
    · exact accepts_nullableText.trans Wire.check_iff.symm

/-- **The parameters of the built-in tools** are the same in all three views,
for every object. -/
theorem parameters_agree :
    Agree research Inquiry.decode ["depth"] ∧ Agree image ImageOrder.decode [] ∧
      Agree document DocumentOrder.decode ["format"] :=
  ⟨research_reading.agree, image_reading.agree, document_reading.agree⟩

/-- A document in a format that there is satisfies the schema, and one whose
content is null is refused twice over. -/
theorem pdf_agrees :
    Tool.Schema.Satisfies document.parameters document.parameters
        (.obj [("content", .str "x"), ("format", .str "pdf")]) ∧
      document.check (.obj [("content", .str "x"), ("format", .str "pdf")]) = .ok () ∧
      (∃ f, document.check (.obj [("content", .null)]) = .error f) ∧
      ∃ f, Tool.readParams document.name DocumentOrder.decode (.obj [("content", .null)]) =
        .error f := by
  have hdocument := parameters_agree.2.2
  have hread : Tool.readParams document.name DocumentOrder.decode
      (.obj [("content", .str "x"), ("format", .str "pdf")]) = .ok ⟨"x", .pdf, none⟩ := rfl
  refine ⟨(hdocument.published _ (by decide) ?_).2 ⟨_, hread⟩, hdocument.checked _ _ hread ?_,
    hdocument.refused _ "content" (by decide) (.inr rfl)⟩
  · simp [Json.lookup]
  · intro key hkey text htext hblank
    have hrequired : document.required = ["content"] :=
      Tool.required_of_schema document_reading.parameters
    rw [hrequired, List.mem_singleton] at hkey
    subst hkey
    obtain rfl : "x" = text := Json.str.inj (Option.some.inj htext)
    exact absurd (hblank 'x' (by decide)) (by decide)

/-- A depth that is given as an object is read, and the schema does not tell of
it. -/
example :
    Inquiry.decode (.obj [("query", .str "why?"), ("depth", .obj [("quick", .null)])]) =
      .ok ⟨"why?", some .quick⟩ ∧
    Inquiry.schema.accepts [("query", .str "why?"), ("depth", .obj [("quick", .null)])] = false :=
  ⟨rfl, by decide⟩

end Toolbox

end Amanuensis
