import Amanuensis.Wire.Decode
import Mathlib.Data.List.Nodup
/-!
# Records with optional fields

When a value is accepted as a record: it is an object, or an array that is not
too long and stands for the object with its items under the fields' keys, and
each field takes the values under its key (`record_eq_ok`). A field takes one
value that passes its check, or none if it may be left out; members that are no
fields make no difference. What a field then gives is what its value stands
for, or its default (`Takes.field_iff`, `Takes.fieldOr_iff`), so that what is
read of a record is known field by field (`needed_then`, `optional_then`).
-/


namespace Amanuensis

namespace Wire

variable {α β : Type} {fields : List Field} {field : Field} {seen : List String}
variable {key : String} {value : Json} {values : List Json} {members : List (String × Json)}
variable {decode : Json → Decoded α} {default a : α}

/-- The values that members with a key have. -/
def valuesAt (key : String) (members : List (String × β)) : List β :=
  (members.filter fun member => member.1 = key).map Prod.snd

/-- The members with the key of a field are as they may be: there is none, or
one that has not been seen and passes the check. -/
def Accepts (seen : List String) (field : Field) (values : List Json) : Prop :=
  values = [] ∨ ∃ value, values = [value] ∧ field.key ∉ seen ∧ field.check value = .ok ()

/-- What a field that may be left out gives: what its only value stands for,
or the default. -/
inductive Given (denotes : β → α → Prop) (default : α) : List β → α → Prop
  | absent : Given denotes default [] default
  | once {b : β} {a : α} (h : denotes b a) : Given denotes default [b] a

section

variable {denotes : β → α → Prop} {b b' : β} {rest values' : List β}

@[simp] theorem given_nil : Given denotes default [] a ↔ a = default :=
  ⟨fun h => by cases h; rfl, fun h => h ▸ .absent⟩

@[simp] theorem not_given_cons_cons : ¬ Given denotes default (b :: b' :: rest) a := nofun

theorem Given.of_mem (h : Given denotes default values' a) (hb : b ∈ values') : denotes b a := by
  cases h with
  | absent => cases hb
  | once h => exact List.mem_singleton.1 hb ▸ h

end

/-- Two readings one after the other. -/
theorem bind_eq_ok {x : Decoded α} {f : α → Decoded β} {b : β} :
    (x >>= f) = .ok b ↔ ∃ a, x = .ok a ∧ f a = .ok b := by
  cases x with
  | error e => exact iff_of_false (by rintro ⟨⟩) (by rintro ⟨_, ⟨⟩, _⟩)
  | ok a => exact ⟨fun h => ⟨a, rfl, h⟩, fun ⟨_, ha, h⟩ => Except.ok.inj ha ▸ h⟩

theorem valuesAt_cons_self (key : String) (b : β) (members : List (String × β)) :
    valuesAt key ((key, b) :: members) = b :: valuesAt key members := by
  rw [valuesAt, List.filter_cons_of_pos (by simp)]
  rfl

theorem valuesAt_cons_of_ne {key other : String} (h : other ≠ key) (b : β)
    (members : List (String × β)) :
    valuesAt key ((other, b) :: members) = valuesAt key members := by
  rw [valuesAt, List.filter_cons_of_neg (by simpa using h)]
  rfl

theorem valuesAt_map {γ : Type} (f : β → γ) (key : String) (members : List (String × β)) :
    valuesAt key (members.map fun m => (m.1, f m.2)) = (valuesAt key members).map f := by
  induction members with
  | nil => rfl
  | cons member members ih =>
    obtain ⟨other, b⟩ := member
    rw [List.map_cons]
    by_cases hkey : other = key
    · subst hkey
      rw [valuesAt_cons_self, valuesAt_cons_self, ih, List.map_cons]
    · rw [valuesAt_cons_of_ne hkey, valuesAt_cons_of_ne hkey, ih]

theorem valuesAt_filter (q : String → Prop) [DecidablePred q] (key : String)
    (members : List (String × β)) :
    valuesAt key (members.filter fun m => q m.1) =
      if q key then valuesAt key members else [] := by
  rw [valuesAt, valuesAt, List.filter_filter]
  split
  · rename_i hkey
    refine congrArg _ (List.filter_congr fun m _ => ?_)
    by_cases hm : m.1 = key
    · simp [hm, hkey]
    · simp [hm]
  · rename_i hkey
    rw [List.filter_eq_nil_iff.2, List.map_nil]
    intro m _ hm
    simp only [Bool.and_eq_true, decide_eq_true_eq] at hm
    exact hkey (hm.1 ▸ hm.2)

theorem lookup_eq_head? (key : String) (members : List (String × Json)) :
    Json.lookup key members = (valuesAt key members).head? := by
  induction members with
  | nil => rfl
  | cons member members ih =>
    obtain ⟨other, value⟩ := member
    rw [Json.lookup]
    by_cases hkey : key = other
    · subst hkey
      rw [if_pos rfl, valuesAt_cons_self, List.head?_cons]
    · rw [if_neg hkey, valuesAt_cons_of_ne (Ne.symm hkey), ih]

/-- A field that is given is given once. -/
theorem accepts_cons : Accepts seen field (value :: values) ↔
    field.key ∉ seen ∧ field.check value = .ok () ∧ values = [] := by
  constructor
  · rintro (hnone | ⟨_, honce, hunseen, hcheck⟩)
    · cases hnone
    · obtain ⟨rfl, hnone⟩ := List.cons.inj honce
      exact ⟨hunseen, hcheck, hnone⟩
  · rintro ⟨hunseen, hcheck, rfl⟩
    exact .inr ⟨value, rfl, hunseen, hcheck⟩

/-- And not again after it has been seen. -/
theorem accepts_of_mem (h : field.key ∈ seen) : Accepts seen field values ↔ values = [] := by
  cases values with
  | nil => exact iff_of_true (.inl rfl) rfl
  | cons value values =>
    exact iff_of_false (fun haccepts => (accepts_cons.1 haccepts).1 h) (by rintro ⟨⟩)

/-- **Members pass as fields** where each field among them does. -/
theorem checkMembers_eq_ok :
    checkMembers fields seen members = .ok () ↔
      ∀ field, fields.find? (·.key = field.key) = some field →
        Accepts seen field (valuesAt field.key members) := by
  induction members generalizing seen with
  | nil => exact iff_of_true rfl fun _ _ => .inl rfl
  | cons member members ih =>
    obtain ⟨key, value⟩ := member
    rw [checkMembers]
    split
    · -- a member that is no field gives a value to none
      rename_i hunknown
      rw [ih]
      refine forall₂_congr fun field hfield => ?_
      have hne : key ≠ field.key := by
        rintro rfl
        exact Option.some_ne_none _ (hfield.symm.trans hunknown)
      rw [valuesAt_cons_of_ne hne]
    · rename_i known hknown
      obtain rfl : known.key = key := by simpa using List.find?_some hknown
      split
      · -- a field that is given again
        rename_i hseen
        refine iff_of_false (by rintro ⟨⟩) fun h => ?_
        have hknown := h known hknown
        rw [valuesAt_cons_self, accepts_cons] at hknown
        exact hknown.1 (List.contains_iff_mem.1 hseen)
      rename_i hunseen
      split
      · rename_i hfault
        refine iff_of_false (by rintro ⟨⟩) fun h => ?_
        have hknown := h known hknown
        rw [valuesAt_cons_self, accepts_cons] at hknown
        cases hknown.2.1.symm.trans hfault
      · -- a field that is given: from here on it has been seen, and the others are as before
        rename_i hcheck
        rw [ih]
        refine forall₂_congr fun field hfield => ?_
        by_cases hkey : field.key = known.key
        · obtain rfl : field = known := by
            rw [hkey, hknown] at hfield
            exact (Option.some.inj hfield).symm
          have hfresh : field.key ∉ seen := mt List.contains_iff_mem.2 hunseen
          rw [valuesAt_cons_self, accepts_cons, accepts_of_mem List.mem_cons_self]
          exact ⟨fun hnone => ⟨hfresh, hcheck, hnone⟩, fun h => h.2.2⟩
        · rw [valuesAt_cons_of_ne (Ne.symm hkey), Accepts, Accepts, List.mem_cons, not_or]
          simp only [hkey, not_false_iff, true_and]

/-- Nothing is missing where the fields that must be there are given. -/
theorem checkMissing_eq_ok : checkMissing members fields = .ok () ↔
    ∀ field ∈ fields, field.required = true → valuesAt field.key members ≠ [] := by
  induction fields with
  | nil => exact iff_of_true rfl nofun
  | cons field fields ih =>
    have hgiven : (Json.lookup field.key members).isNone = true ↔
        valuesAt field.key members = [] := by
      rw [lookup_eq_head?, Option.isNone_iff_eq_none, List.head?_eq_none_iff]
    rw [checkMissing, List.forall_mem_cons, ← ih]
    split
    · rename_i hmissing
      obtain ⟨hrequired, hnone⟩ := Bool.and_eq_true_iff.1 hmissing
      exact iff_of_false (by rintro ⟨⟩) fun h => h.1 hrequired (hgiven.1 hnone)
    · rename_i hfound
      have hfield : field.required = true → valuesAt field.key members ≠ [] :=
        fun hrequired hnone => hfound (Bool.and_eq_true_iff.2 ⟨hrequired, hgiven.2 hnone⟩)
      exact ⟨fun h => ⟨hfield, h⟩, fun h => h.2⟩

/-! ## Objects and arrays -/

/-- What a field takes: one value that passes its check, or none if it may be
left out. -/
inductive Takes (field : Field) : List Json → Prop
  | absent (h : field.required = false) : Takes field []
  | once {value : Json} (h : field.check value = .ok ()) : Takes field [value]

theorem takes_iff : Takes field values ↔
    Accepts [] field values ∧ (field.required = true → values ≠ []) := by
  constructor
  · intro h
    cases h with
    | absent hfield => exact ⟨.inl rfl, fun h => absurd (hfield.symm.trans h) Bool.false_ne_true⟩
    | once hcheck => exact ⟨.inr ⟨_, rfl, List.not_mem_nil, hcheck⟩, fun _ => List.cons_ne_nil _ _⟩
  · rintro ⟨rfl | ⟨value, rfl, -, hcheck⟩, hrequired⟩
    · exact .absent (Bool.eq_false_iff.2 fun h => hrequired h rfl)
    · exact .once hcheck

/-- The members that a value has as a record: an object its own, an array that
is not too long its items under the keys of the fields. -/
inductive Provides (keys : List String) : Json → List (String × Json) → Prop
  | object (members : List (String × Json)) : Provides keys (.obj members) members
  | array {items : List Json} (h : items.length ≤ keys.length) :
      Provides keys (.arr items) (keys.zip items)

/-- Members pass and none is missing where each field takes what is under its
key. -/
theorem takes_members_iff (hkeys : (fields.map Field.key).Nodup) :
    (∀ field ∈ fields, Takes field (valuesAt field.key members)) ↔
      checkMembers fields [] members = .ok () ∧ checkMissing members fields = .ok () := by
  have hfind : ∀ field, fields.find? (·.key = field.key) = some field ↔ field ∈ fields := by
    intro field
    refine ⟨List.mem_of_find?_eq_some, fun hfield => ?_⟩
    cases hfound : fields.find? (·.key = field.key) with
    | none => exact absurd (List.find?_eq_none.1 hfound field hfield) (by simp)
    | some other =>
      have hkey : other.key = field.key := by simpa using List.find?_some hfound
      rw [List.inj_on_of_nodup_map hkeys (List.mem_of_find?_eq_some hfound) hfield hkey]
  simp only [checkMembers_eq_ok, checkMissing_eq_ok, hfind, takes_iff]
  exact ⟨fun h => ⟨fun field hfield => (h field hfield).1, fun field hfield => (h field hfield).2⟩,
    fun h field hfield => ⟨h.1 field hfield, h.2 field hfield⟩⟩

theorem valuesAt_zip_of_not_mem {keys : List String} (h : key ∉ keys) (items : List Json) :
    valuesAt key (keys.zip items) = [] := by
  refine List.map_eq_nil_iff.2 (List.filter_eq_nil_iff.2 fun member hmember => ?_)
  have hkey : member.1 ∈ keys := (List.of_mem_zip hmember).1
  have hne : member.1 ≠ key := fun heq => h (heq ▸ hkey)
  simpa using hne

/-- **An array is accepted** as the fields in their order, where it is not too
long and each field takes the item at its place. -/
theorem fromItems_eq_ok (hkeys : (fields.map Field.key).Nodup) (total done : Nat)
    (few many : String) {items : List Json} :
    fromItems total few many done fields items = .ok members ↔
      items.length ≤ (fields.map Field.key).length ∧
        (fields.map Field.key).zip items = members ∧
        ∀ field ∈ fields, Takes field (valuesAt field.key members) := by
  induction fields generalizing items done members with
  | nil =>
    cases items with
    | nil => simp [fromItems]
    | cons value items => simp [fromItems]
  | cons field fields ih =>
    obtain ⟨hfresh, hrest⟩ := List.nodup_cons.1 hkeys
    cases items with
    | nil =>
      rw [fromItems]
      split
      · rename_i hrequired
        refine iff_of_false (by rintro ⟨⟩) ?_
        rintro ⟨-, rfl, htakes⟩
        exact (takes_iff.1 (htakes field List.mem_cons_self)).2 hrequired rfl
      · rename_i hoptional
        rw [ih hrest, List.zip_nil_right, List.zip_nil_right, List.forall_mem_cons]
        constructor
        · rintro ⟨-, rfl, htakes⟩
          exact ⟨Nat.zero_le _, rfl, .absent (Bool.eq_false_iff.2 hoptional), htakes⟩
        · rintro ⟨-, rfl, -, htakes⟩
          exact ⟨Nat.zero_le _, rfl, htakes⟩
    | cons value items =>
      -- the first item is the only one under the first key, and under no other
      have hfirst : valuesAt field.key
          ((field.key, value) :: (fields.map Field.key).zip items) = [value] := by
        rw [valuesAt_cons_self, valuesAt_zip_of_not_mem hfresh]
      have hothers : ∀ other ∈ fields, valuesAt other.key
          ((field.key, value) :: (fields.map Field.key).zip items) =
            valuesAt other.key ((fields.map Field.key).zip items) := fun other hother =>
        valuesAt_cons_of_ne (fun heq => hfresh (List.mem_map.2 ⟨other, hother, heq.symm⟩)) _ _
      rw [fromItems, List.map_cons, List.zip_cons_cons, List.length_cons, List.length_cons,
        List.forall_mem_cons, Nat.succ_le_succ_iff]
      split
      · rename_i hfault
        refine iff_of_false (by rintro ⟨⟩) ?_
        rintro ⟨-, rfl, htakes, -⟩
        rw [hfirst] at htakes
        cases htakes with
        | once hcheck => cases hcheck.symm.trans hfault
      · rename_i hcheck
        constructor
        · intro hfound
          cases hitems : fromItems total few many (done + 1) fields items with
          | error e => rw [hitems] at hfound; cases hfound
          | ok found =>
            rw [hitems] at hfound
            obtain rfl := Except.ok.inj hfound
            obtain ⟨hlength, rfl, htakes⟩ := (ih hrest _).1 hitems
            refine ⟨hlength, rfl, by rw [hfirst]; exact .once hcheck, fun other hother => ?_⟩
            rw [hothers other hother]
            exact htakes other hother
        · rintro ⟨hlength, rfl, -, htakes⟩
          have hitems := (ih hrest (done + 1)).2
            ⟨hlength, rfl, fun other hother => hothers other hother ▸ htakes other hother⟩
          rw [hitems]
          rfl

/-- **A value is accepted as a record** where it has members and each field
takes those under its key. -/
theorem record_eq_ok (hkeys : (fields.map Field.key).Nodup) (name : String) {j : Json} :
    record name fields j = .ok members ↔
      Provides (fields.map Field.key) j members ∧
        ∀ field ∈ fields, Takes field (valuesAt field.key members) := by
  cases j with
  | obj given =>
    have hrecord : record name fields (.obj given) = .ok members ↔
        (checkMembers fields [] given = .ok () ∧ checkMissing given fields = .ok ()) ∧
          given = members := by
      rw [record]
      cases checkMembers fields [] given with
      | error e => exact iff_of_false (by rintro ⟨⟩) (by rintro ⟨⟨⟨⟩, _⟩, _⟩)
      | ok u =>
        cases checkMissing given fields with
        | error e => exact iff_of_false (by rintro ⟨⟩) (by rintro ⟨⟨_, ⟨⟩⟩, _⟩)
        | ok u => exact ⟨fun h => ⟨⟨rfl, rfl⟩, Except.ok.inj h⟩, fun h => congrArg Except.ok h.2⟩
    rw [hrecord, ← takes_members_iff hkeys]
    constructor
    · rintro ⟨htakes, rfl⟩
      exact ⟨.object given, htakes⟩
    · rintro ⟨⟨⟩, htakes⟩
      exact ⟨htakes, rfl⟩
  | arr items =>
    rw [record, fromItems_eq_ok hkeys]
    constructor
    · rintro ⟨hfew, rfl, htakes⟩
      exact ⟨.array hfew, htakes⟩
    · rintro ⟨⟨⟩ | ⟨hfew⟩, htakes⟩
      exact ⟨hfew, rfl, htakes⟩
  | null | bool | num | str => exact iff_of_false (by rintro ⟨⟩) (by rintro ⟨⟨⟩, _⟩)

/-! ## Fields -/

/-- What a field that must be there gives: what its only value stands for. -/
inductive Sole (denotes : β → α → Prop) : List β → α → Prop
  | once {b : β} {a : α} (h : denotes b a) : Sole denotes [b] a

/-- A value is read as something. -/
abbrev Reads (decode : Json → Decoded α) (value : Json) (a : α) : Prop := decode value = .ok a

/-- A field passes its check where it can be read. -/
theorem check_iff : (decode value).map (fun _ => ()) = .ok () ↔ ∃ a, decode value = .ok a := by
  cases decode value with
  | error e => exact iff_of_false (by rintro ⟨⟩) (by rintro ⟨_, ⟨⟩⟩)
  | ok a => exact iff_of_true rfl ⟨a, rfl⟩

theorem Sole.takes (h : Sole (Reads decode) values a) : Takes (.needed key decode) values := by
  cases h with
  | once hvalue => exact .once (check_iff.2 ⟨a, hvalue⟩)

theorem Given.takes (h : Given (Reads decode) default values a) :
    Takes (.optional key decode) values := by
  cases h with
  | absent => exact .absent rfl
  | once hvalue => exact .once (check_iff.2 ⟨a, hvalue⟩)

/-- **The value of a field that must be there**, among members that are
accepted. -/
theorem Takes.field_iff (h : Takes (.needed key decode) (valuesAt key members)) :
    Wire.field members key decode = .ok a ↔ Sole (Reads decode) (valuesAt key members) a := by
  rw [Wire.field, lookup_eq_head?]
  generalize valuesAt key members = values at h
  cases h with
  | absent hrequired => cases hrequired
  | once hcheck => exact ⟨fun hvalue => .once hvalue, fun hsole => by cases hsole; assumption⟩

/-- **The value of a field that may be left out**, among members that are
accepted. -/
theorem Takes.fieldOr_iff (h : Takes (.optional key decode) (valuesAt key members)) :
    fieldOr members key decode default = .ok a ↔
      Given (Reads decode) default (valuesAt key members) a := by
  rw [fieldOr, lookup_eq_head?]
  generalize valuesAt key members = values at h
  cases h with
  | absent hrequired =>
    rw [given_nil]
    exact ⟨fun hdefault => (Except.ok.inj hdefault).symm, fun ha => ha ▸ rfl⟩
  | once hcheck => exact ⟨fun hvalue => .once hvalue, fun hgiven => by cases hgiven; assumption⟩

/-- What takes the values under its key has a value. -/
theorem Takes.exists_field (h : Takes (.needed key decode) (valuesAt key members)) :
    ∃ a, Wire.field members key decode = .ok a := by
  rw [Wire.field, lookup_eq_head?]
  generalize valuesAt key members = values at h
  cases h with
  | absent hrequired => cases hrequired
  | once hcheck => exact check_iff.1 hcheck

theorem Takes.exists_fieldOr (h : Takes (.optional key decode) (valuesAt key members))
    (default : α) : ∃ a, fieldOr members key decode default = .ok a := by
  rw [fieldOr, lookup_eq_head?]
  generalize valuesAt key members = values at h
  cases h with
  | absent => exact ⟨default, rfl⟩
  | once hcheck => exact check_iff.1 hcheck

/-! ## Field by field -/

section

variable {γ : Type} {rest : List Field} {name : String} {c : γ}

/-- **What is read of a record** is what is read of its members, where each
field takes those under its key. -/
theorem record_then (hkeys : (fields.map Field.key).Nodup)
    {read : List (String × Json) → Decoded γ} {j : Json} :
    (record name fields j >>= read) = .ok c ↔
      ∃ members, Provides (fields.map Field.key) j members ∧
        (∀ field ∈ fields, Takes field (valuesAt field.key members)) ∧ read members = .ok c := by
  simp only [bind_eq_ok, record_eq_ok hkeys, and_assoc]

/-- First a field that must be there, then the rest. -/
theorem needed_then {read : α → Decoded γ} :
    (∀ field ∈ .needed key decode :: rest, Takes field (valuesAt field.key members)) ∧
        (Wire.field members key decode >>= read) = .ok c ↔
      ∃ a, Sole (Reads decode) (valuesAt key members) a ∧
        (∀ field ∈ rest, Takes field (valuesAt field.key members)) ∧ read a = .ok c := by
  rw [List.forall_mem_cons, bind_eq_ok]
  constructor
  · rintro ⟨⟨hfirst, hrest⟩, a, ha, hc⟩
    exact ⟨a, hfirst.field_iff.1 ha, hrest, hc⟩
  · rintro ⟨a, ha, hrest, hc⟩
    exact ⟨⟨ha.takes, hrest⟩, a, ha.takes.field_iff.2 ha, hc⟩

/-- First a field that may be left out, then the rest. -/
theorem optional_then {read : α → Decoded γ} :
    (∀ field ∈ .optional key decode :: rest, Takes field (valuesAt field.key members)) ∧
        (fieldOr members key decode default >>= read) = .ok c ↔
      ∃ a, Given (Reads decode) default (valuesAt key members) a ∧
        (∀ field ∈ rest, Takes field (valuesAt field.key members)) ∧ read a = .ok c := by
  rw [List.forall_mem_cons, bind_eq_ok]
  constructor
  · rintro ⟨⟨hfirst, hrest⟩, a, ha, hc⟩
    exact ⟨a, hfirst.fieldOr_iff.1 ha, hrest, hc⟩
  · rintro ⟨a, ha, hrest, hc⟩
    exact ⟨⟨ha.takes, hrest⟩, a, ha.takes.fieldOr_iff.2 ha, hc⟩

/-- And at last no field is left. -/
theorem nothing_then {b : γ} :
    (∀ field ∈ ([] : List Field), Takes field (valuesAt field.key members)) ∧
      (pure b : Decoded γ) = .ok c ↔ b = c :=
  (and_iff_right nofun).trans ⟨Except.ok.inj, congrArg _⟩

/-- **An object can be read** where each field takes what is under its key, if
the members of such an object can be read. -/
theorem exists_record_then (hkeys : (fields.map Field.key).Nodup)
    {read : List (String × Json) → Decoded γ}
    (hread : (∀ field ∈ fields, Takes field (valuesAt field.key members)) →
      ∃ c, read members = .ok c) :
    (∃ c, (record name fields (.obj members) >>= read) = .ok c) ↔
      ∀ field ∈ fields, Takes field (valuesAt field.key members) := by
  simp only [record_then hkeys]
  constructor
  · rintro ⟨_, _, ⟨⟩, htakes, -⟩
    exact htakes
  · intro htakes
    obtain ⟨c, hc⟩ := hread htakes
    exact ⟨c, members, .object members, htakes, hc⟩

theorem exists_needed_then {read : α → Decoded γ}
    (htakes : ∀ field ∈ .needed key decode :: rest, Takes field (valuesAt field.key members))
    (hread : ∀ a, (∀ field ∈ rest, Takes field (valuesAt field.key members)) →
      ∃ c, read a = .ok c) :
    ∃ c, (Wire.field members key decode >>= read) = .ok c := by
  obtain ⟨hfirst, hrest⟩ := List.forall_mem_cons.1 htakes
  obtain ⟨a, ha⟩ := hfirst.exists_field
  obtain ⟨c, hc⟩ := hread a hrest
  exact ⟨c, bind_eq_ok.2 ⟨a, ha, hc⟩⟩

theorem exists_optional_then {read : α → Decoded γ}
    (htakes : ∀ field ∈ .optional key decode :: rest, Takes field (valuesAt field.key members))
    (hread : ∀ a, (∀ field ∈ rest, Takes field (valuesAt field.key members)) →
      ∃ c, read a = .ok c) :
    ∃ c, (fieldOr members key decode default >>= read) = .ok c := by
  obtain ⟨hfirst, hrest⟩ := List.forall_mem_cons.1 htakes
  obtain ⟨a, ha⟩ := hfirst.exists_fieldOr default
  obtain ⟨c, hc⟩ := hread a hrest
  exact ⟨c, bind_eq_ok.2 ⟨a, ha, hc⟩⟩

end

end Wire

end Amanuensis
