import Amanuensis.Proofs.Wire.Record
import Mathlib.Data.List.Forall2
/-!
# Values that are read

What a value must be to be read as a text, a text or null, a list or a name,
and what it is read as. A name is given as itself unless the value is an
object (`named_eq_ok`), and a list is read item by item (`reads_list`).
-/


namespace Amanuensis

namespace Wire

variable {α : Type} {decode : Json → Decoded α} {j : Json}

/-- Reading is known by what each value is read as. -/
theorem reads_eq {denotes : Json → α → Prop} (h : ∀ j a, decode j = .ok a ↔ denotes j a) :
    Reads decode = denotes :=
  funext₂ fun j a => propext (h j a)

theorem string_eq_ok {s : String} : string j = .ok s ↔ j = .str s := by
  cases j with
  | str t => exact ⟨fun h => congrArg _ (Except.ok.inj h), fun h => congrArg _ (Json.str.inj h)⟩
  | null | bool | num | arr | obj => exact iff_of_false (by rintro ⟨⟩) (by rintro ⟨⟩)

theorem reads_string : Reads string = fun j s => j = .str s := reads_eq fun _ _ => string_eq_ok

/-- A text that must be there is the only value. -/
theorem sole_string {values : List Json} {s : String} :
    Sole (Reads string) values s ↔ values = [.str s] := by
  constructor
  · rintro ⟨hvalue⟩
    rw [string_eq_ok.1 hvalue]
  · rintro rfl
    exact .once rfl

theorem nullable_eq_ok {a : Option α} :
    nullable decode j = .ok a ↔
      j = .null ∧ a = none ∨ ∃ b, j ≠ .null ∧ decode j = .ok b ∧ a = some b := by
  by_cases hnull : j = .null
  · subst hnull
    constructor
    · intro h
      exact .inl ⟨rfl, (Except.ok.inj h).symm⟩
    · rintro (⟨-, rfl⟩ | ⟨b, hnull, -⟩)
      · rfl
      · exact absurd rfl hnull
  · have hvalue : nullable decode j = (decode j).map some := by
      cases j with
      | null => exact absurd rfl hnull
      | bool | num | str | arr | obj => rfl
    rw [hvalue]
    cases decode j with
    | error e => simp [Except.map, hnull]
    | ok b => simp [Except.map, hnull, eq_comm]

/-- What a text stands for, and nothing for null. -/
inductive TextOrNull (f : String → α) : Json → Option α → Prop
  | null : TextOrNull f .null none
  | text (s : String) : TextOrNull f (.str s) (some (f s))

/-- **A value that may be null is read** as what its text stands for. -/
theorem textOrNull_iff {f : String → α}
    (hdecode : ∀ j b, decode j = .ok b ↔ ∃ s, j = .str s ∧ f s = b) {a : Option α} :
    nullable decode j = .ok a ↔ TextOrNull f j a := by
  rw [nullable_eq_ok]
  constructor
  · rintro (⟨rfl, rfl⟩ | ⟨b, -, hb, rfl⟩)
    · exact .null
    · obtain ⟨s, rfl, rfl⟩ := (hdecode _ _).1 hb
      exact .text s
  · intro h
    cases h with
    | null => exact .inl ⟨rfl, rfl⟩
    | text s => exact .inr ⟨_, nofun, (hdecode _ _).2 ⟨s, rfl, rfl⟩, rfl⟩

/-- A text that may be null, as it is. -/
theorem reads_nullable_string : Reads (nullable string) = TextOrNull id :=
  reads_eq fun _ _ => textOrNull_iff fun j b => by
    rw [string_eq_ok]
    exact ⟨fun h => ⟨b, h, rfl⟩, fun ⟨s, hs, hb⟩ => hs.trans (congrArg _ hb)⟩

/-- A text that is left out if there is none is what it was. -/
theorem given_text (t : Option String) :
    Given (TextOrNull id) none (t.map Json.str).toList t := by
  cases t with
  | none => exact .absent
  | some s => exact .once (.text s)

/-! ## Lists -/

/-- The items of a list, each for itself. -/
inductive ListOf (denotes : Json → α → Prop) : Json → List α → Prop
  | items {items : List Json} {as : List α} (h : List.Forall₂ denotes items as) :
      ListOf denotes (.arr items) as

/-- Whatever stands in a list that is given was an item. -/
theorem exists_of_mem {denotes : Json → α → Prop} {values : List Json} {as : List α} {a : α}
    (h : Given (ListOf denotes) [] values as) (ha : a ∈ as) : ∃ j, denotes j a := by
  cases h with
  | absent => cases ha
  | once hlist =>
    obtain ⟨hitems⟩ := hlist
    induction hitems with
    | nil => cases ha
    | cons hfirst _ ih =>
      rcases List.mem_cons.1 ha with rfl | hlater
      · exact ⟨_, hfirst⟩
      · exact ih hlater

/-- A list whose items are what they are written as. -/
theorem listOf_map {denotes : Json → α → Prop} {encode : α → Json} {as : List α}
    (h : ∀ a ∈ as, denotes (encode a) a) : ListOf denotes (.arr (as.map encode)) as :=
  .items (List.forall₂_map_left_iff.2 (List.forall₂_same.2 h))

theorem each_eq_ok {items : List Json} {as : List α} :
    each decode items = .ok as ↔ List.Forall₂ (Reads decode) items as := by
  induction items generalizing as with
  | nil =>
    rw [each, List.forall₂_nil_left_iff, Except.ok.injEq]
    exact eq_comm
  | cons j items ih =>
    rw [each, List.forall₂_cons_left_iff]
    cases hj : decode j with
    | error e =>
      refine iff_of_false (by rintro ⟨⟩) ?_
      rintro ⟨a, _, ha, -⟩
      cases hj.symm.trans ha
    | ok a =>
      cases hitems : each decode items with
      | error e =>
        refine iff_of_false (by rintro ⟨⟩) ?_
        rintro ⟨_, as', -, has, -⟩
        cases hitems.symm.trans (ih.2 has)
      | ok as' =>
        constructor
        · intro h
          exact ⟨a, as', hj, ih.1 hitems, (Except.ok.inj h).symm⟩
        · rintro ⟨b, bs, hb, hbs, rfl⟩
          obtain rfl := Except.ok.inj (hj.symm.trans hb)
          obtain rfl := Except.ok.inj (hitems.symm.trans (ih.2 hbs))
          rfl

/-- **A list is read** where each of its items is. -/
theorem reads_list : Reads (list decode) = ListOf (Reads decode) := by
  refine reads_eq fun j as => ?_
  cases j with
  | arr items =>
    rw [list, each_eq_ok]
    exact ⟨.items, fun h => by cases h; assumption⟩
  | null | bool | num | str | obj => exact iff_of_false (by rintro ⟨⟩) (by rintro ⟨⟩)

/-! ## Names -/

/-- **A value that is no object is read as a name** where it is one. -/
theorem named_eq_ok {names : List (String × α)} (hj : ∀ members, j ≠ .obj members) {a : α} :
    named names j = .ok a ↔ ∃ s, j = .str s ∧ names.lookup s = some a := by
  cases j with
  | str s =>
    have hname : named names (.str s) = .ok a ↔ names.lookup s = some a := by
      simp only [named]
      cases names.lookup s with
      | none => exact iff_of_false (by rintro ⟨⟩) (by rintro ⟨⟩)
      | some b => rw [Except.ok.injEq, Option.some.injEq]
    rw [hname]
    exact ⟨fun h => ⟨s, rfl, h⟩, fun ⟨t, ht, h⟩ => Json.str.inj ht ▸ h⟩
  | obj members => exact absurd rfl (hj members)
  | null | bool | num | arr =>
    exact iff_of_false (by rintro ⟨⟩) (by rintro ⟨_, ⟨⟩, _⟩)

end Wire

end Amanuensis
