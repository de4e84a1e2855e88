import Amanuensis.Proofs.Text.Letter
/-!
# Places in bytes

A text may be cut at a number of bytes, but not inside a character. `cut?`
cuts where a character begins or the text ends, and nowhere else
(`cut?_eq_some_iff`); the place at which a class of characters ends is always
such a place (`cut?_endOf`). ASCII letters take one byte in either case
(`byteSize_map_lowerAscii`).
-/


namespace Amanuensis

namespace Text

variable {n : Nat} {s t a b : List Char}

/-- The number of bytes of a text. -/
def byteSize (s : List Char) : Nat := (String.ofList s).utf8ByteSize

/-- A text cut after some bytes, if that is not inside a character and not
beyond the end. -/
def cut? : (n : Nat) → (s : List Char) → Option (List Char × List Char)
  | 0, s => some ([], s)
  | _ + 1, [] => none
  | n + 1, c :: s =>
    if c.utf8Size ≤ n + 1 then
      (cut? (n + 1 - c.utf8Size) s).map fun parts => (c :: parts.1, parts.2)
    else none

/-- Where the first characters of a class end: before the first character that
is not of the class, or else at the end of the text. -/
def endOf (p : Char → Bool) : List Char → Nat
  | [] => 0
  | c :: s => if p c then c.utf8Size + endOf p s else 0

@[simp] theorem byteSize_nil : byteSize [] = 0 := rfl

@[simp] theorem byteSize_cons (c : Char) (s : List Char) :
    byteSize (c :: s) = c.utf8Size + byteSize s := by
  have hcons : String.ofList (c :: s) = String.singleton c ++ String.ofList s := by
    rw [String.singleton_eq_ofList, ← String.ofList_append]
    rfl
  rw [byteSize, hcons, String.utf8ByteSize_append, String.utf8ByteSize_singleton]
  rfl

/-- **A text is cut where the bytes of a leading part of it end.** -/
theorem cut?_eq_some_iff : cut? n s = some (a, b) ↔ s = a ++ b ∧ byteSize a = n := by
  fun_induction cut? n s generalizing a with
  | case1 s =>
    constructor
    · rintro ⟨⟩
      exact ⟨rfl, rfl⟩
    · rintro ⟨rfl, hsize⟩
      cases a with
      | nil => rfl
      | cons c a =>
        have hpos := c.utf8Size_pos
        rw [byteSize_cons] at hsize
        omega
  | case2 n =>
    refine iff_of_false nofun ?_
    rintro ⟨hnil, hsize⟩
    rw [(List.append_eq_nil_iff.1 hnil.symm).1] at hsize
    cases hsize
  | case3 n c s hle ih =>
    rw [Option.map_eq_some_iff]
    constructor
    · rintro ⟨⟨a, b⟩, hcut, ⟨⟩⟩
      obtain ⟨rfl, hsize⟩ := ih.1 hcut
      refine ⟨rfl, ?_⟩
      rw [byteSize_cons, hsize]
      omega
    · rintro ⟨hs, hsize⟩
      cases a with
      | nil => cases hsize
      | cons d a =>
        obtain ⟨rfl, rfl⟩ := List.cons.inj hs
        rw [byteSize_cons] at hsize
        exact ⟨(a, b), ih.2 ⟨rfl, by omega⟩, rfl⟩
  | case4 n c s hlt =>
    refine iff_of_false nofun ?_
    rintro ⟨hs, hsize⟩
    cases a with
    | nil => cases hsize
    | cons d a =>
      obtain ⟨rfl, -⟩ := List.cons.inj hs
      rw [byteSize_cons] at hsize
      omega

/-- The first characters of a class end after their bytes. -/
theorem endOf_eq (p : Char → Bool) (s : List Char) : endOf p s = byteSize (s.takeWhile p) := by
  induction s with
  | nil => rfl
  | cons c s ih =>
    rw [endOf, List.takeWhile_cons]
    split
    · rw [byteSize_cons, ih]
    · rfl

/-- **And there the text can be cut.** -/
theorem cut?_endOf (p : Char → Bool) (s : List Char) :
    cut? (endOf p s) s = some (s.takeWhile p, s.dropWhile p) :=
  cut?_eq_some_iff.2 ⟨List.takeWhile_append_dropWhile.symm, (endOf_eq p s).symm⟩

/-! ## ASCII letters -/

theorem utf8Size_lowerAscii (c : Char) : (lowerAscii c).utf8Size = c.utf8Size := by
  by_cases h : 'A' ≤ c ∧ c ≤ 'Z'
  · obtain ⟨hrange, hlower⟩ := lowerAscii_of_capital h
    have hsizes : ∀ n ∈ List.range' 65 26,
        (Char.ofNat (n + 32)).utf8Size = (Char.ofNat n).utf8Size := by
      decide
    have hsize := hsizes _ hrange
    rwa [← hlower, Char.ofNat_toNat] at hsize
  · rw [lowerAscii, if_neg h]

theorem byteSize_map_lowerAscii (s : List Char) : byteSize (s.map lowerAscii) = byteSize s := by
  induction s with
  | nil => rfl
  | cons c s ih => rw [List.map_cons, byteSize_cons, byteSize_cons, utf8Size_lowerAscii, ih]

end Text

end Amanuensis
