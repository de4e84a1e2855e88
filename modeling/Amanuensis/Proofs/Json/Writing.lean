import Amanuensis.Json.Writer
/-!
# Where written values end

A value that is written without blanks ends in a quote, a bracket, a letter or
a digit (`ended_compact`), so a point behind it does not belong to it.
-/


namespace Amanuensis

/-- A text that has an end, and not with a point. -/
def Text.Ended (s : String) : Prop := ∃ front c, s.toList = front ++ [c] ∧ c ≠ '.'

open Text (Ended)

/-- What follows a text ends the whole. -/
theorem Text.ended_append (s : String) {t : String} (h : Ended t) : Ended (s ++ t) := by
  obtain ⟨front, c, ht, hc⟩ := h
  exact ⟨s.toList ++ front, c, by rw [String.toList_append, ht, List.append_assoc], hc⟩

/-- Digits end like that, if there are any. -/
theorem Text.ended_digits {digits : List Char} (hne : digits ≠ [])
    (h : ∀ c ∈ digits, c.isDigit = true) : Ended (String.ofList digits) := by
  refine ⟨digits.dropLast, digits.getLast hne, ?_, ?_⟩
  · rw [String.toList_ofList, List.dropLast_concat_getLast]
  · intro hpoint
    have hdigit := h _ (List.getLast_mem hne)
    rw [hpoint] at hdigit
    exact absurd hdigit (by decide)

/-! ## Numbers -/

theorem digits_toString (n : Nat) :
    (toString n).toList ≠ [] ∧ ∀ c ∈ (toString n).toList, c.isDigit = true := by
  rw [Nat.toString_eq_repr, Nat.toList_repr]
  exact ⟨Nat.toDigits_ne_nil, fun c hc => Nat.isDigit_of_mem_toDigits (by decide) (by decide) hc⟩

theorem ended_nat (n : Nat) : Ended (toString n) := by
  obtain ⟨hne, hdigits⟩ := digits_toString n
  have hended := Text.ended_digits hne hdigits
  rwa [String.ofList_toList] at hended

theorem ended_int (n : Int) : Ended (toString n) := by
  cases n with
  | ofNat n => exact ended_nat n
  | negSucc n => exact Text.ended_append "-" (ended_nat (n + 1))

namespace Decimal

theorem ended_positional (d : Decimal) (h : d.exponent < 0) : Ended d.positional := by
  obtain ⟨hne, hdigits⟩ := digits_toString d.digits
  simp only [positional, if_neg (Int.not_le.2 h)]
  split
  · -- the point stands before the last digit
    refine Text.ended_append _
      (Text.ended_digits ?_ fun c hc => hdigits c (List.mem_of_mem_drop hc))
    rw [Ne, List.drop_eq_nil_iff, String.length_toList]
    omega
  · exact Text.ended_append _ (ended_nat d.digits)

theorem ended_scientific (d : Decimal) : Ended d.scientific := by
  have hexponent : Ended ((if 0 ≤ d.leading then "e+" else "e") ++ toString d.leading) :=
    Text.ended_append _ (ended_int d.leading)
  simp only [scientific]
  split
  · exact hexponent
  · exact Text.ended_append _ hexponent
  · exact Text.ended_append _ hexponent

end Decimal

theorem Binary64.ended_exponentText {x : Binary64} (h : x.isFinite = true) :
    Ended x.exponentText := by
  have hzero : Ended ".0" := ⟨['.'], '0', rfl, by decide⟩
  have hnumber : x.isNaN = false ∧ x.isInfinite = false := by
    simp only [isFinite, isNaN, isInfinite, decide_eq_true_eq, decide_eq_false_iff_not] at h ⊢
    omega
  simp only [exponentText, layout, hnumber.1, hnumber.2, Bool.false_eq_true, if_false]
  refine Text.ended_append _ ?_
  split
  · exact Text.ended_append "0" hzero
  · split
    · split
      · exact Text.ended_append _ hzero
      · exact Decimal.ended_positional _ (Int.not_le.1 ‹_›)
    · exact Decimal.ended_scientific _

namespace Json

theorem ended_quoted (s : String) : Ended (quoted s) :=
  ⟨_, '"', String.toList_ofList, by decide⟩

theorem ended_leafText (j : Json) : Ended j.leafText := by
  have hword : ∀ (front : List Char) (c : Char), c ≠ '.' → Ended (String.ofList (front ++ [c])) :=
    fun front c hc => ⟨front, c, String.toList_ofList, hc⟩
  unfold leafText
  split
  · exact hword ['t', 'r', 'u'] 'e' (by decide)
  · exact hword ['f', 'a', 'l', 's'] 'e' (by decide)
  · rename_i n
    cases n with
    | int n => exact ended_int n
    | float x =>
      rw [Number.text]
      split
      · exact Binary64.ended_exponentText ‹_›
      · exact hword ['n', 'u', 'l'] 'l' (by decide)
  · exact ended_quoted _
  · exact hword ['n', 'u', 'l'] 'l' (by decide)

/-- **A value that is written without blanks does not end with a point.** -/
theorem ended_compact (j : Json) : Ended j.compact := by
  have hbracket : Ended "]" := ⟨[], ']', rfl, by decide⟩
  have hbrace : Ended "\x7d" := ⟨[], '}', rfl, by decide⟩
  unfold compact
  split
  · exact Text.ended_append "[" hbracket
  · exact Text.ended_append _ hbracket
  · exact Text.ended_append "\x7b" hbrace
  · exact Text.ended_append _ hbrace
  · exact ended_leafText j

end Json

end Amanuensis
