import Amanuensis.Text.Blank
import Mathlib.Data.List.DropRight
import Mathlib.Data.List.TakeWhile
/-!
# Trimmed texts

What trimming takes off is white space (`exists_trimStart`, `exists_trimEnd`),
what it leaves begins and ends in something else, and so trimming it again
changes nothing (`trim_eq_self`).
-/


namespace Amanuensis

namespace Text

variable {c : Char} {s t : List Char}

/-- A text with white space at neither end. -/
structure Trimmed (s : List Char) : Prop where
  start : ∀ c ∈ s.head?, isBlank c = false
  stop : ∀ c ∈ s.getLast?, isBlank c = false

theorem trimEnd_eq_nil_iff : trimEnd s = [] ↔ ∀ c ∈ s, isBlank c = true :=
  List.rdropWhile_eq_nil_iff

/-- Only white space is trimmed from the end. -/
theorem exists_trimEnd (s : List Char) :
    ∃ blanks, s = trimEnd s ++ blanks ∧ ∀ c ∈ blanks, isBlank c = true :=
  ⟨s.rtakeWhile isBlank, List.rdropWhile_append_rtakeWhile.symm,
    fun _ => List.mem_rtakeWhile_imp⟩

/-- Nor is anything else trimmed from the start. -/
theorem exists_trimStart (s : List Char) :
    ∃ blanks, s = blanks ++ trimStart s ∧ ∀ c ∈ blanks, isBlank c = true :=
  ⟨s.takeWhile isBlank, List.takeWhile_append_dropWhile.symm, fun _ => List.mem_takeWhile_imp⟩

/-- Nothing but white space is left behind leading white space if and only if
all is white space. -/
theorem forall_trimStart_iff (s : List Char) :
    (∀ c ∈ trimStart s, isBlank c = true) ↔ ∀ c ∈ s, isBlank c = true := by
  obtain ⟨blanks, hs, hblank⟩ := exists_trimStart s
  conv_rhs => rw [hs, List.forall_mem_append]
  exact (and_iff_right hblank).symm

/-- Nothing is left of a text that is trimmed if and only if it is white
space. -/
theorem trim_eq_nil_iff (s : List Char) : trim s = [] ↔ ∀ c ∈ s, isBlank c = true := by
  rw [trim, trimEnd_eq_nil_iff, forall_trimStart_iff]

/-- Characters at the end are dropped within the last part, if that does not
consist of them. -/
theorem dropEndWhile_append {p : Char → Bool} (h : dropEndWhile p t ≠ []) :
    dropEndWhile p (s ++ t) = s ++ dropEndWhile p t := by
  have hlast : t.reverse.dropWhile p ≠ [] := fun hnil =>
    h (by rw [dropEndWhile, hnil, List.reverse_nil])
  rw [dropEndWhile, dropEndWhile, List.reverse_append, List.dropWhile_append]
  rw [if_neg (by simpa using hlast), List.reverse_append, List.reverse_reverse]

/-- The end of a text is trimmed within its last part, if that is not all
white space. -/
theorem trimEnd_append (h : trimEnd t ≠ []) : trimEnd (s ++ t) = s ++ trimEnd t :=
  dropEndWhile_append h

theorem trimEnd_eq_self (h : ∀ c ∈ s.getLast?, isBlank c = false) : trimEnd s = s := by
  refine List.rdropWhile_eq_self_iff.2 fun hs => ?_
  rw [h _ (List.getLast?_eq_some_getLast hs)]
  exact Bool.false_ne_true

/-- White space at the end is trimmed. -/
theorem trimEnd_append_blanks (h : ∀ c ∈ t, isBlank c = true) : trimEnd (s ++ t) = trimEnd s := by
  have hreverse : ∀ c ∈ t.reverse, isBlank c = true := fun c hc => h c (List.mem_reverse.1 hc)
  rw [trimEnd, dropEndWhile, List.reverse_append, List.dropWhile_append_of_pos hreverse]
  rfl

theorem trimStart_eq_self (h : ∀ c ∈ s.head?, isBlank c = false) : trimStart s = s := by
  cases s with
  | nil => rfl
  | cons c s => simp [trimStart, h c rfl]

/-- **A trimmed text** is left as it is. -/
theorem trim_eq_self (h : Trimmed s) : trim s = s := by
  rw [trim, trimStart_eq_self h.start, trimEnd_eq_self h.stop]

theorem getLast?_trimEnd (s : List Char) : ∀ c ∈ (trimEnd s).getLast?, isBlank c = false := by
  intro c hc
  have hne : trimEnd s ≠ [] := by
    intro hnil
    rw [hnil] at hc
    cases hc
  have hlast : isBlank ((trimEnd s).getLast hne) ≠ true := List.rdropWhile_last_not _ _ hne
  have hc' : (trimEnd s).getLast hne = c := by
    rw [List.getLast?_eq_some_getLast hne] at hc
    exact Option.some.inj hc
  rw [hc'] at hlast
  exact Bool.not_eq_true _ ▸ hlast

/-- Nothing at the front is lost when the end is trimmed, unless all is. -/
theorem head?_trimEnd (h : ∀ c ∈ s.head?, isBlank c = false) :
    ∀ c ∈ (trimEnd s).head?, isBlank c = false := by
  intro c hc
  obtain ⟨blanks, hs, -⟩ := exists_trimEnd s
  refine h c ?_
  rw [hs]
  exact List.mem_head?_append_of_mem_head? hc

theorem trimEnd_trimmed (h : ∀ c ∈ s.head?, isBlank c = false) : Trimmed (trimEnd s) :=
  ⟨head?_trimEnd h, getLast?_trimEnd s⟩

theorem trim_trimmed (s : List Char) : Trimmed (trim s) := by
  refine trimEnd_trimmed fun c hc => ?_
  have hhead := List.head?_dropWhile_not isBlank s
  rw [trimStart, Option.mem_def] at hc
  simpa [hc] using hhead

end Text

end Amanuensis
