import Amanuensis.Proofs.Text.Letter
import Mathlib.Data.List.TakeWhile
/-!
# The lower case of a part of a text

Lower case goes character by character, but for the capital sigma, which
looks at what stands on both sides of it. So a text is lowered part by part
within its surroundings (`lowercaseBetween_append`), and the surroundings
make no difference where no sigma looks out of the part
(`lowercaseBetween_before`, `lowercaseBetween_after`), nor where all that is
asked does not tell the two small sigmas apart
(`forall_lowercaseBetween`).
-/


namespace Amanuensis

namespace Text

variable {c d : Char} {s t before before' after after' : List Char}

/-- The small form of a character between the two parts of its text, the
first of them backwards. -/
def smallForm (before after : List Char) (c : Char) : List Char :=
  if c = 'Σ' then [lowerSigma before after]
  else if c = 'İ' then ['i', '\u0307']
  else [lowerChar c]

/-- The lower case of the middle of a text. -/
def lowercaseBetween (before after : List Char) : List Char → List Char
  | [] => []
  | c :: rest =>
    smallForm before (rest ++ after) c ++ lowercaseBetween (c :: before) after rest

/-- Is a capital sigma the first character that case does not look
through? -/
def opensInSigma (s : List Char) : Bool := (s.dropWhile isCaseIgnorable).head? == some 'Σ'

theorem lowercase_eq_between (s : List Char) : lowercase s = lowercaseBetween [] [] s := by
  have hafter : ∀ before, lowercaseAfter before s = lowercaseBetween before [] s := by
    induction s with
    | nil => exact fun _ => rfl
    | cons c s ih =>
      intro before
      rw [lowercaseAfter, lowercaseBetween, ih, List.append_nil]
      rfl
  exact hafter []

/-- **A text is lowered part by part**, each within its surroundings. -/
theorem lowercaseBetween_append (before after s t : List Char) :
    lowercaseBetween before after (s ++ t) =
      lowercaseBetween before (t ++ after) s ++ lowercaseBetween (s.reverse ++ before) after t := by
  induction s generalizing before with
  | nil => rfl
  | cons c s ih =>
    rw [List.cons_append, lowercaseBetween, lowercaseBetween, ih, List.append_assoc,
      List.append_assoc, List.reverse_cons, List.append_assoc, List.singleton_append]

/-! ## What a sigma sees -/

theorem meetsCased_cons (c : Char) (s : List Char) :
    meetsCased (c :: s) = if isCaseIgnorable c then meetsCased s else isCased c := by
  unfold meetsCased
  cases hc : isCaseIgnorable c <;> simp [hc]

theorem opensInSigma_cons (c : Char) (s : List Char) :
    opensInSigma (c :: s) = if isCaseIgnorable c then opensInSigma s else c == 'Σ' := by
  unfold opensInSigma
  cases hc : isCaseIgnorable c <;> simp [hc]

/-- Nothing beyond a part is met that holds more than what case looks
through. -/
theorem meetsCased_append (s t : List Char) :
    meetsCased (s ++ t) = if s.all isCaseIgnorable then meetsCased t else meetsCased s := by
  induction s with
  | nil => rfl
  | cons c s ih =>
    rw [List.cons_append, meetsCased_cons, meetsCased_cons, ih, List.all_cons]
    cases isCaseIgnorable c <;> simp

theorem opensInSigma_append (s t : List Char) :
    opensInSigma (s ++ t) = if s.all isCaseIgnorable then opensInSigma t else opensInSigma s := by
  induction s with
  | nil => rfl
  | cons c s ih =>
    rw [List.cons_append, opensInSigma_cons, opensInSigma_cons, ih, List.all_cons]
    cases isCaseIgnorable c <;> simp

theorem isCaseIgnorable_sigma : isCaseIgnorable 'Σ' = false := by decide

/-- Nothing that is looked through or ends in white space is cased. -/
theorem meetsCased_blanks (h : ∀ c ∈ s, isBlank c = true) : meetsCased s = false := by
  cases s with
  | nil => rfl
  | cons c s =>
    obtain ⟨-, hcased, hignored⟩ := isBlank_apart (h c List.mem_cons_self)
    rw [meetsCased_cons, hignored, hcased]
    rfl

/-! ## Surroundings that make no difference -/

theorem smallForm_congr (hbefore : meetsCased before = meetsCased before')
    (hafter : meetsCased after = meetsCased after') (c : Char) :
    smallForm before after c = smallForm before' after' c := by
  simp only [smallForm, lowerSigma, hbefore, hafter]

theorem smallForm_of_ne (h : c ≠ 'Σ') (before after : List Char) :
    smallForm before after c = smallForm [] [] c := by
  simp only [smallForm, if_neg h]

/-- What is before a part matters only to a sigma at its front. -/
theorem lowercaseBetween_before
    (h : opensInSigma s = false ∨ meetsCased before = meetsCased before') :
    lowercaseBetween before after s = lowercaseBetween before' after s := by
  induction s generalizing before before' with
  | nil => rfl
  | cons c s ih =>
    have hsmall : smallForm before (s ++ after) c = smallForm before' (s ++ after) c := by
      obtain h | h := h
      · by_cases hc : c = 'Σ'
        · rw [hc, opensInSigma_cons, isCaseIgnorable_sigma] at h
          simp at h
        · rw [smallForm_of_ne hc, smallForm_of_ne hc before']
      · exact smallForm_congr h rfl c
    rw [lowercaseBetween, lowercaseBetween, hsmall, ih]
    rw [meetsCased_cons, meetsCased_cons]
    rw [opensInSigma_cons] at h
    cases hc : isCaseIgnorable c with
    | true => simpa [hc] using h
    | false => exact .inr rfl

/-- What is after a part matters only to a sigma at its end. -/
theorem lowercaseBetween_after
    (h : opensInSigma s.reverse = false ∨ meetsCased after = meetsCased after') :
    lowercaseBetween before after s = lowercaseBetween before after' s := by
  induction s generalizing before with
  | nil => rfl
  | cons c s ih =>
    rw [List.reverse_cons, opensInSigma_append, List.all_reverse] at h
    have hsmall : smallForm before (s ++ after) c = smallForm before (s ++ after') c := by
      by_cases hc : c = 'Σ'
      · refine smallForm_congr rfl ?_ c
        rw [meetsCased_append, meetsCased_append]
        cases hall : s.all isCaseIgnorable with
        | false => rfl
        | true =>
          -- the sigma looks out of the part, so its surroundings are the same
          have hsigma : opensInSigma [c] = true := by
            rw [hc, opensInSigma_cons, isCaseIgnorable_sigma]
            rfl
          rw [if_pos rfl, if_pos rfl]
          exact h.resolve_left (by rw [hall, if_pos rfl, hsigma]; decide)
      · rw [smallForm_of_ne hc, smallForm_of_ne hc before]
    rw [lowercaseBetween, lowercaseBetween, hsmall, ih]
    refine h.imp_left fun hsigma => ?_
    cases hall : s.all isCaseIgnorable with
    | false => simpa [hall] using hsigma
    | true =>
      have hnone : s.reverse.dropWhile isCaseIgnorable = [] := by
        exact List.dropWhile_eq_nil_iff.2 (by simpa using hall)
      rw [opensInSigma, hnone]
      rfl

/-- **A part without a capital sigma** is lowered as it is by itself. -/
theorem lowercaseBetween_eq_lowercase (h : 'Σ' ∉ s) (before after : List Char) :
    lowercaseBetween before after s = lowercase s := by
  rw [lowercase_eq_between]
  suffices hany : ∀ before before' : List Char,
      lowercaseBetween before after s = lowercaseBetween before' [] s from hany _ _
  induction s with
  | nil => exact fun _ _ => rfl
  | cons c s ih =>
    intro before before'
    obtain ⟨hc, hs⟩ := not_or.1 (mt List.mem_cons.2 h)
    rw [lowercaseBetween, lowercaseBetween, smallForm_of_ne (Ne.symm hc),
      smallForm_of_ne (Ne.symm hc) before', ih hs]

/-! ## Both small sigmas -/

theorem forall_smallForm {P : Char → Prop} (hsigma : P 'σ' ↔ P 'ς')
    (before before' after after' : List Char) (c : Char) :
    (∀ d ∈ smallForm before after c, P d) ↔ ∀ d ∈ smallForm before' after' c, P d := by
  by_cases hc : c = 'Σ'
  · have heither : ∀ before after, (∀ d ∈ smallForm before after c, P d) ↔ P 'σ' := by
      intro before after
      rw [smallForm, if_pos hc, List.forall_mem_singleton, lowerSigma]
      split
      · exact hsigma.symm
      · exact Iff.rfl
    rw [heither, heither]
  · rw [smallForm_of_ne hc, smallForm_of_ne hc before']

/-- **What does not tell the two small sigmas apart** holds of a part within
one text if and only if it does within another. -/
theorem forall_lowercaseBetween {P : Char → Prop} (hsigma : P 'σ' ↔ P 'ς')
    (before before' after after' s : List Char) :
    (∀ c ∈ lowercaseBetween before after s, P c) ↔
      ∀ c ∈ lowercaseBetween before' after' s, P c := by
  induction s generalizing before before' with
  | nil => exact Iff.rfl
  | cons c s ih =>
    rw [lowercaseBetween, lowercaseBetween, List.forall_mem_append, List.forall_mem_append,
      forall_smallForm hsigma before before', ih (c :: before) (c :: before')]

/-! ## Characters that case does not change -/

theorem isAlphanumeric_special : isAlphanumeric 'Σ' = true ∧ isAlphanumeric 'İ' = true := by
  decide

theorem smallForm_eq_self (h : isAlphanumeric c = false) (before after : List Char) :
    smallForm before after c = [c] := by
  have hne : ∀ d, isAlphanumeric d = true → c ≠ d := by
    rintro d hd rfl
    exact absurd (h.symm.trans hd) (by decide)
  rw [smallForm, if_neg (hne _ isAlphanumeric_special.1), if_neg (hne _ isAlphanumeric_special.2),
    lowerChar_eq_self h]

/-- What is not alphanumeric is left as it is. -/
theorem lowercaseBetween_eq_self (h : ∀ c ∈ s, isAlphanumeric c = false)
    (before after : List Char) : lowercaseBetween before after s = s := by
  induction s generalizing before with
  | nil => rfl
  | cons c s ih =>
    rw [lowercaseBetween, smallForm_eq_self (h c List.mem_cons_self),
      ih fun d hd => h d (List.mem_cons_of_mem _ hd), List.singleton_append]

/-! ## ASCII capitals -/

theorem meetsCased_map_lowerAscii (s : List Char) :
    meetsCased (s.map lowerAscii) = meetsCased s := by
  induction s with
  | nil => rfl
  | cons c s ih =>
    obtain ⟨-, hcased, hignored, -⟩ := lowerAscii_alike c
    rw [List.map_cons, meetsCased_cons, meetsCased_cons, hcased, hignored, ih]

theorem smallForm_lowerAscii (before after : List Char) (c : Char) :
    smallForm before after (lowerAscii c) = smallForm before after c := by
  obtain ⟨hlower, -, -, hsigma, hdotted⟩ := lowerAscii_alike c
  simp only [smallForm, hlower, hsigma, hdotted]

/-- **ASCII capitals make no difference** in lower case. -/
theorem lowercaseBetween_map_lowerAscii (before after s : List Char) :
    lowercaseBetween before after (s.map lowerAscii) = lowercaseBetween before after s := by
  induction s generalizing before with
  | nil => rfl
  | cons c s ih =>
    obtain ⟨-, hcased, hignored, -⟩ := lowerAscii_alike c
    have hafter : meetsCased (s.map lowerAscii ++ after) = meetsCased (s ++ after) := by
      have hall : (s.map lowerAscii).all isCaseIgnorable = s.all isCaseIgnorable := by
        rw [List.all_map]
        exact congrArg (s.all ·) (funext fun d => (lowerAscii_alike d).2.2.1)
      rw [meetsCased_append, meetsCased_append, hall, meetsCased_map_lowerAscii]
    have hbefore : meetsCased (lowerAscii c :: before) = meetsCased (c :: before) := by
      rw [meetsCased_cons, meetsCased_cons, hcased, hignored]
    rw [List.map_cons, lowercaseBetween, lowercaseBetween, smallForm_lowerAscii,
      smallForm_congr rfl hafter c, ih, lowercaseBetween_before (.inr hbefore)]

end Text

end Amanuensis
