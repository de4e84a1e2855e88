import Amanuensis.Proofs.Match.Trigger
import Amanuensis.Proofs.Text.Bytes
/-!
# Dropping a trigger loses nothing but the trigger

A phrase is dropped by the number of its bytes, from another text. This never
cuts inside a character (`stripAtBytes_eq`), since the characters that were
found equal up to the case of ASCII letters take as many bytes. What is dropped
is the phrase, an inflection and separators, each as long as it can be
(`Opening`), where these open the trimmed request and something is left beyond
them; nothing is dropped otherwise (`stripTrigger_iff`), and in either case
something is left of what is not blank (`stripTrigger_blank_iff`).
-/


namespace Amanuensis

namespace Match

open Text

variable {phrase input text head suffix separators left : List Char}

/-! ## Cuts at bytes -/

/-- Dropping the trigger, with every cut made at a number of bytes: the
opening of the request is as many bytes as the phrase has, and the word ends
where its bytes end. A cut inside the text that is not between two characters
has no result. -/
def stripAtBytes (phrase input : List Char) : Option (List Char) :=
  match cut? (byteSize phrase) (trimStart input) with
  | none => some (trim input)
  | some (head, _) =>
    if head.map lowerAscii = phrase.map lowerAscii then do
      let (_, after) ← cut? (byteSize phrase) (trimStart input)
      let (word, behind) ← cut? (endOf isAlphanumeric after) after
      if isInflection (lowercase word) then
        let rest := trimEnd (behind.dropWhile isSeparator)
        if rest.isEmpty then some (trim input) else some rest
      else some (trim input)
    else some (trim input)

/-- A text that opens with the phrase can be cut behind as many bytes as the
phrase has: the case of an ASCII letter takes none. -/
theorem cut?_opening (h : opensWith phrase text = true) :
    cut? (byteSize phrase) text = some (text.take phrase.length, text.drop phrase.length) := by
  have heq : (text.take phrase.length).map lowerAscii = phrase.map lowerAscii := by
    simpa [opensWith] using h
  have hsize : byteSize (text.take phrase.length) = byteSize phrase := by
    rw [← byteSize_map_lowerAscii, heq, byteSize_map_lowerAscii]
  exact cut?_eq_some_iff.2 ⟨(List.take_append_drop phrase.length text).symm, hsize⟩

/-- The characters that a text opens with are known by themselves. -/
theorem opensWith_append (h : head.map lowerAscii = phrase.map lowerAscii) (tail : List Char) :
    opensWith phrase (head ++ tail) = true := by
  have hlength : head.length = phrase.length := by
    simpa using congrArg List.length h
  rw [opensWith, ← hlength, List.take_left, h, beq_self_eq_true]

/-- **No cut falls inside a character**, and cutting at bytes drops what
dropping characters does. -/
theorem stripAtBytes_eq (phrase input : List Char) :
    stripAtBytes phrase input = some (stripTrigger phrase input) := by
  by_cases hopens : opensWith phrase (trimStart input) = true
  · have heq : ((trimStart input).take phrase.length).map lowerAscii = phrase.map lowerAscii := by
      simpa [opensWith] using hopens
    rw [stripAtBytes, stripTrigger, afterTrigger, cut?_opening hopens, if_pos hopens]
    simp only [heq, if_true, Option.bind_eq_bind, Option.bind_some, cut?_endOf]
    by_cases hinflection : isInflection (lowercase
        (((trimStart input).drop phrase.length).takeWhile isAlphanumeric)) = true
    · simp only [if_pos hinflection]
      split <;> rfl
    · simp only [if_neg hinflection]
  · have hkept : stripTrigger phrase input = trim input := by
      rw [stripTrigger_eq, if_neg fun h => hopens h.1]
    rw [hkept, stripAtBytes]
    split
    · rfl
    · rename_i head tail hcut
      refine if_neg fun heq => hopens ?_
      rw [(cut?_eq_some_iff.1 hcut).1]
      exact opensWith_append heq tail

/-! ## The parts of a request -/

/-- What a request consists of that opens with a trigger: the phrase up to the
case of ASCII letters, an inflection in as many letters and numbers as follow,
as many separators as follow, and what is left. -/
structure Opening (phrase head suffix separators left : List Char) : Prop where
  head : head.map lowerAscii = phrase.map lowerAscii
  alphanumeric : ∀ c ∈ suffix, isAlphanumeric c = true
  suffixEnds : BeginsApart isAlphanumeric (separators ++ left)
  inflection : lowercase suffix = [] ∨
    ∃ e ∈ ["s", "es", "d", "ed", "ing"], e.toList = lowercase suffix
  separating : ∀ c ∈ separators, isBlank c = true ∨ isPunctuation c = true
  separatorsEnd : BeginsApart (fun c => isBlank c || isPunctuation c) left
  left : left ≠ []

/-- The trimmed request opens with the phrase, and this is left behind it. -/
def Leaves (phrase input left : List Char) : Prop :=
  ∃ head suffix separators, trim input = head ++ (suffix ++ (separators ++ left)) ∧
    Opening phrase head suffix separators left

/-- The end of a trimmed text is not blank. -/
theorem trimEnd_left (h : Trimmed (head ++ left)) (hne : left ≠ []) : trimEnd left = left := by
  refine trimEnd_eq_self fun c hc => h.stop c ?_
  rw [List.getLast?_append_of_ne_nil head hne]
  exact hc

/-- The parts of an opening are what is read there: the phrase's length, then
the ending, and what is left when the separators are dropped. -/
theorem Opening.read (h : Opening phrase head suffix separators left) (tail : List Char) :
    opensWith phrase (head ++ (suffix ++ (separators ++ (left ++ tail)))) = true ∧
      ending phrase (head ++ (suffix ++ (separators ++ (left ++ tail)))) = suffix ∧
      remainder phrase (head ++ (suffix ++ (separators ++ (left ++ tail)))) =
        trimEnd (left ++ tail) := by
  have hlength : phrase.length = head.length := by
    simpa using (congrArg List.length h.head).symm
  have hapart : BeginsApart isAlphanumeric (separators ++ (left ++ tail)) := by
    rw [← List.append_assoc]
    exact h.suffixEnds.append (List.append_ne_nil_of_right_ne_nil separators h.left) tail
  have hapart' : BeginsApart isSeparator (left ++ tail) := h.separatorsEnd.append h.left tail
  have hseparators : ∀ c ∈ separators, isSeparator c = true := fun c hc =>
    Bool.or_eq_true_iff.2 (h.separating c hc)
  refine ⟨opensWith_append h.head _, ?_, ?_⟩
  · rw [ending, hlength, List.drop_left, hapart.takeWhile_append,
      List.takeWhile_eq_self_iff.2 h.alphanumeric]
  · rw [remainder, beyond, hlength, List.drop_left, hapart.dropWhile_append,
      List.dropWhile_eq_nil_iff.2 h.alphanumeric, List.nil_append, hapart'.dropWhile_append,
      List.dropWhile_eq_nil_iff.2 hseparators, List.nil_append]

/-- **What stands behind an opening is what is left.** -/
theorem Leaves.stripTrigger_eq (h : Leaves phrase input left) :
    stripTrigger phrase input = left := by
  obtain ⟨head, suffix, separators, htrim, hopening⟩ := h
  obtain ⟨blanks, hinput, hblank⟩ := exists_trimEnd (trimStart input)
  change trimStart input = trim input ++ blanks at hinput
  have hstart : trimStart input = head ++ (suffix ++ (separators ++ (left ++ blanks))) := by
    rw [hinput, htrim]
    simp only [List.append_assoc]
  have hleft : trimEnd (left ++ blanks) = left := by
    have htrimmed : Trimmed ((head ++ (suffix ++ separators)) ++ left) := by
      rw [List.append_assoc, List.append_assoc, ← htrim]
      exact trim_trimmed input
    rw [trimEnd_append_blanks hblank]
    exact trimEnd_left htrimmed hopening.left
  obtain ⟨hopens, hending, hremainder⟩ := hopening.read blanks
  rw [← hstart] at hopens hending hremainder
  rw [Match.stripTrigger_eq, hending, hremainder, hleft]
  exact if_pos ⟨hopens, isInflection_iff.2 hopening.inflection, hopening.left⟩

/-- **Where the trigger is dropped, the request falls into these parts.** -/
theorem leaves_remainder (hopens : opensWith phrase (trimStart input) = true)
    (hinflection : isInflection (lowercase (ending phrase (trimStart input))) = true)
    (hrest : remainder phrase (trimStart input) ≠ []) :
    Leaves phrase input (remainder phrase (trimStart input)) := by
  let separators := (beyond phrase (trimStart input)).takeWhile isSeparator
  obtain ⟨blanks, hblanks, -⟩ :=
    exists_trimEnd ((beyond phrase (trimStart input)).dropWhile isSeparator)
  change _ = remainder phrase (trimStart input) ++ blanks at hblanks
  have hbeyond : beyond phrase (trimStart input) =
      (separators ++ remainder phrase (trimStart input)) ++ blanks := by
    rw [List.append_assoc, ← hblanks]
    exact List.takeWhile_append_dropWhile.symm
  refine ⟨(trimStart input).take phrase.length, ending phrase (trimStart input), separators, ?_, ?_⟩
  · rw [trim_eq_append hrest, dropped, List.append_assoc, List.append_assoc]
  · have hseparating : ∀ c ∈ separators, isBlank c = true ∨ isPunctuation c = true := by
      intro c hc
      have hseparator : isSeparator c = true := List.mem_takeWhile_imp hc
      exact Bool.or_eq_true_iff.1 hseparator
    have hsuffix : BeginsApart isAlphanumeric (beyond phrase (trimStart input)) :=
      beginsApart_dropWhile _ _
    have hleft : BeginsApart isSeparator
        ((beyond phrase (trimStart input)).dropWhile isSeparator) := beginsApart_dropWhile _ _
    rw [hbeyond] at hsuffix
    rw [hblanks] at hleft
    exact ⟨by simpa [opensWith] using hopens, fun c hc => List.mem_takeWhile_imp hc,
      hsuffix.of_append, isInflection_iff.1 hinflection, hseparating, hleft.of_append, hrest⟩

/-- A request that does not fall into these parts is trimmed and kept. -/
theorem stripTrigger_eq_trim (h : ¬ ∃ left, Leaves phrase input left) :
    stripTrigger phrase input = trim input := by
  rw [stripTrigger_eq]
  exact if_neg fun hdrops => h ⟨_, leaves_remainder hdrops.1 hdrops.2.1 hdrops.2.2⟩

/-- What is returned is what stands behind the opening if there is one, and
the trimmed request otherwise. -/
theorem stripTrigger_iff (phrase input left : List Char) :
    stripTrigger phrase input = left ↔
      Leaves phrase input left ∨ left = trim input ∧ ¬ ∃ left, Leaves phrase input left := by
  by_cases hleaves : ∃ left, Leaves phrase input left
  · obtain ⟨behind, hbehind⟩ := hleaves
    rw [hbehind.stripTrigger_eq]
    constructor
    · rintro rfl
      exact .inl hbehind
    · rintro (h | ⟨-, hnone⟩)
      · exact hbehind.stripTrigger_eq.symm.trans h.stripTrigger_eq
      · exact absurd ⟨behind, hbehind⟩ hnone
  · rw [stripTrigger_eq_trim hleaves]
    constructor
    · rintro rfl
      exact .inr ⟨rfl, hleaves⟩
    · rintro (h | ⟨rfl, -⟩)
      · exact absurd ⟨left, h⟩ hleaves
      · rfl

/-- What is returned is the end of the trimmed request, and not empty unless
that is. -/
theorem exists_trim_eq_append (phrase input : List Char) :
    ∃ opening, trim input = opening ++ stripTrigger phrase input ∧
      (stripTrigger phrase input = [] → trim input = []) := by
  obtain ⟨head, suffix, separators, htrim, hopening⟩ | ⟨hkept, -⟩ :=
    (stripTrigger_iff phrase input _).1 rfl
  · refine ⟨head ++ (suffix ++ separators), ?_, fun hnil => absurd hnil hopening.left⟩
    rw [List.append_assoc, List.append_assoc]
    exact htrim
  · exact ⟨[], hkept.symm, fun hnil => hkept.symm.trans hnil⟩

/-- **Something that is not blank is left** of every request in which there is
something that is not blank. -/
theorem stripTrigger_blank_iff (phrase input : List Char) :
    (∀ c ∈ stripTrigger phrase input, isBlank c = true) ↔ ∀ c ∈ input, isBlank c = true := by
  obtain ⟨opening, htrim, hempty⟩ := exists_trim_eq_append phrase input
  have hself := trim_eq_self (stripTrigger_trimmed phrase input)
  rw [← trim_eq_nil_iff, ← trim_eq_nil_iff, hself]
  refine ⟨hempty, fun hnil => ?_⟩
  rw [hnil] at htrim
  exact (List.append_eq_nil_iff.1 htrim.symm).2

/-- **Nothing is lost but the trigger.** No cut falls inside a character, what
is left is blank only if all was, and it is what stands behind the phrase, an
inflection and separators, each as long as it can be, if the trimmed request
begins with them and goes on behind them. In every other case it is the
trimmed request. -/
theorem strip_loses_trigger (phrase input : List Char) :
    stripAtBytes phrase input = some (stripTrigger phrase input) ∧
      ((∃ c ∈ stripTrigger phrase input, isBlank c = false) ↔ ∃ c ∈ input, isBlank c = false) ∧
      ∀ left, stripTrigger phrase input = left ↔
        Leaves phrase input left ∨ left = trim input ∧ ¬ ∃ left, Leaves phrase input left := by
  refine ⟨stripAtBytes_eq phrase input, ?_, stripTrigger_iff phrase input⟩
  have hblank := not_congr (stripTrigger_blank_iff phrase input)
  simpa only [not_forall, exists_prop, Bool.not_eq_true] using hblank

/-- The byte in which the phrase ends is inside a character of the request. -/
example :
    cut? (byteSize "draw".toList) "dräw a cat".toList = some ("drä".toList, "w a cat".toList) ∧
    cut? (byteSize "sew".toList) "sé a hem".toList = some ("sé".toList, " a hem".toList) ∧
    cut? (byteSize "go".toList) "gé on".toList = none := by
  decide +kernel

end Match

end Amanuensis
