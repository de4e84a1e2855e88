import Amanuensis.Proofs.Match.Classes
import Amanuensis.Proofs.Text.Lowercase
import Amanuensis.Proofs.Text.Runs
import Amanuensis.Proofs.Text.Trim
import Amanuensis.Toolbox.Catalog
/-!
# Dropping a trigger, and matching it

A phrase is found in a request by its words, and dropped from it by its
characters. The two agree where the request opens with the characters of the
phrase and what the request adds to the last word are letters
(`OpensPlainly`): then the words of the request are those of the phrase, the
last one with the ending, and those of what stands beyond
(`OpensPlainly.exists_leading`), and the ending is an inflection if and only
if these words match (`OpensPlainly.leads_iff`). On any text with words, what is
left is trimmed and not empty (`stripTrigger_trimmed`, `stripTrigger_ne_nil`).
-/


namespace Amanuensis

namespace Text

variable {c : Char} {s t before after : List Char}

theorem isLetterOrNumber_sigmas : isLetterOrNumber 'σ' = true ↔ isLetterOrNumber 'ς' = true := by
  decide +kernel

/-- What begins apart from a word still does in lower case. -/
theorem beginsApart_lowercaseBetween (h : BeginsApart isAlphanumeric s)
    (before after : List Char) :
    BeginsApart isLetterOrNumber (lowercaseBetween before after s) := by
  cases s with
  | nil => exact beginsApart_nil
  | cons c s =>
    have hc : isAlphanumeric c = false := beginsApart_cons.1 h
    rw [lowercaseBetween, smallForm_eq_self hc, List.singleton_append, beginsApart_cons]
    exact isLetterOrNumber_eq_false hc

/-- The lower case of a text leaves a capital sigma in neither form. -/
theorem sigma_mem_lowercaseBetween (h : 'Σ' ∈ s) (before after : List Char) :
    'σ' ∈ lowercaseBetween before after s ∨ 'ς' ∈ lowercaseBetween before after s := by
  induction s generalizing before with
  | nil => cases h
  | cons c s ih =>
    rw [lowercaseBetween, List.mem_append, List.mem_append]
    obtain rfl | hs := List.mem_cons.1 h
    · rw [smallForm, if_pos rfl, lowerSigma]
      split
      · exact .inr (.inl (List.mem_singleton.2 rfl))
      · exact .inl (.inl (List.mem_singleton.2 rfl))
    · exact (ih hs (c :: before)).imp .inr .inr

theorem lowercaseBetween_ne_nil (h : s ≠ []) (before after : List Char) :
    lowercaseBetween before after s ≠ [] := by
  cases s with
  | nil => exact absurd rfl h
  | cons c s =>
    have hsmall : smallForm before (s ++ after) c ≠ [] := by
      unfold smallForm
      split
      · exact List.cons_ne_nil _ _
      · split <;> exact List.cons_ne_nil _ _
    exact fun hnil => hsmall (List.append_eq_nil_iff.1 hnil).1

end Text

namespace Match

open Text

variable {phrase text input s : List Char}

/-! ## White space around the words -/

theorem not_blank_of_letter {c : Char} (h : isBlank c = true) : isLetterOrNumber c = false :=
  isLetterOrNumber_eq_false (isBlank_apart h).1

/-- White space in front of a text adds no words and changes none. -/
theorem tokenize_trimStart (s : List Char) : tokenize (trimStart s) = tokenize s := by
  obtain ⟨blanks, hs, hblank⟩ := exists_trimStart s
  have hsmall : lowercaseBetween [] (trimStart s ++ []) blanks = blanks :=
    lowercaseBetween_eq_self (fun c hc => (isBlank_apart (hblank c hc)).1) _ _
  have hunseen : meetsCased (blanks.reverse ++ []) = meetsCased [] := by
    rw [List.append_nil]
    exact meetsCased_blanks fun c hc => hblank c (List.mem_reverse.1 hc)
  conv_rhs => rw [hs]
  rw [tokenize, tokenize, lowercase_eq_between, lowercase_eq_between, lowercaseBetween_append,
    hsmall, lowercaseBetween_before (.inr hunseen)]
  exact (runs_append_of_breaks fun c hc => not_blank_of_letter (hblank c hc)).symm

/-! ## The parts of an opening -/

/-- What the request adds to the phrase: the rest of the run of letters and
numbers in which the phrase ends. -/
def ending (phrase text : List Char) : List Char :=
  (text.drop phrase.length).takeWhile isAlphanumeric

/-- What stands beyond the phrase and the ending. -/
def beyond (phrase text : List Char) : List Char :=
  (text.drop phrase.length).dropWhile isAlphanumeric

theorem ending_append_beyond (phrase text : List Char) :
    ending phrase text ++ beyond phrase text = text.drop phrase.length :=
  List.takeWhile_append_dropWhile

theorem opening_append (phrase text : List Char) :
    text.take phrase.length ++ (ending phrase text ++ beyond phrase text) = text := by
  rw [ending_append_beyond, List.take_append_drop]

/-- The request opens with the characters of the phrase, and the words of both
go on alike: a capital sigma at the end of the phrase looks out on nothing
cased, and an ending is of letters and numbers, follows a letter or number,
and is no inflection of a word that is too short for one. -/
structure OpensPlainly (phrase text : List Char) : Prop where
  opens : opensWith phrase text = true
  sigma : opensInSigma phrase.reverse = false ∨ meetsCased (text.drop phrase.length) = false
  follows : ending phrase text ≠ [] →
    ∃ c ∈ (lowercase phrase).getLast?, isLetterOrNumber c = true
  letters : ∀ c ∈ lowercase (ending phrase text), isLetterOrNumber c = true
  long : ending phrase text ≠ [] → isInflection (lowercase (ending phrase text)) = true →
    ∀ word ∈ (tokenize phrase).getLast?, 3 ≤ word.length

/-- The lower case of what stands beyond, within the request. -/
def loweredBeyond (phrase text : List Char) : List Char :=
  lowercaseBetween ((ending phrase text).reverse ++ (text.take phrase.length).reverse) []
    (beyond phrase text)

/-- The lower case of the ending, within the request. -/
def loweredEnding (phrase text : List Char) : List Char :=
  lowercaseBetween (text.take phrase.length).reverse (beyond phrase text) (ending phrase text)

/-- A request is lowered part by part, and its opening is the phrase again. -/
theorem OpensPlainly.lowercase_eq (h : OpensPlainly phrase text) :
    lowercase text =
      lowercase phrase ++ (loweredEnding phrase text ++ loweredBeyond phrase text) := by
  have hopens : (text.take phrase.length).map lowerAscii = phrase.map lowerAscii := by
    simpa [opensWith] using h.opens
  have hphrase : ∀ after, lowercaseBetween [] after (text.take phrase.length) =
      lowercaseBetween [] after phrase := by
    intro after
    rw [← lowercaseBetween_map_lowerAscii, hopens, lowercaseBetween_map_lowerAscii]
  have hunseen : lowercaseBetween [] (text.drop phrase.length) phrase = lowercase phrase := by
    rw [lowercase_eq_between]
    exact lowercaseBetween_after h.sigma
  conv_lhs => rw [← opening_append phrase text]
  rw [lowercase_eq_between, lowercaseBetween_append, lowercaseBetween_append, hphrase,
    List.append_nil, ending_append_beyond, hunseen, List.append_nil, List.append_nil]
  rfl

theorem beginsApart_loweredBeyond (phrase text : List Char) :
    BeginsApart isLetterOrNumber (loweredBeyond phrase text) :=
  beginsApart_lowercaseBetween (beginsApart_dropWhile _ _) _ _

/-- An inflection is an inflection whatever stands around it. -/
theorem isInflection_loweredEnding (phrase text : List Char) :
    isInflection (loweredEnding phrase text) = isInflection (lowercase (ending phrase text)) := by
  have hplain : ∀ t, isInflection t = true → 'σ' ∉ t ∧ 'ς' ∉ t := by
    intro t ht
    obtain rfl | ⟨e, he, rfl⟩ := isInflection_iff.1 ht
    · exact ⟨List.not_mem_nil, List.not_mem_nil⟩
    · have hall : ∀ e ∈ ["s", "es", "d", "ed", "ing"], 'σ' ∉ e.toList ∧ 'ς' ∉ e.toList := by
        decide
      exact hall e he
  by_cases hsigma : 'Σ' ∈ ending phrase text
  · -- a small sigma is in both, and in no inflection
    have hneither : ∀ before after,
        isInflection (lowercaseBetween before after (ending phrase text)) = false := by
      intro before after
      refine Bool.eq_false_iff.2 fun hinfl => ?_
      obtain hmem | hmem := sigma_mem_lowercaseBetween hsigma before after
      · exact (hplain _ hinfl).1 hmem
      · exact (hplain _ hinfl).2 hmem
    rw [loweredEnding, lowercase_eq_between, hneither, hneither]
  · rw [loweredEnding, lowercaseBetween_eq_lowercase hsigma]

/-- A word with something added to it matches that word if and only if an
inflection is added and the word is long enough. -/
theorem wordMatches_append {v e : Token} (he : e ≠ []) :
    WordMatches (v ++ e) v ↔ 3 ≤ v.length ∧ isInflection e = true := by
  have hne : v ++ e ≠ v := fun h => he (List.append_right_eq_self.1 h)
  rw [isInflection_iff]
  constructor
  · rintro (h | ⟨hlong, w, hw, heq⟩)
    · exact absurd h hne
    · exact ⟨hlong, .inr ⟨w, hw, (List.append_cancel_left heq).symm⟩⟩
  · rintro ⟨hlong, h | ⟨w, hw, rfl⟩⟩
    · exact absurd h he
    · exact .inr ⟨hlong, w, hw, rfl⟩

/-- Only the last word of a phrase can fail to match itself with an
ending. -/
theorem forall₂_concat_iff {before : List Token} {v w : Token} :
    List.Forall₂ WordMatches (before ++ [w]) (before ++ [v]) ↔ WordMatches w v := by
  constructor
  · intro h
    have hlast := List.forall₂_drop_append _ _ _ h
    rw [List.drop_left] at hlast
    exact (List.forall₂_cons.1 hlast).1
  · intro h
    have hself : List.Forall₂ WordMatches before before := List.forall₂_same.2 fun _ _ => .inl rfl
    exact List.rel_append hself (.cons h .nil)

/-- **The words of an opening**: those of the phrase, of which the last takes
the ending, and those beyond. They match the phrase if and only if the ending
is an inflection. -/
theorem OpensPlainly.exists_leading (h : OpensPlainly phrase text) :
    ∃ words, tokenize text = words ++ runs isLetterOrNumber (loweredBeyond phrase text) ∧
      words.length = (tokenize phrase).length ∧
      (List.Forall₂ WordMatches words (tokenize phrase) ↔
        isInflection (lowercase (ending phrase text)) = true) := by
  have hapart := beginsApart_loweredBeyond phrase text
  rw [tokenize, h.lowercase_eq]
  by_cases hending : ending phrase text = []
  · refine ⟨tokenize phrase, ?_, rfl, ?_⟩
    · rw [loweredEnding, hending]
      exact runs_append hapart
    · rw [hending]
      exact iff_of_true (List.forall₂_same.2 fun _ _ => .inl rfl) rfl
  · obtain ⟨c, hc, hletter⟩ := h.follows hending
    have hlast : ∀ d ∈ (lowercase phrase).getLast?, isLetterOrNumber d = true := by
      intro d hd
      rw [Option.mem_unique hd hc]
      exact hletter
    have hne : lowercase phrase ≠ [] := by
      rintro hnil
      rw [hnil] at hc
      cases hc
    have hletters : ∀ c ∈ loweredEnding phrase text, isLetterOrNumber c = true := by
      rw [loweredEnding, forall_lowercaseBetween isLetterOrNumber_sigmas _ [] _ [],
        ← lowercase_eq_between]
      exact h.letters
    obtain ⟨before, v, hwords, happend⟩ := exists_runs_append hlast hne
    have hphrase : tokenize phrase = before ++ [v] := hwords
    have hlowered : loweredEnding phrase text ≠ [] := lowercaseBetween_ne_nil hending _ _
    refine ⟨before ++ [v ++ loweredEnding phrase text], ?_, ?_, ?_⟩
    · rw [happend _ _ hletters hapart, List.append_assoc, List.singleton_append]
    · rw [hphrase, List.length_append, List.length_append]
      rfl
    · rw [hphrase, forall₂_concat_iff, wordMatches_append hlowered, isInflection_loweredEnding]
      refine and_iff_right_of_imp fun hinflection => h.long hending hinflection v ?_
      rw [hphrase, List.getLast?_concat]
      rfl

/-- The phrase occurs at the start of the request. -/
def Leads (phrase input : List Token) : Prop :=
  ∃ o : Occurrence phrase input, o.before = []

theorem leads_iff {phrase input : List Token} :
    Leads phrase input ↔
      ∃ words after, input = words ++ after ∧ List.Forall₂ WordMatches words phrase := by
  constructor
  · rintro ⟨⟨before, words, after, hcut, hmatched⟩, rfl : before = []⟩
    exact ⟨words, after, hcut, hmatched⟩
  · rintro ⟨words, after, hcut, hmatched⟩
    exact ⟨⟨[], words, after, hcut, hmatched⟩, rfl⟩

/-- **Where a request opens plainly, its leading words match** if and only if
the phrase's characters are followed by an inflection. -/
theorem OpensPlainly.leads_iff (h : OpensPlainly phrase text) :
    Leads (tokenize phrase) (tokenize text) ↔
      isInflection (lowercase (ending phrase text)) = true := by
  obtain ⟨words, hwords, hlength, hmatched⟩ := h.exists_leading
  rw [← hmatched, Match.leads_iff]
  constructor
  · rintro ⟨words', after, hcut, hmatched'⟩
    have hlength' : words.length = words'.length := hlength.trans hmatched'.length_eq.symm
    obtain ⟨rfl, -⟩ := List.append_inj (hwords.symm.trans hcut) hlength'
    exact hmatched'
  · exact fun hmatched' => ⟨words, _, hwords, hmatched'⟩

/-! ## What is left -/

theorem isPunctuation_apart {c : Char} (h : isPunctuation c = true) : isAlphanumeric c = false := by
  have hpoints : ∀ n ∈ List.range' 33 94, isPunctuation (Char.ofNat n) = true →
      isAlphanumeric (Char.ofNat n) = false := by
    decide +kernel
  have hrange : '!' ≤ c ∧ c ≤ '~' := by
    simp only [isPunctuation, Bool.or_eq_true, Bool.and_eq_true, decide_eq_true_eq] at h
    obtain ((⟨hlow, hhigh⟩ | ⟨hlow, hhigh⟩) | ⟨hlow, hhigh⟩) | ⟨hlow, hhigh⟩ := h <;>
      exact ⟨Char.le_trans (by decide) hlow, Char.le_trans hhigh (by decide)⟩
  have hlow : 33 ≤ c.toNat := hrange.1
  have hhigh : c.toNat ≤ 126 := hrange.2
  have hc := hpoints _ (List.mem_range'_1.2 ⟨hlow, by omega⟩)
  rw [Char.ofNat_toNat] at hc
  exact hc h

/-- No letter or number parts a trigger from what follows. -/
theorem isSeparator_apart {c : Char} (h : isSeparator c = true) : isAlphanumeric c = false := by
  obtain h | h := Bool.or_eq_true_iff.1 h
  · exact (isBlank_apart h).1
  · exact isPunctuation_apart h

/-- What is left beyond the phrase, the ending and the separators. -/
def remainder (phrase text : List Char) : List Char :=
  trimEnd ((beyond phrase text).dropWhile isSeparator)

/-- A trigger is dropped where the request opens with its characters and an
inflection, and something is left. -/
theorem stripTrigger_eq (phrase input : List Char) :
    stripTrigger phrase input =
      if opensWith phrase (trimStart input) = true ∧
          isInflection (lowercase (ending phrase (trimStart input))) = true ∧
          remainder phrase (trimStart input) ≠ [] then
        remainder phrase (trimStart input)
      else trim input := by
  unfold stripTrigger afterTrigger
  by_cases hopens : opensWith phrase (trimStart input) = true
  · by_cases hinflection : isInflection (lowercase (ending phrase (trimStart input))) = true
    · have hinflection' := hinflection
      simp only [ending] at hinflection'
      simp only [hopens, hinflection, hinflection', if_true, true_and, List.isEmpty_iff]
      change (if remainder phrase (trimStart input) = [] then _ else _) = _
      simp only [ne_eq, ite_not]
      rfl
    · have hinflection' := hinflection
      simp only [ending] at hinflection'
      simp [hinflection, hinflection']
  · simp [hopens]

theorem remainder_ne_nil_iff :
    remainder phrase text ≠ [] ↔ ∃ c ∈ beyond phrase text, isSeparator c = false := by
  have hblank : ∀ c, isBlank c = true → isSeparator c = true := fun c hc => by
    simp [isSeparator, hc]
  rw [remainder, Ne, trimEnd_eq_nil_iff]
  constructor
  · intro h
    by_contra hnone
    have hnil : (beyond phrase text).dropWhile isSeparator = [] := by
      refine List.dropWhile_eq_nil_iff.2 fun c hc => ?_
      by_contra hsep
      exact hnone ⟨c, hc, Bool.eq_false_iff.2 hsep⟩
    exact h (by rw [hnil]; exact fun c hc => absurd hc List.not_mem_nil)
  · rintro ⟨c, hc, hsep⟩ hall
    have hnil : (beyond phrase text).dropWhile isSeparator = [] := by
      by_contra hne
      obtain ⟨d, rest, hd⟩ := List.exists_cons_of_ne_nil hne
      have hfirst := beginsApart_dropWhile isSeparator (beyond phrase text) d (by rw [hd]; rfl)
      rw [hblank d (hall d (by rw [hd]; exact List.mem_cons_self))] at hfirst
      exact Bool.false_ne_true hfirst.symm
    rw [List.dropWhile_eq_nil_iff.1 hnil c hc] at hsep
    exact Bool.false_ne_true hsep.symm

/-- **What is called with is trimmed**, whether something is dropped or not. -/
theorem stripTrigger_trimmed (phrase input : List Char) : Trimmed (stripTrigger phrase input) := by
  rw [stripTrigger_eq]
  split
  · refine trimEnd_trimmed fun c hc => ?_
    have hfirst := beginsApart_dropWhile isSeparator (beyond phrase (trimStart input)) c hc
    exact (Bool.or_eq_false_iff.1 hfirst).1
  · exact trim_trimmed input

/-- A text with words is not all white space. -/
theorem trim_ne_nil (h : tokenize input ≠ []) : trim input ≠ [] := by
  intro hnil
  have hblank := (trim_eq_nil_iff input).1 hnil
  refine h ?_
  rw [tokenize, lowercase_eq_between,
    lowercaseBetween_eq_self fun c hc => (isBlank_apart (hblank c hc)).1]
  exact runs_eq_nil_iff.2 fun c hc => not_blank_of_letter (hblank c hc)

/-- **Something is left of a text with words**, whatever is dropped. -/
theorem stripTrigger_ne_nil (h : tokenize input ≠ []) (phrase : List Char) :
    stripTrigger phrase input ≠ [] := by
  rw [stripTrigger_eq]
  split
  · rename_i hdrops
    exact hdrops.2.2
  · exact trim_ne_nil h

/-- What stands before what is left. -/
def dropped (phrase text : List Char) : List Char :=
  text.take phrase.length ++ (ending phrase text ++ (beyond phrase text).takeWhile isSeparator)

/-- **What is dropped is a leading part** of the trimmed request. -/
theorem trim_eq_append (h : remainder phrase (trimStart input) ≠ []) :
    trim input = dropped phrase (trimStart input) ++ remainder phrase (trimStart input) := by
  have htext : trimStart input = dropped phrase (trimStart input) ++
      (beyond phrase (trimStart input)).dropWhile isSeparator := by
    rw [dropped, List.append_assoc, List.append_assoc, List.takeWhile_append_dropWhile,
      opening_append]
  have htrim := trimEnd_append (s := dropped phrase (trimStart input)) h
  rw [← htext] at htrim
  exact htrim

/-- What is dropped is not empty, so that what is left is not all. -/
theorem remainder_ne_trim (hphrase : phrase ≠ [])
    (hopens : opensWith phrase (trimStart input) = true)
    (h : remainder phrase (trimStart input) ≠ []) :
    remainder phrase (trimStart input) ≠ trim input := by
  intro hall
  have hnone : dropped phrase (trimStart input) = [] :=
    List.append_left_eq_self.1 ((trim_eq_append h).symm.trans hall.symm)
  have htake : (trimStart input).take phrase.length = [] := (List.append_eq_nil_iff.1 hnone).1
  rw [opensWith, htake, List.map_nil, beq_iff_eq, eq_comm, List.map_eq_nil_iff] at hopens
  exact hphrase hopens

/-- **When something is dropped**: the request opens with the phrase and an
inflection, and more than separators stands beyond them. -/
theorem stripTrigger_ne_trim_iff (hphrase : phrase ≠ []) (input : List Char) :
    stripTrigger phrase input ≠ trim input ↔
      opensWith phrase (trimStart input) = true ∧
        isInflection (lowercase (ending phrase (trimStart input))) = true ∧
        remainder phrase (trimStart input) ≠ [] := by
  rw [stripTrigger_eq]
  split
  · rename_i h
    exact iff_of_true (remainder_ne_trim hphrase h.1 h.2.2) h
  · rename_i h
    exact iff_of_false (fun hself => hself rfl) h

theorem stripTrigger_of_ne_trim (h : stripTrigger phrase input ≠ trim input) :
    stripTrigger phrase input = remainder phrase (trimStart input) := by
  rw [stripTrigger_eq] at h ⊢
  split at h
  · exact if_pos ‹_›
  · exact absurd rfl h

/-- The words beyond the opening are those of what is left, as they are lowered
within the request. -/
theorem runs_loweredBeyond (phrase text : List Char) :
    runs isLetterOrNumber (loweredBeyond phrase text) =
      runs isLetterOrNumber
        (lowercaseBetween (dropped phrase text).reverse [] (remainder phrase text)) := by
  obtain ⟨blanks, hrest, hblank⟩ := exists_trimEnd ((beyond phrase text).dropWhile isSeparator)
  have hsplit : beyond phrase text =
      (beyond phrase text).takeWhile isSeparator ++ (remainder phrase text ++ blanks) := by
    rw [remainder, ← hrest, List.takeWhile_append_dropWhile]
  have hseparators : ∀ c ∈ (beyond phrase text).takeWhile isSeparator, isAlphanumeric c = false :=
    fun c hc => isSeparator_apart (List.mem_takeWhile_imp hc)
  have hblanks : ∀ c ∈ blanks, isAlphanumeric c = false := fun c hc =>
    (isBlank_apart (hblank c hc)).1
  have hapart : BeginsApart isLetterOrNumber blanks := fun c hc =>
    not_blank_of_letter (hblank c (List.mem_of_mem_head? hc))
  have hnone : runs isLetterOrNumber blanks = [] :=
    runs_eq_nil_iff.2 fun c hc => not_blank_of_letter (hblank c hc)
  have hunseen : meetsCased (blanks ++ []) = meetsCased [] := by
    rw [List.append_nil]
    exact meetsCased_blanks hblank
  have hdropped : (dropped phrase text).reverse =
      ((beyond phrase text).takeWhile isSeparator).reverse ++
        ((ending phrase text).reverse ++ (text.take phrase.length).reverse) := by
    rw [dropped, List.reverse_append, List.reverse_append, List.append_assoc]
  rw [loweredBeyond]
  conv_lhs => rw [hsplit]
  rw [lowercaseBetween_append, lowercaseBetween_append, lowercaseBetween_eq_self hseparators,
    lowercaseBetween_eq_self hblanks, lowercaseBetween_after (.inr hunseen), ← hdropped,
    runs_append_of_breaks fun c hc => isLetterOrNumber_eq_false (hseparators c hc),
    runs_append hapart, hnone, List.append_nil]

/-- There are words beyond the opening if and only if there are words in what
is left. -/
theorem tokenize_remainder_eq_nil_iff (phrase text : List Char) :
    tokenize (remainder phrase text) = [] ↔
      runs isLetterOrNumber (loweredBeyond phrase text) = [] := by
  have hsigmas : isLetterOrNumber 'σ' = false ↔ isLetterOrNumber 'ς' = false := by
    rw [← not_iff_not, Bool.not_eq_false, Bool.not_eq_false]
    exact isLetterOrNumber_sigmas
  rw [runs_loweredBeyond, tokenize, lowercase_eq_between, runs_eq_nil_iff, runs_eq_nil_iff]
  exact forall_lowercaseBetween hsigmas _ _ _ _ _

/-- The words of what is left are those beyond the opening, unless it begins
with a capital sigma that ends a word of the request. -/
theorem tokenize_remainder
    (h : opensInSigma (remainder phrase text) = false ∨
      meetsCased (dropped phrase text).reverse = false) :
    tokenize (remainder phrase text) = runs isLetterOrNumber (loweredBeyond phrase text) := by
  rw [runs_loweredBeyond, tokenize, lowercase_eq_between]
  exact congrArg (runs isLetterOrNumber) (lowercaseBetween_before (h.imp_right Eq.symm))

/-! ## The two recognisers -/

/-- How dropping a phrase from a request agrees with finding the phrase at its
start. `left` is what dropping leaves. -/
structure Agreement (phrase input left : List Char) : Prop where
  /-- Either nothing is dropped, or what is left is the end of the trimmed
  request, and what stands before it is the phrase in its own characters, an
  inflection, and separators. -/
  opening : left = trim input ∨
    opensWith phrase (trimStart input) = true ∧
      isInflection (lowercase (ending phrase (trimStart input))) = true ∧ left ≠ [] ∧
      trim input = dropped phrase (trimStart input) ++ left
  /-- Where a request opens plainly, something is dropped if and only if the
  phrase's words lead the request's and more than separators stands beyond
  them. -/
  dropped_iff : OpensPlainly phrase (trimStart input) →
    (left ≠ trim input ↔
      Leads (tokenize phrase) (tokenize input) ∧
        ∃ c ∈ beyond phrase (trimStart input), isSeparator c = false)
  /-- Something is dropped and words are left if and only if the phrase's words
  lead the request's and the request has more. -/
  more_iff : OpensPlainly phrase (trimStart input) →
    (left ≠ trim input ∧ tokenize left ≠ [] ↔
      (tokenize phrase).length < (tokenize input).length ∧
        Leads (tokenize phrase) (tokenize input))
  /-- What is left after dropping has the words of the request after those of
  the phrase. -/
  words : OpensPlainly phrase (trimStart input) → left ≠ trim input →
    opensInSigma left = false ∨ meetsCased (dropped phrase (trimStart input)).reverse = false →
    tokenize left = (tokenize input).drop (tokenize phrase).length

/-- Dropping and finding agree for every phrase with words. -/
theorem stripTrigger_agreement (hphrase : tokenize phrase ≠ []) (input : List Char) :
    Agreement phrase input (stripTrigger phrase input) := by
  have hne : phrase ≠ [] := by
    rintro rfl
    exact hphrase rfl
  have hdropped := stripTrigger_ne_trim_iff hne input
  refine ⟨?_, fun hplain => ?_, fun hplain => ?_, fun hplain hdrops hsigma => ?_⟩
  · by_cases hsame : stripTrigger phrase input = trim input
    · exact .inl hsame
    · obtain ⟨hopens, hinflection, hrest⟩ := hdropped.1 hsame
      rw [stripTrigger_of_ne_trim hsame]
      exact .inr ⟨hopens, hinflection, hrest, trim_eq_append hrest⟩
  · rw [hdropped, ← tokenize_trimStart input, hplain.leads_iff, remainder_ne_nil_iff]
    exact and_iff_right hplain.opens
  · rw [← tokenize_trimStart input, hplain.leads_iff]
    obtain ⟨words, hwords, hlength, -⟩ := hplain.exists_leading
    have hmore : (tokenize phrase).length < (tokenize (trimStart input)).length ↔
        tokenize (remainder phrase (trimStart input)) ≠ [] := by
      rw [hwords, List.length_append, hlength, Ne, tokenize_remainder_eq_nil_iff,
        ← List.length_eq_zero_iff]
      omega
    rw [hmore]
    constructor
    · rintro ⟨hdrops, hleftWords⟩
      rw [stripTrigger_of_ne_trim hdrops] at hleftWords
      exact ⟨hleftWords, (hdropped.1 hdrops).2.1⟩
    · rintro ⟨hleftWords, hinflection⟩
      have hrest : remainder phrase (trimStart input) ≠ [] := by
        intro hnil
        rw [hnil] at hleftWords
        exact hleftWords rfl
      have hdrops := hdropped.2 ⟨hplain.opens, hinflection, hrest⟩
      exact ⟨hdrops, by rwa [stripTrigger_of_ne_trim hdrops]⟩
  · rw [stripTrigger_of_ne_trim hdrops] at hsigma ⊢
    obtain ⟨words, hwords, hlength, -⟩ := hplain.exists_leading
    rw [tokenize_remainder hsigma, ← tokenize_trimStart input, hwords, ← hlength, List.drop_left]

/-- **What is dropped agrees with what is matched.** The phrase by which a
text calls for a tool is dropped from the text, with an inflection, if and
only if its words lead those of the text and words are left, which are then
the words after the matched ones, wherever the text opens plainly; and nothing
is dropped from a text that opens in other characters. -/
theorem strip_agrees {r : Router} {input : String} {route : Route} (h : route ∈ r.rank input) :
    Agreement route.phrase.toList input.toList (route.text input).toList := by
  have hphrase : tokenize route.phrase.toList ≠ [] := (mem_rank.1 h).2.1.compared.phrase_ne
  rw [Route.text, String.toList_ofList]
  exact stripTrigger_agreement hphrase input.toList

/-- Every route from a text counts with the threshold that is usual. -/
theorem mem_rank_standard {registry : Tool.Registry} {t : Tool} {input : String} {route : Route}
    (ht : t ∈ registry.tools) (h : route? t input = some route) :
    route ∈ (Router.standard registry).rank input := by
  obtain ⟨rfl, hchosen⟩ := route?_eq_some.1 h
  rw [standard_eq_new]
  exact mem_rank_of_low (hundredths_mono (by decide)) ht hchosen

/-- The route of a text about ink. -/
def inkRoute : Route :=
  ⟨Toolbox.research, "research", .window ⟨.stem, true⟩ 1 5⟩

/-- The trigger of `researching the history of ink` is dropped as it is
matched. -/
theorem strip_agrees_ink :
    inkRoute ∈ (Router.standard Toolbox.registry).rank "researching the history of ink" ∧
      inkRoute.text "researching the history of ink" = "the history of ink" ∧
      wordsOf "the history of ink" = (wordsOf "researching the history of ink").drop 1 := by
  have hroute : inkRoute ∈
      (Router.standard Toolbox.registry).rank "researching the history of ink" :=
    mem_rank_standard (List.mem_cons_self : Toolbox.research ∈ Toolbox.all)
      (by decide +kernel)
  have hplain : OpensPlainly "research".toList
      (trimStart "researching the history of ink".toList) :=
    ⟨by decide +kernel, .inl (by decide +kernel),
      fun _ => ⟨'h', by decide +kernel, by decide +kernel⟩,
      List.forall_iff_forall_mem.1 (by decide +kernel), fun _ _ => by decide +kernel⟩
  have htext : inkRoute.text "researching the history of ink" = "the history of ink" := by
    decide +kernel
  have hwords := (strip_agrees hroute).words hplain (by decide +kernel) (.inl (by decide +kernel))
  rw [htext] at hwords
  exact ⟨hroute, htext, hwords⟩

/-! ## Where they do not agree -/

instance (phrase input : List Token) : Decidable (Leads phrase input) :=
  decidable_of_iff ((fitLeading phrase input).isSome = true) <| by
    simp only [Match.leads_iff, Option.isSome_iff_exists, fitLeading_eq_some]
    exact ⟨fun ⟨_, words, after, hcut, hmatched, _⟩ => ⟨words, after, hcut, hmatched⟩,
      fun ⟨words, after, hcut, hmatched⟩ => ⟨_, words, after, hcut, hmatched, rfl⟩⟩

/-- Something is dropped if and only if the phrase's words lead and are not
all, and then the words after them are left. -/
def Coincide (phrase input left : List Char) : Prop :=
  (left ≠ trim input ↔
      (tokenize phrase).length < (tokenize input).length ∧
        Leads (tokenize phrase) (tokenize input)) ∧
    (left ≠ trim input → tokenize left = (tokenize input).drop (tokenize phrase).length)

instance (phrase input left : List Char) : Decidable (Coincide phrase input left) :=
  inferInstanceAs (Decidable (_ ∧ _))

/-- A tool with phrases that end in punctuation, in a short word and in a
capital sigma. -/
def lookup : Tool :=
  { Tool.plain "lookup" "Looks things up." .text with phrases := ["c++", "go to", "ΑΣ"] }

/-- The routes of a text by which it calls for one of the tools. -/
def disagreements (tools : List Tool) (input : String) : List Route :=
  (tools.filterMap (route? · input)).filter fun route =>
    ¬ Coincide route.phrase.toList input.toList (route.text input).toList

/-- **They do not agree on every text**: nothing is dropped where other
characters stand between the words, or where the ending is alphanumeric but no
part of a word; something is dropped though no words are left, though the
phrase ends in punctuation or in a word too short to be inflected, and though a
capital sigma is lowered otherwise in its place. -/
theorem strip_disagrees :
    (∀ input ∈ ["deep-research quantum dots", "research —", "researchⓢ research",
        "research'Σ x"],
      ∃ route ∈ (Router.standard Toolbox.registry).rank input,
        ¬ Coincide route.phrase.toList input.toList (route.text input).toList) ∧
    ∀ input ∈ ["c++s compilers", "go tos x, go to y", "ΑΣs x ας"],
      ∃ route ∈ (Router.standard ⟨[lookup], by decide, by decide⟩).rank input,
        ¬ Coincide route.phrase.toList input.toList (route.text input).toList := by
  have hfound : ∀ (registry : Tool.Registry) (input : String),
      disagreements registry.tools input ≠ [] →
      ∃ route ∈ (Router.standard registry).rank input,
        ¬ Coincide route.phrase.toList input.toList (route.text input).toList := by
    intro registry input hne
    obtain ⟨route, hroute⟩ := List.exists_mem_of_ne_nil _ hne
    obtain ⟨hmem, hnot⟩ := List.mem_filter.1 hroute
    obtain ⟨t, ht, hroute⟩ := List.mem_filterMap.1 hmem
    exact ⟨route, mem_rank_standard ht hroute, by simpa using hnot⟩
  constructor
  · intro input hinput
    refine hfound _ _ ?_
    revert input
    decide +kernel
  · intro input hinput
    refine hfound _ _ ?_
    revert input
    decide +kernel

end Match

end Amanuensis
