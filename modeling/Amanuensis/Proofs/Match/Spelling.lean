import Amanuensis.Proofs.Match.Route
import Amanuensis.Proofs.Text.Lowercase
import Amanuensis.Proofs.Text.Runs
import Mathlib.Data.List.DropRight
/-!
# Texts that are spelled alike

Case and punctuation make no difference to a match. `Text.plain` spells a
text plainly: in small ASCII letters, with one space for every run of ASCII
characters that are neither letters nor digits, and with none at its ends. A
text without a capital sigma has the words of its plain spelling
(`tokenize_plain`), because such a text is lowered character by character and
what is squeezed together is in no word. So texts with one plain spelling have
the same scores, as requests and as phrases, and the same routes in the same
order (`spelling_ignored`).

A capital sigma is lowered by what it sees, which a full stop lets it see and
a space does not (`sigma_sees_through`).
-/


namespace Amanuensis

namespace Text

variable {p : Char → Bool} {c : Char} {run s t : List Char}

/-- Is the character of ASCII, and neither a letter nor a digit? -/
def isAsciiBreak (c : Char) : Bool := decide (c.toNat < 128) && !c.isAlphanum

/-- The text with one space for every run of ASCII breaks, none for a run that
is under way at its front. -/
def squeezeAfter (within : Bool) : List Char → List Char
  | [] => []
  | c :: rest =>
    if isAsciiBreak c then
      if within then squeezeAfter true rest else ' ' :: squeezeAfter true rest
    else c :: squeezeAfter false rest

/-- The text without spaces at its ends. -/
def stripSpaces (s : List Char) : List Char :=
  dropEndWhile (· == ' ') (s.dropWhile (· == ' '))

/-- The plain spelling of a text. -/
def plain (s : List Char) : List Char := stripSpaces (squeezeAfter false (s.map lowerAscii))

/-- No letter or number is an ASCII break. -/
theorem isAsciiBreak_apart (h : isAsciiBreak c = true) : isAlphanumeric c = false := by
  have hpoints : ∀ n ∈ List.range 128, isAsciiBreak (Char.ofNat n) = true →
      isAlphanumeric (Char.ofNat n) = false := by
    decide +kernel
  have hlow : c.toNat < 128 := by
    rw [isAsciiBreak, Bool.and_eq_true, decide_eq_true_eq] at h
    exact h.1
  have hc := hpoints _ (List.mem_range.2 hlow)
  rw [Char.ofNat_toNat] at hc
  exact hc h

/-- A text without a capital sigma is lowered character by character. -/
theorem lowercase_cons (h : 'Σ' ∉ c :: s) :
    lowercase (c :: s) = smallForm [] [] c ++ lowercase s := by
  obtain ⟨hc, hs⟩ := not_or.1 (mt List.mem_cons.2 h)
  rw [lowercase_eq_between, lowercaseBetween, smallForm_of_ne (Ne.symm hc),
    lowercaseBetween_eq_lowercase hs]

/-- An ASCII break is its own small form. -/
theorem lowercase_cons_break (hc : isAsciiBreak c = true) (hs : 'Σ' ∉ s) :
    lowercase (c :: s) = c :: lowercase s := by
  have hapart := isAsciiBreak_apart hc
  have hne : 'Σ' ≠ c := by
    rintro rfl
    exact Bool.false_ne_true (hapart.symm.trans isAlphanumeric_special.1)
  have hnone : 'Σ' ∉ c :: s := fun hmem => (List.mem_cons.1 hmem).elim hne hs
  rw [lowercase_cons hnone, smallForm_eq_self hapart, List.singleton_append]

/-- What follows a text makes the same runs if it makes the same of every run
that is under way. -/
theorem runsAfter_append_congr (h : ∀ run, runsAfter p run s = runsAfter p run t)
    (w run : List Char) : runsAfter p run (w ++ s) = runsAfter p run (w ++ t) := by
  induction w generalizing run with
  | nil => exact h run
  | cons c w ih => simp only [List.cons_append, runsAfter, ih]

/-- No sigma is squeezed into a text. -/
theorem sigma_not_mem_squeezeAfter (within : Bool) (h : 'Σ' ∉ s) :
    'Σ' ∉ squeezeAfter within s := by
  induction s generalizing within with
  | nil => exact List.not_mem_nil
  | cons c s ih =>
    obtain ⟨hc, hs⟩ := not_or.1 (mt List.mem_cons.2 h)
    have hcons : ∀ d, 'Σ' ≠ d → ∀ within, 'Σ' ∉ d :: squeezeAfter within s :=
      fun d hd within hmem => (List.mem_cons.1 hmem).elim hd (ih within hs)
    simp only [squeezeAfter]
    split
    · split
      · exact ih true hs
      · exact hcons ' ' (by decide) true
    · exact hcons c hc false

/-- **Squeezing leaves the words of a text.** -/
theorem runsAfter_squeezeAfter (h : 'Σ' ∉ s) :
    (∀ run, runsAfter isLetterOrNumber run (lowercase (squeezeAfter false s)) =
        runsAfter isLetterOrNumber run (lowercase s)) ∧
      runs isLetterOrNumber (lowercase (squeezeAfter true s)) =
        runs isLetterOrNumber (lowercase s) := by
  induction s with
  | nil => exact ⟨fun _ => rfl, rfl⟩
  | cons c s ih =>
    have hs : 'Σ' ∉ s := fun hmem => h (List.mem_cons_of_mem _ hmem)
    obtain ⟨hfalse, htrue⟩ := ih hs
    cases hc : isAsciiBreak c with
    | true =>
      -- the run under way ends at the break, and at the space that stands for it
      have hbreak : ∀ d, isLetterOrNumber d = false → ∀ run t,
          runsAfter isLetterOrNumber run (d :: t) =
            runsAfter isLetterOrNumber run [] ++ runs isLetterOrNumber t :=
        fun d hd run t => runsAfter_append_break (s := []) hd
      have hapart : isLetterOrNumber c = false := isLetterOrNumber_eq_false (isAsciiBreak_apart hc)
      have hspace : isLetterOrNumber ' ' = false := by decide
      simp only [squeezeAfter, hc, if_true, Bool.false_eq_true, if_false]
      rw [lowercase_cons_break hc hs,
        lowercase_cons_break (by decide) (sigma_not_mem_squeezeAfter true hs)]
      refine ⟨fun run => ?_, ?_⟩
      · rw [hbreak _ hspace, hbreak _ hapart, htrue]
      · rw [htrue, runs, runs, hbreak _ hapart]
        rfl
    | false =>
      have hnone : 'Σ' ∉ c :: squeezeAfter false s := by
        have := sigma_not_mem_squeezeAfter false h
        simpa only [squeezeAfter, hc, Bool.false_eq_true, if_false] using this
      have hcons : ∀ run, runsAfter isLetterOrNumber run (lowercase (c :: squeezeAfter false s)) =
          runsAfter isLetterOrNumber run (lowercase (c :: s)) := by
        intro run
        rw [lowercase_cons hnone, lowercase_cons h]
        exact runsAfter_append_congr hfalse _ run
      simp only [squeezeAfter, hc, Bool.false_eq_true, if_false]
      exact ⟨hcons, hcons []⟩

end Text

namespace Match

open Text

variable {c : Char} {s t : List Char}

/-! ## Words on both sides of white space -/

/-- **A text has the words on both sides of white space**, whatever sigmas are
in it: none sees through the white space. -/
theorem tokenize_append_blank (hc : isBlank c = true) (s t : List Char) :
    tokenize (s ++ c :: t) = tokenize s ++ tokenize t := by
  obtain ⟨hapart, hcased, hignored⟩ := isBlank_apart hc
  have hunseen : ∀ u, meetsCased (c :: u) = false := by
    intro u
    rw [meetsCased_cons, hignored, hcased]
    rfl
  have hbefore : lowercaseBetween [] (c :: t) s = lowercase s := by
    rw [lowercase_eq_between]
    exact lowercaseBetween_after (.inr (hunseen t))
  have hafter : lowercaseBetween (c :: s.reverse) [] t = lowercase t := by
    rw [lowercase_eq_between]
    exact lowercaseBetween_before (.inr (hunseen _))
  have hlower : lowercase (s ++ c :: t) = lowercase s ++ c :: lowercase t := by
    rw [lowercase_eq_between, lowercaseBetween_append, List.append_nil, hbefore,
      lowercaseBetween, smallForm_eq_self hapart, List.singleton_append, List.append_nil, hafter]
  rw [tokenize, hlower, runs_append_break (isLetterOrNumber_eq_false hapart)]
  rfl

theorem wordsOf_append_space (s t : String) :
    wordsOf (s ++ " " ++ t) = wordsOf s ++ wordsOf t := by
  have hspace : isBlank ' ' = true := by decide
  have hlist : (s ++ " " ++ t).toList = s.toList ++ ' ' :: t.toList := by
    simp only [String.toList_append, List.append_assoc]
    rfl
  rw [wordsOf, hlist, tokenize_append_blank hspace]

theorem tokenize_nil : tokenize [] = [] := rfl

/-- Spaces at the ends of a text are in no word. -/
theorem tokenize_stripSpaces (s : List Char) : tokenize (stripSpaces s) = tokenize s := by
  have hspace : isBlank ' ' = true := by decide
  have hstart : ∀ s, tokenize (s.dropWhile (· == ' ')) = tokenize s := by
    intro s
    induction s with
    | nil => rfl
    | cons c s ih =>
      by_cases hc : c = ' '
      · subst hc
        rw [List.dropWhile_cons_of_pos (by decide), ih]
        exact (tokenize_append_blank hspace [] s).symm
      · rw [List.dropWhile_cons_of_neg (by simpa using hc)]
  have hstop : ∀ s, tokenize (dropEndWhile (· == ' ') s) = tokenize s := by
    intro s
    induction s using List.reverseRecOn with
    | nil => rfl
    | append_singleton s c ih =>
      have hconcat : dropEndWhile (· == ' ') (s ++ [c]) = _ := List.rdropWhile_concat _ s c
      rw [hconcat]
      split
      · rename_i hc
        rw [eq_of_beq hc, tokenize_append_blank hspace, tokenize_nil, List.append_nil]
        exact ih
      · rfl
  rw [stripSpaces, hstop, hstart]

/-- **A text without a capital sigma has the words of its plain spelling.** -/
theorem tokenize_plain (h : 'Σ' ∉ s) : tokenize (plain s) = tokenize s := by
  have hmap : 'Σ' ∉ s.map lowerAscii := by
    intro hmem
    obtain ⟨c, hc, hsigma⟩ := List.mem_map.1 hmem
    obtain ⟨-, -, -, hiff, -⟩ := lowerAscii_alike c
    exact h (hiff.1 hsigma ▸ hc)
  have hlower : lowercase (s.map lowerAscii) = lowercase s := by
    rw [lowercase_eq_between, lowercase_eq_between]
    exact lowercaseBetween_map_lowerAscii [] [] s
  rw [plain, tokenize_stripSpaces, tokenize, runs, (runsAfter_squeezeAfter hmap).1, hlower]
  rfl

/-- **The hypothesis is needed.** In front of a full stop a capital sigma sees
the letter beyond it, in front of a space it ends a word. -/
theorem sigma_sees_through :
    plain "ΟΣ.ΟΣ".toList = plain "ΟΣ ΟΣ".toList ∧ wordsOf "ΟΣ.ΟΣ" ≠ wordsOf "ΟΣ ΟΣ" := by
  decide +kernel

/-! ## Requests and phrases that are spelled alike -/

/-- Two texts that are spelled alike: no capital sigma is in either and they
have one plain spelling, or they are one text. -/
def SpelledAlike (s t : String) : Prop :=
  s = t ∨ 'Σ' ∉ s.toList ∧ 'Σ' ∉ t.toList ∧ plain s.toList = plain t.toList

/-- The same tool, its phrases spelled in another way. -/
structure Respelled (t t' : Tool) : Prop where
  tool : t' = { t with phrases := t'.phrases }
  phrases : List.Forall₂ SpelledAlike t.phrases t'.phrases

/-- The same route, its phrase spelled in another way. -/
structure SameRoute (route route' : Route) : Prop where
  tool : Respelled route.tool route'.tool
  phrase : SpelledAlike route.phrase route'.phrase
  score : route.score = route'.score

variable {text text' phrase phrase' : String} {phrases phrases' : List String} {tool tool' : Tool}
variable {α β : Type} {R : α → β → Prop}

/-- **Texts that are spelled alike have the same words.** -/
theorem SpelledAlike.words (h : SpelledAlike text text') : wordsOf text = wordsOf text' := by
  obtain rfl | ⟨hleft, hright, hplain⟩ := h
  · rfl
  · calc wordsOf text = tokenize (plain text.toList) := (tokenize_plain hleft).symm
      _ = tokenize (plain text'.toList) := by rw [hplain]
      _ = wordsOf text' := tokenize_plain hright

/-- A score looks at nothing but words. -/
theorem score_congr (htext : wordsOf text = wordsOf text')
    (hphrase : wordsOf phrase = wordsOf phrase') : score text phrase = score text' phrase' := by
  calc score text phrase = scoreTokens (wordsOf text) (wordsOf phrase) := rfl
    _ = scoreTokens (wordsOf text') (wordsOf phrase') := by rw [htext, hphrase]
    _ = score text' phrase' := rfl

/-- Nor does the choice of a phrase. -/
theorem firstRoute_congr (h : wordsOf text = wordsOf text') (tool : Tool)
    (phrases : List String) : firstRoute tool text phrases = firstRoute tool text' phrases := by
  induction phrases with
  | nil => rfl
  | cons phrase rest ih => rw [firstRoute, firstRoute, score_congr h rfl, ih]

/-- Nor does a ranking. -/
theorem rank_congr (h : wordsOf text = wordsOf text') (r : Router) :
    r.rank text = r.rank text' := by
  have hroutes : (route? · text) = (route? · text') :=
    funext fun tool => firstRoute_congr h tool tool.phrases
  rw [Router.rank, Router.rank, hroutes]

/-- The first phrase that fits is the same one, however the phrases are
spelled. -/
theorem firstRoute_respelled (htool : Respelled tool tool')
    (htext : wordsOf text = wordsOf text') (h : List.Forall₂ SpelledAlike phrases phrases') :
    Option.Rel SameRoute (firstRoute tool text phrases) (firstRoute tool' text' phrases') := by
  induction h with
  | nil => exact .none
  | @cons phrase phrase' rest rest' hphrase _ ih =>
    rw [firstRoute, firstRoute, score_congr htext hphrase.words]
    split
    · exact .some ⟨htool, hphrase, rfl⟩
    · exact ih

/-- Sorting keeps a correspondence that the orders do not see. -/
theorem forall₂_mergeSort {le : α → α → Bool} {le' : β → β → Bool} {xs : List α} {ys : List β}
    (h : List.Forall₂ R xs ys)
    (hle : ∀ a a' b b', R a a' → R b b' → le a b = le' a' b') :
    List.Forall₂ R (xs.mergeSort le) (ys.mergeSort le') := by
  -- the pairs are sorted by their left sides, which sorts the right sides as well
  obtain ⟨hlength, hpairs⟩ := List.forall₂_iff_zip.1 h
  have hleft : (xs.zip ys).map Prod.fst = xs := List.map_fst_zip hlength.le
  have hright : (xs.zip ys).map Prod.snd = ys := List.map_snd_zip hlength.ge
  let lePair : α × β → α × β → Bool := fun x y => le x.1 y.1
  have hsorted : ∀ pair ∈ (xs.zip ys).mergeSort lePair, R pair.1 pair.2 :=
    fun pair hpair => hpairs (List.mem_mergeSort.1 hpair)
  have hfirst : ((xs.zip ys).mergeSort lePair).map Prod.fst = xs.mergeSort le := by
    rw [List.map_mergeSort (s := le) fun _ _ _ _ => rfl, hleft]
  have hsecond : ((xs.zip ys).mergeSort lePair).map Prod.snd = ys.mergeSort le' := by
    rw [List.map_mergeSort (s := le') fun x hx y hy => hle _ _ _ _ (hpairs hx) (hpairs hy), hright]
  rw [← hfirst, ← hsecond, List.forall₂_map_left_iff, List.forall₂_map_right_iff,
    List.forall₂_same]
  exact hsorted

/-- The ranking is the same one as well. -/
theorem rank_respelled {r r' : Router} (hmin : r.minScore = r'.minScore)
    (htools : List.Forall₂ Respelled r.registry.tools r'.registry.tools)
    (htext : wordsOf text = wordsOf text') :
    List.Forall₂ SameRoute (r.rank text) (r'.rank text') := by
  have hnumber : ∀ {a a' : Route}, SameRoute a a' → a.number = a'.number :=
    fun h => congrArg Score.number h.score
  have hroutes : List.Forall₂ SameRoute (r.registry.tools.filterMap (route? · text))
      (r'.registry.tools.filterMap (route? · text')) :=
    List.rel_filterMap (fun _ _ htool => firstRoute_respelled htool htext htool.phrases) htools
  have hcounted : List.Forall₂ SameRoute
      ((r.registry.tools.filterMap (route? · text)).filter r.admits)
      ((r'.registry.tools.filterMap (route? · text')).filter r'.admits) := by
    refine List.rel_filter (fun a a' h => ?_) hroutes
    have hadmits : r.admits a = r'.admits a' := by
      simp only [Router.admits, hmin, hnumber h]
    exact iff_of_eq (congrArg (· = true) hadmits)
  refine forall₂_mergeSort hcounted fun a a' b b' ha hb => ?_
  rw [Router.notAfter, Router.notAfter, hnumber ha, hnumber hb]

/-- **Case and punctuation make no difference.** Texts that are spelled alike
have the same words. So the score of a phrase is the same for both, and the
same if the phrase is spelled alike too; both call for a tool by the same route
and have the same ranking; and if the phrases of tools are spelled alike, the
routes are the same up to the spelling of their phrases. -/
theorem spelling_ignored (text text' : String) (h : SpelledAlike text text') :
    wordsOf text = wordsOf text' ∧
      (∀ phrase phrase', SpelledAlike phrase phrase' →
        score text phrase = score text' phrase' ∧
          scoreNumber (score text phrase) = scoreNumber (score text' phrase')) ∧
      (∀ tool, route? tool text = route? tool text') ∧
      (∀ r : Router, r.rank text = r.rank text') ∧
      (∀ tool tool', Respelled tool tool' →
        Option.Rel SameRoute (route? tool text) (route? tool' text')) ∧
      (∀ r r' : Router, r.minScore = r'.minScore →
        List.Forall₂ Respelled r.registry.tools r'.registry.tools →
        List.Forall₂ SameRoute (r.rank text) (r'.rank text')) := by
  have hwords := h.words
  refine ⟨hwords, fun phrase phrase' hphrase => ?_,
    fun tool => firstRoute_congr hwords tool tool.phrases, rank_congr hwords,
    fun tool tool' htool => firstRoute_respelled htool hwords htool.phrases,
    fun r r' hmin htools => rank_respelled hmin htools hwords⟩
  have hscore := score_congr hwords hphrase.words
  exact ⟨hscore, congrArg scoreNumber hscore⟩

/-- A request with and without its capitals, hyphen and marks, an accented
letter and one with two characters in lower case among the others. -/
theorem spelling_ignored_research :
    SpelledAlike "  Can you, PLEASE: deep-research İzmir & Élan?!"
        "can you please deep research İzmir Élan" ∧
      wordsOf "  Can you, PLEASE: deep-research İzmir & Élan?!" =
        wordsOf "can you please deep research İzmir Élan" := by
  have halike : SpelledAlike "  Can you, PLEASE: deep-research İzmir & Élan?!"
      "can you please deep research İzmir Élan" := .inr (by decide +kernel)
  exact ⟨halike, (spelling_ignored _ _ halike).1⟩

end Match

end Amanuensis
