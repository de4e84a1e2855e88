import Amanuensis.Proofs.Match.Spelling
/-!
# Classes of scores

A request can be like a phrase in six ways, from not at all to word for word
(`Likeness`), and the score tells them apart: whatever the lengths of two
requests and two phrases are, the more alike pair has the greater score
(`classes_apart`). The classes leave gaps around the numbers that a router is
given for a threshold, so that a threshold of six tenths refuses no match
and one of nineteen twentieths all but the whole. Doubles keep the second gap
for requests of fewer than `fullWords` words (`gap_closes`).
-/


namespace Amanuensis

namespace Match

/-- How like a phrase a request is, from the weakest likeness to the
strongest. -/
inductive Likeness where
  | none
  | stemLater
  | stemAtStart
  | wordLater
  | wordAtStart
  | exact
deriving DecidableEq, Repr

/-- The place of a likeness in that order. -/
def Likeness.rank : Likeness → Nat
  | .none => 0
  | .stemLater => 1
  | .stemAtStart => 2
  | .wordLater => 3
  | .wordAtStart => 4
  | .exact => 5

/-- What each likeness says about the words of a phrase and of a request. -/
inductive Alike (phrase input : List Token) : Likeness → Prop
  /-- The two are not compared, or the phrase does not occur. -/
  | none (h : ¬ (Compared phrase input ∧ Nonempty (Occurrence phrase input))) :
      Alike phrase input .none
  /-- Wherever the phrase occurs some word is inflected, and it does not
  occur at the start. -/
  | stemLater (h : Compared phrase input) (occurs : Nonempty (Occurrence phrase input))
      (inflected : ∀ o : Occurrence phrase input, o.words ≠ phrase)
      (later : ∀ o : Occurrence phrase input, o.before ≠ []) : Alike phrase input .stemLater
  /-- Wherever the phrase occurs some word is inflected, and it does occur at
  the start. -/
  | stemAtStart (h : Compared phrase input) (o : Occurrence phrase input)
      (inflected : ∀ o : Occurrence phrase input, o.words ≠ phrase) (atStart : o.before = []) :
      Alike phrase input .stemAtStart
  /-- The phrase occurs word for word, but not at the start. -/
  | wordLater (h : Compared phrase input) (o : Occurrence phrase input) (whole : o.words = phrase)
      (later : ∀ o : Occurrence phrase input, o.words = phrase → o.before ≠ []) :
      Alike phrase input .wordLater
  /-- The phrase occurs word for word at the start, and the request goes on. -/
  | wordAtStart (h : Compared phrase input) (other : input ≠ phrase)
      (o : Occurrence phrase input) (whole : o.words = phrase) (atStart : o.before = []) :
      Alike phrase input .wordAtStart
  /-- The request is the phrase. -/
  | exact (h : Compared phrase input) (same : input = phrase) : Alike phrase input .exact

variable {phrase input phrase' input' : List Token} {like like' : Likeness}
variable {result result' : Option Score}
  {w : Window} {phraseWords inputWords : Nat}

/-! ## The grade of a likeness -/

/-- The grade of a result, zero when the phrase does not fit. -/
def gradeOf : Option Score → Nat
  | none => 0
  | some s => s.grade

namespace Occurrence

/-- A word for word occurrence is worth two grades, one at the start one. -/
theorem grade_eq (o : Occurrence phrase input) :
    o.window.grade =
      (if o.words = phrase then 3 else 1) + if o.before = [] then 1 else 0 := by
  have hstart : o.window.atStart = true ↔ o.before = [] := List.isEmpty_iff
  have hfit : o.window.fit = if o.words = phrase then .word else .stem := rfl
  generalize o.window = w at hstart hfit
  split at hfit <;> split <;> obtain ⟨_ | _, _ | _⟩ := w <;> simp_all [Window.grade]

variable {o o' : Occurrence phrase input}

/-- If some occurrence is word for word the best one is, and at the start
if that one is. -/
theorem best_words (best : ∀ o' : Occurrence phrase input, o'.window.grade ≤ o.window.grade)
    (h : o'.words = phrase) : o.words = phrase ∧ (o'.before = [] → o.before = []) := by
  have hleast := best o'
  rw [o'.grade_eq, o.grade_eq, if_pos h] at hleast
  by_cases hwords : o.words = phrase
  · refine ⟨hwords, fun hstart => ?_⟩
    rw [if_pos hwords, if_pos hstart] at hleast
    by_contra hlater
    rw [if_neg hlater] at hleast
    omega
  · rw [if_neg hwords] at hleast
    split at hleast <;> split at hleast <;> omega

/-- If none is, the best one is at the start if some occurrence is. -/
theorem best_start (best : ∀ o' : Occurrence phrase input, o'.window.grade ≤ o.window.grade)
    (hinflected : o.words ≠ phrase) (h : o'.before = []) : o.before = [] := by
  have hleast := best o'
  rw [o'.grade_eq, o.grade_eq, if_pos h, if_neg hinflected] at hleast
  by_contra hlater
  rw [if_neg hlater] at hleast
  split at hleast <;> omega

end Occurrence

/-- **The grade of a score is the place of the likeness.** -/
theorem Alike.grade_eq (h : Alike phrase input like) (hscored : Scored phrase input result) :
    gradeOf result = like.rank := by
  cases hscored with
  | refused hrefused => cases h <;> first | rfl | exact absurd ‹Compared _ _› hrefused
  | absent hcompared other nowhere =>
    cases h with
    | none => rfl
    | exact _ same => exact absurd same other
    | stemLater _ occurs => exact absurd nowhere (not_isEmpty_iff.2 occurs)
    | stemAtStart _ o | wordLater _ o | wordAtStart _ _ o => exact nowhere.elim o
  | whole hcompared same =>
    subst same
    cases h with
    | none hnone => exact absurd ⟨hcompared, ⟨.refl _⟩⟩ hnone
    | stemLater _ _ inflected | stemAtStart _ _ inflected => exact absurd rfl (inflected (.refl _))
    | wordLater _ _ _ later => exact absurd rfl (later (.refl _) rfl)
    | wordAtStart _ other => exact absurd rfl other
    | exact => rfl
  | window hcompared other o best =>
    change o.window.grade = like.rank
    rw [o.grade_eq]
    cases h with
    | none hnone => exact absurd ⟨hcompared, ⟨o⟩⟩ hnone
    | exact _ same => exact absurd same other
    | stemLater _ _ inflected later => rw [if_neg (inflected o), if_neg (later o)]; rfl
    | stemAtStart _ _ inflected atStart =>
      rw [if_neg (inflected o), if_pos (Occurrence.best_start best (inflected o) atStart)]
      rfl
    | wordLater _ _ whole later =>
      obtain ⟨hwords, -⟩ := Occurrence.best_words best whole
      rw [if_pos hwords, if_neg (later o hwords)]
      rfl
    | wordAtStart _ _ _ whole atStart =>
      obtain ⟨hwords, hstart⟩ := Occurrence.best_words best whole
      rw [if_pos hwords, if_pos (hstart atStart)]
      rfl

theorem rank_injective (h : like.rank = like'.rank) : like = like' := by
  revert h
  cases like <;> cases like' <;> decide

/-- **A phrase and a request are alike in exactly one way.** -/
theorem existsUnique_alike (phrase input : List Token) : ∃! like, Alike phrase input like := by
  have hscored := scoreTokens_scored phrase input
  generalize scoreTokens input phrase = result at hscored
  refine existsUnique_of_exists_of_unique ?_ fun like like' h h' =>
    rank_injective ((h.grade_eq hscored).symm.trans (h'.grade_eq hscored))
  cases hscored with
  | refused hrefused => exact ⟨_, .none fun hboth => hrefused hboth.1⟩
  | absent _ _ nowhere => exact ⟨_, .none fun hboth => not_isEmpty_iff.2 hboth.2 nowhere⟩
  | whole hcompared same => exact ⟨_, .exact hcompared same⟩
  | window hcompared other o best =>
    by_cases hwords : o.words = phrase <;> by_cases hstart : o.before = []
    · exact ⟨_, .wordAtStart hcompared other o hwords hstart⟩
    · exact ⟨_, .wordLater hcompared o hwords fun _ hwords' hstart' =>
        hstart ((Occurrence.best_words best hwords').2 hstart')⟩
    · exact ⟨_, .stemAtStart hcompared o
        (fun _ hwords' => hwords (Occurrence.best_words best hwords').1) hstart⟩
    · exact ⟨_, .stemLater hcompared ⟨o⟩
        (fun _ hwords' => hwords (Occurrence.best_words best hwords').1)
        fun _ hstart' => hstart (Occurrence.best_start best hwords hstart')⟩

/-! ## The numbers of the classes -/

theorem scoreValue_lt (h : Scored phrase input result) (h' : Scored phrase' input' result')
    (hlt : gradeOf result < gradeOf result') : scoreValue result < scoreValue result' := by
  cases result' with
  | none => exact absurd hlt (Nat.not_lt_zero _)
  | some s' =>
    cases result with
    | none => exact value_pos s'
    | some s => exact value_lt h.counted h'.counted hlt

theorem scoreNumber_lt (h : Scored phrase input result) (h' : Scored phrase' input' result')
    (hlt : gradeOf result < gradeOf result') :
    (scoreNumber result).lt (scoreNumber result') = true := by
  cases result' with
  | none => exact absurd hlt (Nat.not_lt_zero _)
  | some s' =>
    cases result with
    | none => exact (scoreNumber_pos h').2 rfl
    | some s => exact number_lt h.counted h'.counted hlt

theorem exact_iff (h : Scored phrase input result) :
    Alike phrase input .exact ↔ result = some .whole := by
  constructor
  · intro halike
    have hgrade : gradeOf result = 5 := halike.grade_eq h
    cases h with
    | refused | absent => cases hgrade
    | whole => rfl
    | window _ _ o => exact absurd hgrade (Nat.ne_of_lt (Nat.lt_succ_of_le (grade_le_four _)))
  · rintro rfl
    cases h with
    | whole hcompared same => exact .exact hcompared same

/-- A window covers less than the whole request unless it is at most a stem
or further on. -/
theorem Scored.part (h : Scored phrase input (some (.window w phraseWords inputWords))) :
    w.grade < 4 ∨ phraseWords < inputWords := by
  cases h with
  | window _ other o =>
    by_cases hopens : o.words = phrase ∧ o.before = []
    · refine .inr (Nat.lt_of_le_of_ne o.length_le fun hlength => other ?_)
      have hcut := o.cut
      rw [hopens.1, hopens.2, List.nil_append] at hcut
      have hafter : o.after = [] := by
        rw [hcut, List.length_append] at hlength
        exact List.length_eq_zero_iff.1 (by omega)
      rwa [hafter, List.append_nil] at hcut
    · refine .inl ?_
      rw [o.grade_eq]
      split
      · rename_i hwords
        rw [if_neg fun hstart => hopens ⟨hwords, hstart⟩]
        decide
      · split <;> decide

theorem scoreValue_lt_95 (h : Scored phrase input result) (hpart : result ≠ some .whole) :
    scoreValue result < 95 / 100 := by
  obtain _ | _ | ⟨w, p, n⟩ := result
  · norm_num [scoreValue]
  · exact absurd rfl hpart
  · exact value_lt_95 h.part h.counted.1 h.counted.2

theorem scoreNumber_lt_95 (h : Scored phrase input result) (hpart : result ≠ some .whole)
    (hshort : input.length < fullWords) : (scoreNumber result).lt (hundredths 95) = true := by
  obtain _ | _ | ⟨w, p, n⟩ := result
  · exact zero_lt_hundredths (by decide)
  · exact absurd rfl hpart
  · have hrest := h.part
    have hcounted := h.counted
    cases h with
    | window => exact number_lt_95 hrest hcounted.1 hcounted.2 hshort

theorem scoreNumber_le_after95 (h : Scored phrase input result) (hpart : result ≠ some .whole) :
    (scoreNumber result).le after95 = true := by
  obtain _ | _ | ⟨w, p, n⟩ := result
  · have hle : (hundredths 0).le (hundredths 95) = true := hundredths_mono (by decide)
    exact Binary64.le_trans hle (Binary64.le_of_lt hundredths_apart.2.1)
  · exact absurd rfl hpart
  · exact number_le_after95 h.counted.1 h.counted.2

theorem scoreNumber_lt_hundred (h : Scored phrase input result) (hpart : result ≠ some .whole) :
    (scoreNumber result).lt (hundredths 100) = true := by
  obtain _ | _ | ⟨w, p, n⟩ := result
  · exact zero_lt_hundredths (by decide)
  · exact absurd rfl hpart
  · have hbelow : (Score.window w p n).number.lt Score.whole.number = true :=
      number_lt h.counted trivial (Nat.lt_succ_of_le (grade_le_four w))
    exact hbelow

/-- **What the score of a phrase for a text can be.** It is zero or between
six tenths and one; it is one for the phrase itself, and below nineteen
twentieths for every other text; and it is a sum that is never cut off. Only
the double of a text of `fullWords` words and more can be rounded up to
nineteen twentieths or to the double after it. -/
structure ScoreRange (input phrase : String) : Prop where
  value_range : scoreValue (score input phrase) = 0 ∨
    6 / 10 ≤ scoreValue (score input phrase) ∧ scoreValue (score input phrase) ≤ 1
  number_range : scoreNumber (score input phrase) = hundredths 0 ∨
    (hundredths 60).le (scoreNumber (score input phrase)) = true ∧
      (scoreNumber (score input phrase)).le (hundredths 100) = true
  value_one : scoreValue (score input phrase) = 1 ↔ Alike (wordsOf phrase) (wordsOf input) .exact
  number_one : scoreNumber (score input phrase) = hundredths 100 ↔
    Alike (wordsOf phrase) (wordsOf input) .exact
  value_lt : ¬ Alike (wordsOf phrase) (wordsOf input) .exact →
    scoreValue (score input phrase) < 95 / 100
  number_lt : ¬ Alike (wordsOf phrase) (wordsOf input) .exact →
    (wordsOf input).length < fullWords →
    (scoreNumber (score input phrase)).lt (hundredths 95) = true
  number_le : ¬ Alike (wordsOf phrase) (wordsOf input) .exact →
    (scoreNumber (score input phrase)).le after95 = true
  whole_sum : ∀ best phraseWords inputWords,
    score input phrase = some (.window best phraseWords inputWords) →
    Score.number (.window best phraseWords inputWords) =
      (best.fit.number.add (hundredths (if best.atStart then 10 else 0))).add
        ((hundredths 5).mul ((Binary64.ofNat phraseWords).div (Binary64.ofNat inputWords)))

theorem scoreRange (input phrase : String) : ScoreRange input phrase := by
  have hscored := score_scored input phrase
  have hexact := exact_iff hscored
  constructor
  · cases hresult : score input phrase with
    | none => exact .inl rfl
    | some s =>
      rw [hresult] at hscored
      exact .inr ⟨sixty_le_value hscored.counted, value_le_one hscored.counted⟩
  · cases hresult : score input phrase with
    | none => exact .inl rfl
    | some s =>
      rw [hresult] at hscored
      exact .inr ⟨sixty_le_number hscored.counted, number_le_hundred hscored.counted⟩
  · rw [hexact]
    constructor
    · intro hone
      by_contra hpart
      have hlt := scoreValue_lt_95 hscored hpart
      rw [hone] at hlt
      norm_num at hlt
    · intro hwhole
      rw [hwhole]
      rfl
  · rw [hexact]
    constructor
    · intro hone
      by_contra hpart
      have hlt := scoreNumber_lt_hundred hscored hpart
      rw [hone] at hlt
      exact absurd hlt (Binary64.lt_irrefl _)
    · intro hwhole
      rw [hwhole]
      rfl
  · exact fun hother => scoreValue_lt_95 hscored (mt hexact.2 hother)
  · exact fun hother => scoreNumber_lt_95 hscored (mt hexact.2 hother)
  · exact fun hother => scoreNumber_le_after95 hscored (mt hexact.2 hother)
  · intro best phraseWords inputWords hresult
    rw [hresult] at hscored
    exact number_window hscored.counted.1 hscored.counted.2

/-! ## Thresholds between the classes -/

variable {registry : Tool.Registry} {least : Binary64} {route : Route} {text : String}

/-- A threshold is reached by a number that is no less. -/
theorem mem_rank_of_le (hle : least.le route.number = true)
    (ht : route.tool ∈ registry.tools) (hchosen : Chosen text route) :
    route ∈ (Router.new registry least).rank text :=
  mem_rank.2 ⟨ht, hchosen, Binary64.clamp_le hle (hundredths_zero_le hchosen.number_unsigned)⟩

/-- A threshold of at most six tenths refuses no match. -/
theorem mem_rank_of_low (hlow : least.le (hundredths 60) = true)
    (ht : route.tool ∈ registry.tools) (hchosen : Chosen text route) :
    route ∈ (Router.new registry least).rank text :=
  mem_rank_of_le (Binary64.le_trans hlow (sixty_le_number hchosen.counted)) ht hchosen

/-- One of nineteen twentieths or more refuses all but the phrase itself. -/
theorem exact_of_high (hhigh : (hundredths 95).le least = true)
    (hshort : (wordsOf text).length < fullWords)
    (hroute : route ∈ (Router.new registry least).rank text) :
    Alike (wordsOf route.phrase) (wordsOf text) .exact := by
  obtain ⟨-, hchosen, hreaches⟩ := mem_rank.1 hroute
  have hscored := hchosen.scored ▸ score_scored text route.phrase
  rw [exact_iff hscored]
  have hnumber : route.number = scoreNumber (some route.score) := rfl
  rw [hnumber] at hreaches
  by_contra hpart
  have hbelow := scoreNumber_lt_95 hscored hpart hshort
  have hleast : (hundredths 95).le (Router.new registry least).minScore = true :=
    Binary64.le_clamp hhigh (hundredths_mono (by decide))
  rw [Binary64.not_lt_of_le (Binary64.le_trans hleast hreaches)] at hbelow
  exact Bool.false_ne_true hbelow

theorem standard_eq_new (registry : Tool.Registry) :
    Router.standard registry = Router.new registry (hundredths 50) :=
  congrArg (Router.mk registry)
    (Binary64.clamp_eq_self (hundredths_mono (by decide)) (hundredths_mono (by decide))).symm

/-- **Classes of scores lie apart**, whatever the two requests and the two
phrases are, and no score lies outside them; a threshold between two classes
parts them. -/
theorem classes_apart (text phrase : String) :
    ScoreRange text phrase ∧
      (∀ (text' phrase' : String) (weaker stronger : Likeness),
        Alike (wordsOf phrase) (wordsOf text) weaker →
        Alike (wordsOf phrase') (wordsOf text') stronger → weaker.rank < stronger.rank →
        scoreValue (score text phrase) < scoreValue (score text' phrase') ∧
          (scoreNumber (score text phrase)).lt (scoreNumber (score text' phrase')) = true) ∧
      (∀ (registry : Tool.Registry) (route : Route), route.tool ∈ registry.tools →
        Chosen text route →
        route ∈ (Router.standard registry).rank text ∧
          ∀ least : Binary64, least.le (hundredths 60) = true →
            route ∈ (Router.new registry least).rank text) ∧
      (∀ (registry : Tool.Registry) (least : Binary64), (hundredths 95).le least = true →
        (wordsOf text).length < fullWords →
        ∀ route ∈ (Router.new registry least).rank text,
          Alike (wordsOf route.phrase) (wordsOf text) .exact) := by
  refine ⟨scoreRange text phrase, ?_, ?_, ?_⟩
  · intro text' phrase' weaker stronger hweaker hstronger hlt
    have hscored := score_scored text phrase
    have hscored' := score_scored text' phrase'
    have hgrade : gradeOf (score text phrase) < gradeOf (score text' phrase') := by
      rwa [hweaker.grade_eq hscored, hstronger.grade_eq hscored']
    exact ⟨scoreValue_lt hscored hscored' hgrade, scoreNumber_lt hscored hscored' hgrade⟩
  · intro registry route ht hchosen
    refine ⟨?_, fun least hlow => mem_rank_of_low hlow ht hchosen⟩
    rw [standard_eq_new]
    exact mem_rank_of_low (hundredths_mono (by decide)) ht hchosen
  · exact fun registry least hhigh hshort route hroute => exact_of_high hhigh hshort hroute

/-- The six classes, none of them empty. -/
example :
    ["ink and paper", "notes on researching ink", "researching ink", "do some research",
        "research ink", "Research!"].map (fun text => gradeOf (score text "research")) =
      [0, 1, 2, 3, 4, 5] := by decide +kernel

/-! ## Where rounding closes a gap -/

/-- A word said over and over. -/
def chant (word : String) : Nat → String
  | 0 => ""
  | n + 1 => chant word n ++ " " ++ word

section Chant

variable {word : String} {token : Token}

theorem wordsOf_chant (hword : wordsOf word = [token]) (n : Nat) :
    wordsOf (chant word n) = List.replicate n token := by
  induction n with
  | zero => rfl
  | succ n ih => rw [chant, wordsOf_append_space, ih, hword, List.replicate_succ']

/-- A word that means something, said once more than the phrase has it. -/
theorem alike_chant (hword : wordsOf word = [token]) (hmeaning : token ∉ stopwords) {n : Nat}
    (hpos : 0 < n) :
    Alike (wordsOf (chant word n)) (wordsOf (chant word (n + 1))) .wordAtStart := by
  have hphrase := wordsOf_chant hword n
  have hinput : wordsOf (chant word (n + 1)) = [] ++ wordsOf (chant word n) ++ [token] := by
    rw [chant, wordsOf_append_space, hword, List.nil_append]
  have hmem : token ∈ wordsOf (chant word (n + 1)) := by
    rw [hinput]
    exact List.mem_append_right _ (List.mem_singleton_self token)
  have hcompared : Compared (wordsOf (chant word n)) (wordsOf (chant word (n + 1))) :=
    ⟨List.ne_nil_of_mem hmem, hphrase ▸ mt (List.replicate_eq_nil_iff token).1 hpos.ne',
      token, hmem, hmeaning⟩
  have hother : wordsOf (chant word (n + 1)) ≠ wordsOf (chant word n) := by
    intro hsame
    have hlength := congrArg List.length hsame
    rw [hinput] at hlength
    simp at hlength
  exact .wordAtStart hcompared hother
    ⟨[], wordsOf (chant word n), [token], hinput, (Occurrence.refl _).matched⟩ rfl rfl

end Chant

/-- Words at the start are scored as such. -/
theorem Alike.score_eq (h : Alike phrase input .wordAtStart)
    (hscored : Scored phrase input result) :
    result = some (.window ⟨.word, true⟩ phrase.length input.length) := by
  have hgrade : gradeOf result = 4 := h.grade_eq hscored
  cases hscored with
  | refused | absent | whole => cases hgrade
  | window _ _ o =>
    have hwindow : o.window = ⟨.word, true⟩ := grade_injective hgrade
    rw [hwindow]

/-- A text of `fullWords` words. -/
def longText : String := chant "ink" fullWords

/-- All but the last word of it. -/
def longPhrase : String := chant "ink" (fullWords - 1)

theorem wordsOf_ink : wordsOf "ink" = ["ink".toList] := by decide +kernel

theorem longText_alike : Alike (wordsOf longPhrase) (wordsOf longText) .wordAtStart :=
  alike_chant wordsOf_ink (n := fullWords - 1) (by decide +kernel) (by decide)

theorem longText_score :
    score longText longPhrase = some (.window ⟨.word, true⟩ (fullWords - 1) fullWords) := by
  have hlength : ∀ n, (wordsOf (chant "ink" n)).length = n := fun n => by
    rw [wordsOf_chant wordsOf_ink, List.length_replicate]
  have hwindow := longText_alike.score_eq (score_scored _ _)
  rwa [longText, longPhrase, hlength, hlength] at hwindow

/-- A tool that is called for by that phrase. -/
def chanter : Tool := { Tool.plain "chant" "Chants" .text with phrases := [longPhrase] }

/-- The route from the text to that tool. -/
def longRoute : Route := ⟨chanter, longPhrase, .window ⟨.word, true⟩ (fullWords - 1) fullWords⟩

theorem longRoute_number : longRoute.number = hundredths 95 := by
  rw [← numberAt_full]
  exact number_window (Nat.sub_le _ _) (by decide)

/-- **Rounding closes one gap**: a text of `fullWords` words that goes on for
one word after the phrase has the double of nineteen twentieths, and reaches a
threshold of as much. And a text of stopwords alone matches no phrase, its own
words included. -/
theorem gap_closes :
    (Alike (wordsOf longPhrase) (wordsOf longText) .wordAtStart ∧
      scoreNumber (score longText longPhrase) = hundredths 95 ∧
      longRoute ∈ (Router.new ⟨[chanter], by decide, by decide⟩ (hundredths 95)).rank longText) ∧
    scoreNumber (score "the" "the") = hundredths 0 ∧
      (scoreNumber (score "the" "the")).lt (scoreNumber (score "Research it" "research")) =
        true := by
  refine ⟨⟨longText_alike, ?_, ?_⟩, by decide +kernel, by decide +kernel⟩
  · rw [longText_score]
    exact longRoute_number
  · have hchosen : Chosen longText longRoute :=
      ⟨⟨[], [], rfl, nofun⟩, positive_of_score longText_score, longText_score⟩
    refine mem_rank_of_le ?_ (List.mem_singleton_self _) hchosen
    rw [longRoute_number]
    exact hundredths_mono (Nat.le_refl 95)

end Match

end Amanuensis
