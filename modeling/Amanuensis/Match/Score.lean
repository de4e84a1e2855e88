import Amanuensis.Binary64.Basic
import Amanuensis.Match.Token
/-!
# Phrase scores

How well a trigger phrase fits a request. A phrase fits where its words
stand in the request one after the other, each as itself or inflected; the
places where it does are its windows. `score` is the best of them:

* `Score.whole`, the request is the phrase and nothing else;
* `Score.window`, graded first by whether every word stands as itself,
  then by whether the window opens the request, and last by the share of
  the request that the phrase covers.

`Score.value` is the grade as an exact fraction and `Score.number` the
double that a threshold is compared with, each of its operations rounded
once.
-/


namespace Amanuensis

namespace Match

/-- How a word of a request, or a whole window, fits the phrase. -/
inductive Fit where
  /-- Every word stands as itself. -/
  | word
  /-- Some word is inflected. -/
  | stem
deriving DecidableEq, Repr

/-- The fewest characters of a phrase's word that may be inflected. -/
def minStemLength : Nat := 3

/-- How a word of the request fits a word of the phrase. -/
def fitWord (input phrase : Token) : Option Fit :=
  if input = phrase then some .word
  else if phrase.length < minStemLength then none
  else if phrase.isPrefixOf input && isInflection (input.drop phrase.length) then some .stem
  else none

/-- A window fits as its worst word does. -/
def Fit.both : Fit → Fit → Fit
  | .word, f => f
  | .stem, _ => .stem

/-- How the leading words of the request fit the words of the phrase. -/
def fitLeading : (phrase input : List Token) → Option Fit
  | [], _ => some .word
  | _ :: _, [] => none
  | want :: phrase, word :: input =>
    match fitWord word want, fitLeading phrase input with
    | some f, some g => some (f.both g)
    | _, _ => none

/-- A place where a phrase fits a request. -/
structure Window where
  fit : Fit
  atStart : Bool
deriving DecidableEq, Repr

/-- The windows of a phrase in a request, from left to right. -/
def windows (phrase : List Token) (atStart : Bool) : (input : List Token) → List Window
  | [] => []
  | word :: input =>
    let rest := windows phrase false input
    match fitLeading phrase (word :: input) with
    | some fit => ⟨fit, atStart⟩ :: rest
    | none => rest

/-- The grade of a window: words before stems, the start before later
places. -/
def Window.grade : Window → Nat
  | ⟨.word, true⟩ => 4
  | ⟨.word, false⟩ => 3
  | ⟨.stem, true⟩ => 2
  | ⟨.stem, false⟩ => 1

/-- The better of two windows, the first when they are equally good. -/
def Window.better (v w : Window) : Window := if v.grade < w.grade then w else v

/-- The best window of a list. -/
def bestWindow : List Window → Option Window
  | [] => none
  | w :: rest =>
    match bestWindow rest with
    | none => some w
    | some v => some (w.better v)

/-- How well a phrase fits a request. -/
inductive Score where
  /-- The request is the phrase. -/
  | whole
  /-- The phrase fits a window of the request; both word counts give the
  share that it covers. -/
  | window (best : Window) (phraseWords inputWords : Nat)
deriving DecidableEq, Repr

/-- The score of a phrase's words for a request's words, if the phrase
fits at all. A request of stopwords alone fits nothing. -/
def scoreTokens (input phrase : List Token) : Option Score :=
  if input.isEmpty || phrase.isEmpty || input.all isStopword then none
  else if input = phrase then some .whole
  else
    match bestWindow (windows phrase true input) with
    | some best => some (.window best phrase.length input.length)
    | none => none

/-- The score of a phrase for a request, if the phrase fits at all. -/
def score (input phrase : String) : Option Score :=
  scoreTokens (tokenize input.toList) (tokenize phrase.toList)

/-! ## The exact grade -/

/-- What a fit is worth. -/
def Fit.worth : Fit → Rat
  | .word => 8 / 10
  | .stem => 6 / 10

/-- The worth of a score: a fit, a bonus for the start of the request, and
a twentieth of the share of the request that the phrase covers. -/
def Score.value : Score → Rat
  | .whole => 1
  | .window best phraseWords inputWords =>
    best.fit.worth + (if best.atStart then 1 / 10 else 0) +
      5 / 100 * ((phraseWords : Rat) / (inputWords : Rat))

/-! ## The grade as a double -/

/-- A number of hundredths, rounded to a double. -/
def hundredths (n : Nat) : Binary64 := Binary64.ofRatio false n 100

/-- What a fit is worth, as a double. -/
def Fit.number : Fit → Binary64
  | .word => hundredths 80
  | .stem => hundredths 60

/-- The worth of a score as a double: fit and bonus are added first, and
the share is divided, weighted and added after. -/
def Score.number : Score → Binary64
  | .whole => hundredths 100
  | .window best phraseWords inputWords =>
    let base := best.fit.number.add (hundredths (if best.atStart then 10 else 0))
    let share := (Binary64.ofNat phraseWords).div (Binary64.ofNat inputWords)
    (base.add ((hundredths 5).mul share)).clamp (hundredths 0) (hundredths 100)

/-- The double of a score, zero when the phrase does not fit. -/
def scoreNumber : Option Score → Binary64
  | none => hundredths 0
  | some s => s.number

end Match

end Amanuensis
