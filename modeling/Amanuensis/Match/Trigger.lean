import Amanuensis.Match.Token
import Amanuensis.Text.Blank
/-!
# Dropping the trigger

A request such as `research: the history of ink` opens with the phrase
that chose its tool. `stripTrigger` drops that phrase, an inflection of
its last word and the separators after it. Where the request does not open
with the phrase, where the phrase runs on into another word, and where
nothing would be left, the trimmed request is kept whole.
-/


namespace Amanuensis

namespace Match

/-- Is the character ASCII punctuation? -/
def isPunctuation (c : Char) : Bool :=
  ('!' ≤ c && c ≤ '/') || (':' ≤ c && c ≤ '@') || ('[' ≤ c && c ≤ '\x60') ||
    ('\x7b' ≤ c && c ≤ '~')

/-- Does the character part the trigger from what follows? -/
def isSeparator (c : Char) : Bool := Text.isBlank c || isPunctuation c

/-- Does the text open with the phrase, up to the case of ASCII letters? -/
def opensWith (phrase s : List Char) : Bool :=
  (s.take phrase.length).map Text.lowerAscii == phrase.map Text.lowerAscii

/-- What follows the phrase, the inflection and the separators at the start
of a trimmed text, if the text opens with these. -/
def afterTrigger (phrase s : List Char) : Option (List Char) :=
  if opensWith phrase s then
    let after := s.drop phrase.length
    if isInflection (Text.lowercase (after.takeWhile Text.isAlphanumeric)) then
      some ((after.dropWhile Text.isAlphanumeric).dropWhile isSeparator)
    else none
  else none

/-- The request without the trigger at its start. -/
def stripTrigger (phrase input : List Char) : List Char :=
  match afterTrigger phrase (Text.trimStart input) with
  | none => Text.trim input
  | some after =>
    let rest := Text.trimEnd after
    if rest.isEmpty then Text.trim input else rest

end Match

end Amanuensis
