/-!
# Runs of characters

Cutting a text into its maximal runs of characters in a class, or at each
character of a class, and the small letters of ASCII.
-/


namespace Amanuensis

namespace Text

/-- The maximal runs of characters in a class, in order. `run` is the run
under way, backwards. -/
def runsAfter (p : Char → Bool) (run : List Char) : List Char → List (List Char)
  | [] => if run.isEmpty then [] else [run.reverse]
  | c :: rest =>
    if p c then runsAfter p (c :: run) rest
    else if run.isEmpty then runsAfter p [] rest
    else run.reverse :: runsAfter p [] rest

/-- The maximal runs of characters in a class, in order. -/
def runs (p : Char → Bool) (s : List Char) : List (List Char) := runsAfter p [] s

/-- Cuts a text at each character of a class. -/
def splitAt (p : Char → Bool) (s : List Char) : List (List Char) :=
  s.foldr
    (fun c parts =>
      if p c then [] :: parts
      else
        match parts with
        | part :: rest => (c :: part) :: rest
        | [] => [[c]]) [[]]

/-- The small form of an ASCII capital; every other character itself. -/
def lowerAscii (c : Char) : Char :=
  if 'A' ≤ c ∧ c ≤ 'Z' then Char.ofNat (c.toNat + 32) else c

end Text

end Amanuensis
