import Amanuensis.Text.Runs
/-!
# Files of settings

Which file a path means. `Files` are the texts of the files and the further
directories that are there, and the directory in which the program runs. A
path leads from the root if it starts with a slash, and else from that
directory. It is walked part by part: each part but the last has to be a
directory, also one that the next part leaves again. The ending of a file's
name tells its format, and a name without a file of its own stands for that
name with the ending of a format.
-/


namespace Amanuensis

namespace Settings

/-- The files and directories that are there. -/
structure Files where
  /-- The directory in which the program runs, as a path from the root. -/
  home : String
  /-- Texts by the paths of their files. -/
  texts : List (String × String)
  /-- Directories that are there besides those that hold files or the
  program. -/
  directories : List String

/-- The formats of settings. -/
inductive Format where
  | toml
  | json
deriving DecidableEq, Repr

/-- The endings of the names of files, with the format that they tell. -/
def endings : List (String × Format) := [("toml", .toml), ("json", .json)]

/-! ## Paths -/

/-- A place as the names that lead to it from the root, the last one
first. -/
abbrev Trail := List String

/-- The place after one part of a path. A step up from the root stays
there. -/
def Trail.step (t : Trail) (part : String) : Trail :=
  if part = "." then t else if part = ".." then t.tail else part :: t

/-- The parts of a path. -/
def pathParts (path : String) : List String :=
  (Text.runs (· ≠ '/') path.toList).map String.ofList

/-- Does the path lead from the root? -/
def isAbsolute (path : String) : Bool := path.toList.head? = some '/'

/-- Does the path end in a slash, so that it asks for a directory? -/
def asksDirectory (path : String) : Bool := path.toList.getLast? = some '/'

/-- The parts of a path that lead somewhere. -/
def cleanParts (path : String) : List String := (pathParts path).filter (· ≠ ".")

/-- The path without parts that lead nowhere. -/
def cleanPath (path : String) : String :=
  (if isAbsolute path then "/" else "") ++ "/".intercalate (cleanParts path)

/-- The parts that lead from one directory to a place, where both are given
from the root: up to what they have in common, and down again. -/
def partsBetween : (home parts : List String) → List String
  | [], parts => parts
  | home, [] => home.map fun _ => ".."
  | h :: home, p :: parts =>
    if h = p then partsBetween home parts
    else (h :: home).map (fun _ => "..") ++ p :: parts

namespace Files

/-- The place in which the program runs. -/
def homeTrail (f : Files) : Trail := (pathParts f.home).foldl Trail.step []

/-- The place from which a path leads. -/
def origin (f : Files) (path : String) : Trail := if isAbsolute path then [] else f.homeTrail

/-- The place of a path of which all parts are there. -/
def trailOf (f : Files) (path : String) : Trail :=
  (pathParts path).foldl Trail.step (f.origin path)

/-- Is there a directory at a place? -/
def hasDirectory (f : Files) (t : Trail) : Bool :=
  t.isSuffixOf f.homeTrail || f.directories.any (fun path => t.isSuffixOf (f.trailOf path)) ||
    f.texts.any fun e => t.isSuffixOf (f.trailOf e.1) && t != f.trailOf e.1

/-- The place that a walk leads to, if each step of it begins in a
directory. -/
def walk (f : Files) : Trail → List String → Option Trail
  | t, [] => some t
  | t, part :: rest => if f.hasDirectory t then f.walk (t.step part) rest else none

/-- The place of a path, if its parts but the last are there. A slash at the
end asks for a directory. -/
def locate (f : Files) (path : String) : Option Trail :=
  if path.isEmpty then none
  else
    (f.walk (f.origin path) (pathParts path)).filter fun t =>
      !asksDirectory path || f.hasDirectory t

/-- The text of the file at a path. -/
def text? (f : Files) (path : String) : Option String :=
  if asksDirectory path then none
  else (f.locate path).bind fun t => (f.texts.find? fun e => f.trailOf e.1 == t).map (·.2)

/-- Is there a file or a directory at a path? -/
def isThere (f : Files) (path : String) : Bool :=
  (f.text? path).isSome || ((f.locate path).map f.hasDirectory).getD false

/-- The path as it is told: how it leads from the directory of the
program. -/
def label (f : Files) (path : String) : String :=
  if isAbsolute path then "/".intercalate (partsBetween (cleanParts f.home) (cleanParts path))
  else cleanPath path

/-! ## Formats -/

/-- What follows the last dot in the name of a file. A dot at its start
does not count. -/
def endingOf (path : String) : Option String :=
  match Text.splitAt (· = '.') ((pathParts path).getLast?.getD "").toList with
  | [] => none
  | [_] => none
  | [[], _] => none
  | parts => parts.getLast?.map String.ofList

/-- The file that a path means, with its format and its text: the file at
the path if there is one, or else one whose name has an ending besides. A
file of which the format is unknown is none, and a path that ends in a step
up names no file. -/
def find? (f : Files) (path : String) : Option (String × Format × String) :=
  match f.text? path with
  | some text =>
    ((endingOf path).bind fun ending => endings.lookup ending).map fun format =>
      (f.label path, format, text)
  | none =>
    if (cleanParts path).getLast?.getD ".." = ".." then none
    else
      endings.findSome? fun e =>
        let path := cleanPath path ++ "." ++ e.1
        (f.text? path).map fun text => (f.label path, e.2, text)

end Files

end Settings

end Amanuensis
