import Amanuensis.Text.Blank
import Amanuensis.Url.Host
/-!
# Addresses

An absolute address in its normal form, how one is read, and how segments
are added to its path. `parse` is generous, as browsers are: it takes
backslashes for slashes, spells the scheme and the host in lower case,
resolves steps up in the path and percent-encodes what may not stand in
it. `push` adds a text as one segment, except where that text is a step.
-/


namespace Amanuensis

namespace Url

/-- The part of an address that names a server. -/
structure Authority where
  user : List Char
  password : Option (List Char)
  host : List Char
  port : Option Nat
deriving DecidableEq, Repr

/-- The path of an address. -/
inductive Path where
  /-- Segments, each after a slash. -/
  | segments (parts : List (List Char))
  /-- A text that has no segments. -/
  | rootless (text : List Char)
deriving DecidableEq, Repr

end Url

/-- An absolute address. -/
structure Url where
  scheme : String
  authority : Option Url.Authority
  path : Url.Path
  query : Option (List Char)
  fragment : Option (List Char)
deriving DecidableEq, Repr

namespace Url

/-! ## Schemes -/

/-- The schemes that the web knows, and their usual ports. -/
def knownSchemes : List (String × Option Nat) :=
  [("http", some 80), ("https", some 443), ("ws", some 80), ("wss", some 443), ("ftp", some 21),
    ("file", none)]

def isKnown (scheme : String) : Bool := (knownSchemes.lookup scheme).isSome

/-- The port of a scheme that need not be written. -/
def defaultPort (scheme : String) : Option Nat := (knownSchemes.lookup scheme).join

/-- Is the character a letter of ASCII? -/
def isLetter (c : Char) : Bool := ('a' ≤ c && c ≤ 'z') || ('A' ≤ c && c ≤ 'Z')

/-- May the character stand in a scheme? -/
def isSchemeChar (c : Char) : Bool :=
  isLetter c || Text.isDigit c || c = '+' || c = '-' || c = '.'

/-- The scheme of a text, in lower case, and what follows its colon. -/
def scheme? (s : List Char) : Option (String × List Char) :=
  let name := s.takeWhile isSchemeChar
  match name, s.dropWhile isSchemeChar with
  | c :: _, ':' :: rest =>
    if isLetter c then some (String.ofList (name.map Char.toLower), rest) else none
  | _, _ => none

/-! ## Authorities -/

/-- The texts before and after the last of a character, if it is there. -/
def cutLast (p : Char → Bool) (s : List Char) : Option (List Char × List Char) :=
  let after := (s.reverse.takeWhile fun c => !p c).reverse
  if after.length = s.length then none
  else some (s.take (s.length - after.length - 1), after)

/-- The texts before and after the first of a character; nothing after it
where it is not there. -/
def cutFirst (p : Char → Bool) (s : List Char) : List Char × Option (List Char) :=
  match s.dropWhile fun c => !p c with
  | [] => (s, none)
  | _ :: rest => (s.takeWhile fun c => !p c, some rest)

/-- A host and what follows the colon after it. Within brackets colons
belong to the host. -/
def cutHost (inside : Bool) (host : List Char) : List Char → List Char × Option (List Char)
  | [] => (host.reverse, none)
  | c :: rest =>
    if c = ':' ∧ !inside then (host.reverse, some rest)
    else cutHost (c = '[' || (inside && c != ']')) (c :: host) rest

/-- A port and what follows it; the usual port of the scheme is none. A
backslash ends a port. -/
def port? (scheme : String) (s : List Char) : Except Fault (Option Nat × List Char) :=
  let digits := s.takeWhile (· != '\\')
  if digits.all Text.isDigit then
    let n := Text.digitsIn 10 digits
    if 65535 < n then .error .port
    else
      .ok (if digits.isEmpty ∨ some n = defaultPort scheme then none else some n,
        s.dropWhile (· != '\\'))
  else .error .port

/-- A user name and a password. -/
def userInfo (s : List Char) : List Char × Option (List Char) :=
  match cutFirst (· = ':') s with
  | (user, none) => (encode inUserInfo user, none)
  | (user, some []) => (encode inUserInfo user, none)
  | (user, some password) => (encode inUserInfo user, some (encode inUserInfo password))

/-- A host after a user name and a password, if there are any. It may be
empty only in a scheme that the web does not know, and only where nothing
else is said of the server. -/
def namedHost? (scheme : String) (isSaid : Bool) (host : List Char) :
    Except Fault (List Char) :=
  if isKnown scheme then host? host
  else if host.isEmpty ∧ isSaid then .error .emptyHost
  else plainHost? host

/-- An authority, and what of the text belongs to the path. `isAlone` says
that the address ends with the authority. -/
def authority? (scheme : String) (isAlone : Bool) (s : List Char) :
    Except Fault (Authority × List Char) := do
  if s = ['@'] ∧ !isAlone then throw .emptyHost
  let (info, server) := (cutLast (· = '@') s).getD ([], s)
  let (user, password) := userInfo info
  let (host, rest) := cutHost false [] server
  let host ← namedHost? scheme (!user.isEmpty || password.isSome || rest.isSome) host
  let (port, rest) ← port? scheme (rest.getD [])
  return (⟨user, password, host, port⟩, rest)

/-! ## Paths -/

/-- Is the segment a step to the same place? -/
def isSingleDot (s : List Char) : Bool :=
  let s := s.map Char.toLower
  s = ['.'] || s = "%2e".toList

/-- Is the segment a step up? -/
def isDoubleDot (s : List Char) : Bool :=
  let s := s.map Char.toLower
  s = "..".toList || s = ".%2e".toList || s = "%2e.".toList || s = "%2e%2e".toList

/-- Is the segment the name of a drive? A step up does not leave a
drive. -/
def isDrive : List Char → Bool
  | [c, d] => isLetter c && (d = ':' || d = '|')
  | _ => false

/-- The segments without the last one. -/
def up (segments : List (List Char)) : List (List Char) :=
  match segments.getLast? with
  | some last => if isDrive last then segments else segments.dropLast
  | none => []

/-- Adds segments to others, taking the steps among them. -/
def resolve (done : List (List Char)) : List (List Char) → List (List Char)
  | [] => done
  | [s] =>
    if isDoubleDot s then up done ++ [[]]
    else if isSingleDot s then done ++ [[]]
    else done ++ [s]
  | s :: rest =>
    if isDoubleDot s then resolve (up done) rest
    else if isSingleDot s then resolve done rest
    else resolve (done ++ [s]) rest

/-- The segments of a path of a scheme that the web knows. There is at
least one. -/
def knownSegments (s : List Char) : List (List Char) :=
  let isSlash (c : Char) : Bool := c = '/' || c = '\\'
  let s :=
    match s with
    | c :: rest => if isSlash c then rest else c :: rest
    | [] => []
  (Text.splitAt isSlash s).map (encode inPath)

/-- The path of any other scheme after an authority or a slash. -/
def plainPath (s : List Char) : Path :=
  match s with
  | [] => .segments []
  | '/' :: rest => .segments (resolve [] ((Text.splitAt (· = '/') rest).map (encode inPath)))
  | s => .segments (resolve [] ((Text.splitAt (· = '/') s).map (encode inPath)))

/-! ## Files -/

/-- A segment that names a drive, with a colon behind the letter; any other
segment itself. -/
def driveSpelled : List Char → List Char
  | [c, d] => if isDrive [c, d] then [c, ':'] else [c, d]
  | s => s

/-- The segments of a path to a file, without empty ones in front. -/
def tidied (parts : List (List Char)) : List (List Char) :=
  match parts.dropWhile List.isEmpty with
  | [] => [[]]
  | parts => parts

/-- The server and the path of a file. A path that begins with a drive leads
to no other machine. -/
def file (host : Option (List Char)) (parts : List (List Char)) : Option Authority × Path :=
  let parts := resolve [] parts
  let isLocal := (parts.head?.map isDrive).getD false
  (if isLocal then none else host.map fun h => ⟨[], none, h, none⟩,
    .segments (tidied (parts.modifyHead driveSpelled)))

/-- The server and the path of a file after two slashes. A drive in place of
a server belongs to the path, and this machine need not be named. Behind no
server the slash is an empty segment. -/
def remoteFile? (s : List Char) : Except Fault (Option Authority × Path) :=
  let isSlash (c : Char) : Bool := c = '/' || c = '\\'
  let host := s.takeWhile fun c => !isSlash c
  if isDrive host then .ok (file none (knownSegments s))
  else
    let parts := knownSegments (s.dropWhile fun c => !isSlash c)
    if host.isEmpty then .ok (file none ([] :: parts))
    else
      (host? host).map fun h =>
        if h = "localhost".toList then file none ([] :: parts) else file (some h) parts

/-! ## Reading -/

/-- Does the character end an authority? -/
def endsAuthority (known : Bool) (c : Char) : Bool :=
  c = '/' || c = '?' || c = '#' || (known && c = '\\')

/-- The authority and the path of an address after two slashes. -/
def withAuthority (scheme : String) (isLast : Bool) (s : List Char) :
    Except Fault (Option Authority × Path) := do
  let known := isKnown scheme
  let rest := s.dropWhile fun c => !endsAuthority known c
  let (authority, first) ←
    authority? scheme (isLast && rest.isEmpty) (s.takeWhile fun c => !endsAuthority known c)
  return (some authority,
    if known then .segments (resolve [] (knownSegments rest)) else plainPath (first ++ rest))

/-- The authority and the path of an address after its scheme, without
query and fragment; `isLast` says that there are none. -/
def hierarchy (scheme : String) (isLast : Bool) (s : List Char) :
    Except Fault (Option Authority × Path) :=
  let isSlash (c : Char) : Bool := c = '/' || c = '\\'
  if scheme = "file" then
    match s with
    | a :: b :: rest =>
      if isSlash a && isSlash b then remoteFile? rest
      else .ok (file none (knownSegments (a :: b :: rest)))
    | s => .ok (file none (knownSegments s))
  else if isKnown scheme then withAuthority scheme isLast (s.dropWhile isSlash)
  else
    match s with
    | '/' :: '/' :: rest => withAuthority scheme isLast rest
    | '/' :: rest => .ok (none, plainPath ('/' :: rest))
    | s => .ok (none, .rootless (encode isControl s))

/-- Is the character dropped wherever it stands? -/
def isDropped (c : Char) : Bool := c = '\t' || c = '\n' || c = '\r'

/-- The text of an address that is read: without controls and spaces at
its ends and without breaks anywhere. -/
def cleaned (s : List Char) : List Char :=
  let isEdge (c : Char) : Bool := c ≤ ' '
  (Text.dropEndWhile isEdge (s.dropWhile isEdge)).filter fun c => !isDropped c

/-- Reads an absolute address. -/
def parse (text : String) : Except Fault Url :=
  match scheme? (cleaned text.toList) with
  | none => .error .relative
  | some (scheme, s) => do
    let (s, fragment) := cutFirst (· = '#') s
    let (s, query) := cutFirst (· = '?') s
    let (authority, path) ← hierarchy scheme (query.isNone && fragment.isNone) s
    let inThisQuery (c : Char) : Bool := inQuery c || (isKnown scheme && c = '\'')
    return ⟨scheme, authority, path, query.map (encode inThisQuery),
      fragment.map (encode inFragment)⟩

/-! ## Writing -/

/-- The server that an authority names, with its port if it is written. -/
def Authority.server (a : Authority) : List Char :=
  match a.port with
  | some n => a.host ++ ':' :: (toString n).toList
  | none => a.host

/-- An authority after its two slashes. -/
def Authority.text (a : Authority) : List Char :=
  let password :=
    match a.password with
    | some p => ':' :: p
    | none => []
  let info := a.user ++ password
  (if info.isEmpty then [] else info ++ ['@']) ++ a.server

/-- The path of an address. Without an authority before it a path that
begins with an empty segment needs a step in front, so that its slashes do
not begin an authority. -/
def Path.text (isFirst : Bool) : Path → List Char
  | .segments parts =>
    let step :=
      match parts with
      | [] :: _ :: _ => if isFirst then ['/', '.'] else []
      | _ => []
    step ++ parts.flatMap fun s => '/' :: s
  | .rootless text => text

/-- A part that follows a mark, if it is there. -/
def marked (mark : Char) : Option (List Char) → List Char
  | some s => mark :: s
  | none => []

/-- The address. -/
def text (u : Url) : String :=
  let authority :=
    match u.authority with
    | some a => '/' :: '/' :: a.text
    | none => if u.scheme = "file" then ['/', '/'] else []
  u.scheme ++ ":" ++
    String.ofList (authority ++ u.path.text authority.isEmpty ++ marked '?' u.query ++
      marked '#' u.fragment)

/-- The user name and the password of an authority, where they can be told to
the server apart from the address. The name must be a text; a password that
is none may be left out beside a name. -/
def Authority.credentials? (a : Authority) : Option (List Char × List Char) :=
  let textOf? (s : List Char) : Option (List Char) := textOfBytes? (decodeBytes s)
  match textOf? a.user, a.password.bind textOf? with
  | none, _ => none
  | some [], none => none
  | some user, password => some (user, password.getD [])

/-- The credentials that an address holds. -/
def credentials? (u : Url) : Option (List Char × List Char) :=
  u.authority.bind Authority.credentials?

/-- The address without user name and password, as far as these can be told
to the server apart from it. -/
def withoutCredentials (u : Url) : Url :=
  if u.credentials?.isSome then
    { u with authority := u.authority.map fun a => { a with user := [], password := none } }
  else u

/-! ## Adding segments -/

/-- The characters that are encoded in an added segment. -/
def inAddedSegment (scheme : String) (c : Char) : Bool :=
  inSegment c || (isKnown scheme && c = '\\')

/-- Segments with one more; where there is only the empty one, it gives
way. Breaks within the added text are dropped; a step that shows only then
is taken. A drive at the front of a path to a file is spelled as when it is
read. -/
def pushSegment (scheme : String) (parts : List (List Char)) (s : List Char) :
    List (List Char) :=
  if s = ['.'] ∨ s = ['.', '.'] then parts
  else
    let segment := encode (inAddedSegment scheme) (s.filter fun c => !isDropped c)
    let before := if parts = [[]] then [] else parts
    if scheme = "file" then
      tidied (resolve before [if before.isEmpty then driveSpelled segment else segment])
    else resolve before [segment]

/-- The address with one more segment in its path, if its path has
segments. -/
def push (u : Url) (s : List Char) : Option Url :=
  match u.path with
  | .segments parts => some { u with path := .segments (pushSegment u.scheme parts s) }
  | .rootless _ => none

end Url

end Amanuensis
