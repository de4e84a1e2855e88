import Amanuensis.Http.Exchange
import Amanuensis.Json.Writer
import Amanuensis.Text.Base64
/-!
# Frames

Messages and answers as the bytes that pass over a connection, by HTTP/1.1.
`Message.frame` is what is sent. `Exchange.ofBytes?` reads what has come
back so far: nothing while more has to come, and otherwise what came of the
message. A connection that closes before the head of an answer is complete
has refused the message; one that closes within the body has cut it short.
-/


namespace Amanuensis

namespace Http

/-! ## Messages -/

/-- The bytes of a text. -/
def bytesOf (s : String) : List UInt8 := s.toUTF8.toList

/-- What is asked for at a server. -/
def target (u : Url) : String :=
  let path := u.path.text false
  String.ofList ((if path.isEmpty then ['/'] else path) ++ Url.marked '?' u.query)

/-- The server of an address, with its port if it is written. -/
def serverOf (u : Url) : String :=
  match u.authority with
  | some a => String.ofList a.server
  | none => ""

/-- What a server is told of a user name and a password. -/
def authorization (user password : List Char) : String :=
  "Basic " ++ String.ofList (Text.base64 ((user ++ ':' :: password).flatMap Url.utf8Char))

/-- The fields of a message whose body has the given bytes. -/
def Message.fields (m : Message) (body : List UInt8) : List (String × String) :=
  let credentials :=
    match m.credentials with
    | some (user, password) => [("authorization", authorization user password)]
    | none => []
  [("host", serverOf m.url), ("user-agent", userAgent), ("accept", "*/*"),
    ("connection", "close")] ++ credentials ++
    if m.body.isSome then
      [("content-type", contentType), ("content-length", toString body.length)]
    else []

/-- A message as it is sent. -/
def Message.frame (m : Message) : List UInt8 :=
  let body := (m.body.map fun j => bytesOf j.compact).getD []
  let first := m.method.text ++ " " ++ target m.url ++ " HTTP/1.1\r\n"
  let fields := (m.fields body).map fun f => f.1 ++ ": " ++ f.2 ++ "\r\n"
  bytesOf (first ++ String.join fields ++ "\r\n") ++ body

/-! ## Heads -/

/-- The first line of some bytes, without its end, and what follows it, if
the line is complete. -/
def line? (s : List UInt8) : Option (String × List UInt8) :=
  match s.dropWhile (· != 10) with
  | [] => none
  | _ :: rest =>
    let line := (s.takeWhile (· != 10)).map fun b => Char.ofNat b.toNat
    some (String.ofList (if line.getLast? = some '\r' then line.dropLast else line), rest)

/-- The lines before the first empty one, and what follows that. -/
def head? : (fuel : Nat) → List UInt8 → Option (List String × List UInt8)
  | 0, _ => none
  | fuel + 1, s =>
    match line? s with
    | none => none
    | some ("", rest) => some ([], rest)
    | some (line, rest) => (head? fuel rest).map fun h => (line :: h.1, h.2)

/-- The status that a first line gives. -/
def statusOf? (line : String) : Option Nat :=
  match line.toList with
  | 'H' :: 'T' :: 'T' :: 'P' :: '/' :: '1' :: '.' :: _ :: ' ' :: a :: b :: c :: rest =>
    let digits := [a, b, c]
    if digits.all Text.isDigit && (rest.isEmpty || rest.head? = some ' ') then
      some (Text.digitsIn 10 digits)
    else none
  | _ => none

/-- A field of a head: its name in lower case, and its value. -/
def fieldOf? (line : String) : Option (String × String) :=
  match Url.cutFirst (· = ':') line.toList with
  | (name, some value) =>
    some (String.ofList (name.map Char.toLower), String.ofList (Text.trim value))
  | (_, none) => none

/-- How far a body goes. -/
inductive Extent where
  | bytes (count : Nat)
  | chunks
  /-- To the end of the connection. -/
  | rest
deriving DecidableEq, Repr

/-- How far the body goes after a head. -/
def extentOf (status : Nat) (fields : List (String × String)) : Extent :=
  if status = 204 ∨ status = 304 then .bytes 0
  else
    match fields.lookup "transfer-encoding", fields.lookup "content-length" with
    | some "chunked", _ => .chunks
    | _, some n => (Text.digits? n.toList).elim .rest .bytes
    | _, none => .rest

/-! ## Bodies -/

/-- What chunks hold, as far as they have come. -/
structure Chunks where
  bytes : List UInt8
  /-- Has the last chunk come? -/
  complete : Bool
  /-- Is what follows no chunk? -/
  malformed : Bool

/-- The size that the first line of a chunk gives. -/
def chunkSize? (line : String) : Option Nat :=
  let digits := line.toList.takeWhile Text.isHexDigit
  if digits.isEmpty then none else some (Text.digitsIn 16 digits)

/-- Puts chunks together. -/
def joinChunks : (fuel : Nat) → List UInt8 → Chunks
  | 0, _ => ⟨[], false, true⟩
  | fuel + 1, s =>
    match line? s with
    | none => ⟨[], false, false⟩
    | some (line, rest) =>
      match chunkSize? line with
      | none => ⟨[], false, true⟩
      | some 0 => ⟨[], (head? (rest.length + 1) rest).isSome, false⟩
      | some n =>
        match rest.drop n with
        | 13 :: 10 :: more =>
          let after := joinChunks fuel more
          { after with bytes := rest.take n ++ after.bytes }
        | left => ⟨rest.take n, false, 2 ≤ left.length⟩

/-- The answer with a status whose body begins so. -/
def bodyFrom (status : Nat) (closed : Bool) (s : List UInt8) : Extent → Option Exchange
  | .bytes n =>
    if n ≤ s.length then some (.answered status (s.take n) true)
    else if closed then some (.answered status s false)
    else none
  | .chunks =>
    let c := joinChunks (s.length + 1) s
    if c.complete then some (.answered status c.bytes true)
    else if c.malformed || closed then some (.answered status c.bytes false)
    else none
  | .rest => if closed then some (.answered status s true) else none

/-- What came of a message, from the bytes that have come back. Answers
that only announce another one are passed over. -/
def exchangeFrom : (fuel : Nat) → (closed : Bool) → List UInt8 → Option Exchange
  | 0, _, _ => some .refused
  | fuel + 1, closed, s =>
    match head? (s.length + 1) s with
    | none => if closed then some .refused else none
    | some ([], _) => some .refused
    | some (first :: lines, rest) =>
      match statusOf? first with
      | none => some .refused
      | some status =>
        if 100 ≤ status ∧ status < 200 then exchangeFrom fuel closed rest
        else bodyFrom status closed rest (extentOf status (lines.filterMap fieldOf?))

/-- What came of a message, from the bytes that have come back and from
whether the connection has closed; nothing while more has to come. -/
def Exchange.ofBytes? (closed : Bool) (s : List UInt8) : Option Exchange :=
  exchangeFrom (s.length + 1) closed s

end Http

end Amanuensis
