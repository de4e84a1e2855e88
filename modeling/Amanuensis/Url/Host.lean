import Amanuensis.Url.Domain.Name
import Amanuensis.Url.Percent
/-!
# Hosts

The host of an address in its normal form: a domain name in lower case and
ASCII, or a numeric address written in the usual way, however it was
spelled.
-/


namespace Amanuensis

namespace Url

/-- Why a text is no address. -/
inductive Fault where
  /-- There is no scheme. -/
  | relative
  | emptyHost
  | domain
  | port
  | address4
  | address6
  | hostCharacter
deriving DecidableEq, Repr

/-- The wording of a fault. -/
def Fault.message : Fault → String
  | .relative => "relative URL without a base"
  | .emptyHost => "empty host"
  | .domain => "invalid international domain name"
  | .port => "invalid port number"
  | .address4 => "invalid IPv4 address"
  | .address6 => "invalid IPv6 address"
  | .hostCharacter => "invalid domain character"

/-! ## Addresses of four numbers -/

/-- One number of an address: decimal, hexadecimal or octal. A number that
is too large is there, but has no value. -/
def number4? (s : List Char) : Option (Option Nat) :=
  let valued (base : Nat) (isDigit : Char → Bool) (d : List Char) : Option (Option Nat) :=
    if d.isEmpty then some (some 0)
    else if d.all isDigit then
      let n := Text.digitsIn base d
      some (if n < UInt32.size then some n else none)
    else none
  match s with
  | [] => none
  | '0' :: 'x' :: d => valued 16 Text.isHexDigit d
  | '0' :: 'X' :: d => valued 16 Text.isHexDigit d
  | '0' :: c :: d => valued 8 (fun c => '0' ≤ c && c ≤ '7') (c :: d)
  | d => valued 10 Text.isDigit d

/-- Does the last part of a domain name make it a numeric address? -/
def endsInNumber (parts : List (List Char)) : Bool :=
  let last :=
    match parts.reverse with
    | [] :: before :: _ => before
    | [[]] => []
    | part :: _ => part
    | [] => []
  !last.isEmpty && (last.all Text.isDigit || (number4? last).isSome)

/-- The value of the leading numbers of an address, each a byte. -/
def leadingBytes (place : Nat) : List Nat → Option Nat
  | [] => some 0
  | n :: rest =>
    if 255 < n then none else (leadingBytes (place - 1) rest).map (n * Nat.pow 256 place + ·)

/-- The 32 bits of an address. -/
def address4? (parts : List (List Char)) : Option Nat :=
  let parts :=
    match parts.reverse with
    | [] :: before => before.reverse
    | _ => parts
  if 4 < parts.length then none
  else
    match parts.mapM fun p => (number4? p).join with
    | none => none
    | some numbers =>
      match numbers.reverse with
      | [] => none
      | last :: before =>
        if last < Nat.pow 256 (4 - before.length) then
          (leadingBytes 3 before.reverse).map (· + last)
        else none

/-- An address as four numbers. -/
def text4 (n : Nat) : List Char :=
  let numbers := [n / Nat.pow 256 3, n / Nat.pow 256 2 % 256, n / 256 % 256, n % 256]
  (".".intercalate (numbers.map toString)).toList

/-! ## Addresses of eight groups -/

/-- One group: up to four hexadecimal digits. -/
def group? (s : List Char) : Option (List Nat) :=
  if !s.isEmpty && s.length ≤ 4 && s.all Text.isHexDigit then some [Text.digitsIn 16 s] else none

/-- A number of up to three digits without a leading zero. -/
def byte? (s : List Char) : Option Nat :=
  if !s.isEmpty && s.all Text.isDigit && (s.length = 1 || s.head? ≠ some '0') then
    let n := Text.digitsIn 10 s
    if n < 256 then some n else none
  else none

/-- Two groups that are written as an address of four numbers. -/
def embedded? (s : List Char) : Option (List Nat) :=
  match (Text.splitAt (· = '.') s).mapM byte? with
  | some [a, b, c, d] => some [a * 256 + b, c * 256 + d]
  | _ => none

/-- Some groups, the last perhaps as an address of four numbers. -/
def groups? : List (List Char) → Option (List Nat)
  | [] => some []
  | [s] => group? s <|> embedded? s
  | s :: rest =>
    match group? s, groups? rest with
    | some g, some gs => some (g ++ gs)
    | _, _ => none

/-- The parts before and after the first double colon. -/
def cutDouble : List Char → List Char → Option (List Char × List Char)
  | done, ':' :: ':' :: rest => some (done.reverse, rest)
  | done, c :: rest => cutDouble (c :: done) rest
  | _, [] => none

/-- The groups of a part that may be empty. -/
def side? (s : List Char) : Option (List Nat) :=
  if s.isEmpty then some [] else groups? (Text.splitAt (· = ':') s)

/-- The eight groups of an address. -/
def address6? (s : List Char) : Option (List Nat) :=
  match cutDouble [] s with
  | some (before, after) =>
    match side? before, side? after with
    | some b, some a =>
      if b.length + a.length ≤ 7 ∧ !before.contains '.' then
        some (b ++ List.replicate (8 - b.length - a.length) 0 ++ a)
      else none
    | _, _ => none
  | none => (side? s).filter (·.length = 8)

/-- The place and the length of the longest run of zeros, the first of
several. -/
def longestZeros (place : Nat) : List Nat → Nat × Nat
  | [] => (place, 0)
  | g :: rest =>
    let here := ((g :: rest).takeWhile (· = 0)).length
    let later := longestZeros (place + 1) rest
    if later.2 ≤ here then (place, here) else later

/-- A group in hexadecimal digits. -/
def groupText (g : Nat) : String := String.ofList (Nat.toDigits 16 g)

/-- An address in its usual form: the longest run of two or more zeros is
left out. -/
def text6 (groups : List Nat) : List Char :=
  let join (gs : List Nat) : String := ":".intercalate (gs.map groupText)
  let (place, count) := longestZeros 0 groups
  let text :=
    if 2 ≤ count then join (groups.take place) ++ "::" ++ join (groups.drop (place + count))
    else join groups
  ("[" ++ text ++ "]").toList

/-! ## Domain names -/

/-- A host that is a domain name or an address of four numbers. -/
def domain? (s : List Char) : Except Fault (List Char) :=
  match (textOfBytes? (decodeBytes s)).bind Domain.labels? with
  | none => .error .domain
  | some labels =>
    let name := ['.'].intercalate labels
    if name.isEmpty then .error .emptyHost
    else if endsInNumber labels then
      match address4? labels with
      | some n => .ok (text4 n)
      | none => .error .address4
    else .ok name

/-- A host in brackets. -/
def bracketed? (s : List Char) : Except Fault (List Char) :=
  if s.getLast? = some ']' then
    match address6? (s.drop 1).dropLast with
    | some groups => .ok (text6 groups)
    | none => .error .address6
  else .error .address6

/-- A host of a scheme that the web knows. -/
def host? (s : List Char) : Except Fault (List Char) :=
  match s with
  | [] => .error .emptyHost
  | '[' :: _ => bracketed? s
  | s => domain? s

/-- A host of any other scheme. -/
def plainHost? (s : List Char) : Except Fault (List Char) :=
  match s with
  | '[' :: _ => bracketed? s
  | s =>
    if s.any fun c => c = '\x00' || " #/:<>?@[\\]^|".toList.contains c then .error .hostCharacter
    else .ok (encode isControl s)

end Url

end Amanuensis
