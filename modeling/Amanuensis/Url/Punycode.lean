/-!
# Punycode

Labels of a domain name beyond ASCII in an ASCII form: the ASCII characters
first, then, for the others in the order of their code points, the steps
that lead from one insertion to the next, each as digits of varying
weight. `encode` writes that form without its usual head, and `decode?`
reads it.
-/


namespace Amanuensis

namespace Url.Punycode

/-- The digit of a value below 36: letters, then numbers. -/
def digit (n : Nat) : Char := Char.ofNat (if n < 26 then 97 + n else 22 + n)

/-- The threshold of the digit at a place. -/
def threshold (place bias : Nat) : Nat :=
  if place ≤ bias then 1 else if bias + 26 ≤ place then 26 else place - bias

theorem threshold_pos (place bias : Nat) : 1 ≤ threshold place bias := by
  unfold threshold
  split
  · omega
  · split <;> omega

theorem threshold_le (place bias : Nat) : threshold place bias ≤ 26 := by
  unfold threshold
  split
  · omega
  · split <;> omega

/-- The digits of a step. -/
def digits (bias place q : Nat) : List Char :=
  let t := threshold place bias
  if q < t then [digit q]
  else digit (t + (q - t) % (36 - t)) :: digits bias (place + 36) ((q - t) / (36 - t))
termination_by q
decreasing_by
  have low := threshold_pos place bias
  have high := threshold_le place bias
  have := Nat.div_le_self (q - threshold place bias) (36 - threshold place bias)
  omega

/-- Divides a step down until it is small, counting the places. -/
def settle (delta place : Nat) : Nat × Nat :=
  if 455 < delta then settle (delta / 35) (place + 36) else (delta, place)
termination_by delta
decreasing_by omega

/-- The bias for the next step. -/
def adapt (delta count : Nat) (first : Bool) : Nat :=
  let delta := if first then delta / 700 else delta / 2
  let (delta, place) := settle (delta + delta / count) 0
  place + 36 * delta / (delta + 38)

/-! ## Writing -/

/-- What an encoder has written, and where it stands. -/
structure State where
  written : List Char
  delta : Nat
  bias : Nat
  done : Nat

/-- Passes one character while the code point `n` is inserted. -/
def pass (basic n : Nat) (s : State) (c : Char) : State :=
  if c.toNat < n then { s with delta := s.delta + 1 }
  else if c.toNat = n then
    { written := s.written ++ digits s.bias 36 s.delta
      delta := 0
      bias := adapt s.delta (s.done + 1) (s.done = basic)
      done := s.done + 1 }
  else s

/-- Inserts each of some ascending code points; `last` is the one before
the first of them. -/
def insertAll (label : List Char) (basic : Nat) (s : State) (last : Nat) : List Nat → State
  | [] => s
  | n :: rest =>
    let s := { s with delta := s.delta + (n - last) * (s.done + 1) }
    let s := label.foldl (pass basic n) s
    insertAll label basic { s with delta := s.delta + 1 } (n + 1) rest

/-- Adds a number to ascending ones, once. -/
def insertOnce (n : Nat) : List Nat → List Nat
  | [] => [n]
  | m :: rest =>
    if n < m then n :: m :: rest else if n = m then m :: rest else m :: insertOnce n rest

/-- A label in its ASCII form. -/
def encode (label : List Char) : List Char :=
  let basic := label.filter fun c => c.toNat < 128
  let others := (label.filter fun c => 128 ≤ c.toNat).foldl (fun l c => insertOnce c.toNat l) []
  let s := insertAll label basic.length ⟨[], 0, 72, basic.length⟩ 128 others
  basic ++ (if basic.isEmpty then [] else ['-']) ++ s.written

/-! ## Reading -/

/-- The value of a digit. -/
def value? (c : Char) : Option Nat :=
  if 'a' ≤ c ∧ c ≤ 'z' then some (c.toNat - 97)
  else if 'A' ≤ c ∧ c ≤ 'Z' then some (c.toNat - 65)
  else if '0' ≤ c ∧ c ≤ '9' then some (c.toNat - 22)
  else none

/-- Reads the digits of a step and adds it to `sum`. Neither the sum nor a
weight may exceed 32 bits. -/
def step? (bias place weight sum : Nat) : List Char → Option (Nat × List Char)
  | [] => none
  | c :: rest =>
    match value? c with
    | none => none
    | some d =>
      let sum := sum + d * weight
      let next := weight * (36 - threshold place bias)
      if UInt32.size ≤ sum then none
      else if d < threshold place bias then some (sum, rest)
      else if UInt32.size ≤ next then none
      else step? bias (place + 36) next sum rest

theorem step?_length {bias place weight sum n : Nat} {s rest : List Char}
    (h : step? bias place weight sum s = some (n, rest)) : rest.length < s.length := by
  induction s generalizing place weight sum with
  | nil => simp [step?] at h
  | cons c s ih =>
    unfold step? at h
    split at h
    · simp at h
    · simp only at h
      split at h
      · simp at h
      · split at h
        · simp only [Option.some.injEq, Prod.mk.injEq] at h
          simp [h.2]
        · split at h
          · simp at h
          · have := ih h
            simp only [List.length_cons]
            omega

/-- The label that insertions into a text make: `n` is the code point and
`i` the place of the next insertion, as far as they are known. -/
def insertSteps (text : List Char) (n i bias : Nat) (s : List Char) : Option (List Char) :=
  if s.isEmpty then some text
  else
    match _h : step? bias 36 1 i s with
    | none => none
    | some (sum, rest) =>
      let count := text.length + 1
      let n := n + sum / count
      let place := sum % count
      if n.isValidChar then
        insertSteps (text.take place ++ [Char.ofNat n] ++ text.drop place) n (place + 1)
          (adapt (sum - i) count (i = 0)) rest
      else none
termination_by s.length
decreasing_by exact step?_length _h

/-- The label that is written in an ASCII form. The ASCII characters end at
the last hyphen. -/
def decode? (s : List Char) : Option (List Char) :=
  let digits := (s.reverse.takeWhile (· != '-')).reverse
  let basic := s.take (s.length - digits.length - 1)
  if basic.isEmpty then insertSteps [] 128 0 72 s else insertSteps basic 128 0 72 digits

end Url.Punycode

end Amanuensis
