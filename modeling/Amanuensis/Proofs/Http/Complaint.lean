import Amanuensis.Http.Status
import Amanuensis.Proofs.Json.Reading
import Amanuensis.Proofs.Text.Trim
/-!
# What a body says of an error

The error that an unsuccessful answer is, for every status and every body. A
body that is an object of which every key can be read says what its members
`error` and `code` say (`Says`), each for itself: a text stands as it is, and
one that is null or absent is left to the status and to the body as a whole.
Other members make no difference. Such a body is surfaced as it is
(`error_surfaced`), whatever characters it holds.

A member of another kind is not left out alone: it takes the other one with it
(`numbered_code_hides_message`), as the two are decoded at once.
-/


namespace Amanuensis

namespace Http

open Json (Draft Piece Outline valuesOf)
open Wire (Given Provides valuesAt)

variable {status : Nat} {body : String} {c : Complaint}

/-! ## Bodies that say something -/

/-- The text that a part of a body stands for, none for null. -/
inductive Denotes : Draft → Option String → Prop
  | null : Denotes .null none
  | text {pieces : List Piece} {s : String} (h : Json.stringOf pieces = some s) :
      Denotes (.str pieces) (some s)

/-- A body that holds a complaint: an object in which neither of its members
is repeated, or an array of at most these two. -/
inductive Holds : Draft → Complaint → Prop
  | object {members : List (List Piece × Draft)} {c : Complaint}
      (keys : ∀ member ∈ members, ∃ key, Json.stringOf member.1 = some key)
      (message : Given Denotes none (valuesOf "error" members) c.message)
      (code : Given Denotes none (valuesOf "code" members) c.code) : Holds (.obj members) c
  | array {items : List Draft} {c : Complaint}
      (message : Given Denotes none (items.take 1) c.message)
      (code : Given Denotes none (items.drop 1) c.code) : Holds (.arr items) c

/-- The complaint of a body. -/
def Says (body : String) (c : Complaint) : Prop :=
  ∃ d, Draft.parse? body.toList = some d ∧ Holds d c

/-- The message for a body that gives none: the first 200 characters of what
stands between the white space at its ends, the status if nothing does. -/
def Beginning (status : Nat) (body message : String) : Prop :=
  ∃ front core back, body.toList = front ++ core ++ back ∧
    (∀ c ∈ front, Text.isBlank c = true) ∧ (∀ c ∈ back, Text.isBlank c = true) ∧
    Text.Trimmed core ∧
    message = if core = [] then statusText status else String.ofList (core.take 200)

/-! ## Reading a complaint -/

namespace Complaint

/-- What is asked for of a body. -/
abbrev asked : List (String × Outline) := [("error", .whole), ("code", .whole)]

/-- What a value of either member gives. -/
abbrev Reads (j : Json) (text : Option String) : Prop :=
  Wire.nullable Wire.string j = .ok text

/-- **What a value gives**: what each of its members gives, for itself. -/
theorem decode_eq_ok {j : Json} :
    decode j = .ok c ↔ ∃ members, Provides ["error", "code"] j members ∧
      Given Reads none (valuesAt "error" members) c.message ∧
      Given Reads none (valuesAt "code" members) c.code := by
  have hkeys : (fields.map Wire.Field.key).Nodup := by decide
  rw [decode, Wire.record_then hkeys]
  simp only [fields, Wire.optional_then, Wire.nothing_then]
  constructor
  · rintro ⟨members, hmembers, message, hmessage, code, hcode, rfl⟩
    exact ⟨members, hmembers, hmessage, hcode⟩
  · rintro ⟨members, hmembers, hmessage, hcode⟩
    exact ⟨members, hmembers, _, hmessage, _, hcode, rfl⟩

theorem reads_iff {j : Json} {text : Option String} :
    Reads j text ↔ j = .null ∧ text = none ∨ ∃ s, j = .str s ∧ text = some s := by
  cases j with
  | null => simp [Wire.nullable, eq_comm]
  | str s => simp [Wire.nullable, Wire.string, Except.map, eq_comm]
  | bool | num | arr | obj => simp [Wire.nullable, Wire.string, Except.map]

/-- **A part of a body gives what it denotes**, however deep it may be nested. -/
theorem denotes_iff (depth : Nat) {d : Draft} {text : Option String} :
    (∃ j, Draft.read depth .whole d = some j ∧ Reads j text) ↔ Denotes d text := by
  simp only [reads_iff]
  constructor
  · rintro ⟨j, hread, hj⟩
    obtain ⟨harr, hobj⟩ := Json.read_composite hread
    cases d with
    | null =>
      obtain rfl : Json.null = j := by simpa only [Draft.read, Option.some.injEq] using hread
      obtain ⟨-, rfl⟩ | ⟨_, ⟨⟩, _⟩ := hj
      exact .null
    | str pieces =>
      rw [Draft.read, Option.map_eq_some_iff] at hread
      obtain ⟨s, hs, rfl⟩ := hread
      obtain ⟨⟨⟩, _⟩ | ⟨_, ⟨⟩, rfl⟩ := hj
      exact .text hs
    | bool b =>
      obtain rfl : Json.bool b = j := by simpa only [Draft.read, Option.some.injEq] using hread
      obtain ⟨⟨⟩, _⟩ | ⟨_, ⟨⟩, _⟩ := hj
    | num n =>
      rw [Draft.read, Option.map_eq_some_iff] at hread
      obtain ⟨_, -, rfl⟩ := hread
      obtain ⟨⟨⟩, _⟩ | ⟨_, ⟨⟩, _⟩ := hj
    | arr items =>
      obtain ⟨_, rfl⟩ := harr items rfl
      obtain ⟨⟨⟩, _⟩ | ⟨_, ⟨⟩, _⟩ := hj
    | obj members =>
      obtain ⟨_, rfl⟩ := hobj members rfl
      obtain ⟨⟨⟩, _⟩ | ⟨_, ⟨⟩, _⟩ := hj
  · intro h
    cases h with
    | null => exact ⟨.null, by rw [Draft.read], .inl ⟨rfl, rfl⟩⟩
    | text h => exact ⟨.str _, by rw [Draft.read, h]; rfl, .inr ⟨_, rfl, rfl⟩⟩

/-- What an object gives: what either member gives. -/
theorem decode_obj_eq_ok {js : List (String × Json)} :
    decode (.obj js) = .ok c ↔
      Given Reads none (valuesAt "error" js) c.message ∧
        Given Reads none (valuesAt "code" js) c.code := by
  rw [decode_eq_ok]
  constructor
  · rintro ⟨_, ⟨⟩, hgiven⟩
    exact hgiven
  · exact fun hgiven => ⟨js, .object js, hgiven⟩

/-- What an array gives: what its items give, the message first. -/
theorem decode_arr_eq_ok {js : List Json} :
    decode (.arr js) = .ok c ↔
      Given Reads none (js.take 1) c.message ∧ Given Reads none (js.drop 1) c.code := by
  have hplaces : js.length ≤ 2 → valuesAt "error" (["error", "code"].zip js) = js.take 1 ∧
      valuesAt "code" (["error", "code"].zip js) = js.drop 1 := by
    intro hfew
    obtain _ | ⟨message, _ | ⟨code, _ | ⟨other, rest⟩⟩⟩ := js
    · exact ⟨rfl, rfl⟩
    · exact ⟨rfl, rfl⟩
    · exact ⟨rfl, rfl⟩
    · simp only [List.length_cons] at hfew
      omega
  rw [decode_eq_ok]
  constructor
  · rintro ⟨_, ⟨⟩ | ⟨hfew⟩, hgiven⟩
    rwa [(hplaces hfew).1, (hplaces hfew).2] at hgiven
  · rintro ⟨hmessage, hcode⟩
    have hfew : js.length ≤ 2 := by
      -- more items would give the code more than one value
      obtain _ | ⟨message, _ | ⟨code, _ | ⟨other, rest⟩⟩⟩ := js
      · exact Nat.zero_le 2
      · exact Nat.le_succ 1
      · exact Nat.le_refl 2
      · exact absurd hcode Wire.not_given_cons_cons
    refine ⟨_, .array hfew, ?_⟩
    rw [(hplaces hfew).1, (hplaces hfew).2]
    exact ⟨hmessage, hcode⟩

/-- No other value gives anything. -/
theorem decode_composite {j : Json} (h : decode j = .ok c) :
    (∃ js, j = .obj js) ∨ ∃ js, j = .arr js := by
  cases j with
  | obj js => exact .inl ⟨js, rfl⟩
  | arr js => exact .inr ⟨js, rfl⟩
  | null | bool | num | str => cases h

/-- What is given can be read. -/
theorem exists_read (depth : Nat) {ds : List Draft} {text : Option String}
    (h : Given Denotes none ds text) : ∀ d ∈ ds, ∃ j, Draft.read depth .whole d = some j := by
  intro d hd
  obtain ⟨j, hj, -⟩ := (denotes_iff depth).2 (h.of_mem hd)
  exact ⟨j, hj⟩

/-- And gives the same once it is read. -/
theorem given_iff {depth : Nat} {ds : List Draft} {js : List Json} {text : Option String}
    (h : List.Forall₂ (fun d j => Draft.read depth .whole d = some j) ds js) :
    Given Reads none js text ↔ Given Denotes none ds text :=
  Json.given_iff_of_forall₂ (fun _ _ => denotes_iff _) h

theorem member_asked {key : String} {o : Outline} (h : Outline.member key asked = some o) :
    o = .whole ∧ (key = "error" ∨ key = "code") := by
  simp only [Outline.member] at h
  split at h
  · rename_i hkey
    exact ⟨(Option.some.inj h).symm, .inl hkey⟩
  · split at h
    · rename_i hkey
      exact ⟨(Option.some.inj h).symm, .inr hkey⟩
    · cases h

/-- **What is read of an object** is what its members give. -/
theorem decode_read_obj {members : List (List Piece × Draft)} :
    (∃ j, Draft.read Json.maxDepth (.record asked) (.obj members) = some j ∧ decode j = .ok c) ↔
      Holds (.obj members) c := by
  have hread : Draft.read Json.maxDepth (.record asked) (.obj members) =
      (Json.readMembers (Json.maxDepth - 1) (some asked) members).map .obj := by
    rw [Draft.read, if_neg (by decide)]
  simp only [hread, Option.map_eq_some_iff]
  constructor
  · rintro ⟨_, ⟨js, hjs, rfl⟩, hj⟩
    obtain ⟨hkeys, hvalues⟩ := Json.readMembers_values hjs
    obtain ⟨hmessage, hcode⟩ := decode_obj_eq_ok.1 hj
    exact .object hkeys ((given_iff (hvalues _ _ rfl)).1 hmessage)
      ((given_iff (hvalues _ _ rfl)).1 hcode)
  · rintro ⟨hkeys, hmessage, hcode⟩
    obtain ⟨js, hjs⟩ : ∃ js, Json.readMembers (Json.maxDepth - 1) (some asked) members = some js :=
      Json.exists_readMembers hkeys fun key o ho => by
        obtain ⟨rfl, rfl | rfl⟩ := member_asked ho
        · exact exists_read _ hmessage
        · exact exists_read _ hcode
    obtain ⟨-, hvalues⟩ := Json.readMembers_values hjs
    exact ⟨_, ⟨js, hjs, rfl⟩, decode_obj_eq_ok.2
      ⟨(given_iff (hvalues _ _ rfl)).2 hmessage, (given_iff (hvalues _ _ rfl)).2 hcode⟩⟩

/-- **What is read of an array** is what its items give. -/
theorem decode_read_arr {items : List Draft} :
    (∃ j, Draft.read Json.maxDepth (.record asked) (.arr items) = some j ∧ decode j = .ok c) ↔
      Holds (.arr items) c := by
  have hread : Draft.read Json.maxDepth (.record asked) (.arr items) =
      (Json.readItems (Json.maxDepth - 1) .whole [.whole, .whole] items).map .arr := by
    rw [Draft.read, if_neg (by decide)]
    rfl
  have hwhole : ∀ o ∈ [Outline.whole, .whole], o = .whole := by simp
  simp only [hread, Option.map_eq_some_iff, Json.readItems_whole hwhole]
  constructor
  · rintro ⟨_, ⟨js, hjs, rfl⟩, hj⟩
    obtain ⟨hmessage, hcode⟩ := decode_arr_eq_ok.1 hj
    exact .array ((given_iff (List.forall₂_take 1 hjs)).1 hmessage)
      ((given_iff (List.forall₂_drop 1 hjs)).1 hcode)
  · rintro (_ | ⟨hmessage, hcode⟩)
    have hitems : ∀ d ∈ items, ∃ j, Draft.read (Json.maxDepth - 1) .whole d = some j := by
      rw [← List.take_append_drop 1 items, List.forall_mem_append]
      exact ⟨exists_read _ hmessage, exists_read _ hcode⟩
    obtain ⟨js, hjs⟩ := Json.exists_forall₂ hitems
    exact ⟨_, ⟨js, hjs, rfl⟩, decode_arr_eq_ok.2 ⟨(given_iff (List.forall₂_take 1 hjs)).2 hmessage,
      (given_iff (List.forall₂_drop 1 hjs)).2 hcode⟩⟩

/-- **What is read of a body is what it holds.** -/
theorem decode_read_iff {d : Draft} :
    (∃ j, Draft.read Json.maxDepth (.record asked) d = some j ∧ decode j = .ok c) ↔
      Holds d c := by
  cases d with
  | obj members => exact decode_read_obj
  | arr items => exact decode_read_arr
  | null | bool | num | str =>
    -- what is read of a single value is a single value
    refine iff_of_false ?_ (by rintro ⟨⟩)
    rintro ⟨j, hread, hj⟩
    obtain ⟨js, rfl⟩ | ⟨js, rfl⟩ := decode_composite hj <;> simp [Draft.read] at hread

/-- A body that says something is read as what it says. -/
theorem read_of_says (h : Says body c) : read body = c := by
  obtain ⟨d, hparse, hholds⟩ := h
  obtain ⟨j, hread, hj⟩ := decode_read_iff.2 hholds
  have hbody : Json.readAs? (.record asked) body = some j := by
    rw [Json.readAs?, hparse]
    exact hread
  rw [read, hbody]
  simp only [hj]

/-- Any other body is read as one that says nothing. -/
theorem read_of_not_says (h : ¬ ∃ c, Says body c) : read body = ⟨none, none⟩ := by
  rw [read]
  split
  · rfl
  · rename_i j hbody
    split
    · rename_i c hj
      rw [Json.readAs?] at hbody
      split at hbody
      · rename_i d hparse
        exact absurd ⟨c, d, hparse, decode_read_iff.1 ⟨j, hbody, hj⟩⟩ h
      · cases hbody
    · rfl

end Complaint

/-! ## The error of an answer -/

/-- The message that is left to the body as a whole. -/
theorem beginning_defaultMessage (status : Nat) (body : String) :
    Beginning status body (defaultMessage status body) := by
  obtain ⟨front, hfront, hfrontBlank⟩ := Text.exists_trimStart body.toList
  obtain ⟨back, hback, hbackBlank⟩ := Text.exists_trimEnd (Text.trimStart body.toList)
  have hcut : body.toList = front ++ Text.trim body.toList ++ back := by
    rw [List.append_assoc, Text.trim, ← hback]
    exact hfront
  refine ⟨front, Text.trim body.toList, back, hcut, hfrontBlank, hbackBlank,
    Text.trim_trimmed _, ?_⟩
  rw [defaultMessage]
  exact if_congr List.isEmpty_iff rfl rfl

/-- A body that is written with a message and a code says these. -/
theorem says_written (message code : String) :
    Says (Json.compact (.obj [("error", .str message), ("code", .str code)]))
      ⟨some message, some code⟩ := by
  have herror := Json.stringOf_pieces "error"
  have hcode := Json.stringOf_pieces "code"
  refine ⟨_, Json.parse?_compact_pair "error" message "code" code, .object ?_ ?_ ?_⟩
  · exact List.forall_mem_cons.2 ⟨⟨_, herror⟩, List.forall_mem_cons.2 ⟨⟨_, hcode⟩, nofun⟩⟩
  · have hother : Json.stringOf ("code".toList.map Json.pieceOf) ≠ some "error" := by
      rw [hcode]
      decide
    rw [Json.valuesOf_cons_self herror, Json.valuesOf_cons_of_ne hother]
    exact .once (.text (Json.stringOf_pieces message))
  · have hother : Json.stringOf ("error".toList.map Json.pieceOf) ≠ some "code" := by
      rw [herror]
      decide
    rw [Json.valuesOf_cons_of_ne hother, Json.valuesOf_cons_self hcode]
    exact .once (.text (Json.stringOf_pieces code))

/-- **The error of an unsuccessful answer**, for every status and every body.
Where the body says something its message and its code stand, each by itself,
and only what is left out is filled in: the code from the status, the message
from the beginning of the body. Where it says nothing both are filled in. So a
body that is written with a message and a code is surfaced as it is, whatever
characters are in them. -/
theorem error_surfaced (status : Nat) (body : String) :
    (∃ code message default,
      apiError status body = .api code message ∧ Beginning status body default ∧
        (∀ c, Says body c →
          code = c.code.getD (if status = 429 then "RATE_LIMIT" else "HTTP_" ++ toString status) ∧
            message = c.message.getD default) ∧
        ((¬ ∃ c, Says body c) →
          code = (if status = 429 then "RATE_LIMIT" else "HTTP_" ++ toString status) ∧
            message = default)) ∧
      ∀ message code,
        apiError status (Json.compact (.obj [("error", .str message), ("code", .str code)])) =
          .api code message := by
  constructor
  · refine ⟨(complaint status body).1, (complaint status body).2, defaultMessage status body, rfl,
      beginning_defaultMessage status body, fun c hsaid => ?_, fun hnone => ?_⟩
    · rw [complaint, Complaint.read_of_says hsaid]
      exact ⟨rfl, rfl⟩
    · rw [complaint, Complaint.read_of_not_says hnone]
      exact ⟨rfl, rfl⟩
  · intro message code
    rw [apiError, complaint, Complaint.read_of_says (says_written message code)]
    rfl

/-- A message without a code, next to a member that holds a number no double
can be: the code alone is filled in. -/
theorem query_surfaced :
    Says "\x7b\"trace\": [1e999], \"error\": \"Query is required\"\x7d"
        ⟨some "Query is required", none⟩ ∧
      apiError 429 "\x7b\"trace\": [1e999], \"error\": \"Query is required\"\x7d" =
        .api "RATE_LIMIT" "Query is required" := by
  have hbody : Says "\x7b\"trace\": [1e999], \"error\": \"Query is required\"\x7d"
      ⟨some "Query is required", none⟩ := by
    refine ⟨_, rfl, .object ?_ (.once (.text rfl)) .absent⟩
    exact List.forall_mem_cons.2 ⟨⟨_, rfl⟩, List.forall_mem_cons.2 ⟨⟨_, rfl⟩, nofun⟩⟩
  obtain ⟨⟨_, _, _, herror, -, hsaid, -⟩, -⟩ :=
    error_surfaced 429 "\x7b\"trace\": [1e999], \"error\": \"Query is required\"\x7d"
  obtain ⟨rfl, rfl⟩ := hsaid _ hbody
  exact ⟨hbody, herror⟩

/-- **A member of another kind hides the other one.** The body is an object,
each of its keys stands once, and its message is a text; but its code is a
number, so the message that is surfaced is the body as it is written. -/
theorem numbered_code_hides_message :
    (∃ message code, Draft.parse?
          "\x7b\"error\": \"Query is required\", \"code\": 42\x7d".toList =
        some (.obj [("error".toList.map .char, message), ("code".toList.map .char, code)]) ∧
      Denotes message (some "Query is required")) ∧
    apiError 400 "\x7b\"error\": \"Query is required\", \"code\": 42\x7d" =
      .api "HTTP_400" "\x7b\"error\": \"Query is required\", \"code\": 42\x7d" := by
  refine ⟨⟨_, _, rfl, .text rfl⟩, ?_⟩
  decide +kernel

end Http

end Amanuensis
