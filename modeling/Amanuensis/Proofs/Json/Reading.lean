import Amanuensis.Json.Reader
import Amanuensis.Json.Writer
import Amanuensis.Proofs.Wire.Record
import Mathlib.Data.List.Forall2
/-!
# Parts of a JSON text

What is read of an object when some of its members are asked for: every key
must denote something, every member that is asked for is read, and the others
are skipped (`readMembers_values`, `exists_readMembers`). A string is read
back as it was written, whatever characters it holds (`tokensFrom_quoted`,
`stringOf_pieces`).
-/


namespace Amanuensis

namespace Json

open Wire (valuesAt valuesAt_cons_self valuesAt_cons_of_ne Given)

variable {α : Type} {depth : Nat} {o : Outline} {asked : List (String × Outline)}
variable {members : List (List Piece × Draft)} {js : List (String × Json)} {key : String}

/-! ## Members that are asked for -/

/-- The values that members with a key have, however the key is written. -/
def valuesOf (key : String) (members : List (List Piece × Draft)) : List Draft :=
  (members.filter fun member => stringOf member.1 = some key).map Prod.snd

theorem valuesOf_cons_self {pieces : List Piece} (h : stringOf pieces = some key) (d : Draft)
    (members : List (List Piece × Draft)) :
    valuesOf key ((pieces, d) :: members) = d :: valuesOf key members := by
  rw [valuesOf, List.filter_cons_of_pos (by simpa using h)]
  rfl

theorem valuesOf_cons_of_ne {pieces : List Piece} (h : stringOf pieces ≠ some key) (d : Draft)
    (members : List (List Piece × Draft)) :
    valuesOf key ((pieces, d) :: members) = valuesOf key members := by
  rw [valuesOf, List.filter_cons_of_neg (by simpa using h)]
  rfl

/-- **What is read of an object**: of every key that is asked for, the values
that its members have. -/
theorem readMembers_values (h : readMembers depth (some asked) members = some js) :
    (∀ member ∈ members, ∃ key, stringOf member.1 = some key) ∧
      ∀ key o, Outline.member key asked = some o →
        List.Forall₂ (fun d j => Draft.read depth o d = some j) (valuesOf key members)
          (valuesAt key js) := by
  induction members generalizing js with
  | nil =>
    rw [readMembers, Option.some.injEq] at h
    subst h
    exact ⟨fun _ hmem => absurd hmem List.not_mem_nil, fun _ _ _ => .nil⟩
  | cons member members ih =>
    obtain ⟨pieces, d⟩ := member
    rw [readMembers] at h
    split at h
    · rename_i found rest hfound hrest
      simp only at h
      obtain ⟨hkeys, hvalues⟩ := ih hrest
      refine ⟨List.forall_mem_cons.2 ⟨⟨found, hfound⟩, hkeys⟩, fun key o hkey => ?_⟩
      by_cases hsame : found = key
      · subst hsame
        rw [hkey, Option.map_eq_some_iff] at h
        obtain ⟨j, hread, rfl⟩ := h
        rw [valuesOf_cons_self hfound, valuesAt_cons_self]
        exact .cons hread (hvalues _ o hkey)
      · have hother : stringOf pieces ≠ some key := by
          rw [hfound]
          exact fun heq => hsame (Option.some.inj heq)
        rw [valuesOf_cons_of_ne hother]
        split at h
        · obtain ⟨j, -, rfl⟩ := Option.map_eq_some_iff.1 h
          rw [valuesAt_cons_of_ne hsame]
          exact hvalues key o hkey
        · obtain rfl := Option.some.inj h
          exact hvalues key o hkey
    · cases h

/-- It is read where every key denotes something and so do the members that
are asked for. -/
theorem exists_readMembers (hkeys : ∀ member ∈ members, ∃ key, stringOf member.1 = some key)
    (hread : ∀ key o, Outline.member key asked = some o →
      ∀ d ∈ valuesOf key members, ∃ j, Draft.read depth o d = some j) :
    ∃ js, readMembers depth (some asked) members = some js := by
  induction members with
  | nil => exact ⟨[], by rw [readMembers]⟩
  | cons member members ih =>
    obtain ⟨pieces, d⟩ := member
    obtain ⟨⟨found, hfound⟩, hkeys⟩ := List.forall_mem_cons.1 hkeys
    have hfound : stringOf pieces = some found := hfound
    have hsub : ∀ key, ∀ d' ∈ valuesOf key members, d' ∈ valuesOf key ((pieces, d) :: members) :=
      fun key d' hd' => by
        by_cases hkey : stringOf pieces = some key
        · rw [valuesOf_cons_self hkey]
          exact List.mem_cons_of_mem _ hd'
        · rwa [valuesOf_cons_of_ne hkey]
    obtain ⟨rest, hrest⟩ := ih hkeys fun key o hkey d' hd' => hread key o hkey d' (hsub key d' hd')
    rw [readMembers, hfound, hrest]
    cases hkey : Outline.member found asked with
    | none => exact ⟨rest, by simp only [hkey]⟩
    | some o =>
      have hd : d ∈ valuesOf found ((pieces, d) :: members) := by
        rw [valuesOf_cons_self hfound]
        exact List.mem_cons_self
      obtain ⟨j, hj⟩ := hread found o hkey d hd
      exact ⟨(found, j) :: rest, by simp only [hkey, hj, Option.map_some]⟩

/-- What the values of a member give is what the parts of the text give. -/
theorem given_iff_of_forall₂ {reads : Json → α → Prop} {denotes : Draft → α → Prop}
    (hdenotes : ∀ d a, (∃ j, Draft.read depth o d = some j ∧ reads j a) ↔ denotes d a)
    {default a : α} {ds : List Draft} {values : List Json}
    (h : List.Forall₂ (fun d j => Draft.read depth o d = some j) ds values) :
    Given reads default values a ↔ Given denotes default ds a := by
  constructor
  · intro hgiven
    cases hgiven with
    | absent =>
      cases h
      exact .absent
    | once hreads =>
      obtain _ | ⟨hread, hrest⟩ := h
      cases hrest
      exact .once ((hdenotes _ _).1 ⟨_, hread, hreads⟩)
  · intro hgiven
    cases hgiven with
    | absent =>
      cases h
      exact .absent
    | once hd =>
      obtain _ | ⟨hread, hrest⟩ := h
      cases hrest
      obtain ⟨j, hread', hreads⟩ := (hdenotes _ _).2 hd
      obtain rfl := Option.some.inj (hread.symm.trans hread')
      exact .once hreads

/-- What holds others is read as what holds others. -/
theorem read_composite {d : Draft} {j : Json} (h : Draft.read depth o d = some j) :
    (∀ items, d = .arr items → ∃ values, j = .arr values) ∧
      ∀ members, d = .obj members → ∃ values, j = .obj values := by
  have hmap : ∀ {β : Type} {x : Option β} {f : β → Json}, x.map f = some j → ∃ b, j = f b :=
    fun h => (Option.map_eq_some_iff.1 h).imp fun _ hb => hb.2.symm
  constructor <;> rintro _ rfl <;> rw [Draft.read.eq_def] at h <;> simp only at h
  all_goals
    split at h
    · cases h
    · split at h <;> exact hmap h

/-- They can be read together where each can be read. -/
theorem exists_forall₂ {items : List Draft}
    (h : ∀ d ∈ items, ∃ j, Draft.read depth o d = some j) :
    ∃ values, List.Forall₂ (fun d j => Draft.read depth o d = some j) items values := by
  induction items with
  | nil => exact ⟨[], .nil⟩
  | cons d items ih =>
    obtain ⟨⟨j, hj⟩, hitems⟩ := List.forall_mem_cons.1 h
    obtain ⟨values, hvalues⟩ := ih hitems
    exact ⟨j :: values, .cons hj hvalues⟩

/-- Items are read one for one where everything is asked for. -/
theorem readItems_whole {first : List Outline} (h : ∀ o ∈ first, o = .whole) {items : List Draft}
    {values : List Json} :
    readItems depth .whole first items = some values ↔
      List.Forall₂ (fun d j => Draft.read depth .whole d = some j) items values := by
  induction items generalizing first values with
  | nil => simp only [readItems, Option.some.injEq, List.forall₂_nil_left_iff, eq_comm]
  | cons d items ih =>
    have hfirst : first.head?.getD .whole = .whole := by
      cases first with
      | nil => rfl
      | cons o first => exact h o List.mem_cons_self
    rw [readItems, hfirst]
    constructor
    · intro hread
      split at hread
      · rename_i j js hj hjs
        obtain rfl := Option.some.inj hread
        exact .cons hj ((ih fun o ho => h o (List.mem_of_mem_tail ho)).1 hjs)
      · cases hread
    · rintro (_ | ⟨hj, hjs⟩)
      rw [hj, (ih fun o ho => h o (List.mem_of_mem_tail ho)).2 hjs]

/-! ## Strings as they are written -/

/-- What stands for a character in a string: a control without a letter of its
own as its code, all others as themselves. -/
def pieceOf (c : Char) : Piece :=
  if c.toNat < 32 ∧ c ∉ ['\x08', '\x0c', '\n', '\r', '\t'] then .code c.toNat else .char c

theorem textOf_pieces (s : List Char) : textOf (s.map pieceOf) = some s := by
  induction s with
  | nil => rfl
  | cons c s ih =>
    rw [List.map_cons, pieceOf]
    split
    · rename_i hcontrol
      rw [textOf.eq_def]
      simp only
      rw [if_pos (.inl (by omega)), ih, Char.ofNat_toNat]
      rfl
    · rw [textOf, ih]
      rfl

theorem stringOf_pieces (s : String) : stringOf (s.toList.map pieceOf) = some s := by
  rw [stringOf, textOf_pieces, Option.map_some, String.ofList_toList]

/-- One character of a text. -/
theorem tokensFrom_cons {state next : Scan} {c : Char} {ts done : List Token} {rest : List Char}
    (h : scan state c = some (next, ts)) :
    tokensFrom state done (c :: rest) = tokensFrom next (ts.reverse ++ done) rest := by
  rw [tokensFrom, h]

/-- The digits of a control are its code. -/
theorem hexValue?_hexDigit {n : Nat} (h : n < 32) :
    hexValue? (hexDigit (n / 16)) = some (n / 16) ∧
      hexValue? (hexDigit (n % 16)) = some (n % 16) := by
  have hdigits : ∀ d < 16, hexValue? (hexDigit d) = some d := by decide +kernel
  exact ⟨hdigits _ (by omega), hdigits _ (by omega)⟩

/-- A character of a string is read back. -/
theorem tokensFrom_escapeChar (c : Char) (pieces : List Piece) (done : List Token)
    (rest : List Char) :
    tokensFrom (.text pieces) done (escapeChar c ++ rest) =
      tokensFrom (.text (pieceOf c :: pieces)) done rest := by
  fun_cases escapeChar c with
  | case1 | case2 | case3 | case4 | case5 | case6 | case7 => rfl
  | case8 _ hquote hslash hback hfeed hline hreturn htab hcontrol =>
    obtain ⟨hhigh, hlow⟩ := hexValue?_hexDigit hcontrol
    have hcode : 16 * (c.toNat / 16) + c.toNat % 16 = c.toNat := Nat.div_add_mod _ _
    have hpiece : pieceOf c = .code c.toNat := by
      refine if_pos ⟨hcontrol, ?_⟩
      simp only [List.mem_cons, List.not_mem_nil, or_false, not_or]
      exact ⟨hback, hfeed, hline, hreturn, htab⟩
    have hopen : scan (.text pieces) '\\' = some (.escape pieces, []) := rfl
    have hfour : scan (.escape pieces) 'u' = some (.hex pieces 3 0, []) := rfl
    have hfirst : scan (.hex pieces 3 0) '0' = some (.hex pieces 2 0, []) := rfl
    have hsecond : scan (.hex pieces 2 0) '0' = some (.hex pieces 1 0, []) := rfl
    have hthird : scan (.hex pieces 1 0) (hexDigit (c.toNat / 16)) =
        some (.hex pieces 0 (c.toNat / 16), []) := by
      simp only [scan, hhigh, Nat.mul_zero, Nat.zero_add]
    have hlast : scan (.hex pieces 0 (c.toNat / 16)) (hexDigit (c.toNat % 16)) =
        some (.text (.code c.toNat :: pieces), []) := by
      simp only [scan, hlow, hcode]
    simp only [List.cons_append, List.nil_append]
    rw [tokensFrom_cons hopen, tokensFrom_cons hfour, tokensFrom_cons hfirst,
      tokensFrom_cons hsecond, tokensFrom_cons hthird, tokensFrom_cons hlast, hpiece]
    rfl
  | case9 _ hquote hslash _ _ _ _ _ hplain =>
    have hpiece : pieceOf c = .char c := if_neg fun hcontrol => hplain hcontrol.1
    have hnext : scan (.text pieces) c = some (.text (.char c :: pieces), []) := by
      rw [scan, if_neg hquote, if_neg hslash, if_neg hplain]
    rw [hpiece, List.singleton_append, tokensFrom_cons hnext]
    rfl

theorem tokensFrom_escaped (s : List Char) (pieces : List Piece) (done : List Token)
    (rest : List Char) :
    tokensFrom (.text pieces) done (s.flatMap escapeChar ++ rest) =
      tokensFrom (.text ((s.map pieceOf).reverse ++ pieces)) done rest := by
  induction s generalizing pieces with
  | nil => rfl
  | cons c s ih =>
    rw [List.flatMap_cons, List.append_assoc, tokensFrom_escapeChar, ih, List.map_cons,
      List.reverse_cons, List.append_assoc, List.singleton_append]

/-- **A string is read back**, whatever is in it and behind it. -/
theorem tokensFrom_quoted (s : String) (done : List Token) (rest : List Char) :
    tokensFrom .between done ((quoted s).toList ++ rest) =
      tokensFrom .between (.str (s.toList.map pieceOf) :: done) rest := by
  have hlist : (quoted s).toList ++ rest =
      '"' :: (s.toList.flatMap escapeChar ++ '"' :: rest) := by
    simp only [quoted, String.toList_ofList, List.cons_append, List.append_assoc, List.nil_append]
  have hclose : ∀ pieces : List Piece,
      scan (.text pieces) '"' = some (.between, [.str pieces.reverse]) := fun _ => rfl
  rw [hlist]
  change tokensFrom (.text []) done _ = _
  rw [tokensFrom_escaped, tokensFrom_cons (hclose _)]
  simp only [List.append_nil, List.reverse_reverse, List.reverse_singleton, List.singleton_append]

/-- An object of two strings is read back. -/
theorem parse?_compact_pair (key text key' text' : String) :
    Draft.parse? (compact (.obj [(key, .str text), (key', .str text')])).toList =
      some (.obj [(key.toList.map pieceOf, .str (text.toList.map pieceOf)),
        (key'.toList.map pieceOf, .str (text'.toList.map pieceOf))]) := by
  have hmarks : "\x7b".toList = ['\x7b'] ∧ ":".toList = [':'] ∧ ",".toList = [','] ∧
      "".toList = [] ∧ "\x7d".toList = ['\x7d'] := by decide
  have hlist : (compact (.obj [(key, .str text), (key', .str text')])).toList =
      '\x7b' :: ((quoted key).toList ++ ':' :: ((quoted text).toList ++
        ',' :: ((quoted key').toList ++ ':' :: ((quoted text').toList ++ ['\x7d'])))) := by
    obtain ⟨hopen, hcolon, hcomma, hend, hclose⟩ := hmarks
    simp only [compact, compactMembers, leafText, String.toList_append, List.append_assoc, hopen,
      hcolon, hcomma, hend, hclose, List.cons_append, List.nil_append]
  have hopen : scan .between '\x7b' = some (.between, [.openObj]) := rfl
  have hclose : scan .between '\x7d' = some (.between, [.closeObj]) := rfl
  have hcolon : scan .between ':' = some (.between, [.colon]) := rfl
  have hcomma : scan .between ',' = some (.between, [.comma]) := rfl
  have hbuild : ∀ k s k' s', Draft.ofTokens [.openObj, .str k, .colon, .str s, .comma, .str k',
      .colon, .str s', .closeObj] = some (.obj [(k, .str s), (k', .str s')]) :=
    fun _ _ _ _ => rfl
  rw [Draft.parse?, hlist, tokens, tokensFrom_cons hopen, tokensFrom_quoted,
    tokensFrom_cons hcolon, tokensFrom_quoted, tokensFrom_cons hcomma, tokensFrom_quoted,
    tokensFrom_cons hcolon, tokensFrom_quoted, tokensFrom_cons hclose]
  exact hbuild _ _ _ _

end Json

end Amanuensis
