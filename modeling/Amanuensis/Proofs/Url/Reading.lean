import Amanuensis.Proofs.Text.Runs
import Amanuensis.Proofs.Text.Trim
import Amanuensis.Proofs.Url.Segments
import Mathlib.Data.List.TakeWhile
/-!
# Reading an address that goes on

What is read of a text to which a path is added. The scheme stays
(`scheme?_append`), and so does all that stands before a query or a fragment
(`hierarchyOf_append`), so that only the end of the path differs. An address of
a scheme that the web knows is read part by part (`parse_of_known`): its server
is the same whatever path follows (`serverText_append`).
-/


namespace Amanuensis

namespace Url

open Text (BeginsApart beginsApart_nil beginsApart_cons)

variable {s t x front : List Char} {scheme : String} {p : Char → Bool}

/-! ## What follows -/

/-- A text that is empty or begins with a slash. -/
def Slashed (s : List Char) : Prop := ∀ c ∈ s.head?, c = '/'

theorem Slashed.beginsApart (h : Slashed x) (hp : p '/' = false) : BeginsApart p x := by
  intro c hc
  rw [h c hc, hp]

theorem slashed_replicate (n : Nat) : Slashed (List.replicate n '/') := by
  intro c hc
  exact List.eq_of_mem_replicate (List.mem_of_mem_head? hc)

theorem slashed_cons (s : List Char) : Slashed ('/' :: s) := by
  intro c hc
  exact (Option.some.inj hc).symm

theorem all_slashes (hp : p '/' = true) (n : Nat) : (List.replicate n '/').all p = true :=
  List.all_eq_true.2 fun c hc => by rw [List.eq_of_mem_replicate hc, hp]

/-! ## The ends of a text -/

/-- Is the character a control or a space? -/
def isEdge (c : Char) : Bool := c ≤ ' '

theorem isDropped_isEdge {c : Char} (h : isDropped c = true) : isEdge c = true := by
  simp only [isDropped, Bool.or_eq_true, decide_eq_true_eq] at h
  obtain (rfl | rfl) | rfl := h <;> rfl

/-- What of a text is read if more follows. -/
def opened (s : List Char) : List Char := (s.dropWhile isEdge).filter fun c => !isDropped c

theorem cleaned_eq (s : List Char) :
    cleaned s = (Text.dropEndWhile isEdge (s.dropWhile isEdge)).filter fun c => !isDropped c := rfl

theorem cleaned_eq_self (h : ∀ c ∈ s, isEdge c = false) : cleaned s = s := by
  have hfirst : BeginsApart isEdge s := fun c hc => h c (List.mem_of_mem_head? hc)
  have hlast : BeginsApart isEdge s.reverse := fun c hc =>
    h c (List.mem_reverse.1 (List.mem_of_mem_head? hc))
  rw [cleaned_eq, hfirst.dropWhile_eq_self, Text.dropEndWhile, hlast.dropWhile_eq_self,
    List.reverse_reverse]
  refine List.filter_eq_self.2 fun c hc => ?_
  rw [Bool.not_eq_true']
  refine Bool.eq_false_iff.2 fun hdropped => ?_
  have hedge := h c hc
  rw [isDropped_isEdge hdropped] at hedge
  cases hedge

/-- A text is read in front of another as it is when more follows. -/
theorem cleaned_append (hx : x ≠ []) (hapart : BeginsApart isEdge x) (s : List Char) :
    cleaned (s ++ x) = opened s ++ cleaned x := by
  have hsome : Text.dropEndWhile isEdge x ≠ [] := by
    intro hnil
    obtain ⟨c, rest, rfl⟩ := List.exists_cons_of_ne_nil hx
    have hall := List.rdropWhile_eq_nil_iff.1 hnil c List.mem_cons_self
    rw [beginsApart_cons.1 hapart] at hall
    cases hall
  rw [cleaned_eq, cleaned_eq, hapart.dropWhile_append, hapart.dropWhile_eq_self,
    Text.dropEndWhile_append hsome, List.filter_append]
  rfl

/-- A text that does not end in an edge is read alike if nothing follows. -/
theorem cleaned_eq_opened (h : ∀ c ∈ s.getLast?, isEdge c = false) : cleaned s = opened s := by
  have hkept : Text.dropEndWhile isEdge (s.dropWhile isEdge) = s.dropWhile isEdge := by
    refine List.rdropWhile_eq_self_iff.2 fun hne => ?_
    have hlast : (s.dropWhile isEdge).getLast hne ∈ s.getLast? := by
      have hsame : (s.takeWhile isEdge ++ s.dropWhile isEdge).getLast? = some _ :=
        (List.getLast?_append_of_ne_nil _ hne).trans (List.getLast?_eq_some_getLast hne)
      rwa [List.takeWhile_append_dropWhile] at hsame
    rw [h _ hlast]
    exact Bool.false_ne_true
  rw [cleaned_eq, hkept]
  rfl

/-! ## The scheme -/

/-- The scheme of a text that begins with a name and goes on with a rest. -/
def schemeOf (name rest : List Char) : Option (String × List Char) :=
  match name, rest with
  | c :: _, ':' :: rest =>
    if isLetter c then some (String.ofList (name.map Char.toLower), rest) else none
  | _, _ => none

theorem scheme?_eq (s : List Char) :
    scheme? s = schemeOf (s.takeWhile isSchemeChar) (s.dropWhile isSchemeChar) := rfl

theorem schemeOf_of_ne {c : Char} (hc : c ≠ ':') (name rest : List Char) :
    schemeOf name (c :: rest) = none := by
  unfold schemeOf
  split
  · rename_i heq
    exact absurd (List.cons.inj heq).1 hc
  · rfl

/-- **What follows a scheme does not change it.** -/
theorem scheme?_append (hx : Slashed x) (s : List Char) :
    scheme? (s ++ x) = (scheme? s).map fun w => (w.1, w.2 ++ x) := by
  have hapart : BeginsApart isSchemeChar x := hx.beginsApart rfl
  rw [scheme?_eq, scheme?_eq, hapart.takeWhile_append, hapart.dropWhile_append]
  generalize s.takeWhile isSchemeChar = name
  cases s.dropWhile isSchemeChar with
  | nil =>
    -- without a colon there is no scheme, and what follows does not begin with one
    have hnone : schemeOf name [] = none := by cases name <;> rfl
    rw [hnone, List.nil_append]
    cases x with
    | nil => exact hnone
    | cons c x =>
      rw [hx c rfl]
      exact schemeOf_of_ne (by decide) name x
  | cons c rest =>
    rw [List.cons_append]
    by_cases hc : c = ':'
    · subst hc
      cases name with
      | nil => rfl
      | cons d name =>
        simp only [schemeOf]
        split <;> rfl
    · rw [schemeOf_of_ne hc, schemeOf_of_ne hc]
      rfl

/-! ## What stands before a query or a fragment -/

/-- Does the character begin neither a query nor a fragment? -/
def isHierarchic (c : Char) : Bool := c != '#' && c != '?'

/-- What of the text behind a scheme names a server and a path. -/
def hierarchyOf (s : List Char) : List Char := s.takeWhile isHierarchic

/-- Is that all of it? -/
def isWhole (s : List Char) : Bool := s.all isHierarchic

theorem isWhole_append (s x : List Char) : isWhole (s ++ x) = (isWhole s && isWhole x) :=
  List.all_append

theorem hierarchyOf_eq_self_iff : hierarchyOf s = s ↔ isWhole s = true := by
  rw [hierarchyOf, List.takeWhile_eq_self_iff, isWhole, List.all_eq_true]

/-- **What follows belongs to it** only if nothing began before. -/
theorem hierarchyOf_append (s x : List Char) :
    hierarchyOf (s ++ x) = if isWhole s then s ++ hierarchyOf x else hierarchyOf s := by
  have hlength : (s.takeWhile isHierarchic).length = s.length ↔ isWhole s = true := by
    rw [← hierarchyOf_eq_self_iff]
    exact ⟨(List.takeWhile_prefix _).eq_of_length, congrArg List.length⟩
  rw [hierarchyOf, List.takeWhile_append]
  exact if_congr hlength rfl rfl

theorem cutFirst_fst (p : Char → Bool) (s : List Char) :
    (cutFirst p s).1 = s.takeWhile fun c => !p c := by
  unfold cutFirst
  split
  · rename_i hnil
    have happend := List.takeWhile_append_dropWhile (p := fun c => !p c) (l := s)
    rw [hnil, List.append_nil] at happend
    exact happend.symm
  · rfl

theorem cutFirst_isNone (p : Char → Bool) (s : List Char) :
    (cutFirst p s).2.isNone = s.all fun c => !p c := by
  unfold cutFirst
  split
  · rename_i hnil
    rw [eq_comm]
    exact List.all_eq_true.2 (List.dropWhile_eq_nil_iff.1 hnil)
  · rename_i c rest hcons
    rw [eq_comm]
    refine Bool.eq_false_iff.2 fun hall => ?_
    rw [List.dropWhile_eq_nil_iff.2 (List.all_eq_true.1 hall)] at hcons
    cases hcons

theorem hierarchyOf_eq (s : List Char) :
    (cutFirst (· = '?') (cutFirst (· = '#') s).1).1 = hierarchyOf s := by
  rw [cutFirst_fst, cutFirst_fst, List.takeWhile_takeWhile, hierarchyOf]
  refine congrArg (s.takeWhile ·) (funext fun c => Bool.eq_iff_iff.2 ?_)
  simp [isHierarchic, and_comm]

theorem isWhole_eq (s : List Char) :
    ((cutFirst (· = '?') (cutFirst (· = '#') s).1).2.isNone && (cutFirst (· = '#') s).2.isNone) =
      isWhole s := by
  rw [cutFirst_isNone, cutFirst_isNone, cutFirst_fst, isWhole, Bool.eq_iff_iff]
  simp only [Bool.and_eq_true, List.all_eq_true, isHierarchic, bne_iff_ne, Bool.not_eq_true',
    decide_eq_false_iff_not, forall_and]
  constructor
  · rintro ⟨hquery, hfragment⟩
    have hself : (s.takeWhile fun c => !decide (c = '#')) = s :=
      List.takeWhile_eq_self_iff.2 fun c hc => by simpa using hfragment c hc
    rw [hself] at hquery
    exact ⟨hfragment, hquery⟩
  · rintro ⟨hfragment, hquery⟩
    exact ⟨fun c hc => hquery c (List.takeWhile_subset _ hc), hfragment⟩

theorem isWhole_iff :
    isWhole s = true ↔ (cutFirst (· = '?') (cutFirst (· = '#') s).1).2 = none ∧
      (cutFirst (· = '#') s).2 = none := by
  rw [← isWhole_eq, Bool.and_eq_true, Option.isNone_iff_eq_none, Option.isNone_iff_eq_none]

/-- An address is read from its scheme and from what stands behind it. -/
theorem parse_eq (text : String) :
    parse text =
      match scheme? (cleaned text.toList) with
      | none => .error .relative
      | some (scheme, s) =>
        (hierarchy scheme (isWhole s) (hierarchyOf s)).map fun w =>
          ⟨scheme, w.1, w.2,
            (cutFirst (· = '?') (cutFirst (· = '#') s).1).2.map
              (encode fun c => inQuery c || (isKnown scheme && c = '\'')),
            (cutFirst (· = '#') s).2.map (encode inFragment)⟩ := by
  unfold parse
  cases scheme? (cleaned text.toList) with
  | none => rfl
  | some w =>
    obtain ⟨scheme, s⟩ := w
    simp only
    rw [← hierarchyOf_eq, ← isWhole_eq]
    cases hierarchy scheme _ _ with
    | error e => rfl
    | ok w => rfl

/-! ## Servers -/

/-- A lone `@` needs something behind it, -/
theorem authority?_false (scheme : String) (s : List Char) :
    authority? scheme false s =
      if s = ['@'] then .error .emptyHost else authority? scheme true s := by
  by_cases hs : s = ['@']
  · subst hs
    rfl
  · simp [authority?, hs]

/-- and then names no server at all, as nothing does. -/
theorem authority?_unnamed (hs : s = [] ∨ s = ['@']) :
    authority? scheme true s = (namedHost? scheme false []).bind fun host =>
      (port? scheme []).bind fun w => .ok (⟨[], none, host, w.1⟩, w.2) := by
  rcases hs with rfl | rfl <;> rfl

/-- In a scheme that the web knows there has to be a server. -/
theorem authority?_unnamed_known (hknown : isKnown scheme = true) (hs : s = [] ∨ s = ['@']) :
    authority? scheme true s = .error .emptyHost := by
  have hhost : namedHost? scheme false [] = .error .emptyHost := by
    rw [namedHost?, if_pos hknown]
    rfl
  rw [authority?_unnamed hs, hhost]
  rfl

/-- So what follows does not matter there. -/
theorem authority?_known (hknown : isKnown scheme = true) (isAlone : Bool) (s : List Char) :
    authority? scheme isAlone s = authority? scheme true s := by
  cases isAlone with
  | true => rfl
  | false =>
    rw [authority?_false]
    split
    · rename_i hs
      exact (authority?_unnamed_known hknown (.inr hs)).symm
    · rfl

/-- What names the server behind a scheme that the web knows, -/
def serverText (s : List Char) : List Char :=
  (s.dropWhile isSlash).takeWhile fun c => !endsAuthority true c

/-- and what is left for the path. -/
def pathText (s : List Char) : List Char :=
  (s.dropWhile isSlash).dropWhile fun c => !endsAuthority true c

theorem hierarchy_known (hknown : isKnown scheme = true) (hfile : scheme ≠ "file") (isLast : Bool)
    (s : List Char) :
    hierarchy scheme isLast s = (authority? scheme true (serverText s)).map fun w =>
      (some w.1, .segments (resolve [] (knownSegments (pathText s)))) := by
  have hserver : hierarchy scheme isLast s =
      withAuthority scheme isLast (s.dropWhile isSlash) := by
    unfold hierarchy
    rw [if_neg hfile, if_pos hknown]
    rfl
  rw [hserver, withAuthority]
  simp only [hknown, if_true]
  rw [authority?_known hknown]
  change authority? scheme true (serverText s) >>= _ = _
  cases authority? scheme true (serverText s) <;> rfl

theorem dropWhile_isSlash_append (hs : s.all isSlash = false) (x : List Char) :
    (s ++ x).dropWhile isSlash = s.dropWhile isSlash ++ x := by
  rw [List.dropWhile_append, if_neg]
  intro hnil
  have hall := List.dropWhile_eq_nil_iff.1 (List.isEmpty_iff.1 hnil)
  rw [List.all_eq_true.2 hall] at hs
  cases hs

/-- **A path does not change the server** that stands before it, -/
theorem serverText_append (hs : s.all isSlash = false) (hx : Slashed x) :
    serverText (s ++ x) = serverText s := by
  rw [serverText, dropWhile_isSlash_append hs, (hx.beginsApart rfl).takeWhile_append]
  rfl

theorem pathText_append (hs : s.all isSlash = false) (hx : Slashed x) :
    pathText (s ++ x) = pathText s ++ x := by
  rw [pathText, dropWhile_isSlash_append hs, (hx.beginsApart rfl).dropWhile_append]
  rfl

/-- Behind slashes alone there is no server. -/
theorem hierarchy_of_slashes (hknown : isKnown scheme = true) (hfile : scheme ≠ "file")
    (hs : s.all isSlash = true) (isLast : Bool) :
    hierarchy scheme isLast s = .error .emptyHost := by
  have hnil : s.dropWhile isSlash = [] := List.dropWhile_eq_nil_iff.2 (List.all_eq_true.1 hs)
  rw [hierarchy_known hknown hfile, serverText, hnil, List.takeWhile_nil,
    authority?_unnamed_known hknown (.inl rfl)]
  rfl

theorem all_isSlash_append (s : List Char) (n : Nat) :
    (s ++ List.replicate n '/').all isSlash = s.all isSlash := by
  rw [List.all_append, all_slashes rfl, Bool.and_true]

/-! ## Addresses of the web -/

/-- A text is read as before in front of a path. -/
theorem cleaned_slashed (hx : Slashed x) (hne : x ≠ []) (hplain : ∀ c ∈ x, isEdge c = false)
    (s : List Char) : cleaned (s ++ x) = opened s ++ x := by
  rw [cleaned_append hne (hx.beginsApart rfl), cleaned_eq_self hplain]

/-- So it is in front of slashes. -/
theorem cleaned_slashes {n : Nat}
    (h : ∀ c ∈ (s ++ List.replicate n '/').getLast?, isEdge c = false) :
    cleaned (s ++ List.replicate n '/') = opened s ++ List.replicate n '/' := by
  cases n with
  | zero =>
    rw [List.replicate_zero, List.append_nil] at h ⊢
    rw [cleaned_eq_opened h, List.append_nil]
  | succ n =>
    have hplain : ∀ c ∈ List.replicate (n + 1) '/', isEdge c = false := by
      intro c hc
      rw [List.eq_of_mem_replicate hc]
      rfl
    exact cleaned_slashed (slashed_replicate (n + 1)) (List.cons_ne_nil _ _) hplain s

/-- What is read of an address. -/
theorem exists_of_parse_eq_ok {text : String} {u : Url} (h : parse text = .ok u) :
    ∃ s, scheme? (cleaned text.toList) = some (u.scheme, s) ∧
      hierarchy u.scheme (isWhole s) (hierarchyOf s) = .ok (u.authority, u.path) ∧
      (u.query = none → u.fragment = none → isWhole s = true) := by
  rw [parse_eq] at h
  split at h
  · cases h
  · rename_i scheme s hscheme
    cases hread : hierarchy scheme (isWhole s) (hierarchyOf s) with
    | error e =>
      rw [hread] at h
      cases h
    | ok w =>
      rw [hread] at h
      obtain rfl := Except.ok.inj h
      exact ⟨s, hscheme, hread, fun hquery hfragment =>
        isWhole_iff.2 ⟨Option.map_eq_none_iff.1 hquery, Option.map_eq_none_iff.1 hfragment⟩⟩

/-- **An address of the web with a path**, read part by part. -/
theorem parse_of_known {text : String} (htext : cleaned text.toList = front ++ x)
    (hfront : scheme? front = some (scheme, s)) (hx : Slashed x)
    (hwhole : isWhole (s ++ x) = true) (hknown : isKnown scheme = true) (hfile : scheme ≠ "file")
    (hs : s.all isSlash = false) :
    parse text = (authority? scheme true (serverText s)).map fun w =>
      ⟨scheme, some w.1, .segments (resolve [] (knownSegments (pathText s ++ x))), none, none⟩ := by
  have hscheme : scheme? (cleaned text.toList) = some (scheme, s ++ x) := by
    rw [htext, scheme?_append hx, hfront]
    rfl
  rw [parse_eq, hscheme]
  simp only [isWhole_iff.1 hwhole, hierarchyOf_eq_self_iff.2 hwhole, hierarchy_known hknown hfile,
    serverText_append hs hx, pathText_append hs hx]
  cases authority? scheme true (serverText s) <;> rfl

/-- The parts of an address of the web without query and fragment. -/
theorem exists_server {text : String} {u : Url} {n : Nat} (h : parse text = .ok u)
    (htext : cleaned text.toList = front ++ List.replicate n '/')
    (hknown : isKnown u.scheme = true) (hfile : u.scheme ≠ "file") (hquery : u.query = none)
    (hfragment : u.fragment = none) :
    ∃ s w, scheme? front = some (u.scheme, s) ∧ isWhole s = true ∧ s.all isSlash = false ∧
      authority? u.scheme true (serverText s) = .ok w ∧
      u = ⟨u.scheme, some w.1,
        .segments (resolve [] (knownSegments (pathText s ++ List.replicate n '/'))), none,
        none⟩ := by
  obtain ⟨s₀, hscheme, hread, hwhole⟩ := exists_of_parse_eq_ok h
  have hslashed := slashed_replicate n
  rw [htext, scheme?_append hslashed, Option.map_eq_some_iff] at hscheme
  obtain ⟨⟨scheme, s⟩, hfront, hscheme⟩ := hscheme
  obtain ⟨rfl, rfl⟩ := Prod.mk.inj hscheme
  have hwhole : isWhole (s ++ List.replicate n '/') = true := hwhole hquery hfragment
  -- behind slashes alone there would be no server
  have hs : s.all isSlash = false := by
    refine Bool.eq_false_iff.2 fun hall => ?_
    rw [← all_isSlash_append s n] at hall
    rw [hierarchyOf_eq_self_iff.2 hwhole, hierarchy_of_slashes hknown hfile hall] at hread
    cases hread
  have hparts := parse_of_known htext hfront hslashed hwhole hknown hfile hs
  cases hserver : authority? u.scheme true (serverText s) with
  | error e =>
    rw [hserver, h] at hparts
    cases hparts
  | ok w =>
    rw [hserver, h] at hparts
    rw [isWhole_append, Bool.and_eq_true] at hwhole
    exact ⟨s, w, hfront, hwhole.1, hs, hserver, Except.ok.inj hparts⟩

end Url

end Amanuensis
