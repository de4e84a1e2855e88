import Amanuensis.Proofs.Url.Reading
/-!
# Texts that are no addresses

A text that is no address does not become one when a path is added, and it is
refused for the same reason (`parse_of_fault`): the reason is in its scheme or
in what names its server, and both are read as before. There is one exception.
Behind the slashes of a scheme that the web knows the first segment of a path
is taken for the server (`isBare`).
-/


namespace Amanuensis

namespace Url

variable {s t x rest : List Char} {scheme : String} {fault : Fault} {n : Nat} {isLast : Bool}

theorem map_eq_error {α β : Type} {f : α → β} {r : Except Fault α} :
    r.map f = .error fault ↔ r = .error fault := by
  cases r with
  | error e =>
    exact ⟨fun h => congrArg _ (Except.error.inj h), fun h => congrArg _ (Except.error.inj h)⟩
  | ok a => exact ⟨nofun, nofun⟩

/-! ## Servers behind two slashes -/

/-- A server is refused for what names it. -/
theorem withAuthority_eq_error (isLast : Bool) (s : List Char) :
    withAuthority scheme isLast s = .error fault ↔
      authority? scheme (isLast && (s.dropWhile fun c => !endsAuthority (isKnown scheme) c).isEmpty)
        (s.takeWhile fun c => !endsAuthority (isKnown scheme) c) = .error fault := by
  rw [withAuthority]
  simp only
  cases authority? scheme _ _ with
  | error e =>
    exact ⟨fun h => congrArg _ (Except.error.inj h), fun h => congrArg _ (Except.error.inj h)⟩
  | ok w => exact iff_of_false (fun h => by cases h) (fun h => by cases h)

/-- In a scheme that the web does not know a server need not be named, -/
theorem authority?_unnamed_ne_error (hknown : isKnown scheme = false) (hs : s = [] ∨ s = ['@']) :
    authority? scheme true s ≠ .error fault := by
  have hhost : namedHost? scheme false [] = .ok [] := by
    rw [namedHost?, hknown]
    rfl
  have hport : port? scheme [] = .ok (none, []) := rfl
  rw [authority?_unnamed hs, hhost, hport]
  intro h
  cases h

/-- and one that is refused alone is refused before a path. -/
theorem authority?_false_eq_error (hknown : isKnown scheme = false) {isAlone : Bool}
    (h : authority? scheme isAlone s = .error fault) :
    authority? scheme false s = .error fault := by
  cases isAlone with
  | false => exact h
  | true =>
    rw [authority?_false, if_neg, h]
    exact fun hs => authority?_unnamed_ne_error hknown (.inr hs) h

/-! ## Slashes at the end -/

/-- What stands behind two characters, if not all of it is slashes. -/
theorem exists_of_append_replicate {a b c : Char}
    (h : s ++ List.replicate n '/' = a :: b :: rest) (hc : c ∈ rest) (hslash : c ≠ '/') :
    ∃ t, s = a :: b :: t ∧ rest = t ++ List.replicate n '/' := by
  have hsplit : s ++ List.replicate n '/' = [a, b] ++ rest := h
  obtain ⟨front, hfront, hreplicate⟩ | ⟨t, ht, hrest⟩ := List.append_eq_append_iff.1 hsplit
  · have hmem : c ∈ List.replicate n '/' := hreplicate ▸ List.mem_append_right _ hc
    exact absurd (List.eq_of_mem_replicate hmem) hslash
  · exact ⟨t, ht, hrest⟩

/-- A file on another machine is refused for the name of that machine. -/
theorem remoteFile?_eq_error_iff :
    remoteFile? s = .error fault ↔
      isDrive (s.takeWhile fun c => !isSlash c) = false ∧ (s.takeWhile fun c => !isSlash c) ≠ [] ∧
        host? (s.takeWhile fun c => !isSlash c) = .error fault := by
  have hremote : ∀ host, host = (s.takeWhile fun c => !isSlash c) → remoteFile? s =
      if isDrive host then .ok (file none (knownSegments s))
      else if host.isEmpty then
        .ok (file none ([] :: knownSegments (s.dropWhile fun c => !isSlash c)))
      else (host? host).map fun h =>
        if h = "localhost".toList then
          file none ([] :: knownSegments (s.dropWhile fun c => !isSlash c))
        else file (some h) (knownSegments (s.dropWhile fun c => !isSlash c)) := by
    rintro host rfl
    rfl
  generalize hhost : (s.takeWhile fun c => !isSlash c) = host
  rw [hremote host hhost.symm]
  cases isDrive host with
  | true => simp
  | false =>
    cases host with
    | nil => simp
    | cons c host =>
      rw [if_neg Bool.false_ne_true, if_neg (by rw [List.isEmpty_cons]; decide), map_eq_error]
      exact ⟨fun h => ⟨rfl, List.cons_ne_nil _ _, h⟩, fun h => h.2.2⟩

/-- A path to a file is refused only for a machine behind two slashes. -/
theorem hierarchy_file_eq_error_iff :
    hierarchy "file" isLast s = .error fault ↔
      ∃ a b rest, s = a :: b :: rest ∧ isSlash a = true ∧ isSlash b = true ∧
        remoteFile? rest = .error fault := by
  unfold hierarchy
  rw [if_pos rfl]
  match s with
  | [] => simp
  | [a] => simp
  | a :: b :: rest =>
    change (if (isSlash a && isSlash b) = true then remoteFile? rest
      else .ok (file none (knownSegments (a :: b :: rest)))) = .error fault ↔ _
    split
    · rename_i hslashes
      obtain ⟨ha, hb⟩ := Bool.and_eq_true_iff.1 hslashes
      constructor
      · exact fun h => ⟨a, b, rest, rfl, ha, hb, h⟩
      · rintro ⟨_, _, _, ⟨⟩, -, -, h⟩
        exact h
    · rename_i hslashes
      constructor
      · exact nofun
      · rintro ⟨_, _, _, ⟨⟩, ha, hb, -⟩
        exact absurd (Bool.and_eq_true_iff.2 ⟨ha, hb⟩) hslashes

/-- In a scheme that the web does not know only a server is refused. -/
theorem hierarchy_plain_eq_error_iff (hknown : isKnown scheme = false) :
    hierarchy scheme isLast s = .error fault ↔
      ∃ rest, s = '/' :: '/' :: rest ∧ withAuthority scheme isLast rest = .error fault := by
  have hfile : scheme ≠ "file" := by
    rintro rfl
    cases hknown
  unfold hierarchy
  rw [if_neg hfile, if_neg (by rw [hknown]; decide)]
  split
  · rename_i rest
    exact ⟨fun h => ⟨rest, rfl, h⟩, by rintro ⟨_, ⟨⟩, h⟩; exact h⟩
  · rename_i rest hsecond
    refine ⟨nofun, ?_⟩
    rintro ⟨rest', heq, -⟩
    exact absurd (List.cons.inj heq).2 (hsecond rest')
  · rename_i hfirst hsecond
    refine ⟨nofun, ?_⟩
    rintro ⟨rest', rfl, -⟩
    exact absurd rfl (hfirst rest')

/-- A text in which there is something else than slashes at the front. -/
theorem exists_mem_of_takeWhile {p : Char → Bool} (hp : p '/' = false) (h : rest.takeWhile p ≠ []) :
    ∃ c ∈ rest, c ≠ '/' := by
  obtain ⟨c, front, hfront⟩ := List.exists_cons_of_ne_nil h
  have hmem : c ∈ rest.takeWhile p := by
    rw [hfront]
    exact List.mem_cons_self
  refine ⟨c, List.takeWhile_subset p hmem, ?_⟩
  rintro rfl
  rw [List.mem_takeWhile_imp hmem] at hp
  cases hp

/-- **What is refused before slashes is refused before a path**, but for
slashes alone in a scheme that the web knows. -/
theorem hierarchy_of_error (h : hierarchy scheme true (s ++ List.replicate n '/') = .error fault)
    (hnamed : isKnown scheme = true → scheme ≠ "file" → s.all isSlash = false) (isLast : Bool)
    (t : List Char) : hierarchy scheme isLast (s ++ '/' :: t) = .error fault := by
  by_cases hfile : scheme = "file"
  · subst hfile
    obtain ⟨a, b, rest, hsplit, ha, hb, hremote⟩ := hierarchy_file_eq_error_iff.1 h
    obtain ⟨hdrive, hhost, hfault⟩ := remoteFile?_eq_error_iff.1 hremote
    obtain ⟨c, hc, hslash⟩ := exists_mem_of_takeWhile rfl hhost
    obtain ⟨u, rfl, rfl⟩ := exists_of_append_replicate hsplit hc hslash
    rw [((slashed_replicate n).beginsApart rfl).takeWhile_append] at hdrive hhost hfault
    refine hierarchy_file_eq_error_iff.2 ⟨a, b, u ++ '/' :: t, rfl, ha, hb, ?_⟩
    rw [remoteFile?_eq_error_iff, ((slashed_cons t).beginsApart rfl).takeWhile_append]
    exact ⟨hdrive, hhost, hfault⟩
  · cases hknown : isKnown scheme with
    | true =>
      have hs := hnamed hknown hfile
      rw [hierarchy_known hknown hfile, map_eq_error,
        serverText_append hs (slashed_replicate n)] at h
      rw [hierarchy_known hknown hfile, map_eq_error, serverText_append hs (slashed_cons t), h]
    | false =>
      obtain ⟨rest, hsplit, hserver⟩ := (hierarchy_plain_eq_error_iff hknown).1 h
      have hfault := authority?_false_eq_error hknown ((withAuthority_eq_error _ _).1 hserver)
      have hend : (!endsAuthority (isKnown scheme) '/') = false := rfl
      -- without a text that names a server nothing would have been refused
      have hne : (rest.takeWhile fun c => !endsAuthority (isKnown scheme) c) ≠ [] := by
        intro hnil
        rw [hnil, authority?_false, if_neg (List.cons_ne_nil _ _).symm] at hfault
        exact authority?_unnamed_ne_error hknown (.inl rfl) hfault
      obtain ⟨c, hc, hslash⟩ := exists_mem_of_takeWhile hend hne
      obtain ⟨u, rfl, rfl⟩ := exists_of_append_replicate hsplit hc hslash
      rw [((slashed_replicate n).beginsApart hend).takeWhile_append] at hfault
      refine (hierarchy_plain_eq_error_iff hknown).2 ⟨u ++ '/' :: t, rfl, ?_⟩
      have hrest : ∀ front : List Char, (front ++ '/' :: t).isEmpty = false := by simp
      rw [withAuthority_eq_error, ((slashed_cons t).beginsApart hend).takeWhile_append,
        ((slashed_cons t).beginsApart hend).dropWhile_append, hrest, Bool.and_false]
      exact hfault

/-- A slash at the front is read, whatever follows. -/
theorem exists_cleaned_slash (s : List Char) : ∃ t, cleaned ('/' :: s) = '/' :: t := by
  have hprefix : Text.dropEndWhile isEdge ('/' :: s) <+: '/' :: s :=
    List.rdropWhile_prefix isEdge _
  have hne : Text.dropEndWhile isEdge ('/' :: s) ≠ [] := by
    intro hnil
    have hall := List.rdropWhile_eq_nil_iff.1 hnil '/' List.mem_cons_self
    cases hall
  obtain ⟨c, t, ht⟩ := List.exists_cons_of_ne_nil hne
  obtain ⟨last, hlast⟩ := hprefix
  rw [ht, List.cons_append] at hlast
  obtain rfl := (List.cons.inj hlast).1
  have hdrop : ('/' :: s).dropWhile isEdge = '/' :: s := rfl
  exact ⟨t.filter fun c => !isDropped c, by rw [cleaned_eq, hdrop, ht]; rfl⟩

/-- Does the text end with the slashes behind a scheme that the web knows? -/
def isBare (text : String) : Bool :=
  match scheme? (cleaned text.toList) with
  | some (scheme, s) => isKnown scheme && scheme != "file" && s.all isSlash
  | none => false

/-- **A text that is no address is none before a path**, for the same
reason. -/
theorem parse_of_fault {base text : String} (h : parse base = .error fault)
    (hbase : cleaned base.toList = opened t ++ List.replicate n '/') (hnamed : isBare base = false)
    (htext : cleaned text.toList = opened t ++ '/' :: rest) : parse text = .error fault := by
  rw [isBare] at hnamed
  rw [parse_eq] at h ⊢
  rw [hbase, scheme?_append (slashed_replicate n)] at h hnamed
  rw [htext, scheme?_append (slashed_cons rest)]
  cases hscheme : scheme? (opened t) with
  | none =>
    rw [hscheme] at h
    exact congrArg _ (Except.error.inj h)
  | some w =>
    obtain ⟨scheme, s⟩ := w
    rw [hscheme] at h hnamed
    simp only [Option.map_some, map_eq_error] at h hnamed ⊢
    rw [hierarchyOf_append, isWhole_append] at h ⊢
    rw [all_isSlash_append] at hnamed
    cases hwhole : isWhole s with
    | false =>
      -- a query or a fragment has begun before the end
      rw [hwhole] at h
      exact h
    | true =>
      have hslashes : isWhole (List.replicate n '/') = true := all_slashes rfl n
      have hpath : hierarchyOf ('/' :: rest) = '/' :: hierarchyOf rest := rfl
      rw [hwhole, if_pos rfl, hslashes, hierarchyOf_eq_self_iff.2 hslashes] at h
      rw [if_pos rfl, hpath]
      refine hierarchy_of_error h (fun hknown hfile => ?_) _ _
      simpa [hknown, hfile] using hnamed

end Url

end Amanuensis
