import Amanuensis.Proofs.Settings.Merge
import Mathlib.Data.List.Infix
/-!
# Names of variables

Which setting a variable of the environment is. A section and a key that are
`Separable` can be told from the name that they make, and in an `Orderly`
environment every variable that is a setting has such a name. Then the layer
of the environment gives all sections key by key, and what it gives for a
setting is the variable of that name (`given_environmentLayer`).
-/


namespace Amanuensis

namespace Settings

open Value (ofVariable)

variable {sec key : String} {s k : List Char}

/-- A name that leads no deeper. -/
structure Plain (name : List Char) : Prop where
  nonempty : name ≠ []
  keyChars : ∀ c ∈ name, isKeyChar c = true

/-! ## Steps -/

theorem isKeyChar_dot : isKeyChar '.' = false := by decide

theorem takeWhile_isKeyChar (h : ∀ c ∈ s, isKeyChar c = true) (rest : List Char) :
    (s ++ '.' :: rest).takeWhile isKeyChar = s := by
  rw [List.takeWhile_append_of_pos h, List.takeWhile_cons_of_neg (by simp [isKeyChar_dot]),
    List.append_nil]

theorem dropWhile_isKeyChar (h : ∀ c ∈ s, isKeyChar c = true) (rest : List Char) :
    (s ++ '.' :: rest).dropWhile isKeyChar = '.' :: rest := by
  rw [List.dropWhile_append_of_pos h, List.dropWhile_cons_of_neg (by simp [isKeyChar_dot])]

/-- Where a name ends in another character than a dot or a bracket, no steps
follow. -/
theorem furtherSteps_dropWhile {t : List Char} (hdot : '.' ∉ s) (hbracket : '[' ∉ s)
    (hs : ∃ c ∈ s, isKeyChar c = false) (fuel : Nat) :
    furtherSteps fuel ((s ++ t).dropWhile isKeyChar) = none := by
  induction s with
  | nil => simp at hs
  | cons c s ih =>
    rw [List.mem_cons, not_or] at hdot hbracket
    rw [List.cons_append, List.dropWhile_cons]
    split
    · -- the first character is dropped, so it is not the one that ends the name
      rename_i hc
      obtain ⟨d, hd, hkey⟩ := hs
      rcases List.mem_cons.1 hd with rfl | hd
      · rw [hc] at hkey
        cases hkey
      · exact ih hdot.2 hbracket.2 ⟨d, hd, hkey⟩
    · cases fuel <;> simp [furtherSteps, Ne.symm hdot.1, Ne.symm hbracket.1]

/-- A dot is followed by a name, up to the end. -/
theorem furtherSteps_dot (hdot : '.' ∉ k) (hbracket : '[' ∉ k) (hk : ¬ Plain k) (fuel : Nat) :
    furtherSteps fuel ('.' :: k) = none := by
  cases fuel with
  | zero => rfl
  | succ fuel =>
    rw [furtherSteps]
    split
    · rfl
    · rename_i hname
      have hbad : ∃ c ∈ k, isKeyChar c = false := by
        by_contra hgood
        push Not at hgood
        have hne : k ≠ [] := by
          rintro rfl
          exact hname rfl
        exact hk ⟨hne, fun c hc => by simpa using hgood c hc⟩
      have hnone := furtherSteps_dropWhile (t := []) hdot hbracket hbad fuel
      rw [List.append_nil] at hnone
      rw [hnone, Option.map_none]

/-- Two names with a dot between them are two steps, -/
theorem steps_pair (hs : Plain s) (hk : Plain k) :
    steps (String.ofList (s ++ '.' :: k)) = [.key (String.ofList s), .key (String.ofList k)] := by
  have hlength : (s ++ '.' :: k).length = s.length + k.length + 1 := by simp; omega
  have hall : k.takeWhile isKeyChar = k := by
    rw [← List.append_nil k, List.takeWhile_append_of_pos hk.keyChars, List.takeWhile_nil]
  have hnone : k.dropWhile isKeyChar = [] := by
    rw [← List.append_nil k, List.dropWhile_append_of_pos hk.keyChars, List.dropWhile_nil]
  have hfurther : furtherSteps (s.length + k.length + 1) ('.' :: k) =
      some [.key (String.ofList k)] := by
    rw [furtherSteps, hall, hnone, if_neg (by simp [hk.nonempty])]
    cases s.length + k.length <;> rfl
  rw [steps, String.toList_ofList, takeWhile_isKeyChar hs.keyChars, dropWhile_isKeyChar hs.keyChars,
    hlength, hfurther]
  simp [hs.nonempty]

/-- and where one of them is no name, they are one. -/
theorem steps_of_not_plain (hs : '.' ∉ s ∧ '[' ∉ s) (hk : '.' ∉ k ∧ '[' ∉ k)
    (h : ¬ (Plain s ∧ Plain k)) :
    steps (String.ofList (s ++ '.' :: k)) = [.key (String.ofList (s ++ '.' :: k))] := by
  rw [steps, String.toList_ofList]
  by_cases hbad : ∃ c ∈ s, isKeyChar c = false
  · rw [furtherSteps_dropWhile hs.1 hs.2 hbad]
  · have hkeyChars : ∀ c ∈ s, isKeyChar c = true := by
      intro c hc
      by_contra hkey
      exact hbad ⟨c, hc, by simpa using hkey⟩
    rw [takeWhile_isKeyChar hkeyChars, dropWhile_isKeyChar hkeyChars]
    by_cases hempty : s = []
    · subst hempty
      split <;> rfl
    · rw [furtherSteps_dot hk.1 hk.2 fun hplain => h ⟨⟨hempty, hkeyChars⟩, hplain⟩]

/-! ## Dots for underscores -/

theorem dotted_cons {c : Char} (h : ¬ ['_', '_'] <+: c :: s) :
    dotted (c :: s) = c :: dotted s := by
  rw [dotted]
  rintro rest rfl rfl
  exact h ⟨rest, rfl⟩

/-- Without two underscores in a row there are no dots to put. -/
theorem dotted_eq_self (h : ¬ ['_', '_'] <:+: k) : dotted k = k := by
  induction k with
  | nil => rfl
  | cons c k ih =>
    rw [List.infix_cons_iff, not_or] at h
    rw [dotted_cons h.1, ih h.2]

/-- The first two underscores in a row become a dot. -/
theorem dotted_append (h : ¬ ['_', '_'] <:+: s ++ ['_']) :
    dotted (s ++ '_' :: '_' :: k) = s ++ '.' :: dotted k := by
  induction s with
  | nil => rfl
  | cons c s ih =>
    rw [List.cons_append, List.infix_cons_iff, not_or] at h
    have hfirst : ¬ ['_', '_'] <+: c :: (s ++ '_' :: '_' :: k) := by
      -- after the first character comes that of `s`, or else an underscore
      intro hprefix
      apply h.1
      cases s <;> simpa using hprefix
    rw [List.cons_append, dotted_cons hfirst, ih h.2]
    rfl

/-! ## Variables -/

/-- The name of the variable of a setting, in lower case. -/
def variableName (s k : List Char) : List Char := variableStart ++ s ++ '_' :: '_' :: k

/-- A section and a key that the name of their variable tells: the two
underscores between them are the first in a row and the last, and neither
leads any deeper. -/
structure Separable (s k : List Char) : Prop where
  ends : ¬ ['_', '_'] <:+: s ++ ['_']
  apart : ¬ ['_', '_'] <:+: k
  flat : '.' ∉ s ∧ '[' ∉ s
  flat_key : '.' ∉ k ∧ '[' ∉ k

/-- Every variable that is a setting is named after a section and a key. -/
def Orderly (environment : List (String × String)) : Prop :=
  ∀ v ∈ environment, variableStart <+: Text.lowercase v.1.toList →
    ∃ s k, Separable s k ∧ Text.lowercase v.1.toList = variableName s k

/-- What the variable of a setting says, the last one if there are several. -/
def variableFor (sec key : String) (environment : List (String × String)) : Option String :=
  ((environment.filter fun v =>
    Text.lowercase v.1.toList = variableName sec.toList key.toList).map (·.2)).getLast?

theorem dotted_variableName (h : Separable s k) :
    dotted ((variableName s k).drop variableStart.length) = s ++ '.' :: k := by
  rw [variableName, List.append_assoc, List.drop_left, dotted_append h.ends, dotted_eq_self h.apart]

/-- A variable has one section and one key. -/
theorem variableName_inj {s' k' : List Char} (h : Separable s k) (h' : Separable s' k') :
    variableName s k = variableName s' k' ↔ s = s' ∧ k = k' := by
  constructor
  · intro hname
    have hdotted : s ++ '.' :: k = s' ++ '.' :: k' := by
      rw [← dotted_variableName h, hname, dotted_variableName h']
    obtain ⟨hs, -, hk⟩ := (List.append_cons_inj_of_notMem h.flat.1 h.flat_key.1).1 hdotted
    exact ⟨hs, hk⟩
  · rintro ⟨rfl, rfl⟩
    rfl

theorem start_of_variableName (s k : List Char) : variableStart <+: variableName s k := by
  rw [variableName, List.append_assoc]
  exact List.prefix_append _ _

theorem entry_of_name {name : String} (h : Separable s k)
    (hname : Text.lowercase name.toList = variableName s k) (value : String) :
    variableEntry? name value = some (String.ofList (s ++ '.' :: k), ofVariable value) := by
  have hstart := List.isPrefixOf_iff_prefix.2 (start_of_variableName s k)
  simp only [hname, variableEntry?, hstart, if_true, dotted_variableName h]

theorem entry_of_other {name : String}
    (h : ¬ variableStart <+: Text.lowercase name.toList) (value : String) :
    variableEntry? name value = none := by
  rw [← List.isPrefixOf_iff_prefix, Bool.not_eq_true] at h
  simp only [h, variableEntry?, Bool.false_eq_true, if_false]

theorem isLeaf_ofVariable (value : String) : (ofVariable value).IsLeaf := by
  simp only [ofVariable]
  split_ifs
  · trivial
  · trivial
  · split <;> trivial

/-- What is no table, on the outermost level, says nothing of a section, -/
theorem writes_leaf {path name : String} {v : Value} (hsteps : steps path = [.key name])
    (hleaf : v.IsLeaf) : writes sec key (path, v) = [] := by
  simp only [writes, hsteps]
  cases v with
  | table es origin => exact hleaf.elim
  | _ => rfl

/-- and reshapes only the section that it stands in place of. -/
theorem reshapes_leaf {path name : String} {v : Value} (hsteps : steps path = [.key name])
    (hleaf : v.IsLeaf) : reshapes sec (path, v) = decide (name = sec) := by
  simp only [reshapes, hsteps]
  cases v with
  | table es origin => exact hleaf.elim
  | _ => rfl

/-- **What a variable says.** It speaks of the setting whose name it has, -/
theorem writes_variable (h : Separable s k) (hsec : Plain sec.toList) (hkey : Plain key.toList)
    (value : String) :
    writes sec key (String.ofList (s ++ '.' :: k), ofVariable value) =
      if s = sec.toList ∧ k = key.toList then [ofVariable value] else [] := by
  by_cases hplain : Plain s ∧ Plain k
  · have hiff : (String.ofList s = sec ∧ String.ofList k = key) ↔
        s = sec.toList ∧ k = key.toList := by
      constructor
      · rintro ⟨rfl, rfl⟩
        exact ⟨String.toList_ofList.symm, String.toList_ofList.symm⟩
      · rintro ⟨rfl, rfl⟩
        exact ⟨String.ofList_toList, String.ofList_toList⟩
    simp only [writes, steps_pair hplain.1 hplain.2, Value.put, hiff]
  · have hother : ¬ (s = sec.toList ∧ k = key.toList) := by
      rintro ⟨rfl, rfl⟩
      exact hplain ⟨hsec, hkey⟩
    rw [if_neg hother]
    exact writes_leaf (steps_of_not_plain h.flat h.flat_key hplain) (isLeaf_ofVariable value)

/-- and gives no section but key by key. -/
theorem reshapes_variable (h : Separable s k) (hsec : Plain sec.toList) (value : String) :
    reshapes sec (String.ofList (s ++ '.' :: k), ofVariable value) = false := by
  by_cases hplain : Plain s ∧ Plain k
  · simp only [reshapes, steps_pair hplain.1 hplain.2]
  · have hsteps := steps_of_not_plain h.flat h.flat_key hplain
    rw [reshapes_leaf hsteps (isLeaf_ofVariable value), decide_eq_false_iff_not]
    rintro rfl
    -- the whole name has a dot in it
    have hdot := hsec.keyChars '.' (by simp)
    rw [isKeyChar_dot] at hdot
    cases hdot

/-! ## The layer of the environment -/

theorem keyByKey_environmentLayer {environment : List (String × String)}
    (h : Orderly environment) (hsec : Plain sec.toList) :
    KeyByKey sec (environmentLayer environment) := by
  intro e he
  obtain ⟨v, hv, hentry⟩ := List.mem_filterMap.1 he
  by_cases hstart : variableStart <+: Text.lowercase v.1.toList
  · obtain ⟨s, k, hsep, hname⟩ := h v hv hstart
    rw [entry_of_name hsep hname, Option.some.injEq] at hentry
    subst hentry
    exact reshapes_variable hsep hsec v.2
  · rw [entry_of_other hstart] at hentry
    cases hentry

theorem environmentLayer_cons (v : String × String) (environment : List (String × String)) :
    environmentLayer (v :: environment) =
      match variableEntry? v.1 v.2 with
      | none => environmentLayer environment
      | some e => e :: environmentLayer environment := by
  rw [environmentLayer, List.filterMap_cons]
  cases variableEntry? v.1 v.2 <;> rfl

theorem flatMap_environmentLayer {environment : List (String × String)} (h : Orderly environment)
    (hsep : Separable sec.toList key.toList) (hsec : Plain sec.toList) (hkey : Plain key.toList) :
    (environmentLayer environment).flatMap (writes sec key) =
      ((environment.filter fun v =>
        Text.lowercase v.1.toList = variableName sec.toList key.toList).map (·.2)).map
          ofVariable := by
  induction environment with
  | nil => rfl
  | cons v environment ih =>
    have ih := ih fun w hw => h w (List.mem_cons_of_mem v hw)
    by_cases hstart : variableStart <+: Text.lowercase v.1.toList
    · obtain ⟨s, k, hv, hname⟩ := h v List.mem_cons_self hstart
      rw [environmentLayer_cons, entry_of_name hv hname, List.flatMap_cons,
        writes_variable hv hsec hkey, List.filter_cons]
      simp only [hname, variableName_inj hv hsep, decide_eq_true_eq]
      split
      · rw [List.map_cons, List.map_cons, List.singleton_append]
        exact congrArg _ ih
      · exact ih
    · have hother : ¬ Text.lowercase v.1.toList = variableName sec.toList key.toList := by
        intro hname
        exact hstart (hname ▸ start_of_variableName sec.toList key.toList)
      rw [environmentLayer_cons, entry_of_other hstart, ih,
        List.filter_cons_of_neg (by simpa using hother)]

/-- **What the environment gives** for a setting is what the variable of the
setting says. -/
theorem given_environmentLayer {environment : List (String × String)} (h : Orderly environment)
    (hsep : Separable sec.toList key.toList) (hsec : Plain sec.toList) (hkey : Plain key.toList) :
    given sec key (environmentLayer environment) =
      (variableFor sec key environment).map ofVariable := by
  rw [given, flatMap_environmentLayer h hsep hsec hkey, List.getLast?_map, variableFor]

example : variableFor "api" "base_url"
    [("SILMARI__API__BASE_URL", "a"), ("silmari__api__base_url", "b"), ("API__BASE_URL", "c")] =
      some "b" := by decide +kernel

end Settings

end Amanuensis
