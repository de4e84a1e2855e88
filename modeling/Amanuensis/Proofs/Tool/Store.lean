import Amanuensis.Tool.Store
import Mathlib.Data.List.Nodup
/-!
# Registering tools

A store keeps its tools twice over, as a row and as places noted for names.
That the two are in step is the invariant `Store.Sound`: a place is noted for
a name if and only if a tool of that name stands there. Every offer of a tool
keeps it, taken or refused (`Sound.attempt`), so it holds after any number of
them, and no look-up ever goes beside the row. A sound store is a registry
(`Sound.toRegistry`), and answers as that registry does.
-/


namespace Amanuensis

namespace Tool

/-- A name that a tool may have: small letters, digits and underscores. -/
def ValidName (name : String) : Prop :=
  name ≠ "" ∧ ∀ c ∈ name.toList, ('a' ≤ c ∧ c ≤ 'z') ∨ ('0' ≤ c ∧ c ≤ '9') ∨ c = '_'

theorem isName_iff {name : String} : isName name = true ↔ ValidName name := by
  have hempty : name.toList = [] ↔ name = "" := String.toList_eq_nil_iff
  simp only [isName, ValidName, isNameChar, Bool.and_eq_true, Bool.not_eq_true',
    List.isEmpty_eq_false_iff, List.all_eq_true, Bool.or_eq_true, decide_eq_true_eq, beq_iff_eq,
    ne_eq, hempty, or_assoc]

namespace Store

variable {s s' : Store} {t : Tool} {name : String} {i : Nat}

/-- The row and the notes are in step. -/
structure Sound (s : Store) : Prop where
  /-- A place is noted for a name if and only if a tool of that name stands
  there. -/
  place_iff : ∀ name i, s.place? name = some i ↔ ∃ t, s.tools[i]? = some t ∧ t.name = name
  valid : ∀ t ∈ s.values, ValidName t.name

/-! ## Offers -/

/-- The store in which a tool has been added. -/
def add (s : Store) (t : Tool) : Store := ⟨s.tools.push t, (t.name, s.tools.size) :: s.places⟩

/-- **What becomes of an offer**: the name is looked at first, and then whether
it is taken. -/
theorem register_cases (s : Store) (t : Tool) :
    (¬ ValidName t.name ∧ s.register t = .error (.invalidName t.name)) ∨
      (ValidName t.name ∧ s.has t.name = true ∧ s.register t = .error (.duplicate t.name)) ∨
      ValidName t.name ∧ s.has t.name = false ∧ s.register t = .ok (s.add t) := by
  unfold register
  split
  · rename_i hname
    split
    · rename_i htaken
      exact .inr (.inl ⟨isName_iff.1 hname, htaken, rfl⟩)
    · rename_i hfree
      exact .inr (.inr ⟨isName_iff.1 hname, Bool.eq_false_iff.2 hfree, rfl⟩)
  · rename_i hname
    exact .inl ⟨mt isName_iff.2 hname, rfl⟩

/-- A tool is taken if its name is valid and free. -/
theorem register_eq_ok_iff :
    s.register t = .ok s' ↔ ValidName t.name ∧ s.has t.name = false ∧ s' = s.add t := by
  obtain ⟨hname, h⟩ | ⟨-, htaken, h⟩ | ⟨hname, hfree, h⟩ := register_cases s t
  · simp [h, hname]
  · simp [h, htaken]
  · simp [h, hname, hfree, eq_comm]

@[simp] theorem values_add (s : Store) (t : Tool) : (s.add t).values = s.values ++ [t] := by
  simp [values, add]

theorem place?_add (s : Store) (t : Tool) (name : String) :
    (s.add t).place? name = if name = t.name then some s.tools.size else s.place? name := by
  have hlookup : (s.add t).place? name =
      match name == t.name with
      | true => some s.tools.size
      | false => s.place? name := List.lookup_cons
  rw [hlookup]
  by_cases h : name = t.name
  · rw [if_pos h, beq_iff_eq.2 h]
  · rw [if_neg h, beq_eq_false_iff_ne.2 h]

/-- An offer leaves the store as it was or adds the tool. -/
theorem attempt_eq (s : Store) (t : Tool) :
    (s.attempt t = s ∧ ∃ e, s.register t = .error e) ∨
      s.attempt t = s.add t ∧ s.register t = .ok (s.add t) := by
  unfold attempt
  obtain ⟨-, h⟩ | ⟨-, -, h⟩ | ⟨-, -, h⟩ := register_cases s t
  · exact .inl ⟨by rw [h], _, h⟩
  · exact .inl ⟨by rw [h], _, h⟩
  · exact .inr ⟨by rw [h], h⟩

/-! ## The invariant -/

theorem sound_empty : empty.Sound where
  place_iff := by simp [place?, empty]
  valid := by simp [values, empty]

/-- A name has a place if and only if a tool of the row has it. -/
theorem Sound.has_iff (h : s.Sound) : s.has name = true ↔ name ∈ s.names := by
  simp only [has, Option.isSome_iff_exists, h.place_iff, names, values, List.mem_map,
    Array.mem_toList_iff, Array.mem_iff_getElem?]
  exact ⟨fun ⟨i, t, ht, hname⟩ => ⟨t, ⟨i, ht⟩, hname⟩, fun ⟨t, ⟨i, ht⟩, hname⟩ => ⟨i, t, ht, hname⟩⟩

/-- **A tool that is taken keeps the row and the notes in step**, because its
name has had no place before. -/
theorem Sound.add (h : s.Sound) (hname : ValidName t.name) (hfree : s.has t.name = false) :
    (s.add t).Sound where
  place_iff := by
    intro name i
    have hrow : ∀ u, (s.add t).tools[i]? = some u ↔
        (i = s.tools.size ∧ u = t) ∨ s.tools[i]? = some u := by
      intro u
      have hlt : s.tools[i]? = some u → i ≠ s.tools.size := by
        intro hu
        have := (Array.getElem?_eq_some_iff.1 hu).1
        omega
      rw [Store.add, Array.getElem?_push]
      split
      · rename_i hi
        have hnone : s.tools[i]? ≠ some u := fun hu => hlt hu hi
        rw [or_iff_left hnone, and_iff_right hi, Option.some.injEq, eq_comm]
      · rename_i hi
        rw [or_iff_right fun hnew => hi hnew.1]
    rw [place?_add]
    split
    · rename_i heq
      subst heq
      -- the new name stands at the end of the row and nowhere else
      have hold : ∀ u, s.tools[i]? = some u → u.name ≠ t.name := by
        intro u hu hsame
        have hplace : s.place? t.name = some i := (h.place_iff _ _).2 ⟨u, hu, hsame⟩
        rw [has, hplace] at hfree
        cases hfree
      constructor
      · intro hi
        exact ⟨t, (hrow t).2 (.inl ⟨(Option.some.inj hi).symm, rfl⟩), rfl⟩
      · rintro ⟨u, hu, hsame⟩
        obtain ⟨rfl, -⟩ | hu := (hrow u).1 hu
        · rfl
        · exact absurd hsame (hold u hu)
    · rename_i hne
      rw [h.place_iff]
      constructor
      · rintro ⟨u, hu, hsame⟩
        exact ⟨u, (hrow u).2 (.inr hu), hsame⟩
      · rintro ⟨u, hu, hsame⟩
        obtain ⟨-, rfl⟩ | hu := (hrow u).1 hu
        · exact absurd hsame.symm hne
        · exact ⟨u, hu, hsame⟩
  valid := by
    intro u hu
    rw [values_add, List.mem_append, List.mem_singleton] at hu
    obtain hu | rfl := hu
    · exact h.valid u hu
    · exact hname

/-- So does every offer, -/
theorem Sound.attempt (h : s.Sound) (t : Tool) : (s.attempt t).Sound := by
  obtain ⟨heq, -⟩ | ⟨heq, hok⟩ := attempt_eq s t
  · rwa [heq]
  · obtain ⟨hname, hfree, -⟩ := register_eq_ok_iff.1 hok
    rw [heq]
    exact h.add hname hfree

/-- and any number of them. -/
theorem Sound.after (h : s.Sound) (calls : List Tool) : (s.after calls).Sound := by
  induction calls generalizing s with
  | nil => exact h
  | cons t calls ih => exact ih (h.attempt t)

/-! ## What is in step -/

/-- No name stands in two places, since one place is noted for it. -/
theorem Sound.names_nodup (h : s.Sound) : s.names.Nodup := by
  rw [List.nodup_iff_getElem?_ne_getElem?]
  intro i j hij hj heq
  have hstands : ∀ k name, s.names[k]? = some name → s.place? name = some k := by
    intro k name hk
    rw [names, List.getElem?_map, Option.map_eq_some_iff] at hk
    obtain ⟨t, ht, hname⟩ := hk
    exact (h.place_iff name k).2 ⟨t, by rwa [values, Array.getElem?_toList] at ht, hname⟩
  obtain ⟨name, hname⟩ : ∃ name, s.names[j]? = some name := ⟨_, List.getElem?_eq_getElem hj⟩
  have hi := hstands i name (heq.trans hname)
  rw [hstands j name hname] at hi
  have := Option.some.inj hi
  omega

/-- A tool of the row is found by its name. -/
theorem Sound.lookup_of_mem (h : s.Sound) (ht : t ∈ s.values) :
    s.lookup t.name = .ok (some t) := by
  obtain ⟨i, hi⟩ := Array.mem_iff_getElem?.1 (Array.mem_toList_iff.1 ht)
  have hplace : s.place? t.name = some i := (h.place_iff _ _).2 ⟨t, hi, rfl⟩
  simp only [lookup, hplace, hi]

/-- And nothing is found by any other name. -/
theorem Sound.lookup_of_not_mem (h : s.Sound) (hname : name ∉ s.names) :
    s.lookup name = .ok none := by
  have hplace : s.place? name = none := by
    rw [← h.has_iff, has, Bool.not_eq_true, Option.isSome_eq_false_iff, Option.isNone_iff_eq_none]
      at hname
    exact hname
  simp only [lookup, hplace]

/-- **A sound store is a registry**, -/
def Sound.toRegistry (h : s.Sound) : Registry :=
  ⟨s.values, fun t ht => isName_iff.2 (h.valid t ht), h.names_nodup⟩

/-- has the names that it has, -/
theorem Sound.has_toRegistry (h : s.Sound) (name : String) :
    h.toRegistry.has name = s.has name := by
  rw [Bool.eq_iff_iff, h.has_iff]
  exact List.contains_iff_mem

/-- finds the tools that it finds, -/
theorem Sound.lookup_eq (h : s.Sound) (name : String) :
    s.lookup name = .ok (h.toRegistry.get? name) := by
  cases hget : h.toRegistry.get? name with
  | some t =>
    have hname : t.name = name := by simpa using List.find?_some hget
    rw [← hname, h.lookup_of_mem (List.mem_of_find?_eq_some hget)]
  | none =>
    refine h.lookup_of_not_mem fun hmem => ?_
    obtain ⟨t, ht, hname⟩ := List.mem_map.1 hmem
    have hdiffers := List.find?_eq_none.1 hget t ht
    exact hdiffers (decide_eq_true hname)

/-- and takes and refuses what it takes and refuses. -/
theorem Sound.register_toRegistry (h : s.Sound) (t : Tool) :
    (h.toRegistry.register t).map Registry.tools = (s.register t).map values := by
  have hmem : t.name ∈ h.toRegistry.names ↔ s.has t.name = true := h.has_iff.symm
  unfold Registry.register
  obtain ⟨hname, hoffer⟩ | ⟨hname, htaken, hoffer⟩ | ⟨hname, hfree, hoffer⟩ := register_cases s t
  · rw [hoffer, dif_neg (mt isName_iff.1 hname)]
    rfl
  · rw [hoffer, dif_pos (isName_iff.2 hname), dif_pos (hmem.2 htaken)]
    rfl
  · have hnew : t.name ∉ h.toRegistry.names := fun hmem' => by
      rw [hmem.1 hmem'] at hfree
      cases hfree
    rw [hoffer, dif_pos (isName_iff.2 hname), dif_neg hnew]
    exact congrArg Except.ok (values_add s t).symm

/-! ## After any number of offers -/

/-- What a store shows that keeps some tools. -/
structure Keeps (s : Store) (tools : List Tool) : Prop where
  /-- It lists them in order, and counts them. -/
  values : s.values = tools
  names : s.names = tools.map Tool.name
  size : s.size = tools.length
  /-- No two of them have the same name, and every name is valid. -/
  distinct : s.names.Nodup
  valid : ∀ name ∈ s.names, ValidName name
  /-- It has exactly their names. -/
  has_iff : ∀ name, s.has name = true ↔ name ∈ s.names
  /-- Under its name each of them is found, -/
  found : ∀ t ∈ tools, s.lookup t.name = .ok (some t)
  /-- and under any other name nothing is. -/
  missing : ∀ name, name ∉ s.names → s.lookup name = .ok none

/-- How a store answers the offer of a tool. -/
structure Answers (s : Store) (t : Tool) : Prop where
  invalid_iff : s.register t = .error (.invalidName t.name) ↔ ¬ ValidName t.name
  duplicate_iff : s.register t = .error (.duplicate t.name) ↔ ValidName t.name ∧ t.name ∈ s.names
  taken_iff : (∃ s', s.register t = .ok s') ↔ ValidName t.name ∧ t.name ∉ s.names
  /-- A tool that is taken comes last. -/
  added : ∀ s', s.register t = .ok s' → (s.attempt t).values = s.values ++ [t]
  /-- One that is refused leaves everything as it was. -/
  refused : ∀ e, s.register t = .error e → s.attempt t = s

theorem Sound.keeps (h : s.Sound) : s.Keeps s.values where
  values := rfl
  names := rfl
  size := Array.length_toList.symm
  distinct := h.names_nodup
  valid := by
    intro name hname
    obtain ⟨t, ht, rfl⟩ := List.mem_map.1 hname
    exact h.valid t ht
  has_iff _ := h.has_iff
  found _ := h.lookup_of_mem
  missing _ := h.lookup_of_not_mem

theorem Sound.answers (h : s.Sound) (t : Tool) : s.Answers t := by
  obtain ⟨hname, hoffer⟩ | ⟨hname, htaken, hoffer⟩ | ⟨hname, hfree, hoffer⟩ := register_cases s t
  · constructor <;> simp [hoffer, hname, Store.attempt]
  · have hmem : t.name ∈ s.names := h.has_iff.1 htaken
    constructor <;> simp [hoffer, hname, hmem, Store.attempt]
  · have hnew : t.name ∉ s.names := fun hmem => by
      rw [h.has_iff.2 hmem] at hfree
      cases hfree
    constructor <;> simp [hoffer, hname, hnew, Store.attempt]

/-- The tools of a store after some offers are those that it had and those
that were taken. -/
theorem values_after (s : Store) (calls : List Tool) :
    (s.after calls).values = s.values ++ s.admitted calls := by
  induction calls generalizing s with
  | nil => exact (List.append_nil _).symm
  | cons t calls ih =>
    have hafter : s.after (t :: calls) = (s.attempt t).after calls := rfl
    rw [hafter, ih]
    obtain ⟨heq, e, herror⟩ | ⟨heq, hok⟩ := attempt_eq s t
    · rw [heq, admitted, herror]
    · rw [heq, admitted, hok, values_add, List.append_assoc]
      rfl

/-- A name is there after some offers if it was there before, or if it is
valid and a tool of that name has been offered. -/
theorem Sound.mem_names_after (h : s.Sound) (calls : List Tool) (name : String) :
    name ∈ (s.after calls).names ↔
      name ∈ s.names ∨ ValidName name ∧ ∃ t ∈ calls, t.name = name := by
  induction calls generalizing s with
  | nil => simp [Store.after]
  | cons t calls ih =>
    have hafter : s.after (t :: calls) = (s.attempt t).after calls := rfl
    have hoffered :
        name ∈ (s.attempt t).names ↔ name ∈ s.names ∨ ValidName name ∧ t.name = name := by
      obtain ⟨heq, e, herror⟩ | ⟨heq, hok⟩ := attempt_eq s t
      · -- a tool that is refused has no valid name, or one that is there
        rw [heq, iff_self_or]
        rintro ⟨hname, rfl⟩
        by_contra hnew
        obtain ⟨s', hok⟩ := (h.answers t).taken_iff.2 ⟨hname, hnew⟩
        cases herror.symm.trans hok
      · obtain ⟨hname, -, -⟩ := register_eq_ok_iff.1 hok
        rw [heq, names, values_add, List.map_append, List.mem_append, List.map_singleton,
          List.mem_singleton]
        refine or_congr Iff.rfl ⟨?_, fun hsame => hsame.2.symm⟩
        rintro rfl
        exact ⟨hname, rfl⟩
    rw [hafter, ih (h.attempt t), hoffered]
    simp only [List.mem_cons, exists_eq_or_imp]
    tauto

/-- **Registering tools.** After any number of offers, of which any may have
been refused, the store keeps exactly the tools that were taken, in their
order: their names are valid and distinct, each is found under its own name
and nothing under any other. An offer is refused if and only if its name is
not valid or has been taken, which it has if it is valid and was offered
before. The tools are those of a registry which finds, takes and refuses the
same. -/
theorem registration (calls : List Tool) :
    (empty.after calls).Keeps (empty.admitted calls) ∧
      (∀ t, (empty.after calls).Answers t) ∧
      (∀ name, name ∈ (empty.after calls).names ↔
        ValidName name ∧ ∃ t ∈ calls, t.name = name) ∧
      ∃ r : Registry, r.tools = (empty.after calls).values ∧
        ∀ name t, (empty.after calls).lookup name = .ok (r.get? name) ∧
          (empty.after calls).has name = r.has name ∧
          ((empty.after calls).register t).map values = (r.register t).map Registry.tools := by
  have hsound : (empty.after calls).Sound := sound_empty.after calls
  have hvalues : (empty.after calls).values = empty.admitted calls := values_after empty calls
  refine ⟨hvalues ▸ hsound.keeps, hsound.answers, fun name => ?_, hsound.toRegistry, rfl, ?_⟩
  · rw [sound_empty.mem_names_after]
    exact or_iff_right List.not_mem_nil
  · intro name t
    exact ⟨hsound.lookup_eq name, (hsound.has_toRegistry name).symm,
      (hsound.register_toRegistry t).symm⟩

end Store

end Tool

end Amanuensis
