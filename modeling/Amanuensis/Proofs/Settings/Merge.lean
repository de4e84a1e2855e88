import Amanuensis.Settings.Load
import Mathlib.Data.List.Induction
/-!
# Layers key by key

What one layer after the other leaves under a key of a section. `writes` is
what an entry of a layer says of the key, read off its path alone, and
`given` the last thing that a whole layer says. Where no entry gives the
section as anything but a table, the key holds what was said last, whatever
else any layer says (`valueAt_of_given`), and what was never said leaves the
key as it was (`valueAt_of_not_given`).
-/


namespace Amanuensis

namespace Settings

open Value (mergeEntries mergedWith setEntry)

/-- What a source says: the entries of its outermost level. -/
abbrev Layer := List (String × Value)

variable {sec key : String} {values layer : Layer} {e : String × Value} {v : Value}

/-! ## Entries of a table -/

/-- Neither a table nor a list. -/
def Value.IsLeaf : Value → Prop
  | .table _ _ | .arr _ _ => False
  | _ => True

/-- The values under a key, in their order. -/
def under (key : String) (es : List (String × Value)) : List Value :=
  (es.filter fun e => e.1 = key).map (·.2)

theorem mergedWith_leaf (h : v.IsLeaf) (before : Option Value) : mergedWith before v = v := by
  cases v with
  | table es origin => exact h.elim
  | arr items origin => exact h.elim
  | _ => rfl

theorem lookup_cons (k : String) (w : Value) (es : List (String × Value)) :
    List.lookup key ((k, w) :: es) = if key = k then some w else es.lookup key := by
  by_cases h : key = k
  · subst h
    simp
  · rw [List.lookup_cons, beq_false_of_ne h, if_neg h]

theorem lookup_setEntry (k : String) (w : Value) (es : List (String × Value)) :
    (setEntry k w es).lookup key = if key = k then some w else es.lookup key := by
  induction es with
  | nil => exact lookup_cons k w []
  | cons first es ih =>
    obtain ⟨l, u⟩ := first
    by_cases hl : k = l
    · subst hl
      rw [setEntry, if_pos rfl, lookup_cons, lookup_cons]
      split <;> rfl
    · rw [setEntry, if_neg hl, lookup_cons, lookup_cons, ih]
      by_cases h : key = l
      · have hne : ¬ key = k := fun hk => hl (hk ▸ h)
        rw [if_pos h, if_neg hne, if_pos h]
      · rw [if_neg h, if_neg h]

/-- A key holds what is merged into it, one value after the other. -/
theorem lookup_mergeEntries (done es : List (String × Value)) :
    (mergeEntries done es).lookup key =
      (under key es).foldl (fun before w => some (mergedWith before w)) (done.lookup key) := by
  induction es generalizing done with
  | nil => rfl
  | cons first es ih =>
    obtain ⟨k, w⟩ := first
    rw [mergeEntries, ih, lookup_setEntry]
    by_cases h : key = k
    · subst h
      simp [under]
    · have hk : ¬ k = key := fun hk => h hk.symm
      simp [under, h, hk]

/-- The last of several values is what is left, if it is no table. -/
theorem foldl_mergedWith {ws : List Value} (hlast : ws.getLast? = some v) (hleaf : v.IsLeaf)
    (before : Option Value) :
    ws.foldl (fun before w => some (mergedWith before w)) before = some v := by
  obtain ⟨init, rfl⟩ := List.getLast?_eq_some_iff.1 hlast
  rw [List.foldl_append]
  exact congrArg some (mergedWith_leaf hleaf _)

/-! ## Entries of a layer -/

/-- What is under a key of a section. -/
def valueAt (sec key : String) (values : Layer) : Option Value :=
  (values.lookup sec).bind fun v => v.entries.lookup key

/-- The values with one entry of a layer merged into them. -/
def withEntry (values : Layer) (e : String × Value) : Layer :=
  (e.2.put (steps e.1) (.table values none)).entries

/-- What an entry says of a key of a section. -/
def writes (sec key : String) (e : String × Value) : List Value :=
  match steps e.1, e.2 with
  | [.key s], .table es _ => if s = sec then under key es else []
  | .key s :: .key k :: rest, v => if s = sec ∧ k = key then [v.put rest (.unit none)] else []
  | _, _ => []

/-- Does the entry give a section other than key by key? -/
def reshapes (sec : String) (e : String × Value) : Bool :=
  match steps e.1, e.2 with
  | [.key _], .table _ _ => false
  | .key _ :: .key _ :: _, _ => false
  | .key s :: _, _ => s = sec
  | _, _ => false

/-- A key leads to a table first. -/
theorem exists_steps (k : String) : ∃ first rest, steps k = .key first :: rest := by
  simp only [steps]
  split
  · split <;> exact ⟨_, _, rfl⟩
  · exact ⟨_, _, rfl⟩

/-- **What an entry can do.** It gives a section as a table, or something
under a key of a section, or else it gives a section as something else. -/
theorem entry_cases (e : String × Value) :
    (∃ s es origin, (∀ sec key, writes sec key e = if s = sec then under key es else []) ∧
        ∀ values, withEntry values e =
          setEntry s (mergedWith (values.lookup s) (.table es origin)) values) ∨
      (∃ s k rest, (∀ sec key, writes sec key e =
          if s = sec ∧ k = key then [e.2.put rest (.unit none)] else []) ∧
        ∀ values, withEntry values e =
          setEntry s (e.2.put (.key k :: rest) ((values.lookup s).getD (.unit none))) values) ∨
      ∃ s, (∀ sec, reshapes sec e = decide (s = sec)) ∧ (∀ sec key, writes sec key e = []) ∧
        ∀ values, ∃ u, withEntry values e = setEntry s u values := by
  obtain ⟨path, w⟩ := e
  obtain ⟨s, rest, hsteps⟩ := exists_steps path
  simp only [writes, reshapes, withEntry, hsteps]
  cases rest with
  | nil =>
    cases w with
    | table es origin => exact .inl ⟨s, es, origin, fun _ _ => rfl, fun _ => rfl⟩
    | _ => exact .inr (.inr ⟨s, fun _ => rfl, fun _ _ => rfl, fun _ => ⟨_, rfl⟩⟩)
  | cons next rest =>
    cases next with
    | key k => exact .inr (.inl ⟨s, k, rest, fun _ _ => rfl, fun _ => rfl⟩)
    | item i => exact .inr (.inr ⟨s, fun _ => rfl, fun _ _ => rfl, fun _ => ⟨_, rfl⟩⟩)

theorem valueAt_setEntry (s : String) (w : Value) (values : Layer) :
    valueAt sec key (setEntry s w values) =
      if sec = s then w.entries.lookup key else valueAt sec key values := by
  rw [valueAt, lookup_setEntry]
  split <;> rfl

/-- What is not there holds nothing. -/
theorem lookup_entries_getD (before : Option Value) :
    (before.getD (.unit none)).entries.lookup key =
      before.bind fun v => v.entries.lookup key := by
  cases before <;> rfl

/-- What a table leaves under a key of what was there. -/
theorem lookup_entries_mergedWith (before : Option Value) (es : List (String × Value))
    (origin : Option String) :
    (mergedWith before (.table es origin)).entries.lookup key =
      (under key es).foldl (fun before w => some (mergedWith before w))
        (before.bind fun v => v.entries.lookup key) := by
  cases es with
  | nil => cases before <;> rfl
  | cons first es =>
    rw [← lookup_entries_getD, ← lookup_mergeEntries]
    rfl

/-- A value that is put under a key becomes what the key holds, unless it is
merged into a table or put further down. -/
theorem lookup_entries_put (key k : String) (rest : List Step) (w old : Value) :
    ∃ u, (w.put (.key k :: rest) old).entries.lookup key =
        (if key = k then some u else old.entries.lookup key) ∧
      ((w.put rest (.unit none)).IsLeaf → u = w.put rest (.unit none)) := by
  cases rest with
  | nil =>
    refine ⟨mergedWith (old.entries.lookup k) w, ?_, fun hleaf => mergedWith_leaf hleaf _⟩
    rw [← lookup_setEntry]
    cases old <;> rfl
  | cons next rest =>
    refine ⟨w.put (next :: rest) ((old.entries.lookup k).getD (.unit none)), ?_, fun hleaf => ?_⟩
    · rw [← lookup_setEntry]
      cases old <;> rfl
    · -- what is put further down makes a table or a list
      cases next with
      | key l => cases rest <;> exact hleaf.elim
      | item i => exact hleaf.elim

/-- **What an entry says** of a key is there afterwards, -/
theorem valueAt_withEntry (hlast : (writes sec key e).getLast? = some v) (hleaf : v.IsLeaf)
    (values : Layer) : valueAt sec key (withEntry values e) = some v := by
  obtain ⟨s, es, origin, hwrites, hentry⟩ | ⟨s, k, rest, hwrites, hentry⟩ | ⟨s, -, hnone, -⟩ :=
    entry_cases e
  · rw [hwrites] at hlast
    split at hlast
    · rename_i hs
      rw [hentry, valueAt_setEntry, if_pos hs.symm, lookup_entries_mergedWith]
      exact foldl_mergedWith hlast hleaf _
    · cases hlast
  · rw [hwrites] at hlast
    split at hlast
    · rename_i hkey
      obtain ⟨rfl, rfl⟩ := hkey
      obtain ⟨u, hput, hu⟩ := lookup_entries_put k k rest e.2
        ((values.lookup s).getD (.unit none))
      have hv : e.2.put rest (.unit none) = v := by simpa using hlast
      rw [hentry, valueAt_setEntry, if_pos rfl, hput, if_pos rfl, hu (hv ▸ hleaf), hv]
    · cases hlast
  · rw [hnone] at hlast
    cases hlast

/-- and a key of which it says nothing is as before. -/
theorem valueAt_withEntry_of_silent (hwrites : writes sec key e = [])
    (hshape : reshapes sec e = false) (values : Layer) :
    valueAt sec key (withEntry values e) = valueAt sec key values := by
  obtain ⟨s, es, origin, hwritten, hentry⟩ | ⟨s, k, rest, hwritten, hentry⟩ | ⟨s, hs, -, hentry⟩ :=
    entry_cases e
  · rw [hentry, valueAt_setEntry]
    split
    · rename_i hsec
      subst hsec
      rw [hwritten, if_pos rfl] at hwrites
      rw [lookup_entries_mergedWith, hwrites]
      rfl
    · rfl
  · rw [hentry, valueAt_setEntry]
    split
    · rename_i hsec
      subst hsec
      have hkey : ¬ key = k := by
        rintro rfl
        rw [hwritten, if_pos ⟨rfl, rfl⟩] at hwrites
        exact absurd hwrites (List.cons_ne_nil _ _)
      obtain ⟨u, hput, -⟩ := lookup_entries_put key k rest e.2
        ((values.lookup sec).getD (.unit none))
      rw [hput, if_neg hkey, lookup_entries_getD]
      rfl
    · rfl
  · obtain ⟨u, hu⟩ := hentry values
    rw [hs, decide_eq_false_iff_not] at hshape
    rw [hu, valueAt_setEntry, if_neg fun hsec => hshape hsec.symm]

/-! ## Layers -/

/-- Every entry of the layer gives the section, if at all, as a table. -/
def KeyByKey (sec : String) (layer : Layer) : Prop := ∀ e ∈ layer, reshapes sec e = false

instance (sec : String) (layer : Layer) : Decidable (KeyByKey sec layer) :=
  inferInstanceAs (Decidable (∀ e ∈ layer, _))

/-- The last that a layer says of a key. -/
def given (sec key : String) (layer : Layer) : Option Value :=
  (layer.flatMap (writes sec key)).getLast?

/-- A later layer is asked first. -/
theorem given_append (lower upper : Layer) :
    given sec key (lower ++ upper) = (given sec key upper).or (given sec key lower) := by
  rw [given, List.flatMap_append, List.getLast?_append]
  rfl

theorem given_concat (layer : Layer) (e : String × Value) :
    given sec key (layer ++ [e]) = (writes sec key e).getLast?.or (given sec key layer) := by
  rw [given_append, given, List.flatMap_singleton]

theorem mergeLayer_append (values lower upper : Layer) :
    mergeLayer values (lower ++ upper) = mergeLayer (mergeLayer values lower) upper :=
  List.foldl_append

/-- **The last word on a key** is what the key holds. -/
theorem valueAt_of_given (hgiven : given sec key layer = some v) (hleaf : v.IsLeaf)
    (hshape : KeyByKey sec layer) (values : Layer) :
    valueAt sec key (mergeLayer values layer) = some v := by
  induction layer using List.reverseRecOn with
  | nil => cases hgiven
  | append_singleton layer e ih =>
    have hlayer : KeyByKey sec layer := fun d hd => hshape d (List.mem_append_left _ hd)
    have hentry : reshapes sec e = false := hshape e (List.mem_append_right _ List.mem_cons_self)
    rw [given_concat] at hgiven
    rw [mergeLayer_append]
    cases hlast : (writes sec key e).getLast? with
    | some w =>
      rw [hlast, Option.some_or] at hgiven
      exact valueAt_withEntry (hlast.trans hgiven) hleaf _
    | none =>
      rw [hlast, Option.none_or] at hgiven
      have hsilent := valueAt_withEntry_of_silent (List.getLast?_eq_none_iff.1 hlast) hentry
        (mergeLayer values layer)
      exact hsilent.trans (ih hgiven hlayer)

-- a key is given in a table or by a path, and the last of both counts
example : (given "api" "base_url" [("api", .table [("base_url", .str "a" none)] none),
    ("api.base_url", .str "b" none)]).map Value.toText = some (.ok "b") := by decide +kernel

theorem valueAt_of_not_given (hgiven : given sec key layer = none) (hshape : KeyByKey sec layer)
    (values : Layer) : valueAt sec key (mergeLayer values layer) = valueAt sec key values := by
  induction layer generalizing values with
  | nil => rfl
  | cons e layer ih =>
    obtain ⟨hentry, hlayer⟩ := List.forall_mem_cons.1 hshape
    rw [given, List.getLast?_eq_none_iff, List.flatMap_cons, List.append_eq_nil_iff] at hgiven
    have hsilent := valueAt_withEntry_of_silent hgiven.1 hentry values
    exact (ih (List.getLast?_eq_none_iff.2 hgiven.2) hlayer _).trans hsilent

/-! ## Sections -/

/-- The section is a table, if it is there. -/
def IsTable (sec : String) (values : Layer) : Prop :=
  ∀ v, values.lookup sec = some v → ∃ es origin, v = .table es origin

theorem isTable_withEntry (h : IsTable sec values) (hshape : reshapes sec e = false) :
    IsTable sec (withEntry values e) := by
  have hset : ∀ s u, withEntry values e = setEntry s u values →
      (sec = s → ∃ es origin, u = .table es origin) → IsTable sec (withEntry values e) := by
    intro s u hentry hu v hv
    rw [hentry, lookup_setEntry] at hv
    split at hv
    · rename_i hs
      cases hv
      exact hu hs
    · exact h v hv
  obtain ⟨s, es, origin, -, hentry⟩ | ⟨s, k, rest, -, hentry⟩ | ⟨s, hs, -, hentry⟩ :=
    entry_cases e
  · refine hset s _ (hentry values) ?_
    rintro rfl
    cases es with
    | cons first es => exact ⟨_, _, rfl⟩
    | nil =>
      cases hbefore : values.lookup sec with
      | none => exact ⟨_, _, rfl⟩
      | some before => exact h before hbefore
  · exact hset s _ (hentry values) fun _ => by cases rest <;> exact ⟨_, _, rfl⟩
  · obtain ⟨u, hu⟩ := hentry values
    rw [hs, decide_eq_false_iff_not] at hshape
    exact hset s u hu fun hsec => absurd hsec.symm hshape

/-- Layers that give a section key by key leave it a table. -/
theorem isTable_mergeLayer (h : IsTable sec values) (hshape : KeyByKey sec layer) :
    IsTable sec (mergeLayer values layer) := by
  induction layer generalizing values with
  | nil => exact h
  | cons e layer ih =>
    obtain ⟨hentry, hlayer⟩ := List.forall_mem_cons.1 hshape
    exact ih (isTable_withEntry h hentry) hlayer

end Settings

end Amanuensis
