import Amanuensis.Text.Runs
import Mathlib.Data.List.Basic
/-!
# The runs of a text put together

How the maximal runs of a text follow from those of its parts. At a break
they are the runs of both sides (`runs_append_break`). Where no break parts
them, the run that ends the first part goes on into the second
(`exists_runs_append`). A text that is cut at marks falls apart in the same
way (`splitAt_append_mark`).
-/


namespace Amanuensis

namespace Text

variable {p : Char → Bool} {c : Char} {run s t w : List Char}

/-- A text that does not go on a run of characters in a class: it is empty
or begins with a character that is not in the class. -/
def BeginsApart (p : Char → Bool) (s : List Char) : Prop := ∀ c ∈ s.head?, p c = false

theorem beginsApart_nil : BeginsApart p [] := nofun

theorem beginsApart_cons : BeginsApart p (c :: s) ↔ p c = false := by
  simp [BeginsApart]

theorem beginsApart_dropWhile (p : Char → Bool) (s : List Char) :
    BeginsApart p (s.dropWhile p) := by
  intro c hc
  have := List.head?_dropWhile_not p s
  rw [Option.mem_def] at hc
  simpa [hc] using this

/-- A text begins as its leading part does. -/
theorem BeginsApart.of_append (h : BeginsApart p (s ++ t)) : BeginsApart p s :=
  fun c hc => h c (List.mem_head?_append_of_mem_head? hc)

/-- What goes on a text that is not empty does not change how it begins. -/
theorem BeginsApart.append (h : BeginsApart p s) (hne : s ≠ []) (t : List Char) :
    BeginsApart p (s ++ t) := by
  intro c hc
  rw [List.head?_append_of_ne_nil s hne] at hc
  exact h c hc

theorem BeginsApart.dropWhile_eq_self (h : BeginsApart p t) : t.dropWhile p = t := by
  cases t with
  | nil => rfl
  | cons c t => exact List.dropWhile_cons_of_neg (by rw [beginsApart_cons.1 h]; decide)

/-- What begins apart is left when a run is dropped, -/
theorem BeginsApart.dropWhile_append (h : BeginsApart p t) (s : List Char) :
    (s ++ t).dropWhile p = s.dropWhile p ++ t := by
  rw [List.dropWhile_append, h.dropWhile_eq_self]
  split
  · rename_i hnil
    rw [List.isEmpty_iff.1 hnil, List.nil_append]
  · rfl

/-- and no part of it is taken into the run. -/
theorem BeginsApart.takeWhile_append (h : BeginsApart p t) (s : List Char) :
    (s ++ t).takeWhile p = s.takeWhile p := by
  have hnil : t.takeWhile p = [] := by
    cases t with
    | nil => rfl
    | cons c t => exact List.takeWhile_cons_of_neg (by rw [beginsApart_cons.1 h]; decide)
  rw [List.takeWhile_append, hnil, List.append_nil]
  split
  · rename_i hlength
    exact ((List.takeWhile_prefix p).eq_of_length hlength).symm
  · rfl

theorem runs_nil : runs p [] = [] := rfl

/-- The run under way ends at a break. -/
theorem runsAfter_append_break (hc : p c = false) :
    runsAfter p run (s ++ c :: t) = runsAfter p run s ++ runs p t := by
  induction s generalizing run with
  | nil =>
    simp only [List.nil_append, runsAfter, hc, Bool.false_eq_true, if_false]
    split <;> rfl
  | cons d s ih =>
    simp only [List.cons_append, runsAfter]
    split
    · exact ih
    · split
      · exact ih
      · rw [ih, List.cons_append]

/-- **The runs on both sides of a break** are all there are. -/
theorem runs_append_break (hc : p c = false) : runs p (s ++ c :: t) = runs p s ++ runs p t :=
  runsAfter_append_break hc

/-- A text that begins apart adds its own runs. -/
theorem runs_append (ht : BeginsApart p t) : runs p (s ++ t) = runs p s ++ runs p t := by
  cases t with
  | nil => simp [runs_nil]
  | cons c t =>
    have hc : p c = false := beginsApart_cons.1 ht
    have hself : runs p (c :: t) = runs p t := runs_append_break (s := []) hc
    rw [runs_append_break hc, hself]

/-- A text of breaks adds nothing before another. -/
theorem runs_append_of_breaks (hs : ∀ c ∈ s, p c = false) : runs p (s ++ t) = runs p t := by
  induction s with
  | nil => rfl
  | cons c s ih =>
    have hcons : runs p (c :: (s ++ t)) = runs p (s ++ t) :=
      runs_append_break (s := []) (hs c List.mem_cons_self)
    rw [List.cons_append, hcons, ih fun d hd => hs d (List.mem_cons_of_mem _ hd)]

theorem runsAfter_eq_nil_iff : runsAfter p run s = [] ↔ run = [] ∧ ∀ c ∈ s, p c = false := by
  induction s generalizing run with
  | nil => cases run <;> simp [runsAfter]
  | cons c s ih =>
    simp only [runsAfter, List.forall_mem_cons]
    cases hc : p c with
    | true => simp [ih]
    | false => cases run <;> simp [ih]

/-- There are no runs if and only if nothing is in the class. -/
theorem runs_eq_nil_iff : runs p s = [] ↔ ∀ c ∈ s, p c = false := by
  rw [runs, runsAfter_eq_nil_iff]
  exact and_iff_right rfl

/-- A run goes on as long as characters of the class follow. -/
theorem runsAfter_word (hw : ∀ c ∈ w, p c = true) (ht : BeginsApart p t)
    (hne : w ≠ [] ∨ run ≠ []) :
    runsAfter p run (w ++ t) = (run.reverse ++ w) :: runs p t := by
  induction w generalizing run with
  | nil =>
    have hrun : run ≠ [] := hne.resolve_left fun h => h rfl
    cases t with
    | nil => simp [runsAfter, hrun, runs_nil]
    | cons c t =>
      have hc : p c = false := beginsApart_cons.1 ht
      simp [runsAfter, hc, hrun, runs]
  | cons c w ih =>
    have hc : p c = true := hw c List.mem_cons_self
    simp only [List.cons_append, runsAfter, hc, if_true]
    rw [ih (fun d hd => hw d (List.mem_cons_of_mem _ hd)) (.inr (List.cons_ne_nil _ _)),
      List.reverse_cons, List.append_assoc, List.singleton_append]

theorem exists_runsAfter_append (hlast : ∀ c ∈ s.getLast?, p c = true) (hs : s ≠ []) :
    ∃ before v, runsAfter p run s = before ++ [v] ∧
      ∀ w t, (∀ c ∈ w, p c = true) → BeginsApart p t →
        runsAfter p run (s ++ (w ++ t)) = before ++ (v ++ w) :: runs p t := by
  induction s generalizing run with
  | nil => exact absurd rfl hs
  | cons c s ih =>
    cases s with
    | nil =>
      have hc : p c = true := hlast c rfl
      refine ⟨[], (c :: run).reverse, by simp [runsAfter, hc], fun w t hw ht => ?_⟩
      simp only [List.singleton_append, runsAfter, hc, if_true, List.nil_append]
      exact runsAfter_word hw ht (.inr (List.cons_ne_nil _ _))
    | cons d s =>
      have hlast' : ∀ c ∈ (d :: s).getLast?, p c = true := by
        rwa [List.getLast?_cons_cons] at hlast
      have hne : d :: s ≠ [] := List.cons_ne_nil _ _
      cases hc : p c with
      | true =>
        obtain ⟨before, v, hruns, happend⟩ := @ih (c :: run) hlast' hne
        refine ⟨before, v, by rw [runsAfter, if_pos hc, hruns], fun w t hw ht => ?_⟩
        rw [List.cons_append, runsAfter, if_pos hc, happend w t hw ht]
      | false =>
        -- the run under way ends here, and the last one is in the rest
        obtain ⟨before, v, hruns, happend⟩ := @ih [] hlast' hne
        have hbreak : ∀ u, runsAfter p run (c :: u) = runsAfter p run [] ++ runs p u := fun u =>
          runsAfter_append_break (s := []) hc
        refine ⟨runsAfter p run [] ++ before, v, ?_, fun w t hw ht => ?_⟩
        · rw [hbreak, runs, hruns, List.append_assoc]
        · rw [List.cons_append, hbreak, runs, happend w t hw ht, List.append_assoc]

/-- **The last run goes on** into what follows a text that ends within it. -/
theorem exists_runs_append (hlast : ∀ c ∈ s.getLast?, p c = true) (hs : s ≠ []) :
    ∃ before v, runs p s = before ++ [v] ∧
      ∀ w t, (∀ c ∈ w, p c = true) → BeginsApart p t →
        runs p (s ++ (w ++ t)) = before ++ (v ++ w) :: runs p t :=
  exists_runsAfter_append hlast hs

/-! ## Texts cut at marks -/

theorem splitAt_cons (p : Char → Bool) (c : Char) (s : List Char) :
    splitAt p (c :: s) =
      if p c then [] :: splitAt p s
      else
        match splitAt p s with
        | part :: rest => (c :: part) :: rest
        | [] => [[c]] :=
  rfl

theorem splitAt_cons_mark (hc : p c = true) (s : List Char) :
    splitAt p (c :: s) = [] :: splitAt p s :=
  if_pos hc

theorem splitAt_ne_nil (p : Char → Bool) (s : List Char) : splitAt p s ≠ [] := by
  cases s with
  | nil => exact List.cons_ne_nil _ _
  | cons c s =>
    rw [splitAt_cons]
    split
    · exact List.cons_ne_nil _ _
    · split <;> exact List.cons_ne_nil _ _

/-- A character that is no mark belongs to the first part. -/
theorem exists_splitAt_cons (hc : p c = false) (s : List Char) :
    ∃ part parts, splitAt p s = part :: parts ∧ splitAt p (c :: s) = (c :: part) :: parts := by
  obtain ⟨part, parts, hs⟩ := List.exists_cons_of_ne_nil (splitAt_ne_nil p s)
  exact ⟨part, parts, hs, by rw [splitAt_cons, hc, hs]; rfl⟩

/-- **A text is cut on both sides of a mark.** -/
theorem splitAt_append_mark (hc : p c = true) (s t : List Char) :
    splitAt p (s ++ c :: t) = splitAt p s ++ splitAt p t := by
  induction s with
  | nil => exact splitAt_cons_mark hc t
  | cons d s ih =>
    rw [List.cons_append]
    cases hd : p d with
    | true => rw [splitAt_cons_mark hd, splitAt_cons_mark hd, ih, List.cons_append]
    | false =>
      obtain ⟨part, parts, hs, hcons⟩ := exists_splitAt_cons hd s
      obtain ⟨part', parts', hs', hcons'⟩ := exists_splitAt_cons hd (s ++ c :: t)
      rw [ih, hs, List.cons_append] at hs'
      obtain ⟨rfl, rfl⟩ := List.cons.inj hs'
      rw [hcons, hcons', List.cons_append]

/-- Each mark at the end leaves an empty part. -/
theorem splitAt_append_marks (hc : p c = true) (s : List Char) (n : Nat) :
    splitAt p (s ++ List.replicate n c) = splitAt p s ++ List.replicate n [] := by
  induction n generalizing s with
  | zero => simp
  | succ n ih =>
    have hmark : splitAt p (s ++ [c]) = splitAt p s ++ [[]] := splitAt_append_mark hc s []
    have hcons : s ++ List.replicate (n + 1) c = s ++ [c] ++ List.replicate n c := by
      rw [List.replicate_succ, List.append_assoc, List.singleton_append]
    rw [hcons, ih, hmark, List.append_assoc, List.replicate_succ, List.singleton_append]

end Text

end Amanuensis
