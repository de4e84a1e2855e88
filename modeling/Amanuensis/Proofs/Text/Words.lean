import Amanuensis.Proofs.Text.Runs
import Mathlib.Data.List.Chain
/-!
# Words and what parts them

`Parted` says of a text which words it is made of, with gaps of other
characters before, between and behind them; the maximal runs of the text are
those words and no others (`parted_iff`). Words that are joined by a mark are
found again (`runs_joined`), and a text that is cut at every gap leaves its
words and empty parts (`pieces_eq_runs`).
-/


namespace Amanuensis

namespace Text

variable {p q : Char → Bool} {s w : List Char} {words : List (List Char)}

/-! ## The words of a text -/

/-- The text is made of these words of a class, each as long as it can be,
with gaps around them. -/
inductive Parted (p : Char → Bool) : List Char → List (List Char) → Prop
  | gap {s : List Char} (hs : ∀ c ∈ s, p c = false) : Parted p s []
  | word {gap w rest : List Char} {words : List (List Char)} (hgap : ∀ c ∈ gap, p c = false)
    (hne : w ≠ []) (hw : ∀ c ∈ w, p c = true) (hapart : BeginsApart p rest)
    (hrest : Parted p rest words) : Parted p (gap ++ (w ++ rest)) (w :: words)

theorem Parted.runs_eq (h : Parted p s words) : runs p s = words := by
  induction h with
  | gap hs => exact runs_eq_nil_iff.2 hs
  | word hgap hne hw hapart _ ih =>
    rw [runs_append_of_breaks hgap, runs, runsAfter_word hw hapart (.inl hne), ih]
    rfl

/-- A text may begin with a word. -/
theorem Parted.opening {rest : List Char} (hne : w ≠ []) (hw : ∀ c ∈ w, p c = true)
    (hapart : BeginsApart p rest) (hrest : Parted p rest words) :
    Parted p (w ++ rest) (w :: words) := by
  have hgap : ∀ c ∈ ([] : List Char), p c = false := nofun
  exact .word hgap hne hw hapart hrest

theorem exists_parted (p : Char → Bool) (s : List Char) : ∃ words, Parted p s words := by
  induction s with
  | nil => exact ⟨[], .gap nofun⟩
  | cons c s ih =>
    obtain ⟨words, h⟩ := ih
    cases hc : p c with
    | false =>
      -- one more character in the first gap
      cases h with
      | gap hs => exact ⟨[], .gap (List.forall_mem_cons.2 ⟨hc, hs⟩)⟩
      | word hgap hne hw hapart hrest =>
        exact ⟨_, .word (List.forall_mem_cons.2 ⟨hc, hgap⟩) hne hw hapart hrest⟩
    | true =>
      have hone : ∀ d ∈ [c], p d = true := by simpa using hc
      have hbefore : [c] ≠ [] := List.cons_ne_nil _ _
      cases h with
      | gap hs =>
        have hapart : BeginsApart p s := fun d hd => hs d (List.mem_of_mem_head? hd)
        exact ⟨[[c]], .opening hbefore hone hapart (.gap hs)⟩
      | @word gap w rest words hgap hne hw hapart hrest =>
        cases gap with
        | nil =>
          exact ⟨(c :: w) :: words, .opening (List.cons_ne_nil _ _)
            (List.forall_mem_cons.2 ⟨hc, hw⟩) hapart hrest⟩
        | cons d gap =>
          have hd : BeginsApart p (d :: (gap ++ (w ++ rest))) :=
            beginsApart_cons.2 (hgap d List.mem_cons_self)
          exact ⟨[c] :: w :: words, .opening hbefore hone hd (.word hgap hne hw hapart hrest)⟩

theorem parted_runs (p : Char → Bool) (s : List Char) : Parted p s (runs p s) := by
  obtain ⟨words, h⟩ := exists_parted p s
  rw [h.runs_eq]
  exact h

/-- **The words of a text** are its maximal runs. -/
theorem parted_iff : Parted p s words ↔ runs p s = words :=
  ⟨Parted.runs_eq, fun h => h ▸ parted_runs p s⟩

theorem Parted.mem (h : Parted p s words) (hw : w ∈ words) : w ≠ [] ∧ ∀ c ∈ w, p c = true := by
  induction h with
  | gap hs => cases hw
  | word _ hne hin _ _ ih =>
    obtain rfl | hw := List.mem_cons.1 hw
    · exact ⟨hne, hin⟩
    · exact ih hw

/-- A run is not empty, and all of it is in the class. -/
theorem mem_runs (hw : w ∈ runs p s) : w ≠ [] ∧ ∀ c ∈ w, p c = true := (parted_runs p s).mem hw

/-- The runs of a text that is changed character by character. -/
theorem runs_map {f : Char → Char} (hf : ∀ c ∈ s, q (f c) = p c) :
    runs q (s.map f) = (runs p s).map (List.map f) := by
  have hparted := parted_runs p s
  generalize runs p s = words at hparted
  induction hparted with
  | gap hs =>
    refine runs_eq_nil_iff.2 fun d hd => ?_
    obtain ⟨c, hc, rfl⟩ := List.mem_map.1 hd
    rw [hf c hc, hs c hc]
  | @word gap w rest words hgap hne hw hapart _ ih =>
    simp only [List.forall_mem_append] at hf
    obtain ⟨hfgap, hfw, hfrest⟩ := hf
    have hgap' : ∀ d ∈ gap.map f, q d = false := fun d hd => by
      obtain ⟨c, hc, rfl⟩ := List.mem_map.1 hd
      rw [hfgap c hc, hgap c hc]
    have hw' : ∀ d ∈ w.map f, q d = true := fun d hd => by
      obtain ⟨c, hc, rfl⟩ := List.mem_map.1 hd
      rw [hfw c hc, hw c hc]
    have hapart' : BeginsApart q (rest.map f) := by
      intro d hd
      rw [List.head?_map] at hd
      obtain ⟨c, hc, rfl⟩ := Option.map_eq_some_iff.1 hd
      rw [hfrest c (List.mem_of_mem_head? hc), hapart c hc]
    have hne' : w.map f ≠ [] := by simpa using hne
    rw [List.map_append, List.map_append, runs_append_of_breaks hgap', runs,
      runsAfter_word hw' hapart' (.inl hne'), ih hfrest]
    rfl

/-! ## Words put together -/

/-- Words that a mark joins begin with the first of them. -/
theorem joined_cons (mark : Char) (w : List Char) (words : List (List Char)) :
    [mark].intercalate (w :: words) =
      w ++ if words = [] then [] else mark :: [mark].intercalate words := by
  cases words with
  | nil => simp
  | cons v words => simp [List.intercalate_cons_cons]

/-- What is joined is marks and words. -/
theorem mem_joined {mark c : Char} (h : c ∈ [mark].intercalate words) :
    c = mark ∨ ∃ w ∈ words, c ∈ w := by
  induction words with
  | nil => cases h
  | cons w words ih =>
    rw [joined_cons, List.mem_append] at h
    obtain hw | hrest := h
    · exact .inr ⟨w, List.mem_cons_self, hw⟩
    · split at hrest
      · cases hrest
      · obtain rfl | hc := List.mem_cons.1 hrest
        · exact .inl rfl
        · exact (ih hc).imp_right fun ⟨v, hv, hcv⟩ => ⟨v, List.mem_cons_of_mem _ hv, hcv⟩

/-- **Words that are joined** by a mark of another class are found again. -/
theorem runs_joined {mark : Char} (hmark : p mark = false)
    (h : ∀ w ∈ words, w ≠ [] ∧ ∀ c ∈ w, p c = true) :
    runs p ([mark].intercalate words) = words := by
  induction words with
  | nil => rfl
  | cons w words ih =>
    obtain ⟨⟨hne, hw⟩, hwords⟩ := List.forall_mem_cons.1 h
    rw [joined_cons]
    by_cases hlast : words = []
    · rw [if_pos hlast, hlast, runs, runsAfter_word hw beginsApart_nil (.inl hne)]
      rfl
    · have hapart : BeginsApart p (mark :: [mark].intercalate words) := beginsApart_cons.2 hmark
      have hrest : runs p (mark :: [mark].intercalate words) = words :=
        (runs_append_break (s := []) hmark).trans (ih hwords)
      rw [if_neg hlast, runs, runsAfter_word hw hapart (.inl hne), hrest]
      rfl

section Joined

variable {mark : Char}

/-- Words that are joined begin within a word, -/
theorem joined_opens (h : ∀ w ∈ words, w ≠ [] ∧ mark ∉ w) :
    ([mark].intercalate words).head? ≠ some mark := by
  cases words with
  | nil => exact nofun
  | cons w words =>
    obtain ⟨hne, hw⟩ := h w List.mem_cons_self
    rw [joined_cons, List.head?_append_of_ne_nil w hne]
    exact fun hhead => hw (List.mem_of_mem_head? hhead)

/-- end within one, -/
theorem joined_closes (h : ∀ w ∈ words, w ≠ [] ∧ mark ∉ w) :
    ([mark].intercalate words).getLast? ≠ some mark := by
  induction words with
  | nil => exact nofun
  | cons w words ih =>
    obtain ⟨⟨hne, hw⟩, hwords⟩ := List.forall_mem_cons.1 h
    rw [joined_cons]
    by_cases hlast : words = []
    · rw [if_pos hlast, List.append_nil]
      exact fun hend => hw (List.mem_of_getLast? hend)
    · have hrest : [mark].intercalate words ≠ [] := by
        obtain ⟨v, rest, rfl⟩ := List.exists_cons_of_ne_nil hlast
        rw [joined_cons]
        exact List.append_ne_nil_of_left_ne_nil (hwords v List.mem_cons_self).1 _
      rw [if_neg hlast, List.getLast?_append_of_ne_nil _ (List.cons_ne_nil _ _),
        List.getLast?_cons_of_ne_nil hrest]
      exact ih hwords

/-- and have one mark between any two. -/
theorem joined_single (h : ∀ w ∈ words, w ≠ [] ∧ mark ∉ w) :
    ¬ [mark, mark] <:+: [mark].intercalate words := by
  have hchain : ([mark].intercalate words).IsChain (fun a b => a ≠ mark ∨ b ≠ mark) := by
    induction words with
    | nil => exact .nil
    | cons w words ih =>
      obtain ⟨⟨hne, hw⟩, hwords⟩ := List.forall_mem_cons.1 h
      have hword : w.IsChain (fun a b => a ≠ mark ∨ b ≠ mark) :=
        List.Pairwise.isChain (List.pairwise_of_forall_mem_list fun a ha _ _ =>
          .inl fun hmark => hw (hmark ▸ ha))
      rw [joined_cons]
      by_cases hlast : words = []
      · rwa [if_pos hlast, List.append_nil]
      · rw [if_neg hlast, List.isChain_append]
        refine ⟨hword, List.isChain_cons.2 ⟨fun b hb => .inr ?_, ih hwords⟩, fun a ha b hb => ?_⟩
        · rintro rfl
          exact joined_opens hwords hb
        · exact .inl fun hmark => hw (hmark ▸ List.mem_of_getLast? ha)
  intro hdouble
  have htwo := hchain.infix hdouble
  simp at htwo

end Joined

/-! ## Texts that are cut -/

/-- The parts that are not empty, where a text is cut at each character that
is not in a class. -/
def pieces (p : Char → Bool) (s : List Char) : List (List Char) :=
  (splitAt (fun c => !p c) s).filter fun part => !part.isEmpty

theorem splitAt_of_word (hw : ∀ c ∈ w, q c = false) : splitAt q w = [w] := by
  induction w with
  | nil => rfl
  | cons c w ih =>
    obtain ⟨hc, hw⟩ := List.forall_mem_cons.1 hw
    rw [splitAt_cons, hc, ih hw]
    rfl

/-- A cut leaves an empty part at most. -/
theorem pieces_append_gap {gap : List Char} (hgap : ∀ c ∈ gap, p c = false) (s : List Char) :
    pieces p (gap ++ s) = pieces p s := by
  induction gap with
  | nil => rfl
  | cons c gap ih =>
    obtain ⟨hc, hgap⟩ := List.forall_mem_cons.1 hgap
    have hmark : (!p c) = true := by rw [hc]; rfl
    rw [List.cons_append, ← ih hgap, pieces, splitAt_cons_mark hmark,
      List.filter_cons_of_neg (by simp)]
    rfl

theorem pieces_append_word {rest : List Char} (hne : w ≠ []) (hw : ∀ c ∈ w, p c = true)
    (hapart : BeginsApart p rest) : pieces p (w ++ rest) = w :: pieces p rest := by
  have hwhole : splitAt (fun c => !p c) w = [w] :=
    splitAt_of_word fun c hc => by rw [hw c hc]; rfl
  have hkept : w.isEmpty = false := by simpa using hne
  cases rest with
  | nil =>
    have hempty : pieces p [] = [] := rfl
    rw [List.append_nil, hempty, pieces, hwhole]
    simp [hkept]
  | cons c rest =>
    have hmark : (!p c) = true := by rw [beginsApart_cons.1 hapart]; rfl
    rw [pieces, pieces, splitAt_append_mark hmark, splitAt_cons_mark hmark, hwhole]
    simp [hkept]

/-- **Cutting at every gap** leaves the words. -/
theorem pieces_eq_runs (p : Char → Bool) (s : List Char) : pieces p s = runs p s := by
  have hparted := parted_runs p s
  generalize runs p s = words at hparted
  induction hparted with
  | @gap s hs =>
    rw [← List.append_nil s, pieces_append_gap hs]
    rfl
  | word hgap hne hw hapart _ ih =>
    rw [pieces_append_gap hgap, pieces_append_word hne hw hapart, ih]

end Text

end Amanuensis
