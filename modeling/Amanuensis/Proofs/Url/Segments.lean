import Amanuensis.Proofs.Text.Runs
import Amanuensis.Proofs.Url.Percent
import Amanuensis.Url.Basic
import Mathlib.Data.List.Basic
/-!
# Segments of a path

Reading a path takes the steps in it one after the other, and only the last
segment is special (`resolve_append`). A text that is added as a segment is
encoded, and an encoded text is a step only if it is one itself
(`encode_isStep`); so it stays one segment and reads as the text
(`pushSegment_plain`).
-/


namespace Amanuensis

namespace Url

variable {reserved : Char → Bool} {s t : List Char} {done parts rest : List (List Char)}
variable {scheme : String}

/-! ## Steps -/

/-- Is the segment a step, to the same place or up? -/
def isStep (s : List Char) : Bool := isSingleDot s || isDoubleDot s

/-- Only capitals of ASCII are spelled in another way in lower case. -/
theorem toLower_cases (c : Char) :
    c.toLower = c ∨ ∃ n ∈ List.range' 65 26, c = Char.ofNat n := by
  by_cases hupper : 'A' ≤ c ∧ c ≤ 'Z'
  · have hlow : 65 ≤ c.toNat := hupper.1
    have hhigh : c.toNat ≤ 90 := hupper.2
    exact .inr ⟨c.toNat, List.mem_range'_1.2 ⟨hlow, by omega⟩, (Char.ofNat_toNat c).symm⟩
  · exact .inl (dif_neg hupper)

/-- So only itself is spelled in lower case as a character that is no letter, -/
theorem map_toLower_cons {c : Char} (hc : c ∈ ['.', '%', '2'])
    (h : s.map Char.toLower = c :: t) : ∃ s', s = c :: s' ∧ s'.map Char.toLower = t := by
  obtain ⟨d, s', rfl, hd, hs'⟩ := List.map_eq_cons_iff.1 h
  have hcapital : ∀ n ∈ List.range' 65 26, (Char.ofNat n).toLower ∉ ['.', '%', '2'] := by decide
  obtain hself | ⟨n, hn, rfl⟩ := toLower_cases d
  · exact ⟨s', by rw [← hd, hself], hs'⟩
  · have hnot := hcapital n hn
    rw [hd] at hnot
    exact absurd hc hnot

/-- and as an `e` only the two forms of it. -/
theorem map_toLower_cons_e (h : s.map Char.toLower = 'e' :: t) :
    ∃ s', (s = 'e' :: s' ∨ s = 'E' :: s') ∧ s'.map Char.toLower = t := by
  obtain ⟨d, s', rfl, hd, hs'⟩ := List.map_eq_cons_iff.1 h
  have hcapital : ∀ n ∈ List.range' 65 26,
      (Char.ofNat n).toLower = 'e' → Char.ofNat n = 'E' := by decide
  obtain hself | ⟨n, hn, rfl⟩ := toLower_cases d
  · exact ⟨s', .inl (by rw [← hd, hself]), hs'⟩
  · exact ⟨s', .inr (by rw [hcapital n hn hd]), hs'⟩

/-- The forms of a dot in a step, in lower case. -/
def dotForms : List (List Char) := [['.'], "%2e".toList]

/-- A dot in front reads as a dot, in either form. -/
theorem decodeBytes_dot {form : List Char} (hform : form ∈ dotForms)
    (h : s.map Char.toLower = form ++ t) :
    ∃ s', decodeBytes s = 46 :: decodeBytes s' ∧ s'.map Char.toLower = t := by
  simp only [dotForms, List.mem_cons, List.not_mem_nil, or_false] at hform
  obtain rfl | rfl := hform
  · obtain ⟨s', rfl, h'⟩ := map_toLower_cons (by decide) h
    exact ⟨s', decodeBytes_cons (by decide) s', h'⟩
  · obtain ⟨s₁, rfl, h₁⟩ := map_toLower_cons (by decide) h
    obtain ⟨s₂, rfl, h₂⟩ := map_toLower_cons (by decide) h₁
    obtain ⟨s', rfl | rfl, h'⟩ := map_toLower_cons_e h₂
    · exact ⟨s', rfl, h'⟩
    · exact ⟨s', rfl, h'⟩

/-- A step is one such form or two. -/
theorem dotForms_of_isStep (h : isStep s = true) :
    ∃ first ∈ dotForms, s.map Char.toLower = first ++ [] ∨
      ∃ second ∈ dotForms, s.map Char.toLower = first ++ (second ++ []) := by
  have hplain : ['.'] ∈ dotForms := List.mem_cons_self
  have hencoded : "%2e".toList ∈ dotForms := List.mem_cons_of_mem _ List.mem_cons_self
  simp only [isStep, isSingleDot, isDoubleDot, Bool.or_eq_true, decide_eq_true_eq] at h
  obtain (h | h) | ((h | h) | h) | h := h
  · exact ⟨_, hplain, .inl h⟩
  · exact ⟨_, hencoded, .inl h⟩
  · exact ⟨_, hplain, .inr ⟨_, hplain, h⟩⟩
  · exact ⟨_, hplain, .inr ⟨_, hencoded, h⟩⟩
  · exact ⟨_, hencoded, .inr ⟨_, hplain, h⟩⟩
  · exact ⟨_, hencoded, .inr ⟨_, hencoded, h⟩⟩

/-- **A step reads as one dot or two**, however it is spelled. -/
theorem decodeBytes_of_isStep (h : isStep s = true) :
    decodeBytes s = [46] ∨ decodeBytes s = [46, 46] := by
  have hnil : ∀ s : List Char, s.map Char.toLower = [] → decodeBytes s = [] := by
    intro s hs
    rw [List.map_eq_nil_iff.1 hs]
    rfl
  obtain ⟨first, hfirst, hone | ⟨second, hsecond, htwo⟩⟩ := dotForms_of_isStep h
  · obtain ⟨s', hs, h'⟩ := decodeBytes_dot hfirst hone
    exact .inl (by rw [hs, hnil s' h'])
  · obtain ⟨s₁, hs, h₁⟩ := decodeBytes_dot hfirst htwo
    obtain ⟨s', hs₁, h'⟩ := decodeBytes_dot hsecond h₁
    exact .inr (by rw [hs, hs₁, hnil s' h'])

/-- **An encoded text is a step only if the text is one or two dots.** -/
theorem encode_isStep (hpercent : reserved '%' = true) (h : isStep (encode reserved s) = true) :
    s = ['.'] ∨ s = ['.', '.'] := by
  have hself := textOf_encode hpercent s
  obtain hone | htwo := decodeBytes_of_isStep h
  · rw [hone] at hself
    exact .inl (Option.some.inj (hself.symm.trans (textOfBytes?_utf8 ['.'])))
  · rw [htwo] at hself
    exact .inr (Option.some.inj (hself.symm.trans (textOfBytes?_utf8 ['.', '.'])))

/-! ## Paths with steps -/

/-- The segments after one more that is not the last. -/
def takeStep (done : List (List Char)) (s : List Char) : List (List Char) :=
  if isDoubleDot s then up done
  else if isSingleDot s then done
  else done ++ [s]

/-- **Segments are taken one after the other**, as long as others follow. -/
theorem resolve_append (hrest : rest ≠ []) (done parts : List (List Char)) :
    resolve done (parts ++ rest) = resolve (parts.foldl takeStep done) rest := by
  induction parts generalizing done with
  | nil => rfl
  | cons s parts ih =>
    obtain ⟨next, more, hmore⟩ := List.exists_cons_of_ne_nil
      (List.append_ne_nil_of_right_ne_nil parts hrest)
    have hcons : resolve done (s :: (parts ++ rest)) =
        resolve (takeStep done s) (parts ++ rest) := by
      rw [hmore, resolve, takeStep]
      split
      · rfl
      · split <;> rfl
      · exact List.cons_ne_nil _ _
    rw [List.cons_append, hcons, ih, List.foldl_cons]

/-- The last segment leaves an empty one if it is a step. -/
theorem resolve_singleton (done : List (List Char)) (s : List Char) :
    resolve done [s] = takeStep done s ++ if isStep s then [[]] else [] := by
  rw [resolve, takeStep, isStep]
  by_cases hup : isDoubleDot s = true
  · simp [hup]
  · by_cases hsame : isSingleDot s = true <;> simp [hup, hsame]

/-- Segments that are no steps are all kept. -/
theorem resolve_plain (h : ∀ s ∈ parts, isStep s = false) (done : List (List Char)) :
    resolve done parts = done ++ parts := by
  induction parts generalizing done with
  | nil => exact (List.append_nil done).symm
  | cons s parts ih =>
    obtain ⟨hs, hparts⟩ := List.forall_mem_cons.1 h
    have hkept : takeStep done s = done ++ [s] := by
      obtain ⟨hsame, hup⟩ := Bool.or_eq_false_iff.1 hs
      rw [takeStep, hup, hsame]
      rfl
    by_cases hne : parts = []
    · rw [hne, resolve_singleton, hs, hkept]
      exact List.append_nil _
    · have hcons := resolve_append hne done [s]
      rw [List.singleton_append, List.foldl_cons, List.foldl_nil, hkept] at hcons
      rw [hcons, ih hparts, List.append_assoc, List.singleton_append]

/-! ## Paths that go on -/

/-- Is the character a slash of either kind? -/
def isSlash (c : Char) : Bool := c = '/' || c = '\\'

theorem knownSegments_cons (c : Char) (s : List Char) :
    knownSegments (c :: s) =
      (Text.splitAt isSlash (if isSlash c then s else c :: s)).map (encode inPath) := rfl

/-- Empty segments at the end are kept, though the last segment before them
may be a step. -/
theorem exists_resolve_empties (hparts : parts ≠ []) (n : Nat) :
    ∃ m, resolve [] (parts ++ List.replicate n []) =
      parts.foldl takeStep [] ++ List.replicate m [] := by
  cases n with
  | zero =>
    obtain rfl | ⟨front, last, rfl⟩ := List.eq_nil_or_concat' parts
    · exact absurd rfl hparts
    · refine ⟨if isStep last then 1 else 0, ?_⟩
      rw [List.replicate_zero, List.append_nil, resolve_append (List.cons_ne_nil _ _),
        resolve_singleton, List.foldl_append, List.foldl_cons, List.foldl_nil]
      split <;> rfl
  | succ n =>
    have hempties : List.replicate (n + 1) ([] : List Char) ≠ [] := List.cons_ne_nil _ _
    refine ⟨n + 1, ?_⟩
    rw [resolve_append hempties, resolve_plain]
    intro s hs
    rw [List.eq_of_mem_replicate hs]
    rfl

/-- **A path that goes on** keeps its segments, but for empty ones at the
end. -/
theorem exists_resolve_slash (s : List Char) :
    ∃ kept, (∀ n, ∃ m, resolve [] (knownSegments (s ++ List.replicate n '/')) =
        kept ++ List.replicate m []) ∧
      ∀ t, resolve [] (knownSegments (s ++ '/' :: t)) =
        resolve kept (knownSegments ('/' :: t)) := by
  have hmark : isSlash '/' = true := rfl
  have hparts : ∀ s, (Text.splitAt isSlash s).map (encode inPath) ≠ [] := fun s hnil =>
    Text.splitAt_ne_nil isSlash s (List.map_eq_nil_iff.1 hnil)
  have hempties : ∀ s n, (Text.splitAt isSlash (s ++ List.replicate n '/')).map (encode inPath) =
      (Text.splitAt isSlash s).map (encode inPath) ++ List.replicate n [] := by
    intro s n
    rw [Text.splitAt_append_marks hmark, List.map_append, List.map_replicate]
    rfl
  cases s with
  | nil =>
    refine ⟨[], fun n => ?_, fun t => rfl⟩
    cases n with
    | zero => exact ⟨1, rfl⟩
    | succ n =>
      obtain ⟨m, hm⟩ := exists_resolve_empties (hparts []) n
      rw [← hempties, List.nil_append] at hm
      exact ⟨m + 1, hm⟩
  | cons c s =>
    -- one slash at the front belongs to the first segment
    obtain ⟨first, hfirst⟩ : ∃ first, ∀ t, knownSegments (c :: (s ++ t)) =
        (Text.splitAt isSlash (first ++ t)).map (encode inPath) := by
      by_cases hc : isSlash c = true
      · exact ⟨s, fun t => by rw [knownSegments_cons, if_pos hc]⟩
      · exact ⟨c :: s, fun t => by rw [knownSegments_cons, if_neg hc, List.cons_append]⟩
    refine ⟨((Text.splitAt isSlash first).map (encode inPath)).foldl takeStep [], fun n => ?_,
      fun t => ?_⟩
    · obtain ⟨m, hm⟩ := exists_resolve_empties (hparts first) n
      rw [← hempties] at hm
      exact ⟨m, by rw [List.cons_append, hfirst, hm]⟩
    · rw [List.cons_append, hfirst, Text.splitAt_append_mark hmark, List.map_append,
        resolve_append (hparts t), knownSegments_cons, if_pos hmark]

/-! ## Added segments -/

theorem inAddedSegment_percent (scheme : String) : inAddedSegment scheme '%' = true := rfl

/-- A text that is one or two dots is not added. -/
theorem pushSegment_dots (h : s = ['.'] ∨ s = ['.', '.']) : pushSegment scheme parts s = parts := by
  rw [pushSegment, if_pos h]

/-- Any other is added without its breaks, and is a step only if it is one or
two dots then. -/
theorem pushSegment_eq (hscheme : scheme ≠ "file") (hparts : parts ≠ [[]])
    (hs : ¬ (s = ['.'] ∨ s = ['.', '.'])) :
    pushSegment scheme parts s =
      resolve parts [encode (inAddedSegment scheme) (s.filter fun c => !isDropped c)] := by
  rw [pushSegment, if_neg hs]
  simp only [if_neg hparts, if_neg hscheme]

/-- A text that is added as one segment: it is not one or two dots, and there
are no breaks in it. -/
structure IsSegment (s : List Char) : Prop where
  notDots : ¬ (s = ['.'] ∨ s = ['.', '.'])
  unbroken : ∀ c ∈ s, isDropped c = false

/-- **A text without breaks is added as one segment**, which reads as that text,
unless it is one or two dots. -/
theorem pushSegment_plain (hscheme : scheme ≠ "file") (hparts : parts ≠ [[]]) (hs : IsSegment s) :
    pushSegment scheme parts s = parts ++ [encode (inAddedSegment scheme) s] := by
  have hall : (s.filter fun c => !isDropped c) = s :=
    List.filter_eq_self.2 fun c hc => by rw [hs.unbroken c hc]; rfl
  have hstep : isStep (encode (inAddedSegment scheme) s) = false :=
    Bool.eq_false_iff.2 fun h => hs.notDots (encode_isStep (inAddedSegment_percent scheme) h)
  rw [pushSegment_eq hscheme hparts hs.notDots, hall]
  exact resolve_plain (by simpa using hstep) parts

/-- **No other text is**: what is added for it, if anything, reads as something
else. -/
theorem pushSegment_reads_iff (hscheme : scheme ≠ "file") (hparts : parts ≠ [[]]) :
    IsSegment s ↔ ∃ segment, pushSegment scheme parts s = parts ++ [segment] ∧
      textOfBytes? (decodeBytes segment) = some s := by
  have hreads := textOf_encode (inAddedSegment_percent scheme)
  constructor
  · intro hs
    exact ⟨_, pushSegment_plain hscheme hparts hs, hreads s⟩
  · rintro ⟨segment, hpush, hsegment⟩
    have hdots : ¬ (s = ['.'] ∨ s = ['.', '.']) := by
      intro h
      rw [pushSegment_dots h] at hpush
      have hlength := congrArg List.length hpush
      rw [List.length_append, List.length_singleton] at hlength
      omega
    refine ⟨hdots, fun c hc => ?_⟩
    rw [pushSegment_eq hscheme hparts hdots] at hpush
    cases hstep : isStep (encode (inAddedSegment scheme) (s.filter fun c => !isDropped c)) with
    | true =>
      -- what is left without the breaks is a step, which leaves an empty segment
      rw [resolve_singleton, hstep, if_pos rfl] at hpush
      obtain ⟨-, hnil⟩ := List.append_inj' hpush rfl
      obtain rfl := (List.cons.inj hnil).1
      obtain rfl := Option.some.inj hsegment
      cases hc
    | false =>
      rw [resolve_plain (by simpa using hstep)] at hpush
      obtain rfl := (List.cons.inj (List.append_cancel_left hpush)).1
      have hkept : s.filter (fun c => !isDropped c) = s :=
        Option.some.inj ((hreads _).symm.trans hsegment)
      simpa using List.filter_eq_self.1 hkept c hc

theorem length_le_up (parts : List (List Char)) : parts.length ≤ (up parts).length + 1 := by
  unfold up
  cases hlast : parts.getLast? with
  | none =>
    rw [List.getLast?_eq_none_iff.1 hlast]
    exact Nat.zero_le _
  | some last =>
    simp only
    split
    · exact Nat.le_succ _
    · rw [List.length_dropLast]
      omega

theorem length_le_takeStep (parts : List (List Char)) (s : List Char) :
    parts.length ≤ (takeStep parts s ++ if isStep s then [[]] else []).length := by
  rw [takeStep, isStep]
  cases hup : isDoubleDot s with
  | true => simpa using length_le_up parts
  | false => cases hsame : isSingleDot s <;> simp

/-- No more is taken off than is added. -/
theorem length_le_pushSegment (hscheme : scheme ≠ "file") (hparts : parts ≠ [[]]) :
    parts.length ≤ (pushSegment scheme parts s).length := by
  by_cases hs : s = ['.'] ∨ s = ['.', '.']
  · exact Nat.le_of_eq (congrArg List.length (pushSegment_dots hs).symm)
  · rw [pushSegment_eq hscheme hparts hs, resolve_singleton]
    exact length_le_takeStep parts _

end Url

end Amanuensis
