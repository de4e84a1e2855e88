import Amanuensis.Generation.Document
import Amanuensis.Proofs.Text.Letter
import Amanuensis.Proofs.Text.Words
/-!
# Names of files

The name of a document's file where the service leaves it open. Its stem is
made of the words of the title (`stem_toList`), so that a stem which is taken
as a title is its own stem. `defaultFilename_canonical` says so of every title,
and that nothing in a stem can be taken for anything but a part of a name. The
same stem comes out where every other character is made a hyphen and the text
is cut at the hyphens (`stem_eq_pieces`).
-/


namespace Amanuensis

namespace Generation

open Text (Parted isAlphanumeric isBlank lowerAscii pieces runs)

variable {c : Char} {w : List Char}

/-! ## Characters -/

/-- Is the character a control character? -/
def isControl (c : Char) : Bool := c.toNat < 0x20 || (0x7F ≤ c.toNat && c.toNat ≤ 0x9F)

theorem isAlphanumeric_of_isControl (h : isControl c = true) : isAlphanumeric c = false := by
  have hcontrols : ∀ n ∈ List.range 0x20 ++ List.range' 0x7F 0x21,
      isAlphanumeric (Char.ofNat n) = false := by
    decide +kernel
  have hmem : c.toNat ∈ List.range 0x20 ++ List.range' 0x7F 0x21 := by
    simp only [isControl, Bool.or_eq_true, Bool.and_eq_true, decide_eq_true_eq] at h
    rw [List.mem_append, List.mem_range, List.mem_range'_1]
    omega
  simpa using hcontrols _ hmem

/-- The small form of a letter is a letter, and has no other small form. -/
theorem lowerAscii_kept (h : isAlphanumeric c = true) :
    isAlphanumeric (lowerAscii c) = true ∧ lowerAscii (lowerAscii c) = lowerAscii c := by
  by_cases hcapital : 'A' ≤ c ∧ c ≤ 'Z'
  · have hletters : ∀ n ∈ List.range' 65 26, isAlphanumeric (Char.ofNat (n + 32)) = true ∧
        lowerAscii (Char.ofNat (n + 32)) = Char.ofNat (n + 32) := by
      decide +kernel
    obtain ⟨hmem, hlower⟩ := Text.lowerAscii_of_capital hcapital
    rw [hlower]
    exact hletters _ hmem
  · have hself : lowerAscii c = c := if_neg hcapital
    rw [hself]
    exact ⟨h, hself⟩

/-! ## Stems -/

/-- The words that a stem is made of. -/
def stemWords (title : String) : List (List Char) :=
  match runs isAlphanumeric title.toList with
  | [] => ["document".toList]
  | words => words.map (List.map lowerAscii)

theorem stem_toList (title : String) :
    (stem title).toList = ['-'].intercalate (stemWords title) := by
  cases hwords : runs isAlphanumeric title.toList with
  | nil =>
    rw [stem, stemWords, hwords]
    rfl
  | cons w words =>
    have hlower : String.toList ∘ (fun w : List Char => String.ofList (w.map lowerAscii)) =
        List.map lowerAscii := by
      funext w
      exact String.toList_ofList
    simp only [stem, stemWords, hwords]
    rw [String.toList_intercalate, List.map_map, hlower]
    rfl

theorem stemWords_ne_nil (title : String) : stemWords title ≠ [] := by
  unfold stemWords
  split
  · exact List.cons_ne_nil _ _
  · rename_i hwords
    simpa using hwords

/-- A word of a stem is as long as it says, alphanumeric and in small
letters. -/
theorem mem_stemWords {title : String} (hw : w ∈ stemWords title) :
    w ≠ [] ∧ ∀ c ∈ w, isAlphanumeric c = true ∧ lowerAscii c = c := by
  unfold stemWords at hw
  split at hw
  · have hletters : "document".toList.Forall fun c =>
        isAlphanumeric c = true ∧ lowerAscii c = c := by
      decide +kernel
    rw [List.mem_singleton] at hw
    subst hw
    exact ⟨by decide, List.forall_iff_forall_mem.1 hletters⟩
  · obtain ⟨v, hv, rfl⟩ := List.mem_map.1 hw
    obtain ⟨hne, hv⟩ := Text.mem_runs hv
    refine ⟨by simpa using hne, fun c hc => ?_⟩
    obtain ⟨d, hd, rfl⟩ := List.mem_map.1 hc
    exact lowerAscii_kept (hv d hd)

/-- **A stem keeps its words** when it is taken as a title. -/
theorem stem_stem (title : String) : stem (stem title) = stem title := by
  have hruns : runs isAlphanumeric (stem title).toList = stemWords title := by
    rw [stem_toList]
    exact Text.runs_joined (by decide +kernel) fun w hw =>
      ⟨(mem_stemWords hw).1, fun c hc => ((mem_stemWords hw).2 c hc).1⟩
  have hlower : (stemWords title).map (List.map lowerAscii) = stemWords title := by
    conv_rhs => rw [← List.map_id (stemWords title)]
    refine List.map_congr_left fun w hw => ?_
    conv_rhs => rw [id, ← List.map_id w]
    exact List.map_congr_left fun c hc => ((mem_stemWords hw).2 c hc).2
  have hwords : stemWords (stem title) = stemWords title := by
    rw [stemWords, hruns]
    split
    · rename_i hnil
      exact absurd hnil (stemWords_ne_nil title)
    · exact hlower
  rw [← String.toList_inj, stem_toList, stem_toList, hwords]

/-- The character in small letters, or a hyphen in its place. -/
def hyphened (c : Char) : Char := if isAlphanumeric c then lowerAscii c else '-'

/-- Hyphens of the title and those put in stand in the same gaps. -/
theorem hyphened_ne (c : Char) : decide (hyphened c ≠ '-') = isAlphanumeric c := by
  unfold hyphened
  cases hc : isAlphanumeric c with
  | false => rfl
  | true =>
    have hne : lowerAscii c ≠ '-' := fun hmark =>
      absurd (hmark ▸ (lowerAscii_kept hc).1) (by decide +kernel)
    simpa using hne

/-- The stem of a title is that of the title with a hyphen in place of every
other character, cut at the hyphens. -/
theorem stem_eq_pieces (title : String) :
    stem title =
      let words := pieces (fun c => decide (c ≠ '-')) (title.toList.map hyphened)
      if words = [] then "document" else "-".intercalate (words.map String.ofList) := by
  have hwords : pieces (fun c => decide (c ≠ '-')) (title.toList.map hyphened) =
      (runs isAlphanumeric title.toList).map (List.map lowerAscii) := by
    rw [Text.pieces_eq_runs, Text.runs_map fun c _ => hyphened_ne c]
    exact List.map_congr_left fun w hw => List.map_congr_left fun c hc =>
      if_pos ((Text.mem_runs hw).2 c hc)
  simp only [hwords]
  unfold stem
  split
  · rename_i hnil
    rw [hnil]
    rfl
  · rename_i hne
    have hmap : (runs isAlphanumeric title.toList).map (List.map lowerAscii) ≠ [] := by
      simpa using hne
    rw [if_neg hmap, List.map_map]
    rfl

/-! ## Safety -/

/-- A stem that is a name and nothing else: hyphens stand one by one between
its words, and no character of it means anything in a path. -/
structure SafeStem (s : String) : Prop where
  ne_empty : s ≠ ""
  opens : s.toList.head? ≠ some '-'
  closes : s.toList.getLast? ≠ some '-'
  single : ¬ ['-', '-'] <:+: s.toList
  plain : ∀ c ∈ s.toList,
    c ≠ '/' ∧ c ≠ '\\' ∧ c ≠ '.' ∧ isBlank c = false ∧ isControl c = false

theorem plain_of_isAlphanumeric (h : isAlphanumeric c = true) :
    c ≠ '/' ∧ c ≠ '\\' ∧ c ≠ '.' ∧ isBlank c = false ∧ isControl c = false := by
  have hne : ∀ d, isAlphanumeric d = false → c ≠ d := by
    rintro d hd rfl
    rw [h] at hd
    exact Bool.noConfusion hd
  refine ⟨hne _ (by decide +kernel), hne _ (by decide +kernel), hne _ (by decide +kernel), ?_, ?_⟩
  · by_contra hblank
    exact hne c (Text.isBlank_apart (Bool.not_eq_false _ ▸ hblank)).1 rfl
  · by_contra hcontrol
    exact hne c (isAlphanumeric_of_isControl (Bool.not_eq_false _ ▸ hcontrol)) rfl

theorem safeStem_stem (title : String) : SafeStem (stem title) := by
  have hwords : ∀ w ∈ stemWords title, w ≠ [] ∧ '-' ∉ w := fun w hw =>
    ⟨(mem_stemWords hw).1, fun hmark =>
      absurd ((mem_stemWords hw).2 _ hmark).1 (by decide +kernel)⟩
  have hplain : ∀ c ∈ (stem title).toList,
      c ≠ '/' ∧ c ≠ '\\' ∧ c ≠ '.' ∧ isBlank c = false ∧ isControl c = false := by
    intro c hc
    rw [stem_toList] at hc
    obtain rfl | ⟨w, hw, hcw⟩ := Text.mem_joined hc
    · decide +kernel
    · exact plain_of_isAlphanumeric ((mem_stemWords hw).2 c hcw).1
  have hne : stem title ≠ "" := by
    intro hempty
    have hnil : ['-'].intercalate (stemWords title) = [] := by
      rw [← stem_toList, hempty]
      rfl
    obtain ⟨w, words, hcons⟩ := List.exists_cons_of_ne_nil (stemWords_ne_nil title)
    rw [hcons, Text.joined_cons, List.append_eq_nil_iff] at hnil
    exact (hwords w (hcons ▸ List.mem_cons_self)).1 hnil.1
  refine ⟨hne, ?_, ?_, ?_, hplain⟩ <;> rw [stem_toList]
  · exact Text.joined_opens hwords
  · exact Text.joined_closes hwords
  · exact Text.joined_single hwords

/-- **The name of a file.** Its stem is made of the maximal alphanumeric runs
of the title in small letters, or is `document` where there are none. It is
safe, and as a title it gives the same name. -/
theorem defaultFilename_canonical (title : Option String) (format : Format) :
    ∃ words s, Parted isAlphanumeric (title.getD "").toList words ∧
      (words = [] → s = "document") ∧
      (words ≠ [] →
        s = "-".intercalate (words.map fun w => String.ofList (w.map lowerAscii))) ∧
      defaultFilename title format = s ++ "." ++ format.extension ∧ SafeStem s ∧
      defaultFilename (some s) format = defaultFilename title format := by
  have hname : defaultFilename title format =
      stem (title.getD "") ++ "." ++ format.extension := by
    cases title with
    | some title => rfl
    | none =>
      have hstem : stem "document" = stem "" := stem_stem ""
      rw [defaultFilename, Option.getD_none, hstem, Option.getD_none]
  refine ⟨runs isAlphanumeric (title.getD "").toList, stem (title.getD ""),
    Text.parted_runs _ _, fun hnil => ?_, fun hne => ?_, hname, safeStem_stem _, ?_⟩
  · rw [stem, hnil]
  · unfold stem
    split
    · contradiction
    · rfl
  · rw [hname, defaultFilename, Option.getD_some, stem_stem]

end Generation

end Amanuensis
