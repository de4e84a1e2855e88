import Amanuensis.Proofs.Json.Members
import Amanuensis.Proofs.Wire.Values
import Amanuensis.Research.Report
/-!
# What a report says

The values that are a report, and the report that each of them is
(`Report.decode_iff`). A report is given as an object or as the array of its
text, its citations and its reasoning, and only the text must be there. Each
citation is an object again, of which every member counts: title and address
for themselves, and the others as what else is said (`Citation.decode_iff`).
-/


namespace Amanuensis

namespace Research

open Json (Ascending collect lookup_collect ascending_collect)
open Wire (Given ListOf Provides Reads Sole TextOrNull valuesAt)

/-! ## Citations -/

namespace Citation

variable {members : List (String × Json)} {key : String} {c : Citation}

/-- A value cites a source. What else it says is found under its key, in the
normal form of the last member with that key. -/
structure Cites (members : List (String × Json)) (c : Citation) : Prop where
  title : Given (TextOrNull id) none (valuesAt "title" members) c.title
  url : Given (TextOrNull id) none (valuesAt "url" members) c.url
  ascending : Ascending c.extra
  extra : ∀ key, Json.lookup key c.extra =
    if key = "title" ∨ key = "url" then none
    else (valuesAt key members).getLast?.map Json.normal

/-- The keys of what a citation says for itself. -/
abbrev IsNamed (key : String) : Prop := key = "title" ∨ key = "url"

theorem extraMembers_eq (members : List (String × Json)) :
    extraMembers members =
      collect [] ((members.filter fun m => ¬ IsNamed m.1).map fun m => (m.1, m.2.normal)) := by
  have hfold : ∀ done, members.foldl (fun done m =>
      if IsNamed m.1 then done else Json.insertMember m.1 m.2.normal done) done =
        collect done ((members.filter fun m => ¬ IsNamed m.1).map fun m => (m.1, m.2.normal)) := by
    induction members with
    | nil => exact fun _ => rfl
    | cons first members ih =>
      intro done
      rw [List.foldl_cons, ih]
      by_cases hfirst : IsNamed first.1
      · rw [if_pos hfirst, List.filter_cons_of_neg (by simpa only [decide_eq_true_eq, not_not])]
      · rw [if_neg hfirst, List.filter_cons_of_pos (by simpa only [decide_eq_true_eq])]
        rfl
  exact hfold []

theorem ascending_extraMembers (members : List (String × Json)) :
    Ascending (extraMembers members) := by
  rw [extraMembers_eq]
  exact ascending_collect .nil _

/-- What else a citation says, key by key. -/
theorem lookup_extraMembers (key : String) (members : List (String × Json)) :
    Json.lookup key (extraMembers members) =
      if IsNamed key then none else (valuesAt key members).getLast?.map Json.normal := by
  rw [extraMembers_eq, lookup_collect, Wire.valuesAt_map,
    Wire.valuesAt_filter fun key => ¬ IsNamed key, List.getLast?_map]
  by_cases hkey : IsNamed key
  · rw [if_neg (not_not.2 hkey), if_pos hkey]
    rfl
  · rw [if_pos hkey, if_neg hkey]
    exact Option.or_none

/-- What a citation says for itself. -/
abbrev namedFields : List Wire.Field :=
  [.optional "title" (Wire.nullable Wire.string), .optional "url" (Wire.nullable Wire.string)]

/-- **The citations that there are.** -/
theorem decode_iff {j : Json} :
    decode j = .ok c ↔ ∃ members, j = .obj members ∧ Cites members c := by
  cases j with
  | obj members =>
    have hkeys : (namedFields.map Wire.Field.key).Nodup := by decide
    have hchecked : Wire.checkMembers namedFields [] members = .ok () ↔
        ∀ field ∈ namedFields, Wire.Takes field (valuesAt field.key members) := by
      rw [Wire.takes_members_iff hkeys]
      exact ⟨fun h => ⟨h, rfl⟩, fun h => h.1⟩
    have hdecode : decode (.obj members) = .ok c ↔
        Wire.checkMembers namedFields [] members = .ok () ∧
          (do
            let title ← Wire.fieldOr members "title" (Wire.nullable Wire.string) none
            let url ← Wire.fieldOr members "url" (Wire.nullable Wire.string) none
            return ⟨title, url, extraMembers members⟩ : Wire.Decoded Citation) = .ok c := by
      rw [decode]
      cases Wire.checkMembers namedFields [] members with
      | error e => exact iff_of_false (by rintro ⟨⟩) (by rintro ⟨⟨⟩, _⟩)
      | ok u => exact (and_iff_right rfl).symm
    -- what a citation says for itself is read as of a record, the rest from all members
    rw [hdecode, hchecked]
    simp only [namedFields, Wire.optional_then, Wire.nothing_then]
    rw [Wire.reads_nullable_string]
    constructor
    · rintro ⟨title, htitle, url, hurl, rfl⟩
      exact ⟨members, rfl, htitle, hurl, ascending_extraMembers members,
        fun key => lookup_extraMembers key members⟩
    · rintro ⟨_, ⟨⟩, htitle, hurl, hasc, hextra⟩
      have hrest : extraMembers members = c.extra :=
        (ascending_extraMembers members).ext hasc fun key => by
          rw [lookup_extraMembers, hextra]
      exact ⟨_, htitle, _, hurl, by rw [hrest]⟩
  | null | bool | num | str | arr => exact iff_of_false (by rintro ⟨⟩) (by rintro ⟨_, ⟨⟩, _⟩)

/-! ### Citations that have been read -/

/-- What holds of a citation that has been read. -/
structure Sound (c : Citation) : Prop where
  ascending : Ascending c.extra
  unnamed : ∀ m ∈ c.extra, ¬ IsNamed m.1
  normal : ∀ m ∈ c.extra, m.2.normal = m.2

theorem Cites.sound (h : Cites members c) : Sound c := by
  -- a member of what else is said was found under its key, so it came from a value
  have hfound : ∀ m ∈ c.extra, ¬ IsNamed m.1 ∧
      ((valuesAt m.1 members).getLast?.map Json.normal) = some m.2 := by
    intro m hm
    have hlookup : Json.lookup m.1 c.extra = some m.2 := Json.lookup_of_mem h.ascending.nodup hm
    rw [h.extra] at hlookup
    split at hlookup
    · cases hlookup
    · rename_i hkey
      exact ⟨hkey, hlookup⟩
  refine ⟨h.ascending, fun m hm => (hfound m hm).1, fun m hm => ?_⟩
  obtain ⟨value, -, hvalue⟩ := Option.map_eq_some_iff.1 (hfound m hm).2
  rw [← hvalue, Json.normal_normal]

/-- The members by which a citation is written. -/
abbrev written (c : Citation) : List (String × Option Json) :=
  [("title", c.title.map .str), ("url", c.url.map .str)] ++ c.extra.map fun m => (m.1, some m.2)

theorem encode_eq (c : Citation) : c.encode = .obj (collect [] (Json.present c.written)) :=
  Json.ofMembers_eq _

/-- A citation that has been read is written under keys that are all
different. -/
theorem Sound.nodup_written (h : Sound c) : (c.written.map Prod.fst).Nodup := by
  have hextra : (c.extra.map fun m => (m.1, some m.2)).map Prod.fst = c.extra.map Prod.fst := by
    rw [List.map_map]
    rfl
  have hfresh : ∀ key, IsNamed key → key ∉ c.extra.map Prod.fst := by
    intro key hkey hmem
    obtain ⟨m, hm, rfl⟩ := List.mem_map.1 hmem
    exact h.unnamed m hm hkey
  rw [List.map_append, hextra]
  have hnamed : ["title", "url"].Nodup := by decide
  refine List.nodup_append.2 ⟨hnamed, h.ascending.nodup, ?_⟩
  rintro key hkey _ hmem rfl
  refine hfresh key ?_ hmem
  simpa using hkey

/-- What else it says is written as it is. -/
theorem Sound.valuesAt_written (h : Sound c) (hkey : ¬ IsNamed key) :
    valuesAt key (collect [] (Json.present c.written)) = (Json.lookup key c.extra).toList := by
  cases hlookup : Json.lookup key c.extra with
  | some value =>
    have hmem : (key, some value) ∈ c.written :=
      List.mem_append_right _ (List.mem_map.2 ⟨_, Json.mem_of_lookup hlookup, rfl⟩)
    exact Json.valuesAt_present h.nodup_written _ hmem
  | none =>
    refine Json.valuesAt_present_of_not_mem fun hmem => ?_
    rw [List.map_append, List.mem_append] at hmem
    rcases hmem with hnamed | hextra
    · exact hkey (by simpa using hnamed)
    · rw [List.map_map] at hextra
      obtain ⟨m, hm, rfl⟩ := List.mem_map.1 hextra
      exact Option.some_ne_none _
        ((Json.lookup_of_mem h.ascending.nodup hm).symm.trans hlookup)

/-- **A citation that has been read is read again** as it was written. -/
theorem Sound.cites (h : Sound c) : Cites (collect [] (Json.present c.written)) c where
  title := by
    rw [Json.valuesAt_present h.nodup_written (c.title.map .str)
      (List.mem_append_left _ List.mem_cons_self)]
    exact Wire.given_text c.title
  url := by
    rw [Json.valuesAt_present h.nodup_written (c.url.map .str)
      (List.mem_append_left _ (List.mem_cons_of_mem _ List.mem_cons_self))]
    exact Wire.given_text c.url
  ascending := h.ascending
  extra key := by
    split
    · rename_i hkey
      exact Json.lookup_eq_none fun m hm heq => h.unnamed m hm (heq ▸ hkey)
    · rename_i hkey
      rw [h.valuesAt_written hkey]
      cases hlookup : Json.lookup key c.extra with
      | none => rfl
      | some value => exact congrArg some (h.normal _ (Json.mem_of_lookup hlookup)).symm

theorem Sound.decode_encode (h : Sound c) : decode c.encode = .ok c :=
  decode_iff.2 ⟨_, c.encode_eq, h.cites⟩

theorem sound_of_decode {j : Json} (h : decode j = .ok c) : Sound c := by
  obtain ⟨members, -, hcites⟩ := decode_iff.1 h
  exact hcites.sound

/-- **What else a citation says is kept**, member by member. -/
theorem get?_encode {j : Json} (h : decode j = .ok c) (hkey : ¬ IsNamed key) :
    c.encode.get? key = j.normal.get? key := by
  obtain ⟨members, rfl, hcites⟩ := decode_iff.1 h
  rw [Json.get?_normal, encode_eq, Json.get?, Wire.lookup_eq_head?,
    hcites.sound.valuesAt_written hkey, hcites.extra, if_neg hkey]
  exact Option.head?_toList

end Citation

/-! ## Reports -/

namespace Report

variable {r : Report}

/-- A value is a report: it has a text, and may have citations and reasoning. -/
structure Holds (members : List (String × Json)) (r : Report) : Prop where
  text : Sole (fun j s => j = .str s) (valuesAt "text" members) r.text
  citations : Given (ListOf fun j c => ∃ said, j = .obj said ∧ Citation.Cites said c) []
    (valuesAt "citations" members) r.citations
  reasoning : Given (ListOf fun j step => j.normal = step) []
    (valuesAt "reasoningSteps" members) r.reasoning

/-- **The reports that there are**, as objects and as arrays. -/
theorem decode_iff {j : Json} :
    decode j = .ok r ↔
      ∃ members, Provides ["text", "citations", "reasoningSteps"] j members ∧ Holds members r := by
  have hkeys : (fields.map Wire.Field.key).Nodup := by decide
  have hcitations : Reads (Wire.list Citation.decode) =
      ListOf fun j c => ∃ said, j = .obj said ∧ Citation.Cites said c := by
    rw [Wire.reads_list, Wire.reads_eq fun _ _ => Citation.decode_iff]
  have hreasoning : Reads (Wire.list Wire.value) = ListOf fun j step => j.normal = step := by
    rw [Wire.reads_list, Wire.reads_eq fun j step => by rw [Wire.value, Except.ok.injEq]]
  rw [decode, Wire.record_then hkeys]
  simp only [fields, Wire.needed_then, Wire.optional_then, Wire.nothing_then]
  rw [Wire.reads_string, hcitations, hreasoning]
  constructor
  · rintro ⟨members, hmembers, text, htext, citations, hcited, reasoning, hsteps, rfl⟩
    exact ⟨members, hmembers, htext, hcited, hsteps⟩
  · rintro ⟨members, hmembers, htext, hcited, hsteps⟩
    exact ⟨members, hmembers, _, htext, _, hcited, _, hsteps, rfl⟩

/-! ### Reports that have been read -/

/-- What holds of a report that has been read. -/
structure Sound (r : Report) : Prop where
  citations : ∀ c ∈ r.citations, c.Sound
  normal : ∀ step ∈ r.reasoning, step.normal = step

theorem Holds.sound {members : List (String × Json)} (h : Holds members r) : Sound r := by
  constructor
  · intro c hc
    obtain ⟨_, _, -, hcites⟩ := Wire.exists_of_mem h.citations hc
    exact hcites.sound
  · intro step hstep
    obtain ⟨j, rfl⟩ := Wire.exists_of_mem h.reasoning hstep
    exact Json.normal_normal j

/-- The members by which a report is written. -/
abbrev written (r : Report) : List (String × Option Json) :=
  [("text", some (.str r.text)), ("citations", some (.arr (r.citations.map Citation.encode))),
    ("reasoningSteps", some (.arr r.reasoning))]

/-- **A report that has been read is read again** as it was written. -/
theorem Sound.holds (h : Sound r) : Holds (collect [] (Json.present r.written)) r := by
  have hkeys : (r.written.map Prod.fst).Nodup :=
    (by decide : ["text", "citations", "reasoningSteps"].Nodup)
  have hvalues : ∀ key value, (key, value) ∈ r.written →
      valuesAt key (collect [] (Json.present r.written)) = value.toList :=
    fun _ => Json.valuesAt_present hkeys
  refine ⟨?_, ?_, ?_⟩
  · rw [hvalues "text" (some (.str r.text)) (by simp)]
    exact .once rfl
  · rw [hvalues "citations" (some (.arr (r.citations.map Citation.encode))) (by simp)]
    exact .once (Wire.listOf_map fun c hc => ⟨_, c.encode_eq, (h.citations c hc).cites⟩)
  · rw [hvalues "reasoningSteps" (some (.arr r.reasoning)) (by simp)]
    exact .once (.items (List.forall₂_same.2 h.normal))

theorem decode_encode {j : Json} (h : decode j = .ok r) : decode r.encode = .ok r := by
  obtain ⟨members, -, hholds⟩ := decode_iff.1 h
  have hwritten : r.encode = .obj (collect [] (Json.present r.written)) := Json.ofMembers_eq _
  rw [hwritten]
  exact decode_iff.2 ⟨_, .object _, hholds.sound.holds⟩

end Report

end Research

end Amanuensis
