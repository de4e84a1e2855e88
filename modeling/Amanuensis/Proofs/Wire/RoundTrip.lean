import Amanuensis.Proofs.Generation.Orders
import Amanuensis.Proofs.Research.Creation
import Amanuensis.Tool.Output
/-!
# What is read is written so that it is read again

A type of the wire reads back what it writes if every value that has been read
is written as one that is read as the same (`ReadsBack`). The statuses of jobs,
citations, reports, the answers of tools and the orders for images and
documents all do (`wire_readsBack`), whichever of the forms that are read they
had come in: arrays and objects, with members left out, null or unknown.

What is written need not be what was read. A status is, and a citation keeps
every member that it says nothing of by itself.
-/


namespace Amanuensis

namespace Wire

variable {α : Type} {decode : Json → Decoded α} {encode : α → Json}

/-- What has been read is written so that it is read again, and once that has
been done the writing stays as it is. -/
structure ReadsBack (decode : Json → Decoded α) (encode : α → Json) : Prop where
  again : ∀ j a, decode j = .ok a → decode (encode a) = .ok a
  stable : ∀ j a b, decode j = .ok a → decode (encode a) = .ok b → encode b = encode a

theorem ReadsBack.of_again (h : ∀ j a, decode j = .ok a → decode (encode a) = .ok a) :
    ReadsBack decode encode := by
  refine ⟨h, fun j a b ha hb => ?_⟩
  have hab : a = b := Except.ok.inj ((h j a ha).symm.trans hb)
  rw [hab]

/-- Where everything is read as it is written nothing need have been read. -/
theorem ReadsBack.of_decode_encode (h : ∀ a, decode (encode a) = .ok a) :
    ReadsBack decode encode :=
  .of_again fun _ a _ => h a

end Wire

/-! ## Statuses -/

namespace Research

namespace Status

/-- A text that names a status is the text of that status, also where it is
none of the known ones. -/
theorem text_ofText (s : String) : (ofText s).text = s := by
  unfold ofText
  split
  · rename_i h
    exact h.symm
  · split
    · rename_i h
      exact h.symm
    · split
      · rename_i h
        exact h.symm
      · split
        · rename_i h
          exact h.symm
        · rfl

/-- **A status is written as it was read.** -/
theorem encode_of_decode {j : Json} {s : Status} (h : decode j = .ok s) : s.encode = j := by
  obtain ⟨t, rfl, rfl⟩ := decode_iff.1 h
  rw [encode, text_ofText]

end Status

end Research

/-! ## Answers of tools -/

namespace Tool

namespace Output

open Wire (Sole Reads valuesAt)

variable {members : List (String × Json)} {o : Output}

/-- A kind that has been found is the only one. -/
theorem tagOf_some {k : OutputKind} (h : valuesAt "type" members = []) :
    tagOf (some k) members = .ok k := by
  induction members with
  | nil => rfl
  | cons member members ih =>
    obtain ⟨key, value⟩ := member
    by_cases hkey : key = "type"
    · subst hkey
      rw [Wire.valuesAt_cons_self] at h
      cases h
    · rw [Wire.valuesAt_cons_of_ne hkey] at h
      rw [tagOf, if_neg hkey, ih h]

/-- The kind of the members is what the only one with the key `type` names. -/
theorem tagOf_of_sole {k : OutputKind} (h : Sole (Reads decodeTag) (valuesAt "type" members) k) :
    tagOf none members = .ok k := by
  induction members with
  | nil => cases h
  | cons member members ih =>
    obtain ⟨key, value⟩ := member
    by_cases hkey : key = "type"
    · subst hkey
      rw [Wire.valuesAt_cons_self] at h
      generalize hrest : valuesAt "type" members = rest at h
      cases h with
      | once hvalue => rw [tagOf, if_pos rfl, hvalue]; exact tagOf_some hrest
    · rw [Wire.valuesAt_cons_of_ne hkey] at h
      rw [tagOf, if_neg hkey, ih h]

/-- An object is the answer that its members are, for the kind that they
name. -/
theorem decode_obj {k : OutputKind} (hkind : Sole (Reads decodeTag) (valuesAt "type" members) k)
    (htakes : ∀ field ∈ fields k, Wire.Takes field (valuesAt field.key members)) :
    decode (.obj members) = ofMembers k members := by
  have hkeys : ((fields k).map Wire.Field.key).Nodup := by cases k <;> decide
  have hrecord : Wire.record "" (fields k) (.obj members) = .ok members :=
    (Wire.record_eq_ok hkeys "").2 ⟨.object members, htakes⟩
  simp only [decode, tagOf_of_sole hkind, hrecord]

/-- What an answer holds beside its kind. -/
def contents : Output → List (String × String)
  | .text content => [("content", content)]
  | .image url => [("url", url)]
  | .file url filename => [("url", url), ("filename", filename)]

/-- The members by which an answer is written. -/
abbrev written (o : Output) : List (String × Option Json) :=
  ("type", some o.kind.encode) :: o.contents.map fun m => (m.1, some (.str m.2))

theorem encode_eq (o : Output) : o.encode = .ofMembers o.written := by
  cases o <;> rfl

theorem nodup_written (o : Output) : (o.written.map Prod.fst).Nodup := by
  cases o with
  | text content => exact (by decide : ["type", "content"].Nodup)
  | image url => exact (by decide : ["type", "url"].Nodup)
  | file url filename => exact (by decide : ["type", "url", "filename"].Nodup)

/-- The fields of a kind are the contents of its answers. -/
theorem fields_kind (o : Output) :
    fields o.kind = o.contents.map fun m => .needed m.1 Wire.string := by
  cases o <;> rfl

theorem ofMembers_kind {o : Output}
    (h : ∀ m ∈ o.contents, Wire.field members m.1 Wire.string = .ok m.2) :
    ofMembers o.kind members = .ok o := by
  cases o with
  | text content =>
    have hcontent := h ("content", content) (by simp [contents])
    simp only [ofMembers, kind, hcontent]
    rfl
  | image url =>
    have hurl := h ("url", url) (by simp [contents])
    simp only [ofMembers, kind, hurl]
    rfl
  | file url filename =>
    have hurl := h ("url", url) (by simp [contents])
    have hfilename := h ("filename", filename) (by simp [contents])
    simp only [ofMembers, kind, hurl, hfilename]
    rfl

/-- **Every answer is read as it was written.** -/
theorem decode_encode (o : Output) : decode o.encode = .ok o := by
  have hvalues : ∀ {key : String} (value : Option Json), (key, value) ∈ o.written →
      valuesAt key (Json.collect [] (Json.present o.written)) = value.toList :=
    fun value hmem => Json.valuesAt_present o.nodup_written value hmem
  have hkind : Sole (Reads decodeTag)
      (valuesAt "type" (Json.collect [] (Json.present o.written))) o.kind := by
    have htag : decodeTag o.kind.encode = .ok o.kind := by cases o <;> rfl
    rw [hvalues _ List.mem_cons_self]
    exact .once htag
  have hcontents : ∀ m ∈ o.contents, Sole (Reads Wire.string)
      (valuesAt m.1 (Json.collect [] (Json.present o.written))) m.2 := by
    intro m hm
    rw [hvalues (some (.str m.2)) (List.mem_cons_of_mem _ (List.mem_map.2 ⟨m, hm, rfl⟩))]
    exact .once rfl
  -- once the kind is known, the contents are the fields of that kind
  rw [encode_eq, Json.ofMembers_eq, decode_obj hkind]
  · exact ofMembers_kind fun m hm => (hcontents m hm).takes.field_iff.2 (hcontents m hm)
  · rw [fields_kind, List.forall_mem_map]
    exact fun m hm => (hcontents m hm).takes

/-- The tag of what is written is the kind of the answer. -/
theorem tag_encode (o : Output) : o.encode.get? "type" = some o.kind.encode := by
  rw [encode_eq]
  exact Json.get?_ofMembers o.nodup_written List.mem_cons_self

end Output

end Tool

/-! ## All of them -/

namespace Wire

open Research (Citation Report Status)
open Generation (DocumentOrder ImageOrder)
open Tool (Output)

/-- **Everything that is both read and written is read back**, from whatever
value it was read. The text of a status comes back as it was, a citation keeps
every member beside its title and its address, and every answer of a tool,
read or not, is read back with its kind as the tag. -/
theorem wire_readsBack :
    ReadsBack Status.decode Status.encode ∧ ReadsBack Citation.decode Citation.encode ∧
    ReadsBack Report.decode Report.encode ∧ ReadsBack Output.decode Output.encode ∧
    ReadsBack ImageOrder.decode ImageOrder.encode ∧
    ReadsBack DocumentOrder.decode DocumentOrder.encode ∧
    (∀ j s, Status.decode j = .ok s → s.encode = j) ∧
    (∀ j c key, Citation.decode j = .ok c → key ≠ "title" → key ≠ "url" →
      c.encode.get? key = j.normal.get? key) ∧
    ∀ o : Output, Output.decode o.encode = .ok o ∧
      o.encode.get? "type" = some (.str o.kind.tag) := by
  refine ⟨.of_again fun j s h => ?_, .of_again fun j c h => ?_, .of_again fun j r h => ?_,
    .of_decode_encode Output.decode_encode, .of_decode_encode ImageOrder.decode_encode,
    .of_decode_encode DocumentOrder.decode_encode, fun j s => Status.encode_of_decode,
    fun j c key h htitle hurl => ?_, fun o => ⟨o.decode_encode, o.tag_encode⟩⟩
  · rwa [Status.encode_of_decode h]
  · exact (Citation.sound_of_decode h).decode_encode
  · exact Report.decode_encode h
  · exact Citation.get?_encode h (not_or.2 ⟨htitle, hurl⟩)

/-- A source with a note and without a title: the members of the note come back
in their order, and a status that is not known comes back as it is. -/
theorem note_kept :
    (∃ c, Citation.decode (.obj [("note", .obj [("b", .nat 1), ("a", .nat 2)]),
        ("title", .null)]) = .ok c ∧ Citation.decode c.encode = .ok c ∧
      c.encode.get? "note" = some (.obj [("a", .nat 2), ("b", .nat 1)])) ∧
    ∃ s, Status.decode (.str "queued") = .ok s ∧ s.encode = .str "queued" := by
  obtain ⟨-, hcitation, -, -, -, -, hstatus, hkept, -⟩ := wire_readsBack
  obtain ⟨c, hc⟩ : ∃ c, Citation.decode (.obj [("note", .obj [("b", .nat 1), ("a", .nat 2)]),
      ("title", .null)]) = .ok c := ⟨_, rfl⟩
  refine ⟨⟨c, hc, hcitation.again _ _ hc, ?_⟩, _, rfl, hstatus _ _ rfl⟩
  exact (hkept _ _ "note" hc (by decide) (by decide)).trans (by decide)

end Wire

end Amanuensis
