import Amanuensis.Generation.Order
import Amanuensis.Proofs.Json.Members
import Amanuensis.Proofs.Wire.Values
/-!
# What is ordered

The values that are an order for an image or for a document, and the order
that each of them is. Both are records of a text that must be there and of
others that may be left out; a document without a format is a `docx`. The body
of the request is such a value again: what is sent is what was read.
-/


namespace Amanuensis

namespace Generation

open Wire (Given Provides Reads Sole TextOrNull valuesAt)

variable {members : List (String × Json)} {j : Json}

/-! ## Images -/

namespace ImageOrder

variable {o : ImageOrder}

/-- Members that order an image. -/
structure Holds (members : List (String × Json)) (o : ImageOrder) : Prop where
  prompt : Sole (fun j s => j = .str s) (valuesAt "prompt" members) o.prompt
  size : Given (TextOrNull id) none (valuesAt "size" members) o.size

theorem decode_iff :
    decode j = .ok o ↔ ∃ members, Provides ["prompt", "size"] j members ∧ Holds members o := by
  have hkeys : (fields.map Wire.Field.key).Nodup := by decide
  rw [decode, Wire.record_then hkeys]
  simp only [fields, Wire.needed_then, Wire.optional_then, Wire.nothing_then]
  rw [Wire.reads_string, Wire.reads_nullable_string]
  constructor
  · rintro ⟨members, hmembers, prompt, hprompt, size, hsize, rfl⟩
    exact ⟨members, hmembers, hprompt, hsize⟩
  · rintro ⟨members, hmembers, hprompt, hsize⟩
    exact ⟨members, hmembers, _, hprompt, _, hsize, rfl⟩

/-- **What is sent is what was read.** -/
theorem decode_encode (o : ImageOrder) : decode o.encode = .ok o := by
  have hkeys : (([("prompt", some (.str o.prompt)), ("size", o.size.map .str)] :
      List (String × Option Json)).map Prod.fst).Nodup := (by decide : ["prompt", "size"].Nodup)
  rw [encode, Json.ofMembers_eq]
  refine decode_iff.2 ⟨_, .object _, ?_, ?_⟩
  · rw [Json.valuesAt_present hkeys (some (.str o.prompt)) (by simp)]
    exact .once rfl
  · rw [Json.valuesAt_present hkeys (o.size.map .str) (by simp)]
    exact Wire.given_text o.size

end ImageOrder

/-! ## Documents -/

theorem Format.decode_encode (f : Format) : Format.decode f.encode = .ok f := by
  cases f <;> rfl

namespace DocumentOrder

variable {o : DocumentOrder}

/-- Members that order a document. -/
structure Holds (members : List (String × Json)) (o : DocumentOrder) : Prop where
  content : Sole (fun j s => j = .str s) (valuesAt "content" members) o.content
  format : Given (Reads Format.decode) .docx (valuesAt "format" members) o.format
  title : Given (TextOrNull id) none (valuesAt "title" members) o.title

theorem decode_iff :
    decode j = .ok o ↔
      ∃ members, Provides ["content", "format", "title"] j members ∧ Holds members o := by
  have hkeys : (fields.map Wire.Field.key).Nodup := by decide
  rw [decode, Wire.record_then hkeys]
  simp only [fields, Wire.needed_then, Wire.optional_then, Wire.nothing_then]
  rw [Wire.reads_string, Wire.reads_nullable_string]
  constructor
  · rintro ⟨members, hmembers, content, hcontent, format, hformat, title, htitle, rfl⟩
    exact ⟨members, hmembers, hcontent, hformat, htitle⟩
  · rintro ⟨members, hmembers, hcontent, hformat, htitle⟩
    exact ⟨members, hmembers, _, hcontent, _, hformat, _, htitle, rfl⟩

/-- **What is sent is what was read.** -/
theorem decode_encode (o : DocumentOrder) : decode o.encode = .ok o := by
  have hkeys : (([("content", some (.str o.content)), ("format", some o.format.encode),
      ("title", o.title.map .str)] : List (String × Option Json)).map Prod.fst).Nodup :=
    (by decide : ["content", "format", "title"].Nodup)
  rw [encode, Json.ofMembers_eq]
  refine decode_iff.2 ⟨_, .object _, ?_, ?_, ?_⟩
  · rw [Json.valuesAt_present hkeys (some (.str o.content)) (by simp)]
    exact .once rfl
  · rw [Json.valuesAt_present hkeys (some o.format.encode) (by simp)]
    exact .once o.format.decode_encode
  · rw [Json.valuesAt_present hkeys (o.title.map .str) (by simp)]
    exact Wire.given_text o.title

end DocumentOrder

end Generation

end Amanuensis
