import Amanuensis.Proofs.Invocation.Lifecycle
import Amanuensis.Proofs.Json.Writing
import Amanuensis.Proofs.Text.Bytes
/-!
# Previews

The record of a call shows the parameters in short. A preview shows a text as
it should (`shown`) unless the text has few characters that take many bytes:
then it is shown whole, and yet marked as cut off (`preview_marked`). That is
because a text is measured in bytes and cut in characters.
-/


namespace Amanuensis

namespace Invocation

open Tool (Output)

/-- How a text should be shown in short: whole if it has at most 200
characters, else its first 200 and an ellipsis. -/
def shown (text : String) : String :=
  if text.length ≤ 200 then text else String.ofList (text.toList.take 200) ++ "..."

/-- A text is marked as cut off. -/
def Marked (text : String) : Prop := "...".toList <:+ text.toList

/-! ## Sizes and marks -/

theorem length_le_byteSize (s : List Char) : s.length ≤ Text.byteSize s := by
  induction s with
  | nil => exact Nat.le_refl _
  | cons c s ih =>
    have hpos := c.utf8Size_pos
    rw [Text.byteSize_cons, List.length_cons]
    omega

theorem byteSize_of_ascii {s : List Char} (h : ∀ c ∈ s, c.toNat < 128) :
    Text.byteSize s = s.length := by
  induction s with
  | nil => rfl
  | cons c s ih =>
    have hsize : c.utf8Size = 1 :=
      Char.utf8Size_eq_one_iff.2 (Nat.le_of_lt_succ (h c List.mem_cons_self))
    rw [Text.byteSize_cons, List.length_cons, ih fun c hc => h c (List.mem_cons_of_mem _ hc), hsize,
      Nat.add_comm]

theorem byteSize_toList (s : String) : Text.byteSize s.toList = s.utf8ByteSize := by
  rw [Text.byteSize, String.ofList_toList]

theorem marked_append (s : String) : Marked (s ++ "...") :=
  ⟨s.toList, String.toList_append.symm⟩

/-- A text that does not end with a point is not marked by itself. -/
theorem not_marked {s : String} (h : Text.Ended s) : ¬ Marked s := by
  rintro ⟨front, hmarked⟩
  obtain ⟨front', c, hended, hc⟩ := h
  have hlast : front ++ ['.', '.'] ++ ['.'] = front' ++ [c] := by
    rw [← hended, ← hmarked, List.append_assoc]
    rfl
  exact hc (List.cons.inj (List.append_inj' hlast rfl).2).1.symm

/-! ## Previews of texts -/

/-- How a preview shows a text. -/
structure Previews (text preview : String) : Prop where
  /-- As it should, with a mark if and only if something is cut off, unless the
  text has few characters in many bytes, -/
  right : 200 < text.length ∨ text.utf8ByteSize ≤ 200 →
    preview = shown text ∧ (Marked preview ↔ 200 < text.length)
  /-- and then it is whole and marked all the same. -/
  wrong : text.length ≤ 200 → 200 < text.utf8ByteSize →
    preview = text ++ "..." ∧ Marked preview ∧ preview ≠ shown text
  /-- That does not happen to ASCII. -/
  ascii : (∀ c ∈ text.toList, c.toNat < 128) →
    preview = shown text ∧ (Marked preview ↔ 200 < text.length)

/-- A preview shows a text that has an end of its own. -/
theorem previews_of_ended {text preview : String} (hended : Text.Ended text)
    (hpreview : preview = if 200 < text.utf8ByteSize then
      String.ofList (text.toList.take 200) ++ "..." else text) : Previews text preview := by
  have hsize : text.length ≤ text.utf8ByteSize := by
    rw [← String.length_toList, ← byteSize_toList]
    exact length_le_byteSize _
  have hright : 200 < text.length ∨ text.utf8ByteSize ≤ 200 →
      preview = shown text ∧ (Marked preview ↔ 200 < text.length) := by
    rintro (hlong | hshort)
    · rw [if_pos (Nat.lt_of_lt_of_le hlong hsize)] at hpreview
      refine ⟨by rw [hpreview, shown, if_neg (Nat.not_le.2 hlong)], iff_of_true ?_ hlong⟩
      rw [hpreview]
      exact marked_append _
    · have hlength : text.length ≤ 200 := Nat.le_trans hsize hshort
      rw [if_neg (Nat.not_lt.2 hshort)] at hpreview
      refine ⟨by rw [hpreview, shown, if_pos hlength], iff_of_false ?_ (Nat.not_lt.2 hlength)⟩
      rw [hpreview]
      exact not_marked hended
  refine ⟨hright, fun hshort hlong => ?_, fun hascii => hright ?_⟩
  · have hall : text.toList.take 200 = text.toList :=
      List.take_of_length_le (String.length_toList ▸ hshort)
    rw [if_pos hlong, hall, String.ofList_toList] at hpreview
    have hmarked : Marked preview := hpreview ▸ marked_append text
    refine ⟨hpreview, hmarked, fun heq => ?_⟩
    rw [heq, shown, if_pos hshort] at hmarked
    exact not_marked hended hmarked
  · rw [← byteSize_toList, byteSize_of_ascii hascii, String.length_toList]
    exact Nat.lt_or_ge 200 text.length

/-! ## Records of calls -/

variable {σ : Type}

/-- What is written at the end of a call. -/
theorem audits_closing (name : String) (params : Json) (c : Context)
    (answer : Option (Except Failure Output)) :
    audits (closing name params c answer) = (answer.map (Audit.of name params)).toList := by
  cases answer with
  | none => rfl
  | some answer =>
    have hlast : audits (lastTold c answer) = [] := by
      cases answer with
      | ok o => exact filterMap_told _ _ rfl
      | error f => exact filterMap_told _ _ rfl
    exact congrArg (Audit.of name params answer :: ·) hlast

/-- **The records of a call**: one if it returns, and else none. -/
theorem audits_invoke (i : Invoker σ) (client : Client) (moves : Nat) (name : String)
    (params : Json) (c : Context) (m : Task.Moment) :
    audits (i.invoke client moves name params c m).trace =
      ((i.invoke client moves name params c m).answer.map (Audit.of name params)).toList := by
  obtain ⟨f, hrefused⟩ | ⟨t, haccepted⟩ := refused_or_accepted i name params c m
  · obtain ⟨hanswer, htrace, -⟩ := invoke_refused hrefused client moves
    rw [hanswer, htrace, audits_closing]
  · obtain ⟨hanswer, htrace, -⟩ := invoke_accepted haccepted client moves
    obtain ⟨-, -, -, hcourse, -⟩ := courseOf_trace i client moves t params c m
    have hstarted : audits (told c.onStart .started) = [] := filterMap_told _ _ rfl
    rw [hanswer, htrace, audits_append, audits_append, hstarted, hcourse, audits_closing]
    rfl

/-- **The previews of a call**: that of its parameters if it returns, and else none. -/
theorem previews_invoke (i : Invoker σ) (client : Client) (moves : Nat) (name : String)
    (params : Json) (c : Context) (m : Task.Moment) :
    (audits (i.invoke client moves name params c m).trace).map Audit.preview =
      ((i.invoke client moves name params c m).answer.map
        fun _ => Audit.previewOf params).toList := by
  rw [audits_invoke]
  cases (i.invoke client moves name params c m).answer with
  | none => rfl
  | some answer => cases answer <;> rfl

/-- **What the record of a call shows of the parameters**, for all parameters
and however the call comes out. -/
theorem preview_marked (i : Invoker σ) (client : Client) (moves : Nat) (name : String)
    (params : Json) (c : Context) (m : Task.Moment) :
    ∃ preview, Previews params.compact preview ∧
      (audits (i.invoke client moves name params c m).trace).map Audit.preview =
        ((i.invoke client moves name params c m).answer.map fun _ => preview).toList :=
  ⟨Audit.previewOf params, previews_of_ended (Json.ended_compact params) rfl,
    previews_invoke i client moves name params c m⟩

/-- A hundred letters of two bytes each. -/
def accented : Json := .obj [("text", .str (String.ofList (List.replicate 100 'é')))]

/-- They stand as they are in the text of the parameters. -/
theorem accented_toList : accented.compact.toList =
    "\x7b\"text\":\"".toList ++ (List.replicate 100 'é' ++ "\"\x7d".toList) := by
  have hplain : (List.replicate 100 'é').flatMap Json.escapeChar = List.replicate 100 'é' := by
    generalize 100 = n
    induction n with
    | zero => rfl
    | succ n ih =>
      rw [List.replicate_succ, List.flatMap_cons, ih]
      rfl
  simp only [accented, Json.compact, Json.compactMembers, Json.leafText, Json.quoted,
    String.toList_append, String.toList_ofList, hplain]
  rfl

/-- **A preview that shows all of a text marks it as cut off.** -/
theorem whole_preview_marked :
    let r := (reception none).invoke silence 5 "greet" accented (attentive false none) (.start none)
    accented.compact.length = 111 ∧
      (audits r.trace).map Audit.preview = [accented.compact ++ "..."] := by
  intro r
  have hlength : accented.compact.toList.length = 111 := by
    rw [accented_toList]
    rfl
  have hsize : 200 < accented.compact.utf8ByteSize := by
    rw [← byteSize_toList, accented_toList]
    decide +kernel
  have hpreview : Audit.previewOf accented = accented.compact ++ "..." := by
    have hall : accented.compact.toList.take 200 = accented.compact.toList :=
      List.take_of_length_le (by rw [hlength]; decide)
    simp only [Audit.previewOf, Audit.previewLength, if_pos hsize, hall, String.ofList_toList]
  have hanswer : r.answer = some (.ok (Output.text "hello")) := by rfl
  constructor
  · rw [← String.length_toList]
    exact hlength
  · rw [previews_invoke, hanswer, hpreview, Option.map_some, Option.toList_some]

end Invocation

end Amanuensis
