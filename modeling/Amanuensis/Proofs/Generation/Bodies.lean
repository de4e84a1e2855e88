import Amanuensis.Client.Error
import Amanuensis.Proofs.Generation.Orders
/-!
# What is sent

The body of the request for an image or a document, from the parameters of the
call (`Sent`): the text that must be there as it is, the others only where they
are texts, and for a document its format in any case. A member that is not a
parameter is not passed on.
-/


namespace Amanuensis

namespace Json

/-- The text of a member, if the member is there and is a text. -/
def textAt (j : Json) (key : String) : Option String := (j.get? key).bind str?

/-- The member that holds a text, if there is one. -/
def textMember (key : String) (text : Option String) : List (String × Json) :=
  (text.map fun s => (key, .str s)).toList

variable {members : List (String × Json)} {key : String}

theorem textAt_eq (key : String) (members : List (String × Json)) :
    (obj members).textAt key = (Wire.valuesAt key members).head?.bind str? := by
  rw [textAt, get?, Wire.lookup_eq_head?]

/-- The text of a member that must be a text, -/
theorem textAt_of_sole {s : String}
    (h : Wire.Sole (fun j s => j = .str s) (Wire.valuesAt key members) s) :
    (obj members).textAt key = some s := by
  rw [textAt_eq]
  generalize Wire.valuesAt key members = values at h ⊢
  obtain ⟨rfl⟩ := h
  rfl

/-- and of one that may be null or absent. -/
theorem textAt_of_given {text : Option String}
    (h : Wire.Given (Wire.TextOrNull id) none (Wire.valuesAt key members) text) :
    (obj members).textAt key = text := by
  rw [textAt_eq]
  generalize Wire.valuesAt key members = values at h ⊢
  cases h with
  | absent => rfl
  | once htext => cases htext <;> rfl

end Json

namespace Generation

open Json (textMember)

/-! ## Bodies -/

theorem ImageOrder.encode_eq (o : ImageOrder) :
    o.encode = .obj (("prompt", .str o.prompt) :: textMember "size" o.size) := by
  obtain ⟨prompt, size⟩ := o
  have hafter : ¬ "size" < "prompt" := by decide
  cases size with
  | none => rfl
  | some size => simp [encode, Json.ofMembers, Json.insertMember, textMember, hafter]

theorem DocumentOrder.encode_eq (o : DocumentOrder) :
    o.encode = .obj (("content", .str o.content) :: ("format", .str o.format.text) ::
      textMember "title" o.title) := by
  obtain ⟨content, format, title⟩ := o
  have hformat : ¬ "format" < "content" := by decide
  have htitle : ¬ "title" < "content" := by decide
  have hlast : ¬ "title" < "format" := by decide
  cases title <;>
    simp [encode, Json.ofMembers, Json.insertMember, textMember, Format.encode, hformat, htitle,
      hlast]

/-! ## From the parameters to the body -/

/-- The format that is asked for: a `docx` where none is, else the one that is
named, as a text or as the only key of an object. -/
inductive Format.Stated : Option Json → Format → Prop
  | absent : Stated none .docx
  | text (f : Format) : Stated (some (.str f.text)) f
  | key (f : Format) : Stated (some (.obj [(f.text, .null)])) f

theorem Format.text_of_lookup {s : String} {f : Format} (h : names.lookup s = some f) :
    s = f.text := by
  obtain ⟨before, after, hnames, -⟩ := List.lookup_eq_some_iff.1 h
  have hmem : (s, f) ∈ names := by
    rw [hnames]
    exact List.mem_append_right _ List.mem_cons_self
  have htexts : ∀ name ∈ names, name.1 = name.2.text := by decide
  exact htexts _ hmem

theorem Format.stated_of_decode {j : Json} {f : Format} (h : decode j = .ok f) :
    Stated (some j) f := by
  have hname : ∀ {s : String}, Wire.named names (.str s) = .ok f → s = f.text := by
    intro s hs
    obtain ⟨_, hs, hlookup⟩ := (Wire.named_eq_ok (by simp)).1 hs
    cases hs
    exact text_of_lookup hlookup
  unfold decode at h
  cases j with
  | str s =>
    rw [hname h]
    exact .text f
  | obj members =>
    match members with
    | [] => cases h
    | [(key, value)] =>
      cases hkey : names.lookup key with
      | none => simp [Wire.named, hkey] at h
      | some g =>
        cases value with
        | null =>
          simp only [Wire.named, hkey] at h
          cases h
          rw [text_of_lookup hkey]
          exact .key f
        | bool | num | str | arr | obj => simp [Wire.named, hkey] at h
    | _ :: _ :: _ => cases h
  | null | bool | num | arr => cases h

/-- What is sent for an order, and where to, from the parameters. -/
inductive Sent (params : Json) : Order → (endpoint : String) → (body : Json) → Prop
  | image {o : ImageOrder} : params.textAt "prompt" = some o.prompt →
      params.textAt "size" = o.size →
      Sent params (.image o) "image-generation"
        (.obj (("prompt", .str o.prompt) :: textMember "size" o.size))
  | document {o : DocumentOrder} : params.textAt "content" = some o.content →
      Format.Stated (params.get? "format") o.format → params.textAt "title" = o.title →
      Sent params (.document o) "document-generation"
        (.obj (("content", .str o.content) :: ("format", .str o.format.text) ::
          textMember "title" o.title))

variable {members : List (String × Json)}

theorem sent_image {o : ImageOrder} (h : ImageOrder.decode (.obj members) = .ok o) :
    Sent (.obj members) (.image o) (Order.image o).endpoint (Order.image o).body := by
  obtain ⟨_, ⟨⟩, hprompt, hsize⟩ := ImageOrder.decode_iff.1 h
  rw [Order.body, o.encode_eq]
  exact .image (Json.textAt_of_sole hprompt) (Json.textAt_of_given hsize)

theorem sent_document {o : DocumentOrder} (h : DocumentOrder.decode (.obj members) = .ok o) :
    Sent (.obj members) (.document o) (Order.document o).endpoint (Order.document o).body := by
  obtain ⟨_, ⟨⟩, hcontent, hformat, htitle⟩ := DocumentOrder.decode_iff.1 h
  have hstated : Format.Stated ((Json.obj members).get? "format") o.format := by
    rw [Json.get?, Wire.lookup_eq_head?]
    cases hvalues : Wire.valuesAt "format" members with
    | nil =>
      rw [hvalues] at hformat
      rw [Wire.given_nil.1 hformat]
      exact .absent
    | cons value rest =>
      rw [hvalues] at hformat
      exact Format.stated_of_decode (hformat.of_mem List.mem_cons_self)
  rw [Order.body, o.encode_eq]
  exact .document (Json.textAt_of_sole hcontent) hstated (Json.textAt_of_given htitle)

/-! ## From the answer to the output -/

/-- The output that an order comes to when something has been generated. -/
def Order.generated : Order → (url : String) → (filename : Option String) → Tool.Output
  | .image _, url, _ => .image url
  | .document o, url, filename => .file url (filename.getD (defaultFilename o.title o.format))

/-- What an order comes to by what the service answers: an output only by an
answer with an address, and a failure by any other and by an error. -/
structure ComesTo (order : Order) (answer : Except Client.Error Json)
    (result : Except Failure Tool.Output) : Prop where
  generated : ∀ output, result = .ok output ↔
    ∃ j url, answer = .ok j ∧ j.textAt "url" = some url ∧
      output = order.generated url (j.textAt "filename")
  unusable : ∀ j, answer = .ok j → j.textAt "url" = none →
    ∃ message, result = .error (.remote "INVALID_RESPONSE" message)
  refused : ∀ e, answer = .error e → result = .error e.toFailure

theorem Order.output_eq (order : Order) {j : Json} {url : String}
    (h : j.textAt "url" = some url) :
    order.output j = .ok (order.generated url (j.textAt "filename")) := by
  unfold Json.textAt at h
  cases order with
  | image o => simp only [output, imageOutput, h, generated]
  | document o => simp only [output, documentOutput, h, generated, Json.textAt]

theorem Order.output_eq_error (order : Order) {j : Json} (h : j.textAt "url" = none) :
    ∃ message, order.output j = .error (.remote "INVALID_RESPONSE" message) := by
  unfold Json.textAt at h
  cases order with
  | image o => exact ⟨_, by simp only [output, imageOutput, h]; rfl⟩
  | document o => exact ⟨_, by simp only [output, documentOutput, h]; rfl⟩

/-- An answer comes to the output that is made of it, -/
theorem comesTo_output (order : Order) (j : Json) : ComesTo order (.ok j) (order.output j) where
  generated output := by
    constructor
    · intro h
      cases hurl : j.textAt "url" with
      | none =>
        obtain ⟨message, hmessage⟩ := order.output_eq_error hurl
        cases h.symm.trans hmessage
      | some url =>
        exact ⟨j, url, rfl, hurl, Except.ok.inj (h.symm.trans (order.output_eq hurl))⟩
    · rintro ⟨_, url, ⟨⟩, hurl, rfl⟩
      exact order.output_eq hurl
  unusable := by
    rintro _ ⟨⟩ hurl
    exact order.output_eq_error hurl
  refused := nofun

/-- and an error to its failure. -/
theorem comesTo_error (order : Order) (e : Client.Error) :
    ComesTo order (.error e) (.error e.toFailure) where
  generated output := ⟨nofun, by rintro ⟨_, _, ⟨⟩, _⟩⟩
  unusable := nofun
  refused := by
    rintro _ ⟨⟩
    rfl

end Generation

end Amanuensis
