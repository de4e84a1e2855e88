import Amanuensis.Url.Percent
import Mathlib.Data.List.Basic
/-!
# Percent-encoded texts read back

Where the percent sign is among the characters that are encoded, an encoded
text reads as the bytes of the text (`decodeBytes_encode`), and these are the
text again (`textOfBytes?_utf8`). So encoding loses nothing
(`textOf_encode`).
-/


namespace Amanuensis

namespace Url

variable {reserved : Char → Bool} {b n m : Nat} {c : Char} {s t rest : List Char}

/-! ## Digits -/

theorem isHexDigit_hexDigit (h : n < 16) : Text.isHexDigit (hexDigit n) = true := by
  have hall : ∀ n ∈ List.range 16, Text.isHexDigit (hexDigit n) = true := by decide
  exact hall n (List.mem_range.2 h)

/-- Two digits write sixteen of the first and one of the second. -/
theorem digitsIn_hexDigit (hn : n < 16) (hm : m < 16) :
    Text.digitsIn 16 [hexDigit n, hexDigit m] = 16 * n + m := by
  have hall : ∀ n ∈ List.range 16, Text.digitsIn 16 [hexDigit n] = n := by decide
  have hdigits : Text.digitsIn 16 [hexDigit n, hexDigit m] =
      16 * Text.digitsIn 16 [hexDigit n] + Text.digitsIn 16 [hexDigit m] := by
    simp [Text.digitsIn]
  rw [hdigits, hall n (List.mem_range.2 hn), hall m (List.mem_range.2 hm)]

/-! ## Bytes -/

/-- A byte that is encoded reads as itself. -/
theorem decodeBytes_encodeByte (h : b < 256) (rest : List Char) :
    decodeBytes (encodeByte b ++ rest) = b :: decodeBytes rest := by
  have hhigh : b / 16 < 16 := by omega
  have hlow : b % 16 < 16 := by omega
  have hvalue : Text.digitsIn 16 [hexDigit (b / 16), hexDigit (b % 16)] = b := by
    rw [digitsIn_hexDigit hhigh hlow]
    omega
  rw [encodeByte, List.cons_append, List.cons_append, List.cons_append, List.nil_append,
    decodeBytes, isHexDigit_hexDigit hhigh, isHexDigit_hexDigit hlow, hvalue]
  rfl

/-- So do some bytes. -/
theorem decodeBytes_encodeBytes {bytes : List Nat} (h : ∀ b ∈ bytes, b < 256)
    (rest : List Char) :
    decodeBytes (bytes.flatMap encodeByte ++ rest) = bytes ++ decodeBytes rest := by
  induction bytes with
  | nil => rfl
  | cons b bytes ih =>
    rw [List.flatMap_cons, List.append_assoc, decodeBytes_encodeByte (h b List.mem_cons_self),
      ih fun b hb => h b (List.mem_cons_of_mem _ hb), List.cons_append]

/-- A character other than the percent sign reads as its bytes. -/
theorem decodeBytes_cons (h : c ≠ '%') (rest : List Char) :
    decodeBytes (c :: rest) = utf8Char c ++ decodeBytes rest := by
  rw [decodeBytes]
  rintro a b rest' hc -
  exact h hc

theorem toNat_lt (c : Char) : c.toNat < 0x110000 := by
  have hvalid := c.valid
  simp only [UInt32.isValidChar, Nat.isValidChar] at hvalid
  change c.val.toNat < _
  omega

theorem utf8Char_lt (c : Char) : ∀ b ∈ utf8Char c, b < 256 := by
  have hbound := toNat_lt c
  have hsome : ∀ bytes : List Nat, (∀ b ∈ bytes, b < 256) ↔ bytes.all (· < 256) = true := by
    simp
  rw [hsome]
  unfold utf8Char
  simp only
  by_cases h1 : c.toNat < 0x80
  · simp [if_pos h1]
    omega
  by_cases h2 : c.toNat < 0x800
  · simp [if_neg h1, if_pos h2]
    omega
  by_cases h3 : c.toNat < 0x10000
  · simp [if_neg h1, if_neg h2, if_pos h3]
    omega
  · simp [if_neg h1, if_neg h2, if_neg h3]
    omega

/-- **An encoded text reads as its bytes**, if percent signs are encoded. -/
theorem decodeBytes_encode (h : reserved '%' = true) (s : List Char) :
    decodeBytes (encode reserved s) = s.flatMap utf8Char := by
  induction s with
  | nil => rfl
  | cons c s ih =>
    have hcons : encode reserved (c :: s) =
        (if reserved c then (utf8Char c).flatMap encodeByte else [c]) ++ encode reserved s := rfl
    rw [hcons, List.flatMap_cons, ← ih]
    split
    · exact decodeBytes_encodeBytes (utf8Char_lt c) _
    · rename_i hc
      refine decodeBytes_cons ?_ _
      rintro rfl
      exact hc h

/-! ## Texts -/

/-- The bytes of a character are those that the runtime makes of it. -/
theorem map_utf8Char (c : Char) : (utf8Char c).map UInt8.ofNat = String.utf8EncodeChar c := by
  have hbound := toNat_lt c
  have hval : c.val.toNat = c.toNat := rfl
  unfold utf8Char String.utf8EncodeChar
  simp only [hval]
  generalize c.toNat = n at hbound
  have hbytes : ∀ a a' : Nat, a = a' → UInt8.ofNat a = UInt8.ofNat a' := fun _ _ => congrArg _
  by_cases h1 : n < 0x80
  · rw [if_pos h1, if_pos (by omega)]
    rfl
  rw [if_neg h1, if_neg (by omega : ¬ n ≤ 127)]
  by_cases h2 : n < 0x800
  · rw [if_pos h2, if_pos (by omega), List.map_cons, List.map_singleton]
    rw [hbytes (0xC0 + n / 0x40) (n / 64 % 32 + 192) (by omega),
      hbytes (0x80 + n % 0x40) (n % 64 + 128) (by omega)]
  rw [if_neg h2, if_neg (by omega : ¬ n ≤ 2047)]
  by_cases h3 : n < 0x10000
  · rw [if_pos h3, if_pos (by omega), List.map_cons, List.map_cons, List.map_singleton]
    rw [hbytes (0xE0 + n / 0x1000) (n / 4096 % 16 + 224) (by omega),
      hbytes (0x80 + n / 0x40 % 0x40) (n / 64 % 64 + 128) (by omega),
      hbytes (0x80 + n % 0x40) (n % 64 + 128) (by omega)]
  · rw [if_neg h3, if_neg (by omega : ¬ n ≤ 65535), List.map_cons, List.map_cons, List.map_cons,
      List.map_singleton]
    rw [hbytes (0xF0 + n / 0x40000) (n / 262144 % 8 + 240) (by omega),
      hbytes (0x80 + n / 0x1000 % 0x40) (n / 4096 % 64 + 128) (by omega),
      hbytes (0x80 + n / 0x40 % 0x40) (n / 64 % 64 + 128) (by omega),
      hbytes (0x80 + n % 0x40) (n % 64 + 128) (by omega)]

/-- **The bytes of a text are that text.** -/
theorem textOfBytes?_utf8 (s : List Char) : textOfBytes? (s.flatMap utf8Char) = some s := by
  have hmap : (s.flatMap utf8Char).map UInt8.ofNat = s.flatMap String.utf8EncodeChar := by
    rw [List.map_flatMap]
    exact congrArg (s.flatMap ·) (funext map_utf8Char)
  have hbytes : (⟨((s.flatMap utf8Char).map UInt8.ofNat).toArray⟩ : ByteArray) =
      s.utf8Encode := by
    rw [hmap, List.utf8Encode]
    exact ByteArray.ext List.data_toByteArray.symm
  have hvalid : s.utf8Encode.IsValidUTF8 := .intro s rfl
  have htext : String.fromUTF8? s.utf8Encode = some (String.ofList s) := by
    rw [String.fromUTF8?, dif_pos hvalid]
    rfl
  rw [textOfBytes?, hbytes, htext, Option.map_some, String.toList_ofList]

/-- **Encoding loses nothing**, if percent signs are encoded. -/
theorem textOf_encode (h : reserved '%' = true) (s : List Char) :
    textOfBytes? (decodeBytes (encode reserved s)) = some s := by
  rw [decodeBytes_encode h, textOfBytes?_utf8]

theorem encode_eq_self (h : ∀ c ∈ s, reserved c = false) : encode reserved s = s := by
  induction s with
  | nil => rfl
  | cons c s ih =>
    obtain ⟨hc, hs⟩ := List.forall_mem_cons.1 h
    rw [encode, List.flatMap_cons, hc]
    exact congrArg (c :: ·) (ih hs)

theorem encode_injective (h : reserved '%' = true) (heq : encode reserved s = encode reserved t) :
    s = t := by
  have hs := textOf_encode h s
  rw [heq, textOf_encode h t] at hs
  exact (Option.some.inj hs).symm

end Url

end Amanuensis
