import GatewayDirectory.Proofs.Text.Bytes
import GatewayDirectory.Text.Percent

/-!
# Percent encoding can be undone

Every byte that `encode` writes is read back by `decode` (`decode_encode`), so two texts with one
encoding are equal. What it writes is ASCII, whatever the text is.
-/

namespace GatewayDirectory.Text.Percent

/-! ## One byte -/

/-- The sixteen digits of a hexadecimal number are ASCII characters. -/
theorem hexDigit_ascii (n : Nat) (h : n < 16) : (hexDigit n).toNat < 128 := by
  revert n
  decide

/-- A byte is written with ASCII characters only, be it a letter that stands for itself or not. -/
theorem encodeByte_ascii (b : UInt8) : ∀ c ∈ encodeByte b, c.toNat < 128 := by
  intro c hc
  unfold encodeByte at hc
  split at hc
  · rename_i h
    obtain rfl := List.mem_singleton.1 hc
    simp only [isUnreserved, Bool.or_eq_true, beq_iff_eq] at h
    rcases h with (((h | h) | h) | h) | h
    · exact toNat_lt_of_isAlphanum h
    all_goals
      rw [h]
      decide
  · have hb : b.toNat < 256 := b.toNat_lt
    simp only [List.mem_cons, List.not_mem_nil, or_false] at hc
    rcases hc with rfl | rfl | rfl
    · decide
    · exact hexDigit_ascii _ (by omega)
    · exact hexDigit_ascii _ (by omega)

/-- A byte that stands for itself is no percent sign. -/
theorem ne_percent_of_isUnreserved {b : UInt8} (h : isUnreserved b = true) : b ≠ 37 := by
  rintro rfl
  revert h
  decide

/-- The character with the number of a byte stands for that byte. -/
theorem asciiByte_ofNat (b : UInt8) : asciiByte (Char.ofNat b.toNat) = b := by
  have hvalid : b.toNat.isValidChar := .inl (Nat.lt_trans b.toNat_lt (by decide))
  have hnumber : (Char.ofNat b.toNat).toNat = b.toNat := by
    rw [Char.ofNat, dif_pos hvalid]
    rfl
  rw [asciiByte, hnumber, UInt8.ofNat_toNat]

/-- A hexadecimal digit is read back as the number it was written for. -/
theorem hexValue?_hexDigit (n : Nat) (h : n < 16) :
    hexValue? (asciiByte (hexDigit n)) = some (UInt8.ofNat n) := by
  revert n
  decide

/-- A byte other than the percent sign stands for itself. -/
theorem decode_of_ne_percent {b : UInt8} (h : b ≠ 37) (rest : List UInt8) :
    decode (b :: rest) = b :: decode rest := by
  rw [decode]
  exact fun _ _ _ heq _ => absurd heq h

/-- **An encoded byte is read back**, whatever follows it. -/
theorem decode_encodeByte (b : UInt8) (rest : List UInt8) :
    decode ((encodeByte b).map asciiByte ++ rest) = b :: decode rest := by
  unfold encodeByte
  split
  · rename_i h
    rw [List.map_singleton, asciiByte_ofNat]
    exact decode_of_ne_percent (ne_percent_of_isUnreserved h) rest
  · -- the two digits are the high and the low half of the byte, put together again modulo 256
    have hb : b.toNat < 256 := b.toNat_lt
    have hjoin : UInt8.ofNat (b.toNat / 16) * 16 + UInt8.ofNat (b.toNat % 16) = b := by
      apply UInt8.toNat_inj.1
      simp only [UInt8.toNat_add, UInt8.toNat_mul, UInt8.toNat_ofNat', UInt8.toNat_ofNat]
      omega
    simp only [List.map_cons, List.map_nil, List.cons_append, List.nil_append]
    rw [show asciiByte '%' = 37 from rfl, decode,
      hexValue?_hexDigit _ (by omega), hexValue?_hexDigit _ (by omega)]
    simp only [hjoin]

/-! ## Texts -/

/-- The encoding of a text is that of its bytes one after the other. -/
theorem toList_encode (s : String) : (encode s).toList = s.toUTF8.toList.flatMap encodeByte := by
  simp [encode]

/-- An encoded text is ASCII. -/
theorem encode_ascii (s : String) : IsAscii (encode s) := by
  intro c hc
  rw [toList_encode, List.mem_flatMap] at hc
  obtain ⟨b, -, hb⟩ := hc
  exact encodeByte_ascii b c hb

/-- The encodings of bytes in a row are read back byte by byte. -/
theorem decode_flatMap (bytes : List UInt8) :
    decode ((bytes.flatMap encodeByte).map asciiByte) = bytes := by
  induction bytes with
  | nil => rfl
  | cons b bytes ih => rw [List.flatMap_cons, List.map_append, decode_encodeByte, ih]

/-- **Decoding undoes encoding.** -/
theorem decode_encode (s : String) : decode (encode s).toUTF8.toList = s.toUTF8.toList := by
  rw [ascii_bytes (encode_ascii s), toList_encode, decode_flatMap]

/-- Texts with one encoding are equal. -/
theorem encode_inj {a b : String} : encode a = encode b ↔ a = b := by
  constructor
  · intro h
    rw [← toUTF8_toList_inj, ← decode_encode a, h, decode_encode]
  · rintro rfl
    rfl

/-- An encoded ASCII text takes as many bytes as its encoded characters have. -/
theorem utf8ByteSize_encode {s : String} (h : IsAscii s) : (encode s).utf8ByteSize =
    (s.toList.flatMap fun c => encodeByte (asciiByte c)).length := by
  rw [utf8ByteSize_ascii (encode_ascii s), toList_encode, ascii_bytes h, List.flatMap_map]

end GatewayDirectory.Text.Percent
