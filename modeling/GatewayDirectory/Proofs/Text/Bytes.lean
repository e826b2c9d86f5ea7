import GatewayDirectory.Text.Utf8

/-!
# The bytes of a text

`String.toUTF8` spells a text in bytes. `toList_toUTF8` says which ones, character by character. Of
an ASCII text they are the numbers of its characters (`ascii_bytes`), so that two ASCII texts are in
the order of their bytes (`bytes_lt_of_lt`).
-/

namespace GatewayDirectory.Text

/-! ## Byte arrays as lists -/

/-- The loop that lists a byte array from an index on puts the rest behind what it has done, which
it keeps reversed. -/
theorem toList_loop_eq_append (bytes : ByteArray) (i : Nat) (done : List UInt8) :
    ByteArray.toList.loop bytes i done = done.reverse ++ bytes.data.toList.drop i := by
  fun_induction ByteArray.toList.loop bytes i done with
  | case1 i done h ih =>
    have hi : i < bytes.data.toList.length := by simpa using h
    have hget : bytes.get! i = bytes.data.toList[i] := by simp [ByteArray.get!, h]
    rw [ih, List.drop_eq_getElem_cons hi, hget]
    simp
  | case2 i done h =>
    rw [List.drop_eq_nil_of_le (by simpa using Nat.le_of_not_lt h)]
    simp

/-- The list of a byte array is the list of the array under it. -/
theorem byteArray_toList (bytes : ByteArray) : bytes.toList = bytes.data.toList := by
  simp [ByteArray.toList, toList_loop_eq_append]

/-- The bytes of a text are those of its characters in order. -/
theorem toList_toUTF8 (s : String) : s.toUTF8.toList = s.toList.flatMap String.utf8EncodeChar := by
  rw [String.toUTF8_eq_toByteArray, ← String.utf8Encode_toList, byteArray_toList, List.utf8Encode,
    List.toList_data_toByteArray]

/-- Bytes of a text that are equal make the texts equal. -/
theorem toUTF8_toList_inj {a b : String} : a.toUTF8.toList = b.toUTF8.toList ↔ a = b := by
  simp only [byteArray_toList, Array.toList_inj, String.toUTF8_eq_toByteArray]
  constructor
  · intro h
    exact String.toByteArray_inj.1 (ByteArray.ext h)
  · rintro rfl
    rfl

/-! ## ASCII -/

/-- Whether a text holds ASCII characters only. -/
def IsAscii (s : String) : Prop := ∀ c ∈ s.toList, c.toNat < 128

/-- What holds of every ASCII character holds of each. -/
theorem forall_ascii {P : Char → Prop} (h : ∀ n < 128, P (Char.ofNat n)) (c : Char)
    (hc : c.toNat < 128) : P c := by
  have hn := h c.toNat hc
  rwa [Char.ofNat_toNat] at hn

/-- Letters and digits are ASCII characters. -/
theorem toNat_lt_of_isAlphanum {c : Char} (h : c.isAlphanum = true) : c.toNat < 128 := by
  have hle {d : Char} (hd : c.val ≤ d.val) : c.toNat ≤ d.toNat := UInt32.le_iff_toNat_le.1 hd
  rcases Bool.or_eq_true_iff.1 h with h | h
  · rcases Bool.or_eq_true_iff.1 h with h | h
    · have hz : c.val ≤ 'Z'.val := (of_decide_eq_true h).2
      exact Nat.lt_of_le_of_lt (hle hz) (by decide)
    · have hz : c.val ≤ 'z'.val := of_decide_eq_true (Bool.and_eq_true_iff.1 h).2
      exact Nat.lt_of_le_of_lt (hle hz) (by decide)
  · have hnine : c.val ≤ '9'.val := of_decide_eq_true (Bool.and_eq_true_iff.1 h).2
    exact Nat.lt_of_le_of_lt (hle hnine) (by decide)

/-- The byte that stands for an ASCII character. -/
def asciiByte (c : Char) : UInt8 := UInt8.ofNat c.toNat

/-- The byte of an ASCII character has its number: nothing is cut off. -/
theorem toNat_asciiByte {c : Char} (h : c.toNat < 128) : (asciiByte c).toNat = c.toNat := by
  simp only [asciiByte, UInt8.toNat_ofNat']
  omega

/-- An ASCII character is spelled in the one byte that stands for it. -/
theorem encodeChar_ascii {c : Char} (h : c.toNat < 128) :
    String.utf8EncodeChar c = [asciiByte c] := by
  -- the first of the four ranges of UTF-8 ends at 127
  have hsize : c.utf8Size = 1 := by
    have : c.val ≤ 0x7f := by
      rw [UInt32.le_iff_toNat_le]
      exact Nat.le_of_lt_succ h
    simp [Char.utf8Size, this]
  rw [String.utf8EncodeChar_eq_singleton hsize]
  simp only [asciiByte, List.cons.injEq, and_true]
  rfl

/-- ASCII characters in a row are spelled in as many bytes. -/
theorem flatMap_encodeChar_ascii {cs : List Char} (h : ∀ c ∈ cs, c.toNat < 128) :
    cs.flatMap String.utf8EncodeChar = cs.map asciiByte := by
  induction cs with
  | nil => rfl
  | cons c cs ih =>
    have hc : c.toNat < 128 := h c List.mem_cons_self
    have hcs : ∀ x ∈ cs, x.toNat < 128 := fun x hx => h x (List.mem_cons_of_mem _ hx)
    simp [encodeChar_ascii hc, ih hcs]

/-- **The bytes of an ASCII text** are the numbers of its characters. -/
theorem ascii_bytes {s : String} (h : IsAscii s) : s.toUTF8.toList = s.toList.map asciiByte := by
  rw [toList_toUTF8, flatMap_encodeChar_ascii h]

/-- An ASCII text has as many bytes as characters. -/
theorem utf8ByteSize_ascii {s : String} (h : IsAscii s) : s.utf8ByteSize = s.toList.length := by
  have hbytes := congrArg List.length (ascii_bytes h)
  rw [byteArray_toList, List.length_map, String.toUTF8_eq_toByteArray,
    Array.length_toList] at hbytes
  exact hbytes

/-- Among ASCII characters the order of texts is that of their bytes. -/
theorem map_asciiByte_lt {as bs : List Char} (ha : ∀ c ∈ as, c.toNat < 128)
    (hb : ∀ c ∈ bs, c.toNat < 128) (h : as < bs) : as.map asciiByte < bs.map asciiByte := by
  induction as generalizing bs with
  | nil =>
    cases bs with
    | nil => exact absurd h (List.lt_irrefl _)
    | cons b bs => simp
  | cons a as ih =>
    cases bs with
    | nil => exact absurd h (by simp)
    | cons b bs =>
      have hac : a.toNat < 128 := ha a List.mem_cons_self
      have hbc : b.toNat < 128 := hb b List.mem_cons_self
      -- the first characters decide, or they are equal and the rest does
      rw [List.map_cons, List.map_cons, List.cons_lt_cons_iff]
      rcases List.cons_lt_cons_iff.1 h with hlt | ⟨rfl, hlt⟩
      · left
        rw [UInt8.lt_iff_toNat_lt, toNat_asciiByte hac, toNat_asciiByte hbc]
        exact hlt
      · exact .inr ⟨rfl, ih (fun c hc => ha c (List.mem_cons_of_mem _ hc))
          (fun c hc => hb c (List.mem_cons_of_mem _ hc)) hlt⟩

/-- **ASCII texts are in the order of their bytes.** -/
theorem bytes_lt_of_lt {a b : String} (ha : IsAscii a) (hb : IsAscii b) (h : a < b) :
    a.toUTF8.toList < b.toUTF8.toList := by
  rw [ascii_bytes ha, ascii_bytes hb]
  exact map_asciiByte_lt ha hb h

end GatewayDirectory.Text
