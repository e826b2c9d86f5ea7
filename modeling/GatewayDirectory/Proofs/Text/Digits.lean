import GatewayDirectory.Text.Blank

/-!
# Decimal digits

`Spells ds n` says that `ds` is a run of decimal digits with the value `n`. `Nat.toDigits` and
`zeroPadded` write such runs. A run is taken whole from a text in which no digit follows it
(`takeWhile_digits`).
-/

namespace GatewayDirectory.Text

/-- A run of decimal digits, at least one, with the value `n`. -/
structure Spells (ds : List Char) (n : Nat) : Prop where
  digits : ∀ c ∈ ds, c.isDigit = true
  ne_nil : ds ≠ []
  value : digitsValue ds = n

/-- The text does not start with a digit. -/
def NoDigit (cs : List Char) : Prop := ∀ c ∈ cs.head?, c.isDigit = false

/-- A run may end with the text. -/
theorem noDigit_nil : NoDigit [] := by
  intro c hc
  cases hc

/-- A run may end before a character that is no digit. -/
theorem noDigit_cons {c : Char} (h : c.isDigit = false) (cs : List Char) : NoDigit (c :: cs) := by
  intro d hd
  obtain rfl : c = d := Option.some.inj hd
  exact h

/-! ## Writing -/

/-- The value of a run is that of the library's reader of digits. -/
theorem digitsValue_eq (cs : List Char) : digitsValue cs = Nat.ofDigitChars 10 cs 0 := by
  simp only [digitsValue, Nat.ofDigitChars_eq_foldl, Nat.mul_comm]
  rfl

/-- A digit of a run has a value below ten. -/
theorem digit_lt {c : Char} (h : c.isDigit = true) : c.toNat - 48 < 10 := by
  simp only [Char.isDigit, Bool.and_eq_true, decide_eq_true_eq, ge_iff_le,
    UInt32.le_iff_toNat_le] at h
  have hhigh : c.toNat ≤ 57 := h.2
  omega

/-- **A run spells a number of no more digits than it has.** -/
theorem digitsValue_lt {ds : List Char} (hds : ∀ c ∈ ds, c.isDigit = true) :
    digitsValue ds < Nat.pow 10 ds.length := by
  -- what the digits so far spell grows tenfold with each digit behind them
  have hfold (acc : Nat) : ds.foldl (fun n c => n * 10 + (c.toNat - 48)) acc <
      (acc + 1) * Nat.pow 10 ds.length := by
    induction ds generalizing acc with
    | nil => simp
    | cons d ds ih =>
      obtain ⟨hd, hds⟩ := List.forall_mem_cons.1 hds
      have hdigit := digit_lt hd
      calc ds.foldl (fun n c => n * 10 + (c.toNat - 48)) (acc * 10 + (d.toNat - 48))
        _ < (acc * 10 + (d.toNat - 48) + 1) * Nat.pow 10 ds.length := ih hds _
        _ ≤ ((acc + 1) * 10) * Nat.pow 10 ds.length := Nat.mul_le_mul_right _ (by omega)
        _ = (acc + 1) * Nat.pow 10 (d :: ds).length := by
          rw [List.length_cons, Nat.pow_eq, Nat.pow_eq, Nat.pow_succ, Nat.mul_assoc,
            Nat.mul_comm 10]
  simpa [digitsValue] using hfold 0

/-- The digits that the library writes for a number spell it. -/
theorem spells_toDigits (n : Nat) : Spells (Nat.toDigits 10 n) n where
  digits c hc := Nat.isDigit_of_mem_toDigits (by decide) (by decide) hc
  ne_nil := Nat.toDigits_ne_nil
  value := by rw [digitsValue_eq, Nat.ofDigitChars_ten_toDigits]

/-- Only zero is written with a zero in front. -/
theorem head?_toDigits {n : Nat} (h : (Nat.toDigits 10 n).head? = some '0') : n = 0 := by
  induction n using Nat.strongRecOn with
  | ind n ih =>
    -- a number below ten is its own digit; another ends with a digit behind those of its tenth
    rw [Nat.toDigits_eq_if (by decide)] at h
    split at h
    · simpa using h
    · rename_i hge
      -- the first digit is that of a tenth of the number, which is not zero
      have hhead : (Nat.toDigits 10 (n / 10)).head? = some '0' := by
        cases hdigits : Nat.toDigits 10 (n / 10) with
        | nil => exact absurd hdigits Nat.toDigits_ne_nil
        | cons d ds =>
          rw [hdigits] at h
          exact h
      have hzero := ih (n / 10) (by omega) hhead
      omega

/-- A padded number is its digits behind as many zeros as the width lacks; digits beyond the width
stay. -/
theorem toList_zeroPadded (width n : Nat) : (zeroPadded width n).toList =
    List.replicate (width - (Nat.toDigits 10 n).length) '0' ++ Nat.toDigits 10 n := by
  simp [zeroPadded]

/-- The zeros in front of a number do not change what is spelled. -/
theorem spells_zeroPadded (width n : Nat) : Spells (zeroPadded width n).toList n where
  digits c hc := by
    rw [toList_zeroPadded, List.mem_append, List.mem_replicate] at hc
    rcases hc with ⟨-, rfl⟩ | hc
    · rfl
    · exact (spells_toDigits n).digits c hc
  ne_nil := by simp [toList_zeroPadded]
  value := by
    rw [digitsValue_eq, toList_zeroPadded, Nat.ofDigitChars_append,
      Nat.ofDigitChars_replicate_zero, Nat.mul_zero, Nat.ofDigitChars_ten_toDigits]

/-- A number that fits takes exactly the width. -/
theorem length_zeroPadded (width n : Nat) (hwidth : 0 < width) (h : n < Nat.pow 10 width) :
    (zeroPadded width n).toList.length = width := by
  have hlength := (Nat.length_toDigits_le_iff (b := 10) (by decide) hwidth).2 h
  rw [toList_zeroPadded, List.length_append, List.length_replicate]
  omega

/-! ## Reading -/

/-- A run is taken whole and nothing behind it with it. -/
theorem takeWhile_digits {ds cs : List Char} (hds : ∀ c ∈ ds, c.isDigit = true)
    (hcs : NoDigit cs) : (ds ++ cs).takeWhile Char.isDigit = ds := by
  rw [List.takeWhile_append_of_pos hds]
  cases cs with
  | nil => simp
  | cons c cs => simp [hcs c rfl]

/-- What follows a run is left when its digits are dropped. -/
theorem dropWhile_digits {ds cs : List Char} (hds : ∀ c ∈ ds, c.isDigit = true)
    (hcs : NoDigit cs) : (ds ++ cs).dropWhile Char.isDigit = cs := by
  rw [List.dropWhile_append_of_pos hds]
  cases cs with
  | nil => rfl
  | cons c cs => simp [hcs c rfl]

/-- **Exactly the runs of digits are read as numbers.** -/
theorem natural?_eq_some_iff {cs : List Char} {n : Nat} : natural? cs = some n ↔ Spells cs n := by
  rw [natural?]
  constructor
  · intro h
    split at h
    · cases h
    · rename_i hfull
      split at h
      · rename_i hdigits
        rw [List.isEmpty_iff] at hfull
        exact ⟨List.all_eq_true.1 hdigits, hfull, Option.some.inj h⟩
      · cases h
  · intro h
    rw [if_neg (by simpa using h.ne_nil), if_pos (List.all_eq_true.2 h.digits), h.value]

/-- A digit is no blank. -/
theorem isBlank_of_isDigit {c : Char} (h : c.isDigit = true) : isBlank c = false := by
  simp only [Char.isDigit, Bool.and_eq_true, decide_eq_true_eq, ge_iff_le,
    UInt32.le_iff_toNat_le] at h
  have hlow : 48 ≤ c.toNat := h.1
  have hhigh : c.toNat ≤ 57 := h.2
  simp only [isBlank, Bool.or_eq_false_iff, Bool.and_eq_false_iff, decide_eq_false_iff_not,
    beq_eq_false_iff_ne]
  omega

/-- Nothing is skipped in front of a character that is no blank. -/
theorem skipBlanks_cons {c : Char} (h : isBlank c = false) (cs : List Char) :
    skipBlanks (c :: cs) = c :: cs := by
  simp [skipBlanks, h]

/-- No blank is skipped in front of a run. -/
theorem Spells.skipBlanks {ds : List Char} {n : Nat} (h : Spells ds n) (cs : List Char) :
    Text.skipBlanks (ds ++ cs) = ds ++ cs := by
  cases ds with
  | nil => exact absurd rfl h.ne_nil
  | cons d ds => exact skipBlanks_cons (isBlank_of_isDigit (h.digits d List.mem_cons_self)) _

end GatewayDirectory.Text
