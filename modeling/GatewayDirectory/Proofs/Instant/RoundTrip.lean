import GatewayDirectory.Proofs.Instant.Calendar
import GatewayDirectory.Proofs.Text.Digits

/-!
# Instants as text

An instant that a calendar can date is read back from its text (`read?_text`), to the nanosecond and
with its leap second. Each part of the text is read by the step that comes to it, because digits
are followed by something that is none. No text names an instant that a calendar cannot date
(`datable_of_read?`): a fraction has nine places at most, an offset is one of whole minutes, and a
year of the calendar is asked for in UTC.
-/

namespace GatewayDirectory.Instant

open Text

/-- The instants that the calendar of the registry can hold: years of at most six digits, and a leap
second only at the end of a minute. -/
structure Datable (t : Instant) : Prop where
  nano_lt : t.nano < 2000000000
  leap : 1000000000 ≤ t.nano → t.second % 60 = 59
  year_range : -262143 ≤ (dateOfDays (Int.fdiv t.second 86400)).1 ∧
    (dateOfDays (Int.fdiv t.second 86400)).1 ≤ 262142

/-- The years of the calendar are those from -262143 to 262142. -/
theorem isYear_iff {year : Int} : isYear year = true ↔ -262143 ≤ year ∧ year ≤ 262142 := by
  simp [isYear]

/-! ## Steps of the reader -/

section Steps

variable {ds cs : List Char} {n : Nat}

/-- A run that fits the width is read as its number, up to what follows it. -/
theorem takeNumber?_spells {width : Nat} (hds : Spells ds n) (hwidth : ds.length ≤ width)
    (hcs : NoDigit cs) : takeNumber? width (ds ++ cs) = some (n, cs) := by
  have hne : ds.isEmpty = false := List.isEmpty_eq_false_iff.2 hds.ne_nil
  simp [takeNumber?, takeWhile_digits hds.digits hcs, List.take_of_length_le hwidth, hne, hds.value]

/-- A number below a hundred, padded to two digits, is read back. -/
theorem takePair?_zeroPadded (hn : n < 100) (hcs : NoDigit cs) :
    takePair? ((zeroPadded 2 n).toList ++ cs) = some (n, cs) := by
  have hds := spells_zeroPadded 2 n
  rw [takePair?, hds.skipBlanks]
  exact takeNumber?_spells hds (Nat.le_of_eq (length_zeroPadded 2 n (by decide) hn)) hcs

/-- A character that is expected, and no blank, is passed. -/
theorem expect?_cons {c : Char} (hc : isBlank c = false) (cs : List Char) :
    expect? c (c :: cs) = some cs := by
  simp [expect?, skipBlanks_cons hc]

/-- The letter between a date and a time of day is passed. -/
@[simp] theorem takeSeparator?_t (cs : List Char) : takeSeparator? ('T' :: cs) = some cs := rfl

/-- A year without a sign starts with a digit. -/
theorem takeYear?_digits (hds : Spells ds n) (hlength : ds.length ≤ 4) (hcs : NoDigit cs) :
    takeYear? (ds ++ cs) = some ((n : Int), cs) := by
  have htake := takeNumber?_spells hds hlength hcs
  have hskip := hds.skipBlanks cs
  cases ds with
  | nil => exact absurd rfl hds.ne_nil
  | cons d ds =>
    have hdigit : d.isDigit = true := hds.digits d List.mem_cons_self
    unfold takeYear?
    rw [hskip, List.cons_append] at *
    -- the first two cases are those of a sign
    split
    · rename_i heq
      cases heq
      exact absurd hdigit (by decide)
    · rename_i heq
      cases heq
      exact absurd hdigit (by decide)
    · rw [htake]
      rfl

/-- A year behind a sign takes every digit. -/
theorem takeNumber?_all (hds : Spells ds n) (hcs : NoDigit cs) :
    takeNumber? (ds ++ cs).length (ds ++ cs) = some (n, cs) :=
  takeNumber?_spells hds (by simp) hcs

/-- **A year is read back**, with a sign or without. -/
theorem takeYear?_yearText (year : Int) (hcs : NoDigit cs) :
    takeYear? ((yearText year).toList ++ cs) = some (year, cs) := by
  unfold yearText
  split
  · rename_i h
    have hlength := length_zeroPadded 4 year.toNat (by decide)
      (show year.toNat < 10000 by omega)
    rw [takeYear?_digits (spells_zeroPadded 4 year.toNat) (Nat.le_of_eq hlength) hcs,
      Int.toNat_of_nonneg h.1]
  · split
    · rename_i h
      have htake := takeNumber?_all (spells_zeroPadded 4 year.toNat) hcs
      have hskip := skipBlanks_cons (c := '+') rfl ((zeroPadded 4 year.toNat).toList ++ cs)
      rw [String.toList_append, List.append_assoc, takeYear?, show "+".toList = ['+'] from rfl,
        List.singleton_append, hskip]
      simp only [htake, Option.map_some, Int.toNat_of_nonneg h]
    · rename_i h
      have htake := takeNumber?_all (spells_zeroPadded 4 (-year).toNat) hcs
      have hskip := skipBlanks_cons (c := '-') rfl ((zeroPadded 4 (-year).toNat).toList ++ cs)
      rw [String.toList_append, List.append_assoc, takeYear?, show "-".toList = ['-'] from rfl,
        List.singleton_append, hskip]
      simp only [htake, Option.map_some, Int.toNat_of_nonneg (show 0 ≤ -year by omega), Int.neg_neg]

/-- Up to nine digits behind a point count nanoseconds from the left. -/
theorem takeFraction?_point (width n : Nat) (hwidth : 0 < width) (hwidth' : width ≤ 9)
    (hn : n < Nat.pow 10 width) (hcs : NoDigit cs) :
    takeFraction? (("." ++ zeroPadded width n).toList ++ cs) =
      some (n * Nat.pow 10 (9 - width), cs) := by
  rw [String.toList_append, List.append_assoc, show ".".toList = ['.'] from rfl,
    List.singleton_append]
  have hds := spells_zeroPadded width n
  have hlength := length_zeroPadded width n hwidth hn
  have hne : (zeroPadded width n).toList.isEmpty = false :=
    List.isEmpty_eq_false_iff.2 hds.ne_nil
  simp only [takeFraction?, takeWhile_digits hds.digits hcs, hne, Bool.false_eq_true, if_false]
  rw [List.take_of_length_le (by omega), hds.value, List.drop_left, hlength]

/-- **A fraction is read back.** -/
theorem takeFraction?_fractionText {nano : Nat} (h : nano < 1000000000) :
    takeFraction? ((fractionText nano).toList ++ 'Z' :: cs) = some (nano, 'Z' :: cs) := by
  have hz : NoDigit ('Z' :: cs) := noDigit_cons rfl cs
  unfold fractionText
  split
  · rename_i hzero
    rw [hzero]
    rfl
  · split
    · -- the fraction is written with the fewest of three, six or nine places that hold it
      rw [takeFraction?_point 3 (nano / 1000000) (by decide) (by decide)
        (show nano / 1000000 < 1000 by omega) hz]
      simp only [Nat.pow_eq, Nat.reduceSub, Nat.reducePow, Option.some.injEq, Prod.mk.injEq,
        and_true]
      omega
    · split
      · rw [takeFraction?_point 6 (nano / 1000) (by decide) (by decide)
          (show nano / 1000 < 1000000 by omega) hz]
        simp only [Nat.pow_eq, Nat.reduceSub, Nat.reducePow, Option.some.injEq, Prod.mk.injEq,
          and_true]
        omega
      · rw [takeFraction?_point 9 nano (by decide) (by decide) h hz]
        simp

/-- The offset of a text in UTC. -/
theorem takeOffset?_utc (cs : List Char) :
    takeOffset? (skipBlanks ('Z' :: cs)) = some (0, cs) := by
  rw [skipBlanks_cons rfl]
  rfl

end Steps

/-! ## The round trip -/

/-- The parts that a text spells out are read back one by one. -/
theorem read?_parts {year : Int} {month day hour minute second nano : Nat} (hmonth : month < 100)
    (hday : day < 100) (hhour : hour < 100) (hminute : minute < 100) (hsecond : second < 100)
    (hnano : nano < 1000000000) :
    read? (yearText year ++ "-" ++ zeroPadded 2 month ++ "-" ++ zeroPadded 2 day ++ "T" ++
        zeroPadded 2 hour ++ ":" ++ zeroPadded 2 minute ++ ":" ++ zeroPadded 2 second ++
        fractionText nano ++ "Z") =
      ofParts? year month day hour minute second nano 0 := by
  -- seconds are followed by a point or by the letter at the end
  have hpoint (places : String) : NoDigit (("." ++ places).toList ++ ['Z']) := by
    rw [String.toList_append, List.append_assoc]
    exact noDigit_cons (c := '.') rfl _
  have hfraction : NoDigit ((fractionText nano).toList ++ ['Z']) := by
    unfold fractionText
    split
    · exact noDigit_cons (c := 'Z') rfl _
    · split
      · exact hpoint _
      · split
        · exact hpoint _
        · exact hpoint _
  simp only [read?, String.toList_append, List.append_assoc,
    show "-".toList = ['-'] from rfl, show "T".toList = ['T'] from rfl,
    show ":".toList = [':'] from rfl, show "Z".toList = ['Z'] from rfl, List.cons_append,
    List.nil_append]
  simp only [takeYear?_yearText year (noDigit_cons (c := '-') rfl _),
    expect?_cons (c := '-') rfl, expect?_cons (c := ':') rfl,
    takePair?_zeroPadded hmonth (noDigit_cons (c := '-') rfl _),
    takePair?_zeroPadded hday (noDigit_cons (c := 'T') rfl _), takeSeparator?_t,
    takePair?_zeroPadded hhour (noDigit_cons (c := ':') rfl _),
    takePair?_zeroPadded hminute (noDigit_cons (c := ':') rfl _),
    takePair?_zeroPadded hsecond hfraction,
    takeFraction?_fractionText hnano, takeOffset?_utc, Option.bind_eq_bind, Option.bind_some]
  rfl

/-- **An instant is read back from its text.** -/
theorem read?_text {t : Instant} (h : t.Datable) : read? t.text = some t := by
  obtain ⟨second, nano⟩ := t
  obtain ⟨hnano, hleap, hyear⟩ := h
  unfold text
  simp only at hnano hleap hyear ⊢
  rw [Int.fdiv_eq_ediv_of_nonneg _ (by decide)] at hyear
  rw [Int.fdiv_eq_ediv_of_nonneg _ (by decide)]
  -- of the date only what `dateOfDays_spec` says of it is used
  generalize hdate : dateOfDays (second / 86400) = date at *
  obtain ⟨year, month, day⟩ := date
  simp only at hyear ⊢
  obtain ⟨hvalid, hdays⟩ := dateOfDays_spec hdate
  have hmonth := hvalid.month_range
  have hday := hvalid.day_range
  have hlength : daysInMonth year month ≤ 31 := by
    unfold daysInMonth
    split
    · split <;> omega
    · split <;> omega
  generalize hinDay : (second - second / 86400 * 86400).toNat = inDay
  rw [read?_parts (by omega) (by omega) (by omega) (by omega) (by omega) (by omega)]
  have hparts : isYear year ∧ 1 ≤ month ∧ month ≤ 12 ∧ 1 ≤ day ∧ day ≤ daysInMonth year month ∧
      inDay / 3600 ≤ 23 ∧ inDay / 60 % 60 ≤ 59 ∧ inDay % 60 + nano / 1000000000 ≤ 60 := by
    rw [isYear_iff]
    omega
  rw [ofParts?, if_pos hparts, hdays]
  -- the parts add up to the second that the text was written for
  have hutc (second' : Nat) (h : second' = inDay % 60) :
      second / 86400 * 86400 + (inDay / 3600 : Nat) * 3600 + (inDay / 60 % 60 : Nat) * 60 +
        (second' : Nat) - 0 = second := by
    omega
  have hdated : isYear (dateOfDays (Int.fdiv second 86400)).1 := by
    rw [Int.fdiv_eq_ediv_of_nonneg _ (by decide), hdate, isYear_iff]
    exact hyear
  by_cases hle : 1000000000 ≤ nano
  · -- a leap second is written as second 60 and read back as such
    have hsecond : inDay % 60 + nano / 1000000000 = 60 := by
      have := hleap hle
      omega
    have hnano' : nano % 1000000000 + 1000000000 = nano := by omega
    simp only [hsecond, if_true, hutc 59 (by omega), hdated, hnano']
  · have hsecond : inDay % 60 + nano / 1000000000 = inDay % 60 := by omega
    have hnano' : nano % 1000000000 = nano := by omega
    simp only [hsecond, show inDay % 60 ≠ 60 by omega, if_false, if_true, hutc (inDay % 60) rfl,
      hdated, hnano']

/-! ## What is read -/

section Reading

variable {cs rest : List Char}

/-- A fraction is less than a second. -/
theorem nano_lt_of_takeFraction? {n : Nat} (h : takeFraction? cs = some (n, rest)) :
    n < 1000000000 := by
  unfold takeFraction? at h
  split at h
  · rename_i places
    dsimp only at h
    generalize hkept : (places.takeWhile Char.isDigit).take 9 = kept at h
    have hdigits : ∀ c ∈ kept, c.isDigit = true := by
      intro c hc
      rw [← hkept] at hc
      exact List.all_eq_true.1 List.all_takeWhile c (List.mem_of_mem_take hc)
    have hlength : kept.length ≤ 9 := by
      rw [← hkept]
      exact List.length_take_le _ _
    split at h
    · cases h
    · obtain ⟨rfl, -⟩ := Prod.mk.inj (Option.some.inj h)
      -- the places that are missing stand for zeros
      calc digitsValue kept * Nat.pow 10 (9 - kept.length)
        _ < Nat.pow 10 kept.length * Nat.pow 10 (9 - kept.length) :=
          Nat.mul_lt_mul_of_pos_right (digitsValue_lt hdigits) (Nat.pow_pos (by decide))
        _ = 1000000000 := by
          rw [Nat.pow_eq, Nat.pow_eq, ← Nat.pow_add, Nat.add_sub_cancel' hlength]
  · obtain ⟨rfl, -⟩ := Prod.mk.inj (Option.some.inj h)
    decide

/-- Hours and minutes, before or after, are whole minutes. -/
theorem minutes_emod (sign : Int) (hours minutes : Nat) :
    sign * (hours * 3600 + minutes * 60 : Nat) % 60 = 0 := by
  rw [show hours * 3600 + minutes * 60 = 60 * (hours * 60 + minutes) by omega, Int.natCast_mul,
    Int.mul_left_comm]
  exact Int.mul_emod_right _ _

/-- An offset is one of whole minutes. -/
theorem minutes_of_takeOffset? {offset : Int} (h : takeOffset? cs = some (offset, rest)) :
    offset % 60 = 0 := by
  unfold takeOffset? at h
  split at h
  · cases h
    rfl
  · cases h
    rfl
  · split at h
    · cases h
      rfl
    · rename_i u _ _ _ _ _ _
      -- the sign does not matter
      dsimp only at h
      generalize (if u = '+' then some (1 : Int) else if u = '-' ∨ u = '\u2212' then some (-1)
        else none) = sign? at h
      split at h
      · split at h
        · obtain ⟨-, h⟩ := Option.ite_none_right_eq_some.1 h
          obtain ⟨rfl, -⟩ := Prod.mk.inj (Option.some.inj h)
          exact minutes_emod _ _ _
        · cases h
      · cases h
  · cases h

/-- Parts that make an instant make one that a calendar can date. -/
theorem datable_of_ofParts? {year offset : Int} {month day hour minute second nano : Nat}
    {t : Instant} (hnano : nano < 1000000000) (hoffset : offset % 60 = 0)
    (h : ofParts? year month day hour minute second nano offset = some t) : t.Datable := by
  rw [ofParts?] at h
  split at h
  · by_cases hsecond : second = 60
    · -- a leap second is kept as a nanosecond beyond those of second 59
      simp only [hsecond, if_true, Option.ite_none_right_eq_some, Option.some.injEq] at h
      obtain ⟨hyear, rfl⟩ := h
      exact ⟨show nano + 1000000000 < 2000000000 by omega,
        fun _ => by simp only; omega, isYear_iff.1 hyear⟩
    · simp only [hsecond, if_false, Option.ite_none_right_eq_some, Option.some.injEq] at h
      obtain ⟨hyear, rfl⟩ := h
      exact ⟨Nat.lt_trans hnano (by decide), fun hge => absurd hnano (Nat.not_lt.2 hge),
        isYear_iff.1 hyear⟩
  · cases h

/-- **What is read can be dated by a calendar.** -/
theorem datable_of_read? {s : String} {t : Instant} (h : read? s = some t) : t.Datable := by
  simp only [read?, Option.bind_eq_bind, Option.bind_eq_some_iff, Prod.exists] at h
  obtain ⟨year, _, -, _, -, month, _, -, _, -, day, _, -, _, -, hour, _, -, _, -, minute, _, -,
    _, -, second, _, -, nano, _, hnano, offset, rest, hoffset, h⟩ := h
  split at h
  · exact datable_of_ofParts? (nano_lt_of_takeFraction? hnano) (minutes_of_takeOffset? hoffset) h
  · cases h

end Reading

end GatewayDirectory.Instant
