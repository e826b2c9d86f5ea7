import GatewayDirectory.Instant

/-!
# Days and dates

`dateOfDays` and `daysOfDate` are inverse on dates of the calendar. An era is 400 years, or 146097
days. A day of an era lies in one of its centuries, in one of the four-year spans of that century,
in one of the years of that span, and there on a day counted from 1 March; `Era` holds these four
counts, and both directions are arithmetic on them.
-/

namespace GatewayDirectory.Instant

/-- The parts of a day of an era: its century, its span of four years there, its year there, and the
day of that year. Only a year whose February has 29 days has a day 365. -/
structure Era (dayOfEra : Int) where
  century : Int
  span : Int
  year : Int
  day : Int
  sum : dayOfEra = 36524 * century + 1461 * span + 365 * year + day
  century_range : 0 ≤ century ∧ century ≤ 3
  span_range : 0 ≤ span ∧ span ≤ 24
  year_range : 0 ≤ year ∧ year ≤ 3
  day_range : 0 ≤ day ∧ day ≤ 365
  leap : day = 365 → year = 3 ∧ (span = 24 → century = 3)

namespace Era

variable {dayOfEra : Int}

/-- Every day of an era has its parts. -/
theorem exists_of_range (dayOfEra : Int) (h : 0 ≤ dayOfEra ∧ dayOfEra ≤ 146096) :
    Nonempty (Era dayOfEra) := by
  -- the quotients are cut to 3, as the last day of a leap year would start a fourth part
  let c := min (dayOfEra / 36524) 3
  let q := (dayOfEra - 36524 * c) / 1461
  let k := min ((dayOfEra - 36524 * c - 1461 * q) / 365) 3
  have hc : c = min (dayOfEra / 36524) 3 := rfl
  have hq : q = (dayOfEra - 36524 * c) / 1461 := rfl
  have hk : k = min ((dayOfEra - 36524 * c - 1461 * q) / 365) 3 := rfl
  have hc_range : 0 ≤ c ∧ c ≤ 3 := by omega
  have hq_range : 0 ≤ q ∧ q ≤ 24 := by omega
  have hk_range : 0 ≤ k ∧ k ≤ 3 := by omega
  -- from here on the quotients are bounded numbers
  clear_value c q k
  exact ⟨c, q, k, dayOfEra - 36524 * c - 1461 * q - 365 * k, by omega, hc_range, hq_range,
    hk_range, by omega, by omega⟩

/-- The year of the era. -/
def yearOfEra (e : Era dayOfEra) : Int := 100 * e.century + 4 * e.span + e.year

/-- An era has the years 0 to 399. -/
theorem yearOfEra_range (e : Era dayOfEra) : 0 ≤ e.yearOfEra ∧ e.yearOfEra ≤ 399 := by
  have := e.century_range
  have := e.span_range
  have := e.year_range
  unfold yearOfEra
  omega

/-- The centuries before a day: the last has one day more, which the second division takes back. -/
theorem century_eq (e : Era dayOfEra) : dayOfEra / 36524 - dayOfEra / 146096 = e.century := by
  obtain ⟨c, q, k, d, hsum, hc, hq, hk, hd, hleap⟩ := e
  simp only
  -- each century by itself, so that the division is of a sum with a known first part
  obtain rfl | rfl | rfl | rfl : c = 0 ∨ c = 1 ∨ c = 2 ∨ c = 3 := by omega
  all_goals omega

/-- What a division by 1460 counts beyond the spans before a day: one near the end of a span. -/
def surplus (e : Era dayOfEra) : Int := (24 * e.century + e.span + 365 * e.year + e.day) / 1460

/-- A division of the day by 1460 counts the spans of all centuries before it, up to the surplus. -/
theorem span_eq (e : Era dayOfEra) : dayOfEra / 1460 = 25 * e.century + e.span + e.surplus := by
  have := e.sum
  unfold surplus
  omega

/-- The surplus is taken from the days of the year without leaving the year. -/
theorem surplus_range (e : Era dayOfEra) : e.surplus ≤ e.day ∧ e.day - e.surplus < 365 := by
  obtain ⟨c, q, k, d, hsum, hc, hq, hk, hd, hleap⟩ := e
  unfold surplus
  simp only
  -- what the day is does not matter, only where its parts lie
  clear hsum
  omega

/-- The estimate of the year from the day alone is right. -/
theorem yearOfEra_eq (e : Era dayOfEra) :
    (dayOfEra - dayOfEra / 1460 + dayOfEra / 36524 - dayOfEra / 146096) / 365 = e.yearOfEra := by
  have hrange := e.surplus_range
  have hparts : dayOfEra - dayOfEra / 1460 + (dayOfEra / 36524 - dayOfEra / 146096) =
      365 * e.yearOfEra + (e.day - e.surplus) := by
    rw [e.span_eq, e.century_eq, yearOfEra]
    have := e.sum
    omega
  rw [Int.add_sub_assoc, hparts]
  omega

/-- The days before a year of the era. -/
theorem daysBefore_eq (e : Era dayOfEra) :
    365 * e.yearOfEra + e.yearOfEra / 4 - e.yearOfEra / 100 = dayOfEra - e.day := by
  obtain ⟨c, q, k, d, hsum, hc, hq, hk, hd, hleap⟩ := e
  simp only [yearOfEra]
  omega

end Era

/-! ## Dates -/

/-- A date of the Gregorian calendar. -/
structure IsDate (year : Int) (month day : Nat) : Prop where
  month_range : 1 ≤ month ∧ month ≤ 12
  day_range : 1 ≤ day ∧ day ≤ daysInMonth year month

/-- The number of days of the month that is `shifted` months after March, in a year whose February
at the end has 29 days. -/
theorem daysInMonth_of_shifted (year : Int) {shifted dayOfYear : Int} {month : Nat}
    (hdays : 0 ≤ dayOfYear ∧ dayOfYear ≤ 365) (hshifted : shifted = (5 * dayOfYear + 2) / 153)
    (hmonth : month = (if shifted < 10 then shifted + 3 else shifted - 9).toNat)
    (hleap : dayOfYear = 365 → isLeapYear year = true) :
    dayOfYear - (153 * shifted + 2) / 5 + 1 ≤ daysInMonth year month := by
  have hrange : shifted = 0 ∨ shifted = 1 ∨ shifted = 2 ∨ shifted = 3 ∨ shifted = 4 ∨ shifted = 5 ∨
      shifted = 6 ∨ shifted = 7 ∨ shifted = 8 ∨ shifted = 9 ∨ shifted = 10 ∨ shifted = 11 := by
    omega
  obtain rfl | rfl | rfl | rfl | rfl | rfl | rfl | rfl | rfl | rfl | rfl | rfl := hrange
  case inr.inr.inr.inr.inr.inr.inr.inr.inr.inr.inr =>
    -- the month is February
    have hmonth : month = 2 := hmonth
    by_cases hlast : dayOfYear = 365
    · simp [daysInMonth, hmonth, hleap hlast, hlast]
    · have hle : 28 ≤ daysInMonth year 2 := by
        unfold daysInMonth
        split <;> split <;> omega
      rw [hmonth]
      omega
  all_goals
    subst hmonth
    simp [daysInMonth]
    omega

/-- **The date of a day is a date, and its days are that day.** -/
theorem dateOfDays_spec {days year : Int} {month day : Nat}
    (h : dateOfDays days = (year, month, day)) :
    IsDate year month day ∧ daysOfDate year month day = days := by
  simp only [dateOfDays, Prod.mk.injEq] at h
  rw [Int.fdiv_eq_ediv_of_nonneg _ (by decide)] at h
  generalize hera : (days + 719468) / 146097 = era at h
  generalize hday : days + 719468 - era * 146097 = dayOfEra at h
  -- both directions are told in the parts of the day
  obtain ⟨e⟩ := Era.exists_of_range dayOfEra (by omega)
  have hbefore := e.daysBefore_eq
  have hrange := e.yearOfEra_range
  have hdays := e.day_range
  rw [e.yearOfEra_eq, hbefore, Int.sub_sub_self] at h
  generalize hshifted : (5 * e.day + 2) / 153 = shifted at h
  obtain ⟨hyear, hmonth, hdayOfMonth⟩ := h
  -- a month is counted from March, and the year with it
  have hmonth_eq : (if shifted < 10 then shifted + 3 else shifted - 9) = (month : Int) := by
    split at hmonth <;> split <;> omega
  rw [hmonth_eq] at hyear
  have hfirst : 1 ≤ e.day - (153 * shifted + 2) / 5 + 1 := by omega
  have hleap : e.day = 365 → isLeapYear year = true := by
    -- the last day of such a year is 29 February, so the year has changed
    intro hlast
    have hparts := e.leap hlast
    have hspan := e.span_range
    have hmonth_two : month = 2 := by omega
    simp only [Era.yearOfEra, hmonth_two] at hyear
    simp only [isLeapYear, decide_eq_true_eq]
    omega
  have hbound := daysInMonth_of_shifted year hdays hshifted.symm hmonth.symm hleap
  refine ⟨⟨by omega, by omega⟩, ?_⟩
  have hstart : (if month ≤ 2 then year - 1 else year) = e.yearOfEra + era * 400 := by
    split <;> omega
  have hquot : (e.yearOfEra + era * 400) / 400 = era := by omega
  have hmod : ((month : Int) + 9) % 12 = shifted := by omega
  simp only [daysOfDate]
  rw [Int.fdiv_eq_ediv_of_nonneg _ (by decide), hstart, hquot, hmod, Int.add_sub_cancel]
  omega

end GatewayDirectory.Instant
