import GatewayDirectory.Text.Blank

/-!
# Instants

A point of time in UTC, counted in seconds from the start of 1970 with a fraction in nanoseconds. A
fraction of a second or more marks a leap second, which belongs to the second before it.
`Instant.text` writes the form of RFC 3339 with the fewest of 0, 3, 6 or 9 places, and
`Instant.read?` reads that form and its looser spellings with any offset.
-/

namespace GatewayDirectory

open Text

/-- A point of time in UTC. -/
structure Instant where
  /-- Whole seconds from the start of 1970. -/
  second : Int
  /-- Nanoseconds past the second; from `10 ^ 9` on, within a leap second. -/
  nano : Nat
deriving DecidableEq, Inhabited

namespace Instant

/-- Days from the start of 1970 to a date of the Gregorian calendar. -/
def daysOfDate (year : Int) (month day : Nat) : Int :=
  -- a year is counted from March, so that its leap day is the last
  let y := if month ≤ 2 then year - 1 else year
  let era := Int.fdiv y 400
  let yearOfEra := y - era * 400
  let shifted : Int := (month + 9) % 12
  let dayOfYear := (153 * shifted + 2) / 5 + day - 1
  let dayOfEra := yearOfEra * 365 + yearOfEra / 4 - yearOfEra / 100 + dayOfYear
  era * 146097 + dayOfEra - 719468

/-- The date of the Gregorian calendar that lies `days` after the start of 1970. -/
def dateOfDays (days : Int) : Int × Nat × Nat :=
  let z := days + 719468
  let era := Int.fdiv z 146097
  let dayOfEra := z - era * 146097
  -- leap days are taken back, and those that a century leaves out added again
  let yearOfEra := (dayOfEra - dayOfEra / 1460 + dayOfEra / 36524 - dayOfEra / 146096) / 365
  let dayOfYear := dayOfEra - (365 * yearOfEra + yearOfEra / 4 - yearOfEra / 100)
  let shifted := (5 * dayOfYear + 2) / 153
  let day := dayOfYear - (153 * shifted + 2) / 5 + 1
  let month := if shifted < 10 then shifted + 3 else shifted - 9
  let year := yearOfEra + era * 400 + (if month ≤ 2 then 1 else 0)
  (year, month.toNat, day.toNat)

/-- Whether the Gregorian calendar has a 29 February in that year. -/
def isLeapYear (year : Int) : Bool := year % 4 = 0 ∧ (year % 100 ≠ 0 ∨ year % 400 = 0)

/-- The number of days of a month. -/
def daysInMonth (year : Int) (month : Nat) : Nat :=
  if month = 2 then if isLeapYear year then 29 else 28
  else if month = 4 ∨ month = 6 ∨ month = 9 ∨ month = 11 then 30 else 31

/-- The instant `nanos` nanoseconds later. -/
def later (t : Instant) (nanos : Nat) : Instant :=
  let total := t.nano + nanos
  ⟨t.second + total / 1000000000, total % 1000000000⟩

/-- Nanoseconds from the start of 1970. -/
def nanos (t : Instant) : Int := t.second * 1000000000 + t.nano

/-- A later instant is that many nanoseconds further on: what is over a second is carried. -/
theorem nanos_later (t : Instant) (nanos : Nat) : (t.later nanos).nanos = t.nanos + nanos := by
  simp only [later, Instant.nanos]
  omega

/-- Four digits, or a sign and at least four outside 0 to 9999. -/
def yearText (year : Int) : String :=
  if 0 ≤ year ∧ year ≤ 9999 then zeroPadded 4 year.toNat
  else if 0 ≤ year then "+" ++ zeroPadded 4 year.toNat
  else "-" ++ zeroPadded 4 (-year).toNat

/-- A point and the fewest of 3, 6 or 9 places, nothing for a whole second. -/
def fractionText (nano : Nat) : String :=
  if nano = 0 then ""
  else if nano % 1000000 = 0 then "." ++ zeroPadded 3 (nano / 1000000)
  else if nano % 1000 = 0 then "." ++ zeroPadded 6 (nano / 1000)
  else "." ++ zeroPadded 9 nano

/-- The RFC 3339 form in UTC. -/
def text (t : Instant) : String :=
  let day := Int.fdiv t.second 86400
  let inDay := (t.second - day * 86400).toNat
  let (year, month, dayOfMonth) := dateOfDays day
  let second := inDay % 60 + t.nano / 1000000000
  yearText year ++ "-" ++ zeroPadded 2 month ++ "-" ++ zeroPadded 2 dayOfMonth ++ "T" ++
    zeroPadded 2 (inDay / 3600) ++ ":" ++ zeroPadded 2 (inDay / 60 % 60) ++ ":" ++
    zeroPadded 2 second ++ fractionText (t.nano % 1000000000) ++ "Z"

/-- One to `width` leading digits as a number, and what follows them. -/
def takeNumber? (width : Nat) (cs : List Char) : Option (Nat × List Char) :=
  let digits := (cs.takeWhile Char.isDigit).take width
  if digits.isEmpty then none else some (digitsValue digits, cs.drop digits.length)

/-- The rest after blanks and the character `c`. -/
def expect? (c : Char) (cs : List Char) : Option (List Char) :=
  match skipBlanks cs with
  | x :: rest => if x = c then some rest else none
  | [] => none

/-- A year of up to four digits, or of any number of digits after a sign. -/
def takeYear? (cs : List Char) : Option (Int × List Char) :=
  match skipBlanks cs with
  | '-' :: rest => (takeNumber? rest.length rest).map fun (n, r) => (-(n : Int), r)
  | '+' :: rest => (takeNumber? rest.length rest).map fun (n, r) => ((n : Int), r)
  | cs => (takeNumber? 4 cs).map fun (n, r) => ((n : Int), r)

/-- Two digits at most after blanks. -/
def takePair? (cs : List Char) : Option (Nat × List Char) := takeNumber? 2 (skipBlanks cs)

/-- The rest after the character between a date and a time of day. -/
def takeSeparator? : List Char → Option (List Char)
  | 'T' :: rest | 't' :: rest | ' ' :: rest => some rest
  | _ => none

/-- A fraction after a point, cut to nanoseconds; no point is no fraction. -/
def takeFraction? : List Char → Option (Nat × List Char)
  | '.' :: rest =>
    let digits := rest.takeWhile Char.isDigit
    if digits.isEmpty then none
    else
      let kept := digits.take 9
      some (digitsValue kept * Nat.pow 10 (9 - kept.length), rest.drop digits.length)
  | cs => some (0, cs)

/-- An offset from UTC in seconds: `Z`, `UTC`, or a sign, two digits of hours and two of minutes. -/
def takeOffset? (cs : List Char) : Option (Int × List Char) :=
  match cs with
  | 'Z' :: rest | 'z' :: rest => some (0, rest)
  | u :: t :: c :: rest =>
    if u.toLower = 'u' ∧ t.toLower = 't' ∧ c.toLower = 'c' then some (0, rest)
    else
      let sign? : Option Int :=
        if u = '+' then some 1 else if u = '-' ∨ u = '\u2212' then some (-1) else none
      match sign?, digitValue? t, digitValue? c, rest.dropWhile (fun x => x = ':' ∨ isBlank x) with
      | some sign, some h₁, some h₂, m₁ :: m₂ :: rest =>
        match digitValue? m₁, digitValue? m₂ with
        | some m₁, some m₂ =>
          if m₁ ≤ 5 ∧ h₁ * 10 + h₂ ≤ 23 then
            some (sign * ((h₁ * 10 + h₂) * 3600 + (m₁ * 10 + m₂) * 60 : Nat), rest)
          else none
        | _, _ => none
      | _, _, _, _ => none
  | _ => none

/-- Whether the calendar has a year. -/
def isYear (year : Int) : Bool := -262143 ≤ year ∧ year ≤ 262142

/-- The instant that a date and a time of day with an offset name, second 60 being a leap second.
Both the date as it stands and the one in UTC must lie in a year of the calendar. -/
def ofParts? (year : Int) (month day hour minute second nano : Nat) (offset : Int) :
    Option Instant :=
  if isYear year ∧ 1 ≤ month ∧ month ≤ 12 ∧
      1 ≤ day ∧ day ≤ daysInMonth year month ∧ hour ≤ 23 ∧ minute ≤ 59 ∧ second ≤ 60 then
    -- a leap second belongs to the second before it
    let (second, nano) := if second = 60 then (59, nano + 1000000000) else (second, nano)
    let inUtc := daysOfDate year month day * 86400 + hour * 3600 + minute * 60 + second - offset
    if isYear (dateOfDays (Int.fdiv inUtc 86400)).1 then some ⟨inUtc, nano⟩ else none
  else none

/-- Reads a date, a separator, a time of day and an offset; blanks may stand around the parts. -/
def read? (s : String) : Option Instant := do
  let (year, cs) ← takeYear? s.toList
  let cs ← expect? '-' cs
  let (month, cs) ← takePair? cs
  let cs ← expect? '-' cs
  let (day, cs) ← takePair? cs
  let cs ← takeSeparator? cs
  let (hour, cs) ← takePair? cs
  let cs ← expect? ':' cs
  let (minute, cs) ← takePair? cs
  let cs ← expect? ':' cs
  let (second, cs) ← takePair? cs
  let (nano, cs) ← takeFraction? cs
  let (offset, cs) ← takeOffset? (skipBlanks cs)
  if (skipBlanks cs).isEmpty then ofParts? year month day hour minute second nano offset else none

end Instant

end GatewayDirectory
