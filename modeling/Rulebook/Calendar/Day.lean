/-
This file counts the days of the Gregorian calendar, extended to all years.

Days are counted from the first of January 1970. A year is taken to begin in
March, so that the day that leap years add is the last one of its year; cycles
of 400, 100, 4 and 1 years then split a count of days into year and day of the
year by division alone.
-/

namespace Rulebook.Calendar

/-- A date of the Gregorian calendar, in any year. -/
structure Date where
  year : Int
  month : Nat
  day : Nat
deriving DecidableEq, Repr

/-- Whether a year has a leap day. -/
def isLeap (year : Int) : Bool :=
  year % 4 == 0 && (year % 100 != 0 || year % 400 == 0)

/-- How many days a month has. -/
def daysInMonth (year : Int) (month : Nat) : Nat :=
  if month = 2 then (if isLeap year then 29 else 28)
  else if month = 4 ∨ month = 6 ∨ month = 9 ∨ month = 11 then 30
  else 31

/-- Whether there is such a date. -/
def Date.IsValid (date : Date) : Prop :=
  1 ≤ date.month ∧ date.month ≤ 12 ∧ 1 ≤ date.day ∧ date.day ≤ daysInMonth date.year date.month

instance (date : Date) : Decidable date.IsValid := by
  unfold Date.IsValid
  infer_instance

/-- Days from the first of March of year zero to the first of January 1970. -/
def epochShift : Int := 719468

/-- The year that began in the last March, and how many months ago that was. -/
def marchMonth (date : Date) : Int × Nat :=
  if date.month ≤ 2 then (date.year - 1, date.month + 9) else (date.year, date.month - 3)

/-- The number of a date in days since the first of January 1970. -/
def Date.toDays (date : Date) : Int :=
  let (year, month) := marchMonth date
  365 * year + year / 4 - year / 100 + year / 400 + ((153 * month + 2) / 5 + date.day : Nat) - 1 -
    epochShift

/-- The date with a given number of days since the first of January 1970. -/
def Date.ofDays (days : Int) : Date :=
  let shifted := days + epochShift
  let cycle := shifted / 146097
  let ofCycle := (shifted % 146097).toNat
  let century := min (ofCycle / 36524) 3
  let ofCentury := ofCycle - century * 36524
  let quad := ofCentury / 1461
  let ofQuad := ofCentury % 1461
  let single := min (ofQuad / 365) 3
  let ofYear := ofQuad - single * 365
  let month := (5 * ofYear + 2) / 153
  let day := ofYear - (153 * month + 2) / 5 + 1
  let year := 400 * cycle + 100 * century + 4 * quad + single
  if month < 10 then ⟨year, month + 3, day⟩ else ⟨year + 1, month - 9, day⟩

end Rulebook.Calendar
