/-
This file proves that counting days and dating them fit together: the date with a
number of days is a date of the calendar, and it has this number; and the date with
the number of a date of the calendar is this date.

A count of days is split into cycles of 400, 100, 4 and 1 years and a day of the
year, the year being taken from March. What is needed of the split is gathered in
one statement, `exists_ofDays_eq`; month and day of the month come from the day of
the year alone. No two dates of the calendar have one number, since each is a day of
a year from March and every such day comes before the days of later years.
-/
import Rulebook.Calendar.Day
import Mathlib.Tactic.IntervalCases

namespace Rulebook.Calendar

theorem isLeap_iff (year : Int) :
    isLeap year = true ↔ year % 4 = 0 ∧ (year % 100 ≠ 0 ∨ year % 400 = 0) := by
  unfold isLeap
  simp only [Bool.and_eq_true, Bool.or_eq_true, beq_iff_eq, bne_iff_ne]

/-- The date of a day of a year from March, the first of March being day zero. -/
def Date.ofMarch (year : Int) (dayOfYear : Nat) : Date :=
  let month := (5 * dayOfYear + 2) / 153
  let day := dayOfYear - (153 * month + 2) / 5 + 1
  if month < 10 then ⟨year, month + 3, day⟩ else ⟨year + 1, month - 9, day⟩

/-- A day in cycles of years: the year from March and the day in it, where the last day is there
in leap years only. -/
theorem Date.exists_ofDays_eq (days : Int) :
    ∃ (cycle : Int) (century quad single dayOfYear : Nat),
      century ≤ 3 ∧ quad ≤ 24 ∧ single ≤ 3 ∧ dayOfYear ≤ 365 ∧
        (dayOfYear = 365 → single = 3 ∧ (quad = 24 → century = 3)) ∧
        days + epochShift =
          146097 * cycle + (36524 * century + 1461 * quad + 365 * single + dayOfYear : Nat) ∧
        ofDays days = ofMarch (400 * cycle + 100 * century + 4 * quad + single) dayOfYear := by
  have split : days + epochShift = 146097 * ((days + epochShift) / 146097) +
      ((days + epochShift) % 146097).toNat := by
    rw [Int.toNat_of_nonneg (Int.emod_nonneg _ (by decide))]
    exact (Int.mul_ediv_add_emod (days + epochShift) 146097).symm
  have ofCycle_lt : ((days + epochShift) % 146097).toNat < 146097 := by omega
  refine ⟨(days + epochShift) / 146097, _, _, _, _, ?_, ?_, ?_, ?_, ?_, ?_, rfl⟩
  all_goals generalize ((days + epochShift) % 146097).toNat = ofCycle at *
  · omega
  · omega
  · omega
  · omega
  · omega
  · omega

/-- The number of a day of a year from March. -/
theorem Date.toDays_ofMarch (year : Int) {dayOfYear : Nat} (small : dayOfYear ≤ 365) :
    (ofMarch year dayOfYear).toDays =
      365 * year + year / 4 - year / 100 + year / 400 + dayOfYear - epochShift := by
  have monthSmall : (5 * dayOfYear + 2) / 153 ≤ 11 := by omega
  have reached : (153 * ((5 * dayOfYear + 2) / 153) + 2) / 5 ≤ dayOfYear := by omega
  unfold ofMarch
  generalize (5 * dayOfYear + 2) / 153 = month at monthSmall reached ⊢
  dsimp only
  split
  · next early =>
    have march : marchMonth ⟨year, month + 3, dayOfYear - (153 * month + 2) / 5 + 1⟩ =
        (year, month) := by
      unfold marchMonth
      rw [if_neg (by dsimp only; omega)]
      rfl
    unfold toDays
    rw [march]
    dsimp only
    omega
  · next late =>
    have march : marchMonth ⟨year + 1, month - 9, dayOfYear - (153 * month + 2) / 5 + 1⟩ =
        (year, month) := by
      unfold marchMonth
      rw [if_pos (by dsimp only; omega)]
      refine Prod.ext ?_ ?_
      · exact Int.add_sub_cancel year 1
      · dsimp only
        omega
    unfold toDays
    rw [march]
    dsimp only
    omega

/-- A day of a year from March has a date of the calendar. -/
theorem Date.isValid_ofMarch (year : Int) {dayOfYear : Nat}
    (small : dayOfYear ≤ 364 ∨ dayOfYear = 365 ∧ isLeap (year + 1) = true) :
    (ofMarch year dayOfYear).IsValid := by
  have monthSmall : (5 * dayOfYear + 2) / 153 ≤ 11 := by omega
  have reached : (153 * ((5 * dayOfYear + 2) / 153) + 2) / 5 ≤ dayOfYear := by omega
  have unreached : dayOfYear < (153 * ((5 * dayOfYear + 2) / 153 + 1) + 2) / 5 := by omega
  unfold ofMarch
  generalize (5 * dayOfYear + 2) / 153 = month at monthSmall reached unreached ⊢
  -- The lengths of the months follow the divisions in no simpler way than month by month.
  interval_cases month
  case «11» =>
    show 1 ≤ 2 ∧ 2 ≤ 12 ∧ 1 ≤ dayOfYear - 337 + 1 ∧
      dayOfYear - 337 + 1 ≤ if isLeap (year + 1) = true then 29 else 28
    refine ⟨by decide, by decide, Nat.le_add_left 1 _, ?_⟩
    rcases small with early | ⟨last, leap⟩
    · split <;> omega
    · rw [if_pos leap]
      omega
  all_goals
    simp only [Nat.reduceMul, Nat.reduceAdd, Nat.reduceDiv, Nat.reduceLT, Nat.reduceSub, if_true,
      if_false, IsValid, daysInMonth, Nat.reduceEqDiff, or_false, or_true, or_self] at *
    omega

/-- The date with a number of days has this number. -/
theorem Date.toDays_ofDays (days : Int) : (ofDays days).toDays = days := by
  obtain ⟨cycle, century, quad, single, dayOfYear, centuryLe, quadLe, singleLe, dayLe, -, sum,
    dated⟩ := exists_ofDays_eq days
  rw [dated, toDays_ofMarch _ dayLe]
  omega

/-- The date with a number of days is one of the calendar. -/
theorem Date.isValid_ofDays (days : Int) : (ofDays days).IsValid := by
  obtain ⟨cycle, century, quad, single, dayOfYear, centuryLe, quadLe, singleLe, dayLe, lastDay, -,
    dated⟩ := exists_ofDays_eq days
  rw [dated]
  refine isValid_ofMarch _ ?_
  by_cases last : dayOfYear = 365
  · obtain ⟨third, leapCentury⟩ := lastDay last
    refine .inr ⟨last, ?_⟩
    rw [isLeap_iff]
    omega
  · exact .inl (by omega)

theorem Date.IsValid.day_le {date : Date} (valid : date.IsValid) : date.day ≤ 31 := by
  refine Nat.le_trans valid.2.2.2 ?_
  unfold daysInMonth
  split
  · split <;> decide
  · split <;> decide

/-! ### The number of a date -/

/-- There is such a day in the year from March; the last one is there in leap years only. -/
def IsDayOfYear (year : Int) (dayOfYear : Nat) : Prop :=
  dayOfYear ≤ 364 ∨ dayOfYear = 365 ∧ isLeap (year + 1) = true

theorem IsDayOfYear.le {year : Int} {dayOfYear : Nat} (isDay : IsDayOfYear year dayOfYear) :
    dayOfYear ≤ 365 := by
  unfold IsDayOfYear at isDay
  omega

/-- Days of a year from March come before the days of later years. -/
theorem toDays_ofMarch_lt {first second : Int} {firstDay secondDay : Nat}
    (isDay : IsDayOfYear first firstDay) (small : secondDay ≤ 365) (earlier : first < second) :
    (Date.ofMarch first firstDay).toDays < (Date.ofMarch second secondDay).toDays := by
  rw [Date.toDays_ofMarch _ isDay.le, Date.toDays_ofMarch _ small]
  unfold IsDayOfYear at isDay
  rw [isLeap_iff] at isDay
  omega

/-- Days of years from March with one number are one day. -/
theorem ofMarch_ext {first second : Int} {firstDay secondDay : Nat}
    (isDay : IsDayOfYear first firstDay) (other : IsDayOfYear second secondDay)
    (same : (Date.ofMarch first firstDay).toDays = (Date.ofMarch second secondDay).toDays) :
    Date.ofMarch first firstDay = Date.ofMarch second secondDay := by
  rcases lt_trichotomy first second with earlier | rfl | later
  · exact absurd same (toDays_ofMarch_lt isDay other.le earlier).ne
  · rw [Date.toDays_ofMarch _ isDay.le, Date.toDays_ofMarch _ other.le] at same
    exact congrArg _ (by omega)
  · exact absurd same (toDays_ofMarch_lt other isDay.le later).ne'

/-- The days from the first of March to a month, which is counted from March too. -/
def monthStart (month : Nat) : Nat :=
  (153 * month + 2) / 5


/-- The day of a month is found from the day of the year. -/
theorem Date.ofMarch_monthStart (year : Int) {month day : Nat} (positive : 1 ≤ day)
    (within : monthStart month + day ≤ monthStart (month + 1)) :
    ofMarch year (monthStart month + day - 1) =
      if month < 10 then ⟨year, month + 3, day⟩ else ⟨year + 1, month - 9, day⟩ := by
  have found : (5 * (monthStart month + day - 1) + 2) / 153 = month := by
    unfold monthStart at within ⊢
    omega
  have dayEq : monthStart month + day - 1 - (153 * month + 2) / 5 + 1 = day := by
    unfold monthStart
    omega
  unfold ofMarch
  rw [found]
  dsimp only
  rw [dayEq]

/-- No month from March to December reaches into the next one. -/
theorem monthStart_add_daysInMonth_le (year : Int) {month : Nat} (atLeast : 3 ≤ month)
    (atMost : month ≤ 12) :
    monthStart (month - 3) + daysInMonth year month ≤ monthStart (month - 3 + 1) := by
  interval_cases month
  all_goals exact Nat.le_refl _

/-- February is the last month of the year from March. -/
theorem daysInMonth_february_le (year : Int) : daysInMonth year 2 ≤ 29 := by
  show (if isLeap year = true then 29 else 28) ≤ 29
  split <;> decide

/-- A date of the calendar is a day of a year from March. -/
theorem Date.IsValid.exists_ofMarch_eq {date : Date} (valid : date.IsValid) :
    ∃ year dayOfYear, IsDayOfYear year dayOfYear ∧ ofMarch year dayOfYear = date := by
  obtain ⟨year, month, day⟩ := date
  obtain ⟨monthPos, monthLe, dayPos, dayLe⟩ := valid
  dsimp only at monthPos monthLe dayPos dayLe
  rcases (by omega : month = 1 ∨ month = 2 ∨ 3 ≤ month) with rfl | rfl | late
  · have dayLe : day ≤ 31 := dayLe
    refine ⟨year - 1, monthStart 10 + day - 1, .inl ?_, ?_⟩
    · unfold monthStart
      omega
    · rw [ofMarch_monthStart _ dayPos (Nat.add_le_add_left dayLe _), if_neg (by decide),
        Int.sub_add_cancel]
  · have february := daysInMonth_february_le year
    refine ⟨year - 1, monthStart 11 + day - 1, ?_, ?_⟩
    · unfold IsDayOfYear
      rw [Int.sub_add_cancel]
      by_cases last : day = 29
      · subst last
        refine .inr ⟨rfl, ?_⟩
        by_contra plain
        exact absurd dayLe (by simp [daysInMonth, plain])
      · unfold monthStart
        omega
    · have within : monthStart 11 + day ≤ monthStart 12 :=
        Nat.le_trans (Nat.add_le_add_left (Nat.le_trans dayLe february) _) (by decide)
      rw [ofMarch_monthStart _ dayPos within, if_neg (by decide), Int.sub_add_cancel]
  · have within := Nat.le_trans (Nat.add_le_add_left dayLe _)
      (monthStart_add_daysInMonth_le year late monthLe)
    refine ⟨year, monthStart (month - 3) + day - 1, .inl ?_, ?_⟩
    · unfold monthStart at within ⊢
      omega
    · rw [ofMarch_monthStart _ dayPos within, if_pos (by omega), Nat.sub_add_cancel late]

/-- The date with the number of a date of the calendar is this date. -/
theorem Date.ofDays_toDays {date : Date} (valid : date.IsValid) : ofDays date.toDays = date := by
  have numbered := toDays_ofDays date.toDays
  obtain ⟨year, dayOfYear, isDay, written⟩ := (isValid_ofDays date.toDays).exists_ofMarch_eq
  obtain ⟨otherYear, otherDay, otherIsDay, rfl⟩ := valid.exists_ofMarch_eq
  rw [← written] at numbered ⊢
  exact ofMarch_ext isDay otherIsDay numbered

end Rulebook.Calendar
