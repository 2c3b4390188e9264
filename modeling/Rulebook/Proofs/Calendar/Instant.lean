/-
This file proves which instants are read back from their text.

The text is a stamp when the local year has four digits, the offset is a number of
whole minutes and a leap second comes where a minute of local time ends;
`Instant.FitsStamp` says just this of an instant. The local date and time of day,
with the offset, then make up the instant again. Of other instants the text is not
read, or it is read as another instant: a leap second that is counted anywhere else
in the minute is written as the second after it.
-/
import Rulebook.Proofs.Calendar.Day
import Rulebook.Proofs.Calendar.Stamp

namespace Rulebook

open Calendar Number

/-- Whichever leap second the instant lies in ends a minute of local time. -/
def Instant.LeapEndsMinute (instant : Instant) : Prop :=
  instant.inLeapSecond = true → instant.localSeconds % 60 = 59

/-- A stamp can hold the instant. -/
structure Instant.FitsStamp (instant : Instant) : Prop where
  year_nonneg : 0 ≤ instant.date.year
  year_le : instant.date.year ≤ 9999
  offset_whole : instant.offset % 60 = 0
  leapEndsMinute : instant.LeapEndsMinute

instance (instant : Instant) : Decidable instant.LeapEndsMinute :=
  inferInstanceAs (Decidable (_ → _))

instance (instant : Instant) : Decidable instant.FitsStamp :=
  decidable_of_iff
    (0 ≤ instant.date.year ∧ instant.date.year ≤ 9999 ∧ instant.offset % 60 = 0 ∧
      instant.LeapEndsMinute)
    ⟨fun ⟨yearNonneg, yearLe, offsetWhole, leap⟩ => ⟨yearNonneg, yearLe, offsetWhole, leap⟩,
      fun ⟨yearNonneg, yearLe, offsetWhole, leap⟩ => ⟨yearNonneg, yearLe, offsetWhole, leap⟩⟩

attribute [ext] Instant

namespace Instant

/-! ### The parts of a text -/

/-- What the leap second adds to the seconds of the minute. -/
def leap (instant : Instant) : Nat :=
  if instant.inLeapSecond then 1 else 0

/-- The nanoseconds that are written as the fraction. -/
def fraction (instant : Instant) : Nat :=
  if instant.inLeapSecond then instant.nanos - nanosPerSecond else instant.nanos

theorem text_eq (instant : Instant) :
    instant.text = stampText instant.date (instant.secondOfDay / 3600)
      (instant.secondOfDay / 60 % 60) (instant.secondOfDay % 60 + instant.leap) instant.fraction
      instant.offset := by
  unfold text leap fraction
  cases instant.inLeapSecond with
  | false => simp only [Bool.false_eq_true, if_false, stampText]
  | true => simp only [if_true, stampText]

theorem text_ne_nil (instant : Instant) : instant.text ≠ [] := by
  rw [text_eq]
  simp [stampText]

theorem leap_le (instant : Instant) : instant.leap ≤ 1 := by
  unfold leap
  split <;> decide

theorem fraction_lt (instant : Instant) : instant.fraction < nanosPerSecond := by
  have range := instant.isInstant
  unfold IsInstant nanosPerSecond at range
  unfold fraction inLeapSecond nanosPerSecond
  split
  · omega
  · next plain => simpa using plain

/-- The second of the minute in a leap second that ends it is the last one. -/
theorem LeapEndsMinute.second_eq {instant : Instant} (ends : instant.LeapEndsMinute)
    (inLeap : instant.inLeapSecond = true) : instant.secondOfDay % 60 = 59 := by
  have lastSecond : instant.localSeconds % 60 = 59 := ends inLeap
  unfold secondOfDay secondsPerDay
  omega

theorem secondOfDay_lt (instant : Instant) : instant.secondOfDay < 86400 := by
  unfold secondOfDay secondsPerDay
  omega

/-- Local seconds are counted by day and second of the day. -/
theorem toDays_date_add_secondOfDay (instant : Instant) :
    instant.date.toDays * secondsPerDay + instant.secondOfDay = instant.localSeconds := by
  unfold date secondOfDay
  rw [Date.toDays_ofDays, Int.toNat_of_nonneg (Int.emod_nonneg _ (by decide)), Int.mul_comm]
  exact Int.mul_ediv_add_emod _ _

/-- A second of sixty stands for the last second of the minute and a thousand million nanoseconds
more. -/
theorem LeapEndsMinute.ite_second_eq {instant : Instant} (ends : instant.LeapEndsMinute) :
    (if instant.secondOfDay % 60 + instant.leap = 60
      then (59, instant.fraction + nanosPerSecond)
      else (instant.secondOfDay % 60 + instant.leap, instant.fraction)) =
        (instant.secondOfDay % 60, instant.nanos) := by
  unfold leap fraction
  by_cases inLeap : instant.inLeapSecond = true
  · have reached : nanosPerSecond ≤ instant.nanos := of_decide_eq_true inLeap
    simp only [inLeap, if_true, ends.second_eq inLeap, Nat.reduceAdd,
      Nat.sub_add_cancel reached]
  · simp only [inLeap, if_false, Nat.add_zero, Bool.false_eq_true]
    rw [if_neg (by omega)]

/-- The local date and time of day, with the offset, make up the instant. -/
theorem LeapEndsMinute.ofLocal?_date {instant : Instant} (ends : instant.LeapEndsMinute)
    (early : -262143 ≤ instant.date.year) (late : instant.date.year ≤ 262142) :
    ofLocal? instant.date (instant.secondOfDay / 3600) (instant.secondOfDay / 60 % 60)
      (instant.secondOfDay % 60 + instant.leap) instant.fraction instant.offset =
        some instant := by
  have ofDay := instant.secondOfDay_lt
  have count := instant.toDays_date_add_secondOfDay
  have leapLe := instant.leap_le
  have secondLe : instant.secondOfDay % 60 + instant.leap ≤ 60 := by omega
  have sum : instant.date.toDays * secondsPerDay +
      (instant.secondOfDay / 3600 * 3600 + instant.secondOfDay / 60 % 60 * 60 +
        instant.secondOfDay % 60 : Nat) - instant.offset = instant.seconds := by
    unfold localSeconds at count
    omega
  unfold ofLocal?
  rw [if_pos ⟨Date.isValid_ofDays _, by omega, Nat.mod_lt _ (by decide), secondLe,
    instant.fraction_lt, early, late⟩, ends.ite_second_eq]
  dsimp only
  rw [sum]
  exact dif_pos instant.isInstant

theorem month_lt (instant : Instant) : instant.date.month < 10 ^ 2 :=
  Nat.lt_of_le_of_lt (Date.isValid_ofDays _).2.1 (by decide)

theorem day_lt (instant : Instant) : instant.date.day < 10 ^ 2 :=
  Nat.lt_of_le_of_lt (Date.isValid_ofDays _).day_le (by decide)

/-! ### The round trip -/

/-- A date and a time of day have a leap second only where the minute ends. -/
theorem leapEndsMinute_of_ofLocal? {date : Date} {hour minute second nanos : Nat} {offset : Int}
    {instant : Instant}
    (made : ofLocal? date hour minute second nanos offset = some instant) :
    instant.LeapEndsMinute := by
  intro leap
  have reached : nanosPerSecond ≤ instant.nanos := of_decide_eq_true leap
  unfold ofLocal? at made
  split at made
  · next valid =>
    have nanosLt := valid.2.2.2.2.1
    by_cases sixty : second = 60
    · rw [if_pos sixty] at made
      obtain ⟨seconds, -, offset⟩ := of?_eq_some_iff.1 made
      unfold localSeconds
      unfold secondsPerDay at seconds
      omega
    · rw [if_neg sixty] at made
      obtain ⟨-, nanos, -⟩ := of?_eq_some_iff.1 made
      omega
  · cases made

theorem leapEndsMinute_of_readStrict? {text : List Char} {instant : Instant}
    (read : readStrict? text = some instant) : instant.LeapEndsMinute := by
  obtain ⟨_, _, _, _, _, _, -, made⟩ := exists_ofLocal?_of_readStrict? read
  exact leapEndsMinute_of_ofLocal? made

/-- The parts of an instant that a stamp can hold fit their places. -/
theorem FitsStamp.isStamp {instant : Instant} (fits : instant.FitsStamp) :
    IsStamp instant.date (instant.secondOfDay / 3600) (instant.secondOfDay / 60 % 60)
      (instant.secondOfDay % 60 + instant.leap) instant.fraction instant.offset where
  year_nonneg := fits.year_nonneg
  year_le := fits.year_le
  month_lt := instant.month_lt
  day_lt := instant.day_lt
  hour_lt := by
    have ofDay := instant.secondOfDay_lt
    omega
  minute_lt := by omega
  second_lt := by
    have leapLe := instant.leap_le
    omega
  nanos_lt := instant.fraction_lt
  offset_whole := fits.offset_whole
  offset_gt := instant.isInstant.2.2.1
  offset_lt := instant.isInstant.2.2.2.1

/-- An instant is read back from its text exactly when a stamp can hold it. -/
theorem read?_text_eq_some_iff (instant : Instant) :
    Instant.read? instant.text = some instant ↔ instant.FitsStamp := by
  rw [instant.text_eq, read?_stampText instant.month_lt instant.day_lt]
  constructor
  · intro read
    obtain ⟨yearNonneg, yearLe⟩ := year_of_readStrict?_stampText read
    exact ⟨yearNonneg, yearLe, offset_of_readStrict? read, leapEndsMinute_of_readStrict? read⟩
  · intro fits
    have made := fits.leapEndsMinute.ofLocal?_date (Int.le_trans (by decide) fits.year_nonneg)
      (Int.le_trans fits.year_le (by decide))
    rw [fits.isStamp.readStrict?_stampText, made]

/-! ### Leap seconds within a minute -/

/-- The first instant lies in a leap second that does not end a minute, and the other one is at the
same fraction of the second after it. -/
structure LeapsTo (instant after : Instant) : Prop where
  inLeapSecond : instant.inLeapSecond = true
  within_minute : instant.localSeconds % 60 ≠ 59
  seconds_eq : after.seconds = instant.seconds + 1
  nanos_eq : instant.nanos = after.nanos + nanosPerSecond
  offset_eq : after.offset = instant.offset

namespace LeapsTo

variable {instant after : Instant}

theorem ne (leaps : instant.LeapsTo after) : after ≠ instant := by
  rintro rfl
  have later := leaps.seconds_eq
  omega

/-- Both instants are written alike. -/
theorem text_eq (leaps : instant.LeapsTo after) : instant.text = after.text := by
  have within := leaps.within_minute
  have plain : after.inLeapSecond = false := by
    have nanos := leaps.nanos_eq
    have bound := instant.isInstant.2.2.2.2
    exact decide_eq_false (by omega)
  have moved : after.localSeconds = instant.localSeconds + 1 := by
    have seconds := leaps.seconds_eq
    have offset := leaps.offset_eq
    unfold localSeconds
    omega
  have sameDate : after.date = instant.date := by
    unfold date
    rw [moved]
    congr 1
    unfold secondsPerDay
    omega
  have nextSecond : after.secondOfDay = instant.secondOfDay + 1 := by
    unfold secondOfDay secondsPerDay
    omega
  have notLast : instant.secondOfDay % 60 ≠ 59 := by
    unfold secondOfDay secondsPerDay
    omega
  have hour : (instant.secondOfDay + 1) / 3600 = instant.secondOfDay / 3600 := by omega
  have minute : (instant.secondOfDay + 1) / 60 % 60 = instant.secondOfDay / 60 % 60 := by omega
  -- The second of a leap second is written as one more.
  have second : (instant.secondOfDay + 1) % 60 + after.leap =
      instant.secondOfDay % 60 + instant.leap := by
    unfold leap
    rw [leaps.inLeapSecond, plain, if_pos rfl, if_neg Bool.false_ne_true]
    omega
  have sameFraction : after.fraction = instant.fraction := by
    unfold fraction
    rw [leaps.inLeapSecond, plain, leaps.nanos_eq, if_pos rfl, if_neg Bool.false_ne_true,
      Nat.add_sub_cancel]
  rw [instant.text_eq, after.text_eq, sameDate, nextSecond, leaps.offset_eq, hour, minute, second,
    sameFraction]

/-- What is written as the second after it is read as this second. -/
theorem read?_text (leaps : instant.LeapsTo after) (fits : after.FitsStamp) :
    Instant.read? instant.text = some after := by
  rw [leaps.text_eq]
  exact after.read?_text_eq_some_iff.2 fits

end LeapsTo

end Instant

end Rulebook
