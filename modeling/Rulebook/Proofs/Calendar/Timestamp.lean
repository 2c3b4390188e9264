/-
This file proves that a time of the loose layout is read as the instant that it names.

A `Timestamp` is a whole second of local time with an offset to UTC, in all the ways in which it can
be written as the argument of a directive: a colon or a semicolon may stand in each of three places.
The semicolons become colons before anything is read, so that the reader has one text for all of
these. It comes to the instant with just the local date, the time of day and the offset that the text
gives, and there is one such instant only.
-/
import Rulebook.Proofs.Calendar.DateTime
import Rulebook.Proofs.Calendar.Instant
import Rulebook.Proofs.Calendar.Shift

namespace Rulebook

open Calendar Number Text

namespace Calendar

/-- A whole second of local time with an offset to UTC, in all that can be chosen in writing it as
`year-month-day hour:minute:second offset`. -/
structure Timestamp where
  date : Date
  hour : Nat
  minute : Nat
  second : Nat
  sign : Char
  offsetHours : Nat
  offsetMinutes : Nat
  /-- What stands between hour and minute. -/
  hourMark : Char
  /-- What stands between minute and second. -/
  minuteMark : Char
  /-- What stands between the hours and the minutes of the offset. -/
  offsetMark : Char
  year_nonneg : 0 ≤ date.year
  year_le : date.year ≤ 9999
  isValid : date.IsValid
  hour_lt : hour < 24
  minute_lt : minute < 60
  second_lt : second < 60
  isSign : sign = '-' ∨ sign = '+'
  offsetHours_lt : offsetHours < 24
  offsetMinutes_lt : offsetMinutes < 60
  isHourMark : hourMark = ';' ∨ hourMark = ':'
  isMinuteMark : minuteMark = ';' ∨ minuteMark = ':'
  isOffsetMark : offsetMark = ';' ∨ offsetMark = ':'

namespace Timestamp

/-- The timestamp as it is written. -/
def text (time : Timestamp) : List Char :=
  dateText time.date ++ ' ' :: (paddedDigits 2 time.hour ++ time.hourMark ::
    (paddedDigits 2 time.minute ++ time.minuteMark :: (paddedDigits 2 time.second ++
    ' ' :: time.sign :: (paddedDigits 2 time.offsetHours ++ time.offsetMark ::
      paddedDigits 2 time.offsetMinutes))))

/-- The timestamp with colons in all places. -/
def plain (time : Timestamp) : Timestamp :=
  { time with
    hourMark := ':', minuteMark := ':', offsetMark := ':'
    isHourMark := .inr rfl, isMinuteMark := .inr rfl, isOffsetMark := .inr rfl }

/-- Seconds that local time is ahead of UTC. -/
def offset (time : Timestamp) : Int :=
  if time.sign = '-' then -((time.offsetHours * 3600 + time.offsetMinutes * 60 : Nat) : Int)
  else ((time.offsetHours * 3600 + time.offsetMinutes * 60 : Nat) : Int)

/-- The instant has the local date, the time of day and the offset of the timestamp, and no fraction
of a second. -/
structure Names (time : Timestamp) (instant : Instant) : Prop where
  date_eq : instant.date = time.date
  secondOfDay_eq : instant.secondOfDay = time.hour * 3600 + time.minute * 60 + time.second
  nanos_eq : instant.nanos = 0
  offset_eq : instant.offset = time.offset

variable {time : Timestamp}

/-- There is one instant at most that a timestamp names. -/
theorem Names.unique {first second : Instant} (names : time.Names first)
    (other : time.Names second) : first = second := by
  have firstCount := first.toDays_date_add_secondOfDay
  have secondCount := second.toDays_date_add_secondOfDay
  rw [names.date_eq, names.secondOfDay_eq] at firstCount
  rw [other.date_eq, other.secondOfDay_eq, firstCount] at secondCount
  have offsets : first.offset = second.offset := names.offset_eq.trans other.offset_eq.symm
  unfold Instant.localSeconds at secondCount
  rw [offsets] at secondCount
  exact Instant.ext (by omega) (names.nanos_eq.trans other.nanos_eq.symm)
    offsets

theorem year_lt (time : Timestamp) : time.date.year.natAbs < 10 ^ 4 := by
  have nonneg := time.year_nonneg
  have small := time.year_le
  omega

theorem above (time : Timestamp) : -86400 < time.offset := by
  have hours := time.offsetHours_lt
  have minutes := time.offsetMinutes_lt
  unfold offset
  split <;> omega

theorem below (time : Timestamp) : time.offset < 86400 := by
  have hours := time.offsetHours_lt
  have minutes := time.offsetMinutes_lt
  unfold offset
  split <;> omega

/-- A stamp can hold what a timestamp names. -/
theorem Names.fitsStamp {instant : Instant} (names : time.Names instant) :
    instant.FitsStamp where
  year_nonneg := names.date_eq ▸ time.year_nonneg
  year_le := names.date_eq ▸ time.year_le
  offset_whole := by
    rw [names.offset_eq]
    unfold offset
    split <;> omega
  leapEndsMinute := by
    intro leap
    have reached : nanosPerSecond ≤ instant.nanos := of_decide_eq_true leap
    rw [names.nanos_eq] at reached
    exact absurd reached (by decide)

/-! ### Making the instant -/

/-- The local seconds of a day tell the day and the second of it. -/
theorem names_of_localSeconds {instant : Instant}
    (counted : instant.localSeconds = time.date.toDays * secondsPerDay +
      (time.hour * 3600 + time.minute * 60 + time.second : Nat))
    (nanos_eq : instant.nanos = 0) (offset_eq : instant.offset = time.offset) :
    time.Names instant := by
  have hour_lt := time.hour_lt
  have minute_lt := time.minute_lt
  have second_lt := time.second_lt
  unfold secondsPerDay at counted
  have day : instant.localSeconds / secondsPerDay = time.date.toDays := by
    unfold secondsPerDay
    omega
  have ofDay : instant.localSeconds % secondsPerDay =
      (time.hour * 3600 + time.minute * 60 + time.second : Nat) := by
    unfold secondsPerDay
    omega
  refine ⟨?_, ?_, nanos_eq, offset_eq⟩
  · unfold Instant.date
    rw [day, Date.ofDays_toDays time.isValid]
  · unfold Instant.secondOfDay
    rw [ofDay, Int.toNat_natCast]

/-- There is an instant that a timestamp names, and it is made of the parts. -/
theorem exists_ofLocal?_eq (time : Timestamp) :
    ∃ instant, Instant.ofLocal? time.date time.hour time.minute time.second 0 time.offset =
      some instant ∧ time.Names instant := by
  obtain ⟨instant, made⟩ := Calendar.exists_ofLocal?_eq time.year_nonneg time.year_le time.isValid
    time.hour_lt time.minute_lt (Nat.le_of_lt time.second_lt) (by decide : 0 < nanosPerSecond)
    time.above time.below
  refine ⟨instant, made, ?_⟩
  unfold Instant.ofLocal? at made
  rw [if_neg (Nat.ne_of_lt time.second_lt)] at made
  split at made
  · obtain ⟨seconds_eq, nanos_eq, offset_eq⟩ := Instant.of?_eq_some_iff.1 made
    refine names_of_localSeconds ?_ nanos_eq offset_eq
    unfold Instant.localSeconds
    rw [seconds_eq, offset_eq, Int.sub_add_cancel]
  · cases made

/-! ### Reading -/

/-- Each semicolon becomes a colon, and nothing else is changed. -/
theorem map_text (time : Timestamp) :
    (time.text.map fun character => if character = ';' then ':' else character) =
      time.plain.text := by
  have digits (width value : Nat) := map_colon_eq_self fun character member =>
    (isStampChar_of_mem_paddedDigits width value character member).ne_semicolon
  have year := map_colon_eq_self fun character member =>
    (isStampChar_of_mem_yearText time.date.year character member).ne_semicolon
  have mark {character : Char} (isMark : character = ';' ∨ character = ':') :
      (if character = ';' then ':' else character) = ':' := by
    rcases isMark with rfl | rfl <;> rfl
  have sign : (if time.sign = ';' then ':' else time.sign) = time.sign := by
    rcases time.isSign with minus | plus
    · rw [minus]; rfl
    · rw [plus]; rfl
  unfold text plain dateText
  simp only [List.map_append, List.map_cons, digits, year, mark time.isHourMark,
    mark time.isMinuteMark, mark time.isOffsetMark, sign]
  rfl

/-- A timestamp begins with a digit and ends with the minutes of its offset. -/
theorem exists_text_eq (time : Timestamp) :
    ∃ first middle, isDigit first = true ∧
      time.text = first :: middle ++ paddedDigits 2 time.offsetMinutes := by
  obtain ⟨first, rest, written, digit⟩ := exists_paddedDigits_eq (Nat.succ_pos 3) time.year_lt
  have year : yearText time.date.year = first :: rest :=
    (if_pos ⟨time.year_nonneg, time.year_le⟩ : yearText time.date.year = _).trans written
  refine ⟨first, rest ++ '-' :: paddedDigits 2 time.date.month ++ '-' ::
    paddedDigits 2 time.date.day ++ ' ' :: (paddedDigits 2 time.hour ++ time.hourMark ::
      (paddedDigits 2 time.minute ++ time.minuteMark :: (paddedDigits 2 time.second ++ ' ' ::
      time.sign :: (paddedDigits 2 time.offsetHours ++ [time.offsetMark])))), digit, ?_⟩
  unfold text dateText
  rw [year]
  simp

theorem trim_text (time : Timestamp) : trim time.text = time.text := by
  obtain ⟨first, middle, digit, parted⟩ := time.exists_text_eq
  obtain ⟨last, more, minutes, -⟩ := exists_paddedDigits_eq (Nat.succ_pos 1)
    (Nat.lt_trans time.offsetMinutes_lt (by decide : 60 < 10 ^ 2))
  have visible : ∀ character ∈ paddedDigits 2 time.offsetMinutes, isBlank character = false :=
    fun character member => (isStampChar_of_mem_paddedDigits 2 _ character member).isBlank_eq_false
  have filled : paddedDigits 2 time.offsetMinutes ≠ [] := minutes ▸ List.cons_ne_nil last more
  rw [parted]
  exact trim_append_eq_self (isBlank_of_isDigit digit) middle filled visible

/-- A timestamp can stand in quotes. -/
theorem quote_notMem_text (time : Timestamp) : '\'' ∉ time.text := by
  have foreign : ¬ IsStampChar '\'' := by
    rintro (digit | mark)
    · exact absurd digit (by decide)
    · exact absurd mark (by decide)
  have digits (width value : Nat) : '\'' ∉ paddedDigits width value := fun member =>
    foreign (isStampChar_of_mem_paddedDigits width value _ member)
  have year : '\'' ∉ yearText time.date.year := fun member =>
    foreign (isStampChar_of_mem_yearText time.date.year _ member)
  have mark {character : Char} (isMark : character = ';' ∨ character = ':') :
      '\'' ≠ character := by
    rcases isMark with rfl | rfl <;> decide
  have sign : '\'' ≠ time.sign := by
    rcases time.isSign with minus | plus
    · rw [minus]; decide
    · rw [plus]; decide
  unfold text dateText
  simp only [List.mem_append, List.mem_cons, not_or]
  exact ⟨⟨⟨year, by decide, digits _ _⟩, by decide, digits _ _⟩, by decide, digits _ _,
    mark time.isHourMark, digits _ _, mark time.isMinuteMark, digits _ _, by decide, sign,
    digits _ _, mark time.isOffsetMark, digits _ _⟩

theorem skipSeparators_paddedDigits {value : Nat} (small : value < 10 ^ 2) :
    skipSeparators (':' :: paddedDigits 2 value) = paddedDigits 2 value := by
  obtain ⟨first, rest, written, digit⟩ := exists_paddedDigits_eq (Nat.succ_pos 1) small
  have noColon : first ≠ ':' := by
    rintro rfl
    exact absurd digit (by decide)
  have stays : ¬ (first == ':' || isBlank first) = true := by
    simp [noColon, isBlank_of_isDigit digit]
  unfold skipSeparators
  rw [List.dropWhile_cons_of_pos (by decide), written]
  exact List.dropWhile_cons_of_neg stays

/-- The loose layout reads the offset behind a blank. -/
theorem offset?_plain (time : Timestamp) :
    offset? (fun rest => some (skipSeparators rest)) (trimStart (' ' :: time.sign ::
      (paddedDigits 2 time.offsetHours ++ ':' :: paddedDigits 2 time.offsetMinutes))) =
        some (time.offset, []) := by
  have visible : isBlank time.sign = false := by
    rcases time.isSign with minus | plus
    · rw [minus]; rfl
    · rw [plus]; rfl
  have apart := skipSeparators_paddedDigits
    (Nat.lt_trans time.offsetMinutes_lt (by decide : 60 < 10 ^ 2))
  have blank (rest : List Char) : trimStart (' ' :: rest) = trimStart rest := rfl
  rw [blank, trimStart_cons visible]
  exact offset?_of_separator time.isSign (Nat.lt_trans time.offsetHours_lt (by decide))
    time.offsetMinutes_lt (congrArg some apart)

/-- The loose layout is the layout of timestamps. -/
theorem readLoose?_plain (time : Timestamp) :
    readLoose? time.plain.text =
      Instant.ofLocal? time.date time.hour time.minute time.second 0 time.offset := by
  have monthLt : time.date.month < 10 ^ 2 := Nat.lt_of_le_of_lt time.isValid.2.1 (by decide)
  have dayLt : time.date.day < 10 ^ 2 := Nat.lt_of_le_of_lt time.isValid.day_le (by decide)
  have hourLt : time.hour < 10 ^ 2 := Nat.lt_trans time.hour_lt (by decide)
  have minuteLt : time.minute < 10 ^ 2 := Nat.lt_trans time.minute_lt (by decide)
  have secondLt : time.second < 10 ^ 2 := Nat.lt_trans time.second_lt (by decide)
  -- Blanks in front of a number are dropped before it is read.
  have hourRead (rest : List Char) :
      looseNumber? (' ' :: (paddedDigits 2 time.hour ++ rest)) = some (time.hour, rest) :=
    looseNumber?_paddedDigits hourLt rest
  unfold readLoose? text dateText
  simp only [List.append_assoc, List.cons_append]
  refine bind_eq_of_eq_some (looseYear?_yearText _ _) (bind_eq_of_eq_some (expect?_cons _ _) ?_)
  refine bind_eq_of_eq_some (looseNumber?_paddedDigits monthLt _) ?_
  refine bind_eq_of_eq_some (expect?_cons _ _) ?_
  refine bind_eq_of_eq_some (looseNumber?_paddedDigits dayLt _) ?_
  refine bind_eq_of_eq_some (hourRead _) (bind_eq_of_eq_some (expect?_cons _ _) ?_)
  refine bind_eq_of_eq_some (looseNumber?_paddedDigits minuteLt _) ?_
  refine bind_eq_of_eq_some (expect?_cons _ _) ?_
  refine bind_eq_of_eq_some (looseNumber?_paddedDigits secondLt _) ?_
  exact bind_eq_of_eq_some time.offset?_plain (if_pos rfl)

/-- A timestamp is read as the instant that it names, whichever marks it is written with. -/
theorem exists_read?_text (time : Timestamp) :
    ∃ instant, Instant.read? time.text = some instant ∧ time.Names instant := by
  obtain ⟨instant, made, names⟩ := time.exists_ofLocal?_eq
  refine ⟨instant, ?_, names⟩
  unfold Instant.read?
  dsimp only
  rw [time.trim_text, time.map_text, time.readLoose?_plain, made]
  rfl

end Timestamp

end Calendar

end Rulebook
