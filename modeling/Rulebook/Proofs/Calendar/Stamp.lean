/-
This file proves that stamps are read back part by part.

A stamp is a text in the layout of RFC 3339 with a year of four digits and an
offset of whole minutes. What the reader of a part is given is the text of the part
and whatever follows, and it gives back the part and what follows. The loose layout
is tried first and stops at the letter between date and time.
-/
import Rulebook.Calendar.Stamp
import Rulebook.Proofs.Calendar.Shift
import Rulebook.Proofs.Number.Digits
import Rulebook.Proofs.Text.Blank
import Mathlib.Data.List.Basic

namespace Rulebook

open Number Text

namespace Calendar

/-! ### Numbers of a fixed width -/

/-- Digits of the greatest number that is read are read, and what follows is left. -/
theorem number?_append {least most : Nat} {run : List Char} (all : run.all isDigit = true)
    (length : run.length = most) (enough : least ≤ most) (rest : List Char) :
    number? least most (run ++ rest) = some (valueOf run, rest) := by
  subst length
  have taken : ((run ++ rest).take run.length).takeWhile isDigit = run := by
    rw [List.take_left, ← List.append_nil run,
      List.takeWhile_append_of_pos (List.all_eq_true.1 all), List.takeWhile_nil]
  unfold number?
  rw [taken, if_neg (Nat.not_lt.2 enough), List.drop_left]

theorem number?_paddedDigits {least width value : Nat} (positive : 0 < width)
    (small : value < 10 ^ width) (enough : least ≤ width) (rest : List Char) :
    number? least width (paddedDigits width value ++ rest) = some (value, rest) := by
  have read := number?_append (all_isDigit_paddedDigits width value)
    (length_paddedDigits positive small) enough rest
  rwa [valueOf_paddedDigits] at read

/-- All the digits are read, where more could be and something else follows. -/
theorem number?_append_cons {least most : Nat} {run : List Char} (all : run.all isDigit = true)
    {next : Char} (other : isDigit next = false) (rest : List Char) (enough : least ≤ run.length)
    (allowed : (run ++ next :: rest).length ≤ most) :
    number? least most (run ++ next :: rest) = some (valueOf run, next :: rest) := by
  unfold number?
  dsimp only
  rw [List.take_of_length_le allowed, takeWhile_isDigit_append all other,
    if_neg (Nat.not_lt.2 enough), List.drop_left]

/-- No number is read where something else than a digit stands. -/
theorem number?_cons_eq_none {first : Char} (other : isDigit first = false) {least : Nat}
    (positive : 0 < least) (most : Nat) (rest : List Char) :
    number? least most (first :: rest) = none := by
  have taken : ((first :: rest).take most).takeWhile isDigit = [] := by
    cases most with
    | zero => rfl
    | succ most => exact List.takeWhile_cons_of_neg (by simp [other])
  unfold number?
  rw [taken]
  exact if_pos positive

/-- Two digits are the digits of their value. -/
theorem twoDigits?_paddedDigits {value : Nat} (small : value < 100) (rest : List Char) :
    twoDigits? (paddedDigits 2 value ++ rest) = some (value, rest) := by
  have all := all_isDigit_paddedDigits 2 value
  have valueEq := valueOf_paddedDigits 2 value
  obtain ⟨tens, ones, written⟩ :=
    List.length_eq_two.1 (length_paddedDigits (Nat.succ_pos 1) small)
  rw [written] at all valueEq ⊢
  simp only [List.all_cons, List.all_nil, Bool.and_true, Bool.and_eq_true, isDigit,
    Option.isSome_iff_exists] at all
  obtain ⟨⟨ten, tenRead⟩, one, oneRead⟩ := all
  have sum : ten * 10 + one = value := by
    simpa [valueOf, tenRead, oneRead] using valueEq
  simp only [twoDigits?, List.cons_append, List.nil_append, tenRead, oneRead, sum]

/-- Padded digits begin with a digit. -/
theorem exists_paddedDigits_eq {width value : Nat} (positive : 0 < width)
    (small : value < 10 ^ width) :
    ∃ first rest, paddedDigits width value = first :: rest ∧ isDigit first = true := by
  have all := all_isDigit_paddedDigits width value
  have length := length_paddedDigits positive small
  cases written : paddedDigits width value with
  | nil =>
    rw [written] at length
    exact absurd length (Nat.ne_of_lt positive)
  | cons first rest =>
    rw [written, List.all_cons, Bool.and_eq_true] at all
    exact ⟨first, rest, rfl, all.1⟩

theorem trimStart_paddedDigits {width value : Nat} (positive : 0 < width)
    (small : value < 10 ^ width) (rest : List Char) :
    trimStart (paddedDigits width value ++ rest) = paddedDigits width value ++ rest := by
  obtain ⟨first, more, written, digit⟩ := exists_paddedDigits_eq positive small
  rw [written]
  exact trimStart_cons (isBlank_of_isDigit digit) (more ++ rest)

theorem looseNumber?_paddedDigits {value : Nat} (small : value < 10 ^ 2) (rest : List Char) :
    looseNumber? (paddedDigits 2 value ++ rest) = some (value, rest) := by
  unfold looseNumber?
  rw [trimStart_paddedDigits Nat.zero_lt_two small,
    number?_paddedDigits Nat.zero_lt_two small (Nat.le_succ 1)]

/-- A year without a sign is read from four digits. -/
theorem looseYear?_paddedDigits {value : Nat} (small : value < 10 ^ 4) (rest : List Char) :
    looseYear? (paddedDigits 4 value ++ rest) = some ((value : Int), rest) := by
  have read := number?_paddedDigits (Nat.succ_pos 3) small (Nat.le_add_left 1 3) rest
  have trimmed := trimStart_paddedDigits (Nat.succ_pos 3) small rest
  obtain ⟨first, more, written, digit⟩ := exists_paddedDigits_eq (Nat.succ_pos 3) small
  unfold looseYear?
  rw [trimmed]
  rw [written] at read ⊢
  split
  · next same =>
    rw [(List.cons.inj same).1] at digit
    cases digit
  · next same =>
    rw [(List.cons.inj same).1] at digit
    cases digit
  · rw [read]
    rfl

/-- A year with a sign is read as far as its digits go. -/
theorem looseYear?_signed (negative : Bool) (value : Nat) (rest : List Char) :
    looseYear? ((if negative then '-' else '+') :: paddedDigits 4 value ++ '-' :: rest) =
      some (if negative then -(value : Int) else value, '-' :: rest) := by
  have filled : 1 ≤ (paddedDigits 4 value).length := by
    have written := List.length_pos_iff.2 (digits_ne_nil value)
    unfold paddedDigits
    rw [List.length_append]
    omega
  have read := number?_append_cons (all_isDigit_paddedDigits 4 value) (by decide : isDigit '-' = false)
    rest filled (Nat.le_refl _)
  rw [valueOf_paddedDigits] at read
  unfold looseYear?
  cases negative with
  | true =>
    simp only [if_true, List.cons_append, trimStart_cons (by decide : isBlank '-' = false), read]
    rfl
  | false =>
    simp only [Bool.false_eq_true, if_false, List.cons_append,
      trimStart_cons (by decide : isBlank '+' = false), read]
    rfl

/-- The loose layout reads every year from its text. -/
theorem looseYear?_yearText (year : Int) (rest : List Char) :
    looseYear? (yearText year ++ '-' :: rest) = some (year, '-' :: rest) := by
  unfold yearText
  by_cases four : 0 ≤ year ∧ year ≤ 9999
  · rw [if_pos four, looseYear?_paddedDigits (by omega), Int.natAbs_of_nonneg four.1]
  · rw [if_neg four]
    by_cases negative : year < 0
    · have read := looseYear?_signed true year.natAbs rest
      have value : -(year.natAbs : Int) = year := by omega
      simpa only [negative, if_true, value] using read
    · have read := looseYear?_signed false year.natAbs rest
      have value : (year.natAbs : Int) = year := by omega
      simpa only [negative, if_false, value, Bool.false_eq_true] using read

theorem expect?_cons (character : Char) (rest : List Char) :
    expect? character (character :: rest) = some rest :=
  if_pos rfl

/-! ### Fractions and offsets -/

theorem nanosOf_paddedDigits {width value : Nat} (positive : 0 < width) (fits : width ≤ 9)
    (small : value < 10 ^ width) :
    nanosOf (paddedDigits width value) = value * 10 ^ (9 - width) := by
  have length := length_paddedDigits positive small
  unfold nanosOf
  dsimp only
  rw [List.take_of_length_le (Nat.le_trans (Nat.le_of_eq length) fits), valueOf_paddedDigits, length]

/-- The digits after a point are read up to what is no digit. -/
theorem fraction?_point {width value : Nat} (positive : 0 < width) (fits : width ≤ 9)
    (small : value < 10 ^ width) {next : Char} (other : isDigit next = false)
    (rest : List Char) :
    fraction? ('.' :: paddedDigits width value ++ next :: rest) =
      some (value * 10 ^ (9 - width), next :: rest) := by
  have taken := takeWhile_isDigit_append (all_isDigit_paddedDigits width value) other rest
  have filled : (paddedDigits width value).isEmpty = false :=
    List.isEmpty_eq_false_iff.2
      (List.ne_nil_of_length_pos (by rwa [length_paddedDigits positive small]))
  show (if ((paddedDigits width value ++ next :: rest).takeWhile isDigit).isEmpty then none
    else some (nanosOf ((paddedDigits width value ++ next :: rest).takeWhile isDigit),
      (paddedDigits width value ++ next :: rest).drop
        ((paddedDigits width value ++ next :: rest).takeWhile isDigit).length)) = _
  rw [taken, filled, if_neg Bool.false_ne_true, List.drop_left,
    nanosOf_paddedDigits positive fits small]

/-- A fraction is read from its text, in however many digits it is written. -/
theorem fraction?_fractionText {nanos : Nat} (small : nanos < nanosPerSecond) {next : Char}
    (other : isDigit next = false) (noPoint : next ≠ '.') (rest : List Char) :
    fraction? (fractionText nanos ++ next :: rest) = some (nanos, next :: rest) := by
  unfold nanosPerSecond at small
  unfold fractionText
  split
  · next none =>
    subst none
    unfold fraction?
    split
    · next text same => exact absurd (List.cons.inj same).1 noPoint
    · rfl
  split
  · next millis =>
    rw [fraction?_point (by decide) (by decide) (by omega) other]
    exact congrArg (fun value => some (value, next :: rest)) (by omega)
  split
  · next micros =>
    rw [fraction?_point (by decide) (by decide) (by omega) other]
    exact congrArg (fun value => some (value, next :: rest)) (by omega)
  · rw [fraction?_point (by decide) (by decide) (by omega) other]
    exact congrArg (fun value => some (value, next :: rest)) (by omega)

/-- An offset is read from its sign, its hours and its minutes, if the reader of what separates them
takes a colon. -/
theorem offset?_of_separator {separator : List Char → Option (List Char)} {sign : Char}
    (signed : sign = '-' ∨ sign = '+') {hours minutes : Nat} (hoursSmall : hours < 100)
    (minutesSmall : minutes < 60)
    (apart : separator (':' :: paddedDigits 2 minutes) = some (paddedDigits 2 minutes)) :
    offset? separator (sign :: paddedDigits 2 hours ++ ':' :: paddedDigits 2 minutes) =
      some (if sign = '-' then -((hours * 3600 + minutes * 60 : Nat) : Int)
        else ((hours * 3600 + minutes * 60 : Nat) : Int), []) := by
  have readHours := twoDigits?_paddedDigits hoursSmall (':' :: paddedDigits 2 minutes)
  have readMinutes := twoDigits?_paddedDigits (Nat.lt_trans minutesSmall (by decide)) []
  rw [List.append_nil] at readMinutes
  unfold offset?
  rcases signed with rfl | rfl
  all_goals
    simp [readHours, readMinutes, apart, minutesSmall]

/-- The strict layout has one colon between the hours and the minutes of an offset. -/
theorem offset?_cons {sign : Char} (signed : sign = '-' ∨ sign = '+') {hours minutes : Nat}
    (hoursSmall : hours < 100) (minutesSmall : minutes < 60) :
    offset? (expect? ':') (sign :: paddedDigits 2 hours ++ ':' :: paddedDigits 2 minutes) =
      some (if sign = '-' then -((hours * 3600 + minutes * 60 : Nat) : Int)
        else ((hours * 3600 + minutes * 60 : Nat) : Int), []) :=
  offset?_of_separator signed hoursSmall minutesSmall (expect?_cons ':' _)

/-- An offset of whole minutes is read from its text. -/
theorem offset?_offsetText {offset : Int} (whole : offset % 60 = 0) (above : -86400 < offset)
    (below : offset < 86400) :
    offset? (expect? ':') (offsetText offset) = some (offset, []) := by
  have hoursSmall : (offset.natAbs + 30) / 60 / 60 < 100 := by omega
  have minutesSmall : (offset.natAbs + 30) / 60 % 60 < 60 := Nat.mod_lt _ (by decide)
  have sum : (offset.natAbs + 30) / 60 / 60 * 3600 + (offset.natAbs + 30) / 60 % 60 * 60 =
      offset.natAbs := by omega
  unfold offsetText
  by_cases negative : offset < 0
  · rw [if_pos negative, offset?_cons (.inl rfl) hoursSmall minutesSmall, if_pos rfl, sum]
    exact congrArg (fun value => some (value, [])) (by omega)
  · rw [if_neg negative, offset?_cons (.inr rfl) hoursSmall minutesSmall, if_neg (by decide), sum]
    exact congrArg (fun value => some (value, [])) (by omega)

theorem exists_offsetText_eq (offset : Int) :
    ∃ sign rest, offsetText offset = sign :: rest ∧ (sign = '-' ∨ sign = '+') := by
  unfold offsetText
  by_cases negative : offset < 0
  · exact ⟨'-', _, by rw [if_pos negative]; rfl, .inl rfl⟩
  · exact ⟨'+', _, by rw [if_neg negative]; rfl, .inr rfl⟩

theorem strictOffset?_offsetText {offset : Int} (whole : offset % 60 = 0) (above : -86400 < offset)
    (below : offset < 86400) : strictOffset? (offsetText offset) = some (offset, []) := by
  have read := offset?_offsetText whole above below
  obtain ⟨sign, rest, written, signed⟩ := exists_offsetText_eq offset
  rw [written] at read ⊢
  rcases signed with rfl | rfl
  · exact read
  · exact read

/-- The fraction ends where the offset begins. -/
theorem fraction?_append_offsetText {nanos : Nat} (small : nanos < nanosPerSecond) (offset : Int) :
    fraction? (fractionText nanos ++ offsetText offset) = some (nanos, offsetText offset) := by
  obtain ⟨sign, rest, written, signed⟩ := exists_offsetText_eq offset
  rw [written]
  rcases signed with rfl | rfl
  · exact fraction?_fractionText small (by decide) (by decide) rest
  · exact fraction?_fractionText small (by decide) (by decide) rest

/-! ### Whole stamps -/

/-- A reader that succeeds hands on to the next one. -/
theorem bind_eq_of_eq_some {First Second : Type} {read : Option First}
    {next : First → Option Second} {value : First} {result : Option Second}
    (here : read = some value) (after : next value = result) : (read >>= next) = result := by
  rw [here]
  exact after

/-- The strict layout reads a date-time part by part; how the fraction and the offset are written is
left open. -/
theorem readStrict?_parts {year month day hour minute second nanos : Nat} {mark : Char}
    {offset : Int} {afterSecond afterFraction : List Char} (year_lt : year < 10 ^ 4)
    (month_lt : month < 10 ^ 2) (day_lt : day < 10 ^ 2)
    (isMark : mark = 'T' ∨ mark = 't' ∨ mark = ' ') (hour_lt : hour < 10 ^ 2)
    (minute_lt : minute < 10 ^ 2) (second_lt : second < 10 ^ 2)
    (fractionRead : fraction? afterSecond = some (nanos, afterFraction))
    (offsetRead : strictOffset? afterFraction = some (offset, [])) :
    readStrict? (paddedDigits 4 year ++ '-' :: (paddedDigits 2 month ++
      '-' :: (paddedDigits 2 day ++ mark :: (paddedDigits 2 hour ++
      ':' :: (paddedDigits 2 minute ++ ':' :: (paddedDigits 2 second ++ afterSecond)))))) =
        Instant.ofLocal? ⟨year, month, day⟩ hour minute second nanos offset := by
  have marked (rest : List Char) : dateTimeMark? (mark :: rest) = some rest := if_pos isMark
  have two {value : Nat} (small : value < 10 ^ 2) (rest : List Char) :
      number? 2 2 (paddedDigits 2 value ++ rest) = some (value, rest) :=
    number?_paddedDigits Nat.zero_lt_two small (Nat.le_refl _) rest
  unfold readStrict?
  refine bind_eq_of_eq_some (number?_paddedDigits (Nat.succ_pos 3) year_lt (Nat.le_refl _) _) ?_
  refine bind_eq_of_eq_some (expect?_cons _ _) (bind_eq_of_eq_some (two month_lt _) ?_)
  refine bind_eq_of_eq_some (expect?_cons _ _) (bind_eq_of_eq_some (two day_lt _) ?_)
  refine bind_eq_of_eq_some (marked _) (bind_eq_of_eq_some (two hour_lt _) ?_)
  refine bind_eq_of_eq_some (expect?_cons _ _) (bind_eq_of_eq_some (two minute_lt _) ?_)
  refine bind_eq_of_eq_some (expect?_cons _ _) (bind_eq_of_eq_some (two second_lt _) ?_)
  exact bind_eq_of_eq_some fractionRead (bind_eq_of_eq_some offsetRead (if_pos rfl))

section Whole

variable {date : Date} {hour minute second nanos : Nat} {offset : Int}

/-- A date, a time of day and an offset as text. -/
def stampText (date : Date) (hour minute second nanos : Nat) (offset : Int) : List Char :=
  dateText date ++ 'T' :: clockText hour minute second ++ fractionText nanos ++ offsetText offset

/-- The loose layout has no letter after the date. -/
theorem readLoose?_stampText (monthLt : date.month < 10 ^ 2) (dayLt : date.day < 10 ^ 2)
    (hour minute second nanos : Nat) (offset : Int) :
    readLoose? (stampText date hour minute second nanos offset) = none := by
  have stopped : ∀ rest : List Char, looseNumber? ('T' :: rest) = none := fun rest => by
    unfold looseNumber?
    rw [trimStart_cons (by decide), number?_cons_eq_none (by decide) Nat.one_pos]
  unfold readLoose? stampText dateText
  simp only [List.append_assoc, List.cons_append]
  refine bind_eq_of_eq_some (looseYear?_yearText _ _) (bind_eq_of_eq_some (expect?_cons _ _) ?_)
  refine bind_eq_of_eq_some (looseNumber?_paddedDigits monthLt _) ?_
  refine bind_eq_of_eq_some (expect?_cons _ _) ?_
  refine bind_eq_of_eq_some (looseNumber?_paddedDigits dayLt _) ?_
  exact congrArg (Option.bind · _) (stopped _)

/-- Each of the parts fits its place in a stamp. -/
structure IsStamp (date : Date) (hour minute second nanos : Nat) (offset : Int) : Prop where
  year_nonneg : 0 ≤ date.year
  year_le : date.year ≤ 9999
  month_lt : date.month < 10 ^ 2
  day_lt : date.day < 10 ^ 2
  hour_lt : hour < 10 ^ 2
  minute_lt : minute < 10 ^ 2
  second_lt : second < 10 ^ 2
  nanos_lt : nanos < nanosPerSecond
  offset_whole : offset % 60 = 0
  offset_gt : -86400 < offset
  offset_lt : offset < 86400

namespace IsStamp

theorem year_lt (fits : IsStamp date hour minute second nanos offset) :
    date.year.natAbs < 10 ^ 4 := by
  have positive := fits.year_nonneg
  have small := fits.year_le
  omega

/-- The text of a stamp, number by number. -/
theorem stampText_eq (fits : IsStamp date hour minute second nanos offset) :
    stampText date hour minute second nanos offset =
      paddedDigits 4 date.year.natAbs ++ '-' :: (paddedDigits 2 date.month ++
        '-' :: (paddedDigits 2 date.day ++ 'T' :: (paddedDigits 2 hour ++
        ':' :: (paddedDigits 2 minute ++ ':' :: (paddedDigits 2 second ++
        (fractionText nanos ++ offsetText offset)))))) := by
  have year : yearText date.year = paddedDigits 4 date.year.natAbs :=
    if_pos ⟨fits.year_nonneg, fits.year_le⟩
  simp only [stampText, dateText, clockText, year, List.append_assoc, List.cons_append]

/-- The strict layout is the layout of stamps. -/
theorem readStrict?_stampText (fits : IsStamp date hour minute second nanos offset) :
    readStrict? (stampText date hour minute second nanos offset) =
      Instant.ofLocal? date hour minute second nanos offset := by
  have year : (date.year.natAbs : Int) = date.year := Int.natAbs_of_nonneg fits.year_nonneg
  rw [fits.stampText_eq, readStrict?_parts fits.year_lt fits.month_lt fits.day_lt (.inl rfl)
    fits.hour_lt fits.minute_lt fits.second_lt (fraction?_append_offsetText fits.nanos_lt offset)
    (strictOffset?_offsetText fits.offset_whole fits.offset_gt fits.offset_lt), year]

end IsStamp

end Whole

/-! ### What a text is made of -/

/-- A character that stands in the text of an instant. -/
def IsStampChar (character : Char) : Prop :=
  isDigit character = true ∨ character ∈ ['-', '+', ':', '.', 'T']

theorem IsStampChar.isBlank_eq_false {character : Char} (ofStamp : IsStampChar character) :
    isBlank character = false := by
  rcases ofStamp with digit | mark
  · exact isBlank_of_isDigit digit
  · simp only [List.mem_cons, List.not_mem_nil, or_false] at mark
    rcases mark with rfl | rfl | rfl | rfl | rfl <;> decide

theorem IsStampChar.ne_semicolon {character : Char} (ofStamp : IsStampChar character) :
    character ≠ ';' := by
  rintro rfl
  rcases ofStamp with digit | mark
  · exact absurd digit (by decide)
  · exact absurd mark (by decide)

theorem isStampChar_of_mem_paddedDigits (width value : Nat) :
    ∀ character ∈ paddedDigits width value, IsStampChar character := fun character member =>
  .inl (List.all_eq_true.1 (all_isDigit_paddedDigits width value) character member)

theorem isStampChar_of_mem_fractionText (nanos : Nat) :
    ∀ character ∈ fractionText nanos, IsStampChar character := by
  have point : ∀ width value, ∀ character ∈ '.' :: paddedDigits width value,
      IsStampChar character := fun width value =>
    List.forall_mem_cons.2 ⟨.inr (by decide), isStampChar_of_mem_paddedDigits width value⟩
  unfold fractionText
  split
  · exact List.forall_mem_nil _
  split
  · exact point _ _
  split
  · exact point _ _
  · exact point _ _

theorem isStampChar_of_mem_offsetText (offset : Int) :
    ∀ character ∈ offsetText offset, IsStampChar character := by
  unfold offsetText
  simp only [List.cons_append, List.forall_mem_cons, List.forall_mem_append]
  refine ⟨?_, isStampChar_of_mem_paddedDigits _ _, .inr (by decide),
    isStampChar_of_mem_paddedDigits _ _⟩
  split
  · exact .inr (by decide)
  · exact .inr (by decide)

theorem isStampChar_of_mem_yearText (year : Int) :
    ∀ character ∈ yearText year, IsStampChar character := by
  unfold yearText
  split
  · exact isStampChar_of_mem_paddedDigits _ _
  · refine List.forall_mem_cons.2 ⟨?_, isStampChar_of_mem_paddedDigits _ _⟩
    split
    · exact .inr (by decide)
    · exact .inr (by decide)

theorem isStampChar_of_mem_stampText (date : Date) (hour minute second nanos : Nat)
    (offset : Int) : ∀ character ∈ stampText date hour minute second nanos offset,
      IsStampChar character := by
  have digits := isStampChar_of_mem_paddedDigits
  unfold stampText dateText clockText
  simp only [List.forall_mem_cons, List.forall_mem_append]
  exact ⟨⟨⟨⟨⟨isStampChar_of_mem_yearText _, .inr (by decide), digits _ _⟩, .inr (by decide),
    digits _ _⟩, .inr (by decide), ⟨digits _ _, .inr (by decide), digits _ _⟩, .inr (by decide),
    digits _ _⟩, isStampChar_of_mem_fractionText _⟩, isStampChar_of_mem_offsetText _⟩

/-- A text without semicolons is tried as it stands. -/
theorem map_colon_eq_self {text : List Char} (without : ∀ character ∈ text, character ≠ ';') :
    (text.map fun character => if character = ';' then ':' else character) = text := by
  rw [List.map_congr_left fun character member => if_neg (without character member)]
  exact List.map_id' _

/-- Of a date and a time of day as text only the strict layout is tried. -/
theorem read?_stampText {date : Date} (monthLt : date.month < 10 ^ 2) (dayLt : date.day < 10 ^ 2)
    (hour minute second nanos : Nat) (offset : Int) :
    Instant.read? (stampText date hour minute second nanos offset) =
      readStrict? (stampText date hour minute second nanos offset) := by
  have ofStamp := isStampChar_of_mem_stampText date hour minute second nanos offset
  have trimmed : trim (stampText date hour minute second nanos offset) =
      stampText date hour minute second nanos offset :=
    trim_eq_self fun character member => (ofStamp character member).isBlank_eq_false
  have colons := map_colon_eq_self fun character member => (ofStamp character member).ne_semicolon
  unfold Instant.read?
  dsimp only
  rw [trimmed, colons, readLoose?_stampText monthLt dayLt]
  rfl

/-! ### What no stamp holds -/

/-- The strict layout has years of four digits only. -/
theorem year_of_readStrict?_stampText {date : Date} {hour minute second nanos : Nat}
    {offset : Int} {instant : Instant}
    (read : readStrict? (stampText date hour minute second nanos offset) = some instant) :
    0 ≤ date.year ∧ date.year ≤ 9999 := by
  by_contra outside
  have stopped : ∀ rest : List Char, number? 4 4 (yearText date.year ++ rest) = none := by
    intro rest
    unfold yearText
    rw [if_neg outside]
    split
    · exact number?_cons_eq_none (by decide) (Nat.succ_pos 3) 4 _
    · exact number?_cons_eq_none (by decide) (Nat.succ_pos 3) 4 _
  unfold readStrict? stampText dateText at read
  obtain ⟨_, yearRead, -⟩ := Option.bind_eq_some_iff.1 read
  simp only [List.append_assoc, stopped, reduceCtorEq] at yearRead

/-- An offset that is read is a number of whole minutes. -/
theorem whole_of_offset? {separator : List Char → Option (List Char)} {text rest : List Char}
    {offset : Int} (read : offset? separator text = some (offset, rest)) : offset % 60 = 0 := by
  unfold offset? at read
  split at read
  · cases read
  dsimp only at read
  split at read
  · cases read
  simp only [Option.bind_eq_bind, Option.bind_eq_some_iff] at read
  obtain ⟨⟨hours, _⟩, -, _, -, ⟨minutes, _⟩, -, made⟩ := read
  dsimp only at made
  split at made
  · cases made
  split at made
  · cases made
    omega
  · cases made
    omega

theorem whole_of_strictOffset? {text rest : List Char} {offset : Int}
    (read : strictOffset? text = some (offset, rest)) : offset % 60 = 0 := by
  unfold strictOffset? at read
  split at read
  · cases read
    rfl
  · cases read
    rfl
  · exact whole_of_offset? read

theorem offset_of_ofLocal? {date : Date} {hour minute second nanos : Nat} {offset : Int}
    {instant : Instant}
    (made : Instant.ofLocal? date hour minute second nanos offset = some instant) :
    instant.offset = offset := by
  unfold Instant.ofLocal? at made
  split at made
  · exact (Instant.of?_eq_some_iff.1 made).2.2
  · cases made

/-- The strict layout reads a date, a time of day and an offset of whole minutes. -/
theorem exists_ofLocal?_of_readStrict? {text : List Char} {instant : Instant}
    (read : readStrict? text = some instant) :
    ∃ date hour minute second nanos offset, offset % 60 = 0 ∧
      Instant.ofLocal? date hour minute second nanos offset = some instant := by
  unfold readStrict? at read
  -- Twelve readers come before the one for the offset.
  iterate 12 obtain ⟨_, -, read⟩ := Option.bind_eq_some_iff.1 read
  obtain ⟨⟨offset, _⟩, offsetRead, made⟩ := Option.bind_eq_some_iff.1 read
  dsimp only at made
  split at made
  · exact ⟨_, _, _, _, _, offset, whole_of_strictOffset? offsetRead, made⟩
  · cases made

theorem offset_of_readStrict? {text : List Char} {instant : Instant}
    (read : readStrict? text = some instant) : instant.offset % 60 = 0 := by
  obtain ⟨_, _, _, _, _, offset, whole, made⟩ := exists_ofLocal?_of_readStrict? read
  rw [offset_of_ofLocal? made]
  exact whole

end Calendar

end Rulebook
