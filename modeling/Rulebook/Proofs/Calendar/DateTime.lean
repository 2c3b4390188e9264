/-
This file proves that every date-time of RFC 3339 is read as an instant.

The grammar leaves some freedom in writing one: the mark between date and time, the digits of a
fraction, of which there may be any number, and the offset, for which a letter may stand. A
`DateTime` is a date-time in all of these ways. A second of sixty is allowed in every minute, and
no date-time with a year of four digits lies outside the range of instants.
-/
import Rulebook.Proofs.Calendar.Day
import Rulebook.Proofs.Calendar.Stamp
import Rulebook.Proofs.Number.Whole
import Rulebook.Proofs.Text.Span
import Mathlib.Data.List.Induction

namespace Rulebook

open Number Text

namespace Calendar

/-! ### The grammar -/

/-- A fraction of a second in any number of digits, or none. -/
inductive FractionText : List Char → Prop where
  | absent : FractionText []
  | given {run : List Char} (digits : IsRun run) : FractionText ('.' :: run)

/-- An offset: the letter for UTC, or hours and minutes with a sign. -/
inductive OffsetText : List Char → Prop where
  | zero {letter : Char} (isZ : letter = 'Z' ∨ letter = 'z') : OffsetText [letter]
  | signed {sign : Char} (signed : sign = '-' ∨ sign = '+') {hours minutes : Nat}
      (hours_lt : hours < 24) (minutes_lt : minutes < 60) :
      OffsetText (sign :: paddedDigits 2 hours ++ ':' :: paddedDigits 2 minutes)

/-- A date-time as RFC 3339 has it, in all that can be chosen in writing it. -/
structure DateTime where
  date : Date
  mark : Char
  hour : Nat
  minute : Nat
  second : Nat
  /-- The fraction of the second, with the point. -/
  fraction : List Char
  offset : List Char
  year_nonneg : 0 ≤ date.year
  year_le : date.year ≤ 9999
  isValid : date.IsValid
  isMark : mark = 'T' ∨ mark = 't' ∨ mark = ' '
  hour_lt : hour < 24
  minute_lt : minute < 60
  second_le : second ≤ 60
  isFraction : FractionText fraction
  isOffset : OffsetText offset

/-- The date-time as it is written. -/
def DateTime.text (time : DateTime) : List Char :=
  dateText time.date ++ time.mark :: (clockText time.hour time.minute time.second ++
    (time.fraction ++ time.offset))

/-! ### Fractions and offsets -/

theorem valueOf_lt (run : List Char) : valueOf run < 10 ^ run.length := by
  induction run using List.reverseRecOn with
  | nil => decide
  | append_singleton front last induction =>
    have digit : (digitValue? last).getD 0 < 10 := by
      unfold digitValue?
      split
      · next range =>
        have high : last.toNat ≤ 57 := range.2
        show last.toNat - 48 < 10
        omega
      · decide
    have total : valueOf (front ++ [last]) = valueOf front * 10 + (digitValue? last).getD 0 := by
      simp [valueOf, List.foldl_append]
    rw [total, List.length_append, List.length_singleton, Nat.pow_succ]
    omega

/-- A fraction is less than a second. -/
theorem nanosOf_lt (run : List Char) : nanosOf run < nanosPerSecond := by
  have short : (run.take 9).length ≤ 9 := by
    rw [List.length_take]
    exact Nat.min_le_left 9 _
  have positive : 0 < 10 ^ (9 - (run.take 9).length) := Nat.pow_pos (by decide)
  have scaled := Nat.mul_lt_mul_of_pos_right (valueOf_lt (run.take 9)) positive
  rwa [← Nat.pow_add, Nat.add_sub_cancel' short] at scaled

/-- An offset begins neither with a digit nor with a point. -/
theorem OffsetText.exists_cons {offset : List Char} (isOffset : OffsetText offset) :
    ∃ first rest, offset = first :: rest ∧ isDigit first = false ∧ first ≠ '.' := by
  cases isOffset with
  | zero isZ =>
    rcases isZ with rfl | rfl
    all_goals exact ⟨_, _, rfl, by decide, by decide⟩
  | signed signed _ _ =>
    rcases signed with rfl | rfl
    all_goals exact ⟨_, _, rfl, by decide, by decide⟩

theorem OffsetText.ne_nil {offset : List Char} (isOffset : OffsetText offset) : offset ≠ [] := by
  obtain ⟨first, rest, rfl, -, -⟩ := isOffset.exists_cons
  exact List.cons_ne_nil first rest

theorem OffsetText.beginsOutside {offset : List Char} (isOffset : OffsetText offset)
    (rest : List Char) : BeginsOutside isDigit (offset ++ rest) := by
  obtain ⟨first, more, rfl, outside, -⟩ := isOffset.exists_cons
  exact beginsOutside_cons outside (more ++ rest)

theorem OffsetText.ne_point {offset : List Char} (isOffset : OffsetText offset)
    (rest after : List Char) : offset ++ rest ≠ '.' :: after := by
  obtain ⟨first, more, rfl, -, noPoint⟩ := isOffset.exists_cons
  exact fun same => noPoint (List.cons.inj same).1

/-- A fraction ends where the offset begins. -/
theorem exists_fraction?_eq {fraction offset : List Char} (isFraction : FractionText fraction)
    (isOffset : OffsetText offset) :
    ∃ nanos < nanosPerSecond, fraction? (fraction ++ offset) = some (nanos, offset) := by
  have outside := isOffset.beginsOutside []
  rw [List.append_nil] at outside
  cases isFraction with
  | absent =>
    refine ⟨0, by decide, ?_⟩
    rw [List.nil_append]
    unfold fraction?
    split
    · next rest => exact absurd (List.append_nil _) (isOffset.ne_point [] rest)
    · rfl
  | @given run digits =>
    have taken : (run ++ offset).takeWhile isDigit = run :=
      takeWhile_append_of_beginsOutside (List.all_eq_true.1 digits.2) outside
    refine ⟨nanosOf run, nanosOf_lt run, ?_⟩
    show (if ((run ++ offset).takeWhile isDigit).isEmpty then none
      else some (nanosOf ((run ++ offset).takeWhile isDigit),
        (run ++ offset).drop ((run ++ offset).takeWhile isDigit).length)) = _
    rw [taken, List.isEmpty_eq_false_iff.2 digits.1, if_neg Bool.false_ne_true, List.drop_left]

/-- Hours and minutes of an offset make less than a day. -/
theorem exists_strictOffset?_eq {offset : List Char} (isOffset : OffsetText offset) :
    ∃ shift : Int, -86400 < shift ∧ shift < 86400 ∧
      strictOffset? offset = some (shift, []) := by
  cases isOffset with
  | zero isZ =>
    refine ⟨0, by decide, by decide, ?_⟩
    rcases isZ with rfl | rfl
    all_goals rfl
  | signed signed hours_lt minutes_lt =>
    have read := offset?_cons signed (Nat.lt_trans hours_lt (by decide)) minutes_lt
    rcases signed with rfl | rfl
    · exact ⟨_, by omega, by omega, read⟩
    · exact ⟨_, by omega, by omega, read⟩

/-! ### Characters -/

theorem FractionText.isStampChar {fraction : List Char} (isFraction : FractionText fraction) :
    ∀ character ∈ fraction, IsStampChar character := by
  cases isFraction with
  | absent => exact List.forall_mem_nil _
  | given digits =>
    exact List.forall_mem_cons.2
      ⟨.inr (by decide), fun character member => .inl (List.all_eq_true.1 digits.2 _ member)⟩

theorem OffsetText.isStampChar {offset : List Char} (isOffset : OffsetText offset) :
    ∀ character ∈ offset, IsStampChar character ∨ character ∈ ['Z', 'z'] := by
  have digits (value : Nat) : ∀ character ∈ paddedDigits 2 value,
      IsStampChar character ∨ character ∈ ['Z', 'z'] :=
    fun character member => .inl (isStampChar_of_mem_paddedDigits 2 value character member)
  cases isOffset with
  | zero isZ => exact List.forall_mem_singleton.2 (.inr (by simpa using isZ))
  | signed signed _ _ =>
    rw [List.cons_append, List.forall_mem_cons, List.forall_mem_append, List.forall_mem_cons]
    refine ⟨.inl (.inr ?_), digits _, .inl (.inr (by decide)), digits _⟩
    rcases signed with rfl | rfl
    all_goals decide

/-! ### The range of instants -/

/-- Dates with years of four digits lie well within the range of instants. -/
theorem toDays_bounds {date : Date} (year_nonneg : 0 ≤ date.year) (year_le : date.year ≤ 9999)
    (valid : date.IsValid) : -1000000 < date.toDays ∧ date.toDays < 10000000 := by
  have dayLe := valid.day_le
  obtain ⟨_, monthLe, _, _⟩ := valid
  unfold Date.toDays epochShift
  by_cases early : date.month ≤ 2
  · have march : marchMonth date = (date.year - 1, date.month + 9) := if_pos early
    rw [march]
    dsimp only
    omega
  · have march : marchMonth date = (date.year, date.month - 3) := if_neg early
    rw [march]
    dsimp only
    omega

/-- The range of instants goes well beyond a million million seconds. -/
theorem isInstant_of_bounds {seconds offset : Int} {nanos : Nat}
    (late : -1000000000000 < seconds) (early : seconds < 1000000000000)
    (above : -86400 < offset) (below : offset < 86400) (nanos_lt : nanos < 2 * nanosPerSecond) :
    IsInstant seconds nanos offset := by
  have first : firstSecond < -1000000000000 := by decide
  have last : 1000000000000 < lastSecond := by decide
  exact ⟨by omega, by omega, above, below, nanos_lt⟩

/-- A date and a time of day with an offset of less than a day make an instant, for years of four
digits. -/
theorem exists_ofLocal?_eq {date : Date} {hour minute second nanos : Nat} {offset : Int}
    (year_nonneg : 0 ≤ date.year) (year_le : date.year ≤ 9999) (valid : date.IsValid)
    (hour_lt : hour < 24) (minute_lt : minute < 60) (second_le : second ≤ 60)
    (nanos_lt : nanos < nanosPerSecond) (above : -86400 < offset) (below : offset < 86400) :
    ∃ instant, Instant.ofLocal? date hour minute second nanos offset = some instant := by
  obtain ⟨late, early⟩ := toDays_bounds year_nonneg year_le valid
  unfold Instant.ofLocal? Instant.of? secondsPerDay
  rw [if_pos ⟨valid, hour_lt, minute_lt, second_le, nanos_lt, by omega, by omega⟩]
  have billion : nanosPerSecond = 1000000000 := rfl
  by_cases leap : second = 60
  · rw [if_pos leap]
    refine ⟨_, dif_pos (isInstant_of_bounds ?_ ?_ above below ?_)⟩
    all_goals omega
  · rw [if_neg leap]
    refine ⟨_, dif_pos (isInstant_of_bounds ?_ ?_ above below ?_)⟩
    all_goals omega

/-! ### Reading -/

namespace DateTime

variable (time : DateTime)

theorem year_lt : time.date.year.natAbs < 10 ^ 4 := by
  have nonneg := time.year_nonneg
  have small := time.year_le
  omega

theorem yearText_eq : yearText time.date.year = paddedDigits 4 time.date.year.natAbs :=
  if_pos ⟨time.year_nonneg, time.year_le⟩

/-- The date-time, number by number. -/
theorem text_eq : time.text =
    paddedDigits 4 time.date.year.natAbs ++ '-' :: (paddedDigits 2 time.date.month ++
      '-' :: (paddedDigits 2 time.date.day ++ time.mark :: (paddedDigits 2 time.hour ++
      ':' :: (paddedDigits 2 time.minute ++ ':' :: (paddedDigits 2 time.second ++
      (time.fraction ++ time.offset)))))) := by
  simp only [text, dateText, clockText, time.yearText_eq, List.append_assoc, List.cons_append]

/-- The strict layout is the layout of date-times. -/
theorem exists_readStrict?_text : ∃ instant, readStrict? time.text = some instant := by
  obtain ⟨nanos, nanos_lt, fractionRead⟩ := exists_fraction?_eq time.isFraction time.isOffset
  obtain ⟨shift, above, below, offsetRead⟩ := exists_strictOffset?_eq time.isOffset
  obtain ⟨instant, made⟩ := exists_ofLocal?_eq time.year_nonneg time.year_le time.isValid
    time.hour_lt time.minute_lt time.second_le nanos_lt above below
  have year : (time.date.year.natAbs : Int) = time.date.year :=
    Int.natAbs_of_nonneg time.year_nonneg
  have monthLt : time.date.month < 10 ^ 2 := Nat.lt_of_le_of_lt time.isValid.2.1 (by decide)
  have dayLt : time.date.day < 10 ^ 2 := Nat.lt_of_le_of_lt time.isValid.day_le (by decide)
  have hourLt : time.hour < 10 ^ 2 := Nat.lt_trans time.hour_lt (by decide)
  have minuteLt : time.minute < 10 ^ 2 := Nat.lt_trans time.minute_lt (by decide)
  have secondLt : time.second < 10 ^ 2 := Nat.lt_of_le_of_lt time.second_le (by decide)
  refine ⟨instant, ?_⟩
  rw [time.text_eq, readStrict?_parts time.year_lt monthLt dayLt time.isMark hourLt minuteLt
    secondLt fractionRead offsetRead, year]
  exact made

/-- A date-time begins with a digit and ends with its offset. -/
theorem exists_text_eq :
    ∃ first middle, time.text = first :: middle ++ time.offset ∧ isDigit first = true := by
  obtain ⟨first, rest, written, digit⟩ := exists_paddedDigits_eq (Nat.succ_pos 3) time.year_lt
  have begins : ∃ middle, dateText time.date ++ time.mark ::
      (clockText time.hour time.minute time.second ++ time.fraction) = first :: middle := by
    unfold dateText
    rw [time.yearText_eq, written]
    exact ⟨_, rfl⟩
  obtain ⟨middle, begins⟩ := begins
  refine ⟨first, middle, ?_, digit⟩
  rw [← begins]
  simp only [text, List.append_assoc, List.cons_append]

theorem trim_text : trim time.text = time.text := by
  obtain ⟨first, middle, parted, digit⟩ := time.exists_text_eq
  have visible : ∀ character ∈ time.offset, isBlank character = false := by
    intro character member
    rcases time.isOffset.isStampChar character member with ofStamp | letter
    · exact ofStamp.isBlank_eq_false
    · simp only [List.mem_cons, List.not_mem_nil, or_false] at letter
      rcases letter with rfl | rfl <;> rfl
  rw [parted]
  exact trim_append_eq_self (isBlank_of_isDigit digit) middle time.isOffset.ne_nil visible

/-- Every character is one of a stamp, but for the mark and the letter for UTC. -/
theorem isStampChar_of_mem_text {character : Char} (member : character ∈ time.text) :
    IsStampChar character ∨ character ∈ ['t', ' ', 'Z', 'z'] := by
  have stamp (text : List Char) (all : ∀ other ∈ text, IsStampChar other) :
      ∀ other ∈ text, IsStampChar other ∨ other ∈ ['t', ' ', 'Z', 'z'] :=
    fun other inText => .inl (all other inText)
  have digits (width value : Nat) := stamp _ (isStampChar_of_mem_paddedDigits width value)
  have sign (other : Char) (known : other ∈ ['-', '+', ':', '.', 'T']) :
      IsStampChar other ∨ other ∈ ['t', ' ', 'Z', 'z'] := .inl (.inr known)
  have mark : IsStampChar time.mark ∨ time.mark ∈ ['t', ' ', 'Z', 'z'] := by
    rcases time.isMark with isT | isT | isBlank
    · exact sign _ (by rw [isT]; decide)
    · exact .inr (by rw [isT]; decide)
    · exact .inr (by rw [isBlank]; decide)
  have offset : ∀ other ∈ time.offset, IsStampChar other ∨ other ∈ ['t', ' ', 'Z', 'z'] :=
    fun other inOffset => (time.isOffset.isStampChar other inOffset).imp_right fun letter =>
      List.mem_append_right ['t', ' '] letter
  have all : ∀ other ∈ time.text, IsStampChar other ∨ other ∈ ['t', ' ', 'Z', 'z'] := by
    rw [time.text_eq]
    simp only [List.forall_mem_append, List.forall_mem_cons]
    exact ⟨digits _ _, sign _ (by decide), digits _ _, sign _ (by decide), digits _ _, mark,
      digits _ _, sign _ (by decide), digits _ _, sign _ (by decide), digits _ _,
      stamp _ time.isFraction.isStampChar, offset⟩
  exact all character member

theorem ne_semicolon_of_mem_text {character : Char} (member : character ∈ time.text) :
    character ≠ ';' := by
  rcases time.isStampChar_of_mem_text member with ofStamp | letter
  · exact ofStamp.ne_semicolon
  · rintro rfl
    exact absurd letter (by decide)

/-- Every date-time is read as an instant. -/
theorem exists_read?_text : ∃ instant, Instant.read? time.text = some instant := by
  obtain ⟨instant, read⟩ := time.exists_readStrict?_text
  have colons := map_colon_eq_self fun _ member => time.ne_semicolon_of_mem_text member
  unfold Instant.read?
  dsimp only
  rw [time.trim_text, colons, read]
  cases readLoose? time.text with
  | none => exact ⟨instant, rfl⟩
  | some other => exact ⟨other, rfl⟩

end DateTime

end Calendar

end Rulebook
