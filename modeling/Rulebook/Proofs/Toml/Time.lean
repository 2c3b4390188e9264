/-
This file proves that every date-time of RFC 3339 is a time in TOML.

A date-time that stands for itself, without quotes, is read as far as it goes, whatever comes after
it. What is kept of it is a stamp, which need not be the same text: the mark and the letter for
UTC are put in upper case, and a fraction is cut off after nine digits and loses the zeros at its
end. So a line that gives a date-time to a key is a whole document that holds the stamp under this
key.
-/
import Rulebook.Proofs.Calendar.DateTime
import Rulebook.Toml.Meaning

namespace Rulebook.Toml

open Calendar Number Text

/-! ### Parts of a time -/

theorem field?_paddedDigits {width value limit : Nat} (positive : 0 < width)
    (small : value < 10 ^ width) (within : value ≤ limit) (rest : List Char) :
    field? width limit (paddedDigits width value ++ rest) = some (value, rest) := by
  unfold field?
  rw [number?_paddedDigits positive small (Nat.le_refl _)]
  exact if_pos within

theorem date?_text (time : DateTime) (rest : List Char) :
    date? (dateText time.date ++ rest) = some (dateText time.date, rest) := by
  have monthLe := time.isValid.2.1
  have dayLe := time.isValid.day_le
  have year : (time.date.year.natAbs : Int) = time.date.year :=
    Int.natAbs_of_nonneg time.year_nonneg
  have yearLe : time.date.year.natAbs ≤ 9999 := Nat.le_of_lt_succ time.year_lt
  have written : dateText time.date ++ rest = paddedDigits 4 time.date.year.natAbs ++
      '-' :: (paddedDigits 2 time.date.month ++ '-' :: (paddedDigits 2 time.date.day ++ rest)) := by
    simp only [dateText, time.yearText_eq, List.append_assoc, List.cons_append]
  rw [written]
  unfold date?
  simp only [Option.bind_eq_bind, Option.bind_some, expect?_cons, year,
    field?_paddedDigits (Nat.succ_pos 3) time.year_lt yearLe,
    field?_paddedDigits Nat.zero_lt_two (Nat.lt_of_le_of_lt monthLe (by decide)) monthLe,
    field?_paddedDigits Nat.zero_lt_two (Nat.lt_of_le_of_lt dayLe (by decide)) dayLe]
  exact if_pos time.isValid

/-- A fraction ends where the offset begins. -/
theorem exists_secondFraction?_eq {fraction offset : List Char}
    (isFraction : FractionText fraction) (isOffset : OffsetText offset) :
    ∃ kept, ∀ rest,
      secondFraction? (fraction ++ (offset ++ rest)) = some (kept, offset ++ rest) := by
  cases isFraction with
  | absent =>
    refine ⟨[], fun rest => ?_⟩
    rw [List.nil_append]
    unfold secondFraction?
    split
    · next after same => exact absurd same (isOffset.ne_point rest after)
    · rfl
  | @given run digits =>
    let kept := ((run.take 9).reverse.dropWhile (· == '0')).reverse
    refine ⟨if kept.isEmpty then [] else '.' :: kept, fun rest => ?_⟩
    have taken : (run ++ (offset ++ rest)).takeWhile isDigit = run :=
      takeWhile_append_of_beginsOutside (List.all_eq_true.1 digits.2)
        (isOffset.beginsOutside rest)
    simp only [secondFraction?, List.cons_append, taken, List.isEmpty_eq_false_iff.2 digits.1,
      List.drop_left, Bool.false_eq_true, if_false, kept]

theorem exists_clock?_eq (time : DateTime) :
    ∃ kept, ∀ rest, clock? (clockText time.hour time.minute time.second ++
      (time.fraction ++ (time.offset ++ rest))) = some (kept, time.offset ++ rest) := by
  have hourLe := Nat.le_of_lt_succ time.hour_lt
  have minuteLe := Nat.le_of_lt_succ time.minute_lt
  obtain ⟨kept, fractionRead⟩ := exists_secondFraction?_eq time.isFraction time.isOffset
  refine ⟨clockText time.hour time.minute time.second ++ kept, fun rest => ?_⟩
  unfold clock? clockText
  simp only [List.append_assoc, List.cons_append, Option.bind_eq_bind, Option.bind_some,
    expect?_cons, fractionRead,
    field?_paddedDigits Nat.zero_lt_two (Nat.lt_of_le_of_lt hourLe (by decide)) hourLe,
    field?_paddedDigits Nat.zero_lt_two (Nat.lt_of_le_of_lt minuteLe (by decide)) minuteLe,
    field?_paddedDigits Nat.zero_lt_two (Nat.lt_of_le_of_lt time.second_le (by decide))
      time.second_le]

/-- An offset is read as far as it goes. -/
theorem exists_offset?_eq {offset : List Char} (isOffset : OffsetText offset) :
    ∃ kept, ∀ rest, offset? (offset ++ rest) = some (kept, rest) := by
  cases isOffset with
  | zero isZ => exact ⟨['Z'], fun rest => if_pos isZ⟩
  | @signed sign signed hours minutes hours_lt minutes_lt =>
    have hoursLe := Nat.le_of_lt_succ hours_lt
    have minutesLe := Nat.le_of_lt_succ minutes_lt
    have notZ : ¬ (sign = 'Z' ∨ sign = 'z') := by
      rcases signed with rfl | rfl
      all_goals decide
    let total : Int := (hours * 60 + minutes : Nat)
    refine ⟨offsetText (60 * if sign = '-' then -total else total), fun rest => ?_⟩
    unfold offset?
    simp only [List.append_assoc, List.cons_append, Option.bind_eq_bind, Option.bind_some,
      expect?_cons, if_neg notZ, if_pos signed.symm, total,
      field?_paddedDigits Nat.zero_lt_two (Nat.lt_of_le_of_lt hoursLe (by decide)) hoursLe,
      field?_paddedDigits Nat.zero_lt_two (Nat.lt_of_le_of_lt minutesLe (by decide)) minutesLe]

/-! ### Whole times -/

/-- The stamp is what is kept of a date-time, and nothing of what follows belongs to it. -/
def IsStampOf (time : DateTime) (stamp : String) : Prop :=
  ∀ rest, time? (time.text ++ rest) = some (.time stamp, rest)

/-- Every date-time is a time. -/
theorem exists_isStampOf (time : DateTime) : ∃ stamp, IsStampOf time stamp := by
  obtain ⟨clock, clockRead⟩ := exists_clock?_eq time
  obtain ⟨offset, offsetRead⟩ := exists_offset?_eq time.isOffset
  refine ⟨String.ofList (dateText time.date ++ ('T' :: clock ++ offset)), fun rest => ?_⟩
  have dateRead := date?_text time (time.mark :: (clockText time.hour time.minute time.second ++
    (time.fraction ++ (time.offset ++ rest))))
  have marked : time.mark = 'T' ∨ time.mark = 't' ∨ time.mark = ' ' := time.isMark
  unfold time? DateTime.text
  simp only [List.append_assoc, List.cons_append, dateRead, clockAfterDate?, if_pos marked,
    clockRead, offsetRead, Option.map_some]

/-- A date-time is a value. -/
theorem IsStampOf.value? {time : DateTime} {stamp : String} (stamped : IsStampOf time stamp)
    (depth fuel : Nat) (rest : List Char) :
    value? depth (fuel + 1) (time.text ++ rest) = some (.time stamp, rest) := by
  obtain ⟨first, middle, parted, digit⟩ := time.exists_text_eq
  have numberRead : numberOrTime? (time.text ++ rest) = some (.time stamp, rest) := by
    unfold numberOrTime?
    rw [stamped rest]
  rw [← numberRead, parted]
  -- A digit begins neither a string nor a list, nor any of the other values.
  unfold Toml.value?
  rw [List.append_assoc, List.cons_append]
  split
  case h_1 same => cases same
  case h_8 => rfl
  all_goals
    next same =>
    rw [(List.cons.inj same).1] at digit
    cases digit

/-! ### Keys -/

/-- A key without quotes and in one part. -/
def IsBareKey (key : List Char) : Prop :=
  key ≠ [] ∧ ∀ character ∈ key, isKeyCharacter character = true

theorem IsBareKey.exists_cons {key : List Char} (bare : IsBareKey key) :
    ∃ first more, key = first :: more ∧ isKeyCharacter first = true := by
  obtain ⟨first, more, rfl⟩ := List.exists_cons_of_ne_nil bare.1
  exact ⟨first, more, rfl, bare.2 first List.mem_cons_self⟩

theorem skipBlanks_cons {first : Char} (visible : isBlank first = false) (rest : List Char) :
    skipBlanks (first :: rest) = first :: rest :=
  List.dropWhile_cons_of_neg (by simp [visible])

theorem isBlank_eq_false {character : Char} (noSpace : character ≠ ' ')
    (noTab : character ≠ '\t') : isBlank character = false := by
  unfold isBlank
  rw [Bool.or_eq_false_iff, beq_eq_false_iff_ne, beq_eq_false_iff_ne]
  exact ⟨noSpace, noTab⟩

section KeyCharacters

variable {first : Char} (inKey : isKeyCharacter first = true)

include inKey

theorem ne_of_isKeyCharacter {other : Char} (outside : isKeyCharacter other = false) :
    first ≠ other := by
  rintro rfl
  rw [inKey] at outside
  cases outside

theorem le_toNat_of_isKeyCharacter : 32 ≤ first.toNat := by
  have control : ∀ code < 32, isKeyCharacter (Char.ofNat code) = false := by decide
  refine Nat.le_of_not_lt fun low => ?_
  have outside := control first.toNat low
  rw [Char.ofNat_toNat, inKey] at outside
  cases outside

variable (rest : List Char)

theorem skipBlanks_of_isKeyCharacter : skipBlanks (first :: rest) = first :: rest :=
  skipBlanks_cons (isBlank_eq_false (ne_of_isKeyCharacter inKey (by decide))
    (ne_of_isKeyCharacter inKey (by decide))) rest

theorem shortString?_of_isKeyCharacter : shortString? (first :: rest) = none := by
  unfold shortString?
  split
  · next same => exact absurd (List.cons.inj same).1 (ne_of_isKeyCharacter inKey (by decide))
  · next same => exact absurd (List.cons.inj same).1 (ne_of_isKeyCharacter inKey (by decide))
  · rfl

theorem lineBreak?_of_isKeyCharacter : lineBreak? (first :: rest) = none := by
  unfold lineBreak?
  split
  · next same => exact absurd (List.cons.inj same).1 (ne_of_isKeyCharacter inKey (by decide))
  · next same => exact absurd (List.cons.inj same).1 (ne_of_isKeyCharacter inKey (by decide))
  · rfl

end KeyCharacters

/-- A bare key is read up to its equals sign. -/
theorem key?_bare {key : List Char} (bare : IsBareKey key) (rest : List Char) :
    key? (key ++ ' ' :: '=' :: rest) = some ([String.ofList key], '=' :: rest) := by
  have taken : (key ++ ' ' :: '=' :: rest).takeWhile isKeyCharacter = key :=
    takeWhile_append_of_beginsOutside bare.2 (beginsOutside_cons (by decide) _)
  obtain ⟨first, more, written, inKey⟩ := bare.exists_cons
  have begun : skipBlanks (key ++ ' ' :: '=' :: rest) = key ++ ' ' :: '=' :: rest := by
    rw [written]
    exact skipBlanks_of_isKeyCharacter inKey _
  have noString : shortString? (key ++ ' ' :: '=' :: rest) = none := by
    rw [written]
    exact shortString?_of_isKeyCharacter inKey _
  have part : keyPart? (key ++ ' ' :: '=' :: rest) =
      some (String.ofList key, ' ' :: '=' :: rest) := by
    unfold keyPart?
    rw [noString]
    dsimp only
    rw [taken, List.isEmpty_eq_false_iff.2 bare.1, if_neg Bool.false_ne_true, List.drop_left]
  have ended : skipBlanks (' ' :: '=' :: rest) = '=' :: rest := rfl
  unfold key? depthLimit keyParts?
  rw [begun, part]
  dsimp only
  rw [ended]
  rfl

/-! ### Documents of one line -/

/-- A line that gives a date-time to a key. -/
def timeLine (key : List Char) (time : DateTime) : List Char :=
  key ++ ' ' :: '=' :: ' ' :: (time.text ++ ['\n'])

section Document

variable {time : DateTime} {stamp : String} {key : List Char}

theorem exists_timeLine_eq (time : DateTime) (bare : IsBareKey key) :
    ∃ first rest, timeLine key time = first :: rest ∧ isKeyCharacter first = true := by
  obtain ⟨first, more, rfl, inKey⟩ := bare.exists_cons
  exact ⟨first, _, rfl, inKey⟩

theorem IsStampOf.line? (stamped : IsStampOf time stamp) (bare : IsBareKey key) :
    line? (timeLine key time) = some (([String.ofList key], .time stamp), []) := by
  obtain ⟨first, middle, parted, digit⟩ := time.exists_text_eq
  have visible : isBlank first = false := by
    refine isBlank_eq_false ?_ ?_
    · rintro rfl
      cases digit
    · rintro rfl
      cases digit
  have begun : skipBlanks (' ' :: (time.text ++ ['\n'])) = time.text ++ ['\n'] := by
    rw [parted]
    exact skipBlanks_cons visible _
  have read := stamped.value? depthLimit (2 * (' ' :: (time.text ++ ['\n'])).length + 1) ['\n']
  have ended : lineEnd? ['\n'] = some [] := rfl
  unfold Toml.line? timeLine
  rw [key?_bare bare]
  simp only [begun, read, ended, Option.bind_eq_bind, Option.bind_some]

theorem IsStampOf.parts? (stamped : IsStampOf time stamp) (bare : IsBareKey key) (fuel : Nat) :
    parts? (fuel + 2) (timeLine key time) =
      some ([([String.ofList key], .time stamp)], []) := by
  have lineRead := stamped.line? bare
  obtain ⟨first, rest, begins, inKey⟩ := exists_timeLine_eq time bare
  rw [begins] at lineRead ⊢
  unfold Toml.parts?
  rw [skipBlanks_of_isKeyCharacter inKey]
  split
  · next same => cases same
  · next same => exact absurd (List.cons.inj same).1 (ne_of_isKeyCharacter inKey (by decide))
  · next same => exact absurd (List.cons.inj same).1 (ne_of_isKeyCharacter inKey (by decide))
  · rw [lineBreak?_of_isKeyCharacter inKey, lineRead]
    rfl

/-- A document that gives a date-time to a key and nothing else holds the stamp under this key. -/
theorem IsStampOf.read? (stamped : IsStampOf time stamp) (bare : IsBareKey key) :
    read? (timeLine key time) = some [(String.ofList key, .time stamp)] := by
  obtain ⟨first, rest, begins, inKey⟩ := exists_timeLine_eq time bare
  have parts := stamped.parts? bare rest.length
  rw [begins] at parts ⊢
  unfold Toml.read?
  split
  · next same => exact absurd (List.cons.inj same).1 (ne_of_isKeyCharacter inKey (by decide))
  · show (Toml.parts? (rest.length + 2) (first :: rest)).bind _ = _
    rw [parts]
    rfl

end Document

end Rulebook.Toml
