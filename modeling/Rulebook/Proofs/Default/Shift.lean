/-
This file proves which times the defaults relative to the present moment stand for.

A shift is a number, an underscore and a unit behind a sign. Digits as the number make the shift
exact: it leads to the instant at just its distance, and the only other outcome is a flaw, when the
number, the seconds or the instant leaves its range. The amount may however have a sign of its own,
and two signs undo each other. That a shift forward never leads back, and a shift back never
forward, therefore holds just of the shifts whose amount has no minus sign.
-/
import Rulebook.Default
import Rulebook.Proofs.Calendar.Shift
import Rulebook.Proofs.Number.Whole
import Rulebook.Proofs.Text.Blank
import Mathlib.Data.List.Basic

namespace Rulebook

open Calendar Number Text

/-! ### Units -/

/-- The units of time and their seconds. -/
def timeUnits : List (String × Int) :=
  [("second", 1), ("minute", 60), ("hour", 3600), ("day", 86400), ("month", 30 * 86400),
    ("year", 365 * 86400)]

/-- The word is a unit of so many seconds, in the singular or in the plural. -/
def IsTimeUnit (word : String) (length : Int) : Prop :=
  ∃ unit ∈ timeUnits, (word = unit.1 ∨ word = unit.1 ++ "s") ∧ length = unit.2

instance (word : String) (length : Int) : Decidable (IsTimeUnit word length) := by
  unfold IsTimeUnit
  infer_instance

theorem unitSeconds?_of_mem : ∀ unit ∈ timeUnits,
    unitSeconds? unit.1 = some unit.2 ∧ unitSeconds? (unit.1 ++ "s") = some unit.2 := by
  decide

theorem unitSeconds?_eq_some_iff {word : String} {length : Int} :
    unitSeconds? word = some length ↔ IsTimeUnit word length := by
  constructor
  · intro known
    unfold unitSeconds? at known
    split at known <;> cases known <;> decide
  · rintro ⟨unit, listed, rfl | rfl, rfl⟩
    · exact (unitSeconds?_of_mem unit listed).1
    · exact (unitSeconds?_of_mem unit listed).2

/-- Every unit has some length. -/
theorem IsTimeUnit.pos {word : String} {length : Int} (isUnit : IsTimeUnit word length) :
    0 < length := by
  obtain ⟨unit, listed, -, rfl⟩ := isUnit
  exact (by decide : ∀ unit ∈ timeUnits, 0 < unit.2) unit listed

/-- The words for units have no blanks. -/
theorem IsTimeUnit.visible {word : String} {length : Int} (isUnit : IsTimeUnit word length) :
    ∀ character ∈ word.toList, isBlank character = false := by
  have plurals : (timeUnits.all fun unit =>
      (unit.1 ++ "s").toList.all fun character => !isBlank character) = true := rfl
  have plural : ∀ unit ∈ timeUnits, ∀ character ∈ unit.1.toList ++ "s".toList,
      isBlank character = false := by
    intro unit listed character member
    rw [← String.toList_append] at member
    simpa using List.all_eq_true.1 (List.all_eq_true.1 plurals unit listed) character member
  obtain ⟨unit, listed, rfl | rfl, -⟩ := isUnit
  · exact fun character member => plural unit listed character (List.mem_append_left _ member)
  · rw [String.toList_append]
    exact plural unit listed

/-! ### The way of a shift -/

/-- Whether a shift goes to later or to earlier. -/
inductive Direction where
  | forward
  | back

namespace Direction

/-- The sign in front of a shift. -/
def sign : Direction → Char
  | forward => '+'
  | back => '-'

/-- The amount by which the instant moves. -/
def signed (direction : Direction) (amount : Int) : Int :=
  match direction with
  | forward => amount
  | back => -amount

def opposite : Direction → Direction
  | forward => back
  | back => forward

/-- The other instant is where the sign promises it: not before the present moment when the shift
goes forward, and not after it when the shift goes back. -/
def Keeps (direction : Direction) (now other : Instant) : Prop :=
  match direction with
  | forward => now ≤ other
  | back => other ≤ now

theorem signed_opposite (direction : Direction) (amount : Int) :
    direction.opposite.signed amount = -direction.signed amount := by
  cases direction with
  | forward => rfl
  | back => exact (Int.neg_neg amount).symm

theorem isBlank_sign (direction : Direction) : isBlank direction.sign = false := by
  cases direction <;> decide

/-- The instant keeps the promise of the sign exactly when the amount behind it is not negative. -/
theorem keeps_iff (direction : Direction) {now other : Instant} {amount : Int}
    (shifted : now.shift? (direction.signed amount) = some other) :
    direction.Keeps now other ↔ 0 ≤ amount := by
  cases direction with
  | forward => exact Instant.le_of_shift?_iff shifted
  | back =>
    show other ≤ now ↔ _
    rw [Instant.ge_of_shift?_iff shifted]
    exact Int.neg_nonpos_iff amount

end Direction

/-! ### Reading a shift -/

/-- A shift is read exactly when its amount and its unit can be read and the seconds keep within
their range. -/
theorem readShift_append_eq_ok_iff {amount : List Char} (unmarked : '_' ∉ amount)
    (unit : List Char) (seconds : Int) :
    readShift (amount ++ '_' :: unit) = .ok seconds ↔
      ∃ (number : Int64) (length : Int), SignedText amount number.toInt ∧
        IsTimeUnit (String.ofList unit) length ∧ seconds = number.toInt * length ∧
        -longestShift ≤ seconds ∧ seconds ≤ longestShift := by
  unfold readShift
  rw [cutFirst_append unmarked]
  dsimp only
  constructor
  · intro read
    split at read
    · cases read
    · next number parsed =>
      split at read
      · cases read
      · next length known =>
        split at read
        · next within =>
          cases read
          exact ⟨number, length, (readInt64_eq_ok_iff amount number).1 parsed,
            unitSeconds?_eq_some_iff.1 known, rfl, within⟩
        · cases read
  · rintro ⟨number, length, written, isUnit, rfl, within⟩
    rw [(readInt64_eq_ok_iff amount number).2 written]
    dsimp only
    rw [unitSeconds?_eq_some_iff.2 isUnit]
    exact if_pos within

theorem exists_append_of_readShift {text : List Char} {seconds : Int}
    (read : readShift text = .ok seconds) :
    ∃ amount unit, '_' ∉ amount ∧ text = amount ++ '_' :: unit := by
  unfold readShift at read
  split at read
  · cases read
  · next amount unit cut => exact ⟨amount, unit, cutFirst_eq_some_iff.1 cut⟩

/-- The time that a sign and a shift stand for is the instant that the shift leads to. -/
theorem readTime_eq_ok_iff {now other : Instant} {text shift : List Char} {direction : Direction}
    (trimmed : trim text = presentWord ++ direction.sign :: shift) :
    readTime now text = .ok other ↔
      ∃ seconds, readShift shift = .ok seconds ∧
        now.shift? (direction.signed seconds) = some other := by
  have signed (seconds : Int) : (if direction.sign = '-' then -seconds else seconds) =
      direction.signed seconds := by
    cases direction <;> rfl
  have isSign : direction.sign = '+' ∨ direction.sign = '-' := by
    cases direction <;> decide
  unfold readTime
  dsimp only
  rw [trimmed, List.isPrefixOf?_eq_some_iff_append_eq.2 rfl]
  dsimp only
  unfold readShifted
  dsimp only
  rw [if_pos isSign]
  constructor
  · intro read
    split at read
    · cases read
    · next seconds shiftRead =>
      rw [signed] at read
      split at read
      · next found =>
        cases read
        exact ⟨seconds, shiftRead, found⟩
      · cases read
  · rintro ⟨seconds, shiftRead, found⟩
    rw [shiftRead]
    dsimp only
    rw [signed, found]

/-! ### Exact shifts -/

/-- The text for the time that is so many units away from the present moment. -/
def Direction.text (direction : Direction) (run : List Char) (unit : String) : List Char :=
  presentWord ++ direction.sign :: (run ++ '_' :: unit.toList)

theorem Direction.trim_text (direction : Direction) (run : List Char) {unit : String}
    {length : Int} (isUnit : IsTimeUnit unit length) :
    trim (direction.text run unit) = direction.text run unit := by
  have visible : ∀ character ∈ '_' :: unit.toList, isBlank character = false :=
    List.forall_mem_cons.2 ⟨by decide, isUnit.visible⟩
  have split : direction.text run unit =
      't' :: ("imeNow".toList ++ direction.sign :: run) ++ '_' :: unit.toList := by
    show presentWord ++ direction.sign :: (run ++ '_' :: unit.toList) =
      presentWord ++ direction.sign :: run ++ '_' :: unit.toList
    rw [List.append_assoc, List.cons_append]
  rw [split]
  exact trim_append_eq_self (by decide) _ (List.cons_ne_nil _ _) visible

theorem signedText_run_iff {run : List Char} (digits : IsRun run) {value : Int} :
    SignedText run value ↔ (valueOf run : Int) = value := by
  rw [signedText_iff, and_iff_right digits]
  · rintro rest rfl
    exact not_isRun_cons (by decide) rest digits
  · rintro rest rfl
    exact not_isRun_cons (by decide) rest digits

/-- The seconds of a shift with a run of digits as its amount. -/
theorem readShift_run_eq_ok_iff {run : List Char} (digits : IsRun run) {unit : String}
    {length seconds : Int} (isUnit : IsTimeUnit unit length) :
    readShift (run ++ '_' :: unit.toList) = .ok seconds ↔
      valueOf run < 2 ^ 63 ∧ valueOf run * length ≤ (2 ^ 63 - 1) / 1000 ∧
        seconds = valueOf run * length := by
  have greatest : longestShift = (2 ^ 63 - 1) / 1000 := by decide
  have natural : 0 ≤ (valueOf run : Int) * length :=
    Int.mul_nonneg (Int.natCast_nonneg _) (Int.le_of_lt isUnit.pos)
  rw [readShift_append_eq_ok_iff ((SignedText.plain digits).notMem (by decide)), String.ofList_toList]
  constructor
  · rintro ⟨number, other, written, otherUnit, rfl, -, small⟩
    have same : (valueOf run : Int) = number.toInt := (signedText_run_iff digits).1 written
    obtain rfl : length = other := Option.some.inj
      ((unitSeconds?_eq_some_iff.2 isUnit).symm.trans (unitSeconds?_eq_some_iff.2 otherUnit))
    have bound := number.toInt_lt
    rw [← same] at small bound ⊢
    exact ⟨by omega, greatest ▸ small, rfl⟩
  · rintro ⟨fits, small, rfl⟩
    obtain ⟨number, same⟩ := exists_toInt_eq_iff.2
      (show FitsInt64 (valueOf run) from ⟨by omega, by omega⟩)
    refine ⟨number, length, (signedText_run_iff digits).2 same.symm, isUnit, by rw [same], ?_, ?_⟩
    · unfold longestShift
      omega
    · rw [greatest]
      exact small

/-- The instants that a text with a run of digits stands for. -/
theorem readTime_text_eq_ok_iff {now other : Instant} (plain : now.inLeapSecond = false)
    (direction : Direction) {run : List Char} (digits : IsRun run) {unit : String} {length : Int}
    (isUnit : IsTimeUnit unit length) :
    readTime now (direction.text run unit) = .ok other ↔
      (valueOf run < 2 ^ 63 ∧ valueOf run * length ≤ (2 ^ 63 - 1) / 1000) ∧
        now.IsAway other (direction.signed (valueOf run * length)) := by
  rw [readTime_eq_ok_iff (direction.trim_text run isUnit)]
  simp only [readShift_run_eq_ok_iff digits isUnit, Instant.shift?_eq_some_iff plain]
  constructor
  · rintro ⟨seconds, ⟨fits, small, rfl⟩, away⟩
    exact ⟨⟨fits, small⟩, away⟩
  · rintro ⟨⟨fits, small⟩, away⟩
    exact ⟨_, ⟨fits, small, rfl⟩, away⟩

/-- A shift by a number of units keeps within every range: the number is a signed one of 64 bits,
so are the milliseconds of the shift, and the calendar has the second that it leads to. -/
structure ShiftFits (now : Instant) (direction : Direction) (amount : Nat) (length : Int) :
    Prop where
  amount_lt : amount < 2 ^ 63
  seconds_le : amount * length ≤ (2 ^ 63 - 1) / 1000
  first_le : firstSecond ≤ now.seconds + direction.signed (amount * length)
  le_last : now.seconds + direction.signed (amount * length) ≤ lastSecond

/-- A shift of the present moment by a number of units is exact, or a flaw. If it keeps within every
range, its text stands for the instant that is just so many seconds away, at the same fraction of
the second and the same offset to UTC, and the opposite shift leads back from there. In any other
case there is a flaw. -/
theorem readTime_text {now : Instant} (plain : now.inLeapSecond = false) (direction : Direction)
    {run : List Char} (digits : IsRun run) {unit : String} {length : Int}
    (isUnit : IsTimeUnit unit length) :
    (ShiftFits now direction (valueOf run) length →
      ∃ other, readTime now (direction.text run unit) = .ok other ∧
        now.IsAway other (direction.signed (valueOf run * length)) ∧
        readTime other (direction.opposite.text run unit) = .ok now) ∧
    (¬ ShiftFits now direction (valueOf run) length →
      ∃ flaw, readTime now (direction.text run unit) = .error flaw) := by
  constructor
  · intro fits
    obtain ⟨other, away⟩ := Instant.exists_isAway_iff.2 ⟨fits.first_le, fits.le_last⟩
    have back : other.IsAway now (direction.opposite.signed (valueOf run * length)) := by
      rw [direction.signed_opposite]
      exact away.symm
    have small := And.intro fits.amount_lt fits.seconds_le
    have otherPlain : other.inLeapSecond = false := away.inLeapSecond_eq.trans plain
    exact ⟨other, (readTime_text_eq_ok_iff plain direction digits isUnit).2 ⟨small, away⟩, away,
      (readTime_text_eq_ok_iff otherPlain direction.opposite digits isUnit).2 ⟨small, back⟩⟩
  · intro beyond
    cases read : readTime now (direction.text run unit) with
    | error flaw => exact ⟨flaw, rfl⟩
    | ok other =>
      obtain ⟨⟨fits, small⟩, away⟩ := (readTime_text_eq_ok_iff plain direction digits isUnit).1 read
      obtain ⟨low, high⟩ := Instant.exists_isAway_iff.1 ⟨other, away⟩
      exact absurd ⟨fits, small, low, high⟩ beyond

/-- Two days forth and back, and more years than there are. -/
theorem readTime_text_days :
    (∃ other, readTime .epoch "timeNow+2_days".toList = .ok other ∧
      Instant.epoch.IsAway other 172800 ∧ readTime other "timeNow-2_days".toList = .ok .epoch) ∧
    ∃ flaw, readTime .epoch "timeNow-300000_years".toList = .error flaw := by
  have two : IsRun ['2'] := ⟨by decide, by decide⟩
  have many : IsRun "300000".toList := ⟨by decide, by decide⟩
  have days : IsTimeUnit "days" 86400 := by decide
  have years : IsTimeUnit "years" (365 * 86400) := by decide
  have fits : ShiftFits .epoch .forward (valueOf ['2']) 86400 :=
    ⟨by decide, by decide, by decide, by decide⟩
  have beyond : ¬ ShiftFits .epoch .back (valueOf "300000".toList) (365 * 86400) :=
    fun fits => absurd fits.first_le (by decide)
  exact ⟨(readTime_text rfl .forward two days).1 fits,
    (readTime_text rfl .back many years).2 beyond⟩

/-! ### Shifts with two signs -/

/-- The amount of a shift has a minus sign of its own and is not zero. -/
def HasOwnMinus (shift : List Char) : Prop :=
  ∃ run rest, shift = '-' :: run ++ '_' :: rest ∧ IsRun run ∧ valueOf run ≠ 0

/-- An amount is negative exactly when it has a minus sign and is not zero. -/
theorem hasOwnMinus_append_iff {amount : List Char} {value : Int}
    (written : SignedText amount value) (rest : List Char) :
    HasOwnMinus (amount ++ '_' :: rest) ↔ value < 0 := by
  constructor
  · rintro ⟨run, others, same, digits, nonzero⟩
    have minus : SignedText ('-' :: run) (-(valueOf run : Int)) := .minus digits
    -- Neither amount has an underscore, so that both end at the first one.
    have cut := congrArg (cutFirst '_') same
    rw [cutFirst_append (written.notMem (by decide)),
      cutFirst_append (minus.notMem (by decide))] at cut
    obtain ⟨rfl, -⟩ := Prod.mk.inj (Option.some.inj cut)
    obtain ⟨-, rfl⟩ := signedText_minus_iff.1 written
    omega
  · intro negative
    cases written with
    | plain _ => omega
    | plus _ => omega
    | @minus run digits => exact ⟨run, rest, rfl, digits, by omega⟩

/-- The sign of a shift decides where it leads exactly when the amount has no minus sign of its own.
This holds of every shift that is read, whatever the present moment is. -/
theorem Direction.keeps_iff_of_readTime {direction : Direction} {now other : Instant}
    {shift : List Char}
    (read : readTime now (presentWord ++ direction.sign :: shift) = .ok other) :
    direction.Keeps now other ↔ ¬ HasOwnMinus shift := by
  have trimmed : trim (presentWord ++ direction.sign :: shift) =
      presentWord ++ direction.sign :: trimEnd shift :=
    trim_append_cons (by decide) direction.isBlank_sign "imeNow".toList shift
  obtain ⟨seconds, shiftRead, shifted⟩ := (readTime_eq_ok_iff trimmed).1 read
  obtain ⟨amount, unit, unmarked, same⟩ := exists_append_of_readShift shiftRead
  rw [same] at shiftRead
  obtain ⟨number, length, written, isUnit, rfl, -⟩ :=
    (readShift_append_eq_ok_iff unmarked unit seconds).1 shiftRead
  obtain ⟨gap, whole⟩ := trimEnd_prefix shift
  have split : shift = amount ++ '_' :: (unit ++ gap) := by
    rw [← whole, same, List.append_assoc, List.cons_append]
  rw [direction.keeps_iff shifted, split, hasOwnMinus_append_iff written, Int.not_lt,
    Int.mul_nonneg_iff_of_pos_right isUnit.pos]

/-- Five days back with one sign and with two. -/
theorem Direction.keeps_iff_of_readTime_days :
    (∃ other, readTime .epoch "timeNow-5_days".toList = .ok other ∧
      (Direction.back.Keeps .epoch other ↔ ¬ HasOwnMinus "5_days".toList)) ∧
    ∃ other, readTime .epoch "timeNow--5_days".toList = .ok other ∧
      (Direction.back.Keeps .epoch other ↔ ¬ HasOwnMinus "-5_days".toList) := by
  have once : readTime .epoch (presentWord ++ '-' :: "5_days".toList) =
      .ok ⟨-432000, 0, 0, by decide⟩ := rfl
  have twice : readTime .epoch (presentWord ++ '-' :: "-5_days".toList) =
      .ok ⟨432000, 0, 0, by decide⟩ := rfl
  exact ⟨⟨_, once, keeps_iff_of_readTime once⟩, _, twice, keeps_iff_of_readTime twice⟩

/-- A shift back that leads forward, and a shift forward that leads back. -/
theorem Direction.readTime_turned :
    (∃ other, readTime .epoch "timeNow--5_days".toList = .ok other ∧ ¬ other ≤ Instant.epoch) ∧
      ∃ other, readTime .epoch "timeNow+-5_days".toList = .ok other ∧ ¬ Instant.epoch ≤ other :=
  ⟨⟨⟨432000, 0, 0, by decide⟩, rfl, by decide⟩, ⟨-432000, 0, 0, by decide⟩, rfl, by decide⟩

end Rulebook
