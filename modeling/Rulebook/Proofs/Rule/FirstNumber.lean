/-
This file proves when a text has a first number.

Every text with a digit splits into what stands before its first run of digits, the run, and
what follows it. The run is the number, and a minus sign directly before it is its sign. So
there is no first number exactly when there is no digit, or when that number does not fit 64
bits.
-/
import Rulebook.Proofs.Number.Whole
import Rulebook.Proofs.Text.Span
import Rulebook.Rule.Measure
import Mathlib.Data.List.TakeWhile

namespace Rulebook

open Number Text

/-- A text split at its first run of digits. -/
structure FirstRun (text before run after : List Char) : Prop where
  parts : text = before ++ (run ++ after)
  early : ∀ character ∈ before, isDigit character = false
  digits : IsRun run
  ends : BeginsOutside isDigit after

/-- What a run of digits is worth; a minus sign counts if it stands directly before. -/
def signedRun (before run : List Char) : Int :=
  if before.getLast? = some '-' then -(valueOf run : Int) else valueOf run

variable {text before run after : List Char}

theorem forall_isDigit_eq_false (none : text.all (!isDigit ·) = true) :
    ∀ character ∈ text, isDigit character = false := by
  simpa using none

/-- A text with a digit has a first run of digits. -/
theorem exists_firstRun {digit : Char} (member : digit ∈ text) (isOne : isDigit digit = true) :
    ∃ before run after, FirstRun text before run after := by
  have early : ∀ character ∈ text.takeWhile (!isDigit ·), isDigit character = false :=
    forall_isDigit_eq_false List.all_takeWhile
  have outside := beginsOutside_dropWhile (!isDigit ·) text
  have parts : text.takeWhile (!isDigit ·) ++ text.dropWhile (!isDigit ·) = text :=
    List.takeWhile_append_dropWhile
  generalize text.takeWhile (!isDigit ·) = before at early parts
  generalize text.dropWhile (!isDigit ·) = rest at outside parts
  have nonempty : rest.takeWhile isDigit ≠ [] := by
    cases rest with
    | nil =>
      rw [List.append_nil] at parts
      rw [early digit (parts ▸ member)] at isOne
      cases isOne
    | cons first more =>
      have begins : isDigit first = true := by simpa using outside first rfl
      rw [List.takeWhile_cons_of_pos begins]
      exact List.cons_ne_nil _ _
  exact ⟨before, rest.takeWhile isDigit, rest.dropWhile isDigit, {
    parts := by rw [List.takeWhile_append_dropWhile, parts]
    early := early
    digits := ⟨nonempty, List.all_takeWhile⟩
    ends := beginsOutside_dropWhile isDigit rest }⟩

/-- The first number is the first run of digits with its sign. -/
theorem FirstRun.firstNumber?_eq (first : FirstRun text before run after) :
    firstNumber? text =
      (readInt64 (if before.getLast? = some '-' then '-' :: run else run)).toOption := by
  obtain ⟨nonempty, all⟩ := first.digits
  have starts : BeginsOutside (!isDigit ·) (run ++ after) := by
    cases run with
    | nil => exact absurd rfl nonempty
    | cons digit rest =>
      exact beginsOutside_cons (by simp [isDigit_of_mem first.digits List.mem_cons_self]) _
  have taken : text.takeWhile (!isDigit ·) = before := by
    rw [first.parts]
    exact takeWhile_append_of_beginsOutside (fun character member => by
      simp [first.early character member]) starts
  have left : text.drop before.length = run ++ after := by
    rw [first.parts, List.drop_left]
  have found : (run ++ after).takeWhile isDigit = run :=
    takeWhile_append_of_beginsOutside (List.all_eq_true.1 all) first.ends
  unfold firstNumber?
  simp only [taken, left, found]
  rw [if_neg (by simpa using nonempty)]

theorem signedText_signedRun_iff (digits : IsRun run) (before : List Char) (value : Int) :
    SignedText (if before.getLast? = some '-' then '-' :: run else run) value ↔
      signedRun before run = value := by
  unfold signedRun
  split
  · rw [signedText_minus_iff]
    exact and_iff_right digits
  · have unsigned (sign : Char) (other : isDigit sign = false) (rest : List Char) :
        run ≠ sign :: rest := by
      rintro rfl
      exact not_isRun_cons other rest digits
    rw [signedText_iff (unsigned '+' (by decide)) (unsigned '-' (by decide))]
    exact and_iff_right digits

theorem FirstRun.firstNumber?_eq_none_iff (first : FirstRun text before run after) :
    firstNumber? text = none ↔ ¬ FitsInt64 (signedRun before run) := by
  rw [first.firstNumber?_eq, toOption_readInt64_eq_none_iff, ← exists_toInt_eq_iff]
  simp only [signedText_signedRun_iff first.digits, eq_comm]

/-- The first number is what the first run of digits is worth, if that fits 64 bits. -/
theorem FirstRun.firstNumber?_eq_ite (first : FirstRun text before run after) :
    firstNumber? text =
      if FitsInt64 (signedRun before run) then some (Int64.ofInt (signedRun before run))
      else none := by
  split
  · next fits =>
    rw [first.firstNumber?_eq, toOption_eq_some_iff, readInt64_eq_ok_iff,
      signedText_signedRun_iff first.digits, Int64.toInt_ofInt_of_le fits.1 fits.2]
  · next wide => exact first.firstNumber?_eq_none_iff.2 wide

/-- A text has a first run of digits, or no digit at all. -/
theorem exists_firstRun_or_noDigit (text : List Char) :
    (∃ before run after, FirstRun text before run after) ∨
      ∀ character ∈ text, isDigit character = false := by
  by_cases some : ∃ digit ∈ text, isDigit digit = true
  · obtain ⟨digit, member, isOne⟩ := some
    exact .inl (exists_firstRun member isOne)
  · exact .inr (by simpa only [not_exists, not_and, Bool.not_eq_true] using some)

theorem firstNumber?_eq_none (noDigit : ∀ character ∈ text, isDigit character = false) :
    firstNumber? text = none := by
  have taken : text.takeWhile (!isDigit ·) = text :=
    List.takeWhile_eq_self_iff.2 fun character member => by simp [noDigit character member]
  unfold firstNumber?
  simp [taken]

/-- There is no first number exactly when there is no digit, or when the first run of digits with
its sign does not fit 64 bits. -/
theorem firstNumber?_eq_none_iff :
    firstNumber? text = none ↔
      (∀ character ∈ text, isDigit character = false) ∨
        ∃ before run after, FirstRun text before run after ∧
          ¬ FitsInt64 (signedRun before run) := by
  rcases exists_firstRun_or_noDigit text with ⟨before, run, after, first⟩ | noDigit
  · constructor
    · exact fun none => .inr ⟨before, run, after, first, first.firstNumber?_eq_none_iff.1 none⟩
    · rintro (noDigit | ⟨_, _, _, other, wide⟩)
      · exact firstNumber?_eq_none noDigit
      · exact other.firstNumber?_eq_none_iff.2 wide
  · exact iff_of_true (firstNumber?_eq_none noDigit) (.inl noDigit)

end Rulebook
