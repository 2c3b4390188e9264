/-
This file writes natural numbers as decimal digits and reads digits back.

`digits` writes without leading zeros, and `valueOf` reads any run of digits,
leading zeros included. The main statement is that reading undoes writing. The
digits of base sixteen stand beside them.
-/
import Rulebook.Number.Power

namespace Rulebook.Number

/-- The value of an ASCII decimal digit. -/
def digitValue? (character : Char) : Option Nat :=
  if '0' ≤ character ∧ character ≤ '9' then some (character.toNat - '0'.toNat) else none

/-- Whether a character is an ASCII decimal digit. -/
def isDigit (character : Char) : Bool :=
  (digitValue? character).isSome

/-- The digit that stands for a number below ten. -/
def digitOf (value : Nat) : Char :=
  match value with
  | 0 => '0'
  | 1 => '1'
  | 2 => '2'
  | 3 => '3'
  | 4 => '4'
  | 5 => '5'
  | 6 => '6'
  | 7 => '7'
  | 8 => '8'
  | _ => '9'

/-- The decimal digits of a number, without leading zeros. -/
def digits (value : Nat) : List Char :=
  if value < 10 then [digitOf value]
  else digits (value / 10) ++ [digitOf (value % 10)]
termination_by value
decreasing_by omega

/-- The digits of a number, with zeros in front up to a given width. -/
def paddedDigits (width value : Nat) : List Char :=
  let written := digits value
  List.replicate (width - written.length) '0' ++ written

/-- The number that a run of digits stands for; characters that are no digit count nothing. -/
def valueOf (run : List Char) : Nat :=
  run.foldl (fun total character => total * 10 + (digitValue? character).getD 0) 0

/-- An integer in decimal, a minus sign in front when it is negative. -/
def signedDigits (value : Int) : List Char :=
  if value < 0 then '-' :: digits value.natAbs else digits value.natAbs

/-! ### Base sixteen -/

/-- The value of a digit of base sixteen, in either case. -/
def hexValue? (character : Char) : Option Nat :=
  if 'a' ≤ character ∧ character ≤ 'f' then some (character.toNat - 'a'.toNat + 10)
  else if 'A' ≤ character ∧ character ≤ 'F' then some (character.toNat - 'A'.toNat + 10)
  else digitValue? character

/-- The digit of base sixteen that stands for a number below sixteen, in lower case. -/
def hexDigitOf (value : Nat) : Char :=
  if value < 10 then digitOf value else Char.ofNat ('a'.toNat + (value - 10))

/-! ### Reading undoes writing -/

theorem digitValue?_digitOf (value : Nat) (small : value < 10) :
    digitValue? (digitOf value) = some value := by
  match value, small with
  | 0, _ | 1, _ | 2, _ | 3, _ | 4, _ | 5, _ | 6, _ | 7, _ | 8, _ | 9, _ => decide

theorem isDigit_digitOf (value : Nat) : isDigit (digitOf value) = true := by
  unfold digitOf
  split <;> decide

theorem digits_ne_nil (value : Nat) : digits value ≠ [] := by
  unfold digits
  split <;> simp

theorem all_isDigit_digits (value : Nat) : (digits value).all isDigit = true := by
  induction value using Nat.strongRecOn with
  | _ value induction =>
    unfold digits
    split
    · simp [isDigit_digitOf]
    · next large =>
      have smaller : value / 10 < value := by omega
      simp only [List.all_append, induction _ smaller, List.all_cons, isDigit_digitOf, List.all_nil,
        Bool.and_self]

theorem valueOf_append_digit (run : List Char) (character : Char) (value : Nat)
    (known : digitValue? character = some value) :
    valueOf (run ++ [character]) = valueOf run * 10 + value := by
  simp [valueOf, List.foldl_append, known]

/-- Reading the written digits of a number gives the number. -/
theorem valueOf_digits (value : Nat) : valueOf (digits value) = value := by
  induction value using Nat.strongRecOn with
  | _ value induction =>
    unfold digits
    split
    · next small =>
      have read := valueOf_append_digit [] (digitOf value) value (digitValue?_digitOf value small)
      simpa [valueOf] using read
    · next large =>
      have smaller : value / 10 < value := by omega
      rw [valueOf_append_digit _ _ (value % 10) (digitValue?_digitOf _ (by omega)),
        induction _ smaller]
      omega

end Rulebook.Number
