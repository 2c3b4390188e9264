/-
This file proves what is needed of decimal digits of a fixed width: padding with
zeros keeps the value, and a number that the width can hold takes up exactly the
width.
-/
import Rulebook.Number.Digits

namespace Rulebook.Number

theorem isDigit_bounds {character : Char} (digit : isDigit character = true) :
    48 ≤ character.toNat ∧ character.toNat ≤ 57 := by
  unfold isDigit digitValue? at digit
  split at digit
  · next range => exact range
  · cases digit

/-- A number below a power of ten has no more digits than the power. -/
theorem length_digits_le {width value : Nat} (positive : 0 < width) (small : value < 10 ^ width) :
    (digits value).length ≤ width := by
  induction width generalizing value with
  | zero => exact absurd positive (Nat.lt_irrefl 0)
  | succ width induction =>
    unfold digits
    split
    · exact Nat.le_add_left 1 width
    · next large =>
      have wide : 0 < width := by
        rcases Nat.eq_zero_or_pos width with rfl | wide
        · exact absurd small large
        · exact wide
      have shorter : value / 10 < 10 ^ width := by
        rw [Nat.pow_succ] at small
        exact Nat.div_lt_of_lt_mul (by rwa [Nat.mul_comm])
      rw [List.length_append]
      exact Nat.succ_le_succ (induction wide shorter)

/-- Padded digits of a number that the width can hold take up the width. -/
theorem length_paddedDigits {width value : Nat} (positive : 0 < width)
    (small : value < 10 ^ width) : (paddedDigits width value).length = width := by
  have fits := length_digits_le positive small
  simp only [paddedDigits, List.length_append, List.length_replicate]
  omega

theorem all_isDigit_paddedDigits (width value : Nat) :
    (paddedDigits width value).all isDigit = true := by
  have zero : isDigit '0' = true := by decide
  simp only [paddedDigits, List.all_append, all_isDigit_digits, List.all_replicate, zero,
    Bool.and_true, ite_self]

/-- Zeros in front of a run of digits do not change its value. -/
theorem valueOf_replicate_append (count : Nat) (run : List Char) :
    valueOf (List.replicate count '0' ++ run) = valueOf run := by
  induction count with
  | zero => rfl
  | succ count induction => exact induction

/-- Reading padded digits gives the number. -/
theorem valueOf_paddedDigits (width value : Nat) : valueOf (paddedDigits width value) = value := by
  unfold paddedDigits
  rw [valueOf_replicate_append, valueOf_digits]

/-- What is taken of digits before something else is all the digits. -/
theorem takeWhile_isDigit_append {run : List Char} (all : run.all isDigit = true)
    {next : Char} (other : isDigit next = false) (rest : List Char) :
    (run ++ next :: rest).takeWhile isDigit = run := by
  rw [List.takeWhile_append_of_pos (List.all_eq_true.1 all),
    List.takeWhile_cons_of_neg (by simp [other]), List.append_nil]

end Rulebook.Number
