/-
This file proves which numbers coercion keeps, and which it changes.

A number keeps its value when it passes between the signed and the unsigned kind: it is handed back
where it does not fit. A whole number always becomes a floating-point number, however, and this is
the nearest one. It is the number itself if a mantissa of 53 binary digits holds it, zeros at the
end not counted, and another number otherwise. So coercion between the numeric kinds loses nothing
exactly if the target is no floating-point number or the number fits a mantissa.
-/
import Rulebook.Proofs.Coercion.Text
import Rulebook.Proofs.Coercion.Whole
import Rulebook.Proofs.Number.Rounding
import Mathlib.Algebra.Order.Field.Rat
import Mathlib.Tactic.NormNum

namespace Rulebook

open Number

/-! ### Exact values -/

/-- The sign of a number, as a factor. -/
def Double.signFactor (negative : Bool) : ℚ :=
  if negative then -1 else 1

/-- The rational number that a finite number is; none for the infinities and for what is not a
number. -/
def Double.toRat? : Double → Option ℚ
  | .finite negative mantissa exponent _ =>
    some (signFactor negative * mantissa * 2 ^ exponent)
  | _ => none

/-- The rational number that a value is; none for a value that is no finite number. -/
def Value.toRat? : Value → Option ℚ
  | .integer number => some number.toInt
  | .unsigned number => some number.toNat
  | .float number => number.toRat?
  | _ => none

/-- A kind of numbers. -/
def Kind.IsNumeric (kind : Kind) : Prop :=
  kind.IsWhole ∨ kind = .float

theorem Value.Denotes.toRat?_eq {value : Value} {number : Int} (denotes : value.Denotes number) :
    value.toRat? = some (number : ℚ) := by
  cases value with
  | integer held =>
    subst denotes
    rfl
  | unsigned held =>
    subst denotes
    rfl
  | _ => exact denotes.elim

theorem Double.cast_unitsPerOne : (unitsPerOne : ℚ) = (2 : ℚ) ^ ((1074 : ℕ) : ℤ) := by
  unfold unitsPerOne
  generalize 1074 = least
  rw [zpow_natCast, Nat.cast_pow]
  rfl

theorem Double.cast_units (negative : Bool) (mantissa : Nat) (exponent : Int) :
    (units negative mantissa exponent : ℚ) =
      signFactor negative * mantissa * 2 ^ (exponent + 1074).toNat := by
  unfold units signFactor
  cases negative with
  | false => simp
  | true => simp

/-- A finite number is its count of smallest units, divided by how many of them make one. -/
theorem Double.toRat?_of_orderKey {number : Double} {value : Int} (finite : number.isFinite = true)
    (key : number.orderKey = some (value * unitsPerOne)) : number.toRat? = some (value : ℚ) := by
  cases number with
  | nan => cases finite
  | infinite negative => cases finite
  | finite negative mantissa exponent canonical =>
    have least : 0 ≤ exponent + (1074 : ℕ) := Int.add_nonneg_iff_neg_le.2 canonical.2.1
    have scale : (2 : ℚ) ^ exponent * unitsPerOne = 2 ^ (exponent + (1074 : ℕ)).toNat := by
      rw [cast_unitsPerOne, ← zpow_add₀ two_ne_zero, ← zpow_natCast, Int.toNat_of_nonneg least]
    have counted : units negative mantissa exponent = value * unitsPerOne := Option.some.inj key
    have positive : (unitsPerOne : ℚ) ≠ 0 := Nat.cast_ne_zero.2 unitsPerOne_pos.ne'
    refine congrArg some (mul_right_cancel₀ positive ?_)
    calc signFactor negative * mantissa * 2 ^ exponent * unitsPerOne
        = signFactor negative * mantissa * 2 ^ (exponent + (1074 : ℕ)).toNat := by
          rw [mul_assoc, scale]
      _ = (units negative mantissa exponent : ℚ) := (cast_units negative mantissa exponent).symm
      _ = value * unitsPerOne := by rw [counted, Int.cast_mul, Int.cast_natCast]

/-! ### Conversion to floating-point numbers -/

/-- The floating-point number made of a whole number is the nearest one. -/
theorem Double.toRat?_ofInt {number : Int} (small : number.natAbs < 2 ^ 64) :
    (ofInt number).toRat? = some (nearestInt number : ℚ) :=
  toRat?_of_orderKey (isFinite_ofInt small) (orderKey_ofInt small)

/-- A whole number always becomes a floating-point number. -/
theorem Value.Denotes.reconcile_float {value : Value} {number : Int}
    (denotes : value.Denotes number) :
    reconcile .float value = .ok (.float (.ofInt number)) := by
  cases value with
  | integer held =>
    obtain rfl : held.toInt = number := denotes
    rfl
  | unsigned held =>
    obtain rfl : (held.toNat : Int) = number := denotes
    rfl
  | _ => exact denotes.elim

/-! ### What coercion keeps -/

/-- Coercion of a whole number to a numeric kind hands the number back where it gives none. What it
gives as a floating-point number is the nearest one. So it always gives the same number exactly if
the kind is another one, or if the number fits a mantissa. -/
theorem reconcile_lossless_iff {held : Value} {number : Int} (denotes : held.Denotes number)
    {declared : Kind} (numeric : declared.IsNumeric) :
    (∀ mismatch, reconcile declared held = .error mismatch → mismatch = held) ∧
      (declared = .float →
        ∃ given, reconcile declared held = .ok given ∧
          given.toRat? = some (nearestInt number : ℚ)) ∧
      ((∀ given, reconcile declared held = .ok given → given.toRat? = held.toRat?) ↔
        (declared = .float → FitsMantissa number)) := by
  have rounded : (Value.float (.ofInt number)).toRat? = some (nearestInt number : ℚ) :=
    Double.toRat?_ofInt denotes.natAbs_lt
  refine ⟨fun _ => eq_of_reconcile_eq_error, ?nearest, ?lossless⟩
  case nearest =>
    rintro rfl
    exact ⟨_, denotes.reconcile_float, rounded⟩
  case lossless =>
    rw [denotes.toRat?_eq]
    rcases numeric with whole | rfl
    · have other : declared ≠ .float := by
        rcases whole with rfl | rfl <;> exact Kind.noConfusion
      refine iff_of_true (fun given made => ?_) fun isFloat => absurd isFloat other
      exact ((denotes.reconcile_eq_ok_iff whole).1 made).2.toRat?_eq
    · rw [denotes.reconcile_float, ← nearestInt_eq_self_iff]
      simp [rounded]

/-- The largest number below `2 ^ 64` that fits a mantissa becomes a floating-point number without a
loss. -/
theorem reconcile_lossless_large :
    let held : Value := .unsigned 18446744073709549568
    held.Denotes 18446744073709549568 ∧ FitsMantissa 18446744073709549568 ∧
      reconcile .float held = .ok (.float (.ofInt 18446744073709549568)) ∧
      (Value.float (.ofInt 18446744073709549568)).toRat? = held.toRat? := by
  intro held
  have denotes : held.Denotes 18446744073709549568 := rfl
  have fits : FitsMantissa 18446744073709549568 := ⟨2 ^ 53 - 1, 11, by decide, by decide⟩
  have made := denotes.reconcile_float
  exact ⟨denotes, fits, made,
    (reconcile_lossless_iff denotes (.inr rfl)).2.2.2 (fun _ => fits) _ made⟩

/-- The first whole number that is no floating-point number is changed, and so is the largest one of
64 bits. -/
theorem reconcile_float_changes_number :
    let next : Value := .integer 9007199254740993
    let last : Value := .unsigned 18446744073709551615
    (∃ given, reconcile .float next = .ok given ∧ given.toRat? = some 9007199254740992 ∧
        next.toRat? = some 9007199254740993) ∧
      ∃ given, reconcile .float last = .ok given ∧ given.toRat? = some 18446744073709551616 ∧
        last.toRat? = some 18446744073709551615 := by
  intro next last
  have nextDenotes : next.Denotes 9007199254740993 := rfl
  have lastDenotes : last.Denotes 18446744073709551615 := rfl
  have nextRounded : nearestInt 9007199254740993 = 9007199254740992 := by decide +kernel
  have lastRounded : nearestInt 18446744073709551615 = 18446744073709551616 := by decide +kernel
  have nextMade := Double.toRat?_ofInt nextDenotes.natAbs_lt
  have lastMade := Double.toRat?_ofInt lastDenotes.natAbs_lt
  rw [nextRounded] at nextMade
  rw [lastRounded] at lastMade
  exact ⟨⟨_, nextDenotes.reconcile_float, nextMade, nextDenotes.toRat?_eq⟩,
    ⟨_, lastDenotes.reconcile_float, lastMade, lastDenotes.toRat?_eq⟩⟩

end Rulebook
