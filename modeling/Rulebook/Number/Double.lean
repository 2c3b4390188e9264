/-
This file defines the binary floating-point numbers of 64 bits, as values.

A finite number is a sign, a mantissa and an exponent, and stands for
`± mantissa * 2 ^ exponent`. Every finite number has one such form, the
canonical one, which the type enforces; the two zeros differ in their sign. All
infinities and all quantities that are no number are three further values.

Numbers come into being by rounding a ratio of naturals to the nearest number,
a half going to the even mantissa, and ratios too large for the format become
infinite. They are compared through an exact integer, their count of smallest
units.
-/
import Rulebook.Number.Power

namespace Rulebook

namespace Double

/-- The one form that a finite number is kept in: at most 53 binary digits, exactly 53 unless
the exponent is the least one. -/
def Canonical (mantissa : Nat) (exponent : Int) : Prop :=
  mantissa < 2 ^ 53 ∧ -1074 ≤ exponent ∧ exponent ≤ 971 ∧ (2 ^ 52 ≤ mantissa ∨ exponent = -1074)

instance (mantissa : Nat) (exponent : Int) : Decidable (Canonical mantissa exponent) := by
  unfold Canonical
  infer_instance

end Double

/-- A binary floating-point number of 64 bits. -/
inductive Double where
  /-- Not a number. -/
  | nan
  /-- One of the two infinities. -/
  | infinite (negative : Bool)
  /-- The number `± mantissa * 2 ^ exponent`. -/
  | finite (negative : Bool) (mantissa : Nat) (exponent : Int)
      (canonical : Double.Canonical mantissa exponent)
deriving DecidableEq

namespace Number

/-! ### Rounding a ratio to a binary format -/

/-- A quotient rounded to the nearest natural, a half going to the even one. -/
def roundQuotient (numerator denominator : Nat) : Nat :=
  let quotient := numerator / denominator
  let twice := 2 * (numerator % denominator)
  if twice < denominator ∨ (twice = denominator ∧ quotient % 2 = 0) then quotient
  else quotient + 1

/-- The ratio divided by a power of two, as a ratio again. -/
def descale (numerator denominator : Nat) (exponent : Int) : Nat × Nat :=
  if 0 ≤ exponent then (numerator, denominator * 2 ^ exponent.toNat)
  else (numerator * 2 ^ (-exponent).toNat, denominator)

/-- A binary floating-point format: how many binary digits a mantissa has, and the least
exponent. -/
structure BinaryFormat where
  precision : Nat
  least : Int

/-- The format of 64 bits. -/
def BinaryFormat.double : BinaryFormat := ⟨53, -1074⟩

/-- The format of 32 bits. -/
def BinaryFormat.single : BinaryFormat := ⟨24, -149⟩

/-- The exponent at which a positive ratio has as many binary digits before its point as a
mantissa of the format, but not less than the least exponent. -/
def BinaryFormat.exponentOf (format : BinaryFormat) (numerator denominator : Nat) : Int :=
  let guess : Int := (numerator.log2 : Int) - denominator.log2 - format.precision + 1
  let (top, bottom) := descale numerator denominator guess
  let fitted := if top / bottom < 2 ^ (format.precision - 1) then guess - 1 else guess
  max fitted format.least

/-- Mantissa and exponent of the number of the format nearest to a positive ratio. The exponent
has no upper limit here. -/
def BinaryFormat.nearest (format : BinaryFormat) (numerator denominator : Nat) : Nat × Int :=
  let exponent := format.exponentOf numerator denominator
  let (top, bottom) := descale numerator denominator exponent
  let mantissa := roundQuotient top bottom
  if mantissa = 2 ^ format.precision then (2 ^ (format.precision - 1), exponent + 1)
  else (mantissa, exponent)

end Number

namespace Double

open Number

/-! ### Making numbers -/

/-- Zero, with a sign. -/
def zero (negative : Bool) : Double :=
  .finite negative 0 (-1074) (by decide)

/-- The number of a canonical mantissa and exponent; an exponent beyond the format makes it
infinite. -/
def ofScaled (negative : Bool) (mantissa : Nat) (exponent : Int) : Double :=
  if canonical : Canonical mantissa exponent then .finite negative mantissa exponent canonical
  else .infinite negative

/-- The number nearest to a ratio. -/
def ofRatio (negative : Bool) (numerator denominator : Nat) : Double :=
  if numerator = 0 then zero negative
  else
    let (mantissa, exponent) := BinaryFormat.double.nearest numerator denominator
    ofScaled negative mantissa exponent

/-- The number nearest to a ratio times a power of two. -/
def ofScaledRatio (negative : Bool) (numerator denominator : Nat) (exponent : Int) : Double :=
  let (top, bottom) := descale numerator denominator (-exponent)
  ofRatio negative top bottom

/-- The number nearest to an integer. -/
def ofInt (value : Int) : Double :=
  ofRatio (value < 0) value.natAbs 1

/-- The number nearest to a ratio among those that fit 32 bits, infinite when the ratio is too
large for them. -/
def ofRatioSingle (negative : Bool) (numerator denominator : Nat) : Double :=
  if numerator = 0 then zero negative
  else
    let (mantissa, exponent) := BinaryFormat.single.nearest numerator denominator
    if exponent ≤ 104 then ofScaledRatio negative mantissa 1 exponent else .infinite negative

/-! ### Looking at numbers -/

/-- Whether the number is one of the two zeros. -/
def isZero : Double → Bool
  | .finite _ mantissa _ _ => mantissa == 0
  | _ => false

/-- Whether the number is finite. -/
def isFinite : Double → Bool
  | .finite .. => true
  | _ => false

/-- How many of the smallest units, `2 ^ -1074`, a finite number counts. -/
def units (negative : Bool) (mantissa : Nat) (exponent : Int) : Int :=
  let count : Int := mantissa * 2 ^ (exponent + 1074).toNat
  if negative then -count else count

/-- A key in which numbers are ordered; the infinities lie beyond every finite number, and what
is not a number has none. -/
def orderKey : Double → Option Int
  | .nan => none
  | .infinite negative => some (if negative then -(2 ^ 2099) else 2 ^ 2099)
  | .finite negative mantissa exponent _ => some (units negative mantissa exponent)

/-- The order of two numbers, none when one of them is not a number. -/
def compare? (left right : Double) : Option Ordering :=
  match left.orderKey, right.orderKey with
  | some leftKey, some rightKey => some (compare leftKey rightKey)
  | _, _ => none

/-- Whether two numbers are equal as numbers: the zeros are, and what is not a number is equal
to nothing. -/
def equals (left right : Double) : Bool :=
  left.compare? right == some .eq

/-! ### Rounded products and quotients -/

/-- The product of two numbers, rounded. -/
def times : Double → Double → Double
  | .finite leftNegative leftMantissa leftExponent _,
    .finite rightNegative rightMantissa rightExponent _ =>
    ofScaledRatio (leftNegative != rightNegative) (leftMantissa * rightMantissa) 1
      (leftExponent + rightExponent)
  | .finite leftNegative leftMantissa _ _, .infinite rightNegative =>
    if leftMantissa = 0 then .nan else .infinite (leftNegative != rightNegative)
  | .infinite leftNegative, .finite rightNegative rightMantissa _ _ =>
    if rightMantissa = 0 then .nan else .infinite (leftNegative != rightNegative)
  | .infinite leftNegative, .infinite rightNegative => .infinite (leftNegative != rightNegative)
  | .nan, _ => .nan
  | _, .nan => .nan

/-- The quotient of two numbers, rounded. -/
def dividedBy : Double → Double → Double
  | .finite leftNegative leftMantissa leftExponent _,
    .finite rightNegative rightMantissa rightExponent _ =>
    if rightMantissa = 0 then
      if leftMantissa = 0 then .nan else .infinite (leftNegative != rightNegative)
    else
      ofScaledRatio (leftNegative != rightNegative) leftMantissa rightMantissa
        (leftExponent - rightExponent)
  | .finite leftNegative _ _ _, .infinite rightNegative => zero (leftNegative != rightNegative)
  | .infinite leftNegative, .finite rightNegative _ _ _ => .infinite (leftNegative != rightNegative)
  | .infinite _, .infinite _ => .nan
  | .nan, _ => .nan
  | _, .nan => .nan

/-- The opposite number. -/
def negate : Double → Double
  | .nan => .nan
  | .infinite negative => .infinite !negative
  | .finite negative mantissa exponent canonical => .finite (!negative) mantissa exponent canonical

end Double

end Rulebook
