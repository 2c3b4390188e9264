/-
This file finds the shortest decimal that reads back as a given floating-point
number.

The decimals that read back are those between the midpoints to the two
neighbours; the midpoints themselves belong to them when the mantissa is even.
For one digit, two digits, and so on, the two decimals of that many digits next
to the number are tried, and the first length at which one of them lies between
the midpoints wins. Of two the nearer is taken, and a rule decides an exact tie.
-/
import Rulebook.Number.Digits
import Rulebook.Number.Double

namespace Rulebook.Number

/-- Which of two equally near decimals is taken. -/
inductive TieRule where
  /-- The one with the even last digit. -/
  | even
  /-- The larger one. -/
  | up
deriving DecidableEq, Repr

/-- A positive decimal `coefficient * 10 ^ power`. -/
structure Decimal where
  coefficient : Nat
  power : Int
deriving DecidableEq, Repr

/-- The positive number `mantissa * 2 ^ exponent` against a decimal grid: in a common unit,
the number, the midpoints to its neighbours and the step of the grid. -/
structure Grid where
  low : Nat
  value : Nat
  high : Nat
  step : Nat
deriving Repr

/-- The grid of the multiples of `10 ^ power`, in a unit in which all four quantities are
naturals. -/
def Grid.of (mantissa : Nat) (exponent power : Int) : Grid :=
  let quarter := exponent - 2
  let scale := 2 ^ quarter.toNat * 10 ^ (-power).toNat
  let below := if mantissa = 2 ^ 52 ∧ exponent ≠ -1074 then 1 else 2
  { low := (4 * mantissa - below) * scale
    value := 4 * mantissa * scale
    high := (4 * mantissa + 2) * scale
    step := 10 ^ power.toNat * 2 ^ (-quarter).toNat }

/-- Whether a multiple of the step reads back as the number. -/
def Grid.readsBack (grid : Grid) (closed : Bool) (count : Nat) : Bool :=
  let point := count * grid.step
  if closed then grid.low ≤ point && point ≤ grid.high
  else grid.low < point && point < grid.high

/-- The multiple of the step that reads back and is nearest to the number, if one reads back. -/
def Grid.nearest? (grid : Grid) (closed : Bool) (tie : TieRule) : Option Nat :=
  let count := grid.value / grid.step
  let lower := grid.readsBack closed count
  let upper := grid.readsBack closed (count + 1)
  if lower && upper then
    let down := grid.value - count * grid.step
    let up := (count + 1) * grid.step - grid.value
    if down < up then some count
    else if up < down then some (count + 1)
    else
      match tie with
      | .even => some (if count % 2 = 0 then count else count + 1)
      | .up => some (count + 1)
  else if lower then some count
  else if upper then some (count + 1)
  else none

/-- Whether `mantissa * 2 ^ exponent` is at least `10 ^ power`. -/
def reachesPower (mantissa : Nat) (exponent power : Int) : Bool :=
  10 ^ power.toNat * 2 ^ (-exponent).toNat ≤ mantissa * 2 ^ exponent.toNat * 10 ^ (-power).toNat

/-- Raises a power of ten, at most `steps` times, while the number reaches the next one. -/
def raisePower (mantissa : Nat) (exponent power : Int) : Nat → Int
  | 0 => power
  | steps + 1 =>
    if reachesPower mantissa exponent (power + 1) then
      raisePower mantissa exponent (power + 1) steps
    else power

/-- The greatest power of ten that a positive number reaches. It is found from the binary
logarithm, which gives it up to two. -/
def leadingPower (mantissa : Nat) (exponent : Int) : Int :=
  let binary : Int := mantissa.log2 + exponent
  raisePower mantissa exponent (binary * 30103 / 100000 - 2) 4

/-- The decimal without trailing zeros; `steps` bounds how many are removed. -/
def Decimal.reduce (decimal : Decimal) : Nat → Decimal
  | 0 => decimal
  | steps + 1 =>
    if decimal.coefficient % 10 = 0 then
      Decimal.reduce ⟨decimal.coefficient / 10, decimal.power + 1⟩ steps
    else decimal

/-- Tries the grids of more and more digits; the finest grid, of 17 digits, always holds a
decimal that reads back. -/
def searchShortest (mantissa : Nat) (exponent leading : Int) (tie : TieRule) (count : Nat) :
    Nat → Decimal
  | 0 => ⟨mantissa * 2 ^ exponent.toNat, 0⟩
  | steps + 1 =>
    let power := leading - count + 1
    match (Grid.of mantissa exponent power).nearest? (mantissa % 2 == 0) tie with
    | some coefficient => ⟨coefficient, power⟩
    | none => searchShortest mantissa exponent leading tie (count + 1) steps

/-- The shortest decimal that reads back as a positive number, the nearest one of those. -/
def shortest (mantissa : Nat) (exponent : Int) (tie : TieRule) : Decimal :=
  (searchShortest mantissa exponent (leadingPower mantissa exponent) tie 1 17).reduce 20

end Rulebook.Number
