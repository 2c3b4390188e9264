/-
This file measures values and compares the measure with bounds.

A text is measured by its length in characters, a number by itself. Times and
nested values have no measure. What is not a number lies outside every bound, on
both sides. The empty text is blank: bounds leave it alone.
-/
import Rulebook.Number.Whole
import Rulebook.Value

namespace Rulebook

open Number

/-- What is compared with bounds. -/
inductive Measure where
  /-- The number of characters of a text. -/
  | length (count : Nat)
  /-- A whole number, signed or unsigned. -/
  | whole (number : Int)
  | float (number : Double)
deriving DecidableEq

namespace Measure

/-- The measure of a value, if it has one. -/
def of? : Value → Option Measure
  | .text content => some (.length content.length)
  | .integer number => some (.whole number.toInt)
  | .unsigned number => some (.whole number.toNat)
  | .float number => some (.float number)
  | .temporal _ => none
  | .nested _ => none

/-- Whether characters are counted. -/
def isLength : Measure → Bool
  | length _ => true
  | _ => false

/-- Whether this is the measure of the empty text. -/
def isBlank : Measure → Bool
  | length count => count == 0
  | _ => false

/-- The order of a measure and a bound. A floating-point number is compared with the
floating-point number nearest to the bound. -/
def compare? (measure : Measure) (bound : Int64) : Option Ordering :=
  match measure with
  | length count => some (compare (count : Int) bound.toInt)
  | whole number => some (compare number bound.toInt)
  | float number => number.compare? (.ofInt bound.toInt)

/-- Whether a measure is not known to reach a lower bound. -/
def below (measure : Measure) (bound : Int64) : Bool :=
  match measure.compare? bound with
  | some .eq => false
  | some .gt => false
  | _ => true

/-- Whether a measure is not known to keep an upper bound. -/
def above (measure : Measure) (bound : Int64) : Bool :=
  match measure.compare? bound with
  | some .eq => false
  | some .lt => false
  | _ => true

end Measure

/-- The first number in a text: its first run of digits, with a minus sign if one stands right
before it. None when there is no digit or the number does not fit 64 bits. -/
def firstNumber? (text : List Char) : Option Int64 :=
  let before := text.takeWhile fun character => !isDigit character
  let run := (text.drop before.length).takeWhile isDigit
  let signed := if before.getLast? = some '-' then '-' :: run else run
  if run.isEmpty then none else (readInt64 signed).toOption

end Rulebook
