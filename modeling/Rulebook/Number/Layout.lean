/-
This file lays a floating-point number out as text.

Every layout writes the shortest digits that read back. What the layouts differ
in is gathered in one record: which numbers are written with an exponent,
whether a whole number keeps a point and a zero, how the exponent is signed, and
which decimal wins a tie.
-/
import Rulebook.Number.Shortest

namespace Rulebook.Number

/-- How floating-point numbers are written. -/
structure Layout where
  /-- The least and greatest exponents that are written without one; none when all are. -/
  positional : Option (Int × Int)
  /-- Whether a whole number ends in a point and a zero. -/
  keepsPoint : Bool
  /-- Whether a positive exponent has a plus sign. -/
  signsExponent : Bool
  /-- Which of two equally near decimals is written. -/
  tie : TieRule

/-- Plain text: no exponent at all, no point on whole numbers, a tie goes up. -/
def Layout.plain : Layout := ⟨none, false, false, .up⟩

/-- JSON text: exponents from -5 to 15 are written positionally, whole numbers keep their
point, a positive exponent is signed. -/
def Layout.json : Layout := ⟨some (-5, 15), true, true, .even⟩

/-- YAML text: as in JSON, but a positive exponent has no sign. -/
def Layout.yaml : Layout := ⟨some (-5, 15), true, false, .even⟩

/-- Digits times a power of ten, written without an exponent. -/
def positionalText (keepsPoint : Bool) (run : List Char) (power : Int) : List Char :=
  if 0 ≤ power then
    run ++ List.replicate power.toNat '0' ++ (if keepsPoint then ['.', '0'] else [])
  else
    let places := (-power).toNat
    if places < run.length then
      run.take (run.length - places) ++ '.' :: run.drop (run.length - places)
    else '0' :: '.' :: List.replicate (places - run.length) '0' ++ run

/-- Digits with the point after the first one and an exponent. -/
def exponentText (signsExponent : Bool) (run : List Char) (exponent : Int) : List Char :=
  let mantissa :=
    match run with
    | first :: second :: more => first :: '.' :: second :: more
    | short => short
  let sign := if signsExponent && decide (0 ≤ exponent) then ['+'] else []
  mantissa ++ 'e' :: sign ++ signedDigits exponent

/-- A positive decimal in a layout. -/
def Layout.decimalText (layout : Layout) (decimal : Decimal) : List Char :=
  let run := digits decimal.coefficient
  let exponent := decimal.power + run.length - 1
  let writesPositional :=
    match layout.positional with
    | none => true
    | some (least, greatest) => decide (least ≤ exponent) && decide (exponent ≤ greatest)
  if writesPositional then positionalText layout.keepsPoint run decimal.power
  else exponentText layout.signsExponent run exponent

/-- A floating-point number in a layout. -/
def Layout.write (layout : Layout) : Double → List Char
  | .nan => "NaN".toList
  | .infinite false => "inf".toList
  | .infinite true => "-inf".toList
  | .finite negative mantissa exponent _ =>
    let sign := if negative then ['-'] else []
    if mantissa = 0 then sign ++ positionalText layout.keepsPoint ['0'] 0
    else sign ++ layout.decimalText (shortest mantissa exponent layout.tie)

end Rulebook.Number
