/-
This file applies the rules that bound a value.

A range takes two whole numbers, a minimum or a maximum the first number in its
arguments, so that words may stand around it. Arguments are looked at before the
value, except that a value without a measure is reported first; and bounds are
inclusive.
-/
import Rulebook.Rule.Directive
import Rulebook.Rule.Measure
import Rulebook.Rule.Violation

namespace Rulebook

open Number

namespace Directive

/-- The two whole numbers that are the arguments, if that is what they are. -/
def pair? (directive : Directive) : Option (Int64 × Int64) :=
  match directive.argumentList with
  | [low, high] =>
    match readInt64 low, readInt64 high with
    | .ok low, .ok high => some (low, high)
    | _, _ => none
  | _ => none

/-- The rule that a value lies in a range. -/
def between (directive : Directive) (value : Value) : Option Violation :=
  match Measure.of? value with
  | none => some (.inapplicable "between" value.kind)
  | some measure =>
    match directive.pair? with
    | none => some .badRange
    | some (low, high) =>
      if measure.isBlank then none
      else if measure.below low || measure.above high then
        some (.outside low high measure.isLength)
      else none

/-- The rule that a value is not too small. -/
def minimum (directive : Directive) (value : Value) : Option Violation :=
  match Measure.of? value with
  | none => some (.inapplicable "min" value.kind)
  | some measure =>
    match firstNumber? directive.arguments with
    | none => some .badMinimum
    | some bound =>
      if measure.isBlank then none
      else if measure.below bound then some (.tooSmall bound measure.isLength)
      else none

/-- The rule that a value is not too large. -/
def maximum (directive : Directive) (value : Value) : Option Violation :=
  match Measure.of? value with
  | none => some (.inapplicable "max" value.kind)
  | some measure =>
    match firstNumber? directive.arguments with
    | none => some .badMaximum
    | some bound =>
      if measure.isBlank then none
      else if measure.above bound then some (.tooLarge bound measure.isLength)
      else none

/-! ### Words -/

/-- The number of words in a text: one more than its blanks of the one kind that the space bar
makes. -/
def countWords (text : List Char) : Nat :=
  text.count ' ' + 1

/-- The rule that the raw text has so many words. -/
def wordCount (directive : Directive) (value : Value) : Option Violation :=
  match directive.pair? with
  | none => some .badWordRange
  | some (low, high) =>
    let words : Int := countWords value.rawChars
    if words < low.toInt || high.toInt < words then some (.wordsOutside low high) else none

end Directive

end Rulebook
