/-
This file applies the rules that list values, wanted or unwanted ones.

A candidate is compared with the value as the value's kind has it: texts
character for character, numbers as numbers. A candidate that is no number of
the kind is reported, and the others are still compared. Times and nested values
cannot be compared, which is reported once and instead of everything else.
-/
import Rulebook.Coercion
import Rulebook.Rule.Directive
import Rulebook.Rule.Violation

namespace Rulebook

open Number

/-- How a candidate compares with a value. -/
inductive Likeness where
  | equal
  | different
  /-- The candidate is no value of the kind. -/
  | unreadable
deriving DecidableEq, Repr

namespace Likeness

/-- From what a candidate was read as, if it could be read. -/
def ofRead {Item : Type} (read : Option Item) (isEqual : Item → Bool) : Likeness :=
  match read with
  | none => .unreadable
  | some item => if isEqual item then .equal else .different

/-- How a candidate compares with a value, none when values of its kind cannot be compared. -/
def of? (value : Value) (candidate : List Char) : Option Likeness :=
  match value with
  | .text content => some (if content.toList = candidate then .equal else .different)
  | .integer number => some (ofRead (readInt64 candidate).toOption (· = number))
  | .unsigned number => some (ofRead (readUInt64 candidate).toOption (· = number))
  | .float number => some (ofRead (readDouble? candidate) (·.equals number))
  | .temporal _ => none
  | .nested _ => none

end Likeness

namespace Directive

/-- Whether values of a kind can be compared with candidates. -/
def canCompare : Kind → Bool
  | .temporal => false
  | .nested => false
  | _ => true

/-- The candidates that are no value of the kind, reported in order. -/
def unreadable (value : Value) (report : String → Violation) (candidates : List (List Char)) :
    List Violation :=
  candidates.filterMap fun candidate =>
    if Likeness.of? value candidate = some .unreadable then some (report (String.ofList candidate))
    else none

/-- The rule that a value is one of the candidates. -/
def oneOf (directive : Directive) (value : Value) : List Violation :=
  let candidates := directive.argumentList
  if !canCompare value.kind then [.inapplicable "enum" value.kind]
  else
    let found := candidates.any fun candidate => Likeness.of? value candidate = some .equal
    unreadable value .badMember candidates ++
      (if found then [] else [.noMember (candidates.map String.ofList)])

/-- What is reported of candidates that a value must not equal; `found` tells that an equal one
has been reported, of which only the first is. -/
def exclusions (value : Value) (found : Bool) : List (List Char) → List Violation
  | [] => []
  | candidate :: rest =>
    match Likeness.of? value candidate with
    | some .equal =>
      if found then exclusions value true rest
      else .excluded (String.ofList candidate) :: exclusions value true rest
    | some .unreadable => .badExclusion (String.ofList candidate) :: exclusions value found rest
    | _ => exclusions value found rest

/-- The rule that a value is none of the candidates. -/
def noneOf (directive : Directive) (value : Value) : List Violation :=
  if !canCompare value.kind then [.inapplicable "exclude" value.kind]
  else exclusions value false directive.argumentList

end Directive

end Rulebook
