/-
This file lists what can be wrong with the value of a field.

A violation is a cause; `message` gives its wording, which names the field in
single quotes. The only violation without wording of its own is the one that a
named check reports in its own words.
-/
import Rulebook.Value

namespace Rulebook

/-- The sorts of characters that a password must hold. -/
inductive PasswordClass where
  | uppercase
  | lowercase
  | digit
  | special
deriving DecidableEq, Repr

/-- How a sort of characters is asked for. -/
def PasswordClass.wanted : PasswordClass → String
  | uppercase => "one uppercase letter"
  | lowercase => "one lowercase letter"
  | digit => "one digit"
  | special => "one special character"

/-- What is wrong with the value of a field. -/
inductive Violation where
  /-- The value does not fit the kind that the field declares. -/
  | wrongKind (declared : Kind)
  /-- The value is missing. -/
  | missing
  /-- A rule cannot be applied to values of this kind. -/
  | inapplicable (rule : String) (kind : Kind)
  /-- The two bounds of a range are not two whole numbers. -/
  | badRange
  | badMinimum
  | badMaximum
  /-- The value lies outside a range; `counted` tells that characters are counted. -/
  | outside (low high : Int64) (counted : Bool)
  | tooSmall (bound : Int64) (counted : Bool)
  | tooLarge (bound : Int64) (counted : Bool)
  /-- A candidate of an enumeration cannot be compared with the value. -/
  | badMember (candidate : String)
  | noMember (candidates : List String)
  /-- A candidate of an exclusion cannot be compared with the value. -/
  | badExclusion (candidate : String)
  | excluded (candidate : String)
  /-- The two bounds on the number of words are not two whole numbers. -/
  | badWordRange
  | wordsOutside (low high : Int64)
  /-- The text is no address of electronic mail. -/
  | noAddress
  | noPhoneNumber
  | weakPassword (lacking : List PasswordClass)
  /-- What should be a pattern is none. -/
  | badPattern
  | unmatched
  /-- A named check failed without a word. -/
  | failedCheck (name : String)
  /-- A named check failed with a message. -/
  | reported (message : String)
  | unknownCheck (name : String)
  | unknownRule (name : String)
deriving DecidableEq, Repr

namespace Violation

/-- A whole number in decimal. -/
def numberText (number : Int64) : String :=
  String.ofList (Number.signedDigits number.toInt)

/-- The field, as messages begin with it. -/
def subject (field : String) : String :=
  "Field '" ++ field ++ "'"

/-- The wording of a violation of the field with a name. -/
def message (field : String) : Violation → String
  | wrongKind declared => subject field ++ " must be of kind " ++ declared.name
  | missing => "Required field '" ++ field ++ "' is not provided"
  | inapplicable rule kind =>
    "Unsupported type for field '" ++ field ++ "': " ++ rule ++ " does not apply to " ++ kind.name ++
      " values"
  | badRange => "Invalid range values for field '" ++ field ++ "'"
  | badMinimum => "Invalid minimum value for field '" ++ field ++ "'"
  | badMaximum => "Invalid maximum value for field '" ++ field ++ "'"
  | outside low high counted =>
    subject field ++ " must be between " ++ numberText low ++ " and " ++ numberText high ++
      (if counted then " characters" else "")
  | tooSmall bound counted =>
    subject field ++ " must be at least " ++ numberText bound ++
      (if counted then " characters long" else "")
  | tooLarge bound counted =>
    subject field ++ " must be at most " ++ numberText bound ++
      (if counted then " characters long" else "")
  | badMember candidate => "Invalid enum value '" ++ candidate ++ "' for field '" ++ field ++ "'"
  | noMember candidates =>
    subject field ++ " does not match any enum values: " ++ ", ".intercalate candidates
  | badExclusion candidate =>
    "Invalid exclude value '" ++ candidate ++ "' for field '" ++ field ++ "'"
  | excluded candidate => subject field ++ " contains excluded value: " ++ candidate
  | badWordRange => "Invalid word count range for field '" ++ field ++ "'"
  | wordsOutside low high =>
    subject field ++ " must be between " ++ numberText low ++ " and " ++ numberText high ++ " words"
  | noAddress => subject field ++ " does not match email pattern"
  | noPhoneNumber => subject field ++ " does not match phone pattern"
  | weakPassword lacking =>
    subject field ++ " must contain at least " ++ ", ".intercalate (lacking.map PasswordClass.wanted)
  | badPattern => "Invalid pattern for field '" ++ field ++ "'"
  | unmatched => subject field ++ " does not match pattern"
  | failedCheck name => subject field ++ " failed custom enforcement '" ++ name ++ "'"
  | reported message => message
  | unknownCheck name =>
    "Custom enforcement '" ++ name ++ "' not found for field '" ++ field ++ "'"
  | unknownRule name => "Unknown enforcement '" ++ name ++ "' for field '" ++ field ++ "'"

end Violation

end Rulebook
