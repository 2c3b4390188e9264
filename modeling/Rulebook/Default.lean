/-
This file defines the default pass, which fills in and resets fields.

A field that a rule prohibits is reset to the zero value of its kind, and a
field with a default is filled in while it counts as zero. The pass goes field
by field through the schema; the first fault ends it, and what was written
before stays written.

A default for a time is a stamp, or the word for the present moment with a shift
to earlier or later. A month has thirty days there and a year 365.
-/
import Rulebook.Coercion
import Rulebook.Record

namespace Rulebook

open Number Text

/-! ### What can be wrong with a default -/

/-- Why a default cannot be used. -/
inductive DefaultFlaw where
  | badInteger (flaw : WholeFlaw)
  | badUnsigned (flaw : WholeFlaw)
  /-- A floating-point number is none, or the empty text. -/
  | badFloat (isEmpty : Bool)
  | badTime (text : String)
  | badShift (text : String)
  | unknownUnit (unit : String)
  | shiftTooFar (text : String)
deriving DecidableEq, Repr

/-- The flaw in words. -/
def DefaultFlaw.message : DefaultFlaw → String
  | badInteger flaw => "failed to convert default value to int: " ++ flaw.message
  | badUnsigned flaw => "failed to convert default value to uint: " ++ flaw.message
  | badFloat isEmpty =>
    "failed to convert default value to float: " ++
      (if isEmpty then "cannot parse float from empty string" else "invalid float literal")
  | badTime text => "failed to convert default value to time: '" ++ text ++ "'"
  | badShift text => "error parsing time shift '" ++ text ++ "'"
  | unknownUnit unit => "invalid time unit '" ++ unit ++ "'"
  | shiftTooFar text => "time shift '" ++ text ++ "' is out of range"

/-! ### Times -/

/-- The seconds in a unit of time. -/
def unitSeconds? (unit : String) : Option Int :=
  match unit with
  | "second" | "seconds" => some 1
  | "minute" | "minutes" => some 60
  | "hour" | "hours" => some 3600
  | "day" | "days" => some 86400
  | "month" | "months" => some (30 * 86400)
  | "year" | "years" => some (365 * 86400)
  | _ => none

/-- The greatest number of seconds that a shift may have. -/
def longestShift : Int := 9223372036854775

/-- The seconds of a shift: a signed number, an underscore and a unit. -/
def readShift (text : List Char) : Except DefaultFlaw Int :=
  match cutFirst '_' text with
  | none => .error (.badShift (String.ofList text))
  | some (amount, unit) =>
    match readInt64 amount with
    | .error _ => .error (.badShift (String.ofList text))
    | .ok amount =>
      match unitSeconds? (String.ofList unit) with
      | none => .error (.unknownUnit (String.ofList unit))
      | some length =>
        let seconds := amount.toInt * length
        if -longestShift ≤ seconds ∧ seconds ≤ longestShift then .ok seconds
        else .error (.shiftTooFar (String.ofList text))

/-- The word for the present moment. -/
def presentWord : List Char := "timeNow".toList

/-- The time that is a shift away from the present moment; the shift has a sign in front. -/
def readShifted (now : Instant) (shift : List Char) : Except DefaultFlaw Instant :=
  match shift with
  | [] => .ok now
  | sign :: amount =>
    if sign = '+' ∨ sign = '-' then
      match readShift amount with
      | .error flaw => .error flaw
      | .ok seconds =>
        match now.shift? (if sign = '-' then -seconds else seconds) with
        | some instant => .ok instant
        | none => .error (.shiftTooFar (String.ofList shift))
    else .error (.badShift (String.ofList shift))

/-- A time from the text of a default. -/
def readTime (now : Instant) (text : List Char) : Except DefaultFlaw Instant :=
  let text := trim text
  match presentWord.isPrefixOf? text with
  | some shift => readShifted now shift
  | none =>
    match Instant.read? text with
    | some instant => .ok instant
    | none => .error (.badTime (String.ofList text))

/-! ### Values -/

/-- The value that the text of a default stands for; none for a kind without defaults. -/
def readDefault (kind : Kind) (now : Instant) (text : List Char) :
    Except DefaultFlaw (Option Value) :=
  let plain := trim text
  match kind with
  | .text => .ok (some (.text (String.ofList plain)))
  | .integer =>
    match readInt64 plain with
    | .ok number => .ok (some (.integer number))
    | .error flaw => .error (.badInteger flaw)
  | .unsigned =>
    match readUInt64 plain with
    | .ok number => .ok (some (.unsigned number))
    | .error flaw => .error (.badUnsigned flaw)
  | .float =>
    match readDouble? plain with
    | some number => .ok (some (.float number))
    | none => .error (.badFloat plain.isEmpty)
  | .temporal =>
    match readTime now text with
    | .ok instant => .ok (some (.temporal (some instant)))
    | .error flaw => .error flaw
  | .nested => .ok none

/-- Whether a value counts as zero once it is brought in line with a kind. -/
def countsAsZero (declared : Kind) (value : Value) : Bool :=
  match reconcile declared value with
  | .ok value => value.isZero
  | .error _ => false

/-- The value that the pass writes to a field, none when it leaves the field alone. A prohibition
goes before a default, and of several defaults the first one counts. -/
def injected (kind : Kind) (directives : List Directive) (now : Instant) (current : Value) :
    Except DefaultFlaw (Option Value) :=
  if hasKeyword directives .prohibit then
    if current.isZero ∧ current.kind = kind then .ok none else .ok (some kind.zero)
  else
    match findKeyword? directives .default with
    | none => .ok none
    | some directive =>
      if countsAsZero kind current then readDefault kind now directive.arguments else .ok none

/-! ### The pass -/

/-- The record after the pass has gone over one field, and whether it was written. -/
def injectField {Store : Type} [FieldStore Store] (schema : Schema) (now : Instant)
    (record : Store) (field : Field) : Except Fault (Store × Bool) :=
  let directives := field.directives
  if directives.isEmpty then .ok (record, false)
  else
    match FieldStore.read? schema record field.name with
    | none => .error (.unknownField field.name)
    | some current =>
      match injected field.kind directives now current with
      | .error flaw => .error (.badDefault field.name flaw.message)
      | .ok none => .ok (record, false)
      | .ok (some value) => (write schema record field.name value).map fun record => (record, true)

/-- The record after the pass over some fields, and the names of the fields written or the fault
that ended the pass. -/
def injectFields {Store : Type} [FieldStore Store] (schema : Schema) (now : Instant)
    (record : Store) : List Field → Store × Except Fault (List String)
  | [] => (record, .ok [])
  | field :: rest =>
    match injectField schema now record field with
    | .error fault => (record, .error fault)
    | .ok (record, written) =>
      let (record, outcome) := injectFields schema now record rest
      (record, outcome.map fun names => if written then field.name :: names else names)

/-- The record after the default pass, and the names of the fields written or the fault that ended
the pass. -/
def applyDefaults {Store : Type} [FieldStore Store] (schema : Schema) (now : Instant)
    (record : Store) : Store × Except Fault (List String) :=
  injectFields schema now record schema.fields

end Rulebook
