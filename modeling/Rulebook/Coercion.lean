/-
This file brings a value in line with the kind that a field declares.

A value of the declared kind stays as it is. The empty text becomes the zero
value of any kind but the nested one, and any other text is read as the declared
kind. Whole numbers pass between the signed and the unsigned kind where they
fit, and become floating-point numbers. Everything else is a mismatch, and the
value is handed back.
-/
import Rulebook.Number.Decimal
import Rulebook.Number.Whole
import Rulebook.Value

namespace Rulebook

open Number Text

/-- A text that is not empty, read as a kind. -/
def readAs? (declared : Kind) (content : List Char) : Option Value :=
  match declared with
  | .integer => (readInt64 (trim content)).toOption.map .integer
  | .unsigned => (readUInt64 (trim content)).toOption.map .unsigned
  | .float => (readDouble? (trim content)).map .float
  | .temporal => (Instant.read? content).map fun instant => .temporal (some instant)
  | .text => none
  | .nested => none

/-- A signed number as an unsigned one, if it is not negative. -/
def toUnsigned? (number : Int64) : Option UInt64 :=
  if 0 ≤ number.toInt then some (UInt64.ofNat number.toInt.toNat) else none

/-- An unsigned number as a signed one, if it is not too large. -/
def toInteger? (number : UInt64) : Option Int64 :=
  if number.toNat < 2 ^ 63 then some (Int64.ofInt number.toNat) else none

/-- A value of another kind than the declared one, converted to it where that is possible. -/
def convert? (declared : Kind) : Value → Option Value
  | .text content =>
    if content = "" ∧ declared ≠ .nested then some declared.zero
    else readAs? declared content.toList
  | .integer number =>
    match declared with
    | .unsigned => (toUnsigned? number).map .unsigned
    | .float => some (.float (.ofInt number.toInt))
    | _ => none
  | .unsigned number =>
    match declared with
    | .integer => (toInteger? number).map .integer
    | .float => some (.float (.ofInt number.toNat))
    | _ => none
  | _ => none

/-- The value as one of the declared kind, or the value itself when it does not fit. -/
def reconcile (declared : Kind) (value : Value) : Except Value Value :=
  if value.kind = declared then .ok value
  else
    match convert? declared value with
    | some converted => .ok converted
    | none => .error value

/-- A value of the declared kind is in line. -/
theorem reconcile_of_kind {declared : Kind} {value : Value} (same : value.kind = declared) :
    reconcile declared value = .ok value :=
  if_pos same

end Rulebook
