/-
This file defines JSON values and reads and writes fields in them.

A number is either a whole number that fits 64 bits, signed or unsigned, or a
finite floating-point number. An object keeps its members in the order of their
names.
-/
import Rulebook.Value

namespace Rulebook

/-- A JSON number. -/
inductive JsonNumber where
  /-- A whole number of 64 bits, signed or unsigned. -/
  | whole (value : Int) (fits : -2 ^ 63 ≤ value ∧ value < 2 ^ 64)
  /-- A finite floating-point number. -/
  | double (value : Double) (finite : value.isFinite = true)
deriving DecidableEq

/-- A JSON value. -/
inductive Json where
  | null
  | bool (value : Bool)
  | number (value : JsonNumber)
  | string (content : String)
  | array (items : List Json)
  | object (members : List (String × Json))

namespace JsonNumber

/-- The number as a floating-point number, rounded if need be. -/
def toDouble : JsonNumber → Double
  | whole value _ => .ofInt value
  | double value _ => value

/-- A signed number of 64 bits as a JSON number. -/
def ofInt64 (number : Int64) : JsonNumber :=
  whole number.toInt ⟨number.le_toInt, Int.lt_trans number.toInt_lt (by decide)⟩

/-- An unsigned number of 64 bits as a JSON number. -/
def ofUInt64 (number : UInt64) : JsonNumber :=
  whole number.toNat
    ⟨Int.le_trans (by decide) (Int.natCast_nonneg _), Int.ofNat_lt.mpr number.toNat_lt⟩

/-- A whole number, if it fits. -/
def ofInt? (value : Int) : Option JsonNumber :=
  if fits : -2 ^ 63 ≤ value ∧ value < 2 ^ 64 then some (whole value fits) else none

/-- A floating-point number, if it is finite. -/
def ofDouble? (value : Double) : Option JsonNumber :=
  if finite : value.isFinite = true then some (double value finite) else none

/-- The value of a number in the kind that holds it: signed, else unsigned, else
floating-point. -/
def toValue : JsonNumber → Value
  | whole value _ =>
    if value < 2 ^ 63 then .integer (.ofInt value) else .unsigned (.ofNat value.toNat)
  | double value _ => .float value

end JsonNumber

namespace Json

/-- What sort of JSON value it is, by name. -/
def typeName : Json → String
  | null => "null"
  | bool _ => "boolean"
  | number _ => "number"
  | string _ => "string"
  | array _ => "array"
  | object _ => "object"

end Json

end Rulebook
