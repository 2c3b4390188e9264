/-
This file reads JSON values as fields and writes fields as JSON values.

Reading goes by the kind that the field declares. Nothing and null are the zero
value. A number or a string that fits the kind becomes a value of that kind, and
everything else comes in its natural shape, which leaves it to coercion to
accept it or not. Writing needs no kind; what JSON cannot hold, a floating-point
number that is not finite, becomes null, and so does the zero time.
-/
import Rulebook.Json.Printer

namespace Rulebook

mutual

/-- The value that a JSON value is by itself: a boolean or an array is its own text, and null is
the empty text. -/
def Json.toValue : Json → Value
  | .null => .text ""
  | .bool value => .text (String.ofList (Json.bool value).compact)
  | .number value => value.toValue
  | .string content => .text content
  | .array items => .text (String.ofList (Json.array items).compact)
  | .object members => .nested (Json.toEntries members)

/-- The members of an object as entries. -/
def Json.toEntries : List (String × Json) → List (String × Value)
  | [] => []
  | (name, item) :: rest => (name, item.toValue) :: Json.toEntries rest

end

/-- A JSON value that is not null, read as a field of a kind. -/
def Value.ofPresentJson (kind : Kind) (json : Json) : Value :=
  match kind, json with
  | .integer, .number (.whole value _) =>
    if value < 2 ^ 63 then .integer (.ofInt value) else json.toValue
  | .unsigned, .number (.whole value _) =>
    if 0 ≤ value then .unsigned (.ofNat value.toNat) else json.toValue
  | .float, .number value => .float value.toDouble
  | .temporal, .string content =>
    match Instant.read? content.toList with
    | some instant => .temporal (some instant)
    | none => .text content
  | _, _ => json.toValue

/-- A JSON value, or none where there is no value, read as a field of a kind. -/
def Value.ofJson (kind : Kind) : Option Json → Value
  | none => kind.zero
  | some .null => kind.zero
  | some json => .ofPresentJson kind json

mutual

/-- A value as JSON. -/
def Value.toJson : Value → Json
  | .text content => .string content
  | .integer number => .number (.ofInt64 number)
  | .unsigned number => .number (.ofUInt64 number)
  | .float number =>
    match JsonNumber.ofDouble? number with
    | some value => .number value
    | none => .null
  | .temporal (some instant) => .string (String.ofList instant.text)
  | .temporal none => .null
  | .nested entries => .object (Value.toMembers entries)

/-- Entries as the members of an object. -/
def Value.toMembers : List (String × Value) → List (String × Json)
  | [] => []
  | (name, item) :: rest => (name, item.toJson) :: Value.toMembers rest

end

end Rulebook
