/-
This file defines the values that fields hold, and their kinds.

There are six kinds, and each has a zero value, the one that an absent field
counts as. Every value has a raw text, on which patterns, word counts and named
checks are tried.
-/
import Rulebook.Calendar.Stamp
import Rulebook.Entries
import Rulebook.Number.Layout
import Rulebook.Text.Cut

namespace Rulebook

/-- What sort of value a field holds. -/
inductive Kind where
  | text
  | integer
  | unsigned
  | float
  | temporal
  | nested
deriving DecidableEq, Repr

namespace Kind

/-- The name of a kind. -/
def name : Kind → String
  | text => "text"
  | integer => "integer"
  | unsigned => "unsigned"
  | float => "float"
  | temporal => "temporal"
  | nested => "nested"

/-- All kinds. -/
def all : List Kind := [text, integer, unsigned, float, temporal, nested]

/-- The kind with a name. -/
def ofName? (name : String) : Option Kind :=
  all.find? fun kind => kind.name = name

theorem ofName?_name (kind : Kind) : ofName? kind.name = some kind := by
  cases kind <;> decide

end Kind

/-- The value of a field. -/
inductive Value where
  | text (content : String)
  /-- A signed whole number. -/
  | integer (number : Int64)
  /-- A whole number that is not negative. -/
  | unsigned (number : UInt64)
  | float (number : Double)
  /-- A point in time; none is the zero time. -/
  | temporal (instant : Option Instant)
  /-- Values under names. -/
  | nested (entries : List (String × Value))

namespace Value

/-- The kind of a value. -/
def kind : Value → Kind
  | text _ => .text
  | integer _ => .integer
  | unsigned _ => .unsigned
  | float _ => .float
  | temporal _ => .temporal
  | nested _ => .nested

/-- Whether a value is the zero of its kind; both zeros of the floating-point numbers are. -/
def isZero : Value → Bool
  | text content => content = ""
  | integer number => number = 0
  | unsigned number => number = 0
  | float number => number.isZero
  | temporal instant => instant.isNone
  | nested entries => entries.isEmpty

open Number in
mutual

/-- The raw text of a value, as characters. -/
def rawChars : Value → List Char
  | text content => content.toList
  | integer number => signedDigits number.toInt
  | unsigned number => digits number.toNat
  | float number => Layout.plain.write number
  | temporal none => []
  | temporal (some instant) => instant.text
  | nested entries => '{' :: rawEntries entries ++ ['}']

/-- The raw texts of entries, separated by commas. -/
def rawEntries : List (String × Value) → List Char
  | [] => []
  | [(name, value)] => name.toList ++ '=' :: rawChars value
  | (name, value) :: rest => name.toList ++ '=' :: rawChars value ++ ',' :: ' ' :: rawEntries rest

end

/-- The raw text of a value. -/
def raw (value : Value) : String :=
  String.ofList value.rawChars

/-- A numeric value as a floating-point number, rounded if need be. -/
def toDouble? : Value → Option Double
  | integer number => some (.ofInt number.toInt)
  | unsigned number => some (.ofInt number.toNat)
  | float number => some number
  | _ => none

end Value

/-- The zero value of a kind. -/
def Kind.zero : Kind → Value
  | text => .text ""
  | integer => .integer 0
  | unsigned => .unsigned 0
  | float => .float (Double.zero false)
  | temporal => .temporal none
  | nested => .nested []

@[simp]
theorem Kind.kind_zero (kind : Kind) : kind.zero.kind = kind := by
  cases kind <;> rfl

@[simp]
theorem Kind.isZero_zero (kind : Kind) : kind.zero.isZero = true := by
  cases kind <;> decide

end Rulebook
