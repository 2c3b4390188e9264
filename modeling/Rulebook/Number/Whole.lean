/-
This file reads whole numbers of 64 bits from decimal text.

A number is a run of ASCII digits after an optional sign; a minus sign is a
sign only for the signed kind. The digits are taken from left to right, and the
first character that spoils the number names the flaw: a character that is no
digit, or the digit with which the number leaves its range.
-/
import Rulebook.Number.Digits

namespace Rulebook.Number

/-- Why a text is no whole number of 64 bits. -/
inductive WholeFlaw where
  /-- There is no character at all. -/
  | nothing
  /-- A character is no digit, or a sign stands alone. -/
  | stray
  /-- The number lies above the range. -/
  | above
  /-- The number lies below the range. -/
  | below
deriving DecidableEq, Repr

namespace WholeFlaw

/-- The flaw in words. -/
def message : WholeFlaw → String
  | nothing => "cannot parse integer from empty string"
  | stray => "invalid digit found in string"
  | above => "number too large to fit in target type"
  | below => "number too small to fit in target type"

end WholeFlaw

/-- Reads digits onto a total that must not exceed a limit; leaving the range is the flaw
`beyond`. -/
def readDigits (limit : Nat) (beyond : WholeFlaw) : Nat → List Char → Except WholeFlaw Nat
  | total, [] => .ok total
  | total, character :: rest =>
    match digitValue? character with
    | none => .error .stray
    | some value =>
      if total * 10 + value ≤ limit then readDigits limit beyond (total * 10 + value) rest
      else .error beyond

/-- Reads a run of at least one digit, `nothing` when the text is empty and `stray` when only
its sign is there. -/
def readMagnitude (limit : Nat) (beyond : WholeFlaw) : List Char → Except WholeFlaw Nat
  | [] => .error .stray
  | run => readDigits limit beyond 0 run

/-- The magnitude of the least signed number of 64 bits. -/
def signedLimit : Nat := 2 ^ 63

/-- The greatest unsigned number of 64 bits. -/
def unsignedLimit : Nat := 2 ^ 64 - 1

/-- Reads a signed whole number as an integer within the range of 64 bits. -/
def readSigned : List Char → Except WholeFlaw Int
  | [] => .error .nothing
  | '+' :: run => (readMagnitude (signedLimit - 1) .above run).map Int.ofNat
  | '-' :: run => (readMagnitude signedLimit .below run).map fun value => -(Int.ofNat value)
  | run => (readMagnitude (signedLimit - 1) .above run).map Int.ofNat

/-- Reads an unsigned whole number within the range of 64 bits. -/
def readUnsigned : List Char → Except WholeFlaw Nat
  | [] => .error .nothing
  | '+' :: run => readMagnitude unsignedLimit .above run
  | run => readMagnitude unsignedLimit .above run

/-- A signed number of 64 bits from its decimal text. -/
def readInt64 (text : List Char) : Except WholeFlaw Int64 :=
  (readSigned text).map Int64.ofInt

/-- An unsigned number of 64 bits from its decimal text. -/
def readUInt64 (text : List Char) : Except WholeFlaw UInt64 :=
  (readUnsigned text).map UInt64.ofNat

end Rulebook.Number
