/-
This file defines tables of characters: ranges of code points under names.

The tables of this library are kept as text, ranges in base sixteen with a
hyphen between first and last code point and a blank between ranges. They are
read once.
-/

namespace Rulebook.Unicode

/-- A set of characters with its names. -/
structure RangeTable where
  names : List String
  /-- First and last code points, in ascending order. -/
  ranges : List (Nat × Nat)
deriving Repr

namespace RangeTable

/-- The value of a digit of base sixteen; any other character counts nothing. -/
def hexValue (character : Char) : Nat :=
  if '0' ≤ character ∧ character ≤ '9' then character.toNat - '0'.toNat
  else if 'A' ≤ character ∧ character ≤ 'F' then character.toNat - 'A'.toNat + 10
  else 0

/-- Reads ranges: `first` is the first code point of the range being read, once the hyphen has
been passed, and `code` the code point being read. -/
def readRanges (first : Option Nat) (code : Nat) : List Char → List (Nat × Nat)
  | [] => [(first.getD code, code)]
  | ' ' :: rest => (first.getD code, code) :: readRanges none 0 rest
  | '-' :: rest => readRanges (some code) 0 rest
  | digit :: rest => readRanges first (code * 16 + hexValue digit) rest

/-- Cuts names at blanks; `current` is the part of a name that has been read, backwards. -/
def readNames (current : List Char) : List Char → List String
  | [] => [String.ofList current.reverse]
  | ' ' :: rest => String.ofList current.reverse :: readNames [] rest
  | character :: rest => readNames (character :: current) rest

/-- A table from its written names and the lines of its ranges. -/
def read (names : String) (lines : List String) : RangeTable :=
  ⟨readNames [] names.toList, lines.flatMap fun line => readRanges none 0 line.toList⟩

/-- Tables from their written names and the lines of their ranges. -/
def readAll (written : List (String × List String)) : List RangeTable :=
  written.map fun (names, lines) => read names lines

/-- Whether a character is in the table. -/
def contains (table : RangeTable) (character : Char) : Bool :=
  let code := character.toNat
  table.ranges.any fun (first, last) => first ≤ code && code ≤ last

/-- The table with a name. -/
def find? (tables : List RangeTable) (name : String) : Option RangeTable :=
  tables.find? fun table => table.names.contains name

end RangeTable

end Rulebook.Unicode
