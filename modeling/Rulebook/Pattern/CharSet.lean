/-
This file defines the sets of characters that patterns are made of.

A set is built from ranges and named properties by union, intersection and
complement, and by folding case, which adds the characters that differ only in
case from one of the set. What matters of a set is which characters it contains.
-/
import Rulebook.Text.Blank
import Rulebook.Unicode.Case
import Rulebook.Unicode.Category
import Rulebook.Unicode.Script
import Rulebook.Unicode.ScriptExtension

namespace Rulebook

open Unicode

/-- The families of named properties. -/
inductive PropertyFamily where
  | category
  | script
  | scriptExtension
  | property
deriving DecidableEq, Repr

namespace PropertyFamily

/-- The tables of a family. -/
def tables : PropertyFamily → List RangeTable
  | category => categories
  | script => scripts
  | scriptExtension => scriptExtensions
  | property => properties

end PropertyFamily

namespace Unicode

/-- The letters and what counts as letters. -/
def alphabetic : RangeTable :=
  (RangeTable.find? properties "alphabetic").getD ⟨[], []⟩

/-- The characters of some general categories. -/
def categoryTables (names : List String) : List RangeTable :=
  names.filterMap fun name => RangeTable.find? categories name

/-- Marks, decimal digits and connecting punctuation. -/
def wordExtras : List RangeTable :=
  categoryTables ["mn", "mc", "me", "nd", "pc"]

/-- Decimal digits of any script. -/
def decimalDigits : List RangeTable :=
  categoryTables ["nd"]

/-- Numbers of any sort. -/
def numerics : List RangeTable :=
  categoryTables ["nd", "nl", "no"]

/-- Whether a character is an ASCII letter, an ASCII digit or the underscore. -/
def isAsciiWord (character : Char) : Bool :=
  character.isAlphanum || character == '_'

/-- Whether a character can be part of a word: letters, marks, decimal digits, connecting
punctuation and the two joiners. -/
def isWord (character : Char) : Bool :=
  if character.toNat < 128 then isAsciiWord character
  else
    alphabetic.contains character || wordExtras.any (·.contains character) ||
      character.toNat == 0x200C || character.toNat == 0x200D

/-- Whether a character is a decimal digit of any script. -/
def isDecimalDigit (character : Char) : Bool :=
  decimalDigits.any (·.contains character)

end Unicode

/-- A set of characters. -/
inductive CharSet where
  /-- No character. -/
  | none
  /-- The characters from the first to the last. -/
  | range (first last : Char)
  /-- The characters that can be part of a word. -/
  | word
  /-- The decimal digits of any script. -/
  | digit
  /-- The blanks. -/
  | blank
  /-- The characters with a named property. -/
  | named (family : PropertyFamily) (name : String)
  | either (left right : CharSet)
  | both (left right : CharSet)
  | complement (set : CharSet)
  /-- The set with all that simple case folding makes equal to one of its characters. -/
  | folded (set : CharSet)
  /-- The set with both cases of its ASCII letters. -/
  | asciiFolded (set : CharSet)
deriving DecidableEq, Repr

namespace CharSet

/-- The ASCII letter of the other case, the character itself when it is no ASCII letter. -/
def otherCase (character : Char) : Char :=
  if character.isUpper then character.toLower else character.toUpper

/-- Whether a set contains a character. -/
def contains : CharSet → Char → Bool
  | none, _ => false
  | range first last, character => decide (first ≤ character) && decide (character ≤ last)
  | word, character => isWord character
  | digit, character => isDecimalDigit character
  | blank, character => Text.isBlank character
  | named family name, character =>
    match RangeTable.find? family.tables name with
    | some table => table.contains character
    | .none => false
  | either left right, character => left.contains character || right.contains character
  | both left right, character => left.contains character && right.contains character
  | complement set, character => !set.contains character
  | folded set, character =>
    set.contains character ||
      (foldingPartners character.toNat).any fun partner => set.contains (Char.ofNat partner)
  | asciiFolded set, character => set.contains character || set.contains (otherCase character)

/-- The set of one character. -/
def single (character : Char) : CharSet :=
  range character character

/-- The union of sets. -/
def anyOf (sets : List CharSet) : CharSet :=
  sets.foldr either none

/-- Every character. -/
def all : CharSet :=
  complement none

end CharSet

end Rulebook
