/-
This file writes JSON values, on one line or with indentation.

Both forms agree on scalars: a string is quoted, with the two escapes that the
format demands and short escapes for control characters where there are some,
and a floating-point number keeps a point or an exponent, so that it is told
from a whole number. The indented form puts every item and member on a line of
its own, two blanks deeper than its container; an empty container stays on one
line.
-/
import Rulebook.Json.Basic

namespace Rulebook

open Number

namespace Json

/-- How a character is written inside a string. -/
def escape (character : Char) : List Char :=
  if character = '"' then ['\\', '"']
  else if character = '\\' then ['\\', '\\']
  else if character = '\n' then ['\\', 'n']
  else if character = '\r' then ['\\', 'r']
  else if character = '\t' then ['\\', 't']
  else if character = '\x08' then ['\\', 'b']
  else if character = '\x0c' then ['\\', 'f']
  else if character.toNat < 32 then
    ['\\', 'u', '0', '0', hexDigitOf (character.toNat / 16), hexDigitOf (character.toNat % 16)]
  else [character]

/-- A string in quotes. -/
def quoted (content : String) : List Char :=
  '"' :: content.toList.flatMap escape ++ ['"']

/-- A number, with a point or an exponent exactly when it is a floating-point number. -/
def numberText : JsonNumber → List Char
  | .whole value _ => signedDigits value
  | .double value _ => Layout.json.write value

/-! ### On one line -/

mutual

/-- A value on one line, without blanks. -/
def compact : Json → List Char
  | null => "null".toList
  | bool true => "true".toList
  | bool false => "false".toList
  | number value => numberText value
  | string content => quoted content
  | array items => '[' :: compactItems items ++ [']']
  | object members => '{' :: compactMembers members ++ ['}']

/-- Items separated by commas. -/
def compactItems : List Json → List Char
  | [] => []
  | [item] => compact item
  | item :: rest => compact item ++ ',' :: compactItems rest

/-- Members separated by commas. -/
def compactMembers : List (String × Json) → List Char
  | [] => []
  | [(name, item)] => quoted name ++ ':' :: compact item
  | (name, item) :: rest => quoted name ++ ':' :: compact item ++ ',' :: compactMembers rest

end

/-! ### With indentation -/

/-- The start of a line at a depth. -/
def newLine (depth : Nat) : List Char :=
  '\n' :: List.replicate (2 * depth) ' '

mutual

/-- A value with its parts on lines of their own. -/
def indented (depth : Nat) : Json → List Char
  | array (item :: rest) =>
    '[' :: indentedItems (depth + 1) (item :: rest) ++ newLine depth ++ [']']
  | object (member :: rest) =>
    '{' :: indentedMembers (depth + 1) (member :: rest) ++ newLine depth ++ ['}']
  | scalar => compact scalar

/-- Items on lines of their own. -/
def indentedItems (depth : Nat) : List Json → List Char
  | [] => []
  | [item] => newLine depth ++ indented depth item
  | item :: rest => newLine depth ++ indented depth item ++ ',' :: indentedItems depth rest

/-- Members on lines of their own. -/
def indentedMembers (depth : Nat) : List (String × Json) → List Char
  | [] => []
  | [(name, item)] => newLine depth ++ quoted name ++ ':' :: ' ' :: indented depth item
  | (name, item) :: rest =>
    newLine depth ++ quoted name ++ ':' :: ' ' :: indented depth item ++
      ',' :: indentedMembers depth rest

end

end Json

end Rulebook
