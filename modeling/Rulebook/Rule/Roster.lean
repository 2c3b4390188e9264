/-
This file keeps the checks that rules can call by name.

A check looks at a raw text and says nothing or gives a message. Checks stand in
layers under their names, and a roster is a list of layers: of several checks
with one name, the one in the first layer counts.
-/
import Rulebook.Entries
import Rulebook.Number.Digits
import Rulebook.Text.Cut
import Rulebook.Unicode.RangeTable
import Rulebook.Unicode.Category
import Rulebook.Unicode.Property

namespace Rulebook

/-- A check: nothing for a raw text that passes, a message for one that fails. -/
abbrev Check : Type :=
  String → Option String

/-- Checks under their names. -/
abbrev CheckLayer : Type :=
  Entries Check

/-- Layers of checks, the first one first. -/
abbrev Roster : Type :=
  List CheckLayer

namespace Roster

/-- The check with a name. -/
def find? (roster : Roster) (name : String) : Option Check :=
  roster.findSome? fun layer => Entries.find? layer name

/-- Whether there is no check in any layer. -/
def hasNone (roster : Roster) : Bool :=
  roster.all List.isEmpty

end Roster

/-! ### Layers as text -/

namespace CheckLayer

/-- The names in a layer, in order. -/
def names (layer : CheckLayer) : List String :=
  layer.map Prod.fst

/-- The general categories of characters that do not show by themselves. -/
def hiddenCategories : List String :=
  ["zl", "zp", "zs", "cc", "cf", "cn", "co"]

/-- Whether a character shows by itself: none that only extends the one before it, no separator
but the plain blank, no control and no character without an assignment. -/
def isVisible (character : Char) : Bool :=
  if character = ' ' then true
  else
    !(hiddenCategories.any fun name =>
        match Unicode.RangeTable.find? Unicode.categories name with
        | some table => table.contains character
        | none => false) &&
      !(match Unicode.RangeTable.find? Unicode.properties "graphemeextend" with
        | some table => table.contains character
        | none => false)

/-- The digits of base sixteen of a number, without leading zeros. -/
def hexDigits (value : Nat) : List Char :=
  if value < 16 then [Number.hexDigitOf value]
  else hexDigits (value / 16) ++ [Number.hexDigitOf (value % 16)]
termination_by value
decreasing_by omega

/-- How a character of a name is written in quotes. -/
def shown (character : Char) : List Char :=
  if character = '\t' then ['\\', 't']
  else if character = '\r' then ['\\', 'r']
  else if character = '\n' then ['\\', 'n']
  else if character = '"' then ['\\', '"']
  else if character = '\\' then ['\\', '\\']
  else if character = '\x00' then ['\\', '0']
  else if isVisible character then [character]
  else ['\\', 'u', '\x7b'] ++ hexDigits character.toNat ++ ['\x7d']

/-- The names of a layer in quotes, for whoever looks into it. -/
def text (layer : CheckLayer) : String :=
  let quoted := layer.names.map fun name => "\"" ++ String.ofList (name.toList.flatMap shown) ++ "\""
  "CustomRules \x7b rules: [" ++ ", ".intercalate quoted ++ "] \x7d"

end CheckLayer

end Rulebook
