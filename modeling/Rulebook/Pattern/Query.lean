/-
This file finds the sets of characters that patterns name.

A property is asked for by its own name, or by the name of a family and of a
value in that family. Names are compared in a plain form, without case, blanks,
hyphens and underscores, and without the word "is" in front. Of several things
with one name, a property comes before a general category and a category before
a script.
-/
import Rulebook.Pattern.CharSet
import Rulebook.Pattern.Form

namespace Rulebook.CharSet

open Unicode

/-! ### Plain names -/

/-- The name without the word "is" in front, in any case of letters. -/
def withoutIs : List Char → List Char
  | first :: second :: rest =>
    if first.toLower = 'i' ∧ second.toLower = 's' then rest else first :: second :: rest
  | name => name

/-- What is compared of a name. The letter "c" alone, where it stood behind the word "is", is
the short name of a property that begins with these letters. -/
def plainName (name : List Char) : String :=
  let bare := withoutIs name
  let kept := bare.filter fun character =>
    character.toNat < 128 && character != ' ' && character != '_' && character != '-'
  let plain := String.ofList (kept.map Char.toLower)
  if plain = "c" ∧ bare.length < name.length then "isc" else plain

/-! ### Families -/

/-- The general categories that stand for several others, under their names. -/
def categoryGroups : List (List String × List String) :=
  [ (["l", "letter"], ["ll", "lm", "lo", "lt", "lu"]),
    (["lc", "casedletter"], ["ll", "lt", "lu"]),
    (["m", "mark", "combiningmark"], ["mc", "me", "mn"]),
    (["n", "number"], ["nd", "nl", "no"]),
    (["p", "punctuation", "punct"], ["pc", "pd", "pe", "pf", "pi", "po", "ps"]),
    (["s", "symbol"], ["sc", "sk", "sm", "so"]),
    (["z", "separator"], ["zl", "zp", "zs"]),
    (["c", "other"], ["cc", "cf", "cn", "co"]) ]

/-- The characters with a property of a family, if the family has one of that name. -/
def inFamily? (family : PropertyFamily) (name : String) : Option CharSet :=
  (RangeTable.find? family.tables name).map fun _ => .named family name

/-- The characters of a general category or of a group of them. -/
def category? (name : String) : Option CharSet :=
  if name = "any" then some .all
  else if name = "assigned" then some (.complement (.named .category "cn"))
  else if name = "ascii" then some (.range '\x00' '\x7f')
  else
    match categoryGroups.find? fun group => group.1.contains name with
    | some group => some (.anyOf (group.2.map fun member => .named .category member))
    | .none => inFamily? .category name

/-- The characters of a script. -/
def script? (name : String) : Option CharSet :=
  inFamily? .script name

/-- The characters that are used with a script; most scripts are used with their own alone. -/
def scriptExtension? (name : String) : Option CharSet :=
  inFamily? .scriptExtension name <|> script? name

/-- The characters with a property of a name. Three names belong to categories although some
property has them as a short name too. -/
def property? (name : String) : Option CharSet :=
  if name = "cf" ∨ name = "sc" ∨ name = "lc" then .none else inFamily? .property name

/-- The characters that a query asks for. Three families have values: general categories, scripts
and script extensions. -/
def ofQuery? : PropertyQuery → Option CharSet
  | .named name =>
    let plain := plainName name
    property? plain <|> category? plain <|> script? plain
  | .valued family value =>
    let plain := plainName value
    match plainName family with
    | "gc" | "generalcategory" => category? plain
    | "sc" | "script" => script? plain
    | "scx" | "scriptextensions" => scriptExtension? plain
    | _ => .none

/-! ### Classes with a name of their own -/

/-- The union of ranges. -/
def ofRanges (ranges : List (Char × Char)) : CharSet :=
  .anyOf (ranges.map fun (first, last) => .range first last)

/-- The characters of an ASCII class. -/
def ofAsciiClass : AsciiClass → CharSet
  | .alnum => ofRanges [('0', '9'), ('A', 'Z'), ('a', 'z')]
  | .alpha => ofRanges [('A', 'Z'), ('a', 'z')]
  | .ascii => ofRanges [('\x00', '\x7f')]
  | .blank => ofRanges [('\t', '\t'), (' ', ' ')]
  | .cntrl => ofRanges [('\x00', '\x1f'), ('\x7f', '\x7f')]
  | .digit => ofRanges [('0', '9')]
  | .graph => ofRanges [('!', '~')]
  | .lower => ofRanges [('a', 'z')]
  | .print => ofRanges [(' ', '~')]
  | .punct => ofRanges [('!', '/'), (':', '@'), ('[', '\x60'), ('\x7b', '~')]
  | .space => ofRanges [('\t', '\r'), (' ', ' ')]
  | .upper => ofRanges [('A', 'Z')]
  | .word => ofRanges [('0', '9'), ('A', 'Z'), ('_', '_'), ('a', 'z')]
  | .xdigit => ofRanges [('0', '9'), ('A', 'F'), ('a', 'f')]

/-- The characters of a class with a one-letter escape, of all scripts or of ASCII alone. -/
def ofShortClass (unicode : Bool) : ShortClass → CharSet
  | .digit => if unicode then .digit else ofAsciiClass .digit
  | .blank => if unicode then .blank else ofAsciiClass .space
  | .word => if unicode then .word else ofAsciiClass .word

end Rulebook.CharSet
