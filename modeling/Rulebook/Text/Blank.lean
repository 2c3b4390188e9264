/-
This file says which characters are blank, and trims them.

A character is blank when the Unicode property White_Space holds of it. That is
a set of twenty-five characters, the ASCII blanks among them, and it is the one
notion of white space the library has: it separates the directives of a rule,
it surrounds a number that is read from text, and a name that consists of blank
characters alone counts as empty.
-/

namespace Rulebook.Text

/-- Whether a character has the property White_Space. -/
def isBlank (character : Char) : Bool :=
  let code := character.toNat
  (9 ≤ code && code ≤ 13) || code == 32 || code == 0x85 || code == 0xA0 || code == 0x1680 ||
    (0x2000 ≤ code && code ≤ 0x200A) || code == 0x2028 || code == 0x2029 || code == 0x202F ||
    code == 0x205F || code == 0x3000

/-- A text without its leading blanks. -/
def trimStart (text : List Char) : List Char :=
  text.dropWhile isBlank

/-- A text without its trailing blanks. -/
def trimEnd (text : List Char) : List Char :=
  (text.reverse.dropWhile isBlank).reverse

/-- A text without its leading and trailing blanks. -/
def trim (text : List Char) : List Char :=
  trimEnd (trimStart text)

/-- A text of blanks alone, the empty one included. -/
def isBlankText (text : List Char) : Bool :=
  text.all isBlank

theorem isBlankText_cons {character : Char} {rest : List Char} :
    isBlankText (character :: rest) = true ↔
      isBlank character = true ∧ isBlankText rest = true := by
  unfold isBlankText
  rw [List.all_cons, Bool.and_eq_true]

end Rulebook.Text
