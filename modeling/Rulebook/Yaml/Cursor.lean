/-
This file defines the place at which a YAML text is read.

A cursor knows what is left of the text, how many characters have been passed,
and line and column. Five characters break lines, and a carriage return followed
by a line feed is one break. The end of the text counts as a blank and as a
break where a token may end.
-/

namespace Rulebook.Yaml

/-! ### Characters -/

/-- Whether a character may stand in a YAML text. -/
def isAllowed (character : Char) : Bool :=
  let code := character.toNat
  code == 9 || code == 10 || code == 13 || (0x20 ≤ code && code ≤ 0x7E) || code == 0x85 ||
    (0xA0 ≤ code && code ≤ 0xD7FF) || (0xE000 ≤ code && code ≤ 0xFFFD && code != 0xFEFF) ||
    0x10000 ≤ code

/-- Whether a character breaks lines. -/
def isBreak (character : Char) : Bool :=
  let code := character.toNat
  code == 10 || code == 13 || code == 0x85 || code == 0x2028 || code == 0x2029

/-- Whether a character is a blank within a line. -/
def isBlank (character : Char) : Bool :=
  character == ' ' || character == '\t'

/-- Whether a character can be part of a name. -/
def isNameCharacter (character : Char) : Bool :=
  character.isAlphanum || character == '_' || character == '-'

/-! ### Places -/

/-- A place in a text. -/
structure Cursor where
  rest : List Char
  index : Nat
  line : Nat
  column : Nat

namespace Cursor

/-- The start of a text. -/
def start (text : List Char) : Cursor :=
  ⟨text, 0, 0, 0⟩

/-- The character at the place. -/
def peek? (cursor : Cursor) : Option Char :=
  cursor.rest.head?

/-- The character so many places ahead. -/
def peekAt? (cursor : Cursor) (ahead : Nat) : Option Char :=
  cursor.rest[ahead]?

/-- Whether a certain character is at the place. -/
def isAt (cursor : Cursor) (character : Char) : Bool :=
  cursor.peek? == some character

/-- Whether the text ends here. -/
def atEnd (cursor : Cursor) : Bool :=
  cursor.rest.isEmpty

/-- Whether a blank is at the place. -/
def atBlank (cursor : Cursor) : Bool :=
  cursor.peek?.any isBlank

/-- Whether a line break is at the place. -/
def atBreak (cursor : Cursor) : Bool :=
  cursor.peek?.any isBreak

/-- Whether the line or the text ends here. -/
def atLineEnd (cursor : Cursor) : Bool :=
  cursor.peek?.all isBreak

/-- Whether there is a blank, a break or the end so many places ahead. -/
def isGapAt (cursor : Cursor) (ahead : Nat) : Bool :=
  (cursor.peekAt? ahead).all fun character => isBlank character || isBreak character

/-- The place after one character, which breaks no line. -/
def next (cursor : Cursor) : Cursor :=
  match cursor.rest with
  | [] => cursor
  | _ :: rest => ⟨rest, cursor.index + 1, cursor.line, cursor.column + 1⟩

/-- The place after so many characters, none of which breaks a line. -/
def advance (cursor : Cursor) : Nat → Cursor
  | 0 => cursor
  | many + 1 => cursor.next.advance many

/-- The place after a line break, if one is here. -/
def nextLine (cursor : Cursor) : Cursor :=
  match cursor.rest with
  | '\r' :: '\n' :: rest => ⟨rest, cursor.index + 2, cursor.line + 1, 0⟩
  | character :: rest =>
    if isBreak character then ⟨rest, cursor.index + 1, cursor.line + 1, 0⟩ else cursor
  | [] => cursor

/-- What a line break counts as in a scalar: a line feed, except that the two separators of
Unicode stay what they are. -/
def breakText (cursor : Cursor) : List Char :=
  match cursor.rest with
  | [] => []
  | character :: _ =>
    if character.toNat = 0x2028 ∨ character.toNat = 0x2029 then [character]
    else if isBreak character then ['\n']
    else []

/-- The characters from here on that fulfil a condition, and the place after them; none of them
breaks a line. -/
def takeWhile (cursor : Cursor) (condition : Char → Bool) : List Char × Cursor :=
  let taken := cursor.rest.takeWhile condition
  (taken, ⟨cursor.rest.drop taken.length, cursor.index + taken.length, cursor.line,
    cursor.column + taken.length⟩)

/-- The place after characters that fulfil a condition. -/
def skipWhile (cursor : Cursor) (condition : Char → Bool) : Cursor :=
  (cursor.takeWhile condition).2

/-- The place after any blanks. -/
def skipBlanks (cursor : Cursor) : Cursor :=
  cursor.skipWhile isBlank

/-- The end of the line, if a comment is here. -/
def skipComment (cursor : Cursor) : Cursor :=
  if cursor.isAt '#' then cursor.skipWhile fun character => !isBreak character else cursor

/-- Whether three hyphens or three points stand at the start of a line, with a gap after them. -/
def atDocumentMark (cursor : Cursor) : Bool :=
  cursor.column == 0 && (['-', '-', '-'].isPrefixOf cursor.rest || ['.', '.', '.'].isPrefixOf cursor.rest)
    && cursor.isGapAt 3

end Cursor

end Rulebook.Yaml
