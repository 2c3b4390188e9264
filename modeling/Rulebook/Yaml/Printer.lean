/-
This file writes JSON values as YAML.

Tables and lists are written as blocks, two blanks deeper for each level, except
that a list under a key is not indented; empty ones are written in brackets. A
text is written plain where that reads back as the text, in single quotes where
it would be read as something else, as a literal block where it has lines, and
in double quotes where nothing else can hold it. A key that has lines or is
longer than 128 bytes is marked by a question mark.
-/
import Rulebook.Json.Printer
import Rulebook.Yaml.Cursor
import Rulebook.Yaml.Plain

namespace Rulebook.Yaml

open Number

/-! ### Styles of texts -/

/-- How a text is written. -/
inductive Style where
  | plain
  | single
  | double
  | literal
deriving DecidableEq, Repr

/-- Whether a plain scalar of this content is read as something else than a text. -/
def isMistaken (content : List Char) : Bool :=
  Plain.ofContent content != .text || Plain.isPaddedDigits content

/-- Whether a character is written as it is. -/
def isPrintable (character : Char) : Bool :=
  let code := character.toNat
  code == 10 || (0x20 ≤ code && code ≤ 0x7E) || (0xA0 ≤ code && code ≤ 0xD7FF) ||
    (0xE000 ≤ code && code ≤ 0xFFFD && code != 0xFEFF) || 0x10000 ≤ code

/-- Whether a gap is next: a blank, a line break or the end. -/
def isGap (text : List Char) : Bool :=
  text.head?.all fun character => Yaml.isBlank character || isBreak character

/-- Whether the first character of a text would be taken for a mark of structure. -/
def beginsWithMark : List Char → Bool
  | [] => false
  | first :: rest =>
    ['#', ',', '[', ']', '{', '}', '&', '*', '!', '|', '>', '\'', '"', '%', '@', '\x60'].contains first ||
      ((first == '?' || first == ':' || first == '-') && isGap rest)

/-- Whether a colon before a gap, or a number sign after one, stands behind the first character;
`before` is the character before. -/
def holdsMark (before : Char) : List Char → Bool
  | [] => false
  | character :: rest =>
    (character == ':' && isGap rest) || (character == '#' && isGap [before]) ||
      holdsMark character rest

/-- Whether a text looks like structure outside of flow collections. -/
def looksLikeStructure (content : List Char) : Bool :=
  ['-', '-', '-'].isPrefixOf content || ['.', '.', '.'].isPrefixOf content || beginsWithMark content ||
    match content with
    | [] => false
    | first :: rest => holdsMark first rest

/-- Whether two kinds of characters stand next to each other somewhere. -/
def holdsPair (first second : Char → Bool) : List Char → Bool
  | one :: two :: rest => (first one && second two) || holdsPair first second (two :: rest)
  | _ => false

/-- Whether a character is the plain blank. -/
def isSpace (character : Char) : Bool :=
  character == ' '

/-- Whether a text can be written plain. -/
def allowsPlain (content : List Char) : Bool :=
  let atEdge := content.head?.toList ++ content.getLast?.toList
  !(atEdge.any isSpace || content.any isBreak || looksLikeStructure content)

/-- Whether a text can be written in single quotes, or plain. -/
def allowsSingle (content : List Char) : Bool :=
  content.all isPrintable && !holdsPair isSpace isBreak content && !holdsPair isBreak isSpace content

/-- Whether a text can be written as a literal block. -/
def allowsLiteral (content : List Char) : Bool :=
  !content.isEmpty && content.all isPrintable && !holdsPair isSpace isBreak content &&
    content.getLast? != some ' '

/-- The style of a text. -/
def styleOf (content : List Char) : Style :=
  if content.contains '\n' then if allowsLiteral content then .literal else .double
  else if !allowsSingle content then .double
  else if !isMistaken content && allowsPlain content then .plain
  else .single

/-! ### Texts -/

/-- A number in base sixteen, with so many digits, letters in upper case. -/
def upperHex : (many value : Nat) → List Char
  | 0, _ => []
  | many + 1, value => upperHex many (value / 16) ++ [(hexDigitOf (value % 16)).toUpper]

/-- How a character is escaped in double quotes. -/
def escape (character : Char) : List Char :=
  let code := character.toNat
  match code with
  | 0x00 => ['\\', '0']
  | 0x07 => ['\\', 'a']
  | 0x08 => ['\\', 'b']
  | 0x09 => ['\\', 't']
  | 0x0A => ['\\', 'n']
  | 0x0B => ['\\', 'v']
  | 0x0C => ['\\', 'f']
  | 0x0D => ['\\', 'r']
  | 0x1B => ['\\', 'e']
  | 0x22 => ['\\', '"']
  | 0x5C => ['\\', '\\']
  | 0x85 => ['\\', 'N']
  | 0xA0 => ['\\', '_']
  | 0x2028 => ['\\', 'L']
  | 0x2029 => ['\\', 'P']
  | _ =>
    if code ≤ 0xFF then ['\\', 'x'] ++ upperHex 2 code
    else if code ≤ 0xFFFF then ['\\', 'u'] ++ upperHex 4 code
    else ['\\', 'U'] ++ upperHex 8 code

/-- A character in double quotes. -/
def inDouble (character : Char) : List Char :=
  if !isPrintable character || isBreak character || character == '"' || character == '\\' then
    escape character
  else [character]

/-- A character in single quotes. -/
def inSingle (character : Char) : List Char :=
  if character = '\'' then ['\'', '\''] else [character]

/-- So many blanks. -/
def blanks (many : Nat) : List Char :=
  List.replicate many ' '

/-- The lines of a literal block; `atStart` tells that a line begins here. -/
def literalLines (indent : Nat) (atStart : Bool) : List Char → List Char
  | [] => []
  | character :: rest =>
    if isBreak character then character :: literalLines indent true rest
    else if atStart then blanks indent ++ character :: literalLines indent false rest
    else character :: literalLines indent false rest

/-- The lines of a text in single quotes, the closing quote on the last one. Only the two
separators of Unicode break lines in such a text. -/
def singleLines (indent : Nat) (atStart : Bool) : List Char → List Char
  | [] => (if atStart then blanks indent else []) ++ ['\'']
  | character :: rest =>
    if isBreak character then character :: singleLines indent true rest
    else
      (if atStart then blanks indent else []) ++ inSingle character ++ singleLines indent false rest

/-- The head of a literal block: a digit where the indentation cannot be seen, and a sign for the
line breaks at the end, none where there is exactly one after a line. -/
def literalHead (content : List Char) : List Char :=
  let digit :=
    match content with
    | [] => []
    | first :: _ => if first == ' ' || isBreak first then ['2'] else []
  let sign :=
    match content.reverse with
    | [] => ['-']
    | [last] => if isBreak last then ['+'] else ['-']
    | last :: before :: _ =>
      if !isBreak last then ['-'] else if isBreak before then ['+'] else []
  '|' :: digit ++ sign

/-- A text; all its lines but the one on which it begins are indented by so many blanks. -/
def textLines (indent : Nat) (content : List Char) : List Char :=
  match styleOf content with
  | .plain => content
  | .single => '\'' :: singleLines indent false content
  | .double => '"' :: content.flatMap inDouble ++ ['"']
  | .literal => literalHead content ++ '\n' :: literalLines indent true content

/-! ### Values -/

/-- A number. -/
def numberText : JsonNumber → List Char
  | .whole value _ => signedDigits value
  | .double value _ => Layout.yaml.write value

/-- A text with the end of its last line. -/
def ended (text : List Char) : List Char :=
  if text.getLast? = some '\n' then text else text ++ ['\n']

/-- Whether a key is written on one line before its colon. -/
def isSimpleKey (name : String) : Bool :=
  name.utf8ByteSize ≤ 128 && !name.toList.any isBreak

/-- A scalar or an empty collection within a line, none for what is written as a block. -/
def inline? (indent : Nat) : Json → Option (List Char)
  | .null => some "null".toList
  | .bool true => some "true".toList
  | .bool false => some "false".toList
  | .number value => some (numberText value)
  | .string content => some (textLines indent content.toList)
  | .array [] => some ['[', ']']
  | .object [] => some ['\x7b', '\x7d']
  | .array _ => none
  | .object _ => none

mutual

/-- A value that begins in the middle of a line, its further lines indented by so many blanks. -/
def block (indent : Nat) : Json → List Char
  | .array (item :: rest) => itemLines indent true (item :: rest)
  | .object (member :: rest) => memberLines indent true (member :: rest)
  | other => ended ((inline? indent other).getD [])

/-- A value after the colon of a simple key of a table with such an indentation. -/
def afterKey (indent : Nat) : Json → List Char
  | .array (item :: rest) => '\n' :: itemLines indent false (item :: rest)
  | .object (member :: rest) => '\n' :: memberLines (indent + 2) false (member :: rest)
  | other => ' ' :: ended ((inline? (indent + 2) other).getD [])

/-- The items of a list; the first one may begin in the middle of a line. -/
def itemLines (indent : Nat) (isInline : Bool) : List Json → List Char
  | [] => []
  | item :: rest =>
    (if isInline then [] else blanks indent) ++ '-' :: ' ' :: block (indent + 2) item ++
      itemLines indent false rest

/-- The members of a table; the first one may begin in the middle of a line. -/
def memberLines (indent : Nat) (isInline : Bool) : List (String × Json) → List Char
  | [] => []
  | (name, item) :: rest =>
    let start := if isInline then [] else blanks indent
    let member :=
      if isSimpleKey name then textLines 0 name.toList ++ ':' :: afterKey indent item
      else
        '?' :: ' ' :: ended (textLines (indent + 2) name.toList) ++ blanks indent ++
          ':' :: ' ' :: block (indent + 2) item
    start ++ member ++ memberLines indent false rest

end

/-- A value as a document. -/
def document : Json → List Char
  | .array (item :: rest) => itemLines 0 true (item :: rest)
  | .object (member :: rest) => memberLines 0 true (member :: rest)
  | other => ended ((inline? 2 other).getD [])

end Rulebook.Yaml
