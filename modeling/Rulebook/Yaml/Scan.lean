/-
This file reads the tokens of a YAML text.

Blocks are bounded by indentation: a token that stands deeper than the block
around opens a block, and one that stands less deep closes blocks. Whether some
content is a key is only known when the colon after it is met. Therefore the
place where a key may have begun is remembered, one for the block and one for
each flow collection that is open, and the token for the key is inserted there
afterwards. A key that is no flow collection has to end on its line and within
1024 characters.
-/
import Rulebook.Yaml.Token

namespace Rulebook.Yaml

/-- A place where a key may have begun. -/
structure PossibleKey where
  /-- Whether nothing but a key can stand there. -/
  isRequired : Bool
  /-- How many tokens stand before the place. -/
  tokensBefore : Nat
  line : Nat
  index : Nat
  column : Nat

/-- How far the tokens of a text have been read. -/
structure Scan where
  cursor : Cursor
  /-- The tokens read, the last one first. -/
  tokens : List Token
  /-- The indentation of the innermost block, none outside of blocks. -/
  indent : Option Nat
  /-- The indentations around it. -/
  outerIndents : List (Option Nat)
  /-- Where a key may have begun in the innermost collection. -/
  key : Option PossibleKey
  /-- The same for the collections around it; each but the last is a flow collection. -/
  outerKeys : List (Option PossibleKey)
  /-- Whether a key may begin here. -/
  mayBeginKey : Bool

namespace Scan

/-- The start of a text. -/
def start (text : List Char) : Scan :=
  ⟨.start text, [], none, [], none, [], true⟩

/-- Whether a flow collection is open. -/
def inFlow (scan : Scan) : Bool :=
  !scan.outerKeys.isEmpty

/-- The scan with one more token. -/
def emit (scan : Scan) (token : Token) : Scan :=
  { scan with tokens := token :: scan.tokens }

/-- Tokens with more of them inserted after the first ones, all backwards. -/
def insertAfter (many : Nat) (inserted tokens : List Token) : List Token :=
  let later := tokens.length - many
  tokens.take later ++ inserted ++ tokens.drop later

/-! ### Blanks and comments -/

/-- The place of the next token, and whether a key may begin there. Tabs are skipped only where
no indentation is asked for. -/
def skip (inFlow : Bool) : Nat → Bool → Cursor → Cursor × Bool
  | 0, mayBeginKey, cursor => (cursor, mayBeginKey)
  | fuel + 1, mayBeginKey, cursor =>
    let cursor := cursor.skipWhile fun character =>
      character == ' ' || ((inFlow || !mayBeginKey) && character == '\t')
    let cursor := cursor.skipComment
    if cursor.atBreak then skip inFlow fuel (mayBeginKey || !inFlow) cursor.nextLine
    else (cursor, mayBeginKey)

/-! ### Keys -/

/-- A possible key as it stands when the text has been read up to a place: none if it has become
too long. A required key that is too long is refused. -/
def refreshed? (cursor : Cursor) : Option PossibleKey → Option (Option PossibleKey)
  | none => some none
  | some key =>
    if key.line < cursor.line || key.index + 1024 < cursor.index then
      if key.isRequired then none else some none
    else some (some key)

/-- Refreshes all possible keys. -/
def refreshKeys? (scan : Scan) : Option Scan := do
  let key ← refreshed? scan.cursor scan.key
  let outerKeys ← scan.outerKeys.mapM (refreshed? scan.cursor)
  some { scan with key, outerKeys }

/-- Gives up the possible key of the innermost collection, which must not be required. -/
def dropKey? (scan : Scan) : Option Scan :=
  if scan.key.any (·.isRequired) then none else some { scan with key := none }

/-- Remembers that a key may begin here. It is required where a block's items begin. -/
def markKey? (scan : Scan) : Option Scan :=
  if !scan.mayBeginKey then some scan
  else
    (scan.dropKey?).map fun scan =>
      let isRequired := !scan.inFlow && scan.indent == some scan.cursor.column
      { scan with
        key := some ⟨isRequired, scan.tokens.length, scan.cursor.line, scan.cursor.index,
          scan.cursor.column⟩ }

/-! ### Blocks -/

/-- Opens a block at a column that is deeper than the block around; `open` is its token and
`before` counts the tokens that stand before it. -/
def openBlock (scan : Scan) (column before : Nat) (opening : Token) : Scan :=
  if scan.inFlow || !scan.indent.all (· < column) then scan
  else
    { scan with
      indent := some column
      outerIndents := scan.indent :: scan.outerIndents
      tokens := insertAfter before [opening] scan.tokens }

/-- Closes the blocks that are deeper than a column, all of them when there is none. -/
def closeBlocks (column : Option Nat) (tokens : List Token) (indent : Option Nat) :
    List (Option Nat) → List Token × Option Nat × List (Option Nat)
  | [] => (tokens, indent, [])
  | outer :: rest =>
    if indent.any fun indent => column.all (· < indent) then
      closeBlocks column (.blockEnd :: tokens) outer rest
    else (tokens, indent, outer :: rest)

/-- Closes the blocks that are deeper than a column, unless a flow collection is open. -/
def unroll (scan : Scan) (column : Option Nat) : Scan :=
  if scan.inFlow then scan
  else
    let (tokens, indent, outerIndents) := closeBlocks column scan.tokens scan.indent scan.outerIndents
    { scan with tokens, indent, outerIndents }

/-! ### Marks of structure -/

/-- Passes so many characters and adds a token. -/
def mark (scan : Scan) (many : Nat) (token : Token) (mayBeginKey : Bool) : Scan :=
  { scan with
    cursor := scan.cursor.advance many
    tokens := token :: scan.tokens
    mayBeginKey }

/-- A mark between documents. -/
def documentMark? (scan : Scan) : Option Scan := do
  let token : Token := if scan.cursor.isAt '-' then .documentStart else .documentEnd
  let scan ← (scan.unroll none).dropKey?
  some (scan.mark 3 token false)

/-- A directive. -/
def directive? (scan : Scan) : Option Scan := do
  let scan ← (scan.unroll none).dropKey?
  let (token, cursor) ← Token.directive? scan.cursor
  some { scan with cursor, tokens := token :: scan.tokens, mayBeginKey := false }

/-- The opening of a flow collection, which may be a key. -/
def openFlow? (scan : Scan) (token : Token) : Option Scan :=
  scan.markKey?.map fun scan =>
    { scan.mark 1 token true with key := none, outerKeys := scan.key :: scan.outerKeys }

/-- The closing of a flow collection. -/
def closeFlow? (scan : Scan) (token : Token) : Option Scan :=
  scan.dropKey?.map fun scan =>
    match scan.outerKeys with
    | [] => scan.mark 1 token false
    | key :: outerKeys => { scan.mark 1 token false with key, outerKeys }

/-- A comma of a flow collection. -/
def flowEntry? (scan : Scan) : Option Scan :=
  scan.dropKey?.map fun scan => scan.mark 1 .flowEntry true

/-- A hyphen before an item of a block. -/
def blockEntry? (scan : Scan) : Option Scan :=
  if !scan.inFlow && !scan.mayBeginKey then none
  else
    (scan.openBlock scan.cursor.column scan.tokens.length .blockSequenceStart).dropKey?.map
      fun scan => scan.mark 1 .blockEntry true

/-- A question mark before a key. -/
def keyMark? (scan : Scan) : Option Scan :=
  if !scan.inFlow && !scan.mayBeginKey then none
  else
    (scan.openBlock scan.cursor.column scan.tokens.length .blockMappingStart).dropKey?.map
      fun scan => scan.mark 1 .key (!scan.inFlow)

/-- A colon after a key. If a key may have begun before it, that was a key. -/
def valueMark? (scan : Scan) : Option Scan :=
  match scan.key with
  | some key =>
    let scan := { scan with key := none, tokens := insertAfter key.tokensBefore [.key] scan.tokens }
    let scan := scan.openBlock key.column key.tokensBefore .blockMappingStart
    some (scan.mark 1 .value false)
  | none =>
    if scan.inFlow then some (scan.mark 1 .value false)
    else if !scan.mayBeginKey then none
    else
      let scan := scan.openBlock scan.cursor.column scan.tokens.length .blockMappingStart
      some (scan.mark 1 .value true)

/-! ### Content -/

/-- Adds a token of content that was read up to a place. -/
def content (scan : Scan) (mayBeginKey : Bool) : Token × Cursor → Scan
  | (token, cursor) => { scan with cursor, tokens := token :: scan.tokens, mayBeginKey }

/-- An anchor or an alias. -/
def name? (scan : Scan) (make : List Char → Token) : Option Scan := do
  let scan ← scan.markKey?
  let (name, cursor) ← Token.name? scan.cursor.next
  some (scan.content false (make name, cursor))

/-- A tag. -/
def tag? (scan : Scan) : Option Scan := do
  let scan ← scan.markKey?
  (Token.tag? scan.inFlow scan.cursor).map (scan.content false)

/-- A quoted scalar. -/
def quoted? (scan : Scan) (isDouble : Bool) : Option Scan := do
  let scan ← scan.markKey?
  (Token.quoted? isDouble scan.cursor).map (scan.content false)

/-- A block scalar; a key may begin after it. -/
def block? (scan : Scan) (isLiteral : Bool) : Option Scan := do
  let scan ← scan.dropKey?
  (Token.block? isLiteral scan.indent scan.cursor).map (scan.content true)

/-- A plain scalar; a key may begin after it if it was followed by a line break. -/
def plain? (scan : Scan) : Option Scan := do
  let scan ← scan.markKey?
  let least := (scan.indent.map (· + 1)).getD 0
  let (token, isBroken, cursor) ← Token.plain? scan.inFlow least scan.cursor
  some (scan.content isBroken (token, cursor))

/-- The characters that begin no plain scalar. -/
def isIndicator (character : Char) : Bool :=
  ['-', '?', ':', ',', '[', ']', '{', '}', '#', '&', '*', '!', '|', '>', '\'', '"', '%', '@',
    '\x60'].contains character

/-- Whether a plain scalar begins here. A tab that has not been skipped begins none. -/
def beginsPlain (scan : Scan) (character : Char) : Bool :=
  (!isIndicator character && !isBlank character) ||
    (character == '-' && !(scan.cursor.peekAt? 1).any isBlank) ||
    (!scan.inFlow && (character == '?' || character == ':') && !scan.cursor.isGapAt 1)

/-- The token that begins with a character at the place. -/
def token? (scan : Scan) (character : Char) : Option Scan :=
  let beforeGap := scan.cursor.isGapAt 1
  if scan.cursor.column == 0 && character == '%' then scan.directive?
  else if scan.cursor.atDocumentMark then scan.documentMark?
  else if character = '[' then scan.openFlow? .flowSequenceStart
  else if character = '{' then scan.openFlow? .flowMappingStart
  else if character = ']' then scan.closeFlow? .flowSequenceEnd
  else if character = '}' then scan.closeFlow? .flowMappingEnd
  else if character = ',' then scan.flowEntry?
  else if character = '-' ∧ beforeGap then scan.blockEntry?
  else if character = '?' ∧ (scan.inFlow || beforeGap) then scan.keyMark?
  else if character = ':' ∧ (scan.inFlow || beforeGap) then scan.valueMark?
  else if character = '*' then scan.name? .alias
  else if character = '&' then scan.name? .anchor
  else if character = '!' then scan.tag?
  else if character = '|' ∧ !scan.inFlow then scan.block? true
  else if character = '>' ∧ !scan.inFlow then scan.block? false
  else if character = '\'' then scan.quoted? false
  else if character = '"' then scan.quoted? true
  else if scan.beginsPlain character then scan.plain?
  else none

/-- The scan before its next token: blanks are passed and deeper blocks closed. -/
def toNext? (scan : Scan) : Option Scan := do
  let (cursor, mayBeginKey) := skip scan.inFlow (scan.cursor.rest.length + 1) scan.mayBeginKey scan.cursor
  let scan ← { scan with cursor, mayBeginKey }.refreshKeys?
  some (scan.unroll (some cursor.column))

/-- Reads tokens to the end of the text. -/
def toEnd? : Nat → Scan → Option (List Token)
  | 0, _ => none
  | fuel + 1, scan =>
    match scan.toNext? with
    | none => none
    | some scan =>
      match scan.cursor.peek? with
      | none => (scan.unroll none).dropKey?.map fun scan => scan.tokens.reverse
      | some character =>
        match scan.token? character with
        | none => none
        | some scan => toEnd? fuel scan

end Scan

/-- The tokens of a text. -/
def Token.ofText? (text : List Char) : Option (List Token) :=
  let text :=
    match text with
    | '\uFEFF' :: rest => rest
    | text => text
  if text.all isAllowed then (Scan.start text).toEnd? (text.length + 1) else none

end Rulebook.Yaml
