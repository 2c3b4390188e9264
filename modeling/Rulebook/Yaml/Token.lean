/-
This file defines the tokens of YAML and reads those that stand alone.

A token is a mark of structure or a piece of content. What lies between two
tokens is skipped elsewhere, and where blocks begin and end is decided there
too. Here single tokens are read: names of anchors, tags, directives, and the
five styles of scalars. Lines of a quoted or plain scalar are folded: one line
break becomes a blank, and of several all but the first are kept.
-/
import Rulebook.Number.Digits
import Rulebook.Yaml.Cursor

namespace Rulebook.Yaml

open Number

/-- A token. -/
inductive Token where
  | versionDirective (major minor : Nat)
  | tagDirective (handle lead : List Char)
  | documentStart
  | documentEnd
  | blockSequenceStart
  | blockMappingStart
  | blockEnd
  | flowSequenceStart
  | flowSequenceEnd
  | flowMappingStart
  | flowMappingEnd
  | blockEntry
  | flowEntry
  | key
  | value
  | alias (name : List Char)
  | anchor (name : List Char)
  | tag (handle suffix : List Char)
  | scalar (isPlain : Bool) (content : List Char)
deriving DecidableEq, Repr

namespace Token

/-! ### Anchors and tags -/

/-- Whether a character may follow the name of an anchor. -/
def mayFollowName (character : Char) : Bool :=
  isBlank character || isBreak character || ['?', ':', ',', ']', '}', '%', '@', '\x60'].contains character

/-- The name of an anchor or of an alias, after its sign. -/
def name? (cursor : Cursor) : Option (List Char × Cursor) :=
  let (name, cursor) := cursor.takeWhile isNameCharacter
  if name.isEmpty || !cursor.peek?.all mayFollowName then none else some (name, cursor)

/-- The two digits of base sixteen at a place, as a number. -/
def hexPair? (cursor : Cursor) : Option (Nat × Cursor) :=
  match cursor.rest with
  | first :: second :: _ =>
    match hexValue? first, hexValue? second with
    | some high, some low => some (high * 16 + low, cursor.advance 2)
    | _, _ => none
  | _ => none

/-- How many bytes the encoding of a character takes, by its first byte. -/
def encodedLength? (byte : Nat) : Option Nat :=
  if byte < 0x80 then some 1
  else if byte / 0x20 = 6 then some 2
  else if byte / 0x10 = 14 then some 3
  else if byte / 8 = 30 then some 4
  else none

/-- Further bytes of an encoded character, each written with a percent sign; `code` is what has
been read. -/
def furtherBytes? (code : Nat) : Nat → Cursor → Option (Nat × Cursor)
  | 0, cursor => some (code, cursor)
  | many + 1, cursor =>
    if cursor.isAt '%' then
      match hexPair? cursor.next with
      | some (byte, cursor) =>
        if byte / 0x40 = 2 then furtherBytes? (code * 0x40 + byte % 0x40) many cursor else none
      | none => none
    else none

/-- A character of a tag that is written as its bytes, each with a percent sign. -/
def escapedCharacter? (cursor : Cursor) : Option (Char × Cursor) := do
  let (byte, cursor) ← hexPair? cursor.next
  let length ← encodedLength? byte
  let first := if length = 1 then byte else byte % (2 ^ (7 - length))
  let (code, cursor) ← furtherBytes? first (length - 1) cursor
  some (Char.ofNat code, cursor)

/-- Whether a character can be part of a tag. -/
def isTagCharacter (isVerbatim : Bool) (character : Char) : Bool :=
  isNameCharacter character ||
    [';', '/', '?', ':', '@', '&', '=', '+', '$', '.', '!', '~', '*', '\'', '(', ')', '%'].contains
      character ||
    (isVerbatim && [',', '[', ']'].contains character)

/-- The characters of a tag, and the place after them. -/
def tagRun? (isVerbatim : Bool) : Nat → Cursor → Option (List Char × Cursor)
  | 0, cursor => some ([], cursor)
  | fuel + 1, cursor =>
    match cursor.peek? with
    | none => some ([], cursor)
    | some character =>
      if !isTagCharacter isVerbatim character then some ([], cursor)
      else
        let step := if character = '%' then escapedCharacter? cursor else some (character, cursor.next)
        match step with
        | none => none
        | some (character, cursor) =>
          (tagRun? isVerbatim fuel cursor).map fun (run, cursor) => (character :: run, cursor)

/-- The characters of a tag from a place on. -/
def tagText? (isVerbatim : Bool) (cursor : Cursor) : Option (List Char × Cursor) :=
  tagRun? isVerbatim cursor.rest.length cursor

/-- The handle of a tag: an exclamation mark, or a name between two of them; what is no handle is
given back all the same. -/
def handle? (cursor : Cursor) : Option (List Char × Cursor) :=
  if !cursor.isAt '!' then none
  else
    let (name, cursor) := cursor.next.takeWhile isNameCharacter
    if cursor.isAt '!' then some ('!' :: name ++ ['!'], cursor.next) else some ('!' :: name, cursor)

/-- Whether a handle is closed by an exclamation mark of its own. -/
def isClosed (handle : List Char) : Bool :=
  1 < handle.length && handle.getLast? == some '!'

/-- Handle and suffix of a tag; the tag of an exclamation mark alone has an empty handle. -/
def tagParts? (cursor : Cursor) : Option ((List Char × List Char) × Cursor) :=
  if cursor.peekAt? 1 = some '<' then
    match tagText? true (cursor.advance 2) with
    | some (suffix, cursor) =>
      if suffix.isEmpty || !cursor.isAt '>' then none else some (([], suffix), cursor.next)
    | none => none
  else
    match handle? cursor with
    | none => none
    | some (handle, cursor) =>
      match tagText? false cursor with
      | none => none
      | some (text, cursor) =>
        if isClosed handle then if text.isEmpty then none else some ((handle, text), cursor)
        else
          let suffix := handle.tail ++ text
          some (if suffix.isEmpty then ([], ['!']) else (['!'], suffix), cursor)

/-- A tag; a gap has to follow it, or a comma in a flow collection. -/
def tag? (inFlow : Bool) (cursor : Cursor) : Option (Token × Cursor) :=
  match tagParts? cursor with
  | some ((handle, suffix), cursor) =>
    if cursor.isGapAt 0 || (inFlow && cursor.isAt ',') then some (.tag handle suffix, cursor) else none
  | none => none

/-! ### Directives -/

/-- A number of a version. -/
def versionNumber? (cursor : Cursor) : Option (Nat × Cursor) :=
  let (run, cursor) := cursor.takeWhile isDigit
  if run.isEmpty || 9 < run.length then none else some (valueOf run, cursor)

/-- The version of a directive. -/
def version? (cursor : Cursor) : Option (Token × Cursor) := do
  let (major, cursor) ← versionNumber? cursor.skipBlanks
  if !cursor.isAt '.' then none
  else
    let (minor, cursor) ← versionNumber? cursor.next
    some (.versionDirective major minor, cursor)

/-- The handle of a directive and what it stands for. -/
def tagMeaning? (cursor : Cursor) : Option (Token × Cursor) := do
  let (handle, cursor) ← handle? cursor.skipBlanks
  if (handle ≠ ['!'] && !isClosed handle) || !cursor.atBlank then none
  else
    let (lead, cursor) ← tagText? true cursor.skipBlanks
    if lead.isEmpty || !cursor.isGapAt 0 then none else some (.tagDirective handle lead, cursor)

/-- A directive with the rest of its line. -/
def directive? (cursor : Cursor) : Option (Token × Cursor) := do
  let (name, cursor) := cursor.next.takeWhile isNameCharacter
  if !cursor.isGapAt 0 then none
  else
    let (token, cursor) ←
      if name = "YAML".toList then version? cursor
      else if name = "TAG".toList then tagMeaning? cursor
      else none
    let cursor := cursor.skipBlanks.skipComment
    if cursor.atLineEnd then some (token, cursor.nextLine) else none

/-! ### Blanks and breaks within scalars -/

/-- What stands between two stretches of a scalar: blanks of one line, or line breaks. -/
structure Gap where
  blanks : List Char
  /-- The first line break. -/
  first : List Char
  /-- The further line breaks. -/
  further : List Char
  /-- Whether a line has been broken. -/
  isBroken : Bool

namespace Gap

/-- Nothing. -/
def none : Gap :=
  ⟨[], [], [], false⟩

/-- What a gap counts as: the blanks themselves, or the folded line breaks. -/
def text (gap : Gap) : List Char :=
  if !gap.isBroken then gap.blanks
  else if gap.first.head? = some '\n' then
    if gap.further.isEmpty then [' '] else gap.further
  else gap.first ++ gap.further

/-- The gap from a place on. A tab is refused in the indentation of a line that is indented less
than `indent`. -/
def read? (indent : Option Nat) (gap : Gap) : Nat → Cursor → Option (Gap × Cursor)
  | 0, cursor => some (gap, cursor)
  | fuel + 1, cursor =>
    match cursor.peek? with
    | .none => some (gap, cursor)
    | some character =>
      if isBlank character then
        if gap.isBroken then
          if character = '\t' ∧ indent.any (cursor.column < ·) then .none
          else read? indent gap fuel cursor.next
        else read? indent { gap with blanks := gap.blanks ++ [character] } fuel cursor.next
      else if isBreak character then
        let gap :=
          if gap.isBroken then { gap with further := gap.further ++ cursor.breakText }
          else ⟨[], cursor.breakText, [], true⟩
        read? indent gap fuel cursor.nextLine
      else some (gap, cursor)

end Gap

/-! ### Quoted scalars -/

/-- The characters with an escape of one letter. -/
def escaped? : Char → Option Char
  | '0' => some '\x00'
  | 'a' => some '\x07'
  | 'b' => some '\x08'
  | 't' => some '\t'
  | '\t' => some '\t'
  | 'n' => some '\n'
  | 'v' => some '\x0b'
  | 'f' => some '\x0c'
  | 'r' => some '\r'
  | 'e' => some '\x1b'
  | ' ' => some ' '
  | '"' => some '"'
  | '/' => some '/'
  | '\\' => some '\\'
  | 'N' => some '\u0085'
  | '_' => some '\u00a0'
  | 'L' => some '\u2028'
  | 'P' => some '\u2029'
  | _ => none

/-- How many digits of base sixteen follow an escape. -/
def escapeLength? : Char → Option Nat
  | 'x' => some 2
  | 'u' => some 4
  | 'U' => some 8
  | _ => none

/-- A character by its code point in so many digits. -/
def codedCharacter? (many : Nat) (cursor : Cursor) : Option (Char × Cursor) :=
  let run := cursor.rest.take many
  if run.length < many then none
  else
    match run.foldlM (fun total character => (hexValue? character).map (total * 16 + ·)) 0 with
    | some code => if code.isValidChar then some (Char.ofNat code, cursor.advance many) else none
    | none => none

/-- What an escape stands for, after the backslash. -/
def escape? (cursor : Cursor) : Option (Char × Cursor) :=
  match cursor.peek? with
  | none => none
  | some letter =>
    match escaped? letter with
    | some character => some (character, cursor.next)
    | none =>
      match escapeLength? letter with
      | some many => codedCharacter? many cursor.next
      | none => none

/-- The rest of a quoted scalar up to its closing quote; `gap` is what has been passed since the
last stretch of content. -/
def quotedRest? (isDouble : Bool) (gap : Gap) : Nat → Cursor → Option (List Char × Cursor)
  | 0, _ => none
  | fuel + 1, cursor =>
    if cursor.atDocumentMark then none
    else
      match cursor.peek? with
      | none => none
      | some character =>
        if isBlank character || isBreak character then
          match gap.read? none (fuel + 1) cursor with
          | none => none
          | some (gap, cursor) => quotedRest? isDouble gap fuel cursor
        else if isDouble then
          if character = '"' then some (gap.text, cursor.next)
          else if character = '\\' then
            if cursor.next.atBreak then
              (quotedRest? isDouble ⟨[], [], [], true⟩ fuel cursor.next.nextLine).map
                fun (rest, cursor) => (gap.text ++ rest, cursor)
            else
              match escape? cursor.next with
              | none => none
              | some (character, cursor) =>
                (quotedRest? isDouble .none fuel cursor).map fun (rest, cursor) =>
                  (gap.text ++ character :: rest, cursor)
          else
            (quotedRest? isDouble .none fuel cursor.next).map fun (rest, cursor) =>
              (gap.text ++ character :: rest, cursor)
        else if character = '\'' then
          if cursor.peekAt? 1 = some '\'' then
            (quotedRest? isDouble .none fuel (cursor.advance 2)).map fun (rest, cursor) =>
              (gap.text ++ '\'' :: rest, cursor)
          else some (gap.text, cursor.next)
        else
          (quotedRest? isDouble .none fuel cursor.next).map fun (rest, cursor) =>
            (gap.text ++ character :: rest, cursor)

/-- A quoted scalar, from its opening quote on. -/
def quoted? (isDouble : Bool) (cursor : Cursor) : Option (Token × Cursor) :=
  (quotedRest? isDouble .none (2 * cursor.rest.length + 2) cursor.next).map fun (content, cursor) =>
    (.scalar false content, cursor)

/-! ### Plain scalars -/

/-- Whether a character closes a plain scalar in a flow collection. -/
def closesInFlow (character : Char) : Bool :=
  [',', '[', ']', '{', '}'].contains character

/-- The rest of a plain scalar, the gap after it, and the place where it stops. A line that is
indented less than `indent` ends the scalar outside of flow collections. -/
def plainRest? (inFlow : Bool) (indent : Nat) (gap : Gap) :
    Nat → Cursor → Option (List Char × Gap × Cursor)
  | 0, cursor => some ([], gap, cursor)
  | fuel + 1, cursor =>
    match cursor.peek? with
    | none => some ([], gap, cursor)
    | some character =>
      if isBlank character || isBreak character then
        match gap.read? (some indent) (fuel + 1) cursor with
        | none => none
        | some (gap, cursor) =>
          if (!inFlow && cursor.column < indent) || cursor.atDocumentMark || cursor.isAt '#' then
            some ([], gap, cursor)
          else plainRest? inFlow indent gap fuel cursor
      else if inFlow && character == ':' &&
          (cursor.peekAt? 1).any fun next => next == '?' || closesInFlow next then none
      else if (character == ':' && cursor.isGapAt 1) || (inFlow && closesInFlow character) then
        some ([], gap, cursor)
      else
        (plainRest? inFlow indent .none fuel cursor.next).map fun (rest, after) =>
          (gap.text ++ character :: rest, after)

/-- A plain scalar, whether lines were broken after its content, and the place after it. -/
def plain? (inFlow : Bool) (indent : Nat) (cursor : Cursor) : Option (Token × Bool × Cursor) :=
  (plainRest? inFlow indent .none (2 * cursor.rest.length + 2) cursor).map
    fun (content, gap, cursor) => (.scalar true content, gap.isBroken, cursor)

/-! ### Block scalars -/

/-- What becomes of the line breaks at the end of a block scalar. -/
inductive Chomping where
  | strip
  | clip
  | keep
deriving DecidableEq, Repr

/-- The sign for the line breaks at the end, if there is one. -/
def chomping? (cursor : Cursor) : Option Chomping × Cursor :=
  if cursor.isAt '+' then (some .keep, cursor.next)
  else if cursor.isAt '-' then (some .strip, cursor.next)
  else (none, cursor)

/-- The digit for the indentation, if there is one; zero is refused. -/
def increment? (cursor : Cursor) : Option (Option Nat × Cursor) :=
  match cursor.peek?.bind digitValue? with
  | some 0 => none
  | some digit => some (some digit, cursor.next)
  | none => some (none, cursor)

/-- The head of a block scalar: the two signs in either order. -/
def blockHead? (cursor : Cursor) : Option (Chomping × Option Nat × Cursor) :=
  match chomping? cursor with
  | (some chomping, cursor) =>
    (increment? cursor).map fun (increment, cursor) => (chomping, increment, cursor)
  | (none, cursor) =>
    match increment? cursor with
    | none => none
    | some (increment, cursor) =>
      let (chomping, cursor) := chomping? cursor
      some (chomping.getD .clip, increment, cursor)

/-- The empty lines before content: their breaks, the greatest indentation seen, and the place
after indentation. Without a known indentation every blank is passed. A tab in the indentation
is refused. -/
def emptyLines? (indent : Option Nat) (deepest : Nat) :
    Nat → Cursor → Option (List Char × Nat × Cursor)
  | 0, cursor => some ([], deepest, cursor)
  | fuel + 1, cursor =>
    let isInside (cursor : Cursor) : Bool := indent.all (cursor.column < ·)
    let blanks := cursor.rest.takeWhile (· == ' ')
    let many :=
      match indent with
      | some indent => min blanks.length (indent - cursor.column)
      | none => blanks.length
    let cursor := cursor.advance many
    let deepest := max deepest cursor.column
    if isInside cursor && cursor.isAt '\t' then none
    else if cursor.atBreak then
      (emptyLines? indent deepest fuel cursor.nextLine).map fun (breaks, rest) =>
        (cursor.breakText ++ breaks, rest)
    else some ([], deepest, cursor)

/-- The lines of a block scalar. `leading` is the break before this line, `breaks` the breaks of
the empty lines after that one, and `afterBlank` tells that the line before began with a blank. -/
def blockLines? (isLiteral : Bool) (indent : Nat) (leading breaks : List Char) (afterBlank : Bool) :
    Nat → Cursor → Option (List Char × List Char × List Char × Cursor)
  | 0, cursor => some ([], leading, breaks, cursor)
  | fuel + 1, cursor =>
    if cursor.column != indent || cursor.atEnd then some ([], leading, breaks, cursor)
    else
      let beginsBlank := cursor.atBlank
      let gap :=
        if !isLiteral && leading.head? == some '\n' && !afterBlank && !beginsBlank then
          if breaks.isEmpty then [' '] else breaks
        else leading ++ breaks
      let (line, cursor) := cursor.takeWhile fun character => !isBreak character
      match emptyLines? (some indent) 0 (fuel + 1) cursor.nextLine with
      | none => none
      | some (breaks, _, after) =>
        (blockLines? isLiteral indent cursor.breakText breaks beginsBlank fuel after).map
          fun (rest, others) => (gap ++ line ++ rest, others)

/-- A block scalar, from its sign on; `parent` is the indentation of the block around, none at the
top. -/
def block? (isLiteral : Bool) (parent : Option Nat) (cursor : Cursor) : Option (Token × Cursor) := do
  let fuel := cursor.rest.length + 2
  let (chomping, increment, cursor) ← blockHead? cursor.next
  let cursor := cursor.skipBlanks.skipComment
  if !cursor.atLineEnd then none
  else
    let given := increment.map fun increment => parent.getD 0 + increment
    let (breaks, deepest, cursor) ← emptyLines? given 0 fuel cursor.nextLine
    let least := (parent.map (· + 1)).getD 1
    let indent := given.getD (max deepest least)
    let (content, leading, breaks, cursor) ← blockLines? isLiteral indent [] breaks false fuel cursor
    let tail :=
      match chomping with
      | .strip => []
      | .clip => leading
      | .keep => leading ++ breaks
    some (.scalar false (content ++ tail), cursor)

end Token

end Rulebook.Yaml
