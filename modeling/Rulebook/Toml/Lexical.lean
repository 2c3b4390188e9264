/-
This file reads the small parts of TOML texts: blanks, comments, strings,
numbers and times.

Each function gives what it read and the text after it. Lines end with a line
feed, or with a carriage return and a line feed, which count the same within a
string. Digits of a number may be parted by single underscores.
-/
import Rulebook.Number.Decimal
import Rulebook.Calendar.Stamp
import Rulebook.Toml.Item

namespace Rulebook.Toml

open Number

/-! ### Blanks, comments and line ends -/

/-- Whether a character is a blank within a line. -/
def isBlank (character : Char) : Bool :=
  character == ' ' || character == '\t'

/-- Whether a character may stand in a comment or a string: no control character but the tab. -/
def isPrintable (character : Char) : Bool :=
  character == '\t' || (0x20 ≤ character.toNat && character.toNat != 0x7F)

/-- The text after blanks. -/
def skipBlanks (text : List Char) : List Char :=
  text.dropWhile isBlank

/-- The text after a line break, if one is here. -/
def lineBreak? : List Char → Option (List Char)
  | '\n' :: rest => some rest
  | '\r' :: '\n' :: rest => some rest
  | _ => none

/-- The text after a comment, if one is here. -/
def skipComment : List Char → List Char
  | '#' :: rest => rest.dropWhile isPrintable
  | text => text

/-- The text after the rest of a line that holds nothing but blanks and a comment. -/
def lineEnd? (text : List Char) : Option (List Char) :=
  match skipComment (skipBlanks text) with
  | [] => some []
  | rest => lineBreak? rest

/-- The text after blanks, comments and line breaks; a comment has to end with its line. -/
def skipLines : Nat → List Char → Option (List Char)
  | 0, text => some text
  | fuel + 1, text =>
    match skipBlanks text with
    | '#' :: rest => (lineBreak? (rest.dropWhile isPrintable)).bind (skipLines fuel)
    | rest =>
      match lineBreak? rest with
      | some rest => skipLines fuel rest
      | none => some rest

/-! ### Strings -/

/-- A character by so many digits of base sixteen. -/
def codedCharacter? (many : Nat) (text : List Char) : Option (Char × List Char) :=
  let run := text.take many
  if run.length < many then none
  else
    match run.foldlM (fun total character => (hexValue? character).map (total * 16 + ·)) 0 with
    | some code => if code.isValidChar then some (Char.ofNat code, text.drop many) else none
    | none => none

/-- What an escape stands for, after the backslash. -/
def escape? : List Char → Option (Char × List Char)
  | 'b' :: rest => some ('\x08', rest)
  | 't' :: rest => some ('\t', rest)
  | 'n' :: rest => some ('\n', rest)
  | 'f' :: rest => some ('\x0c', rest)
  | 'r' :: rest => some ('\r', rest)
  | '"' :: rest => some ('"', rest)
  | '\\' :: rest => some ('\\', rest)
  | 'u' :: rest => codedCharacter? 4 rest
  | 'U' :: rest => codedCharacter? 8 rest
  | _ => none

/-- The rest of a string in one pair of double quotes. -/
def basicRest? : Nat → List Char → Option (List Char × List Char)
  | 0, _ => none
  | fuel + 1, text =>
    match text with
    | [] => none
    | '"' :: rest => some ([], rest)
    | '\\' :: rest =>
      match escape? rest with
      | none => none
      | some (character, rest) =>
        (basicRest? fuel rest).map fun (content, rest) => (character :: content, rest)
    | character :: rest =>
      if isPrintable character then
        (basicRest? fuel rest).map fun (content, rest) => (character :: content, rest)
      else none

/-- The rest of a string in one pair of single quotes, where nothing is escaped. -/
def literalRest? : List Char → Option (List Char × List Char)
  | [] => none
  | '\'' :: rest => some ([], rest)
  | character :: rest =>
    if isPrintable character then
      (literalRest? rest).map fun (content, rest) => (character :: content, rest)
    else none

/-- The text after a backslash at the end of a line, and after all blanks and line breaks that
follow. -/
def continued? (text : List Char) : Option (List Char) :=
  (lineBreak? (skipBlanks text)).map fun rest => skipAll (rest.length + 1) rest
where
  /-- The text after blanks and line breaks. -/
  skipAll : Nat → List Char → List Char
    | 0, text => text
    | fuel + 1, text =>
      match lineBreak? (skipBlanks text) with
      | some rest => skipAll fuel rest
      | none => skipBlanks text

/-- The rest of a string in three pairs of quotes. Three to five quotes end it, of which the last
three do not belong to it; escapes count only in double quotes. -/
def longRest? (quote : Char) : Nat → List Char → Option (List Char × List Char)
  | 0, _ => none
  | fuel + 1, text =>
    match text with
    | [] => none
    | character :: rest =>
      if character = quote then
        let many := (text.takeWhile (· == quote)).length
        if many < 3 then
          (longRest? quote fuel (text.drop many)).map fun (content, rest) =>
            (List.replicate many quote ++ content, rest)
        else if many ≤ 5 then some (List.replicate (many - 3) quote, text.drop many)
        else none
      else if character = '\\' ∧ quote = '"' then
        match continued? rest with
        | some rest => longRest? quote fuel rest
        | none =>
          match escape? rest with
          | none => none
          | some (character, rest) =>
            (longRest? quote fuel rest).map fun (content, rest) => (character :: content, rest)
      else
        match lineBreak? text with
        | some rest => (longRest? quote fuel rest).map fun (content, rest) => ('\n' :: content, rest)
        | none =>
          if isPrintable character then
            (longRest? quote fuel rest).map fun (content, rest) => (character :: content, rest)
          else none

/-- A string in three pairs of quotes, after its opening; a line break right after the opening
does not belong to it. -/
def long? (quote : Char) (text : List Char) : Option (List Char × List Char) :=
  longRest? quote (text.length + 1) ((lineBreak? text).getD text)

/-- A string within a line. -/
def shortString? : List Char → Option (List Char × List Char)
  | '"' :: rest => basicRest? (rest.length + 1) rest
  | '\'' :: rest => literalRest? rest
  | _ => none

/-- A string of any sort. -/
def string? : List Char → Option (List Char × List Char)
  | '"' :: '"' :: '"' :: rest => long? '"' rest
  | '\'' :: '\'' :: '\'' :: rest => long? '\'' rest
  | text => shortString? text

/-! ### Keys -/

/-- Whether a character can stand in a key without quotes. -/
def isKeyCharacter (character : Char) : Bool :=
  character.isAlphanum || character == '_' || character == '-'

/-- One part of a key. -/
def keyPart? (text : List Char) : Option (String × List Char) :=
  match shortString? text with
  | some (content, rest) => some (String.ofList content, rest)
  | none =>
    let run := text.takeWhile isKeyCharacter
    if run.isEmpty then none else some (String.ofList run, text.drop run.length)

/-- How deeply lists and tables in braces may be nested, and how many parts a key may have. -/
def depthLimit : Nat := 79

/-- Parts of a key, so many at most, with points between them and blanks around each. -/
def keyParts? : Nat → List Char → Option (List String × List Char)
  | 0, _ => none
  | many + 1, text =>
    match keyPart? (skipBlanks text) with
    | none => none
    | some (part, rest) =>
      match skipBlanks rest with
      | '.' :: rest => (keyParts? many rest).map fun (parts, rest) => (part :: parts, rest)
      | rest => some ([part], rest)

/-- A key. -/
def key? (text : List Char) : Option (List String × List Char) :=
  keyParts? depthLimit text

/-! ### Numbers -/

/-- Digits with single underscores between them, which are dropped. An underscore that no digit
follows is refused. -/
def digitRun? (isDigit : Char → Bool) : List Char → Option (List Char × List Char)
  | [] => none
  | first :: rest =>
    if isDigit first then (more rest).map fun (run, rest) => (first :: run, rest) else none
where
  /-- The digits after the first one. -/
  more : List Char → Option (List Char × List Char)
    | [] => some ([], [])
    | '_' :: next :: rest =>
      if isDigit next then (more rest).map fun (run, rest) => (next :: run, rest) else none
    | character :: rest =>
      if isDigit character then (more rest).map fun (run, rest) => (character :: run, rest)
      else if character = '_' then none
      else some ([], character :: rest)

/-- The digits before the point: a zero alone, or digits that do not begin with zero. -/
def wholeRun? : List Char → Option (List Char × List Char)
  | '0' :: rest => some (['0'], rest)
  | text => digitRun? isDigit text

/-- The fraction after a point, if there is a point. -/
def fraction? : List Char → Option (Option (List Char) × List Char)
  | '.' :: rest => (digitRun? isDigit rest).map fun (run, rest) => (some run, rest)
  | text => some (none, text)

/-- A sign, if there is one; tells whether it is a minus sign. -/
def sign (text : List Char) : Bool × List Char :=
  match text with
  | '+' :: rest => (false, rest)
  | '-' :: rest => (true, rest)
  | rest => (false, rest)

/-- The power of ten after the letter `e`, if there is one. -/
def power? : List Char → Option (Option Int × List Char)
  | [] => some (none, [])
  | letter :: rest =>
    if letter = 'e' ∨ letter = 'E' then
      let (negative, digits) := sign rest
      (digitRun? isDigit digits).map fun (run, rest) =>
        (some (if negative then -(valueOf run : Int) else valueOf run), rest)
    else some (none, letter :: rest)

/-- A whole number of 64 bits, signed. -/
def signedItem? (value : Int) : Option Item :=
  if -2 ^ 63 ≤ value ∧ value < 2 ^ 63 then some (.whole value) else none

/-- A floating-point number as an item; a positive one beyond the finite numbers is refused. -/
def floatItem? (text : DecimalText) : Option Item :=
  let value := text.nearest
  if value = .infinite false then none else some (.float value)

/-- A decimal number. -/
def decimal? (text : List Char) : Option (Item × List Char) := do
  let (negative, unsigned) := sign text
  let (whole, rest) ← wholeRun? unsigned
  let (fraction, rest) ← fraction? rest
  let (power, rest) ← power? rest
  let item ←
    if fraction.isNone && power.isNone then
      signedItem? (if negative then -(valueOf whole : Int) else valueOf whole)
    else floatItem? ⟨negative, whole, fraction.getD [], power.getD 0⟩
  some (item, rest)

/-- A whole number in a base, after the two characters that name the base. -/
def based? (base : Nat) (text : List Char) : Option (Item × List Char) := do
  let isDigit (character : Char) : Bool := (hexValue? character).any (· < base)
  let (run, rest) ← digitRun? isDigit text
  let value := run.foldl (fun total character => total * base + (hexValue? character).getD 0) 0
  let item ← signedItem? value
  some (item, rest)

/-- One of the floating-point numbers that are words. -/
def word? (text : List Char) : Option (Item × List Char) :=
  let (negative, rest) := sign text
  match rest with
  | 'i' :: 'n' :: 'f' :: rest => some (.float (.infinite negative), rest)
  | 'n' :: 'a' :: 'n' :: rest => some (.float .nan, rest)
  | _ => none

/-! ### Dates and times -/

/-- A number of exactly so many digits, not above a limit. -/
def field? (many limit : Nat) (text : List Char) : Option (Nat × List Char) :=
  match Calendar.number? many many text with
  | some (value, rest) => if value ≤ limit then some (value, rest) else none
  | none => none

/-- A date, written in full. -/
def date? (text : List Char) : Option (List Char × List Char) := do
  let (year, rest) ← field? 4 9999 text
  let rest ← Calendar.expect? '-' rest
  let (month, rest) ← field? 2 12 rest
  let rest ← Calendar.expect? '-' rest
  let (day, rest) ← field? 2 31 rest
  let date : Calendar.Date := ⟨year, month, day⟩
  if date.IsValid then some (Calendar.dateText date, rest) else none

/-- The digits of a fraction of a second: at most nine, without zeros at the end. -/
def secondFraction? : List Char → Option (List Char × List Char)
  | '.' :: rest =>
    let run := rest.takeWhile isDigit
    if run.isEmpty then none
    else
      let kept := ((run.take 9).reverse.dropWhile (· == '0')).reverse
      some (if kept.isEmpty then [] else '.' :: kept, rest.drop run.length)
  | text => some ([], text)

/-- A time of day, written in full. -/
def clock? (text : List Char) : Option (List Char × List Char) := do
  let (hour, rest) ← field? 2 23 text
  let rest ← Calendar.expect? ':' rest
  let (minute, rest) ← field? 2 59 rest
  let rest ← Calendar.expect? ':' rest
  let (second, rest) ← field? 2 60 rest
  let (fraction, rest) ← secondFraction? rest
  some (Calendar.clockText hour minute second ++ fraction, rest)

/-- An offset from UTC, written in full, if one is here. -/
def offset? : List Char → Option (List Char × List Char)
  | [] => some ([], [])
  | letter :: rest =>
    if letter = 'Z' ∨ letter = 'z' then some (['Z'], rest)
    else if letter = '+' ∨ letter = '-' then do
      let (hours, rest) ← field? 2 23 rest
      let rest ← Calendar.expect? ':' rest
      let (minutes, rest) ← field? 2 59 rest
      let total : Int := (hours * 60 + minutes : Nat)
      some (Calendar.offsetText (60 * if letter = '-' then -total else total), rest)
    else some ([], letter :: rest)

/-- The time of day after a date, with its offset, if there is one. -/
def clockAfterDate? (text : List Char) : Option (List Char × List Char) :=
  match text with
  | [] => some ([], [])
  | mark :: rest =>
    if mark = 'T' ∨ mark = 't' ∨ mark = ' ' then
      match clock? rest with
      | some (clock, rest) =>
        (offset? rest).map fun (offset, rest) => ('T' :: clock ++ offset, rest)
      | none => if mark = ' ' then some ([], text) else none
    else some ([], text)

/-- A date, a time of day or both. -/
def time? (text : List Char) : Option (Item × List Char) :=
  match date? text with
  | some (date, rest) =>
    (clockAfterDate? rest).map fun (clock, rest) => (.time (String.ofList (date ++ clock)), rest)
  | none => (clock? text).map fun (clock, rest) => (.time (String.ofList clock), rest)

/-- A number or a time. -/
def numberOrTime? (text : List Char) : Option (Item × List Char) :=
  match time? text with
  | some read => some read
  | none =>
    match text with
    | '0' :: 'x' :: rest => based? 16 rest
    | '0' :: 'o' :: rest => based? 8 rest
    | '0' :: 'b' :: rest => based? 2 rest
    | _ => word? text <|> decimal? text

end Rulebook.Toml
