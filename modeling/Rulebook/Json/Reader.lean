/-
This file reads JSON text.

Reading has two steps. The first finds the written form: where values, strings
and numbers begin and end. The second gives the written form its meaning. It
refuses a string in which half of a surrogate pair stands alone, a number too
large for floating point, and values nested too deeply. A part of a document
that nobody asks for needs no meaning, only a form.
-/
import Rulebook.Json.Basic
import Rulebook.Number.Decimal

namespace Rulebook

open Number

/-- The written form of a JSON value. -/
inductive JsonForm where
  | null
  | bool (value : Bool)
  /-- A number; it is whole when it has neither a fraction nor an exponent. -/
  | number (isWhole : Bool) (text : DecimalText)
  /-- A string; none when half of a surrogate pair stands alone in it. -/
  | string (content : Option String)
  | array (items : List JsonForm)
  /-- Members in the order of writing; a name may come twice. -/
  | object (members : List (Option String × JsonForm))

namespace JsonForm

/-! ### Strings -/

/-- Four digits of base sixteen, and the text after them. -/
def hexQuad? : List Char → Option (Nat × List Char)
  | first :: second :: third :: fourth :: rest => do
    let first ← hexValue? first
    let second ← hexValue? second
    let third ← hexValue? third
    let fourth ← hexValue? fourth
    some (((first * 16 + second) * 16 + third) * 16 + fourth, rest)
  | _ => none

/-- The low half of a surrogate pair, if its escape follows. -/
def lowHalf? : List Char → Option (Nat × List Char)
  | '\\' :: 'u' :: rest =>
    match hexQuad? rest with
    | some (code, rest) => if 0xDC00 ≤ code ∧ code < 0xE000 then some (code, rest) else none
    | none => none
  | _ => none

/-- The character that an escape stands for, after the backslash. None inside stands for half of
a pair alone. -/
def escape? : List Char → Option (Option Char × List Char)
  | '"' :: rest => some (some '"', rest)
  | '\\' :: rest => some (some '\\', rest)
  | '/' :: rest => some (some '/', rest)
  | 'b' :: rest => some (some '\x08', rest)
  | 'f' :: rest => some (some '\x0c', rest)
  | 'n' :: rest => some (some '\n', rest)
  | 'r' :: rest => some (some '\r', rest)
  | 't' :: rest => some (some '\t', rest)
  | 'u' :: rest =>
    match hexQuad? rest with
    | none => none
    | some (code, rest) =>
      if 0xD800 ≤ code ∧ code < 0xDC00 then
        match lowHalf? rest with
        | some (low, rest) =>
          some (some (Char.ofNat (0x10000 + (code - 0xD800) * 0x400 + (low - 0xDC00))), rest)
        | none => some (none, rest)
      else if 0xDC00 ≤ code ∧ code < 0xE000 then some (none, rest)
      else some (some (Char.ofNat code), rest)
  | _ => none

/-- The characters up to the closing quote, the last one first, and the text after it. -/
def stringEnd? (read : Option (List Char)) : Nat → List Char → Option (Option (List Char) × List Char)
  | 0, _ => none
  | _ + 1, [] => none
  | _ + 1, '"' :: rest => some (read, rest)
  | fuel + 1, '\\' :: rest =>
    match escape? rest with
    | none => none
    | some (character, rest) =>
      stringEnd? (do some ((← character) :: (← read))) fuel rest
  | fuel + 1, character :: rest =>
    if character.toNat < 32 then none
    else stringEnd? (read.map (character :: ·)) fuel rest

/-- A string after its opening quote. -/
def string? (text : List Char) : Option (Option String × List Char) :=
  (stringEnd? (some []) (text.length + 1) text).map fun (read, rest) =>
    (read.map fun characters => String.ofList characters.reverse, rest)

/-! ### Numbers -/

/-- A number; a whole part of several digits does not begin with zero. -/
def number? (text : List Char) : Option (JsonForm × List Char) :=
  let (negative, unsigned) :=
    match text with
    | '-' :: rest => (true, rest)
    | rest => (false, rest)
  let whole := unsigned.takeWhile isDigit
  let afterWhole := unsigned.drop whole.length
  let (hasPoint, fraction, afterFraction) :=
    match afterWhole with
    | '.' :: rest => (true, rest.takeWhile isDigit, rest.dropWhile isDigit)
    | rest => (false, [], rest)
  let (hasPower, exponent, afterPower) :=
    match afterFraction with
    | letter :: rest =>
      if letter = 'e' ∨ letter = 'E' then
        let (sign, digits) :=
          match rest with
          | '+' :: digits => (['+'], digits)
          | '-' :: digits => (['-'], digits)
          | digits => ([], digits)
        (true, letter :: sign ++ digits.takeWhile isDigit, digits.dropWhile isDigit)
      else (false, [], letter :: rest)
    | [] => (false, [], [])
  if whole.isEmpty || (whole.head? == some '0' && 1 < whole.length) then none
  else if hasPoint && fraction.isEmpty then none
  else
    (readPower? exponent).map fun power =>
      (.number (!hasPoint && !hasPower) ⟨negative, whole, fraction, power⟩, afterPower)

/-! ### Values -/

/-- The text after any blanks of the format. -/
def skip (text : List Char) : List Char :=
  text.dropWhile fun character =>
    character == ' ' || character == '\n' || character == '\t' || character == '\r'

/-- The text after a word that has to stand first. -/
def afterWord? (word : String) (text : List Char) : Option (List Char) :=
  word.toList.isPrefixOf? text

mutual

/-- A value and the text after it. The fuel bounds the steps. -/
def value? : Nat → List Char → Option (JsonForm × List Char)
  | 0, _ => none
  | fuel + 1, text =>
    match skip text with
    | [] => none
    | '"' :: rest => (string? rest).map fun (content, rest) => (.string content, rest)
    | '[' :: rest =>
      match skip rest with
      | ']' :: rest => some (.array [], rest)
      | rest => (items? fuel rest).map fun (items, rest) => (.array items, rest)
    | '{' :: rest =>
      match skip rest with
      | '}' :: rest => some (.object [], rest)
      | rest => (members? fuel rest).map fun (members, rest) => (.object members, rest)
    | 'n' :: rest => (afterWord? "ull" rest).map fun rest => (.null, rest)
    | 't' :: rest => (afterWord? "rue" rest).map fun rest => (.bool true, rest)
    | 'f' :: rest => (afterWord? "alse" rest).map fun rest => (.bool false, rest)
    | rest => number? rest

/-- One item or more, and the text after the closing bracket. -/
def items? : Nat → List Char → Option (List JsonForm × List Char)
  | 0, _ => none
  | fuel + 1, text =>
    match value? fuel text with
    | none => none
    | some (item, rest) =>
      match skip rest with
      | ']' :: rest => some ([item], rest)
      | ',' :: rest => (items? fuel rest).map fun (items, rest) => (item :: items, rest)
      | _ => none

/-- One member or more, and the text after the closing brace. -/
def members? : Nat → List Char → Option (List (Option String × JsonForm) × List Char)
  | 0, _ => none
  | fuel + 1, text =>
    match skip text with
    | '"' :: rest =>
      match string? rest with
      | none => none
      | some (name, rest) =>
        match skip rest with
        | ':' :: rest =>
          match value? fuel rest with
          | none => none
          | some (item, rest) =>
            match skip rest with
            | '}' :: rest => some ([(name, item)], rest)
            | ',' :: rest =>
              (members? fuel rest).map fun (members, rest) => ((name, item) :: members, rest)
            | _ => none
        | _ => none
    | _ => none

end

/-- The written form of a whole text. -/
def read? (text : List Char) : Option JsonForm :=
  match value? (2 * text.length + 2) text with
  | some (form, rest) => if (skip rest).isEmpty then some form else none
  | none => none

/-! ### Meaning -/

/-- The number that a written number means. A whole number beyond 64 bits, and minus zero, are
floating-point numbers. -/
def meaningOfNumber? (isWhole : Bool) (text : DecimalText) : Option JsonNumber :=
  let magnitude := valueOf text.whole
  if isWhole && (if text.negative then magnitude ≠ 0 && magnitude ≤ 2 ^ 63 else magnitude < 2 ^ 64) then
    JsonNumber.ofInt? (if text.negative then -(magnitude : Int) else magnitude)
  else text.stepwise?.bind JsonNumber.ofDouble?

mutual

/-- The value that a form means, nested at most so many levels deep. -/
def meaning? (depth : Nat) : JsonForm → Option Json
  | .null => some .null
  | .bool value => some (.bool value)
  | .number isWhole text => (meaningOfNumber? isWhole text).map .number
  | .string content => content.map .string
  | .array items =>
    match depth with
    | 0 => none
    | depth + 1 => (meaningOfItems? depth items).map .array
  | .object members =>
    match depth with
    | 0 => none
    | depth + 1 => (meaningOfMembers? depth members).map fun pairs => .object (Entries.ofPairs pairs)

/-- The values of items. -/
def meaningOfItems? (depth : Nat) : List JsonForm → Option (List Json)
  | [] => some []
  | item :: rest => do
    let item ← meaning? depth item
    let rest ← meaningOfItems? depth rest
    some (item :: rest)

/-- The members of an object. -/
def meaningOfMembers? (depth : Nat) :
    List (Option String × JsonForm) → Option (List (String × Json))
  | [] => some []
  | (name, item) :: rest => do
    let name ← name
    let item ← meaning? depth item
    let rest ← meaningOfMembers? depth rest
    some ((name, item) :: rest)

end

end JsonForm

/-- The JSON value of a text; at most 127 containers may be nested. -/
def Json.read? (text : List Char) : Option Json :=
  (JsonForm.read? text).bind (JsonForm.meaning? 127)

end Rulebook
