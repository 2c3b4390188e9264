/-
This file reads TOML documents.

A document is a list of lines: keys with their values, headers, comments. Values
may be lists, which go over several lines, and tables in braces, which do not.
Lists and tables in braces are nested at most 79 levels deep, and a key has at
most 79 parts.
-/
import Rulebook.Toml.Lexical

namespace Rulebook.Toml

/-! ### Values -/

mutual

/-- A value, nested at most so many levels deep, and the text after it. The fuel bounds the
steps. -/
def value? (depth : Nat) : Nat → List Char → Option (Item × List Char)
  | 0, _ => none
  | fuel + 1, text =>
    match text with
    | [] => none
    | '"' :: _ => (string? text).map fun (content, rest) => (.text (String.ofList content), rest)
    | '\'' :: _ => (string? text).map fun (content, rest) => (.text (String.ofList content), rest)
    | '[' :: rest =>
      match depth with
      | 0 => none
      | depth + 1 => (items? depth fuel rest).map fun (items, rest) => (.list items, rest)
    | '{' :: rest =>
      match depth with
      | 0 => none
      | depth + 1 =>
        match skipBlanks rest with
        | '}' :: rest => some (.table .braces [], rest)
        | rest =>
          match members? depth fuel rest with
          | none => none
          | some (lines, rest) =>
            (Members.putAll? lines []).map fun members => (.table .braces members, rest)
    | 't' :: 'r' :: 'u' :: 'e' :: rest => some (.bool true, rest)
    | 'f' :: 'a' :: 'l' :: 's' :: 'e' :: rest => some (.bool false, rest)
    | text => numberOrTime? text

/-- The items of a list up to its closing bracket; a comma may stand after the last one. -/
def items? (depth : Nat) : Nat → List Char → Option (List Item × List Char)
  | 0, _ => none
  | fuel + 1, text =>
    match skipLines (text.length + 1) text with
    | none => none
    | some (']' :: rest) => some ([], rest)
    | some rest =>
      match value? depth fuel rest with
      | none => none
      | some (item, rest) =>
        match skipLines (rest.length + 1) rest with
        | some (',' :: rest) => (items? depth fuel rest).map fun (items, rest) => (item :: items, rest)
        | some (']' :: rest) => some ([item], rest)
        | _ => none

/-- The members of a table up to its closing brace; there is at least one. -/
def members? (depth : Nat) : Nat → List Char → Option (List (List String × Item) × List Char)
  | 0, _ => none
  | fuel + 1, text =>
    match key? text with
    | some (keys, '=' :: rest) =>
      match value? depth fuel (skipBlanks rest) with
      | none => none
      | some (item, rest) =>
        match skipBlanks rest with
        | ',' :: rest =>
          (members? depth fuel rest).map fun (lines, rest) => ((keys, item) :: lines, rest)
        | '}' :: rest => some ([(keys, item)], rest)
        | _ => none
    | _ => none

end

/-! ### Lines -/

/-- A line with a key and a value, with its end. -/
def line? (text : List Char) : Option ((List String × Item) × List Char) :=
  match key? text with
  | some (keys, '=' :: rest) => do
    let (item, rest) ← value? depthLimit (2 * rest.length + 2) (skipBlanks rest)
    let rest ← lineEnd? rest
    some ((keys, item), rest)
  | _ => none

/-- A header with the end of its line. -/
def header? (text : List Char) : Option (Header × List Char) :=
  match text with
  | '[' :: '[' :: rest =>
    match key? rest with
    | some (keys, ']' :: ']' :: rest) => (lineEnd? rest).map fun rest => (⟨true, keys⟩, rest)
    | _ => none
  | '[' :: rest =>
    match key? rest with
    | some (keys, ']' :: rest) => (lineEnd? rest).map fun rest => (⟨false, keys⟩, rest)
    | _ => none
  | _ => none

/-- The lines up to the first header, and the sections after them. -/
def parts? : Nat → List Char → Option (List (List String × Item) × List Section)
  | 0, _ => none
  | fuel + 1, text =>
    match skipBlanks text with
    | [] => some ([], [])
    | '[' :: rest =>
      match header? ('[' :: rest) with
      | none => none
      | some (header, rest) =>
        (parts? fuel rest).map fun (lines, sections) => ([], ⟨header, lines⟩ :: sections)
    | '#' :: rest => (lineEnd? ('#' :: rest)).bind (parts? fuel)
    | rest =>
      match lineBreak? rest with
      | some rest => parts? fuel rest
      | none =>
        match line? rest with
        | none => none
        | some (line, rest) =>
          (parts? fuel rest).map fun (lines, sections) => (line :: lines, sections)

/-- The document of a text. -/
def read? (text : List Char) : Option Members :=
  let text :=
    match text with
    | '\uFEFF' :: rest => rest
    | text => text
  (parts? (text.length + 1) text).bind fun (lines, sections) => Members.ofParts? lines sections

end Rulebook.Toml
