/-
This file defines the items of TOML documents and how documents grow.

A document is a table that grows line by line. A line with a key puts an item
into a table; a header opens a table, or one more table of a list. Tables come
into being in four ways, and that decides how they may grow later: a table
written in braces is complete, a table that a header opened is not opened again,
a table that is only named within a header may still be opened, and a table that
a dotted key made grows by dotted keys alone.
-/
import Rulebook.Entries
import Rulebook.Number.Double

namespace Rulebook.Toml

/-- How a table came into being. -/
inductive Origin where
  /-- Written in braces. -/
  | braces
  /-- Opened by a header. -/
  | header
  /-- Named by a header on the way to another table. -/
  | implied
  /-- Made by a dotted key. -/
  | dotted
deriving DecidableEq, Repr

/-- An item of a document. -/
inductive Item where
  | text (content : String)
  | whole (number : Int)
  | float (number : Double)
  | bool (value : Bool)
  /-- A date, a time or both, as it is written in full. -/
  | time (text : String)
  | list (items : List Item)
  | table (origin : Origin) (members : List (String × Item))
  /-- Tables that headers in double brackets opened. -/
  | tables (items : List (List (String × Item)))

/-- The members of a table. -/
abbrev Members : Type :=
  Entries Item

namespace Members

/-! ### Lines with keys -/

/-- Puts an item under the last of some keys; the others lead to the table for it. `isInside` tells
that the table was reached by a dotted key, and then it has to be one that dotted keys made. -/
def put? (item : Item) : (keys : List String) → Members → Option Members
  | [], _ => none
  | [name], members =>
    match Entries.find? members name with
    | none => some (Entries.put members name item)
    | some _ => none
  | name :: next :: rest, members =>
    let isLast := rest.isEmpty
    match Entries.find? members name with
    | none => (put? item (next :: rest) []).map fun inner => Entries.put members name (.table .dotted inner)
    | some (.table origin inner) =>
      if origin = .dotted ∨ (origin = .implied ∧ !isLast) then
        (put? item (next :: rest) inner).map fun inner => Entries.put members name (.table origin inner)
      else none
    | some (.tables items) =>
      match items.getLast? with
      | some inner =>
        if isLast then none
        else
          (put? item (next :: rest) inner).map fun inner =>
            Entries.put members name (.tables (items.dropLast ++ [inner]))
      | none => none
    | some _ => none

/-- Puts several items under their keys, one after another. -/
def putAll? (lines : List (List String × Item)) (members : Members) : Option Members :=
  lines.foldlM (fun members line => put? line.2 line.1 members) members

/-! ### Headers -/

/-- Changes the item under the last of some keys; the others lead to its table, through the last
table of a list. -/
def change? (change : Option Item → Option Item) : (keys : List String) → Members → Option Members
  | [], _ => none
  | [name], members => (change (Entries.find? members name)).map fun item => Entries.put members name item
  | name :: next :: rest, members =>
    match Entries.find? members name with
    | none =>
      (change? change (next :: rest) []).map fun inner =>
        Entries.put members name (.table .implied inner)
    | some (.table origin inner) =>
      if origin = .braces then none
      else
        (change? change (next :: rest) inner).map fun inner =>
          Entries.put members name (.table origin inner)
    | some (.tables items) =>
      match items.getLast? with
      | some inner =>
        (change? change (next :: rest) inner).map fun inner =>
          Entries.put members name (.tables (items.dropLast ++ [inner]))
      | none => none
    | some _ => none

/-- The table that a header opens, with the lines after the header. -/
def opened? (lines : List (List String × Item)) : Option Item → Option Item
  | none => (putAll? lines []).map (.table .header)
  | some (.table .implied members) => (putAll? lines members).map (.table .header)
  | some _ => none

/-- A list of tables with one more, which holds the lines after the header. -/
def extended? (lines : List (List String × Item)) : Option Item → Option Item
  | none => (putAll? lines []).map fun members => .tables [members]
  | some (.tables items) => (putAll? lines []).map fun members => .tables (items ++ [members])
  | some _ => none

end Members

/-- A header. -/
structure Header where
  /-- Whether it stands in double brackets. -/
  isListed : Bool
  keys : List String
deriving DecidableEq, Repr

/-- A header with the lines after it. -/
structure Section where
  header : Header
  lines : List (List String × Item)

namespace Members

/-- The document with one more section. -/
def addSection? (members : Members) (part : Section) : Option Members :=
  change? (if part.header.isListed then extended? part.lines else opened? part.lines)
    part.header.keys members

/-- The document of its first lines and its sections. -/
def ofParts? (lines : List (List String × Item)) (sections : List Section) : Option Members :=
  (putAll? lines []).bind fun members => sections.foldlM addSection? members

end Members

end Rulebook.Toml
