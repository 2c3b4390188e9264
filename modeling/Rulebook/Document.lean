/-
This file defines documents: what a catalog can be written as.

The formats of documents agree on lists and tables and differ in what a single
datum can be read as. A datum therefore comes with the readings that its format
allows, and whoever reads a document asks for the reading that is needed.
-/
import Rulebook.Number.Power

namespace Rulebook

/-- The readings of a single datum. -/
structure Datum where
  text? : Option String
  bool? : Option Bool
  /-- A whole number that is not negative. -/
  count? : Option UInt64
  /-- The name of one of several choices. -/
  choice? : Option String
  /-- Whether nothing is written at all, which counts as an empty list and as an empty table. -/
  isBlank : Bool
deriving DecidableEq, Repr

/-- A document, or a part of one. -/
inductive Document where
  | datum (readings : Datum)
  /-- A list; where `isClosed`, items beyond those that are asked for are refused. -/
  | list (isClosed : Bool) (items : List Document)
  /-- A table, whose members stay in the order in which they are written. A member without a name
  has a key that is no text. Some formats write a choice as a table. -/
  | table (choice? : Option String) (members : List (Option String × Document))

namespace Datum

/-- A datum that cannot be read as anything. -/
def unreadable : Datum :=
  ⟨none, none, none, none, false⟩

/-- A datum that is a text and nothing else. -/
def ofText (text : String) : Datum :=
  { unreadable with text? := some text, choice? := some text }

/-- A datum that is a truth value and nothing else. -/
def ofBool (value : Bool) : Datum :=
  { unreadable with bool? := some value }

/-- A datum that is a whole number and nothing else. -/
def ofInt (value : Int) : Datum :=
  { unreadable with
    count? := if 0 ≤ value ∧ value < 2 ^ 64 then some (UInt64.ofNat value.toNat) else none }

end Datum

namespace Document

/-- The document as a text. -/
def text? : Document → Option String
  | datum readings => readings.text?
  | _ => none

/-- The document as a truth value. -/
def bool? : Document → Option Bool
  | datum readings => readings.bool?
  | _ => none

/-- The document as a whole number that is not negative. -/
def count? : Document → Option UInt64
  | datum readings => readings.count?
  | _ => none

/-- The document as one of several choices. -/
def choice? : Document → Option String
  | datum readings => readings.choice?
  | list .. => none
  | table choice? _ => choice?

/-- The document as a list. -/
def items? : Document → Option (List Document)
  | datum readings => if readings.isBlank then some [] else none
  | list _ items => some items
  | table .. => none

/-! ### Tables with known members -/

/-- The values of known members, each none where the member is missing. A known member may be
there once only, and a key that is no text is refused. -/
def known? (names : List String) :
    List (Option String × Document) → Option (List (Option Document))
  | [] => some (names.map fun _ => none)
  | (none, _) :: _ => none
  | (some name, item) :: rest => do
    let found ← known? names rest
    if (names.zip found).any fun entry => entry.1 = name ∧ entry.2.isSome then none
    else some ((names.zip found).map fun entry => if entry.1 = name then some item else entry.2)

/-- The values of known members of a table, or the items of a list in their place. -/
def members? (names : List String) : Document → Option (List (Option Document))
  | datum readings => if readings.isBlank then some (names.map fun _ => none) else none
  | list isClosed items =>
    if isClosed && names.length < items.length then none
    else some ((List.range names.length).map fun index => items[index]?)
  | table _ members => known? names members

end Document

end Rulebook
