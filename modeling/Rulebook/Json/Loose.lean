/-
This file turns written JSON into documents to read catalogs from.

What nobody asks for is not looked at: a string that is no text and a number
beyond all bounds are flaws only where they are read.
-/
import Rulebook.Document
import Rulebook.Json.Reader

namespace Rulebook

namespace JsonForm

/-- The choice that an object with one member is written for; its value is null. -/
def choice? : List (Option String × JsonForm) → Option String
  | [(some name, .null)] => some name
  | _ => none

/-- A written number as a datum. -/
def numberDatum (isWhole : Bool) (text : Number.DecimalText) : Datum :=
  match meaningOfNumber? isWhole text with
  | some (.whole value _) => .ofInt value
  | _ => .unreadable

mutual

/-- Written JSON as a document. -/
def toDocument : JsonForm → Document
  | .null => .datum .unreadable
  | .bool value => .datum (.ofBool value)
  | .number isWhole text => .datum (numberDatum isWhole text)
  | .string content => .datum (content.elim .unreadable .ofText)
  | .array items => .list true (itemsToDocuments items)
  | .object members => .table (choice? members) (membersToDocuments members)

/-- The items of an array as documents. -/
def itemsToDocuments : List JsonForm → List Document
  | [] => []
  | item :: rest => item.toDocument :: itemsToDocuments rest

/-- The members of an object as members of a table. -/
def membersToDocuments : List (Option String × JsonForm) → List (Option String × Document)
  | [] => []
  | (name, item) :: rest => (name, item.toDocument) :: membersToDocuments rest

end

end JsonForm

/-- The document of a JSON text. -/
def Json.readDocument? (text : List Char) : Option Document :=
  (JsonForm.read? text).map JsonForm.toDocument

end Rulebook
