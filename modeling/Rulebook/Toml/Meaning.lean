/-
This file says what TOML documents mean, as JSON and as documents to read
catalogs from.

JSON has no times: a time becomes an object with one member of a reserved name,
which holds the time as it is written in full. Floating-point numbers that are
not finite become null.
-/
import Rulebook.Document
import Rulebook.Json.Basic
import Rulebook.Toml.Reader

namespace Rulebook.Toml

namespace Item

/-! ### Documents as JSON -/

/-- The name of the member that holds a time. -/
def timeMember : String := "$__toml_private_datetime"

mutual

/-- An item as JSON. -/
def toJson : Item → Json
  | .text content => .string content
  | .whole number => (JsonNumber.ofInt? number).elim .null .number
  | .float number => (JsonNumber.ofDouble? number).elim .null .number
  | .bool value => .bool value
  | .time stamp => .object [(timeMember, .string stamp)]
  | .list items => .array (itemsToJson items)
  | .table _ members => .object (membersToJson members)
  | .tables items => .array (tablesToJson items)

/-- The items of a list as JSON. -/
def itemsToJson : List Item → List Json
  | [] => []
  | item :: rest => item.toJson :: itemsToJson rest

/-- The members of a table as JSON. -/
def membersToJson : List (String × Item) → List (String × Json)
  | [] => []
  | (name, item) :: rest => (name, item.toJson) :: membersToJson rest

/-- Tables as JSON. -/
def tablesToJson : List (List (String × Item)) → List Json
  | [] => []
  | members :: rest => .object (membersToJson members) :: tablesToJson rest

end

/-! ### Documents to read catalogs from -/

/-- Whether an item is an empty list or an empty table. -/
def isEmpty : Item → Bool
  | .list items => items.isEmpty
  | .table _ members => members.isEmpty
  | .tables items => items.isEmpty
  | _ => false

/-- The choice that a table is written for: its one member is empty. -/
def choice? : List (String × Item) → Option String
  | [(name, item)] => if item.isEmpty then some name else none
  | _ => none

mutual

/-- An item as a document. -/
def toDocument : Item → Document
  | .text content => .datum (.ofText content)
  | .whole number => .datum (.ofInt number)
  | .float _ => .datum .unreadable
  | .bool value => .datum (.ofBool value)
  | .time _ => .datum .unreadable
  | .list items => .list false (itemsToDocuments items)
  | .table _ members => .table (choice? members) (membersToDocuments members)
  | .tables items => .list false (tablesToDocuments items)

/-- The items of a list as documents. -/
def itemsToDocuments : List Item → List Document
  | [] => []
  | item :: rest => item.toDocument :: itemsToDocuments rest

/-- The members of a table as members of a document. -/
def membersToDocuments : List (String × Item) → List (Option String × Document)
  | [] => []
  | (name, item) :: rest => (some name, item.toDocument) :: membersToDocuments rest

/-- Tables as documents. -/
def tablesToDocuments : List (List (String × Item)) → List Document
  | [] => []
  | members :: rest =>
    .table (choice? members) (membersToDocuments members) :: tablesToDocuments rest

end

end Item

/-- The JSON value of a text. -/
def readJson? (text : List Char) : Option Json :=
  (read? text).map fun members => (Item.table .header members).toJson

/-- The document of a text. -/
def readDocument? (text : List Char) : Option Document :=
  (read? text).map fun members => (Item.table .header members).toDocument

end Rulebook.Toml
