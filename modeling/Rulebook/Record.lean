/-
This file defines records: stores of field values that a schema describes.

Two stores are records. A typed record holds values under names and gives them
back as they are. A JSON object is read through the kinds that the schema
declares, so that every declared field has a value, and written in JSON. A write
is checked against the schema first, in both. `write` gives the record after it;
`assign` changes the record at hand.
-/
import Rulebook.Fault
import Rulebook.Json.Field
import Rulebook.Schema

namespace Rulebook

/-- A store that can be read and written field by field. -/
class FieldStore (Store : Type) where
  /-- The value of a field, none when the store has no such field. -/
  read? : Schema → Store → String → Option Value
  /-- The store with a value put into a field, unchecked. -/
  put : Store → String → Value → Store

/-- Values under the names of fields. -/
abbrev TypedRecord : Type :=
  Entries Value

/-- The members of a JSON object. -/
abbrev JsonRecord : Type :=
  Entries Json

instance : FieldStore TypedRecord where
  read? _ record name := Entries.find? record name
  put record name value := Entries.put record name value

instance : FieldStore JsonRecord where
  read? schema record name :=
    (schema.find? name).map fun field => Value.ofJson field.kind (Entries.find? record name)
  put record name value := Entries.put record name value.toJson

/-- The record that a JSON value is; only an object is one. -/
def JsonRecord.ofJson : Json → Except Fault JsonRecord
  | .object members => .ok members
  | other => .error (.notARecord other.typeName)

/-- Whether a value may be written to a field: the field is declared, with the value's kind. -/
def checkWrite (schema : Schema) (name : String) (value : Value) : Except Fault Unit :=
  match schema.find? name with
  | none => .error (.unknownField name)
  | some field =>
    if field.kind = value.kind then .ok () else .error (.kindMismatch name field.kind value.kind)

/-- The record with a value written to a field, if the schema allows it. -/
def write {Store : Type} [FieldStore Store] (schema : Schema) (record : Store) (name : String)
    (value : Value) : Except Fault Store :=
  match checkWrite schema name value with
  | .ok () => .ok (FieldStore.put record name value)
  | .error fault => .error fault

/-- Writes a value to a field of the record at hand, which is checked before anything is put. -/
def assign {Store : Type} [FieldStore Store] (schema : Schema) (name : String) (value : Value) :
    ExceptT Fault (StateM Store) Unit := do
  checkWrite schema name value
  modify fun record => FieldStore.put record name value

end Rulebook
