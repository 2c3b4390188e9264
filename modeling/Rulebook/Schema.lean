/-
This file defines schemas: what a record type declares about its fields.

A schema lists fields in the order in which they are enforced. A field has a
kind and a rule text; a field without rules is not enforced. Of several fields
with one name, the first one declares the kind.
-/
import Rulebook.Rule.Directive
import Rulebook.Value

namespace Rulebook

/-- What is declared about a field. -/
structure Field where
  name : String
  kind : Kind
  /-- The rule text; empty when the field is not enforced. -/
  rules : String
deriving DecidableEq, Repr

/-- The directives of a field. -/
def Field.directives (field : Field) : List Directive :=
  readRules field.rules

/-- A record type. -/
structure Schema where
  name : String
  fields : List Field
deriving DecidableEq, Repr

namespace Schema

/-- The field with a name. -/
def find? (schema : Schema) (name : String) : Option Field :=
  schema.fields.find? fun field => field.name = name

/-- The schema with one more field. -/
def add (schema : Schema) (field : Field) : Schema :=
  { schema with fields := schema.fields ++ [field] }

end Schema

end Rulebook
