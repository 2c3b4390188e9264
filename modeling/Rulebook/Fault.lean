/-
This file lists what can stop the work on a record or a catalog.

A fault is no violation of a rule: it says that the rules could not be applied
at all. Some faults are the caller's, who handed over a record or a write that
the schema does not allow.
-/
import Rulebook.Value

namespace Rulebook

/-- What stopped the work. -/
inductive Fault where
  /-- A JSON value of another type stands where a record is expected. -/
  | notARecord (found : String)
  /-- A default of a field cannot be used. -/
  | badDefault (field reason : String)
  | unknownField (name : String)
  /-- A value of the wrong kind was to be written. -/
  | kindMismatch (field : String) (declared found : Kind)
  | badCatalog (reason : String)
  /-- A file could not be read. -/
  | unreadable (reason : String)
  /-- A document is not well formed. -/
  | malformed (reason : String)
deriving DecidableEq, Repr

namespace Fault

/-- The fault in words. -/
def message : Fault → String
  | notARecord found => "Record expected: object required, got " ++ found
  | badDefault field reason => "Invalid default for field '" ++ field ++ "': " ++ reason
  | unknownField name => "Unknown field '" ++ name ++ "'"
  | kindMismatch field declared found =>
    "Field '" ++ field ++ "' expects a " ++ declared.name ++ " value, got " ++ found.name
  | badCatalog reason => "Catalog error: " ++ reason
  | unreadable reason => "I/O error: " ++ reason
  | malformed reason => "Parse error: " ++ reason

/-- Whether the caller broke the contract between schema and record. -/
def breaksContract : Fault → Bool
  | notARecord _ => true
  | unknownField _ => true
  | kindMismatch .. => true
  | _ => false

end Fault

end Rulebook
