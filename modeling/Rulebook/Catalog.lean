/-
This file defines catalogs: record types with the settings under which they are
enforced.

A catalog is read from a document and then checked. No record type and no field
may go without a name, and no two record types, nor two fields of one record
type, may have one name. The first flaw in the order of the document is
reported.
-/
import Rulebook.Document
import Rulebook.Fault
import Rulebook.Rule.Evaluation
import Rulebook.Schema
import Rulebook.Text.Blank

namespace Rulebook

/-- Record types and settings. -/
structure Catalog where
  settings : Settings
  records : List Schema
deriving DecidableEq, Repr

namespace Catalog

/-- The record type with a name. -/
def find? (catalog : Catalog) (name : String) : Option Schema :=
  catalog.records.find? fun record => record.name = name

/-! ### Reading -/

/-- The reading of a member that has a standard value for where it is missing. -/
def readOr {Item : Type} (standard : Item) (read : Document → Option Item) :
    Option Document → Option Item
  | none => some standard
  | some document => read document

/-- Settings from a document. -/
def readSettings? (document : Document) : Option Settings :=
  match document.members? ["report_unknown", "pattern_size_limit"] with
  | some [report, limit] => do
    let report ← readOr Settings.standard.reportUnknown Document.bool? report
    let limit ← readOr Settings.standard.patternSizeLimit Document.count? limit
    some ⟨report, limit⟩
  | _ => none

/-- A field from a document. -/
def readField? (document : Document) : Option Field :=
  match document.members? ["name", "kind", "rules"] with
  | some [some name, some kind, rules] => do
    let name ← name.text?
    let kind ← Kind.ofName? (← kind.choice?)
    let rules ← readOr "" Document.text? rules
    some ⟨name, kind, rules⟩
  | _ => none

/-- A list of things from a document. -/
def readList? {Item : Type} (read : Document → Option Item) (document : Document) :
    Option (List Item) := do
  (← document.items?).mapM read

/-- A record type from a document. -/
def readSchema? (document : Document) : Option Schema :=
  match document.members? ["name", "fields"] with
  | some [some name, fields] => do
    let name ← name.text?
    let fields ← readOr [] (readList? readField?) fields
    some ⟨name, fields⟩
  | _ => none

/-- A catalog from a document, unchecked. -/
def read? (document : Document) : Option Catalog :=
  match document.members? ["enforcer", "records"] with
  | some [settings, records] => do
    let settings ← readOr .standard readSettings? settings
    let records ← readOr [] (readList? readSchema?) records
    some ⟨settings, records⟩
  | _ => none

/-! ### Checking -/

/-- What can be wrong with a catalog. -/
inductive Flaw where
  | namelessRecord
  | repeatedRecord (name : String)
  | namelessField (record : String)
  | repeatedField (name record : String)
deriving DecidableEq, Repr

/-- The flaw in words. -/
def Flaw.message : Flaw → String
  | namelessRecord => "record with an empty name"
  | repeatedRecord name => "duplicate record '" ++ name ++ "'"
  | namelessField record => "record '" ++ record ++ "' has a field with an empty name"
  | repeatedField name record => "duplicate field '" ++ name ++ "' in record '" ++ record ++ "'"

/-- Whether a name consists of blanks alone. -/
def isNameless (name : String) : Bool :=
  Text.isBlankText name.toList

/-- The first flaw of fields, given the names of the fields before. -/
def fieldFlaw? (record : String) (seen : List String) : List Field → Option Flaw
  | [] => none
  | field :: rest =>
    if isNameless field.name then some (.namelessField record)
    else if seen.contains field.name then some (.repeatedField field.name record)
    else fieldFlaw? record (field.name :: seen) rest

/-- The first flaw of record types, given the names of the record types before. -/
def recordFlaw? (seen : List String) : List Schema → Option Flaw
  | [] => none
  | record :: rest =>
    if isNameless record.name then some .namelessRecord
    else if seen.contains record.name then some (.repeatedRecord record.name)
    else
      match fieldFlaw? record.name [] record.fields with
      | some flaw => some flaw
      | none => recordFlaw? (record.name :: seen) rest

/-- The first flaw of a catalog. -/
def flaw? (catalog : Catalog) : Option Flaw :=
  recordFlaw? [] catalog.records

/-- The catalog, if nothing is wrong with it. -/
def validate (catalog : Catalog) : Except Fault Catalog :=
  match catalog.flaw? with
  | none => .ok catalog
  | some flaw => .error (.badCatalog flaw.message)

end Catalog

end Rulebook
