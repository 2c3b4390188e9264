/-
This file runs commands.

A run is a function of the files, the present moment and the arguments. It reads
the catalog first, then the record, then makes the default pass if that is asked
for, and enforces the rules. The first failure ends it. How it ends does not
depend on the form of the output or on whether there is any.
-/
import Rulebook.Calendar.Instant
import Rulebook.Command.Arguments
import Rulebook.Command.Failure
import Rulebook.Default
import Rulebook.Enforcement
import Rulebook.Format

namespace Rulebook.Command

/-! ### Files -/

/-- What a path leads to. -/
inductive Found where
  | text (content : String)
  /-- A file that is no text in UTF-8. -/
  | garbled
  | directory
  /-- A file that may not be read. -/
  | locked
  | nothing
deriving DecidableEq, Repr

/-- The text that a path leads to, or why there is none. -/
def Found.text? : Found → Except String String
  | text content => .ok content
  | garbled => .error "stream did not contain valid UTF-8"
  | directory => .error "Is a directory (os error 21)"
  | locked => .error "Permission denied (os error 13)"
  | nothing => .error "No such file or directory (os error 2)"

/-- Reads the catalog at a path. -/
def loadCatalog (files : String → Found) (path : String) : Except Failure Catalog :=
  if files path = .nothing then .error (.badFile ("Catalog file '" ++ path ++ "' not found"))
  else
    match (files path).text? with
    | .error reason => .error (.badFile reason)
    | .ok content => (readCatalogFile path content.toList).mapError .ofFault

/-- The record type of a catalog with a name. -/
def findRecord (catalog : Catalog) (name : String) : Except Failure Schema :=
  match catalog.find? name with
  | some schema => .ok schema
  | none => .error (.badCatalog ("record type '" ++ name ++ "' not found in catalog"))

/-- The JSON value of a record file with a path and a text. -/
def readRecordFile (path content : String) : Except Failure Json :=
  let extension := extension path
  match Format.ofExtension? extension with
  | some format =>
    match format.readJson? content.toList with
    | some json => .ok json
    | none => .error (.malformed format.flaw)
  | none =>
    .error (.badInput ("Unsupported file format: " ++ extension ++
      ". Supported formats: json, yaml, yml, toml"))

/-- Reads the JSON value of the record at a path. -/
def loadRecord (files : String → Found) (path : String) : Except Failure Json :=
  match (files path).text? with
  | .error reason => .error (.badFile ("Failed to read record file '" ++ path ++ "': " ++ reason))
  | .ok content => readRecordFile path content

/-- A text as a value of a kind. -/
def readValue (raw : String) (kind : Kind) : Except Failure Value :=
  (reconcile kind (.text raw)).mapError fun _ =>
    .badInput ("'" ++ raw ++ "' is not a valid " ++ kind.name ++ " value")

/-! ### Tasks -/

/-- What a task comes to. -/
inductive Outcome where
  | enforced (report : Report)
  | defaulted (report : DefaultReport)

namespace Outcome

/-- How a task ends that comes to something. -/
def exit : Outcome → Exit
  | enforced report => .ofMessages report.messages
  | defaulted _ => .success

/-- The outcome in a form. -/
def written (inColour : Bool) (form : OutputForm) : Outcome → String
  | enforced report => report.written inColour form
  | defaulted report => report.written inColour form

end Outcome

/-- The record after the default pass, and the names of the fields written. -/
def fillIn (schema : Schema) (now : Instant) (json : Json) :
    Except Failure (JsonRecord × List String) :=
  match JsonRecord.ofJson json with
  | .error fault => .error (.ofFault fault)
  | .ok record =>
    match applyDefaults schema now record with
    | (_, .error fault) => .error (.ofFault fault)
    | (record, .ok changed) => .ok (record, changed)

/-- Enforces the rules of a record type on a JSON value. -/
def enforceJson (schema : Schema) (settings : Settings) (json : Json) :
    Except Failure (List String) :=
  match JsonRecord.ofJson json with
  | .error fault => .error (.ofFault fault)
  | .ok record => .ok (enforce schema record settings none)

/-- What a task comes to. -/
def Task.outcome (files : String → Found) (now : Instant) : Task → Except Failure Outcome
  | .check catalogPath name input wantsDefaults _ => do
    let catalog ← loadCatalog files catalogPath
    let schema ← findRecord catalog name
    let json ← loadRecord files input
    let (json, changed) ←
      if wantsDefaults then (fillIn schema now json).map fun (record, changed) =>
        (.object record, changed)
      else .ok (json, [])
    let messages ← enforceJson schema catalog.settings json
    return .enforced ⟨name, messages, changed⟩
  | .defaults catalogPath name input _ => do
    let catalog ← loadCatalog files catalogPath
    let schema ← findRecord catalog name
    let json ← loadRecord files input
    let (record, changed) ← fillIn schema now json
    return .defaulted ⟨name, changed, .object record⟩
  | .value raw rules kind _ => do
    let value ← readValue raw kind
    return .enforced ⟨"value", enforceValue value rules .standard none, []⟩

/-- The form of a task's output. -/
def Task.form : Task → OutputForm
  | check _ _ _ _ form => form
  | defaults _ _ _ form => form
  | value _ _ _ form => form

/-- The paths that a task reads. -/
def Task.paths : Task → List String
  | check catalog _ input _ _ => [catalog, input]
  | defaults catalog _ input _ => [catalog, input]
  | value _ _ _ _ => []

/-! ### Runs -/

/-- What a run leaves behind. -/
structure Ending where
  exit : Exit
  /-- What is written to the standard output. -/
  output : String
  /-- What is written to the standard error output. -/
  complaint : String

/-- Runs what the command line asks for. -/
def run (files : String → Found) (now : Instant) (inColour : Bool) (invocation : Invocation) :
    Ending :=
  match invocation.task.outcome files now with
  | .error failure => ⟨failure.exit, "", "Error: " ++ failure.message ++ "\n"⟩
  | .ok outcome =>
    let output := if invocation.quiet then "" else outcome.written inColour invocation.task.form
    ⟨outcome.exit, output, ""⟩

end Rulebook.Command
