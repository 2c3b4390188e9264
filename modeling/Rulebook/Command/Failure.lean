/-
This file lists how a command can end: its exit codes and its failures.

Violations are no failure. Most failures are the user's, who gave input, files
or a catalog that cannot be used. The others should not happen.
-/
import Rulebook.Fault

namespace Rulebook.Command

/-- How a command ended. -/
inductive Exit where
  | success
  | violations
  | badInput
  | badFile
  | badCatalog
  | internal
deriving DecidableEq, Repr

namespace Exit

/-- The code that the process ends with. -/
def code : Exit → Nat
  | success => 0
  | violations => 1
  | badInput => 3
  | badFile => 4
  | badCatalog => 5
  | internal => 10

/-- How enforcement ends with some messages. -/
def ofMessages (messages : List String) : Exit :=
  if messages.isEmpty then success else violations

end Exit

/-- Why a command failed. -/
inductive Failure where
  | badInput (reason : String)
  | badFile (reason : String)
  /-- A file is not well formed. -/
  | malformed (reason : String)
  | badCatalog (reason : String)
  /-- The output cannot be written in its format. -/
  | unwritable (reason : String)
  | internal (reason : String)
deriving DecidableEq, Repr

namespace Failure

/-- The failure in words. -/
def message : Failure → String
  | badInput reason => "Invalid input: " ++ reason
  | badFile reason => "File error: " ++ reason
  | malformed reason => "Parse error: " ++ reason
  | badCatalog reason => "Catalog error: " ++ reason
  | unwritable reason => "Serialization error: " ++ reason
  | internal reason => "Internal error: " ++ reason

/-- Whether the failure is the user's. -/
def isUsers : Failure → Bool
  | unwritable _ => false
  | internal _ => false
  | _ => true

/-- How a command ends that fails. -/
def exit : Failure → Exit
  | badInput _ => .badInput
  | malformed _ => .badInput
  | badFile _ => .badFile
  | badCatalog _ => .badCatalog
  | unwritable _ => .internal
  | internal _ => .internal

/-- The failure that a fault amounts to. -/
def ofFault : Fault → Failure
  | .unreadable reason => badFile reason
  | .malformed reason => malformed reason
  | .badCatalog reason => badCatalog reason
  | .notARecord found => badInput (Fault.notARecord found).message
  | .badDefault field reason => badInput (Fault.badDefault field reason).message
  | .unknownField name => internal (Fault.unknownField name).message
  | .kindMismatch field declared found => internal (Fault.kindMismatch field declared found).message

end Failure

end Rulebook.Command
