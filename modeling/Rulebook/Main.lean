/-
This file is the program: it looks at the world, runs the command and writes
what the run leaves behind.
-/
import Rulebook.Command.Run
import Std.Time.DateTime.Timestamp

namespace Rulebook.Command

/-- The present moment in UTC; the start of 1970 if the clock is beyond the range of instants. -/
def presentMoment : IO Instant := do
  let stamp ← Std.Time.Timestamp.now
  let nanos := stamp.toNanosecondsSinceUnixEpoch.val
  let instant? := Instant.of? (nanos / 1000000000) (nanos % 1000000000).toNat 0
  return instant?.getD .epoch

/-- What a path leads to at present. -/
def lookUp (path : String) : IO Found := do
  match ← (IO.FS.readBinFile path).toBaseIO with
  | .ok bytes =>
    match String.fromUTF8? bytes with
    | some content => return .text content
    | none => return .garbled
  | .error (.permissionDenied ..) => return .locked
  | .error (.inappropriateType _ code _) => return if code = 21 then .directory else .nothing
  | .error _ => return .nothing

end Rulebook.Command

open Rulebook Command

/-- Runs the program with its arguments. -/
def main (arguments : List String) : IO UInt32 := do
  let output ← IO.getStdout
  let complaints ← IO.getStderr
  match Invocation.read (← IO.getEnv "FIELD_ENFORCE_CATALOG") arguments with
  | .error refusal =>
    (if refusal.code = 0 then output else complaints).putStr refusal.message
    return UInt32.ofNat refusal.code
  | .ok invocation =>
    let inColour := wantsColours (← IO.getEnv "CLICOLOR_FORCE") (← IO.getEnv "NO_COLOR")
      (← IO.getEnv "CLICOLOR") (← output.isTty)
    let held ← invocation.task.paths.mapM fun path => return (path, ← lookUp path)
    let files (path : String) : Found := (held.lookup path).getD .nothing
    let ending := run files (← presentMoment) inColour invocation
    output.putStr ending.output
    output.flush
    complaints.putStr ending.complaint
    return UInt32.ofNat ending.exit.code
