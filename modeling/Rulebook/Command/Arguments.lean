/-
This file reads the arguments of the command line.

A command word stands between the options for the program and the options of
the command. An option is a marker, which stands alone, or a setting, which has a
value: attached to it, or in the next argument. A setting may be given once; so
may every marker but the one for verbosity, which counts.

A value in an argument of its own is looked at only when the next option that
the command knows, or the end, is reached. So of a bad value and an unknown
option right behind it, the unknown option is the one that is reported.
-/
import Rulebook.Command.Report
import Rulebook.Text.Cut
import Rulebook.Value

namespace Rulebook.Command

open Text

/-! ### What the command line can ask for -/

/-- The commands. -/
inductive Verb where
  | check
  | defaults
  | value
deriving DecidableEq, Repr

/-- The command of a word. -/
def Verb.ofWord? (word : String) : Option Verb :=
  match word with
  | "check" => some .check
  | "defaults" => some .defaults
  | "value" => some .value
  | _ => none

/-- A command with all that it needs. -/
inductive Task where
  /-- Enforce the rules of a record type on a record, after the default pass if so wanted. -/
  | check (catalog record input : String) (fillIn : Bool) (form : OutputForm)
  /-- Make the default pass over a record. -/
  | defaults (catalog record input : String) (form : OutputForm)
  /-- Enforce rules on a single value. -/
  | value (raw rules : String) (kind : Kind) (form : OutputForm)
deriving DecidableEq, Repr

/-- What the command line asks for. -/
structure Invocation where
  task : Task
  /-- How often more words were asked for. -/
  verbosity : Nat
  /-- Whether nothing but failures is to be written. -/
  quiet : Bool
deriving DecidableEq, Repr

/-- Why no command is started. -/
inductive Refusal where
  /-- The user asked how to use the program. -/
  | help
  /-- The user asked for the program's version. -/
  | version
  /-- There are no arguments at all. -/
  | nothingAsked
  /-- There are options, but no command. -/
  | noCommand
  | unknownCommand
  | unknownArgument
  | missingArgument
  /-- What may be given once is given again. -/
  | repeated
  /-- The value of a setting is missing or not among those allowed. -/
  | badValue
  /-- A marker has a value. -/
  | unwantedValue
deriving DecidableEq, Repr

namespace Refusal

/-- The code that the process ends with when no command is started. -/
def code : Refusal → Nat
  | help => 0
  | version => 0
  | _ => 2

/-- How the program is used. -/
def usage : String :=
  "Usage: field-enforce [-v...] [-q] <command>\n\n" ++
    "  check    -c <catalog> -r <record> -i <file> [--defaults] [--format table|json|yaml]\n" ++
    "  defaults -c <catalog> -r <record> -i <file> [--format table|json|yaml]\n" ++
    "  value    --value <text> --rules <rules> [-k <kind>] [--format table|json|yaml]\n" ++
    "  help     [<command>]\n"

/-- What the user is told. -/
def message : Refusal → String
  | help => usage
  | version => "field-enforce 0.5.0\n"
  | nothingAsked => usage
  | noCommand => "error: a command is required\n\n" ++ usage
  | unknownCommand => "error: unrecognized command\n\n" ++ usage
  | unknownArgument => "error: unexpected argument\n\n" ++ usage
  | missingArgument => "error: a required argument is missing\n\n" ++ usage
  | repeated => "error: an argument cannot be used more than once\n\n" ++ usage
  | badValue => "error: invalid value for an argument\n\n" ++ usage
  | unwantedValue => "error: unexpected value for an argument\n\n" ++ usage

end Refusal

/-! ### Options -/

/-- The options that stand alone. -/
inductive Marker where
  | verbose
  | quiet
  | fillIn
  | help
  | version
deriving DecidableEq, Repr

/-- The options with a value. -/
inductive Setting where
  | catalog
  | record
  | input
  | form
  | raw
  | rules
  | kind
deriving DecidableEq, Repr

/-- The markers of the program, which stand in front of the command, or of a command. -/
def markers : Option Verb → List Marker
  | none => [.verbose, .quiet, .help, .version]
  | some .check => [.fillIn, .verbose, .quiet, .help]
  | some _ => [.verbose, .quiet, .help]

/-- The settings of the program, which has none, or of a command. -/
def settings : Option Verb → List Setting
  | none => []
  | some .check => [.catalog, .record, .input, .form]
  | some .defaults => [.catalog, .record, .input, .form]
  | some .value => [.raw, .rules, .kind, .form]

/-- The name of a marker. -/
def Marker.name : Marker → String
  | verbose => "verbose"
  | quiet => "quiet"
  | fillIn => "defaults"
  | help => "help"
  | version => "version"

/-- The letter of a marker. -/
def Marker.letter? : Marker → Option Char
  | verbose => some 'v'
  | quiet => some 'q'
  | fillIn => none
  | help => some 'h'
  | version => some 'V'

/-- The name of a setting. -/
def Setting.name : Setting → String
  | catalog => "catalog"
  | record => "record"
  | input => "input"
  | form => "format"
  | raw => "value"
  | rules => "rules"
  | kind => "kind"

/-- The letter of a setting. -/
def Setting.letter? : Setting → Option Char
  | catalog => some 'c'
  | record => some 'r'
  | input => some 'i'
  | form => none
  | raw => none
  | rules => none
  | kind => some 'k'

/-- Whether the value of a setting may look like an option. -/
def Setting.takesAnything : Setting → Bool
  | raw => true
  | _ => false

/-! ### Arguments one by one -/

/-- What an argument looks like. -/
inductive Argument where
  | plain
  /-- Two hyphens alone, after which there are no more options. -/
  | divider
  /-- Two hyphens, a name and perhaps a value behind an equals sign. -/
  | named (name : List Char) (value : Option (List Char))
  /-- A hyphen and letters, of which the last may have a value. -/
  | lettered (letters : List Char)

/-- What a text looks like as an argument. A hyphen alone is plain. -/
def Argument.ofText : List Char → Argument
  | ['-', '-'] => divider
  | '-' :: '-' :: text =>
    match cutFirst '=' text with
    | some (name, value) => named name (some value)
    | none => named text none
  | '-' :: letter :: letters => lettered (letter :: letters)
  | _ => plain

/-! ### What has been given -/

/-- What has been given so far. -/
structure Given where
  verbosity : Nat
  quiet : Bool
  fillIn : Bool
  catalog : Option String
  record : Option String
  input : Option String
  form : Option OutputForm
  raw : Option String
  rules : Option String
  kind : Option Kind
deriving DecidableEq, Repr

namespace Given

/-- Nothing. -/
def nothing : Given :=
  ⟨0, false, false, none, none, none, none, none, none, none⟩

/-- Takes a marker. Verbosity is counted up to 255. -/
def mark (given : Given) : Marker → Except Refusal Given
  | .verbose => .ok { given with verbosity := min 255 (given.verbosity + 1) }
  | .quiet => if given.quiet then .error .repeated else .ok { given with quiet := true }
  | .fillIn => if given.fillIn then .error .repeated else .ok { given with fillIn := true }
  | .help => .error .help
  | .version => .error .version

/-- A value for something that is given once, unless the value is bad. -/
def once {Item : Type} (before item : Option Item) : Except Refusal (Option Item) :=
  if before.isSome then .error .repeated
  else if item.isSome then .ok item
  else .error .badValue

/-- A path, which is not empty. -/
def path? (text : String) : Option String :=
  if text = "" then none else some text

/-- A kind that a single value can be read as. -/
def plainKind? (name : String) : Option Kind :=
  (Kind.ofName? name).filter (· ≠ .nested)

/-- Takes a setting with its value. -/
def set (given : Given) (setting : Setting) (text : String) : Except Refusal Given :=
  match setting with
  | .catalog => (once given.catalog (path? text)).map fun item => { given with catalog := item }
  | .record => (once given.record (some text)).map fun item => { given with record := item }
  | .input => (once given.input (path? text)).map fun item => { given with input := item }
  | .form => (once given.form (OutputForm.ofName? text)).map fun item => { given with form := item }
  | .raw => (once given.raw (some text)).map fun item => { given with raw := item }
  | .rules => (once given.rules (some text)).map fun item => { given with rules := item }
  | .kind => (once given.kind (plainKind? text)).map fun item => { given with kind := item }

end Given

/-! ### Reading options -/

/-- A setting that is not settled yet. -/
inductive Waiting where
  | nothing
  /-- The next argument may be the value of the setting. -/
  | forValue (setting : Setting)
  /-- The value has been seen, but not looked at. -/
  | withValue (setting : Setting) (text : String)

/-- What has been given once nothing waits any more. -/
def settle (given : Given) : Waiting → Except Refusal Given
  | .nothing => .ok given
  | .forValue _ => .error .badValue
  | .withValue setting text => given.set setting text

/-- Takes a setting, with its value if that is attached. -/
def takeSetting (given : Given) (waiting : Waiting) (setting : Setting)
    (attached : Option (List Char)) : Except Refusal (Given × Waiting) := do
  let given ← settle given waiting
  match attached with
  | some text => return (← given.set setting (String.ofList text), .nothing)
  | none => return (given, .forValue setting)

/-- Takes an option by its name. -/
def takeNamed (verb : Option Verb) (given : Given) (waiting : Waiting) (name : List Char)
    (attached : Option (List Char)) : Except Refusal (Given × Waiting) :=
  match (markers verb).find? fun marker => marker.name.toList = name with
  | some marker =>
    if attached.isSome then .error .unwantedValue
    else do return (← (← settle given waiting).mark marker, .nothing)
  | none =>
    match (settings verb).find? fun setting => setting.name.toList = name with
    | some setting => takeSetting given waiting setting attached
    | none => .error .unknownArgument

/-- The value attached to the letter of a setting, if there is one. An equals sign in front of it
does not count. -/
def attachedValue? : List Char → Option (List Char)
  | [] => none
  | '=' :: text => some text
  | text => some text

/-- Takes options by their letters. What follows the letter of a setting is its value. -/
def takeLettered (verb : Option Verb) (given : Given) (waiting : Waiting) :
    List Char → Except Refusal (Given × Waiting)
  | [] => .ok (given, waiting)
  | letter :: rest =>
    match (markers verb).find? fun marker => marker.letter? = some letter with
    | some marker => do
      takeLettered verb (← (← settle given waiting).mark marker) .nothing rest
    | none =>
      match (settings verb).find? fun setting => setting.letter? = some letter with
      | some setting => takeSetting given waiting setting (attachedValue? rest)
      | none => .error .unknownArgument

/-- Whether a word stands for a command, or for help on one. -/
def isCommandWord (word : String) : Bool :=
  word = "help" ∨ (Verb.ofWord? word).isSome

/-- What is wrong with a plain argument behind the divider. -/
def refusalBehindDivider (verb : Option Verb) (word : String) : Refusal :=
  if verb.isNone ∧ ¬ isCommandWord word then .unknownCommand else .unknownArgument

/-- Reads options up to the first plain argument. Gives what has been given, and the rest from that
argument on. -/
def readOptions (verb : Option Verb) (given : Given) (waiting : Waiting) :
    List String → Except Refusal (Given × List String)
  | [] => (settle given waiting).map fun given => (given, [])
  | word :: rest =>
    let shape :=
      match waiting with
      | .forValue setting =>
        if setting.takesAnything then Argument.plain else Argument.ofText word.toList
      | _ => Argument.ofText word.toList
    match shape with
    | .divider =>
      match rest with
      | [] => (settle given waiting).map fun given => (given, [])
      | next :: _ => .error (refusalBehindDivider verb next)
    | .named name attached => do
      let (given, waiting) ← takeNamed verb given waiting name attached
      readOptions verb given waiting rest
    | .lettered letters => do
      let (given, waiting) ← takeLettered verb given waiting letters
      readOptions verb given waiting rest
    | .plain =>
      match waiting with
      | .forValue setting => readOptions verb given (.withValue setting word) rest
      | _ => .ok (given, word :: rest)

/-! ### The whole line -/

/-- The task of a command with what has been given for it. -/
def Given.task (given : Given) : Verb → Except Refusal Task
  | .check =>
    match given.catalog, given.record, given.input with
    | some catalog, some record, some input =>
      .ok (.check catalog record input given.fillIn (given.form.getD .table))
    | _, _, _ => .error .missingArgument
  | .defaults =>
    match given.catalog, given.record, given.input with
    | some catalog, some record, some input =>
      .ok (.defaults catalog record input (given.form.getD .json))
    | _, _, _ => .error .missingArgument
  | .value =>
    match given.raw, given.rules with
    | some raw, some rules =>
      .ok (.value raw rules (given.kind.getD .text) (given.form.getD .table))
    | _, _ => .error .missingArgument

/-- What has been given, with the catalog that the environment names in place of a missing one. -/
def Given.orCatalog (given : Given) (environment : Option String) : Verb → Except Refusal Given
  | .value => .ok given
  | _ =>
    match given.catalog, environment with
    | none, some path => given.set .catalog path
    | _, _ => .ok given

/-- Reads the options of a command. -/
def readTask (environment : Option String) (verb : Verb) (arguments : List String) :
    Except Refusal (Given × Task) := do
  let (given, rest) ← readOptions (some verb) .nothing .nothing arguments
  if rest.isEmpty then
    let given ← given.orCatalog environment verb
    return (given, ← given.task verb)
  else .error .unknownArgument

/-- What the help command says about words behind it: it knows one command at most. -/
def refusalOfHelp : List String → Refusal
  | [] => .help
  | [word] => if isCommandWord word then .help else .unknownCommand
  | _ => .unknownCommand

/-- What the arguments ask for. The environment may name a catalog. Markers of the program may
stand on both sides of the command word; the verbosity behind it counts, if there is one. -/
def Invocation.read (environment : Option String) (arguments : List String) :
    Except Refusal Invocation := do
  let (front, rest) ← readOptions none .nothing .nothing arguments
  match rest with
  | [] => .error (if front = .nothing then .nothingAsked else .noCommand)
  | word :: rest =>
    match Verb.ofWord? word with
    | some verb =>
      let (given, task) ← readTask environment verb rest
      return {
        task
        verbosity := if given.verbosity = 0 then front.verbosity else given.verbosity
        quiet := front.quiet || given.quiet }
    | none => .error (if word = "help" then refusalOfHelp rest else .unknownCommand)

end Rulebook.Command
