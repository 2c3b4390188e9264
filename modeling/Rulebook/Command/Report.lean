/-
This file defines what commands report and writes reports as text.

There are two reports: what enforcement found, and what the default pass made of
a record. Each is written as a table for people, with or without colours, as
JSON or as YAML.
-/
import Rulebook.Json.Printer
import Rulebook.Yaml.Printer

namespace Rulebook.Command

/-- The forms of output. -/
inductive OutputForm where
  | table
  | json
  | yaml
deriving DecidableEq, Repr

namespace OutputForm

/-- The form with a name. -/
def ofName? (name : String) : Option OutputForm :=
  match name with
  | "table" => some table
  | "json" => some json
  | "yaml" => some yaml
  | _ => none

end OutputForm

/-! ### Colours -/

/-- How a stretch of text is set off. -/
inductive Paint where
  | title
  | good
  | bad
  | faint
  | name
  | changed
  | strong
deriving DecidableEq, Repr

/-- The codes of a paint for a terminal. -/
def Paint.codes : Paint → String
  | title => "1;36"
  | good => "32"
  | bad => "31"
  | faint => "2"
  | name => "36"
  | changed => "33"
  | strong => "1"

/-- Whether to write in colours. The first two settings of the environment ask for colours and for
none; the third one can turn them off where the output goes to a terminal. -/
def wantsColours (forced plain setting : Option String) (toTerminal : Bool) : Bool :=
  if forced.any (· ≠ "0") then true
  else if plain.isSome then false
  else toTerminal && setting.all (· ≠ "0")

/-- A text in which a paint begins again wherever the text itself ends all paints. -/
def keepPaint (start : List Char) : List Char → List Char
  | '\x1b' :: '[' :: '0' :: 'm' :: rest => ['\x1b', '[', '0', 'm'] ++ start ++ keepPaint start rest
  | character :: rest => character :: keepPaint start rest
  | [] => []

/-- A text in a paint, if there are colours at all. -/
def painted (inColour : Bool) (paint : Paint) (text : String) : String :=
  if inColour then
    let start := "\x1b[" ++ paint.codes ++ "m"
    start ++ String.ofList (keepPaint start.toList text.toList) ++ "\x1b[0m"
  else text

/-- A line that consists of one character. -/
def bar (character : Char) : String :=
  String.ofList (List.replicate 60 character)

/-- Lines as one text. -/
def ofLines (lines : List String) : String :=
  String.join (lines.map (· ++ "\n"))

/-! ### What enforcement found -/

/-- What enforcement found. -/
structure Report where
  /-- The name of the record type, or a word for a single value. -/
  subject : String
  messages : List String
  /-- The fields that the default pass wrote before. -/
  defaulted : List String

namespace Report

/-- A number in decimal. -/
def decimal (number : Nat) : String :=
  String.ofList (Number.digits number)

/-- The outcome in a sentence. -/
def summary (report : Report) : String :=
  if report.messages.isEmpty then report.subject ++ " is valid"
  else report.subject ++ " has " ++ decimal report.messages.length ++ " violation(s)"

/-- Texts as a JSON array. -/
def texts (items : List String) : Json :=
  .array (items.map .string)

/-- A natural number as JSON. -/
def number (value : Nat) : Json :=
  (JsonNumber.ofInt? value).elim .null .number

/-- The report as JSON, its members in the order in which they are read. -/
def toJson (report : Report) : Json :=
  .object (
    [ ("record", .string report.subject),
      ("valid", .bool report.messages.isEmpty),
      ("violation_count", number report.messages.length),
      ("violations", texts report.messages) ] ++
    (if report.defaulted.isEmpty then [] else [("defaulted", texts report.defaulted)]) ++
    [("summary", .string report.summary)])

/-- A number with a point, in at least four places. -/
def ordinal (number : Nat) : String :=
  let written := Number.digits number
  String.ofList (List.replicate (3 - written.length) ' ' ++ written ++ ['.'])

/-- The messages, numbered from a number on. -/
def numbered (inColour : Bool) : Nat → List String → List String
  | _, [] => []
  | number, message :: rest =>
    (painted inColour .bad "x" ++ " " ++ painted inColour .faint (ordinal number) ++ " " ++ message) ::
      numbered inColour (number + 1) rest

/-- The report as a table. -/
def table (inColour : Bool) (report : Report) : String :=
  let status :=
    if report.messages.isEmpty then painted inColour .good "+" else painted inColour .bad "x"
  ofLines (
    ["", painted inColour .title "Enforcement Results", bar '=', "", status ++ " " ++ report.summary] ++
    (if report.defaulted.isEmpty then []
      else ["  " ++ painted inColour .faint "Defaulted:" ++ " " ++ painted inColour .name (", ".intercalate report.defaulted)]) ++
    (if report.messages.isEmpty then []
      else ["", painted inColour .title "Violations:", bar '-'] ++ numbered inColour 1 report.messages))

end Report

/-! ### What the default pass made -/

/-- A record after the default pass. -/
structure DefaultReport where
  /-- The name of the record type. -/
  subject : String
  /-- The fields that were written. -/
  changed : List String
  record : Json

namespace DefaultReport

/-- The members of the record, one a line. -/
def memberLines (inColour : Bool) (changed : List String) : Json → List String
  | .object members =>
    members.map fun (name, item) =>
      let mark := if changed.contains name then painted inColour .changed "*" else " "
      mark ++ " " ++ painted inColour .strong name ++ ": " ++ String.ofList item.compact
  | _ => []

/-- The report as a table. -/
def table (inColour : Bool) (report : DefaultReport) : String :=
  ofLines (
    ["", painted inColour .title ("Defaults: " ++ report.subject), bar '='] ++
    (if report.changed.isEmpty then [painted inColour .faint "-" ++ " no fields changed"] else []) ++
    memberLines inColour report.changed report.record)

end DefaultReport

/-! ### Forms -/

/-- A JSON value in a form other than a table, with its line end. -/
def written (json : Json) : OutputForm → String
  | .yaml => String.ofList (Yaml.document json) ++ "\n"
  | _ => String.ofList (json.indented 0) ++ "\n"

/-- A report in a form. -/
def Report.written (inColour : Bool) (form : OutputForm) (report : Report) : String :=
  if form = .table then report.table inColour else Command.written report.toJson form

/-- A record after the default pass in a form. -/
def DefaultReport.written (inColour : Bool) (form : OutputForm) (report : DefaultReport) : String :=
  if form = .table then report.table inColour else Command.written report.record form

end Rulebook.Command
