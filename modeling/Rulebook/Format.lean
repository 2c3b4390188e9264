/-
This file names the formats of documents and reads documents in them.

The format of a file goes by the extension of its name, in any case of letters.
Catalogs and records can be written in each of the formats.
-/
import Rulebook.Catalog
import Rulebook.Json.Loose
import Rulebook.Text.Cut
import Rulebook.Toml.Meaning
import Rulebook.Unicode.Case
import Rulebook.Yaml.Meaning

namespace Rulebook

/-- The formats of documents. -/
inductive Format where
  | json
  | yaml
  | toml
deriving DecidableEq, Repr

/-! ### Names of files -/

/-- The last part of a path, none when the path does not end in a name. -/
def fileName? (path : List Char) : Option (List Char) :=
  let parts := (path.splitOn '/').filter fun part => part ≠ [] ∧ part ≠ ['.']
  parts.getLast?.filter (· ≠ ['.', '.'])

/-- What stands after the last point of a name; a point at the start of the name does not
count. -/
def nameExtension (name : List Char) : List Char :=
  match name with
  | [] => []
  | _ :: rest => if rest.contains '.' then (rest.reverse.takeWhile (· ≠ '.')).reverse else []

/-- The extension of a path, in lower case; empty when there is none. -/
def extension (path : String) : String :=
  String.ofList (Unicode.lower (((fileName? path.toList).map nameExtension).getD []))

namespace Format

/-- The format that an extension stands for. -/
def ofExtension? (extension : String) : Option Format :=
  match extension with
  | "json" => some json
  | "yaml" | "yml" => some yaml
  | "toml" => some toml
  | _ => none

/-- What is said of a text that is no document of the format. -/
def flaw : Format → String
  | json => "JSON error"
  | yaml => "YAML error"
  | toml => "TOML error"

/-! ### Reading -/

/-- The JSON value of a text. -/
def readJson? : Format → List Char → Option Json
  | json => Json.read?
  | yaml => Yaml.readJson?
  | toml => Toml.readJson?

/-- The document of a text. -/
def readDocument? : Format → List Char → Option Document
  | json => Json.readDocument?
  | yaml => Yaml.readDocument?
  | toml => Toml.readDocument?

/-- The catalog of a text. -/
def readCatalog (format : Format) (text : List Char) : Except Fault Catalog :=
  match (format.readDocument? text).bind Catalog.read? with
  | some catalog => catalog.validate
  | none => .error (.malformed format.flaw)

end Format

/-- The catalog of a file with a path and a text. -/
def readCatalogFile (path : String) (text : List Char) : Except Fault Catalog :=
  let extension := extension path
  match Format.ofExtension? extension with
  | some format => format.readCatalog text
  | none =>
    .error (.badCatalog ("Unsupported catalog format: '" ++ extension ++
      "'. Supported formats: json, yaml, yml, toml"))

end Rulebook
