/-
This file says what YAML documents mean, as JSON and as documents to read
catalogs from.

As JSON a scalar is resolved: a plain one by its content, a tagged one by its
tag, and every other one is a text. The key of a member is the content of its
scalar as it is written, and a later member replaces an earlier one of its key.
Tags that are not of the standard are refused, and so is nesting of more than
128 levels, which any alias of a node within itself amounts to.
-/
import Rulebook.Document
import Rulebook.Json.Basic
import Rulebook.Yaml.Node
import Rulebook.Yaml.Plain

namespace Rulebook.Yaml

/-! ### Scalars as JSON -/

/-- What a plain scalar stands for, as JSON; `content` is what is written. -/
def Plain.toJson? (content : List Char) : Plain → Option Json
  | null => some .null
  | bool value => some (.bool value)
  | whole value => (JsonNumber.ofInt? value).map .number
  | large => none
  | float value => some ((JsonNumber.ofDouble? value).elim .null .number)
  | text => some (.string (String.ofList content))

/-- A tag of the standard, in full. -/
def standardTag (name : String) : List Char :=
  "tag:yaml.org,2002:".toList ++ name.toList

/-- Whether a tag is the writer's own. -/
def isOwnTag (tag : List Char) : Bool :=
  tag.head? == some '!'

/-- A scalar with a tag, as JSON. -/
def taggedToJson? (tag content : List Char) : Option Json :=
  if isOwnTag tag then none
  else if tag = standardTag "bool" then (Plain.bool? content).map .bool
  else if tag = standardTag "int" then
    match Plain.whole? content with
    | some value => (JsonNumber.ofInt? value).map .number
    | none => none
  else if tag = standardTag "float" then
    (Plain.float? content).map fun value => (JsonNumber.ofDouble? value).elim .null .number
  else if tag = standardTag "null" then if Plain.isNull content then some .null else none
  else some (.string (String.ofList content))

/-- A scalar as JSON. -/
def scalarToJson? (tag : Option (List Char)) (isPlain : Bool) (content : List Char) : Option Json :=
  match tag with
  | some tag => taggedToJson? tag content
  | none =>
    if isPlain then (Plain.ofContent content).toJson? content
    else some (.string (String.ofList content))

namespace Node

/-! ### Documents as JSON -/

/-- The node itself, or the one that an alias stands for. -/
def followed? (anchors : List (Nat × Node)) : Node → Option Node
  | .alias number => target? anchors number
  | node => some node

/-- The key that a node is. -/
def key? (anchors : List (Nat × Node)) (node : Node) : Option String :=
  match followed? anchors node with
  | some (.scalar _ _ content) => some (String.ofList content)
  | _ => none

/-- A node as JSON, nested at most so many levels deep. -/
def toJson? (anchors : List (Nat × Node)) : Nat → Node → Option Json
  | depth, node =>
    match followed? anchors node with
    | some (.scalar marks isPlain content) => scalarToJson? marks.tag isPlain content
    | some (.list marks items) =>
      match depth with
      | 0 => none
      | depth + 1 =>
        if marks.tag.any isOwnTag then none
        else (items.mapM (toJson? anchors depth)).map .array
    | some (.table marks pairs) =>
      match depth with
      | 0 => none
      | depth + 1 =>
        if marks.tag.any isOwnTag then none
        else
          (pairs.mapM fun (key, item) => do
            let name ← key? anchors key
            let item ← toJson? anchors depth item
            some (name, item)).map fun members => .object (Entries.ofPairs members)
    | _ => none

/-! ### Documents to read catalogs from -/

/-- The readings of a scalar. Tags do not matter, except that a tag of the writer's own names a
choice. -/
def readings (marks : Marks) (isPlain : Bool) (content : List Char) : Datum :=
  let isEmpty := isPlain && (content.isEmpty || Plain.isNull content)
  { text? := some (String.ofList content)
    bool? := if isPlain then Plain.bool? content else none
    count? := if isPlain then Plain.count? content else none
    choice? :=
      match marks.tag with
      | some tag =>
        if !isOwnTag tag then some (String.ofList content)
        else if isEmpty then some (String.ofList tag.tail)
        else none
      | none => some (String.ofList content)
    isBlank := isPlain && content.isEmpty }

/-- A node as a document; what is nested more levels deep than are asked for cannot be read. -/
def toDocument (anchors : List (Nat × Node)) : Nat → Node → Document
  | depth, node =>
    match followed? anchors node with
    | some (.scalar marks isPlain content) => .datum (readings marks isPlain content)
    | some (.list _ items) =>
      match depth with
      | 0 => .datum .unreadable
      | depth + 1 => .list true (items.map (toDocument anchors depth))
    | some (.table _ pairs) =>
      match depth with
      | 0 => .datum .unreadable
      | depth + 1 =>
        .table none (pairs.map fun (key, item) => (key? anchors key, toDocument anchors depth item))
    | _ => .datum .unreadable

end Node

/-- How deeply what is read of a catalog is nested. -/
def catalogDepth : Nat := 8

/-- How deeply a document may be nested. -/
def depthLimit : Nat := 128

/-- The JSON value of a text; an empty text is null. -/
def readJson? (text : List Char) : Option Json :=
  match Node.ofText? text with
  | none => none
  | some root =>
    let root := root.getD .missing
    root.toJson? root.anchored depthLimit

/-- The document of a text. -/
def readDocument? (text : List Char) : Option Document :=
  (Node.ofText? text).map fun root =>
    let root := root.getD .missing
    root.toDocument root.anchored catalogDepth

end Rulebook.Yaml
