/-
This file builds the nodes of a YAML document from its tokens.

A node is a scalar, a list, a table or an alias of a node that bears an anchor.
Where structure asks for a node and there is none, an empty plain scalar stands.
A tag is kept in full, its handle replaced by what the handle stands for. A text
holds at most one document.
-/
import Rulebook.Yaml.Scan

namespace Rulebook.Yaml

/-- What stands before a node: the number of its anchor, and its tag. -/
structure Marks where
  anchor : Option Nat
  tag : Option (List Char)
deriving DecidableEq, Repr

/-- A node of a document. -/
inductive Node where
  | scalar (marks : Marks) (isPlain : Bool) (content : List Char)
  | list (marks : Marks) (items : List Node)
  | table (marks : Marks) (pairs : List (Node × Node))
  | alias (anchor : Nat)

namespace Node

/-- No anchor and no tag. -/
def unmarked : Marks :=
  ⟨none, none⟩

/-- What stands where a node is missing. -/
def missing : Node :=
  .scalar unmarked true []

/-- How far the tokens of a document have been used. -/
structure Progress where
  tokens : List Token
  /-- The anchors seen, with their numbers. -/
  anchors : List (List Char × Nat)
  /-- What the handles of tags stand for. -/
  handles : List (List Char × List Char)

namespace Progress

/-- The progress with its first token used up. -/
def drop (progress : Progress) : Progress :=
  { progress with tokens := progress.tokens.tail }

/-- Gives an anchor its number, which is the number of names seen before. -/
def name (progress : Progress) (anchor : List Char) : Nat × Progress :=
  let number := progress.anchors.length
  let others := progress.anchors.filter fun entry => entry.1 ≠ anchor
  (number, { progress with anchors := (anchor, number) :: others })

/-- The number of an anchor that has been seen. -/
def number? (progress : Progress) (anchor : List Char) : Option Nat :=
  (progress.anchors.find? fun entry => entry.1 = anchor).map (·.2)

/-- A tag in full. -/
def fullTag? (progress : Progress) (handle suffix : List Char) : Option (List Char) :=
  if handle.isEmpty then some suffix
  else (progress.handles.find? fun entry => entry.1 = handle).map (·.2 ++ suffix)

/-- Whether the tokens are used up or a condition holds of the next one. -/
def isAtEndOr (progress : Progress) (condition : Token → Bool) : Bool :=
  progress.tokens.head?.all condition

end Progress

/-! ### What stands before a node -/

/-- The tag that is next, if one is. -/
def tag? (progress : Progress) : Option (Option (List Char) × Progress) :=
  match progress.tokens with
  | .tag handle suffix :: _ =>
    (progress.fullTag? handle suffix).map fun tag => (some tag, progress.drop)
  | _ => some (none, progress)

/-- The anchor that is next, if one is. -/
def anchor (progress : Progress) : Option Nat × Progress :=
  match progress.tokens with
  | .anchor name :: _ =>
    let (number, progress) := progress.drop.name name
    (some number, progress)
  | _ => (none, progress)

/-- Anchor and tag, in either order. -/
def marks? (progress : Progress) : Option (Marks × Progress) :=
  match anchor progress with
  | (some number, progress) =>
    (tag? progress).map fun (tag, progress) => (⟨some number, tag⟩, progress)
  | (none, progress) =>
    match tag? progress with
    | none => none
    | some (none, progress) => some (unmarked, progress)
    | some (some tag, progress) =>
      let (number, progress) := anchor progress
      some (⟨number, some tag⟩, progress)

/-- A scalar; the tag of an exclamation mark alone counts as none. -/
def ofScalar (marks : Marks) (isPlain : Bool) (content : List Char) : Node :=
  .scalar (if marks.tag = some ['!'] then { marks with tag := none } else marks) isPlain content

/-! ### Nodes -/

/-- Whether a token ends an item of a block list. -/
def endsBlockItem : Token → Bool
  | .blockEntry | .blockEnd => true
  | _ => false

/-- Whether a token ends an item of a list that is not indented. -/
def endsBareItem : Token → Bool
  | .blockEntry | .key | .value | .blockEnd => true
  | _ => false

/-- Whether a token ends a key or a value of a block table. -/
def endsBlockMember : Token → Bool
  | .key | .value | .blockEnd => true
  | _ => false

/-- Whether a token ends a key in a flow collection. -/
def endsFlowKey : Token → Bool
  | .value | .flowEntry | .flowMappingEnd => true
  | _ => false

/-- Whether a token ends the value of a flow table. -/
def endsFlowValue : Token → Bool
  | .flowEntry | .flowMappingEnd => true
  | _ => false

/-- Whether a token ends the key of a pair that is an item of a flow list. -/
def endsPairKey : Token → Bool
  | .value | .flowEntry | .flowSequenceEnd => true
  | _ => false

/-- Whether a token ends the value of such a pair. -/
def endsPairValue : Token → Bool
  | .flowEntry | .flowSequenceEnd => true
  | _ => false

mutual

/-- A node. Blocks are allowed where `isBlock`, and a list that is not indented where
`mayBeBare`. The fuel bounds the steps. -/
def node? (isBlock mayBeBare : Bool) : Nat → Progress → Option (Node × Progress)
  | 0, _ => none
  | fuel + 1, progress =>
    match progress.tokens with
    | .alias name :: _ => (progress.number? name).map fun number => (.alias number, progress.drop)
    | _ =>
      match marks? progress with
      | none => none
      | some (marks, progress) =>
        match progress.tokens with
        | .scalar isPlain content :: _ => some (ofScalar marks isPlain content, progress.drop)
        | .flowSequenceStart :: _ =>
          (flowItems? true fuel progress.drop).map fun (items, progress) =>
            (.list marks items, progress)
        | .flowMappingStart :: _ =>
          (flowMembers? true fuel progress.drop).map fun (pairs, progress) =>
            (.table marks pairs, progress)
        | token :: _ =>
          if mayBeBare && token == .blockEntry then
            (bareItems? fuel progress).map fun (items, progress) => (.list marks items, progress)
          else if isBlock && token == .blockSequenceStart then
            (blockItems? fuel progress.drop).map fun (items, progress) =>
              (.list marks items, progress)
          else if isBlock && token == .blockMappingStart then
            (blockMembers? fuel progress.drop).map fun (pairs, progress) =>
              (.table marks pairs, progress)
          else if marks = unmarked then none
          else some (.scalar marks true [], progress)
        | [] => if marks = unmarked then none else some (.scalar marks true [], progress)

/-- A node, or what stands for a missing one where a token ends the place. -/
def nodeUnless? (isBlock mayBeBare : Bool) (ends : Token → Bool) :
    Nat → Progress → Option (Node × Progress)
  | 0, _ => none
  | fuel + 1, progress =>
    if progress.tokens.head?.any ends then some (missing, progress)
    else node? isBlock mayBeBare fuel progress

/-- The items of a block list, to its end. -/
def blockItems? : Nat → Progress → Option (List Node × Progress)
  | 0, _ => none
  | fuel + 1, progress =>
    match progress.tokens with
    | .blockEnd :: _ => some ([], progress.drop)
    | .blockEntry :: _ =>
      match nodeUnless? true false endsBlockItem fuel progress.drop with
      | none => none
      | some (item, progress) =>
        (blockItems? fuel progress).map fun (items, progress) => (item :: items, progress)
    | _ => none

/-- The items of a list that is not indented; the token after it is left. -/
def bareItems? : Nat → Progress → Option (List Node × Progress)
  | 0, _ => none
  | fuel + 1, progress =>
    match progress.tokens with
    | .blockEntry :: _ =>
      match nodeUnless? true false endsBareItem fuel progress.drop with
      | none => none
      | some (item, progress) =>
        (bareItems? fuel progress).map fun (items, progress) => (item :: items, progress)
    | _ => some ([], progress)

/-- The members of a block table, to its end. -/
def blockMembers? : Nat → Progress → Option (List (Node × Node) × Progress)
  | 0, _ => none
  | fuel + 1, progress =>
    match progress.tokens with
    | .blockEnd :: _ => some ([], progress.drop)
    | .key :: _ =>
      match nodeUnless? true true endsBlockMember fuel progress.drop with
      | none => none
      | some (key, progress) =>
        match blockValue? fuel progress with
        | none => none
        | some (item, progress) =>
          (blockMembers? fuel progress).map fun (pairs, progress) => ((key, item) :: pairs, progress)
    | _ => none

/-- The value of a member of a block table. -/
def blockValue? : Nat → Progress → Option (Node × Progress)
  | 0, _ => none
  | fuel + 1, progress =>
    match progress.tokens with
    | .value :: _ => nodeUnless? true true endsBlockMember fuel progress.drop
    | _ => some (missing, progress)

/-- The items of a flow list, to its end; all but the first come after a comma. -/
def flowItems? (isFirst : Bool) : Nat → Progress → Option (List Node × Progress)
  | 0, _ => none
  | fuel + 1, progress =>
    match progress.tokens with
    | .flowSequenceEnd :: _ => some ([], progress.drop)
    | token :: _ =>
      if !isFirst && token != .flowEntry then none
      else
        let progress := if isFirst then progress else progress.drop
        match progress.tokens with
        | .flowSequenceEnd :: _ => some ([], progress.drop)
        | .key :: _ =>
          match pair? fuel progress.drop with
          | none => none
          | some (item, progress) =>
            (flowItems? false fuel progress).map fun (items, progress) => (item :: items, progress)
        | _ =>
          match node? false false fuel progress with
          | none => none
          | some (item, progress) =>
            (flowItems? false fuel progress).map fun (items, progress) => (item :: items, progress)
    | [] => none

/-- A pair that is an item of a flow list, after the mark of its key. Where the key is missing,
the token that says so is used up. -/
def pair? : Nat → Progress → Option (Node × Progress)
  | 0, _ => none
  | fuel + 1, progress =>
    let key :=
      if progress.tokens.head?.any endsPairKey then some (missing, progress.drop)
      else node? false false fuel progress
    match key with
    | none => none
    | some (key, progress) =>
      match progress.tokens with
      | .value :: _ =>
        (nodeUnless? false false endsPairValue fuel progress.drop).map fun (item, progress) =>
          (.table unmarked [(key, item)], progress)
      | _ => some (.table unmarked [(key, missing)], progress)

/-- The members of a flow table, to its end; all but the first come after a comma. -/
def flowMembers? (isFirst : Bool) : Nat → Progress → Option (List (Node × Node) × Progress)
  | 0, _ => none
  | fuel + 1, progress =>
    match progress.tokens with
    | .flowMappingEnd :: _ => some ([], progress.drop)
    | token :: _ =>
      if !isFirst && token != .flowEntry then none
      else
        let progress := if isFirst then progress else progress.drop
        match progress.tokens with
        | .flowMappingEnd :: _ => some ([], progress.drop)
        | .key :: _ =>
          match nodeUnless? false false endsFlowKey fuel progress.drop with
          | none => none
          | some (key, progress) =>
            let item :=
              match progress.tokens with
              | .value :: _ => nodeUnless? false false endsFlowValue fuel progress.drop
              | _ => some (missing, progress)
            match item with
            | none => none
            | some (item, progress) =>
              (flowMembers? false fuel progress).map fun (pairs, progress) =>
                ((key, item) :: pairs, progress)
        | _ =>
          match node? false false fuel progress with
          | none => none
          | some (key, progress) =>
            (flowMembers? false fuel progress).map fun (pairs, progress) =>
              ((key, missing) :: pairs, progress)
    | [] => none

end

/-! ### Documents -/

/-- The directives before a document: a version at most once, which has to be 1.1 or 1.2, and the
meanings of handles, each at most once. -/
def directives? (hasVersion : Bool) (handles : List (List Char × List Char)) :
    List Token → Option (List (List Char × List Char) × List Token)
  | .versionDirective major minor :: rest =>
    if hasVersion || major != 1 || (minor != 1 && minor != 2) then none
    else directives? true handles rest
  | .tagDirective handle lead :: rest =>
    if handles.any fun entry => entry.1 = handle then none
    else directives? hasVersion ((handle, lead) :: handles) rest
  | rest => some (handles, rest)

/-- The handles that need no directive. -/
def standardHandles : List (List Char × List Char) :=
  [(['!'], ['!']), (['!', '!'], "tag:yaml.org,2002:".toList)]

/-- Whether a token ends a document that is empty. -/
def endsDocument : Token → Bool
  | .versionDirective .. | .tagDirective .. | .documentStart | .documentEnd => true
  | _ => false

/-- The one document of some tokens, none where there is no token. -/
def ofTokens? (tokens : List Token) : Option (Option Node) :=
  let fuel := 4 * tokens.length + 4
  let begun : Option (Option (Node × Progress)) :=
    match tokens with
    | [] => some none
    | first :: _ =>
      if endsDocument first && first != .documentEnd then
        match directives? false [] tokens with
        | some (handles, .documentStart :: rest) =>
          let progress : Progress := ⟨rest, [], handles ++ standardHandles⟩
          if progress.isAtEndOr endsDocument then some (some (missing, progress))
          else (node? true false fuel progress).map some
        | _ => none
      else (node? true false fuel ⟨tokens, [], standardHandles⟩).map some
  match begun with
  | none => none
  | some none => some none
  | some (some (root, progress)) =>
    if progress.tokens.all (· == .documentEnd) then some (some root) else none

/-! ### Anchors -/

mutual

/-- The nodes that bear anchors, in the order in which they begin. -/
def anchored : Node → List (Nat × Node)
  | .scalar marks isPlain content => own marks (.scalar marks isPlain content)
  | .list marks items => own marks (.list marks items) ++ anchoredItems items
  | .table marks pairs => own marks (.table marks pairs) ++ anchoredPairs pairs
  | .alias _ => []

/-- The nodes with anchors in a list. -/
def anchoredItems : List Node → List (Nat × Node)
  | [] => []
  | item :: rest => anchored item ++ anchoredItems rest

/-- The nodes with anchors in a table. -/
def anchoredPairs : List (Node × Node) → List (Nat × Node)
  | [] => []
  | (key, item) :: rest => anchored key ++ anchored item ++ anchoredPairs rest

/-- A node under its anchor, if it has one. -/
def own (marks : Marks) (node : Node) : List (Nat × Node) :=
  match marks.anchor with
  | some number => [(number, node)]
  | none => []

end

/-- The node of an anchor; of several the last one counts. -/
def target? (anchors : List (Nat × Node)) (number : Nat) : Option Node :=
  (anchors.reverse.find? fun entry => entry.1 = number).map (·.2)

/-- The document of a text: a node that is no alias at the top, none where the text is empty. -/
def ofText? (text : List Char) : Option (Option Node) :=
  (Token.ofText? text).bind ofTokens?

end Node

end Rulebook.Yaml
