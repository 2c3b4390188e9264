/-
This file reads patterns from text.

A pattern is read from left to right. The flag for verbose patterns acts while
reading: under it blanks and comments are skipped, and it is in force to the end
of the group that switches it. Everything that is no pattern is refused:
unbalanced groups and classes, repetitions of nothing, escapes without a
meaning, look-around and back references. A pattern nested more than 250 levels
deep is refused too.
-/
import Rulebook.Number.Digits
import Rulebook.Pattern.CharSet
import Rulebook.Pattern.Form
import Rulebook.Text.Cut

namespace Rulebook

open Number Text

namespace PatternForm

/-! ### Blanks and comments -/

/-- The text after blanks and comments; a comment goes to the end of its line. -/
def dropComments (inComment : Bool) : List Char → List Char
  | [] => []
  | character :: rest =>
    if inComment then dropComments (character != '\n') rest
    else if isBlank character then dropComments false rest
    else if character = '#' then dropComments true rest
    else character :: rest

/-- The text after what a verbose pattern skips. -/
def skip (verbose : Bool) (text : List Char) : List Char :=
  if verbose then dropComments false text else text

/-- The character that follows the first one when blanks and comment marks are skipped. -/
def peekAfter (verbose : Bool) (text : List Char) : Option Char :=
  match text with
  | [] => none
  | _ :: rest => if verbose then look false rest else rest.head?
where
  /-- The first character that is no blank and does not open a comment. -/
  look (inComment : Bool) : List Char → Option Char
    | [] => none
    | character :: rest =>
      if isBlank character then look inComment rest
      else if !inComment && character == '#' then look true rest
      else some character

/-! ### Numbers and names -/

/-- Digits with what a verbose pattern skips between them, and the text after them. -/
def digitRun (verbose : Bool) : Nat → List Char → List Char × List Char
  | 0, text => ([], text)
  | fuel + 1, text =>
    match text with
    | character :: rest =>
      if isDigit character then
        let (run, rest) := digitRun verbose fuel (skip verbose rest)
        (character :: run, rest)
      else ([], text)
    | [] => ([], [])

/-- A count of a repetition: digits with blanks around them, for a number of 32 bits. -/
def count? (verbose : Bool) (text : List Char) : Option (Nat × List Char) :=
  let (run, rest) := digitRun verbose (text.length + 1) (trimStart text)
  let rest := skip verbose (trimStart rest)
  if run.isEmpty then none
  else if valueOf run < 2 ^ 32 then some (valueOf run, rest)
  else none

/-- The character with a code point, surrogates and numbers beyond the last one aside. -/
def charOf? (code : Nat) : Option Char :=
  if code.isValidChar then some (Char.ofNat code) else none

/-- The value of digits of base sixteen. -/
def hexOf? (run : List Char) : Option Nat :=
  run.foldlM (fun total character => (hexValue? character).map (total * 16 + ·)) 0

/-- So many digits of base sixteen, and the text after them. -/
def hexDigits? (verbose : Bool) : Nat → List Char → Option (List Char × List Char)
  | 0, text => some ([], text)
  | many + 1, text =>
    match text with
    | [] => none
    | character :: rest =>
      if (hexValue? character).isNone then none
      else
        (hexDigits? verbose many (skip verbose rest)).map fun (run, rest) =>
          (character :: run, rest)

/-- The characters up to the closing brace, and the text after it. -/
def bracedRun? (verbose : Bool) : Nat → List Char → Option (List Char × List Char)
  | 0, _ => none
  | fuel + 1, text =>
    match skip verbose text with
    | [] => none
    | '}' :: rest => some ([], rest)
    | character :: rest =>
      (bracedRun? verbose fuel rest).map fun (run, rest) => (character :: run, rest)

/-! ### Escapes -/

/-- What an escape stands for. -/
inductive Escape where
  | single (written : WrittenChar)
  | place (condition : PlaceForm)
  | property (negated : Bool) (query : PropertyQuery)
  | short (negated : Bool) (name : ShortClass)

/-- Whether a character can be escaped to stand for itself: ASCII, but no letter, no digit and
no angle bracket. -/
def standsForItself (character : Char) : Bool :=
  character.toNat < 128 && !character.isAlphanum && character != '<' && character != '>'

/-- A character by its code point in base sixteen, after the letter: digits in braces, or as
many digits as the letter asks for. -/
def hexEscape? (verbose : Bool) (letter : Char) (text : List Char) :
    Option (WrittenChar × List Char) :=
  match skip verbose text with
  | '{' :: rest => do
    let (run, rest) ← bracedRun? verbose (rest.length + 1) rest
    if run.isEmpty then none
    else
      let character ← charOf? (← hexOf? run)
      some (⟨character, false⟩, skip verbose rest)
  | rest => do
    let many := if letter = 'x' then 2 else if letter = 'u' then 4 else 8
    let (run, rest) ← hexDigits? verbose many rest
    let character ← charOf? (← hexOf? run)
    some (⟨character, letter == 'x'⟩, rest)

/-- The query inside the braces of a property: a name, or a family and a value with a colon, an
equals sign or an inequality sign between them. The first part tells whether an inequality sign
negates it. -/
def queryOf (run : List Char) : Bool × PropertyQuery :=
  match cutPair run with
  | some (family, value) => (true, .valued family value)
  | none =>
    match cutFirst ':' run with
    | some (family, value) => (false, .valued family value)
    | none =>
      match cutFirst '=' run with
      | some (family, value) => (false, .valued family value)
      | none => (false, .named run)
where
  /-- The parts before and after the first inequality sign. -/
  cutPair : List Char → Option (List Char × List Char)
    | '!' :: '=' :: rest => some ([], rest)
    | character :: rest => (cutPair rest).map fun (before, after) => (character :: before, after)
    | [] => none

/-- A property after its letter: one letter, or a query in braces. -/
def propertyEscape? (verbose negated : Bool) (text : List Char) : Option (Escape × List Char) :=
  match skip verbose text with
  | [] => none
  | '{' :: rest =>
    (bracedRun? verbose (rest.length + 1) rest).map fun (run, rest) =>
      let (inverted, query) := queryOf run
      (.property (negated != inverted) query, rest)
  | letter :: rest =>
    if letter = '\\' then none else some (.property negated (.named [letter]), skip verbose rest)

/-- Whether a character can be part of the name of a border. -/
def isBorderLetter (character : Char) : Bool :=
  character.isAlpha || character == '-'

/-- The letters of the name of a border, and the text after them. -/
def borderRun (verbose : Bool) : Nat → List Char → List Char × List Char
  | 0, text => ([], text)
  | fuel + 1, text =>
    match text with
    | character :: rest =>
      if isBorderLetter character then
        let (run, rest) := borderRun verbose fuel (skip verbose rest)
        (character :: run, rest)
      else ([], text)
    | [] => ([], [])

/-- A border of a word after its letter. A brace and a letter after it begin the name of a
special border; a brace alone is left to be read as a repetition. -/
def borderEscape? (verbose : Bool) (text : List Char) : Option (Escape × List Char) :=
  match text with
  | '{' :: rest =>
    match skip verbose rest with
    | [] => none
    | first :: more =>
      if isBorderLetter first then
        match borderRun verbose (more.length + 2) (first :: more) with
        | (run, '}' :: rest) =>
          match String.ofList run with
          | "start" => some (.place .wordStart, rest)
          | "end" => some (.place .wordEnd, rest)
          | "start-half" => some (.place .noWordBefore, rest)
          | "end-half" => some (.place .noWordAfter, rest)
          | _ => none
        | _ => none
      else some (.place .border, text)
  | _ => some (.place .border, text)

/-- What an escape stands for, after the backslash, and the text after it. -/
def escape? (verbose : Bool) : List Char → Option (Escape × List Char)
  | [] => none
  | letter :: rest =>
    if letter = 'x' ∨ letter = 'u' ∨ letter = 'U' then
      (hexEscape? verbose letter rest).map fun (written, rest) => (.single written, rest)
    else if letter = 'p' then propertyEscape? verbose false rest
    else if letter = 'P' then propertyEscape? verbose true rest
    else if letter = 'b' then borderEscape? verbose rest
    else
      let special (character : Char) : Escape := .single ⟨character, false⟩
      match letter with
      | 'd' => some (.short false .digit, rest)
      | 's' => some (.short false .blank, rest)
      | 'w' => some (.short false .word, rest)
      | 'D' => some (.short true .digit, rest)
      | 'S' => some (.short true .blank, rest)
      | 'W' => some (.short true .word, rest)
      | 'a' => some (special '\x07', rest)
      | 'f' => some (special '\x0c', rest)
      | 't' => some (special '\t', rest)
      | 'n' => some (special '\n', rest)
      | 'r' => some (special '\r', rest)
      | 'v' => some (special '\x0b', rest)
      | 'A' => some (.place .textStart, rest)
      | 'z' => some (.place .textEnd, rest)
      | 'B' => some (.place .noBorder, rest)
      | '<' => some (.place .wordStart, rest)
      | '>' => some (.place .wordEnd, rest)
      | letter => if standsForItself letter then some (special letter, rest) else none

/-! ### Classes -/

/-- The ASCII class with a name. -/
def asciiClass? (name : List Char) : Option AsciiClass :=
  match String.ofList name with
  | "alnum" => some .alnum
  | "alpha" => some .alpha
  | "ascii" => some .ascii
  | "blank" => some .blank
  | "cntrl" => some .cntrl
  | "digit" => some .digit
  | "graph" => some .graph
  | "lower" => some .lower
  | "print" => some .print
  | "punct" => some .punct
  | "space" => some .space
  | "upper" => some .upper
  | "word" => some .word
  | "xdigit" => some .xdigit
  | _ => none

/-- An ASCII class after its opening bracket: a name between colons, and a closing bracket. -/
def asciiItem? : List Char → Option (ClassForm × List Char)
  | ':' :: text =>
    let (negated, text) :=
      match text with
      | '^' :: text => (true, text)
      | text => (false, text)
    match cutFirst ':' text with
    | some (name, ']' :: rest) => (asciiClass? name).map fun found => (.ascii negated found, rest)
    | _ => none
  | _ => none

/-- One part of a class or one end of a range: a character or an escape. -/
def classPart? (verbose : Bool) : List Char → Option (Escape × List Char)
  | [] => none
  | '\\' :: rest => escape? verbose rest
  | character :: rest => some (.single ⟨character, false⟩, rest)

/-- A part of a class: a range, or a single part that is no condition on a place. -/
def classItem? (verbose : Bool) (text : List Char) : Option (ClassForm × List Char) := do
  let (first, rest) ← classPart? verbose text
  let rest := skip verbose rest
  let after := peekAfter verbose rest
  if rest.isEmpty then none
  else if rest.head? ≠ some '-' ∨ after = some ']' ∨ after = some '-' then
    match first with
    | .single written => some (.single written, rest)
    | .property negated query => some (.property negated query, rest)
    | .short negated name => some (.short negated name, rest)
    | .place _ => none
  else
    let (last, rest) ← classPart? verbose (skip verbose rest.tail)
    match first, last with
    | .single low, .single high =>
      if low.character ≤ high.character then some (.range low high, rest) else none
    | _, _ => none

/-- The hyphens that open a class, each standing for itself, and the text after them. -/
def leadingHyphens (verbose : Bool) : Nat → List Char → List ClassForm × List Char
  | 0, text => ([], text)
  | fuel + 1, text =>
    match text with
    | '-' :: rest =>
      let (items, rest) := leadingHyphens verbose fuel (skip verbose rest)
      (.single ⟨'-', false⟩ :: items, rest)
    | text => ([], text)

/-- The start of a class after its bracket: whether it is negated, the characters that stand
for themselves there, and the text after them. -/
def classStart (verbose : Bool) (text : List Char) : Bool × List ClassForm × List Char :=
  let text := skip verbose text
  let (negated, text) :=
    match text with
    | '^' :: rest => (true, skip verbose rest)
    | text => (false, text)
  match leadingHyphens verbose (text.length + 1) text with
  | ([], ']' :: rest) => (negated, [.single ⟨']', false⟩], skip verbose rest)
  | (items, rest) => (negated, items, rest)

/-- Parts of a class as one, the last one first. -/
def unionOf : List ClassForm → ClassForm
  | [] => .empty
  | [item] => item
  | items => .union items.reverse

/-- What has been read of a class before an operator, with the parts read after it. -/
def underOperator (pending : Option (ClassOperator × ClassForm)) (items : List ClassForm) :
    ClassForm :=
  match pending with
  | none => unionOf items
  | some (operator, left) => .operation operator left (unionOf items)

/-- Reads a class up to its closing bracket. `pending` is the operator read last with all before
it, `items` are the parts read since, the last one first. -/
def classItems? (verbose : Bool) (pending : Option (ClassOperator × ClassForm))
    (items : List ClassForm) : Nat → List Char → Option (ClassForm × List Char)
  | 0, _ => none
  | fuel + 1, text =>
    match skip verbose text with
    | [] => none
    | ']' :: rest => some (underOperator pending items, rest)
    | '[' :: rest =>
      match asciiItem? rest with
      | some (item, rest) => classItems? verbose pending (item :: items) fuel rest
      | none =>
        let (negated, opening, rest) := classStart verbose rest
        match classItems? verbose none opening.reverse fuel rest with
        | none => none
        | some (inner, rest) =>
          classItems? verbose pending (.bracketed negated inner :: items) fuel rest
    | '&' :: '&' :: rest =>
      classItems? verbose (some (.intersection, underOperator pending items)) [] fuel rest
    | '-' :: '-' :: rest =>
      classItems? verbose (some (.difference, underOperator pending items)) [] fuel rest
    | '~' :: '~' :: rest =>
      classItems? verbose (some (.symmetricDifference, underOperator pending items)) [] fuel rest
    | rest =>
      match classItem? verbose rest with
      | none => none
      | some (item, rest) => classItems? verbose pending (item :: items) fuel rest

/-- A class after its opening bracket, and the text after it. -/
def class? (verbose : Bool) (text : List Char) : Option (PatternForm × List Char) :=
  let (negated, opening, rest) := classStart verbose text
  (classItems? verbose none opening.reverse (text.length + 1) rest).map fun (inner, rest) =>
    (.bracketed negated inner, rest)

/-! ### Groups -/

/-- The flag with a letter. -/
def flag? : Char → Option PatternFlag
  | 'i' => some .ignoreCase
  | 'm' => some .multiLine
  | 's' => some .dotMatchesLineFeed
  | 'U' => some .swapGreed
  | 'u' => some .unicode
  | 'R' => some .wideLineEnds
  | 'x' => some .verbose
  | _ => none

/-- Flags up to a colon or a closing parenthesis, which is left. A flag stands once at most,
and so does the minus sign, with a flag after it. -/
def flags? (on : Bool) (seen : List FlagSwitch) : List Char → Option (List FlagSwitch × List Char)
  | [] => none
  | '-' :: rest =>
    if on && rest.head? != some ':' && rest.head? != some ')' then flags? false seen rest else none
  | ':' :: rest => some (seen.reverse, ':' :: rest)
  | ')' :: rest => some (seen.reverse, ')' :: rest)
  | letter :: rest =>
    match flag? letter with
    | none => none
    | some flag =>
      if seen.any fun switch => switch.flag = flag then none
      else flags? on (⟨flag, on⟩ :: seen) rest

/-- Whether a character can be part of the name of a group. -/
def isNameCharacter (isFirst : Bool) (character : Char) : Bool :=
  character == '_' || Unicode.alphabetic.contains character ||
    (!isFirst && (character == '.' || character == '[' || character == ']' ||
      Unicode.numerics.any (·.contains character)))

/-- Whether a name can be that of a group. -/
def isName : List Char → Bool
  | [] => false
  | first :: rest => isNameCharacter true first && rest.all (isNameCharacter false)

/-- What a parenthesis opens. -/
inductive Opening where
  /-- Flags for what follows in the group around. -/
  | flags (switches : List FlagSwitch)
  /-- A group, with flags of its own. -/
  | group (switches : List FlagSwitch) (names : List (List Char))

/-- A named group after the angle bracket; no two groups have one name. -/
def namedGroup? (names : List (List Char)) (text : List Char) : Option (Opening × List Char) :=
  match cutFirst '>' text with
  | some (name, rest) =>
    if isName name && !names.contains name then some (.group [] (name :: names), rest) else none
  | none => none

/-- What a parenthesis opens, after it, and the text after that. -/
def opening? (verbose : Bool) (names : List (List Char)) (text : List Char) :
    Option (Opening × List Char) :=
  match skip verbose text with
  | '?' :: '=' :: _ => none
  | '?' :: '!' :: _ => none
  | '?' :: '<' :: '=' :: _ => none
  | '?' :: '<' :: '!' :: _ => none
  | '?' :: 'P' :: '<' :: rest => namedGroup? names rest
  | '?' :: '<' :: rest => namedGroup? names rest
  | '?' :: rest =>
    match flags? true [] rest with
    | some (switches, ')' :: rest) =>
      if switches.isEmpty then none else some (.flags switches, rest)
    | some (switches, _ :: rest) => some (.group switches names, rest)
    | _ => none
  | rest => some (.group [] names, rest)

/-- Whether verbose reading is in force after some switches. -/
def verboseAfter (verbose : Bool) (switches : List FlagSwitch) : Bool :=
  match switches.find? fun switch => switch.flag = .verbose with
  | some switch => switch.on
  | none => verbose

/-! ### Repetitions -/

/-- The text after the mark of a reluctant repetition, if there is one. -/
def afterReluctant : List Char → List Char
  | '?' :: rest => rest
  | text => text

/-- The bounds of a counted repetition after its brace, and the text after it. -/
def bounds? (verbose : Bool) (text : List Char) : Option ((Nat × Option Nat) × List Char) := do
  let (least, rest) ← count? verbose (skip verbose text)
  match rest with
  | '}' :: rest => some ((least, some least), afterReluctant (skip verbose rest))
  | ',' :: rest =>
    match skip verbose rest with
    | '}' :: rest => some ((least, none), afterReluctant (skip verbose rest))
    | rest =>
      let (most, rest) ← count? verbose rest
      match rest with
      | '}' :: rest =>
        if least ≤ most then some ((least, some most), afterReluctant (skip verbose rest)) else none
      | _ => none
  | _ => none

/-- Repeats the part read last; flags and nothing cannot be repeated. -/
def repeatLast? (least : Nat) (most : Option Nat) : List PatternForm → Option (List PatternForm)
  | [] => none
  | .empty :: _ => none
  | .flags _ :: _ => none
  | form :: rest => some (.repetition form least most :: rest)

/-! ### Patterns -/

/-- Parts as one pattern, the last one first. -/
def concatenationOf : List PatternForm → PatternForm
  | [] => .empty
  | [part] => part
  | parts => .concatenation parts.reverse

/-- Branches as one pattern, the last one first, `parts` being the parts of the last branch. -/
def alternationOf (branches parts : List PatternForm) : PatternForm :=
  match branches with
  | [] => concatenationOf parts
  | branches => .alternation (concatenationOf parts :: branches).reverse

/-- A single character, a dot, a condition on a place or an escape, and the text after it. -/
def primitive? (verbose : Bool) : List Char → Option (PatternForm × List Char)
  | [] => none
  | '.' :: rest => some (.dot, rest)
  | '^' :: rest => some (.place .caret, rest)
  | '$' :: rest => some (.place .dollar, rest)
  | '\\' :: rest =>
    (escape? verbose rest).map fun (escape, rest) =>
      match escape with
      | .single written => (.single written, rest)
      | .place condition => (.place condition, rest)
      | .property negated query => (.property negated query, rest)
      | .short negated name => (.short negated name, rest)
  | character :: rest => some (.single ⟨character, false⟩, rest)

/-- What reading carries along: whether verbose reading is in force, the names of groups so far,
the branches and the parts read in this group, the last one first. -/
structure Progress where
  verbose : Bool
  names : List (List Char)
  branches : List PatternForm
  parts : List PatternForm

/-- Reads a group, or the whole pattern, to its end; gives the pattern, the names of groups and
the text after the end. -/
def group? (isInner : Bool) (progress : Progress) :
    Nat → List Char → Option (PatternForm × List (List Char) × List Char)
  | 0, _ => none
  | fuel + 1, text =>
    let { verbose, names, branches, parts } := progress
    match skip verbose text with
    | [] => if isInner then none else some (alternationOf branches parts, names, [])
    | ')' :: rest => if isInner then some (alternationOf branches parts, names, rest) else none
    | '|' :: rest =>
      group? isInner ⟨verbose, names, concatenationOf parts :: branches, []⟩ fuel rest
    | '(' :: rest =>
      match opening? verbose names rest with
      | none => none
      | some (.flags switches, rest) =>
        group? isInner ⟨verboseAfter verbose switches, names, branches, .flags switches :: parts⟩ fuel
          rest
      | some (.group switches names, rest) =>
        match group? true ⟨verboseAfter verbose switches, names, [], []⟩ fuel rest with
        | none => none
        | some (body, names, rest) =>
          group? isInner ⟨verbose, names, branches, .group switches body :: parts⟩ fuel rest
    | '[' :: rest =>
      match class? verbose rest with
      | none => none
      | some (part, rest) => group? isInner ⟨verbose, names, branches, part :: parts⟩ fuel rest
    | '?' :: rest =>
      match repeatLast? 0 (some 1) parts with
      | none => none
      | some parts => group? isInner ⟨verbose, names, branches, parts⟩ fuel (afterReluctant rest)
    | '*' :: rest =>
      match repeatLast? 0 none parts with
      | none => none
      | some parts => group? isInner ⟨verbose, names, branches, parts⟩ fuel (afterReluctant rest)
    | '+' :: rest =>
      match repeatLast? 1 none parts with
      | none => none
      | some parts => group? isInner ⟨verbose, names, branches, parts⟩ fuel (afterReluctant rest)
    | '{' :: rest =>
      match bounds? verbose rest with
      | none => none
      | some ((least, most), rest) =>
        match repeatLast? least most parts with
        | none => none
        | some parts => group? isInner ⟨verbose, names, branches, parts⟩ fuel rest
    | rest =>
      match primitive? verbose rest with
      | none => none
      | some (part, rest) => group? isInner ⟨verbose, names, branches, part :: parts⟩ fuel rest

/-- How deeply a pattern may be nested. -/
def depthLimit : Nat := 250

/-- The written form of a pattern. -/
def read? (text : List Char) : Option PatternForm :=
  match group? false ⟨false, [], [], []⟩ (text.length + 1) text with
  | some (form, _, _) => if form.depth ≤ depthLimit then some form else none
  | none => none

end PatternForm

end Rulebook
