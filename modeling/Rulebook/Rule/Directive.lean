/-
This file defines directives and reads rule texts.

A rule text is a list of directives with blanks between them. A directive is a
name, or a name, a colon and arguments; the first colon divides the two. After a
word that ends in a colon, a quote opens a quotation if some later quote stands
at the end of the text or before a blank: what lies between the two quotes,
blanks included, belongs to the word, and the two quotes are dropped. Every other
quote is an ordinary character. Nothing is refused here; a rule that cannot use
its arguments says so when it is applied.
-/
import Rulebook.Text.Blank
import Rulebook.Text.Cut

namespace Rulebook

open Text

/-- What a directive asks for, known by its name. -/
inductive Keyword where
  | required
  | between
  | minimum
  | maximum
  | pattern
  | oneOf
  | noneOf
  | wordCount
  | custom
  | default
  | prohibit
  /-- Any name that is not the name of a rule. -/
  | unknown
deriving DecidableEq, Repr

namespace Keyword

/-- The keyword with a name; names are told apart by case. -/
def ofName (name : String) : Keyword :=
  match name with
  | "required" => required
  | "between" => between
  | "min" => minimum
  | "max" => maximum
  | "match" => pattern
  | "enum" => oneOf
  | "exclude" => noneOf
  | "wordCount" => wordCount
  | "custom" => custom
  | "default" => default
  | "prohibit" => prohibit
  | _ => unknown

/-- Whether the keyword belongs to the default pass and not to enforcement. -/
def isInjection : Keyword → Bool
  | default => true
  | prohibit => true
  | _ => false

end Keyword

/-- One rule of a rule text. -/
structure Directive where
  name : String
  /-- What follows the colon; none when there is no colon. -/
  arguments? : Option String
deriving DecidableEq, Repr

namespace Directive

/-- The directive that a word is. -/
def ofWord (word : List Char) : Directive :=
  match cutFirst ':' word with
  | some (name, arguments) => ⟨String.ofList name, some (String.ofList arguments)⟩
  | none => ⟨String.ofList word, none⟩

/-- What the directive asks for. -/
def keyword (directive : Directive) : Keyword :=
  .ofName directive.name

/-- The arguments as one text, empty when there are none. -/
def arguments (directive : Directive) : List Char :=
  match directive.arguments? with
  | some arguments => arguments.toList
  | none => []

/-- The arguments cut at commas; there is always at least one. -/
def argumentList (directive : Directive) : List (List Char) :=
  directive.arguments.splitOn ','

/-- The word that a directive is written as. -/
def word (directive : Directive) : List Char :=
  match directive.arguments? with
  | some arguments => directive.name.toList ++ ':' :: arguments.toList
  | none => directive.name.toList

end Directive

/-! ### Words of a rule text -/

/-- Whether a word can end here. -/
def endsWord : List Char → Bool
  | [] => true
  | next :: _ => isBlank next

/-- The text up to the first quote at which a word can end, and the text after that quote. -/
def quotation? : List Char → Option (List Char × List Char)
  | [] => none
  | character :: rest =>
    if character = '\'' ∧ endsWord rest then some ([], rest)
    else (quotation? rest).map fun (content, after) => (character :: content, after)

theorem length_of_quotation? {text content after : List Char}
    (quoted : quotation? text = some (content, after)) : after.length < text.length := by
  induction text generalizing content with
  | nil => simp [quotation?] at quoted
  | cons character rest induction =>
    unfold quotation? at quoted
    split at quoted
    · simp only [Option.some.injEq, Prod.mk.injEq] at quoted
      simp [← quoted.2]
    · obtain ⟨⟨inner, last⟩, found, same⟩ := Option.map_eq_some_iff.1 quoted
      simp only [Prod.mk.injEq] at same
      obtain ⟨_, rfl⟩ := same
      have shorter := induction found
      simp only [List.length_cons]
      omega

/-- The words of a text, `current` being the part of a word that has been read already. -/
def words (current text : List Char) : List (List Char) :=
  match text with
  | [] => if current.isEmpty then [] else [current]
  | character :: rest =>
    if character = '\'' ∧ current.getLast? = some ':' then
      match _ : quotation? rest with
      | some (content, after) => words (current ++ content) after
      | none => words (current ++ [character]) rest
    else if isBlank character then
      if current.isEmpty then words [] rest else current :: words [] rest
    else words (current ++ [character]) rest
termination_by text.length
decreasing_by
  all_goals first
    | (have shorter := length_of_quotation? ‹_›; simp only [List.length_cons]; omega)
    | simp

/-- The directives of a rule text, in order. -/
def readRules (text : String) : List Directive :=
  (words [] text.toList).map Directive.ofWord

/-- The first directive with a keyword. -/
def findKeyword? (directives : List Directive) (keyword : Keyword) : Option Directive :=
  directives.find? fun directive => directive.keyword = keyword

/-- Whether some directive has a keyword. -/
def hasKeyword (directives : List Directive) (keyword : Keyword) : Bool :=
  (findKeyword? directives keyword).isSome

end Rulebook
