/-
This file decides whether a pattern occurs in a text.

The text is read once, from left to right. At each place the search keeps the
patterns that remain to be matched, a set that starts afresh with the whole
pattern at every place. Reading a character turns each of them into the
patterns that remain after that character. The pattern occurs as soon as one of
them can match the empty stretch. Equal remaining patterns are kept once, which
bounds their number by the size of the pattern.
-/
import Rulebook.Pattern.Basic

namespace Rulebook.Pattern

/-- Whether the pattern can match the empty stretch between two characters. -/
def canBeEmpty (before after : Option Char) : Pattern → Bool
  | empty => true
  | one _ => false
  | look condition => condition.holds before after
  | sequence first second => first.canBeEmpty before after && second.canBeEmpty before after
  | either left right => left.canBeEmpty before after || right.canBeEmpty before after
  | repeated body least _ => least == 0 || body.canBeEmpty before after

/-- One pattern after another; nothing is kept of an empty one. -/
def followedBy (first second : Pattern) : Pattern :=
  match first with
  | empty => second
  | first => sequence first second

/-- Further repetitions; none are left where the limit is zero. -/
def repetitions (body : Pattern) (least : Nat) : Option Nat → Pattern
  | some 0 => empty
  | most => repeated body least most

/-- What remains to be matched after a character, given the character before it. In a repetition
whose body can be empty here, the repetitions still owed can all be empty. -/
def rest (before : Option Char) (character : Char) : Pattern → List Pattern
  | empty => []
  | one set => if set.contains character then [empty] else []
  | look _ => []
  | sequence first second =>
    let inFirst := (rest before character first).map (followedBy · second)
    if first.canBeEmpty before (some character) then inFirst ++ rest before character second
    else inFirst
  | either left right => rest before character left ++ rest before character right
  | repeated body least most =>
    match most with
    | some 0 => []
    | most =>
      let owed := if body.canBeEmpty before (some character) then 0 else least - 1
      (rest before character body).map
        (followedBy · (repetitions body owed (most.map (· - 1))))

/-- Searches the rest of a text, given the character before it and the patterns that remain. -/
def searchFrom (pattern : Pattern) (before : Option Char) (remaining : List Pattern) :
    List Char → Bool
  | [] => (pattern :: remaining).any (canBeEmpty before none)
  | character :: text =>
    let here := pattern :: remaining
    if here.any (canBeEmpty before (some character)) then true
    else searchFrom pattern (some character) (here.flatMap (rest before character)).eraseDups text

/-- Whether the pattern occurs in a text. -/
def occursIn (pattern : Pattern) (text : List Char) : Bool :=
  searchFrom pattern none [] text

end Rulebook.Pattern
