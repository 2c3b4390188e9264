/-
This file defines patterns and what they match.

A pattern is built from sets of characters and conditions on a place in the text
by sequence, choice and repetition. The relation `Matches` says, without any
procedure, that a pattern matches a stretch of text between what stands before
it and what stands after it. A text holds a pattern when some stretch of it is
matched.
-/
import Rulebook.Pattern.CharSet

namespace Rulebook

/-- A condition on a place in a text. -/
inductive Look where
  | textStart
  | textEnd
  | lineStart
  | lineEnd
  /-- The start of a line that may end in a carriage return and a line feed. -/
  | wideLineStart
  /-- The end of such a line. -/
  | wideLineEnd
  /-- The border of a word; `ascii` tells whether only ASCII words count. -/
  | border (ascii : Bool)
  | noBorder (ascii : Bool)
  | wordStart (ascii : Bool)
  | wordEnd (ascii : Bool)
  /-- No word stands before the place. -/
  | noWordBefore (ascii : Bool)
  /-- No word stands after the place. -/
  | noWordAfter (ascii : Bool)
deriving DecidableEq, Repr

namespace Look

/-- Whether there is a character and it can be part of a word. -/
def isWordAt (ascii : Bool) : Option Char → Bool
  | none => false
  | some character => if ascii then Unicode.isAsciiWord character else Unicode.isWord character

/-- Whether the condition holds between two characters, none standing for an end of the text. -/
def holds (look : Look) (before after : Option Char) : Bool :=
  match look with
  | textStart => before.isNone
  | textEnd => after.isNone
  | lineStart => before.isNone || before == some '\n'
  | lineEnd => after.isNone || after == some '\n'
  | wideLineStart =>
    before.isNone || before == some '\n' || (before == some '\r' && after != some '\n')
  | wideLineEnd =>
    after.isNone || after == some '\r' || (after == some '\n' && before != some '\r')
  | border ascii => isWordAt ascii before != isWordAt ascii after
  | noBorder ascii => isWordAt ascii before == isWordAt ascii after
  | wordStart ascii => !isWordAt ascii before && isWordAt ascii after
  | wordEnd ascii => isWordAt ascii before && !isWordAt ascii after
  | noWordBefore ascii => !isWordAt ascii before
  | noWordAfter ascii => !isWordAt ascii after

end Look

/-- A pattern. -/
inductive Pattern where
  /-- Matches the empty stretch anywhere. -/
  | empty
  /-- Matches one character of a set. -/
  | one (set : CharSet)
  /-- Matches the empty stretch where a condition holds. -/
  | look (condition : Look)
  | sequence (first second : Pattern)
  | either (left right : Pattern)
  /-- Matches the body at least so often, and at most so often where there is a limit. -/
  | repeated (body : Pattern) (least : Nat) (most : Option Nat)
deriving DecidableEq, Repr

namespace Pattern

/-- The pattern matches a stretch of text, given the text before it and after it. -/
inductive Matches : Pattern → (before stretch after : List Char) → Prop where
  | empty (before after : List Char) : Matches .empty before [] after
  | one {set : CharSet} {character : Char} (before after : List Char)
      (member : set.contains character = true) : Matches (.one set) before [character] after
  | look {condition : Look} {before after : List Char}
      (holds : condition.holds before.getLast? after.head? = true) :
      Matches (.look condition) before [] after
  | sequence {first second : Pattern} {before left right after : List Char}
      (one : Matches first before left (right ++ after))
      (two : Matches second (before ++ left) right after) :
      Matches (.sequence first second) before (left ++ right) after
  | left {left right : Pattern} {before stretch after : List Char}
      (one : Matches left before stretch after) : Matches (.either left right) before stretch after
  | right {left right : Pattern} {before stretch after : List Char}
      (one : Matches right before stretch after) : Matches (.either left right) before stretch after
  | done (body : Pattern) (most : Option Nat) (before after : List Char) :
      Matches (.repeated body 0 most) before [] after
  | again {body : Pattern} {least : Nat} {most : Option Nat} {before left right after : List Char}
      (allowed : most ≠ some 0)
      (one : Matches body before left (right ++ after))
      (more : Matches (.repeated body (least - 1) (most.map (· - 1))) (before ++ left) right after) :
      Matches (.repeated body least most) before (left ++ right) after

/-- Some stretch of a text is matched. -/
def OccursIn (pattern : Pattern) (text : List Char) : Prop :=
  ∃ before stretch after, text = before ++ stretch ++ after ∧ Matches pattern before stretch after

end Pattern

end Rulebook
