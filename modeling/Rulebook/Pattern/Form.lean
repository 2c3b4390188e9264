/-
This file defines the written form of patterns.

The written form keeps what is written: flags stand where they are switched, a
class keeps its operators, and a character remembers whether it was written as a
byte. Its meaning is given elsewhere, since it depends on the flags in force.
-/

namespace Rulebook

/-- A switch that changes what the pattern after it means. -/
inductive PatternFlag where
  | ignoreCase
  | multiLine
  | dotMatchesLineFeed
  | swapGreed
  | unicode
  | wideLineEnds
  | verbose
deriving DecidableEq, Repr

/-- A flag switched on or off. -/
structure FlagSwitch where
  flag : PatternFlag
  on : Bool
deriving DecidableEq, Repr

/-- The classes with a one-letter escape. -/
inductive ShortClass where
  | digit
  | blank
  | word
deriving DecidableEq, Repr

/-- The ASCII classes with a name in brackets and colons. -/
inductive AsciiClass where
  | alnum
  | alpha
  | ascii
  | blank
  | cntrl
  | digit
  | graph
  | lower
  | print
  | punct
  | space
  | upper
  | word
  | xdigit
deriving DecidableEq, Repr

/-- How a character property is asked for. -/
inductive PropertyQuery where
  /-- By its own name. -/
  | named (name : List Char)
  /-- By the name of a family and of a value in it. -/
  | valued (family value : List Char)
deriving DecidableEq, Repr

/-- The operators between the parts of a class. -/
inductive ClassOperator where
  | intersection
  | difference
  | symmetricDifference
deriving DecidableEq, Repr

/-- A character in a pattern, and whether it was written as two digits of base sixteen. -/
structure WrittenChar where
  character : Char
  asByte : Bool
deriving DecidableEq, Repr

/-- A part of a class in brackets. -/
inductive ClassForm where
  | empty
  | single (written : WrittenChar)
  | range (first last : WrittenChar)
  | ascii (negated : Bool) (name : AsciiClass)
  | property (negated : Bool) (query : PropertyQuery)
  | short (negated : Bool) (name : ShortClass)
  | bracketed (negated : Bool) (inner : ClassForm)
  | union (items : List ClassForm)
  | operation (operator : ClassOperator) (left right : ClassForm)

/-- A condition on a place, as it is written. -/
inductive PlaceForm where
  | caret
  | dollar
  | textStart
  | textEnd
  | border
  | noBorder
  | wordStart
  | wordEnd
  | noWordBefore
  | noWordAfter
deriving DecidableEq, Repr

/-- A pattern, as it is written. -/
inductive PatternForm where
  | empty
  | flags (switches : List FlagSwitch)
  | single (written : WrittenChar)
  | dot
  | place (condition : PlaceForm)
  | property (negated : Bool) (query : PropertyQuery)
  | short (negated : Bool) (name : ShortClass)
  | bracketed (negated : Bool) (inner : ClassForm)
  | repetition (body : PatternForm) (least : Nat) (most : Option Nat)
  | group (switches : List FlagSwitch) (body : PatternForm)
  | alternation (branches : List PatternForm)
  | concatenation (parts : List PatternForm)

/-! ### How deeply forms are nested -/

mutual

/-- How deeply a part of a class is nested. -/
def ClassForm.depth : ClassForm → Nat
  | .bracketed _ inner => inner.depth + 1
  | .union items => ClassForm.depthOfAll items + 1
  | .operation _ left right => max left.depth right.depth + 1
  | _ => 0

/-- The greatest depth of some parts of a class. -/
def ClassForm.depthOfAll : List ClassForm → Nat
  | [] => 0
  | item :: rest => max item.depth (ClassForm.depthOfAll rest)

end

mutual

/-- How deeply a pattern is nested. -/
def PatternForm.depth : PatternForm → Nat
  | .bracketed _ inner => inner.depth + 1
  | .repetition body _ _ => body.depth + 1
  | .group _ body => body.depth + 1
  | .alternation branches => PatternForm.depthOfAll branches + 1
  | .concatenation parts => PatternForm.depthOfAll parts + 1
  | _ => 0

/-- The greatest depth of some patterns. -/
def PatternForm.depthOfAll : List PatternForm → Nat
  | [] => 0
  | form :: rest => max form.depth (PatternForm.depthOfAll rest)

end

end Rulebook
