/-
This file estimates how large a pattern is when it is made ready for search.

A pattern that is searched for by the bytes of UTF-8 is a graph of states. A
character takes one state for each of its bytes, a set about two for each range
of characters beyond ASCII, and a repetition takes as many copies of its body as
its limits say. The estimate is in bytes, thirty-two for a state. A pattern
larger than a given limit counts as no pattern.
-/
import Rulebook.Pattern.Meaning
import Rulebook.Pattern.Reader

namespace Rulebook

/-- The size of one state. -/
def stateExtent : Nat := 32

/-- What a range beyond ASCII adds. -/
def rangeExtent : Nat := 62

/-- The size of what matches one character of a set, about. -/
def CharSet.extent : CharSet → Nat
  | .none => 0
  | .range first last =>
    if first = last then stateExtent * first.utf8Size
    else if last.toNat < 128 then 8
    else rangeExtent * last.utf8Size
  | .word => rangeExtent * 771
  | .digit => rangeExtent * 64
  | .blank => rangeExtent * 10
  | .named family name =>
    match Unicode.RangeTable.find? family.tables name with
    | some table => rangeExtent * table.ranges.length
    | .none => 0
  | .either left right => left.extent + right.extent
  | .both left right => left.extent + right.extent
  | .complement set => set.extent + stateExtent * 28
  | .folded set => 2 * set.extent
  | .asciiFolded set => 2 * set.extent

namespace Pattern

/-- The size of a pattern within a larger one, about. -/
def extent : Pattern → Nat
  | empty => stateExtent
  | one set => set.extent
  | look _ => stateExtent
  | sequence first second => first.extent + second.extent
  | either left right => left.extent + right.extent + stateExtent
  | repeated body least most =>
    match most with
    | some most => max least most * (body.extent + stateExtent)
    | none => (least + 1) * (body.extent + stateExtent)

/-- What every pattern takes besides its parts. -/
def baseExtent : Nat := 160

/-- The pattern that a text stands for, if it is one and no larger than the limit. -/
def read? (limit : Nat) (text : List Char) : Option Pattern :=
  match (PatternForm.read? text).bind (ofForm? .atStart) with
  | some (pattern, _) => if baseExtent + pattern.extent ≤ limit then some pattern else none
  | none => none

end Pattern

end Rulebook
