/-
This file gives written patterns their meaning.

What a part means depends on the flags in force where it stands. Flags that are
switched inside a group hold to the end of the group, through its later parts
and branches. Under the flag for Unicode, which is on at the start, sets are sets
of characters of any script. Without it only ASCII sets can be written, and a
part that would match a single byte of a longer character is refused.
-/
import Rulebook.Pattern.Basic
import Rulebook.Pattern.Query

namespace Rulebook

/-- The flags in force at a place of a pattern. -/
structure PatternFlags where
  ignoreCase : Bool
  multiLine : Bool
  dotMatchesLineFeed : Bool
  unicode : Bool
  wideLineEnds : Bool
deriving DecidableEq, Repr

namespace PatternFlags

/-- The flags in force where a pattern begins. -/
def atStart : PatternFlags :=
  ⟨false, false, false, true, false⟩

/-- The flags after a switch. Greed and verbosity do not change what a pattern means. -/
def after (flags : PatternFlags) (switch : FlagSwitch) : PatternFlags :=
  match switch.flag with
  | .ignoreCase => { flags with ignoreCase := switch.on }
  | .multiLine => { flags with multiLine := switch.on }
  | .dotMatchesLineFeed => { flags with dotMatchesLineFeed := switch.on }
  | .unicode => { flags with unicode := switch.on }
  | .wideLineEnds => { flags with wideLineEnds := switch.on }
  | .swapGreed => flags
  | .verbose => flags

/-- The flags after several switches. -/
def afterAll (flags : PatternFlags) (switches : List FlagSwitch) : PatternFlags :=
  switches.foldl after flags

end PatternFlags

/-! ### Sets -/

namespace CharSet

/-- The set with the other cases of its characters, where case is ignored. -/
def foldedUnder (flags : PatternFlags) (set : CharSet) : CharSet :=
  if !flags.ignoreCase then set else if flags.unicode then .folded set else .asciiFolded set

/-- The set, or its complement, which has to be a set of characters of any script. -/
def negatedUnder? (flags : PatternFlags) (negated : Bool) (set : CharSet) : Option CharSet :=
  if !negated then some set else if flags.unicode then some (.complement set) else .none

/-- Folds, then negates. -/
def finished? (flags : PatternFlags) (negated : Bool) (set : CharSet) : Option CharSet :=
  negatedUnder? flags negated (set.foldedUnder flags)

/-- The characters with a property. -/
def propertyUnder? (flags : PatternFlags) (negated : Bool) (query : PropertyQuery) :
    Option CharSet :=
  if flags.unicode then (ofQuery? query).bind (finished? flags negated) else .none

/-- The characters of a class with a one-letter escape; case does not matter to it. -/
def shortUnder? (flags : PatternFlags) (negated : Bool) (name : ShortClass) : Option CharSet :=
  negatedUnder? flags negated (ofShortClass flags.unicode name)

/-- A character that stands in a class. -/
def memberOf? (flags : PatternFlags) (written : WrittenChar) : Option Char :=
  if flags.unicode || written.character.toNat < 128 then some written.character else .none

/-- The set that an operator makes of two. -/
def combined (operator : ClassOperator) (left right : CharSet) : CharSet :=
  match operator with
  | .intersection => .both left right
  | .difference => .both left (.complement right)
  | .symmetricDifference =>
    .either (.both left (.complement right)) (.both right (.complement left))

mutual

/-- The set that a part of a class means. -/
def ofForm? (flags : PatternFlags) : ClassForm → Option CharSet
  | .empty => some .none
  | .single written => (memberOf? flags written).map single
  | .range first last => do
    let first ← memberOf? flags first
    let last ← memberOf? flags last
    some (.range first last)
  | .ascii negated name => finished? flags negated (ofAsciiClass name)
  | .property negated query => propertyUnder? flags negated query
  | .short negated name => shortUnder? flags negated name
  | .bracketed negated inner => (ofForm? flags inner).bind (finished? flags negated)
  | .union items => (ofForms? flags items).map anyOf
  | .operation operator left right => do
    let left ← ofForm? flags left
    let right ← ofForm? flags right
    some (combined operator (left.foldedUnder flags) (right.foldedUnder flags))

/-- The sets that parts of a class mean. -/
def ofForms? (flags : PatternFlags) : List ClassForm → Option (List CharSet)
  | [] => some []
  | item :: rest => do
    let item ← ofForm? flags item
    let rest ← ofForms? flags rest
    some (item :: rest)

end

/-- What a dot matches. -/
def ofDot? (flags : PatternFlags) : Option CharSet :=
  if !flags.unicode then .none
  else if flags.dotMatchesLineFeed then some .all
  else if flags.wideLineEnds then some (.complement (.either (single '\n') (single '\r')))
  else some (.complement (single '\n'))

end CharSet

/-! ### Patterns -/

/-- The condition that a written one means. -/
def Look.ofForm (flags : PatternFlags) : PlaceForm → Look
  | .caret =>
    if !flags.multiLine then .textStart
    else if flags.wideLineEnds then .wideLineStart
    else .lineStart
  | .dollar =>
    if !flags.multiLine then .textEnd
    else if flags.wideLineEnds then .wideLineEnd
    else .lineEnd
  | .textStart => .textStart
  | .textEnd => .textEnd
  | .border => .border !flags.unicode
  | .noBorder => .noBorder !flags.unicode
  | .wordStart => .wordStart !flags.unicode
  | .wordEnd => .wordEnd !flags.unicode
  | .noWordBefore => .noWordBefore !flags.unicode
  | .noWordAfter => .noWordAfter !flags.unicode

namespace Pattern

/-- What a single character matches. -/
def ofSingle? (flags : PatternFlags) (written : WrittenChar) : Option CharSet :=
  if !flags.unicode && written.asByte && 128 ≤ written.character.toNat then none
  else some ((CharSet.single written.character).foldedUnder flags)

mutual

/-- The pattern that a form means, and the flags in force after it. -/
def ofForm? (flags : PatternFlags) : PatternForm → Option (Pattern × PatternFlags)
  | .empty => some (.empty, flags)
  | .flags switches => some (.empty, flags.afterAll switches)
  | .single written => (ofSingle? flags written).map fun set => (.one set, flags)
  | .dot => (CharSet.ofDot? flags).map fun set => (.one set, flags)
  | .place condition => some (.look (.ofForm flags condition), flags)
  | .property negated query =>
    (CharSet.propertyUnder? flags negated query).map fun set => (.one set, flags)
  | .short negated name => (CharSet.shortUnder? flags negated name).map fun set => (.one set, flags)
  | .bracketed negated inner =>
    ((CharSet.ofForm? flags inner).bind (CharSet.finished? flags negated)).map fun set =>
      (.one set, flags)
  | .repetition body least most =>
    (ofForm? flags body).map fun (body, flags) => (.repeated body least most, flags)
  | .group switches body =>
    (ofForm? (flags.afterAll switches) body).map fun (body, _) => (body, flags)
  | .alternation branches => choiceOf? flags branches
  | .concatenation parts => sequenceOf? flags parts

/-- The pattern that forms mean one after another. -/
def sequenceOf? (flags : PatternFlags) : List PatternForm → Option (Pattern × PatternFlags)
  | [] => some (.empty, flags)
  | part :: rest => do
    let (part, flags) ← ofForm? flags part
    let (rest, flags) ← sequenceOf? flags rest
    some (.sequence part rest, flags)

/-- The pattern that forms mean as branches; flags switched in one branch hold in the next
ones. -/
def choiceOf? (flags : PatternFlags) : List PatternForm → Option (Pattern × PatternFlags)
  | [] => some (.one .none, flags)
  | branch :: rest => do
    let (branch, flags) ← ofForm? flags branch
    let (rest, flags) ← choiceOf? flags rest
    some (.either branch rest, flags)

end

end Pattern

end Rulebook
