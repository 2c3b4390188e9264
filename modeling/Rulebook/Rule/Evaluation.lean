/-
This file applies directives to values.

Each directive is applied by itself and its violations come in a fixed order. The
directives of the default pass have nothing to say here. The store of patterns
is passed from directive to directive, so that no pattern is read twice.
-/
import Rulebook.Rule.Bounds
import Rulebook.Rule.Match
import Rulebook.Rule.Membership
import Rulebook.Rule.Roster

namespace Rulebook

/-- What enforcement can be told. -/
structure Settings where
  /-- Whether rules with an unknown name are reported. -/
  reportUnknown : Bool
  /-- The limit on the size of patterns. -/
  patternSizeLimit : UInt64
deriving DecidableEq, Repr

namespace Settings

/-- What holds when nothing is told. -/
def standard : Settings :=
  ⟨true, 1048576⟩

/-- The store of patterns that enforcement begins with. -/
def store (settings : Settings) : PatternStore :=
  .fresh settings.patternSizeLimit.toNat

end Settings

namespace Directive

/-- What a named check finds in a raw text. -/
def checked (roster : Roster) (raw : String) (name : String) : Option Violation :=
  match roster.find? name with
  | none => some (.unknownCheck name)
  | some check =>
    (check raw).map fun message => if message = "" then .failedCheck name else .reported message

/-- The rule that named checks pass; without a roster no check is called. -/
def custom (directive : Directive) (value : Value) (roster : Option Roster) : List Violation :=
  match roster with
  | none => []
  | some roster =>
    directive.argumentList.filterMap fun name => checked roster value.raw (String.ofList name)

/-- The rule that a value is there. -/
def required (value : Value) : Option Violation :=
  reportUnless (!value.isZero) .missing

/-- The violations of a directive by a value, and the store of patterns after it. -/
def evaluate (directive : Directive) (value : Value) (settings : Settings) (roster : Option Roster)
    (store : PatternStore) : List Violation × PatternStore :=
  match directive.keyword with
  | .required => ((required value).toList, store)
  | .between => ((directive.between value).toList, store)
  | .minimum => ((directive.minimum value).toList, store)
  | .maximum => ((directive.maximum value).toList, store)
  | .pattern =>
    let (violation, store) := directive.looksLike value store
    (violation.toList, store)
  | .oneOf => (directive.oneOf value, store)
  | .noneOf => (directive.noneOf value, store)
  | .wordCount => ((directive.wordCount value).toList, store)
  | .custom => (directive.custom value roster, store)
  | .default => ([], store)
  | .prohibit => ([], store)
  | .unknown =>
    (if settings.reportUnknown then [.unknownRule directive.name] else [], store)

end Directive

end Rulebook
