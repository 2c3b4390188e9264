/-
This file enforces rules on records and on single values.

A record is walked field by field in the order of the schema. A value is first
brought in line with the declared kind; if that fails, this is the one
violation of the field, and otherwise every directive is applied in order.
Nothing cuts the walk short. A single value is enforced like a field without a
name, and the empty name is taken out of the messages.
-/
import Rulebook.Coercion
import Rulebook.Record
import Rulebook.Rule.Evaluation

namespace Rulebook

/-! ### Fields -/

/-- The violations of directives by a value, and the store of patterns after them. -/
def evaluateAll (value : Value) (settings : Settings) (roster : Option Roster)
    (store : PatternStore) : List Directive → List Violation × PatternStore
  | [] => ([], store)
  | directive :: rest =>
    let (here, store) := directive.evaluate value settings roster store
    let (later, store) := evaluateAll value settings roster store rest
    (here ++ later, store)

/-- The violations of a field's directives by its value. -/
def violations (declared : Kind) (value : Value) (directives : List Directive)
    (settings : Settings) (roster : Option Roster) (store : PatternStore) :
    List Violation × PatternStore :=
  match reconcile declared value with
  | .error _ => ([.wrongKind declared], store)
  | .ok value => evaluateAll value settings roster store directives

/-! ### Records -/

/-- Walks fields; each violation comes with the name of its field. -/
def walk {Store : Type} [FieldStore Store] (schema : Schema) (record : Store)
    (settings : Settings) (roster : Option Roster) (store : PatternStore) :
    List Field → List (String × Violation)
  | [] => []
  | field :: rest =>
    let directives := field.directives
    if directives.isEmpty then walk schema record settings roster store rest
    else
      let value := (FieldStore.read? schema record field.name).getD field.kind.zero
      let (found, store) := violations field.kind value directives settings roster store
      found.map (Prod.mk field.name) ++ walk schema record settings roster store rest

/-- The messages about a record, in the order of fields and directives. Without a roster no named
check is called. -/
def enforce {Store : Type} [FieldStore Store] (schema : Schema) (record : Store)
    (settings : Settings) (roster : Option Roster) : List String :=
  (walk schema record settings roster settings.store schema.fields).map fun (name, violation) =>
    violation.message name

/-! ### Single values -/

/-- Takes a pattern out of a text wherever it stands, from left to right. The empty pattern is
nowhere. -/
def dropAll (pattern text : List Char) : List Char :=
  match text with
  | [] => []
  | character :: rest =>
    if pattern ≠ [] ∧ pattern <+: character :: rest then
      dropAll pattern (rest.drop (pattern.length - 1))
    else character :: dropAll pattern rest
termination_by text.length
decreasing_by all_goals simp only [List.length_drop, List.length_cons]; omega

/-- A message without the quotes of an empty name and the blank before them. -/
def withoutEmptyName (message : String) : String :=
  String.ofList (dropAll ['\'', '\''] (dropAll [' ', '\'', '\''] message.toList))

/-- The messages about a single value. -/
def enforceValue (value : Value) (rules : String) (settings : Settings) (roster : Option Roster) :
    List String :=
  (violations value.kind value (readRules rules) settings roster settings.store).1.map
    fun violation => withoutEmptyName (violation.message "")

end Rulebook
