/-
This file proves that enforcement has no memory.

A walk over a record hands one store of patterns from directive to directive and
from field to field. The messages are nevertheless those of separate blocks, one
for each field in the order of the schema, and a block is made of the messages of
the single directives, each applied with a fresh store of its own. Nothing that
was found or remembered earlier changes a later message.

The invariant is that the store answers like the fresh one. One directive keeps
it, hence a list of directives does, hence the walk.
-/
import Rulebook.Enforcement
import Rulebook.Proofs.Pattern.Remembered

namespace Rulebook

variable {settings : Settings} {store : PatternStore}

/-- The store answers like the one that enforcement begins with. -/
abbrev Settings.Accepts (settings : Settings) (store : PatternStore) : Prop :=
  store.AnswersFor settings.patternSizeLimit.toNat

theorem Settings.accepts_store (settings : Settings) : settings.Accepts settings.store :=
  PatternStore.answersFor_fresh _

/-! ### One directive -/

/-- The rule about looks sees only what the store answers. -/
theorem Directive.looksLike_fst (accepted : settings.Accepts store) (directive : Directive)
    (value : Value) :
    (directive.looksLike value store).1 = (directive.looksLike value settings.store).1 := by
  unfold looksLike
  generalize String.ofList directive.arguments = text
  have answer : (store.lookUp text).1 = (settings.store.lookUp text).1 :=
    (accepted.lookUp_fst text).trans (settings.accepts_store.lookUp_fst text).symm
  split
  case h_5 =>
    simp only [answer]
    split <;> rfl
  all_goals rfl

theorem Directive.looksLike_snd (accepted : settings.Accepts store) (directive : Directive)
    (value : Value) : settings.Accepts (directive.looksLike value store).2 := by
  unfold looksLike
  generalize String.ofList directive.arguments = text
  split
  case h_5 =>
    have kept : settings.Accepts (store.lookUp text).2 := accepted.lookUp_snd text
    dsimp only
    split <;> exact kept
  all_goals exact accepted

/-- A directive finds the same with any store that answers like the fresh one. -/
theorem Directive.evaluate_fst (accepted : settings.Accepts store) (directive : Directive)
    (value : Value) (roster : Option Roster) :
    (directive.evaluate value settings roster store).1 =
      (directive.evaluate value settings roster settings.store).1 := by
  unfold evaluate
  split
  case h_5 => exact congrArg Option.toList (directive.looksLike_fst accepted value)
  all_goals rfl

theorem Directive.evaluate_snd (accepted : settings.Accepts store) (directive : Directive)
    (value : Value) (roster : Option Roster) :
    settings.Accepts (directive.evaluate value settings roster store).2 := by
  unfold evaluate
  split
  case h_5 => exact directive.looksLike_snd accepted value
  all_goals exact accepted

/-! ### The directives of a field -/

theorem evaluateAll_snd (accepted : settings.Accepts store) (value : Value)
    (roster : Option Roster) (directives : List Directive) :
    settings.Accepts (evaluateAll value settings roster store directives).2 := by
  induction directives generalizing store with
  | nil => exact accepted
  | cons directive rest induction =>
    exact induction (directive.evaluate_snd accepted value roster)

/-- Directives applied one after the other find what each finds by itself. -/
theorem evaluateAll_fst (accepted : settings.Accepts store) (value : Value)
    (roster : Option Roster) (directives : List Directive) :
    (evaluateAll value settings roster store directives).1 =
      directives.flatMap fun directive =>
        (directive.evaluate value settings roster settings.store).1 := by
  induction directives generalizing store with
  | nil => rfl
  | cons directive rest induction =>
    have later := induction (directive.evaluate_snd accepted value roster)
    rw [List.flatMap_cons, ← directive.evaluate_fst accepted value roster, ← later]
    rfl

theorem violations_snd (accepted : settings.Accepts store) (declared : Kind) (value : Value)
    (roster : Option Roster) (directives : List Directive) :
    settings.Accepts (violations declared value directives settings roster store).2 := by
  unfold violations
  split
  · exact accepted
  · exact evaluateAll_snd accepted _ roster directives

/-! ### Blocks -/

/-- The messages of one directive about a value of the field with a name, a fresh store of
patterns at hand. -/
def Directive.messages (directive : Directive) (field : String) (value : Value)
    (settings : Settings) (roster : Option Roster) : List String :=
  (directive.evaluate value settings roster settings.store).1.map (Violation.message field)

/-- The block of messages about one field, given the value that the record holds for it. -/
def Field.messages (field : Field) (held : Option Value) (settings : Settings)
    (roster : Option Roster) : List String :=
  if field.directives.isEmpty then []
  else
    match reconcile field.kind (held.getD field.kind.zero) with
    | .error _ => ["Field '" ++ field.name ++ "' must be of kind " ++ field.kind.name]
    | .ok value =>
      field.directives.flatMap fun directive =>
        directive.messages field.name value settings roster

theorem Violation.message_wrongKind (field : String) (declared : Kind) :
    (wrongKind declared).message field =
      "Field '" ++ field ++ "' must be of kind " ++ declared.name := by
  have joined : "'" ++ " must be of kind " = "' must be of kind " := rfl
  rw [← joined, ← String.append_assoc]
  rfl

/-- The violations of a field, put into words, are its block. -/
theorem map_violations (accepted : settings.Accepts store) (field : Field)
    (held : Option Value) (roster : Option Roster) (ruled : field.directives.isEmpty = false) :
    (violations field.kind (held.getD field.kind.zero) field.directives settings roster
        store).1.map (Violation.message field.name) = field.messages held settings roster := by
  unfold violations Field.messages
  rw [if_neg (by simp [ruled])]
  cases reconcile field.kind (held.getD field.kind.zero) with
  | error mismatch =>
    exact congrArg (fun message => [message]) (Violation.message_wrongKind field.name field.kind)
  | ok value =>
    show ((evaluateAll value settings roster store field.directives).1.map
      (Violation.message field.name)) = _
    rw [evaluateAll_fst accepted, List.map_flatMap]
    rfl

/-- A walk over fields yields their blocks, whatever store it begins with. -/
theorem map_walk {Store : Type} [FieldStore Store] (accepted : settings.Accepts store)
    (schema : Schema) (record : Store) (roster : Option Roster) (fields : List Field) :
    (walk schema record settings roster store fields).map
        (fun (name, violation) => Violation.message name violation) =
      fields.flatMap fun field =>
        field.messages (FieldStore.read? schema record field.name) settings roster := by
  induction fields generalizing store with
  | nil => rfl
  | cons field rest induction =>
    rw [List.flatMap_cons]
    unfold walk
    by_cases ruled : field.directives.isEmpty
    · have silent : field.messages (FieldStore.read? schema record field.name) settings roster =
          [] := if_pos ruled
      rw [silent, List.nil_append]
      simp only [ruled, if_true]
      exact induction accepted
    · rw [Bool.not_eq_true] at ruled
      have later := induction (violations_snd accepted field.kind
        ((FieldStore.read? schema record field.name).getD field.kind.zero) roster field.directives)
      simp only [ruled, Bool.false_eq_true, if_false, List.map_append, List.map_map]
      rw [later, ← map_violations accepted field _ roster ruled]
      rfl

/-- Enforcement of a record is a block for each field, in the order of the schema. A block is
empty for a field without directives, the one message about the kind where the value does not fit,
and otherwise the messages of the directives in order, each applied with a fresh store. -/
theorem enforce_eq_flatMap_messages {Store : Type} [FieldStore Store] (schema : Schema)
    (record : Store) (settings : Settings) (roster : Option Roster) :
    enforce schema record settings roster =
      schema.fields.flatMap fun field =>
        field.messages (FieldStore.read? schema record field.name) settings roster :=
  map_walk settings.accepts_store schema record roster schema.fields

end Rulebook
