/-
This file proves what a default pass that fails leaves behind.

The first fault ends the pass. It names the field that the pass had come to, and the
record is then just what the pass over the fields before this one makes of it: nothing
is written to the failing field on its own account, and nothing to a later one.

Fields may share a name here. Leaving out the later fields changes no look-up for an
earlier one, because a look-up takes the first field that bears the name.
-/
import Rulebook.Default
import Rulebook.Proofs.Rule.Spelling

namespace Rulebook

/-! ### The field that a fault is about -/

/-- The field that a fault is about, if it is about one. -/
def Fault.field? : Fault → Option String
  | badDefault field _ => some field
  | unknownField name => some name
  | kindMismatch field .. => some field
  | _ => none

theorem field?_of_checkWrite {schema : Schema} {name : String} {value : Value} {fault : Fault}
    (refused : checkWrite schema name value = .error fault) : fault.field? = some name := by
  unfold checkWrite at refused
  split at refused
  · cases refused
    rfl
  · split at refused
    · cases refused
    · cases refused
      rfl

section Step

variable {Store : Type} [FieldStore Store] {schema : Schema} {now : Instant} {record : Store}

theorem field?_of_write {name : String} {value : Value} {fault : Fault}
    (refused : write schema record name value = .error fault) : fault.field? = some name := by
  unfold write at refused
  split at refused
  · cases refused
  · next failed =>
    cases refused
    exact field?_of_checkWrite failed

/-- A step that fails blames its own field, whichever part of it fails. -/
theorem field?_of_injectField {field : Field} {fault : Fault}
    (failed : injectField schema now record field = .error fault) :
    fault.field? = some field.name := by
  unfold injectField at failed
  dsimp only at failed
  split at failed
  · cases failed
  · split at failed
    · cases failed
      rfl
    · split at failed
      · cases failed
        rfl
      · cases failed
      · next value _ =>
        cases written : write schema record field.name value with
        | error refused =>
          rw [written] at failed
          cases failed
          exact field?_of_write written
        | ok next =>
          rw [written] at failed
          cases failed

/-! ### The fields before the failing one -/

/-- A pass that fails has gone over some fields without a fault, and the next field fails on the
record that these have left. -/
theorem injectFields_of_error {final : Store} {fields : List Field} {fault : Fault}
    (failed : injectFields schema now record fields = (final, .error fault)) :
    ∃ before field after changed, fields = before ++ field :: after ∧
      injectFields schema now record before = (final, .ok changed) ∧
      injectField schema now final field = .error fault := by
  induction fields generalizing record with
  | nil => cases failed
  | cons first rest induction =>
    unfold injectFields at failed
    split at failed
    · next firstFailed =>
      cases failed
      exact ⟨[], first, rest, [], rfl, rfl, firstFailed⟩
    · next next written stepped =>
      cases later : injectFields schema now next rest with
      | mk last outcome =>
        rw [later] at failed
        cases outcome with
        | ok names => cases failed
        | error fault =>
          cases failed
          obtain ⟨before, field, after, changed, rfl, succeeded, fieldFailed⟩ := induction later
          refine ⟨first :: before, field, after,
            if written then first.name :: changed else changed, rfl, ?_, fieldFailed⟩
          simp only [injectFields, stepped, succeeded, Except.map]

end Step

/-! ### Leaving out the later fields -/

/-- The schema with only its first fields. -/
def Schema.take (schema : Schema) (count : Nat) : Schema :=
  { schema with fields := schema.fields.take count }

/-- A field that is kept is looked up as before. -/
theorem Schema.find?_take {schema : Schema} {count : Nat} {field : Field}
    (kept : field ∈ schema.fields.take count) :
    (schema.take count).find? field.name = schema.find? field.name := by
  have found : ((schema.fields.take count).find? fun other => other.name = field.name).isSome :=
    List.find?_isSome.2 ⟨field, kept, by simp⟩
  obtain ⟨other, foundEq⟩ := Option.isSome_iff_exists.1 found
  have whole : schema.find? field.name = some other := by
    unfold find?
    rw [← List.take_append_drop count schema.fields, List.find?_append, foundEq]
    rfl
  exact Eq.trans foundEq whole.symm

/-- A store that reads a field by nothing but what the schema declares under its name. -/
class ReadsDeclared (Store : Type) [FieldStore Store] : Prop where
  read?_congr_schema : ∀ (first second : Schema) (record : Store) (name : String),
    first.find? name = second.find? name →
      FieldStore.read? first record name = FieldStore.read? second record name

instance : ReadsDeclared TypedRecord where
  read?_congr_schema _ _ _ _ _ := rfl

instance : ReadsDeclared JsonRecord where
  read?_congr_schema _ _ record name same :=
    congrArg (Option.map fun field => Value.ofJson field.kind (Entries.find? record name)) same

section Pass

variable {Store : Type} [FieldStore Store] [ReadsDeclared Store]

theorem injectField_congr_schema {first second : Schema} (now : Instant) (record : Store)
    {field : Field} (same : first.find? field.name = second.find? field.name) :
    injectField first now record field = injectField second now record field := by
  unfold injectField write checkWrite
  rw [ReadsDeclared.read?_congr_schema first second record field.name same, same]

theorem injectFields_congr_schema {first second : Schema} (now : Instant) (record : Store)
    {fields : List Field} (same : ∀ field ∈ fields,
      first.find? field.name = second.find? field.name) :
    injectFields first now record fields = injectFields second now record fields := by
  induction fields generalizing record with
  | nil => rfl
  | cons field rest induction =>
    have later (next : Store) := induction next fun other member =>
      same other (List.mem_cons_of_mem _ member)
    unfold injectFields
    simp only [injectField_congr_schema now record (same field List.mem_cons_self), later]

/-- A pass that fails has come to some field, which the fault is about. It leaves the record that
the pass over the fields before it leaves when the schema has no others, and that pass succeeds. -/
theorem applyDefaults_of_error {schema : Schema} {now : Instant} {record final : Store}
    {fault : Fault} (failed : applyDefaults schema now record = (final, .error fault)) :
    ∃ index field changed, schema.fields[index]? = some field ∧
      fault.field? = some field.name ∧
      injectField schema now final field = .error fault ∧
      applyDefaults (schema.take index) now record = (final, .ok changed) := by
  obtain ⟨before, field, after, changed, fieldsEq, succeeded, fieldFailed⟩ :=
    injectFields_of_error failed
  have kept : schema.fields.take before.length = before := by
    rw [fieldsEq]
    exact List.take_left' rfl
  refine ⟨before.length, field, changed, ?_, field?_of_injectField fieldFailed, fieldFailed, ?_⟩
  · rw [fieldsEq, List.getElem?_append_right (Nat.le_refl _), Nat.sub_self]
    rfl
  · show injectFields (schema.take before.length) now record (schema.fields.take before.length) = _
    rw [injectFields_congr_schema now record fun _ member => Schema.find?_take member, kept,
      succeeded]

end Pass

/-- A second field of the name cannot be reset, in a typed record and in a JSON object. Both keep
the default that was written first, and a prohibited value that comes later. -/
theorem applyDefaults_of_error_guest :
    let schema : Schema := ⟨"Visit", [⟨"name", .text, "default:guest"⟩,
      ⟨"name", .integer, "prohibit"⟩, ⟨"role", .text, "prohibit"⟩]⟩
    let typed : TypedRecord := [("name", .text ""), ("role", .text "admin")]
    let typedFinal : TypedRecord := [("name", .text "guest"), ("role", .text "admin")]
    let json : JsonRecord := [("role", .string "admin")]
    let jsonFinal : JsonRecord := [("name", .string "guest"), ("role", .string "admin")]
    let fault : Fault := .kindMismatch "name" .text .integer
    (applyDefaults schema .epoch typed = (typedFinal, .error fault) ∧
      ∃ index changed,
        applyDefaults (schema.take index) .epoch typed = (typedFinal, .ok changed)) ∧
    applyDefaults schema .epoch json = (jsonFinal, .error fault) ∧
      ∃ index changed, applyDefaults (schema.take index) .epoch json = (jsonFinal, .ok changed) := by
  intro schema typed typedFinal json jsonFinal fault
  have guest : (⟨"name", .text, "default:guest"⟩ : Field).directives =
      [⟨"default", some "guest"⟩] :=
    Directive.Spelled.readRules_eq (.bare_of_notMem (by decide) (by decide) (by decide))
  have prohibited (name : String) (kind : Kind) :
      (⟨name, kind, "prohibit"⟩ : Field).directives = [⟨"prohibit", none⟩] :=
    Directive.Spelled.readRules_eq (.plain (by decide) (by decide))
  have typedFailed : applyDefaults schema .epoch typed = (typedFinal, .error fault) := by
    unfold applyDefaults
    simp only [schema, injectFields, injectField, guest, prohibited]
    rfl
  have jsonFailed : applyDefaults schema .epoch json = (jsonFinal, .error fault) := by
    unfold applyDefaults
    simp only [schema, injectFields, injectField, guest, prohibited]
    rfl
  obtain ⟨typedIndex, _, typedChanged, -, -, -, typedKept⟩ := applyDefaults_of_error typedFailed
  obtain ⟨jsonIndex, _, jsonChanged, -, -, -, jsonKept⟩ := applyDefaults_of_error jsonFailed
  exact ⟨⟨typedFailed, typedIndex, typedChanged, typedKept⟩,
    jsonFailed, jsonIndex, jsonChanged, jsonKept⟩

end Rulebook
