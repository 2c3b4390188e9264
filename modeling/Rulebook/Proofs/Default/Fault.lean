/-
This file proves what can stop a default pass on a JSON value.

A pass can only stop at a JSON value that is no object, and at a default that cannot be read. The
other faults of a pass are a field that the schema does not know and a write of the wrong kind.
They come from a schema in which a name leads to another field than the one that the pass has come
to, and there is none when the names are distinct: every field is read, and what the pass gives to
a field has the kind that is declared for it.
-/
import Rulebook.Proofs.Default.Failure
import Rulebook.Proofs.Default.Pass

namespace Rulebook

variable {schema : Schema} {now : Instant}

/-- A field that is declared under its name is only ever at fault for its default. -/
theorem fault_of_verdict {record : JsonRecord} {field : Field} {fault : Fault}
    (declared : schema.find? field.name = some field)
    (failed : verdict schema now record field = .error fault) :
    ∃ flaw : DefaultFlaw, fault = .badDefault field.name flaw.message := by
  unfold verdict at failed
  rw [read?_json_of_find? declared] at failed
  dsimp only at failed
  split at failed
  · cases failed
  · split at failed
    · next flaw _ =>
      cases failed
      exact ⟨flaw, rfl⟩
    · cases failed
    · next value given =>
      have allowed : checkWrite schema field.name value = .ok () := by
        unfold checkWrite
        rw [declared]
        exact if_pos ((injected_eq_some_iff now field _ value).1 given).kind_eq.symm
      rw [allowed] at failed
      cases failed

theorem fault_of_injectField {record : JsonRecord} {field : Field} {fault : Fault}
    (declared : schema.find? field.name = some field)
    (failed : injectField schema now record field = .error fault) :
    ∃ flaw : DefaultFlaw, fault = .badDefault field.name flaw.message := by
  rw [injectField_eq] at failed
  cases judged : verdict schema now record field with
  | error other =>
    rw [judged] at failed
    cases failed
    exact fault_of_verdict declared judged
  | ok given =>
    rw [judged] at failed
    cases failed

/-- A pass over a JSON object with distinct names of fields stops at a default that cannot be
read. -/
theorem fault_of_applyDefaults (distinct : schema.HasDistinctNames) {record : JsonRecord}
    {fault : Fault} (failed : (applyDefaults schema now record).2 = .error fault) :
    ∃ field ∈ schema.fields, ∃ flaw : DefaultFlaw,
      fault = .badDefault field.name flaw.message := by
  obtain ⟨before, field, after, _, split, _, stopped⟩ :=
    injectFields_of_error (show applyDefaults schema now record = (_, .error fault) from
      Prod.ext rfl failed)
  have member : field ∈ schema.fields := by simp [split]
  exact ⟨field, member, fault_of_injectField (Schema.find?_name distinct member) stopped⟩

/-! ### JSON values -/

/-- The fault that stops a default pass on a JSON value, none when the pass succeeds. -/
def defaultFault? (schema : Schema) (now : Instant) (json : Json) : Option Fault :=
  match JsonRecord.ofJson json with
  | .error fault => some fault
  | .ok record =>
    match (applyDefaults schema now record).2 with
    | .error fault => some fault
    | .ok _ => none

theorem ofJson_eq_error_iff {json : Json} {fault : Fault} :
    JsonRecord.ofJson json = .error fault ↔
      (∀ members, json ≠ .object members) ∧ fault = .notARecord json.typeName := by
  cases json with
  | object members =>
    exact iff_of_false nofun fun given => given.1 members rfl
  | _ =>
    simp only [JsonRecord.ofJson, Except.error.injEq, ne_eq, reduceCtorEq, not_false_eq_true,
      implies_true, true_and]
    exact eq_comm

/-- A pass on a JSON value stops when the value is no object, or at a default that cannot be
read. -/
theorem eq_of_defaultFault? (distinct : schema.HasDistinctNames) {json : Json} {fault : Fault}
    (stopped : defaultFault? schema now json = some fault) :
    ((∀ members, json ≠ .object members) ∧ fault = .notARecord json.typeName) ∨
      ∃ members, json = .object members ∧ ∃ field ∈ schema.fields, ∃ flaw : DefaultFlaw,
        fault = .badDefault field.name flaw.message := by
  unfold defaultFault? at stopped
  split at stopped
  · next refused =>
    cases stopped
    exact .inl (ofJson_eq_error_iff.1 refused)
  · next record isRecord =>
    split at stopped
    · next failed =>
      cases stopped
      cases json with
      | object members => exact .inr ⟨members, rfl, fault_of_applyDefaults distinct failed⟩
      | _ => cases isRecord
    · cases stopped

/-- The value is taken for no record exactly when it is no object. -/
theorem exists_defaultFault?_eq_notARecord_iff (distinct : schema.HasDistinctNames) {json : Json} :
    (∃ found, defaultFault? schema now json = some (.notARecord found)) ↔
      ∀ members, json ≠ .object members := by
  constructor
  · rintro ⟨found, stopped⟩
    rcases eq_of_defaultFault? distinct stopped with ⟨noObject, _⟩ | ⟨_, _, _, _, _, other⟩
    · exact noObject
    · cases other
  · intro noObject
    refine ⟨json.typeName, ?_⟩
    unfold defaultFault?
    rw [ofJson_eq_error_iff.2 ⟨noObject, rfl⟩]

end Rulebook
