/-
This file proves that a record gives back what is written to its fields.

A write is refused exactly when the field is not declared or has another kind, and then the record at
hand stays as it is. A write that is not refused touches one field. Reading this field gives the value
back, from a typed record without fail and from a JSON object if JSON can hold the value; `PutGet`
states this for both. The value comes back in every part: an instant is not just the same point in
time, it has the same offset and so the same local time.
-/
import Rulebook.Proofs.Json.Field
import Rulebook.Record

namespace Rulebook

/-! ### What is read after putting -/

/-- A store whose declared fields give back what was put into them, where JSON can hold it, and which
leaves all other fields alone. -/
class PutGet (Store : Type) [FieldStore Store] : Prop where
  read?_put : ∀ {schema : Schema} {field : Field} {value : Value} (record : Store) {name : String},
    schema.find? name = some field → field.kind = value.kind → value.FitsJson →
      FieldStore.read? schema (FieldStore.put record name value) name = some value
  read?_put_of_ne : ∀ (schema : Schema) (record : Store) (value : Value) {name other : String},
    other ≠ name → FieldStore.read? schema (FieldStore.put record name value) other =
      FieldStore.read? schema record other

instance : PutGet TypedRecord where
  read?_put record name _ _ _ := Entries.find?_put_self record name _
  read?_put_of_ne _ record value _ _ different := Entries.find?_put_of_ne record value different

instance : PutGet JsonRecord where
  read?_put {_ field value} record name declared same fits := by
    show (Schema.find? _ name).map (fun field => Value.ofJson field.kind
      (Entries.find? (Entries.put record name value.toJson) name)) = some value
    rw [declared, Entries.find?_put_self]
    show some (Value.ofJson field.kind (some value.toJson)) = some value
    rw [same, Value.ofJson_toJson fits]
  read?_put_of_ne schema record value name other different :=
    congrArg (fun held => (schema.find? other).map fun field => Value.ofJson field.kind held)
      (Entries.find?_put_of_ne record value.toJson different)

/-! ### Writes that are refused -/

/-- A value may be written exactly to a declared field of its kind. -/
theorem checkWrite_eq_ok_iff {schema : Schema} {name : String} {value : Value} :
    checkWrite schema name value = .ok () ↔
      ∃ field, schema.find? name = some field ∧ field.kind = value.kind := by
  unfold checkWrite
  cases schema.find? name with
  | none => simp
  | some field =>
    dsimp only
    split <;> simp_all

section Assign

variable {Store : Type} [FieldStore Store]

/-- The record at hand is checked first and changed only then. -/
theorem run_assign (schema : Schema) (record : Store) (name : String) (value : Value) :
    (assign schema name value).run.run record =
      match write schema record name value with
      | .ok final => (.ok (), final)
      | .error fault => (.error fault, record) := by
  unfold write assign
  cases checkWrite schema name value with
  | ok _ => rfl
  | error fault => rfl

/-- How writing to the record at hand can end: the value is put, or a fault leaves everything. -/
theorem run_assign_cases {schema : Schema} {record final : Store} {name : String} {value : Value}
    {outcome : Except Fault Unit}
    (ended : (assign schema name value).run.run record = (outcome, final)) :
    (outcome = .ok () ∧ checkWrite schema name value = .ok () ∧
        final = FieldStore.put record name value) ∨
      ∃ fault, outcome = .error fault ∧ checkWrite schema name value = .error fault ∧
        final = record := by
  rw [run_assign] at ended
  unfold write at ended
  cases checked : checkWrite schema name value with
  | ok _ =>
    rw [checked] at ended
    obtain ⟨rfl, rfl⟩ := Prod.mk.inj ended
    exact .inl ⟨rfl, rfl, rfl⟩
  | error fault =>
    rw [checked] at ended
    obtain ⟨rfl, rfl⟩ := Prod.mk.inj ended
    exact .inr ⟨fault, rfl, rfl, rfl⟩

end Assign

/-! ### Writing and reading back -/

/-- A write succeeds exactly for a declared field of the value's kind. If it does not, the object is
as it was, and if it does, the one member of this name has changed and is read as the value. -/
theorem read?_json_assign {schema : Schema} {record final : JsonRecord} {name : String}
    {value : Value} {outcome : Except Fault Unit}
    (ended : (assign schema name value).run.run record = (outcome, final)) :
    (outcome = .ok () ↔ ∃ field, schema.find? name = some field ∧ field.kind = value.kind) ∧
      (outcome ≠ .ok () → final = record) ∧
      (outcome = .ok () →
        (∀ other, other ≠ name → final.find? other = record.find? other) ∧
          (value.FitsJson → FieldStore.read? schema final name = some value)) := by
  rcases run_assign_cases ended with ⟨rfl, checked, rfl⟩ | ⟨fault, rfl, checked, rfl⟩
  · have declared := checkWrite_eq_ok_iff.1 checked
    refine ⟨iff_of_true rfl declared, fun failed => absurd rfl failed, fun _ => ⟨?_, ?_⟩⟩
    · exact fun other different => Entries.find?_put_of_ne record value.toJson different
    · obtain ⟨field, found, same⟩ := declared
      exact PutGet.read?_put record found same
  · have refused : ¬ ∃ field, schema.find? name = some field ∧ field.kind = value.kind := by
      rw [← checkWrite_eq_ok_iff, checked]
      exact nofun
    exact ⟨iff_of_false nofun refused, fun _ => rfl, nofun⟩

/-- A leap second is read back with its fraction and its offset, and of two fields of one name the
first one says what may be written. -/
theorem read?_json_leap_second :
    let schema : Schema := ⟨"Visit", [⟨"seen", .temporal, ""⟩, ⟨"seen", .text, ""⟩]⟩
    let record : JsonRecord := [("note", .bool true), ("seen", .number (.whole 5 (by decide)))]
    let instant : Instant := ⟨1483223399, 1250000000, 5400, by decide⟩
    let value : Value := .temporal (some instant)
    let final : JsonRecord :=
      [("note", .bool true), ("seen", .string "2016-12-31T23:59:60.250+01:30")]
    (assign schema "seen" value).run.run record = (.ok (), final) ∧
      value.FitsJson ∧
      FieldStore.read? schema final "seen" = some value ∧
      (assign schema "seen" (.text "")).run.run record =
        (.error (.kindMismatch "seen" .temporal .text), record) := by
  intro schema record instant value final
  have text : String.ofList instant.text = "2016-12-31T23:59:60.250+01:30" := by decide +kernel
  have ended : (assign schema "seen" value).run.run record = (.ok (), final) := by
    have put : final = Entries.put record "seen" (.string (String.ofList instant.text)) := by
      rw [text]
      rfl
    rw [put]
    rfl
  have fits : value.FitsJson := by decide +kernel
  exact ⟨ended, fits, ((read?_json_assign ended).2.2 rfl).2 fits, rfl⟩

/-- A leap second within a minute is written, and the object gives back the second after it. -/
theorem leap_within_minute_not_read_back :
    let schema : Schema := ⟨"Visit", [⟨"seen", .temporal, ""⟩]⟩
    let record : JsonRecord := []
    let instant : Instant := ⟨1704078245, 1500000000, 0, by decide⟩
    let after : Instant := ⟨1704078246, 500000000, 0, by decide⟩
    let final : JsonRecord := [("seen", .string "2024-01-01T03:04:06.500+00:00")]
    instant.date = ⟨2024, 1, 1⟩ ∧ instant.offset = 0 ∧ instant.inLeapSecond = true ∧
      (assign schema "seen" (.temporal (some instant))).run.run record = (.ok (), final) ∧
      FieldStore.read? schema final "seen" = some (.temporal (some after)) ∧
      FieldStore.read? schema final "seen" ≠ some (.temporal (some instant)) := by
  intro schema record instant after final
  have leaps : instant.LeapsTo after := ⟨by decide, by decide, by decide, by decide, by decide⟩
  have text : String.ofList instant.text = "2024-01-01T03:04:06.500+00:00" := by decide +kernel
  have put : final = Entries.put record "seen" (.string (String.ofList instant.text)) := by
    rw [text]
    rfl
  have ended : (assign schema "seen" (.temporal (some instant))).run.run record =
      (.ok (), final) := by
    rw [put]
    rfl
  have read : FieldStore.read? schema final "seen" = some (.temporal (some after)) := by
    rw [put]
    have given := Value.ofJson_toJson_time instant
    rw [leaps.read?_text (by decide +kernel)] at given
    exact congrArg some given
  refine ⟨by decide +kernel, rfl, rfl, ended, read, fun same => leaps.ne ?_⟩
  exact Option.some.inj (Value.temporal.inj (Option.some.inj (read.symm.trans same)))

end Rulebook
