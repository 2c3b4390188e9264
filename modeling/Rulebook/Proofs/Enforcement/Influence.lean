/-
This file proves which members of a JSON object can influence its enforcement.

Enforcement reads the fields that have directives and no others. A field is read through its
member, and a member that is null is read like one that is not there. So two objects that hold
the same under the names of those fields, null or nothing counting as the same, are enforced
alike, whatever else they hold and however the rest of it is typed. That a field is declared
twice makes no difference: both declarations read one member, through the kind of the first.
-/
import Rulebook.Proofs.Enforcement.Findings

namespace Rulebook

/-! ### Reading -/

/-- The member of a JSON object under a name, null where there is none. -/
def JsonRecord.member (record : JsonRecord) (name : String) : Json :=
  (Entries.find? record name).getD .null

theorem JsonRecord.member_put_of_ne (record : JsonRecord) {name other : String} (json : Json)
    (different : other ≠ name) : member (Entries.put record name json) other =
      record.member other := by
  unfold member
  rw [Entries.find?_put_of_ne record json different]

/-- Null is read like nothing. -/
theorem Value.ofJson_getD (kind : Kind) (held : Option Json) :
    ofJson kind (some (held.getD .null)) = ofJson kind held := by
  cases held <;> rfl

/-- A JSON object is read through its members. -/
theorem read?_json_eq (schema : Schema) (record : JsonRecord) (name : String) :
    FieldStore.read? schema record name =
      (schema.find? name).map fun field => Value.ofJson field.kind (some (record.member name)) := by
  unfold JsonRecord.member
  simp only [Value.ofJson_getD]
  rfl

/-! ### Enforcement reads fields with directives -/

/-- What is found about a field depends on what comes out of coercion, and on nothing else. -/
theorem Field.findings_congr {field : Field} {first second : Option Value}
    (alike : ∀ value, reconcile field.kind (first.getD field.kind.zero) = .ok value ↔
      reconcile field.kind (second.getD field.kind.zero) = .ok value)
    (settings : Settings) (roster : Option Roster) :
    field.findings first settings roster = field.findings second settings roster := by
  unfold findings
  cases firstOut : reconcile field.kind (first.getD field.kind.zero) with
  | ok value => rw [(alike value).1 firstOut]
  | error mismatch =>
    cases secondOut : reconcile field.kind (second.getD field.kind.zero) with
    | ok value =>
      rw [(alike value).2 secondOut] at firstOut
      cases firstOut
    | error other => rfl

section Congruence

variable {First Second : Type} [FieldStore First] [FieldStore Second] {schema : Schema}
  {first : First} {second : Second}

/-- Two records whose fields with directives come out of coercion alike are enforced alike. -/
theorem enforce_congr_of_reconcile
    (alike : ∀ field ∈ schema.fields, field.directives ≠ [] → ∀ value,
      reconcile field.kind ((FieldStore.read? schema first field.name).getD field.kind.zero) =
          .ok value ↔
        reconcile field.kind ((FieldStore.read? schema second field.name).getD field.kind.zero) =
          .ok value)
    (settings : Settings) (roster : Option Roster) :
    enforce schema first settings roster = enforce schema second settings roster := by
  rw [enforce_eq_map_findings, enforce_eq_map_findings]
  unfold findings
  refine congrArg (List.map Finding.message) (List.flatMap_congr fun field member => ?_)
  by_cases ruled : field.directives = []
  · unfold Field.findings
    rw [ruled]
    rfl
  · exact Field.findings_congr (alike field member ruled) settings roster

/-- Two records that are read alike in every field with directives are enforced alike. -/
theorem enforce_congr
    (alike : ∀ field ∈ schema.fields, field.directives ≠ [] →
      FieldStore.read? schema first field.name = FieldStore.read? schema second field.name)
    (settings : Settings) (roster : Option Roster) :
    enforce schema first settings roster = enforce schema second settings roster :=
  enforce_congr_of_reconcile (fun field member ruled value => by rw [alike field member ruled])
    settings roster

end Congruence

/-- The two objects hold the same under the name of every field with directives; a member that
is null is the same as none. -/
def Schema.SameRuledMembers (schema : Schema) (first second : JsonRecord) : Prop :=
  ∀ field ∈ schema.fields, field.directives ≠ [] →
    first.member field.name = second.member field.name

/-- A member that no field with directives is read from may be set to anything. -/
theorem Schema.sameRuledMembers_put {schema : Schema} {name : String}
    (unruled : ∀ field ∈ schema.fields, field.directives ≠ [] → field.name ≠ name)
    (record : JsonRecord) (json : Json) :
    schema.SameRuledMembers (Entries.put record name json) record :=
  fun field member ruled => record.member_put_of_ne json (unruled field member ruled)

theorem Schema.SameRuledMembers.enforce_eq {schema : Schema} {first second : JsonRecord}
    (same : schema.SameRuledMembers first second) (settings : Settings)
    (roster : Option Roster) :
    enforce schema first settings roster = enforce schema second settings roster := by
  refine enforce_congr (fun field member ruled => ?_) settings roster
  rw [read?_json_eq, read?_json_eq, same field member ruled]

/-- Objects with the same ruled members are enforced alike, with and without named checks. Hence
a member of any other name, whether it belongs to a field without directives or to no field, can
be set to any JSON value. -/
theorem enforce_json_eq_of_ruled_members (schema : Schema) (settings : Settings)
    (roster : Option Roster) :
    (∀ first second : JsonRecord, schema.SameRuledMembers first second →
        enforce schema first settings roster = enforce schema second settings roster) ∧
      ∀ name, (∀ field ∈ schema.fields, field.directives ≠ [] → field.name ≠ name) →
        ∀ (record : JsonRecord) (json : Json),
          enforce schema (Entries.put record name json : JsonRecord) settings roster =
            enforce schema record settings roster :=
  ⟨fun _ _ same => same.enforce_eq settings roster, fun _ unruled record json =>
    (Schema.sameRuledMembers_put unruled record json).enforce_eq settings roster⟩

/-- A field that is declared twice, a null for a missing member, and members without rules. -/
theorem enforce_json_eq_of_ruled_members_guest :
    let schema : Schema := ⟨"Guest",
      [⟨"age", .text, ""⟩, ⟨"age", .integer, "min:10"⟩, ⟨"nick", .text, "required"⟩,
        ⟨"note", .text, ""⟩]⟩
    let first : JsonRecord := [("age", .string "9"), ("nick", .null), ("note", .bool true)]
    let second : JsonRecord := [("age", .string "9"), ("extra", .array [.null])]
    schema.SameRuledMembers first second ∧
      (∀ field ∈ schema.fields, field.directives ≠ [] → field.name ≠ "note") ∧
      enforce schema first .standard none = enforce schema second .standard none ∧
      enforce schema (Entries.put second "note" (.object []) : JsonRecord) .standard none =
        enforce schema second .standard none ∧
      enforce schema second .standard none =
        ["Field 'age' must be at least 10", "Required field 'nick' is not provided"] := by
  intro schema first second
  have silent : (⟨"note", .text, ""⟩ : Field).directives = [] := by decide +kernel
  have same : schema.SameRuledMembers first second := by
    intro field member ruled
    simp only [schema, List.mem_cons, List.not_mem_nil, or_false] at member
    rcases member with rfl | rfl | rfl | rfl
    case inr.inr.inr => exact absurd silent ruled
    all_goals rfl
  have unruled : ∀ field ∈ schema.fields, field.directives ≠ [] → field.name ≠ "note" := by
    intro field member ruled
    simp only [schema, List.mem_cons, List.not_mem_nil, or_false] at member
    rcases member with rfl | rfl | rfl | rfl
    case inr.inr.inr => exact absurd silent ruled
    all_goals decide
  have law := enforce_json_eq_of_ruled_members schema .standard none
  exact ⟨same, unruled, law.1 first second same, law.2 "note" unruled second (.object []),
    by decide +kernel⟩

end Rulebook
