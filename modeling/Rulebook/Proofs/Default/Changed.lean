/-
This file compares the names that a default pass gives back with the values that it has changed.

The names are those of the fields that were written. A value that has changed was written, so no
change goes unnamed. A prohibited field is only written when it holds something else than the zero
value, but a default is written over every value that reads as zero, also over its own one. So a
name stands for no change exactly if the field holds the zero value that its default stands for.
-/
import Rulebook.Proofs.Default.Pass

namespace Rulebook

/-- The value is what the first default of the field stands for, and nothing prohibits it. -/
def Field.DefaultsTo (field : Field) (now : Instant) (value : Value) : Prop :=
  ¬ field.HasRule .prohibit ∧ ∃ directive,
    findKeyword? field.directives .default = some directive ∧
      readDefault field.kind now directive.arguments = .ok (some value)

/-- A field is given the value that it holds exactly if this is zero and the default of the field
stands for it. -/
theorem injects_self_iff {now : Instant} {field : Field} {value : Value} :
    Injects now field value value ↔ value.isZero = true ∧ field.DefaultsTo now value := by
  constructor
  · intro injects
    have inLine : reconcile field.kind value = .ok value := reconcile_of_kind injects.kind_eq
    cases injects with
    | reset _ apart =>
      rcases apart with nonzero | different
      · rw [field.kind.isZero_zero] at nonzero
        cases nonzero
      · exact absurd field.kind.kind_zero different
    | fill allowed first zero read =>
      obtain ⟨same, reconciled, isZero⟩ := zero
      rw [inLine] at reconciled
      cases reconciled
      exact ⟨isZero, allowed, _, first, read⟩
  · rintro ⟨isZero, allowed, directive, first, read⟩
    have inLine : reconcile field.kind value = .ok value :=
      reconcile_of_kind (kind_of_readDefault read)
    exact .fill allowed first ⟨value, inLine, isZero⟩ read

variable {schema : Schema} {now : Instant} {record final : TypedRecord} {changed : List String}

/-- A pass over a typed record gives back every name whose value it has changed. It gives back just
these, unless some field holds the zero value that its default stands for; of the name of such a
field it is wrong. -/
theorem mem_changed_iff_find?_ne_iff (distinct : schema.HasDistinctNames)
    (succeeded : applyDefaults schema now record = (final, .ok changed)) (name : String) :
    (final.find? name ≠ record.find? name → name ∈ changed) ∧
      ((name ∈ changed ↔ final.find? name ≠ record.find? name) ↔
        ∀ field ∈ schema.fields, field.name = name → ∀ held, record.find? name = some held →
          held.isZero = true → ¬ field.DefaultsTo now held) := by
  have complete : final.find? name ≠ record.find? name → name ∈ changed := fun different =>
    by_contra fun unwritten => different (find?_of_notMem_changed distinct succeeded unwritten)
  refine ⟨complete, ?_⟩
  constructor
  · rintro truthful field member rfl held read isZero defaults
    have injects : Injects now field held held := injects_self_iff.2 ⟨isZero, defaults⟩
    have written : field.name ∈ changed := (mem_changed_iff distinct succeeded).2
      ⟨field, member, rfl, held, held, read, injects⟩
    have kept : final.find? field.name = some held :=
      find?_of_injects distinct succeeded member read injects
    exact truthful.1 written (kept.trans read.symm)
  · intro apart
    refine ⟨fun written same => ?_, complete⟩
    obtain ⟨field, member, rfl, held, value, read, injects⟩ :=
      (mem_changed_iff distinct succeeded).1 written
    have holds : record.find? field.name = some held := read
    have stored : final.find? field.name = some value :=
      find?_of_injects distinct succeeded member read injects
    obtain rfl : value = held := Option.some.inj (stored.symm.trans (same.trans holds))
    obtain ⟨isZero, defaults⟩ := injects_self_iff.1 injects
    exact apart field member rfl value holds isZero defaults

/-- A default that stands for zero fills an empty text, which is another value. -/
theorem mem_changed_iff_find?_ne_stock :
    let schema : Schema := ⟨"Product",
      [⟨"role", .text, "prohibit"⟩, ⟨"stock", .integer, "default:0"⟩]⟩
    let record : TypedRecord := [("role", .text "root"), ("stock", .text "")]
    let final : TypedRecord := [("role", .text ""), ("stock", .integer 0)]
    schema.HasDistinctNames ∧
      applyDefaults schema .epoch record = (final, .ok ["role", "stock"]) ∧
      ("stock" ∈ ["role", "stock"] ↔ final.find? "stock" ≠ record.find? "stock") := by
  intro schema record final
  have distinct : schema.HasDistinctNames := by decide
  have succeeded : applyDefaults schema .epoch record = (final, .ok ["role", "stock"]) := by cbv
  refine ⟨distinct, succeeded,
    (mem_changed_iff_find?_ne_iff distinct succeeded "stock").2.2 ?_⟩
  rintro field member named held read isZero ⟨-, directive, -, meant⟩
  obtain rfl : field = ⟨"stock", .integer, "default:0"⟩ :=
    distinct.field_ext member (by simp [schema]) named
  obtain rfl : Value.text "" = held := Option.some.inj read
  have integral : (Value.text "").kind = .integer := kind_of_readDefault meant
  cases integral

/-- A field that holds zero already is named, but nothing has changed. -/
theorem unchanged_zero_mem_changed :
    let schema : Schema := ⟨"Product", [⟨"stock", .integer, "default:0"⟩]⟩
    let record : TypedRecord := [("stock", .integer 0)]
    ∃ final changed, schema.HasDistinctNames ∧
      applyDefaults schema .epoch record = (final, .ok changed) ∧
      ¬ ("stock" ∈ changed ↔ final.find? "stock" ≠ record.find? "stock") := by
  intro schema record
  have succeeded : applyDefaults schema .epoch record = (record, .ok ["stock"]) := by cbv
  exact ⟨record, ["stock"], by decide, succeeded, fun truthful =>
    truthful.1 List.mem_cons_self rfl⟩

end Rulebook
