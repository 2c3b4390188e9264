/-
This file says what a default pass that succeeds leaves in a typed record, name
by name.

A field that is prohibited and holds anything but a zero of its kind ends as the
zero value, a field without a prohibition that reads as zero ends as its first
default, and every other name keeps the value it had. The names that the pass
gives back are those of the fields in the first two cases.
-/
import Rulebook.Proofs.Default.Pass

namespace Rulebook

variable {schema : Schema} {now : Instant} {record final : TypedRecord} {changed : List String}

open Classical in
/-- The typed record after a pass that succeeds, and the names that the pass gives back. -/
theorem find?_typed_of_succeeded (distinct : schema.HasDistinctNames)
    (succeeded : applyDefaults schema now record = (final, .ok changed)) :
    (∀ field ∈ schema.fields, ∀ held value, record.find? field.name = some held →
        Injects now field held value → final.find? field.name = some value) ∧
      (∀ name,
        (∀ field ∈ schema.fields, field.name = name →
          ∀ held value, record.find? name = some held → ¬ Injects now field held value) →
        final.find? name = record.find? name) ∧
      changed = (schema.fields.filter fun field => ∃ held value,
        record.find? field.name = some held ∧ Injects now field held value).map Field.name := by
  refine ⟨?_, ?_, changed_eq distinct succeeded⟩
  · intro field member held value read injects
    exact find?_of_injects distinct succeeded member read injects
  · intro name untouched
    have finalEq : (applyDefaults schema now record).1 = final := congrArg Prod.fst succeeded
    rw [← finalEq]
    rcases find?_applyDefaults distinct now record name with same | written
    · exact same
    · obtain ⟨field, member, named, held, value, read, injects, -⟩ := written
      subst named
      exact absurd injects (untouched field member rfl held value read)

/-- A value of another kind is reset, and of two defaults the first fills the empty text. -/
theorem find?_typed_stock :
    let schema : Schema := ⟨"Product",
      [⟨"role", .text, "default:admin prohibit"⟩, ⟨"stock", .integer, "default:10 default:x"⟩]⟩
    let record : TypedRecord := [("note", .text ""), ("role", .integer 0), ("stock", .text "")]
    let final : TypedRecord := [("note", .text ""), ("role", .text ""), ("stock", .integer 10)]
    schema.HasDistinctNames ∧
      applyDefaults schema .epoch record = (final, .ok ["role", "stock"]) ∧
      final.find? "stock" = some (.integer 10) := by
  intro schema record final
  have distinct : schema.HasDistinctNames := by decide
  have succeeded : applyDefaults schema .epoch record = (final, .ok ["role", "stock"]) := by cbv
  have injects : Injects .epoch ⟨"stock", .integer, "default:10 default:x"⟩ (.text "")
      (.integer 10) := (injected_eq_some_iff _ _ _ _).1 (by cbv)
  exact ⟨distinct, succeeded,
    (find?_typed_of_succeeded distinct succeeded).1 _ (by simp [schema]) _ _ (by rfl) injects⟩

end Rulebook
