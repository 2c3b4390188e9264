/-
This file proves that defaults and the rule `required` agree on which fields are missing.

The default pass reads a field, brings the value in line with the declared kind and fills in the
default if the outcome is zero. The walk of enforcement does the same before it applies `required`,
and reports the field if the outcome is zero. So the pass writes to a field with a default just
where enforcement, asked for nothing but `required`, reports the field as missing. A value that
cannot be brought in line is no missing one: it is reported as being of the wrong kind, and the pass
leaves it alone.
-/
import Rulebook.Proofs.Default.Pass
import Rulebook.Proofs.Enforcement.Single
import Rulebook.Proofs.Rule.Wording

namespace Rulebook

/-! ### The side of the pass -/

section Pass

variable {Item : Type} [FieldStore (Entries Item)] [EntryStore Item] {schema : Schema}
  {now : Instant} {record final : Entries Item} {changed : List String} {field : Field}

/-- A pass that succeeds writes to a field with a default, which nothing prohibits, exactly if the
field reads as zero. Nested fields take no defaults. -/
theorem mem_changed_iff_readsAsZero (distinct : schema.HasDistinctNames)
    (succeeded : applyDefaults schema now record = (final, .ok changed))
    (member : field ∈ schema.fields) (plain : field.kind ≠ .nested)
    (defaulted : field.HasRule .default) (allowed : ¬ field.HasRule .prohibit) :
    field.name ∈ changed ↔ ∃ held, FieldStore.read? schema record field.name = some held ∧
      ReadsAsZero field.kind held := by
  rw [mem_changed_iff distinct succeeded]
  constructor
  · rintro ⟨other, otherMember, same, held, value, read, injects⟩
    obtain rfl := distinct.field_ext otherMember member same
    cases injects with
    | reset prohibited _ => exact absurd prohibited allowed
    | fill _ _ zero _ => exact ⟨held, read, zero⟩
  · rintro ⟨held, read, zero⟩
    have declared := Schema.find?_name distinct member
    obtain ⟨directive, found⟩ :=
      Option.isSome_iff_exists.1 ((field.hasKeyword_iff .default).2 defaulted)
    obtain ⟨-, complete, -⟩ := plan_of_succeeded distinct succeeded
    obtain ⟨given, judged⟩ := verdict_of_complete complete member
    cases given with
    | some value =>
      obtain ⟨stored, readAgain, injects⟩ :=
        (verdict_eq_some_iff declared now record value).1 judged
      exact ⟨field, member, rfl, stored, value, readAgain, injects⟩
    | none =>
      -- Of the reasons to leave a field alone none applies to this one.
      rcases (verdict_eq_none_iff schema now record field).1 judged with unruled | left
      · rw [Field.isEmpty_directives_eq_false defaulted] at unruled
        cases unruled
      · obtain ⟨stored, readAgain, spares⟩ := left
        obtain rfl : held = stored := Option.some.inj (read.symm.trans readAgain)
        cases spares with
        | reset prohibited _ _ => exact absurd prohibited allowed
        | noDefault _ missing =>
          rw [missing] at found
          cases found
        | filled _ _ apart => exact absurd zero apart
        | nested _ _ isNested => exact absurd isNested plain

end Pass

/-! ### The side of enforcement -/

theorem readRules_required : readRules "required" = [⟨"required", none⟩] := by
  decide +kernel

section Enforcement

variable {Store : Type} [FieldStore Store] {schema : Schema} {record : Store} {name : String}
  {declared : Kind} {held : Value}

/-- A record whose one field is to be there has one message, if any. -/
theorem enforce_required_eq (single : schema.fields = [⟨name, declared, "required"⟩])
    (read : FieldStore.read? schema record name = some held) (settings : Settings)
    (roster : Option Roster) :
    enforce schema record settings roster =
      match reconcile declared held with
      | .error _ => [(Violation.wrongKind declared).message name]
      | .ok value => if value.isZero then [Violation.missing.message name] else [] := by
  have ruled : readRules "required" ≠ [] := by
    rw [readRules_required]
    exact List.cons_ne_nil _ _
  rw [enforce_eq_map_violations_of_ruled single read ruled, readRules_required]
  unfold violations
  cases reconcile declared held with
  | error mismatch => rfl
  | ok value =>
    show ((Directive.required value).toList ++ []).map (Violation.message name) = _
    unfold Directive.required reportUnless
    dsimp only
    cases value.isZero <;> rfl

/-- The field is reported as missing exactly if it reads as zero. -/
theorem enforce_required_eq_missing_iff (single : schema.fields = [⟨name, declared, "required"⟩])
    (read : FieldStore.read? schema record name = some held) (settings : Settings)
    (roster : Option Roster) :
    enforce schema record settings roster = [Violation.missing.message name] ↔
      ReadsAsZero declared held := by
  rw [enforce_required_eq single read, ← countsAsZero_iff]
  unfold countsAsZero
  cases reconcile declared held with
  | error mismatch =>
    refine iff_of_false (fun same => ?_) Bool.false_ne_true
    exact @Violation.message_ne_wrongKind .missing rfl name declared (List.cons.inj same).1.symm
  | ok value =>
    dsimp only
    split <;> simp [*]

end Enforcement

/-! ### Both sides -/

/-- After a pass over a JSON object that succeeds, take a field that has a default and no
prohibition, and whose kind is not the nested one. It was written, with what its first default
stands for, exactly if enforcement of the object reports it as missing when `required` is its only
rule. If enforcement then reports it as being of the wrong kind, its value did not fit, and the pass
has left it alone. -/
theorem mem_changed_iff_enforce_required {schema : Schema} {now : Instant}
    {record final : JsonRecord} {changed : List String} (distinct : schema.HasDistinctNames)
    (succeeded : applyDefaults schema now record = (final, .ok changed)) {field : Field}
    (member : field ∈ schema.fields) (plain : field.kind ≠ .nested)
    (defaulted : field.HasRule .default) (allowed : ¬ field.HasRule .prohibit) (subject : String)
    (settings : Settings) (roster : Option Roster) :
    let asked := enforce ⟨subject, [{ field with rules := "required" }]⟩ record settings roster
    (field.name ∈ changed ↔ asked = ["Required field '" ++ field.name ++ "' is not provided"]) ∧
      (field.name ∈ changed → ∃ directive value,
        findKeyword? field.directives .default = some directive ∧
          readDefault field.kind now directive.arguments = .ok (some value) ∧
            final.find? field.name = some value.toJson) ∧
      (field.name ∉ changed → final.find? field.name = record.find? field.name) ∧
      ∀ mismatch,
        reconcile field.kind (.ofJson field.kind (record.find? field.name)) = .error mismatch →
          asked = ["Field '" ++ field.name ++ "' must be of kind " ++ field.kind.name] ∧
            field.name ∉ changed := by
  intro asked
  have held := read?_json_of_find? (Schema.find?_name distinct member) record
  have heldAlone : FieldStore.read? ⟨subject, [{ field with rules := "required" }]⟩ record
      field.name = some (.ofJson field.kind (record.find? field.name)) :=
    @read?_json_of_find? ⟨subject, [{ field with rules := "required" }]⟩
      { field with rules := "required" } (List.find?_cons_of_pos (decide_eq_true rfl)) record
  have written := mem_changed_iff_readsAsZero distinct succeeded member plain defaulted allowed
  have reported : asked = [Violation.missing.message field.name] ↔
      ReadsAsZero field.kind (.ofJson field.kind (record.find? field.name)) :=
    enforce_required_eq_missing_iff rfl heldAlone settings roster
  rw [held] at written
  simp only [Option.some.injEq, exists_eq_left'] at written
  refine ⟨written.trans reported.symm, ?filled, find?_of_notMem_changed distinct succeeded, ?kept⟩
  case filled =>
    intro named
    obtain ⟨other, otherMember, same, stored, value, read, injects⟩ :=
      (mem_changed_iff distinct succeeded).1 named
    obtain rfl := distinct.field_ext otherMember member same
    have final := find?_of_injects distinct succeeded member read injects
    cases injects with
    | reset prohibited _ => exact absurd prohibited allowed
    | fill _ first _ meant => exact ⟨_, _, first, meant, final⟩
  case kept =>
    intro mismatch unfit
    have worded : asked = _ := enforce_required_eq rfl heldAlone settings roster
    rw [unfit, Violation.message_wrongKind] at worded
    refine ⟨worded, fun named => ?_⟩
    obtain ⟨zero, reconciled, -⟩ := written.1 named
    rw [unfit] at reconciled
    cases reconciled

/-- Zero in digits is missing, and a word where a number should be is not. -/
theorem mem_changed_iff_enforce_required_stock :
    let age : Field := ⟨"age", .integer, "min:1 default:18"⟩
    let stock : Field := ⟨"stock", .unsigned, "default:10 max:5"⟩
    let schema : Schema := ⟨"Product", [age, stock]⟩
    let record : JsonRecord := [("age", .string "old"), ("stock", .string " 00 ")]
    let final : JsonRecord := [("age", .string "old"),
      ("stock", .number (.whole 10 (by decide)))]
    let asked (field : Field) : List String :=
      enforce ⟨"Product", [{ field with rules := "required" }]⟩ record .standard none
    schema.HasDistinctNames ∧ applyDefaults schema .epoch record = (final, .ok ["stock"]) ∧
      (∀ field ∈ schema.fields,
        field.kind ≠ .nested ∧ field.HasRule .default ∧ ¬ field.HasRule .prohibit) ∧
      asked stock = ["Required field 'stock' is not provided"] ∧
      asked age = ["Field 'age' must be of kind integer"] := by
  intro age stock schema record final asked
  have distinct : schema.HasDistinctNames := by decide
  have succeeded : applyDefaults schema .epoch record = (final, .ok ["stock"]) := by cbv
  have rules : ∀ field ∈ schema.fields,
      field.kind ≠ .nested ∧ field.HasRule .default ∧ ¬ field.HasRule .prohibit := by
    simp only [← Field.hasKeyword_iff]
    decide +kernel
  obtain ⟨stockPlain, stockDefaulted, stockAllowed⟩ := rules stock (by simp [schema])
  obtain ⟨agePlain, ageDefaulted, ageAllowed⟩ := rules age (by simp [schema])
  have stockAsked := (mem_changed_iff_enforce_required distinct succeeded (by simp [schema])
    stockPlain stockDefaulted stockAllowed "Product" .standard none).1.1 List.mem_cons_self
  have ageAsked := (mem_changed_iff_enforce_required distinct succeeded (by simp [schema])
    agePlain ageDefaulted ageAllowed "Product" .standard none).2.2.2 (.text "old") (by rfl)
  exact ⟨distinct, succeeded, rules, stockAsked, ageAsked.1⟩

end Rulebook
