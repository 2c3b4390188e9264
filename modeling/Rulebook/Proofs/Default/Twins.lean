/-
This file compares two JSON objects that give one time in different forms.

The one holds it in an object, the other as a string, and otherwise they hold the same. For a field
that declares a time this is a value of another kind and a time, and neither of them reads as zero.
So the default pass stops at the same fault for both or writes the same to both. If the field is
prohibited, it is reset in both, and they hold the same in the end; otherwise it is left alone in
both. Enforcement then has one message about the object, and for the string what the directives of
the field find, none of which is this message. The two are never enforced alike.
-/
import Rulebook.Proofs.Coercion.Text
import Rulebook.Proofs.Default.Pass
import Rulebook.Proofs.Enforcement.Blocks
import Rulebook.Proofs.Rule.Wording

namespace Rulebook

/-- Two JSON objects that hold the same under every name but one, where the one holds an object and
the other a string that reads as a time. -/
structure TimeTwins (name : String) (boxed quoted : JsonRecord) : Prop where
  boxed_held : ∃ members, boxed.find? name = some (.object members)
  quoted_held : ∃ content instant, quoted.find? name = some (.string content) ∧
    Instant.read? content.toList = some instant
  others : ∀ other, other ≠ name → boxed.find? other = quoted.find? other

namespace TimeTwins

variable {schema : Schema} {field : Field} {boxed quoted : JsonRecord}

/-! ### Reading -/

theorem exists_read?_boxed (twins : TimeTwins field.name boxed quoted)
    (declared : schema.find? field.name = some field) (temporal : field.kind = .temporal) :
    ∃ entries, FieldStore.read? schema boxed field.name = some (.nested entries) := by
  obtain ⟨members, held⟩ := twins.boxed_held
  rw [read?_json_of_find? declared, held, temporal]
  exact ⟨_, rfl⟩

theorem exists_read?_quoted (twins : TimeTwins field.name boxed quoted)
    (declared : schema.find? field.name = some field) (temporal : field.kind = .temporal) :
    ∃ instant, FieldStore.read? schema quoted field.name = some (.temporal (some instant)) := by
  obtain ⟨content, instant, held, read⟩ := twins.quoted_held
  refine ⟨instant, ?_⟩
  rw [read?_json_of_find? declared, held, temporal, Value.ofJson_temporal_string, read]

theorem read?_eq (twins : TimeTwins field.name boxed quoted) {name : String}
    (other : name ≠ field.name) :
    FieldStore.read? schema boxed name = FieldStore.read? schema quoted name :=
  EntryStore.read?_congr schema boxed quoted name (twins.others name other)

/-! ### The default pass -/

section Pass

variable (twins : TimeTwins field.name boxed quoted) (distinct : schema.HasDistinctNames)
  (member : field ∈ schema.fields) (temporal : field.kind = .temporal) (now : Instant)

include twins distinct member temporal

/-- A prohibited time is reset, in whatever form it is given. -/
theorem verdicts_of_prohibited (prohibited : field.HasRule .prohibit) :
    verdict schema now boxed field = .ok (some field.kind.zero) ∧
      verdict schema now quoted field = .ok (some field.kind.zero) := by
  have declared := Schema.find?_name distinct member
  obtain ⟨entries, boxedRead⟩ := twins.exists_read?_boxed declared temporal
  obtain ⟨instant, quotedRead⟩ := twins.exists_read?_quoted declared temporal
  have apart : (Value.nested entries).kind ≠ field.kind := by
    rw [temporal]
    exact Kind.noConfusion
  exact ⟨verdict_of_prohibited declared prohibited boxedRead (.inr apart) now,
    verdict_of_prohibited declared prohibited quotedRead (.inl rfl) now⟩

/-- A time that is not prohibited is left alone, in whatever form it is given. -/
theorem verdicts_of_allowed (allowed : ¬ field.HasRule .prohibit) :
    verdict schema now boxed field = .ok none ∧ verdict schema now quoted field = .ok none := by
  have declared := Schema.find?_name distinct member
  obtain ⟨entries, boxedRead⟩ := twins.exists_read?_boxed declared temporal
  obtain ⟨instant, quotedRead⟩ := twins.exists_read?_quoted declared temporal
  have mismatch : ¬ ReadsAsZero field.kind (.nested entries) := by
    rw [temporal]
    rintro ⟨zero, reconciled, -⟩
    cases reconciled
  have time : ¬ ReadsAsZero field.kind (.temporal (some instant)) :=
    not_readsAsZero_temporal _ instant
  exact ⟨verdict_of_not_readsAsZero allowed boxedRead mismatch now,
    verdict_of_not_readsAsZero allowed quotedRead time now⟩

/-- The pass plans the same writes for both, and stops at the same fault. -/
theorem plan_eq : plan schema now boxed schema.fields = plan schema now quoted schema.fields := by
  refine plan_congr_of_verdict schema now fun other otherMember => ?_
  by_cases named : other.name = field.name
  · obtain rfl := distinct.field_ext otherMember member named
    by_cases prohibited : other.HasRule .prohibit
    · obtain ⟨boxedReset, quotedReset⟩ :=
        twins.verdicts_of_prohibited distinct member temporal now prohibited
      rw [boxedReset, quotedReset]
    · obtain ⟨boxedLeft, quotedLeft⟩ :=
        twins.verdicts_of_allowed distinct member temporal now prohibited
      rw [boxedLeft, quotedLeft]
  · exact verdict_congr schema now (twins.others other.name named)

theorem applyDefaults_snd_eq :
    (applyDefaults schema now boxed).2 = (applyDefaults schema now quoted).2 := by
  unfold applyDefaults
  rw [injectFields_eq schema now boxed distinct, injectFields_eq schema now quoted distinct,
    twins.plan_eq distinct member temporal now]

/-- What is written leaves the two alike wherever they have been alike. -/
theorem find?_applyDefaults_eq {name : String} (other : name ≠ field.name) :
    (applyDefaults schema now boxed).1.find? name =
      (applyDefaults schema now quoted).1.find? name := by
  unfold applyDefaults
  rw [injectFields_eq schema now boxed distinct, injectFields_eq schema now quoted distinct,
    twins.plan_eq distinct member temporal now]
  exact find?_putAll_congr ((plan_names_sublist schema now quoted schema.fields).nodup distinct)
    (twins.others name other)

/-- After a pass that succeeds, the two hold the same, if the time is prohibited. -/
theorem find?_applyDefaults_of_prohibited (prohibited : field.HasRule .prohibit)
    {changed : List String} (succeeded : (applyDefaults schema now quoted).2 = .ok changed)
    (name : String) :
    (applyDefaults schema now boxed).1.find? name =
      (applyDefaults schema now quoted).1.find? name := by
  by_cases named : name = field.name
  · subst named
    have declared := Schema.find?_name distinct member
    obtain ⟨boxedReset, quotedReset⟩ :=
      twins.verdicts_of_prohibited distinct member temporal now prohibited
    obtain ⟨_, boxedRead, boxedInjects⟩ := (verdict_eq_some_iff declared now _ _).1 boxedReset
    obtain ⟨_, quotedRead, quotedInjects⟩ := (verdict_eq_some_iff declared now _ _).1 quotedReset
    have boxedSucceeded := (twins.applyDefaults_snd_eq distinct member temporal now).trans succeeded
    rw [find?_of_injects distinct (Prod.ext rfl boxedSucceeded) member boxedRead boxedInjects,
      find?_of_injects distinct (Prod.ext rfl succeeded) member quotedRead quotedInjects]
  · exact twins.find?_applyDefaults_eq distinct member temporal now named

/-- The pass leaves the time as it is given, if it is not prohibited. -/
theorem after_applyDefaults (allowed : ¬ field.HasRule .prohibit) :
    TimeTwins field.name (applyDefaults schema now boxed).1 (applyDefaults schema now quoted).1 := by
  obtain ⟨boxedLeft, quotedLeft⟩ := twins.verdicts_of_allowed distinct member temporal now allowed
  have kept (record : JsonRecord) (left : verdict schema now record field = .ok none) :
      (applyDefaults schema now record).1.find? field.name =
        record.find? field.name := by
    rcases find?_applyDefaults distinct now record field.name with same | written
    · exact same
    · obtain ⟨other, otherMember, named, held, value, read, injects, -⟩ := written
      obtain rfl := distinct.field_ext otherMember member named
      have judged := (verdict_eq_some_iff (Schema.find?_name distinct member) now record value).2
        ⟨held, read, injects⟩
      rw [left] at judged
      cases judged
  exact {
    boxed_held := by rw [kept boxed boxedLeft]; exact twins.boxed_held
    quoted_held := by rw [kept quoted quotedLeft]; exact twins.quoted_held
    others := fun name other =>
      twins.find?_applyDefaults_eq distinct member temporal now other }

end Pass

/-! ### Enforcement -/

/-- The messages differ for the time alone: the object has the message about the kind, and the
string has messages of other words, or none. -/
theorem exists_enforce_eq (twins : TimeTwins field.name boxed quoted)
    (distinct : schema.HasDistinctNames) (member : field ∈ schema.fields)
    (temporal : field.kind = .temporal) (ruled : field.directives ≠ []) (settings : Settings) :
    ∃ before own after,
      enforce schema boxed settings none =
          before ++ [(Violation.wrongKind .temporal).message field.name] ++ after ∧
        enforce schema quoted settings none = before ++ own ++ after ∧
        (Violation.wrongKind .temporal).message field.name ∉ own := by
  have declared := Schema.find?_name distinct member
  obtain ⟨entries, boxedRead⟩ := twins.exists_read?_boxed declared temporal
  obtain ⟨instant, quotedRead⟩ := twins.exists_read?_quoted declared temporal
  have nonempty : field.directives.isEmpty = false := List.isEmpty_eq_false_iff.2 ruled
  obtain ⟨before, after, split, notBefore, notAfter⟩ := distinct.exists_append member
  have elsewhere (others : List Field) (apart : field.name ∉ others.map Field.name) :
      (others.flatMap fun other =>
        other.messages (FieldStore.read? schema boxed other.name) settings none) =
      others.flatMap fun other =>
        other.messages (FieldStore.read? schema quoted other.name) settings none := by
    refine List.flatMap_congr fun other otherMember => ?_
    rw [twins.read?_eq fun named => apart (named ▸ List.mem_map_of_mem otherMember)]
  have boxedOwn : field.messages (FieldStore.read? schema boxed field.name) settings none =
      [(Violation.wrongKind .temporal).message field.name] := by
    rw [← map_violations settings.accepts_store field _ none nonempty, boxedRead, temporal]
    rfl
  have quotedOwn : (Violation.wrongKind .temporal).message field.name ∉
      field.messages (FieldStore.read? schema quoted field.name) settings none := by
    rw [← map_violations settings.accepts_store field _ none nonempty, quotedRead, temporal]
    have fits : reconcile .temporal (.temporal (some instant)) = .ok (.temporal (some instant)) :=
      reconcile_of_kind rfl
    exact wrongKind_notMem_violations fits field.directives settings settings.store field.name
  unfold enforce
  rw [map_walk settings.accepts_store, map_walk settings.accepts_store, split,
    List.flatMap_append, List.flatMap_append, List.flatMap_cons, List.flatMap_cons,
    elsewhere before notBefore, elsewhere after notAfter, boxedOwn]
  exact ⟨_, _, _, (List.append_assoc _ _ _).symm, (List.append_assoc _ _ _).symm, quotedOwn⟩

end TimeTwins

end Rulebook
