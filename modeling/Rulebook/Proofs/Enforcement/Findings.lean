/-
This file traces every message of an enforcement back to where it comes from, and settles what
named checks contribute.

Two messages of different origin can be the same text, so nothing can be said about a list of
messages by looking at the texts. A finding is a violation together with its field and with the
directive that found it; a value of the wrong kind is found by no directive. The messages are
the findings put into words, one for one.

Without a roster the directives that call named checks find nothing, and all the others find
what they find with a roster. So enforcement without a roster yields the findings with it, less
those of named checks, and the order of the rest is kept. Nothing is lost exactly when every
check that is called exists and accepts.
-/
import Rulebook.Proofs.Enforcement.Blocks
import Mathlib.Data.List.Basic

namespace Rulebook

/-- A violation and where it comes from. -/
structure Finding where
  /-- The name of the field. -/
  field : String
  /-- The directive that found it, none for a value of the wrong kind. -/
  directive? : Option Directive
  violation : Violation
deriving DecidableEq

namespace Finding

/-- The finding in words. -/
def message (finding : Finding) : String :=
  finding.violation.message finding.field

/-- Whether a directive that calls named checks found it. -/
def isCustom (finding : Finding) : Bool :=
  finding.directive?.any fun directive => directive.keyword = .custom

end Finding

/-- What a directive finds in a value of the field with a name. -/
def Directive.findings (directive : Directive) (field : String) (value : Value)
    (settings : Settings) (roster : Option Roster) : List Finding :=
  (directive.evaluate value settings roster settings.store).1.map (.mk field (some directive))

/-- What is found about a field, given the value that the record holds for it. -/
def Field.findings (field : Field) (held : Option Value) (settings : Settings)
    (roster : Option Roster) : List Finding :=
  if field.directives.isEmpty then []
  else
    match reconcile field.kind (held.getD field.kind.zero) with
    | .error _ => [⟨field.name, none, .wrongKind field.kind⟩]
    | .ok value =>
      field.directives.flatMap fun directive =>
        directive.findings field.name value settings roster

variable {Store : Type} [FieldStore Store]

/-- What is found about a record, in the order of fields and directives. -/
def findings (schema : Schema) (record : Store) (settings : Settings) (roster : Option Roster) :
    List Finding :=
  schema.fields.flatMap fun field =>
    field.findings (FieldStore.read? schema record field.name) settings roster

/-! ### Messages are findings in words -/

theorem Directive.map_message_findings (directive : Directive) (field : String) (value : Value)
    (settings : Settings) (roster : Option Roster) :
    (directive.findings field value settings roster).map Finding.message =
      directive.messages field value settings roster := by
  unfold findings messages
  rw [List.map_map]
  rfl

theorem Field.map_message_findings (field : Field) (held : Option Value) (settings : Settings)
    (roster : Option Roster) :
    (field.findings held settings roster).map Finding.message =
      field.messages held settings roster := by
  unfold findings messages
  split
  · rfl
  · cases reconcile field.kind (held.getD field.kind.zero) with
    | error mismatch =>
      exact congrArg (fun message => [message])
        (Violation.message_wrongKind field.name field.kind)
    | ok value =>
      show (field.directives.flatMap _).map Finding.message = _
      rw [List.map_flatMap]
      exact List.flatMap_congr fun directive _ =>
        directive.map_message_findings field.name value settings roster

/-- Enforcement puts the findings into words. -/
theorem enforce_eq_map_findings (schema : Schema) (record : Store) (settings : Settings)
    (roster : Option Roster) :
    enforce schema record settings roster =
      (findings schema record settings roster).map Finding.message := by
  unfold enforce findings
  rw [map_walk settings.accepts_store, List.map_flatMap]
  exact List.flatMap_congr fun field _ => (field.map_message_findings _ settings roster).symm

/-! ### Named checks -/

/-- There is a check with the name, and it accepts the raw text. -/
def Roster.Accepts (checks : Roster) (raw name : String) : Prop :=
  ∃ check, checks.find? name = some check ∧ check raw = none

theorem Directive.checked_eq_none_iff {checks : Roster} {raw name : String} :
    checked checks raw name = none ↔ checks.Accepts raw name := by
  unfold checked Roster.Accepts
  cases checks.find? name with
  | none => simp
  | some check => simp [Option.map_eq_none_iff]

/-- A directive that calls named checks is content with those that exist and accept. -/
theorem Directive.custom_eq_nil_iff {directive : Directive} {value : Value} {checks : Roster} :
    directive.custom value (some checks) = [] ↔
      ∀ name ∈ directive.argumentList, checks.Accepts value.raw (String.ofList name) := by
  unfold custom
  simp only [List.filterMap_eq_nil_iff, checked_eq_none_iff]

/-- Only directives that call named checks look at the roster. -/
theorem Directive.evaluate_roster {directive : Directive} (other : directive.keyword ≠ .custom)
    (value : Value) (settings : Settings) (first second : Option Roster) (store : PatternStore) :
    directive.evaluate value settings first store =
      directive.evaluate value settings second store := by
  unfold evaluate
  split
  case h_9 isCustom => exact absurd isCustom other
  all_goals rfl

theorem Directive.isCustom_of_mem_findings {directive : Directive} {field : String} {value : Value}
    {settings : Settings} {roster : Option Roster} {finding : Finding}
    (member : finding ∈ directive.findings field value settings roster) :
    finding.isCustom = decide (directive.keyword = .custom) := by
  obtain ⟨violation, _, rfl⟩ := List.mem_map.1 member
  rfl

/-- What a directive that calls named checks finds. -/
theorem Directive.findings_of_custom {directive : Directive} (isCustom : directive.keyword = .custom)
    (field : String) (value : Value) (settings : Settings) (roster : Option Roster) :
    directive.findings field value settings roster =
      (directive.custom value roster).map (.mk field (some directive)) := by
  unfold findings evaluate
  rw [isCustom]

/-- Without a roster a directive finds what it finds with one, unless it calls named checks. -/
theorem Directive.findings_none (directive : Directive) (field : String) (value : Value)
    (settings : Settings) (checks : Roster) :
    directive.findings field value settings none =
      (directive.findings field value settings (some checks)).filter (!·.isCustom) := by
  by_cases isCustom : directive.keyword = .custom
  · have dropped :
        (directive.findings field value settings (some checks)).filter (!·.isCustom) = [] := by
      refine List.filter_eq_nil_iff.2 fun finding member => ?_
      rw [isCustom_of_mem_findings member]
      simp [isCustom]
    rw [dropped, findings_of_custom isCustom]
    rfl
  · have kept : (directive.findings field value settings (some checks)).filter (!·.isCustom) =
        directive.findings field value settings (some checks) := by
      refine List.filter_eq_self.2 fun finding member => ?_
      rw [isCustom_of_mem_findings member]
      simp [isCustom]
    rw [kept]
    unfold findings
    rw [evaluate_roster isCustom value settings none (some checks)]

theorem Field.findings_none (field : Field) (held : Option Value) (settings : Settings)
    (checks : Roster) :
    field.findings held settings none =
      (field.findings held settings (some checks)).filter (!·.isCustom) := by
  unfold findings
  split
  · rfl
  · split
    · rfl
    · rw [List.filter_flatMap]
      exact List.flatMap_congr fun directive _ =>
        directive.findings_none field.name _ settings checks

/-- Without a roster the findings of named checks are missing, and no others. -/
theorem findings_none (schema : Schema) (record : Store) (settings : Settings) (checks : Roster) :
    findings schema record settings none =
      (findings schema record settings (some checks)).filter (!·.isCustom) := by
  unfold findings
  rw [List.filter_flatMap]
  exact List.flatMap_congr fun field _ => field.findings_none _ settings checks

/-- Every check that a record calls exists and accepts. Fields whose value is of the wrong kind
call none. -/
def PassesChecks (schema : Schema) (record : Store) (checks : Roster) : Prop :=
  ∀ field ∈ schema.fields, ∀ value,
    reconcile field.kind ((FieldStore.read? schema record field.name).getD field.kind.zero) =
        .ok value →
      ∀ directive ∈ field.directives, directive.keyword = .custom →
        ∀ name ∈ directive.argumentList, checks.Accepts value.raw (String.ofList name)

/-- A directive finds nothing through named checks exactly when each of them accepts. -/
theorem Directive.forall_mem_findings_iff {directive : Directive} {field : String} {value : Value}
    {settings : Settings} {checks : Roster} :
    (∀ finding ∈ directive.findings field value settings (some checks),
        finding.isCustom = false) ↔
      (directive.keyword = .custom →
        ∀ name ∈ directive.argumentList, checks.Accepts value.raw (String.ofList name)) := by
  rw [← custom_eq_nil_iff]
  constructor
  · intro silent isCustom
    rw [findings_of_custom isCustom] at silent
    refine List.eq_nil_iff_forall_not_mem.2 fun violation member => ?_
    have found := silent _ (List.mem_map_of_mem member)
    simp [Finding.isCustom, isCustom] at found
  · intro accepted finding member
    rw [isCustom_of_mem_findings member, decide_eq_false_iff_not]
    intro isCustom
    rw [findings_of_custom isCustom, accepted isCustom] at member
    cases member

theorem Field.forall_mem_findings_iff {field : Field} {held : Option Value} {settings : Settings}
    {checks : Roster} :
    (∀ finding ∈ field.findings held settings (some checks), finding.isCustom = false) ↔
      ∀ value, reconcile field.kind (held.getD field.kind.zero) = .ok value →
        ∀ directive ∈ field.directives, directive.keyword = .custom →
          ∀ name ∈ directive.argumentList, checks.Accepts value.raw (String.ofList name) := by
  unfold findings
  split
  · next unruled =>
    rw [List.isEmpty_iff.1 unruled]
    simp
  · cases reconcile field.kind (held.getD field.kind.zero) with
    | error mismatch => simp [Finding.isCustom]
    | ok value =>
      simp only [List.forall_mem_flatMap, Directive.forall_mem_findings_iff, Except.ok.injEq,
        forall_eq']

theorem forall_mem_findings_iff (schema : Schema) (record : Store) (settings : Settings)
    (checks : Roster) :
    (∀ finding ∈ findings schema record settings (some checks), finding.isCustom = false) ↔
      PassesChecks schema record checks := by
  unfold findings PassesChecks
  simp only [List.forall_mem_flatMap, Field.forall_mem_findings_iff]

/-- Every message of enforcement with named checks comes from a finding. Enforcement without them
yields the messages of the findings that no named check contributed, in the same order, and so a
sublist; and the two agree exactly when every check that is called exists and accepts. -/
theorem enforce_none_eq_of_findings (schema : Schema) (record : Store) (settings : Settings)
    (checks : Roster) :
    enforce schema record settings (some checks) =
        (findings schema record settings (some checks)).map Finding.message ∧
      enforce schema record settings none =
        ((findings schema record settings (some checks)).filter (!·.isCustom)).map
          Finding.message ∧
      (enforce schema record settings none).Sublist
        (enforce schema record settings (some checks)) ∧
      (enforce schema record settings none = enforce schema record settings (some checks) ↔
        PassesChecks schema record checks) := by
  have worded := enforce_eq_map_findings schema record settings (some checks)
  have erased : enforce schema record settings none =
      ((findings schema record settings (some checks)).filter (!·.isCustom)).map
        Finding.message := by
    rw [enforce_eq_map_findings, findings_none schema record settings checks]
  refine ⟨worded, erased, ?sublist, ?equal⟩
  case sublist =>
    rw [worded, erased]
    exact List.filter_sublist.map Finding.message
  case equal =>
    rw [worded, erased, ← forall_mem_findings_iff schema record settings checks]
    constructor
    · -- Messages may coincide, so it is their number that tells that nothing was left out.
      intro same
      have counted := congrArg List.length same
      rw [List.length_map, List.length_map, List.length_filter_eq_length_iff] at counted
      intro finding member
      simpa using counted finding member
    · intro silent
      rw [List.filter_eq_self.2 fun finding member => by simp [silent finding member]]

/-- A check says what a rule says: the text is reported twice with checks and once without. -/
example :
    let schema : Schema := ⟨"Guest", [⟨"age", .integer, "min:10 custom:adult max:8"⟩]⟩
    let record : TypedRecord := [("age", .integer 9)]
    let checks : Roster := [[("adult", fun _ => some "Field 'age' must be at least 10")]]
    enforce schema record .standard (some checks) =
        ["Field 'age' must be at least 10", "Field 'age' must be at least 10",
          "Field 'age' must be at most 8"] ∧
      enforce schema record .standard none =
        ["Field 'age' must be at least 10", "Field 'age' must be at most 8"] := by
  decide +kernel

end Rulebook
