/-
This file proves what layers of named checks contribute to an enforcement.

Enforcement asks its roster for the names that directives list, and for nothing else, so that two
rosters which find the same checks under these names are enforced alike. In particular layers that
are added behind a roster are never asked where the roster has a check for each name.

In general they are asked for the names that the roster does not have, and for these alone. A
finding that reports such a name gives way to what the new check says of the raw text: nothing, its
own message, or the message about a check that fails without a word. Every other finding stays
where it is.
-/
import Rulebook.Proofs.Enforcement.Findings
import Rulebook.Proofs.Rule.Roster
import Rulebook.Proofs.Rule.Wording

namespace Rulebook

/-! ### The names that are asked for -/

/-- The two rosters find the same under every name that a directive of the schema lists. -/
def Schema.AsksAlike (schema : Schema) (first second : Roster) : Prop :=
  ∀ field ∈ schema.fields, ∀ directive ∈ field.directives, directive.keyword = .custom →
    ∀ name ∈ directive.argumentList,
      first.find? (String.ofList name) = second.find? (String.ofList name)

/-- The roster has a check for every name that a directive of the schema lists. -/
def Schema.Resolves (schema : Schema) (roster : Roster) : Prop :=
  ∀ field ∈ schema.fields, ∀ directive ∈ field.directives, directive.keyword = .custom →
    ∀ name ∈ directive.argumentList, (roster.find? (String.ofList name)).isSome = true

instance (schema : Schema) (roster : Roster) : Decidable (schema.Resolves roster) :=
  inferInstanceAs (Decidable (∀ field ∈ schema.fields, ∀ directive ∈ field.directives, _))

theorem Schema.Resolves.asksAlike_append {schema : Schema} {roster : Roster}
    (resolves : schema.Resolves roster) (more : Roster) :
    schema.AsksAlike (roster ++ more) roster := by
  intro field member directive listed isCustom name asked
  obtain ⟨check, found⟩ :=
    Option.isSome_iff_exists.1 (resolves field member directive listed isCustom name asked)
  rw [Roster.find?_append, found]
  rfl

theorem Directive.findings_congr_roster {directive : Directive} {first second : Roster}
    (alike : directive.keyword = .custom → ∀ name ∈ directive.argumentList,
      first.find? (String.ofList name) = second.find? (String.ofList name))
    (field : String) (value : Value) (settings : Settings) :
    directive.findings field value settings (some first) =
      directive.findings field value settings (some second) := by
  by_cases isCustom : directive.keyword = .custom
  · rw [findings_of_custom isCustom, findings_of_custom isCustom]
    unfold custom checked
    refine congrArg _ (List.filterMap_congr fun name asked => ?_)
    rw [alike isCustom name asked]
  · unfold findings
    rw [evaluate_roster isCustom value settings (some first) (some second)]

section Records

variable {Store : Type} [FieldStore Store] {schema : Schema} {first second : Roster}

/-- Rosters that find the same under every listed name are enforced alike. -/
theorem Schema.AsksAlike.enforce_eq (alike : schema.AsksAlike first second) (record : Store)
    (settings : Settings) :
    enforce schema record settings (some first) = enforce schema record settings (some second) := by
  rw [enforce_eq_map_findings, enforce_eq_map_findings]
  unfold findings
  refine congrArg _ (List.flatMap_congr fun field member => ?_)
  unfold Field.findings
  split
  · rfl
  · split
    · rfl
    · exact List.flatMap_congr fun directive listed =>
        Directive.findings_congr_roster (alike field member directive listed) field.name _ settings

end Records

/-! ### The names that are missing -/

/-- What becomes of a violation when layers are added. A name without a check may have one now,
which then speaks for itself; everything else stays. -/
def Violation.resolved (more : Roster) (raw : String) : Violation → List Violation
  | .unknownCheck name =>
    match more.find? name with
    | none => [.unknownCheck name]
    | some check =>
      match check raw with
      | none => []
      | some message => [if message = "" then .failedCheck name else .reported message]
  | violation => [violation]

/-- What becomes of a finding when layers are added. -/
def Finding.resolved (more : Roster) (raw : String) (finding : Finding) : List Finding :=
  (finding.violation.resolved more raw).map fun violation => { finding with violation := violation }

/-- The raw text that the named checks of a field are given. -/
def Field.raw (field : Field) (held : Option Value) : String :=
  match reconcile field.kind (held.getD field.kind.zero) with
  | .error mismatch => mismatch.raw
  | .ok value => value.raw

theorem Violation.resolved_of_isOrdinary {violation : Violation}
    (ordinary : violation.isOrdinary = true) (more : Roster) (raw : String) :
    violation.resolved more raw = [violation] := by
  cases violation with
  | unknownCheck _ => cases ordinary
  | _ => rfl

variable {roster more : Roster}

/-- A check of the roster has the first word, and one of the added layers the second. -/
theorem Directive.toList_checked_append (raw name : String) :
    (checked (roster ++ more) raw name).toList =
      (checked roster raw name).toList.flatMap (Violation.resolved more raw) := by
  unfold checked
  rw [Roster.find?_append]
  cases roster.find? name with
  | none =>
    show _ = (Violation.unknownCheck name).resolved more raw ++ []
    unfold Violation.resolved
    rw [Option.none_or, List.append_nil]
    dsimp only
    cases more.find? name with
    | none => rfl
    | some check => cases said : check raw <;> simp [said]
  | some check =>
    rw [Option.some_or]
    dsimp only
    cases check raw with
    | none => rfl
    | some message =>
      simp only [Option.map_some, Option.toList_some, List.flatMap_singleton]
      split <;> rfl

theorem Directive.custom_append (directive : Directive) (value : Value) :
    directive.custom value (some (roster ++ more)) =
      (directive.custom value (some roster)).flatMap (Violation.resolved more value.raw) := by
  unfold custom
  simp only [List.filterMap_eq_flatMap_toList, List.flatMap_assoc, toList_checked_append]

theorem Directive.findings_append (directive : Directive) (field : String) (value : Value)
    (settings : Settings) :
    directive.findings field value settings (some (roster ++ more)) =
      (directive.findings field value settings (some roster)).flatMap
        (Finding.resolved more value.raw) := by
  by_cases isCustom : directive.keyword = .custom
  · rw [findings_of_custom isCustom, findings_of_custom isCustom, custom_append, List.flatMap_map,
      List.map_flatMap]
    rfl
  · unfold findings
    rw [evaluate_roster isCustom value settings (some (roster ++ more)) (some roster),
      List.flatMap_map, ← List.flatMap_pure_eq_map]
    refine List.flatMap_congr fun violation found => ?_
    have ordinary := List.all_eq_true.1 (isOrdinary_evaluate isCustom value settings (some roster)
      settings.store) violation found
    unfold Finding.resolved
    dsimp only
    rw [violation.resolved_of_isOrdinary ordinary]
    rfl

theorem Field.findings_append (field : Field) (held : Option Value) (settings : Settings) :
    field.findings held settings (some (roster ++ more)) =
      (field.findings held settings (some roster)).flatMap
        (Finding.resolved more (field.raw held)) := by
  unfold findings raw
  split
  · rfl
  · cases reconcile field.kind (held.getD field.kind.zero) with
    | error mismatch => rfl
    | ok value =>
      dsimp only
      rw [List.flatMap_assoc]
      exact List.flatMap_congr fun directive _ =>
        directive.findings_append field.name value settings

/-! ### Whole records -/

/-- A roster is a list of layers, each of which comes from inserting checks. The check of a name is
the last one of this name in the first layer that has one, and it is the one that a single layer
holds into which all checks are inserted, those of the last layer first. Layers that are added
behind a roster change nothing about a record if the roster has a check for every name that is
listed. In any case they change the findings about it only where a name has no check in the roster
and has one in them: there the finding gives way to what this check says of the raw text of the
field. -/
theorem enforce_append_layers :
    (∀ (histories : List (List (String × Check))) (name : String),
        let roster : Roster := histories.map Entries.ofPairs
        (∀ check, roster.find? name = some check ↔
          ∃ earlier history later, histories = earlier ++ history :: later ∧
            (∀ other ∈ earlier, name ∉ other.map Prod.fst) ∧
            Entries.IsLast history name check) ∧
          Entries.find? (Entries.ofPairs roster.reverse.flatten) name = roster.find? name) ∧
      ∀ {Store : Type} [FieldStore Store] (schema : Schema) (record : Store) (settings : Settings)
        (roster more : Roster),
        (schema.Resolves roster →
          enforce schema record settings (some (roster ++ more)) =
            enforce schema record settings (some roster)) ∧
          enforce schema record settings (some roster) =
            (schema.fields.flatMap fun field =>
              field.findings (FieldStore.read? schema record field.name) settings
                (some roster)).map Finding.message ∧
          enforce schema record settings (some (roster ++ more)) =
            (schema.fields.flatMap fun field =>
              (field.findings (FieldStore.read? schema record field.name) settings
                (some roster)).flatMap (Finding.resolved more
                  (field.raw (FieldStore.read? schema record field.name)))).map
              Finding.message := by
  refine ⟨fun histories name => ⟨fun check => Roster.find?_eq_some_iff, ?merged⟩, ?_⟩
  case merged =>
    refine Roster.find?_merged (fun layer member => ?_) name
    obtain ⟨history, _, rfl⟩ := List.mem_map.1 member
    exact Entries.ascending_ofPairs history
  intro Store _ schema record settings roster more
  refine ⟨fun resolves => (resolves.asksAlike_append more).enforce_eq record settings,
    enforce_eq_map_findings schema record settings (some roster), ?_⟩
  rw [enforce_eq_map_findings]
  unfold findings
  exact congrArg _ (List.flatMap_congr fun field _ => field.findings_append _ settings)

/-- A check that accepts behind one that fails, and a check that fails without a word behind a name
that is missing. -/
theorem enforce_append_layers_guest :
    let schema : Schema := ⟨"Guest", [⟨"age", .integer, "min:10 custom:even,adult"⟩]⟩
    let record : TypedRecord := [("age", .integer 9)]
    let first : CheckLayer := Entries.ofPairs
      [("even", fun _ => none), ("even", fun raw => some (raw ++ " is odd"))]
    let second : CheckLayer :=
      Entries.ofPairs [("adult", fun _ => some ""), ("even", fun _ => none)]
    schema.Resolves [first, second] ∧
      enforce schema record .standard (some [first, second, []]) =
        enforce schema record .standard (some [first, second]) ∧
      enforce schema record .standard (some [first]) =
        ["Field 'age' must be at least 10", "9 is odd",
          "Custom enforcement 'adult' not found for field 'age'"] ∧
      enforce schema record .standard (some [first, second]) =
        ["Field 'age' must be at least 10", "9 is odd",
          "Field 'age' failed custom enforcement 'adult'"] := by
  intro schema record first second
  have resolves : schema.Resolves [first, second] := by decide +kernel
  exact ⟨resolves,
    (enforce_append_layers.2 schema record .standard [first, second] [[]]).1 resolves,
    by decide +kernel, by decide +kernel⟩

end Rulebook
