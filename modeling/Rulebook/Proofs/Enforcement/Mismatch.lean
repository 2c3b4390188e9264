/-
This file proves which JSON values of a text field are reported as being of the wrong kind.

Coercion compares kinds, so a JSON value is reported when it comes with a kind of its own. A
number does, and so does an object. There is no kind for booleans and arrays, however: they come
as the text that they are written as in JSON, which cannot be told from a string. So of the
values that are neither null nor a string just the numbers and the objects are reported, and
then nothing else is said of the field; a boolean or an array has the directives applied to its
JSON text.
-/
import Rulebook.Proofs.Default.Pass
import Rulebook.Proofs.Enforcement.Findings

namespace Rulebook

/-! ### The findings of one field -/

theorem Field.field_of_mem_findings {field : Field} {held : Option Value} {settings : Settings}
    {roster : Option Roster} {finding : Finding}
    (member : finding ∈ field.findings held settings roster) : finding.field = field.name := by
  unfold findings at member
  split at member
  · cases member
  · cases coerced : reconcile field.kind (held.getD field.kind.zero) with
    | error mismatch =>
      rw [coerced] at member
      exact congrArg Finding.field (List.mem_singleton.1 member)
    | ok value =>
      rw [coerced] at member
      obtain ⟨directive, _, found⟩ := List.mem_flatMap.1 member
      obtain ⟨violation, _, rfl⟩ := List.mem_map.1 found
      rfl

/-- What is found about a record under the name of a field is what is found about the field, when
the names are distinct. -/
theorem filter_findings_eq {Store : Type} [FieldStore Store] {schema : Schema} {field : Field}
    (distinct : schema.HasDistinctNames) (declared : field ∈ schema.fields) (record : Store)
    (settings : Settings) (roster : Option Roster) :
    (findings schema record settings roster).filter (·.field = field.name) =
      field.findings (FieldStore.read? schema record field.name) settings roster := by
  obtain ⟨before, after, split, notBefore, notAfter⟩ := distinct.exists_append declared
  have elsewhere (others : List Field) (apart : field.name ∉ others.map Field.name) :
      (others.flatMap fun other =>
        (other.findings (FieldStore.read? schema record other.name) settings roster).filter
          (·.field = field.name)) = [] := by
    refine List.flatMap_eq_nil_iff.2 fun other member =>
      List.filter_eq_nil_iff.2 fun finding found same => apart ?_
    rw [decide_eq_true_eq, other.field_of_mem_findings found] at same
    exact same ▸ List.mem_map_of_mem member
  have here : (field.findings (FieldStore.read? schema record field.name) settings
      roster).filter (·.field = field.name) =
        field.findings (FieldStore.read? schema record field.name) settings roster :=
    List.filter_eq_self.2 fun finding found =>
      decide_eq_true (field.field_of_mem_findings found)
  unfold findings
  rw [List.filter_flatMap, split, List.flatMap_append, List.flatMap_cons, elsewhere before notBefore,
    elsewhere after notAfter, here, List.nil_append, List.append_nil]

/-! ### Kinds of JSON values -/

/-- For a text field every JSON value is taken as it is by itself. -/
theorem Value.ofJson_text (json : Json) : ofJson .text (some json) = json.toValue := by
  cases json with
  | number value => cases value <;> rfl
  | _ => rfl

/-- Nothing is made a text that is none. -/
theorem reconcile_text_of_ne {value : Value} (other : value.kind ≠ .text) :
    reconcile .text value = .error value := by
  unfold reconcile
  rw [if_neg other]
  cases value with
  | text content => exact absurd rfl other
  | _ => rfl

/-- JSON values with a kind of their own, other than text. -/
inductive Json.HasOwnKind : Json → Prop where
  | number (value : JsonNumber) : HasOwnKind (.number value)
  | object (members : List (String × Json)) : HasOwnKind (.object members)

theorem Json.kind_toValue_ne_text_iff {json : Json} :
    json.toValue.kind ≠ .text ↔ json.HasOwnKind := by
  constructor
  · intro other
    cases json with
    | number value => exact .number value
    | object members => exact .object members
    | _ => exact absurd rfl other
  · intro own
    cases own with
    | number value =>
      cases value with
      | whole value fits =>
        show (if value < 2 ^ 63 then Value.integer (.ofInt value)
          else .unsigned (.ofNat value.toNat)).kind ≠ .text
        split <;> exact Kind.noConfusion
      | double value finite => exact Kind.noConfusion
    | object members => exact Kind.noConfusion

/-! ### Text fields -/

/-- What is found about a text field of a JSON object that has a member for it. -/
theorem Field.findings_text {field : Field} (isText : field.kind = .text)
    (ruled : field.directives ≠ []) (json : Json) (settings : Settings)
    (roster : Option Roster) :
    field.findings (some (.ofJson field.kind (some json))) settings roster =
      if json.toValue.kind = .text then
        field.directives.flatMap fun directive =>
          directive.findings field.name json.toValue settings roster
      else [⟨field.name, none, .wrongKind .text⟩] := by
  unfold findings
  rw [if_neg (by simpa using ruled), Option.getD_some, isText, Value.ofJson_text]
  by_cases same : json.toValue.kind = .text
  · rw [reconcile_of_kind same, if_pos same]
  · rw [reconcile_text_of_ne same, if_neg same]

/-- What directives find comes with a directive, unlike a value of the wrong kind. -/
theorem flatMap_findings_ne (directives : List Directive) (name : String) (value : Value)
    (settings : Settings) (roster : Option Roster) :
    (directives.flatMap fun directive => directive.findings name value settings roster) ≠
      [⟨name, none, .wrongKind .text⟩] := by
  intro same
  have member : (⟨name, none, .wrongKind .text⟩ : Finding) ∈
      directives.flatMap fun directive => directive.findings name value settings roster :=
    same ▸ List.mem_singleton_self _
  obtain ⟨directive, _, found⟩ := List.mem_flatMap.1 member
  obtain ⟨violation, _, traced⟩ := List.mem_map.1 found
  cases traced

variable {schema : Schema} {field : Field} {record : JsonRecord} {json : Json}

/-- The messages of enforcement are its findings in words. A text field with directives for which
the object has a member is reported as being of the wrong kind, with nothing else found about it,
exactly when the member is a number or an object; a boolean or an array has every directive
applied to its JSON text. -/
theorem findings_text_eq_wrongKind_iff (distinct : schema.HasDistinctNames)
    (declared : field ∈ schema.fields) (isText : field.kind = .text)
    (ruled : field.directives ≠ []) (held : Entries.find? record field.name = some json)
    (settings : Settings) (roster : Option Roster) :
    enforce schema record settings roster =
        (findings schema record settings roster).map Finding.message ∧
      ((findings schema record settings roster).filter (·.field = field.name) =
          [⟨field.name, none, .wrongKind .text⟩] ↔ json.HasOwnKind) ∧
      ((∃ flag, json = .bool flag) ∨ (∃ items, json = .array items) →
        (findings schema record settings roster).filter (·.field = field.name) =
          field.directives.flatMap fun directive =>
            directive.findings field.name (.text (String.ofList json.compact)) settings
              roster) := by
  have block := filter_findings_eq distinct declared record settings roster
  rw [read?_json_of_find? (Schema.find?_name distinct declared), held,
    Field.findings_text isText ruled] at block
  refine ⟨enforce_eq_map_findings schema record settings roster, ?reported, ?enforced⟩
  case reported =>
    rw [block, ← Json.kind_toValue_ne_text_iff]
    split
    · next same =>
      exact iff_of_false (flatMap_findings_ne _ _ _ _ _) (not_not_intro same)
    · next other => exact iff_of_true rfl other
  case enforced =>
    rintro (⟨flag, rfl⟩ | ⟨items, rfl⟩)
    all_goals
      rw [block]
      exact if_pos rfl

/-- A number too large for the signed kind, beside an array. -/
theorem findings_text_eq_wrongKind_large :
    let schema : Schema := ⟨"Guest", [⟨"name", .text, "required max:3"⟩, ⟨"tags", .text, "max:3"⟩]⟩
    let large : Json := .number (.whole (2 ^ 63) (by decide))
    let record : JsonRecord := [("name", large), ("tags", .array [.null])]
    schema.HasDistinctNames ∧ (⟨"name", .text, "required max:3"⟩ : Field).directives ≠ [] ∧
      Entries.find? record "name" = some large ∧
      (findings schema record .standard none).filter (·.field = "name") =
        [⟨"name", none, .wrongKind .text⟩] ∧
      enforce schema record .standard none =
        ["Field 'name' must be of kind text", "Field 'tags' must be at most 3 characters long"] := by
  intro schema large record
  have distinct : schema.HasDistinctNames := by decide
  have ruled : (⟨"name", .text, "required max:3"⟩ : Field).directives ≠ [] := by decide +kernel
  have found := findings_text_eq_wrongKind_iff distinct
    (show (⟨"name", .text, "required max:3"⟩ : Field) ∈ schema.fields from List.mem_cons_self) rfl
    ruled (show Entries.find? record "name" = some large from rfl) .standard none
  exact ⟨distinct, ruled, rfl, found.2.1.2 (.number _), by decide +kernel⟩

/-- A boolean in a text field passes for a text, and so does an array. -/
theorem boolean_not_reported :
    let schema : Schema := ⟨"Guest", [⟨"name", .text, "required"⟩, ⟨"tags", .text, "max:7"⟩]⟩
    let record : JsonRecord := [("name", .bool true), ("tags", .array [.string "a"])]
    schema.HasDistinctNames ∧ (∀ field ∈ schema.fields, field.directives ≠ []) ∧
      "Field 'name' must be of kind text" ∉ enforce schema record .standard none ∧
      "Field 'tags' must be of kind text" ∉ enforce schema record .standard none := by
  intro schema record
  have silent : enforce schema record .standard none = [] := by decide +kernel
  refine ⟨by decide, by decide +kernel, ?_, ?_⟩
  all_goals
    rw [silent]
    exact List.not_mem_nil

end Rulebook
