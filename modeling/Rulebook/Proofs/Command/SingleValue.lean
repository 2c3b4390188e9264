/-
This file proves that the command for single values reads a text as a record reads a string.

The command brings the text in line with the kind before it enforces any rules, and a text that
does not fit ends it as bad input. A JSON object that holds the text as a string is enforced to the
end, and a string that does not fit comes out as a message. The message is one that no rule words,
so that it stands alone exactly where the command ends for its input; in all other cases the two
have the same violations, and the command succeeds where the object has none.
-/
import Rulebook.Command.Run
import Rulebook.Proofs.Coercion.Text
import Rulebook.Proofs.Enforcement.Single
import Rulebook.Proofs.Rule.Wording

namespace Rulebook

section OneField

variable {content name subject rules : String} {kind : Kind} {settings : Settings}
  {roster : Option Roster}

/-- A JSON object whose one field holds a string has the violations of the text. -/
theorem enforce_string_eq_map_violations (ruled : readRules rules ≠ []) :
    enforce (⟨subject, [⟨name, kind, rules⟩]⟩ : Schema) ([(name, .string content)] : JsonRecord)
        settings roster =
      (violations kind (.text content) (readRules rules) settings roster settings.store).1.map
        (Violation.message name) := by
  have held : FieldStore.read? (⟨subject, [⟨name, kind, rules⟩]⟩ : Schema)
      ([(name, .string content)] : JsonRecord) name =
        some (.ofJson kind (some (.string content))) := by
    simp [FieldStore.read?, Schema.find?, Entries.find?]
  rw [enforce_eq_map_violations_of_ruled rfl held ruled]
  unfold violations
  rw [reconcile_ofJson_string]

/-- A text that does not fit is reported in one message. -/
theorem enforce_string_of_error {mismatch : Value} (ruled : readRules rules ≠ [])
    (failed : reconcile kind (.text content) = .error mismatch) :
    enforce (⟨subject, [⟨name, kind, rules⟩]⟩ : Schema) ([(name, .string content)] : JsonRecord)
        settings roster = ["Field '" ++ name ++ "' must be of kind " ++ kind.name] := by
  rw [enforce_string_eq_map_violations ruled, ← Violation.message_wrongKind]
  unfold violations
  rw [failed]
  rfl

/-- The rules report nothing about a text that fits in the words for one that does not. -/
theorem wrongKind_notMem_enforce_string {value : Value} (ruled : readRules rules ≠ [])
    (fits : reconcile kind (.text content) = .ok value) :
    "Field '" ++ name ++ "' must be of kind " ++ kind.name ∉
      enforce (⟨subject, [⟨name, kind, rules⟩]⟩ : Schema)
        ([(name, .string content)] : JsonRecord) settings none := by
  rw [enforce_string_eq_map_violations ruled, ← Violation.message_wrongKind]
  exact wrongKind_notMem_violations fits (readRules rules) settings settings.store name

/-- A text that fits has violations in a field exactly when its value has some by itself. -/
theorem enforceValue_eq_nil_iff_of_ok {value : Value} (ruled : readRules rules ≠ [])
    (fits : reconcile kind (.text content) = .ok value) :
    enforceValue value rules settings roster = [] ↔
      enforce (⟨subject, [⟨name, kind, rules⟩]⟩ : Schema)
        ([(name, .string content)] : JsonRecord) settings roster = [] := by
  rw [enforce_string_eq_map_violations ruled]
  unfold enforceValue
  rw [violations_kind, List.map_eq_nil_iff, List.map_eq_nil_iff]
  unfold violations
  rw [fits]

end OneField

namespace Command

/-! ### The command -/

theorem outcome_value_of_error {content : String} {kind : Kind} {mismatch : Value}
    (failed : reconcile kind (.text content) = .error mismatch) (files : String → Found)
    (now : Instant) (rules : String) (form : OutputForm) :
    (Task.value content rules kind form).outcome files now =
      .error (.badInput ("'" ++ content ++ "' is not a valid " ++ kind.name ++ " value")) := by
  have refused : readValue content kind =
      .error (.badInput ("'" ++ content ++ "' is not a valid " ++ kind.name ++ " value")) := by
    unfold readValue
    rw [failed]
    rfl
  show readValue content kind >>= _ = _
  rw [refused]
  rfl

theorem outcome_value_of_ok {content : String} {kind : Kind} {value : Value}
    (fits : reconcile kind (.text content) = .ok value) (files : String → Found)
    (now : Instant) (rules : String) (form : OutputForm) :
    (Task.value content rules kind form).outcome files now =
      .ok (.enforced ⟨"value", enforceValue value rules .standard none, []⟩) := by
  have accepted : readValue content kind = .ok value := by
    unfold readValue
    rw [fits]
    rfl
  show readValue content kind >>= _ = _
  rw [accepted]
  rfl

theorem code_ofMessages_eq_zero_iff {messages : List String} :
    (Exit.ofMessages messages).code = 0 ↔ messages = [] := by
  unfold Exit.ofMessages
  cases messages <;> simp [Exit.code]

/-- A JSON string in a field and the text on the command line come to the same value of the field's
kind, or the text is handed back. So a run on a single value ends as bad input exactly when a JSON
object whose one field holds the string has the message about the kind and no other, and a run that
does not ends with the code 0 exactly when the object has no message at all. -/
theorem run_value_agrees_with_enforce (content : String) (kind : Kind) :
    reconcile kind (.ofJson kind (some (.string content))) = reconcile kind (.text content) ∧
      (∀ mismatch, reconcile kind (.text content) = .error mismatch →
        mismatch = .text content) ∧
      ∀ (name subject rules : String), readRules rules ≠ [] →
        ∀ (files : String → Found) (now : Instant) (inColour : Bool) (invocation : Invocation)
          (form : OutputForm), invocation.task = .value content rules kind form →
          let found := enforce (⟨subject, [⟨name, kind, rules⟩]⟩ : Schema)
            ([(name, .string content)] : JsonRecord) .standard none
          let isBadInput := ∃ reason, invocation.task.outcome files now = .error (.badInput reason)
          (isBadInput ↔ found = ["Field '" ++ name ++ "' must be of kind " ++ kind.name]) ∧
            (¬ isBadInput →
              ((run files now inColour invocation).exit.code = 0 ↔ found = [])) := by
  refine ⟨reconcile_ofJson_string kind content, fun mismatch => eq_of_reconcile_eq_error, ?_⟩
  intro name subject rules ruled files now inColour invocation form task found isBadInput
  cases matched : reconcile kind (.text content) with
  | error mismatch =>
    have ended := outcome_value_of_error matched files now rules form
    have badInput : isBadInput := ⟨_, task ▸ ended⟩
    exact ⟨iff_of_true badInput (enforce_string_of_error ruled matched),
      fun other => absurd badInput other⟩
  | ok value =>
    have ended := outcome_value_of_ok matched files now rules form
    rw [← task] at ended
    have notBadInput : ¬ isBadInput := by
      rintro ⟨reason, failed⟩
      rw [ended] at failed
      cases failed
    have unreported : "Field '" ++ name ++ "' must be of kind " ++ kind.name ∉ found :=
      wrongKind_notMem_enforce_string ruled matched
    refine ⟨iff_of_false notBadInput fun alone => unreported ?_, fun _ => ?_⟩
    · rw [alone]
      exact List.mem_singleton_self _
    · have exit : (run files now inColour invocation).exit =
          .ofMessages (enforceValue value rules .standard none) := by
        unfold run
        rw [ended]
        rfl
      rw [exit, code_ofMessages_eq_zero_iff]
      exact enforceValue_eq_nil_iff_of_ok ruled matched

/-- A time between blanks, and a word for a whole number. -/
theorem run_value_agrees_with_enforce_words :
    let rules := "required"
    let invocation (content : String) (kind : Kind) : Invocation :=
      ⟨.value content rules kind .json, 0, true⟩
    let exit (content : String) (kind : Kind) : Exit :=
      (run (fun _ => .nothing) .epoch false (invocation content kind)).exit
    let found (content : String) (kind : Kind) : List String :=
      enforce (⟨"Guest", [⟨"field", kind, rules⟩]⟩ : Schema)
        ([("field", .string content)] : JsonRecord) .standard none
    readRules rules ≠ [] ∧
      (exit "\t2024-01-02T03:04:05Z " .temporal).code = 0 ∧
      found "\t2024-01-02T03:04:05Z " .temporal = [] ∧
      found "forty" .integer = ["Field 'field' must be of kind integer"] ∧
      ∃ reason, (invocation "forty" .integer).task.outcome (fun _ => .nothing) .epoch =
        .error (.badInput reason) := by
  intro rules invocation exit found
  have ruled : readRules rules ≠ [] := by decide +kernel
  have time := (run_value_agrees_with_enforce "\t2024-01-02T03:04:05Z " .temporal).2.2 "field"
    "Guest" rules ruled (fun _ => .nothing) .epoch false (invocation _ .temporal) .json rfl
  have word := (run_value_agrees_with_enforce "forty" .integer).2.2 "field"
    "Guest" rules ruled (fun _ => .nothing) .epoch false (invocation _ .integer) .json rfl
  have silent : enforce (⟨"Guest", [⟨"field", .temporal, "required"⟩]⟩ : Schema)
      ([("field", .string "\t2024-01-02T03:04:05Z ")] : JsonRecord) .standard none = [] := by
    decide +kernel
  have reported : found "forty" .integer = ["Field 'field' must be of kind integer"] := by
    decide +kernel
  refine ⟨ruled, (time.2 fun badInput => ?_).2 silent, silent, reported, word.1.2 reported⟩
  exact List.cons_ne_nil _ _ ((time.1.1 badInput).symm.trans silent)

end Command

end Rulebook
