/-
This file proves how texts are brought in line with a kind, and that it makes no difference whether
they come as they are or as JSON strings.

The two ways read a text at different stages. A JSON string in a field for times is read as a time
before coercion, and it stays a text if it is none; every other text is read by coercion. In the end
the same value comes out, or the text is handed back.
-/
import Rulebook.Coercion
import Rulebook.Json.Field

namespace Rulebook

/-! ### What comes out -/

/-- What coercion gives is of the declared kind. -/
theorem kind_of_reconcile {declared : Kind} {held value : Value}
    (matched : reconcile declared held = .ok value) : value.kind = declared := by
  unfold reconcile at matched
  split at matched
  · next same =>
    cases matched
    exact same
  · split at matched
    · next converted given =>
      cases matched
      cases held with
      | text content =>
        unfold convert? at given
        dsimp only at given
        split at given
        · cases given
          exact declared.kind_zero
        · cases declared with
          | text => cases given
          | nested => cases given
          | _ =>
            obtain ⟨_, _, rfl⟩ := Option.map_eq_some_iff.1 given
            rfl
      | integer number =>
        cases declared with
        | unsigned =>
          obtain ⟨_, _, rfl⟩ := Option.map_eq_some_iff.1 given
          rfl
        | float =>
          cases given
          rfl
        | _ => cases given
      | unsigned number =>
        cases declared with
        | integer =>
          obtain ⟨_, _, rfl⟩ := Option.map_eq_some_iff.1 given
          rfl
        | float =>
          cases given
          rfl
        | _ => cases given
      | _ => cases given
    · cases matched

/-- A value that does not fit is handed back. -/
theorem eq_of_reconcile_eq_error {declared : Kind} {held mismatch : Value}
    (failed : reconcile declared held = .error mismatch) : mismatch = held := by
  unfold reconcile at failed
  split at failed
  · cases failed
  · split at failed
    · cases failed
    · cases failed
      rfl

/-! ### Times -/

theorem reconcile_temporal_text {content : String} (nonempty : content ≠ "") :
    reconcile .temporal (.text content) =
      match Instant.read? content.toList with
      | some instant => .ok (.temporal (some instant))
      | none => .error (.text content) := by
  have mismatch : (Value.text content).kind ≠ .temporal := Kind.noConfusion
  have converted : convert? .temporal (.text content) = readAs? .temporal content.toList :=
    if_neg fun blank => nonempty blank.1
  unfold reconcile
  rw [if_neg mismatch, converted]
  unfold readAs?
  cases Instant.read? content.toList <;> rfl

/-! ### JSON strings -/

theorem Value.ofJson_temporal_string (content : String) :
    ofJson .temporal (some (.string content)) =
      match Instant.read? content.toList with
      | some instant => .temporal (some instant)
      | none => .text content := rfl

/-- Coercion makes the same of a JSON string and of its content. -/
theorem reconcile_ofJson_string (declared : Kind) (content : String) :
    reconcile declared (.ofJson declared (some (.string content))) =
      reconcile declared (.text content) := by
  cases declared with
  | temporal =>
    rw [Value.ofJson_temporal_string]
    by_cases empty : content = ""
    · subst empty
      rfl
    · cases read : Instant.read? content.toList with
      | none => rfl
      | some instant =>
        rw [reconcile_temporal_text empty, read]
        exact reconcile_of_kind rfl
  | _ => rfl

end Rulebook
