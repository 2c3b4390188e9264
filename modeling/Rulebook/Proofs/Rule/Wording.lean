/-
This file proves that the message about a value of the wrong kind cannot be mistaken.

A text says nothing about where it comes from, and a named check may say whatever it likes. But
the rules of the library have words of their own. No message of theirs is the one that reports a
value of the wrong kind, whatever the field is called and whatever arguments are quoted. Without a
roster no others are found, so that this message alone tells that coercion has failed.
-/
import Rulebook.Enforcement
import Rulebook.Proofs.Rule.Measured
import Mathlib.Data.List.Basic

namespace Rulebook

/-- Whether a rule of the library finds the violation and words it. The two others are a value of
the wrong kind, and what a named check says in its own words. -/
def Violation.isBuiltIn : Violation → Bool
  | wrongKind _ => false
  | reported _ => false
  | _ => true

/-- Whether a rule that calls no named check finds the violation. -/
def Violation.isOrdinary : Violation → Bool
  | wrongKind _ => false
  | failedCheck _ => false
  | reported _ => false
  | unknownCheck _ => false
  | _ => true

theorem Violation.isBuiltIn_of_isOrdinary {violation : Violation}
    (ordinary : violation.isOrdinary = true) : violation.isBuiltIn = true := by
  cases violation with
  | wrongKind _ => cases ordinary
  | reported _ => cases ordinary
  | _ => rfl

/-! ### What the rules find -/

section Rules

variable {directive : Directive} {value : Value}

theorem all_reportUnless {holds : Bool} {violation : Violation}
    (ordinary : violation.isOrdinary = true) :
    (reportUnless holds violation).all Violation.isOrdinary = true := by
  unfold reportUnless
  split
  · rfl
  · exact ordinary

theorem Directive.isOrdinary_wordCount :
    (directive.wordCount value).all Violation.isOrdinary = true := by
  unfold wordCount
  cases directive.pair? with
  | none => rfl
  | some bounds =>
    dsimp only
    split <;> rfl

theorem Directive.isOrdinary_looksLike (store : PatternStore) :
    (directive.looksLike value store).1.all Violation.isOrdinary = true := by
  unfold looksLike
  split
  · exact all_reportUnless rfl
  · exact all_reportUnless rfl
  · exact all_reportUnless rfl
  · rfl
  · dsimp only
    split
    · exact all_reportUnless rfl
    · rfl

theorem Directive.isOrdinary_unreadable {report : String → Violation}
    (ordinary : ∀ candidate, (report candidate).isOrdinary = true)
    (candidates : List (List Char)) :
    (unreadable value report candidates).all Violation.isOrdinary = true := by
  unfold unreadable
  simp only [List.all_eq_true, List.mem_filterMap]
  rintro violation ⟨candidate, _, given⟩
  split at given
  · cases given
    exact ordinary _
  · cases given

theorem Directive.isOrdinary_oneOf : (directive.oneOf value).all Violation.isOrdinary = true := by
  unfold oneOf
  dsimp only
  split
  · rfl
  · rw [List.all_append, isOrdinary_unreadable fun _ => rfl, Bool.true_and]
    split <;> rfl

theorem Directive.isOrdinary_exclusions (found : Bool) (candidates : List (List Char)) :
    (exclusions value found candidates).all Violation.isOrdinary = true := by
  induction candidates generalizing found with
  | nil => rfl
  | cons candidate rest induction =>
    unfold exclusions
    split
    · split
      · exact induction true
      · exact induction true
    · exact induction found
    · exact induction found

theorem Directive.isOrdinary_noneOf : (directive.noneOf value).all Violation.isOrdinary = true := by
  unfold noneOf
  split
  · rfl
  · exact isOrdinary_exclusions false _

/-- A directive that calls no named checks finds what its own rule finds, with and without a
roster. -/
theorem Directive.isOrdinary_evaluate {directive : Directive} (other : directive.keyword ≠ .custom)
    (value : Value) (settings : Settings) (roster : Option Roster) (store : PatternStore) :
    (directive.evaluate value settings roster store).1.all Violation.isOrdinary = true := by
  unfold evaluate
  cases keyword : directive.keyword with
  | required =>
    rw [Option.all_toList]
    exact all_reportUnless rfl
  | between =>
    rw [Option.all_toList, between_eq_measured]
    exact all_measured rfl rfl fun _ _ => rfl
  | minimum =>
    rw [Option.all_toList, minimum_eq_measured]
    exact all_measured rfl rfl fun _ _ => rfl
  | maximum =>
    rw [Option.all_toList, maximum_eq_measured]
    exact all_measured rfl rfl fun _ _ => rfl
  | pattern => exact (Option.all_toList _ _).trans (isOrdinary_looksLike store)
  | oneOf => exact isOrdinary_oneOf
  | noneOf => exact isOrdinary_noneOf
  | wordCount => exact (Option.all_toList _ _).trans isOrdinary_wordCount
  | custom => exact absurd keyword other
  | unknown =>
    dsimp only
    split <;> rfl
  | _ => rfl

/-- Without a roster a directive finds only what a rule of the library words. -/
theorem Directive.isBuiltIn_evaluate (directive : Directive) (value : Value) (settings : Settings)
    (store : PatternStore) :
    (directive.evaluate value settings none store).1.all Violation.isBuiltIn = true := by
  by_cases isCustom : directive.keyword = .custom
  · unfold evaluate
    rw [isCustom]
    rfl
  · rw [List.all_eq_true]
    intro violation found
    exact Violation.isBuiltIn_of_isOrdinary (List.all_eq_true.1
      (isOrdinary_evaluate isCustom value settings none store) violation found)

/-- Without a roster directives find only what the rules of the library word. -/
theorem isBuiltIn_evaluateAll (value : Value) (settings : Settings) (store : PatternStore)
    (directives : List Directive) :
    (evaluateAll value settings none store directives).1.all Violation.isBuiltIn = true := by
  induction directives generalizing store with
  | nil => rfl
  | cons directive rest induction =>
    unfold evaluateAll
    rw [List.all_append, directive.isBuiltIn_evaluate value settings store, induction]
    rfl

end Rules

/-! ### What the rules say -/

/-- A rule of the library never words a violation as a value of the wrong kind is worded. -/
theorem Violation.message_ne_wrongKind {violation : Violation}
    (builtIn : violation.isBuiltIn = true) (field : String) (declared : Kind) :
    violation.message field ≠ (wrongKind declared).message field := by
  cases violation with
  | wrongKind _ => cases builtIn
  | reported _ => cases builtIn
  | _ =>
    -- The letters after the name of the field tell them apart, or the very first letter.
    unfold message subject
    simp [← String.toList_inj]

/-- Without a roster nothing is found in a value that fits in the words for one that does not. -/
theorem wrongKind_notMem_violations {declared : Kind} {held value : Value}
    (fits : reconcile declared held = .ok value) (directives : List Directive)
    (settings : Settings) (store : PatternStore) (field : String) :
    (Violation.wrongKind declared).message field ∉
      (violations declared held directives settings none store).1.map
        (Violation.message field) := by
  unfold violations
  rw [fits]
  intro reported
  obtain ⟨violation, found, worded⟩ := List.mem_map.1 reported
  have builtIn := List.all_eq_true.1 (isBuiltIn_evaluateAll value settings store directives)
    violation found
  exact violation.message_ne_wrongKind builtIn field declared worded

end Rulebook
