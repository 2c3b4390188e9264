/-
This file proves that bounds are exact and inclusive when single values are enforced.

A rule text of one directive has the messages of this directive, so that it is enough to know when
a value reaches a lower bound and keeps an upper bound. A range agrees with its two bounds taken by
themselves, for values of every kind: also for what is not a number, which is outside of every
bound, and for times and nested values, which have no measure.
-/
import Rulebook.Proofs.Enforcement.Single
import Rulebook.Proofs.Rule.Bounds

namespace Rulebook

open Number

variable {value : Value} {settings : Settings} {roster : Option Roster}

/-- A rule text of one directive has the messages of this directive. -/
theorem enforceValue_of_readRules {rules : String} {directive : Directive}
    (read : readRules rules = [directive]) :
    enforceValue value rules settings roster =
      (directive.evaluate value settings roster settings.store).1.map
        fun violation => withoutEmptyName (violation.message "") := by
  rw [enforceValue_eq_flatMap, read, List.flatMap_singleton]
  unfold Directive.messages
  rw [List.map_map]
  rfl

theorem enforceValue_eq_nil_iff {rules : String} {directive : Directive}
    (read : readRules rules = [directive]) :
    enforceValue value rules settings roster = [] ↔
      (directive.evaluate value settings roster settings.store).1 = [] := by
  rw [enforceValue_of_readRules read, List.map_eq_nil_iff]

/-- A range has one message at most. -/
theorem enforceValue_eq_nil_or_singleton {rules : String} {directive : Directive}
    (read : readRules rules = [directive]) (isRange : directive.keyword = .between) :
    enforceValue value rules settings roster = [] ∨
      ∃ message, enforceValue value rules settings roster = [message] := by
  rw [enforceValue_of_readRules read]
  unfold Directive.evaluate
  rw [isRange]
  cases directive.between value with
  | none => exact .inl rfl
  | some violation => exact .inr ⟨_, rfl⟩

/-- A range of two written numbers lets a value pass exactly when each of the two bounds does, and
has one message otherwise. A text passes if it is empty or its length lies in the range, a whole
number of either kind if it lies in the range itself. -/
theorem enforceValue_between_eq_nil_iff {low high : Int64} {first second : List Char}
    (lowNumber : SignedText first low.toInt) (highNumber : SignedText second high.toInt)
    (value : Value) (settings : Settings) (roster : Option Roster) :
    let range := enforceValue value ("between:" ++ String.ofList (first ++ ',' :: second)) settings
      roster
    let least := enforceValue value ("min:" ++ String.ofList first) settings roster
    let most := enforceValue value ("max:" ++ String.ofList second) settings roster
    (range = [] ↔ least = [] ∧ most = []) ∧
      (∀ content, value = .text content →
        (range = [] ↔ content = "" ∨
          low.toInt ≤ content.length ∧ (content.length : Int) ≤ high.toInt)) ∧
      (∀ number, value.Denotes number →
        (range = [] ↔ low.toInt ≤ number ∧ number ≤ high.toInt)) ∧
      (range = [] ∨ ∃ message, range = [message]) := by
  intro range least most
  have ruled := readRules_pair "between" (by decide) lowNumber highNumber
  have inRange : range = [] ↔ value.Reaches low ∧ value.Keeps high :=
    (enforceValue_eq_nil_iff ruled).trans (evaluate_between_eq_nil_iff lowNumber highNumber)
  have reaches : least = [] ↔ value.Reaches low :=
    (enforceValue_eq_nil_iff (readRules_number "min" (by decide) lowNumber)).trans
      (evaluate_minimum_eq_nil_iff lowNumber)
  have keeps : most = [] ↔ value.Keeps high :=
    (enforceValue_eq_nil_iff (readRules_number "max" (by decide) highNumber)).trans
      (evaluate_maximum_eq_nil_iff highNumber)
  refine ⟨?both, ?text, ?whole, enforceValue_eq_nil_or_singleton ruled rfl⟩
  case both => rw [inRange, reaches, keeps]
  case text =>
    rintro content rfl
    rw [inRange, Value.reaches_text_iff, Value.keeps_text_iff]
    exact or_and_left.symm
  case whole =>
    intro number denotes
    rw [inRange, denotes.reaches_iff, denotes.keeps_iff]

/-- The least number of the signed kind as a bound and one with a sign and zeros in front, the
greatest number of the unsigned kind, and an empty range. -/
theorem enforceValue_between_eq_nil_iff_wide :
    let least : Int64 := .minValue
    let greatest : UInt64 := 18446744073709551615
    SignedText "-9223372036854775808".toList least.toInt ∧
      SignedText "+007".toList (7 : Int64).toInt ∧
      SignedText "8".toList (8 : Int64).toInt ∧
      (Value.unsigned greatest).Denotes 18446744073709551615 ∧
      enforceValue (.integer least) "between:-9223372036854775808,+007" .standard none = [] ∧
      enforceValue (.unsigned greatest) "between:-9223372036854775808,+007" .standard none ≠ [] ∧
      enforceValue (.text "") "between:8,+007" .standard none = [] ∧
      ∃ message, enforceValue (.text "sevenths") "between:8,+007" .standard none = [message] := by
  intro least greatest
  have lowest : SignedText "-9223372036854775808".toList least.toInt :=
    (readInt64_eq_ok_iff _ _).1 rfl
  have seven : SignedText "+007".toList (7 : Int64).toInt :=
    (readInt64_eq_ok_iff _ _).1 rfl
  have eight : SignedText "8".toList (8 : Int64).toInt :=
    (readInt64_eq_ok_iff _ _).1 rfl
  have wide := enforceValue_between_eq_nil_iff lowest seven
  have empty := enforceValue_between_eq_nil_iff eight seven
  have largest : (Value.unsigned greatest).Denotes 18446744073709551615 := by
    show ((18446744073709551615 : UInt64).toNat : Int) = 18446744073709551615
    rfl
  refine ⟨lowest, seven, eight, largest, ?_, ?_, ?_, ?_⟩
  · exact ((wide (.integer least) .standard none).2.2.1 least.toInt rfl).2 (by decide)
  · intro silent
    have inside := ((wide (.unsigned greatest) .standard none).2.2.1 _ largest).1 silent
    exact absurd inside (by decide)
  · exact ((empty (.text "") .standard none).2.1 "" rfl).2 (.inl rfl)
  · refine (empty (.text "sevenths") .standard none).2.2.2.resolve_left fun silent => ?_
    have inside := ((empty (.text "sevenths") .standard none).2.1 _ rfl).1 silent
    exact absurd inside (by decide)

end Rulebook
