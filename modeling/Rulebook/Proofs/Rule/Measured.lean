/-
This file says what the three rules with bounds have in common.

Each of them goes through the same steps. A value without a measure is reported, then arguments that
hold no bounds are, and the empty text passes; what is left is a comparison. `measured` is these
steps, with all that the rules differ in as parameters, so that a question about the three rules is
one question about the steps.
-/
import Rulebook.Rule.Bounds

/-! ### Findings as lists -/

namespace Option

variable {Item : Type}

theorem any_toList (found : Option Item) (test : Item → Bool) :
    found.toList.any test = found.any test := by
  cases found <;> simp

theorem all_toList (found : Option Item) (test : Item → Bool) :
    found.toList.all test = found.all test := by
  cases found <;> simp

end Option

namespace Rulebook

namespace Directive

/-! ### The steps -/

/-- What a rule with bounds finds: its name, the report about arguments without bounds, the
comparison of a measure with the bounds and the report about a measure that fails it are given. -/
def measured {Bounds : Type} (rule : String) (unread : Violation)
    (misses : Measure → Bounds → Bool) (missed : Measure → Bounds → Violation)
    (bounds : Option Bounds) (value : Value) : Option Violation :=
  match Measure.of? value with
  | none => some (.inapplicable rule value.kind)
  | some measure =>
    match bounds with
    | none => some unread
    | some bounds =>
      if measure.isBlank then none
      else if misses measure bounds then some (missed measure bounds)
      else none

theorem between_eq_measured (directive : Directive) (value : Value) :
    directive.between value =
      measured "between" .badRange
        (fun measure bounds => measure.below bounds.1 || measure.above bounds.2)
        (fun measure bounds => .outside bounds.1 bounds.2 measure.isLength)
        directive.pair? value := by
  unfold between measured
  cases Measure.of? value with
  | none => rfl
  | some measure => cases directive.pair? <;> rfl

theorem minimum_eq_measured (directive : Directive) (value : Value) :
    directive.minimum value =
      measured "min" .badMinimum Measure.below
        (fun measure bound => .tooSmall bound measure.isLength)
        (firstNumber? directive.arguments) value := by
  unfold minimum measured
  cases Measure.of? value with
  | none => rfl
  | some measure => cases firstNumber? directive.arguments <;> rfl

theorem maximum_eq_measured (directive : Directive) (value : Value) :
    directive.maximum value =
      measured "max" .badMaximum Measure.above
        (fun measure bound => .tooLarge bound measure.isLength)
        (firstNumber? directive.arguments) value := by
  unfold maximum measured
  cases Measure.of? value with
  | none => rfl
  | some measure => cases firstNumber? directive.arguments <;> rfl

section Steps

variable {Bounds : Type} {rule : String} {unread : Violation} {misses : Measure → Bounds → Bool}
  {missed : Measure → Bounds → Violation} {value : Value}

/-- Once there are bounds, the steps find nothing in the values that have a measure and do not fail
the comparison, and in the empty text. -/
theorem measured_eq_none_iff {bounds : Bounds} :
    measured rule unread misses missed (some bounds) value = none ↔
      ∃ measure, Measure.of? value = some measure ∧
        (measure.isBlank = true ∨ misses measure bounds = false) := by
  unfold measured
  cases Measure.of? value with
  | none => simp
  | some measure =>
    simp only [Option.some.injEq, exists_eq_left']
    cases measure.isBlank <;> cases misses measure bounds <;> simp

/-- A report about the value itself comes last, so that a test it does not pass is passed exactly
by what is found before. -/
theorem any_measured_iff {bounds : Option Bounds} {test : Violation → Bool}
    (inapplicable : test (.inapplicable rule value.kind) = true) (noBounds : test unread = true)
    (fails : ∀ measure bounds, test (missed measure bounds) = false) :
    (measured rule unread misses missed bounds value).any test = true ↔
      bounds = none ∨ Measure.of? value = none := by
  unfold measured
  cases Measure.of? value with
  | none => exact iff_of_true inapplicable (.inr rfl)
  | some measure =>
    cases bounds with
    | none => exact iff_of_true noBounds (.inl rfl)
    | some bounds =>
      dsimp only
      cases measure.isBlank <;> cases misses measure bounds <;> simp [fails]

/-- What all reports of the steps pass is passed by whatever they find. -/
theorem all_measured {bounds : Option Bounds} {test : Violation → Bool}
    (inapplicable : test (.inapplicable rule value.kind) = true) (noBounds : test unread = true)
    (passes : ∀ measure bounds, test (missed measure bounds) = true) :
    (measured rule unread misses missed bounds value).all test = true := by
  unfold measured
  cases Measure.of? value with
  | none => exact inapplicable
  | some measure =>
    cases bounds with
    | none => exact noBounds
    | some bounds =>
      dsimp only
      cases measure.isBlank <;> cases misses measure bounds <;> simp [passes]

end Steps

end Directive

end Rulebook
