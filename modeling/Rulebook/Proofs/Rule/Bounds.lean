/-
This file proves what the three rules with bounds ask of a value.

Each rule goes through the same steps. A value without a measure is reported, then arguments that
hold no bound are, and the empty text passes; what is left is a comparison. So a rule whose bounds
are known passes exactly the values that reach its lower bound or keep its upper bound, and a range
is nothing but both. For a text and for a whole number the comparison is one of integers.

Two readers look for the bounds, one in arguments that are two numbers and nothing else, the other
in any text. They read a number alike however it is written: with leading zeros, and with either
sign.
-/
import Rulebook.Proofs.Coercion.Whole
import Rulebook.Proofs.Rule.Blame
import Rulebook.Proofs.Rule.Spelling

namespace Rulebook

open Number Text

/-! ### Values and bounds -/

/-- The value has a measure that is not below the bound, or it is the empty text. -/
def Value.Reaches (value : Value) (bound : Int64) : Prop :=
  ∃ measure, Measure.of? value = some measure ∧
    (measure.isBlank = true ∨ measure.below bound = false)

/-- The value has a measure that is not above the bound, or it is the empty text. -/
def Value.Keeps (value : Value) (bound : Int64) : Prop :=
  ∃ measure, Measure.of? value = some measure ∧
    (measure.isBlank = true ∨ measure.above bound = false)

theorem Measure.below_eq_false_iff {measure : Measure} {bound : Int64} :
    measure.below bound = false ↔
      measure.compare? bound = some .eq ∨ measure.compare? bound = some .gt := by
  unfold below
  rcases measure.compare? bound with _ | _ | _ | _ <;> simp

theorem Measure.above_eq_false_iff {measure : Measure} {bound : Int64} :
    measure.above bound = false ↔
      measure.compare? bound = some .eq ∨ measure.compare? bound = some .lt := by
  unfold above
  rcases measure.compare? bound with _ | _ | _ | _ <;> simp

theorem compare_reaches_iff {first second : Int} :
    some (compare first second) = some .eq ∨ some (compare first second) = some .gt ↔
      second ≤ first := by
  rw [Option.some.injEq, Option.some.injEq, Int.compare_eq_eq, Int.compare_eq_gt]
  omega

theorem compare_keeps_iff {first second : Int} :
    some (compare first second) = some .eq ∨ some (compare first second) = some .lt ↔
      first ≤ second := by
  rw [Option.some.injEq, Option.some.injEq, Int.compare_eq_eq, Int.compare_eq_lt]
  omega

theorem Value.reaches_iff {value : Value} {measure : Measure} {bound : Int64}
    (measured : Measure.of? value = some measure) :
    value.Reaches bound ↔ measure.isBlank = true ∨
      (measure.compare? bound = some .eq ∨ measure.compare? bound = some .gt) := by
  unfold Reaches
  rw [measured, ← Measure.below_eq_false_iff]
  simp only [Option.some.injEq, exists_eq_left']

theorem Value.keeps_iff {value : Value} {measure : Measure} {bound : Int64}
    (measured : Measure.of? value = some measure) :
    value.Keeps bound ↔ measure.isBlank = true ∨
      (measure.compare? bound = some .eq ∨ measure.compare? bound = some .lt) := by
  unfold Keeps
  rw [measured, ← Measure.above_eq_false_iff]
  simp only [Option.some.injEq, exists_eq_left']

theorem Measure.isBlank_length_iff {content : String} :
    (length content.length).isBlank = true ↔ content = "" := by
  simp [isBlank]

/-- A text is measured by its length, and the empty one is not measured. -/
theorem Value.reaches_text_iff {content : String} {bound : Int64} :
    (text content).Reaches bound ↔ content = "" ∨ bound.toInt ≤ content.length :=
  (reaches_iff rfl).trans (or_congr Measure.isBlank_length_iff compare_reaches_iff)

theorem Value.keeps_text_iff {content : String} {bound : Int64} :
    (text content).Keeps bound ↔ content = "" ∨ (content.length : Int) ≤ bound.toInt :=
  (keeps_iff rfl).trans (or_congr Measure.isBlank_length_iff compare_keeps_iff)

theorem Value.Denotes.of?_eq {value : Value} {number : Int} (denotes : value.Denotes number) :
    Measure.of? value = some (.whole number) := by
  cases value with
  | integer held => exact congrArg (some ∘ Measure.whole) denotes
  | unsigned held => exact congrArg (some ∘ Measure.whole) denotes
  | _ => exact denotes.elim

/-- A whole number of either kind is compared as an integer. -/
theorem Value.Denotes.reaches_iff {value : Value} {number : Int} (denotes : value.Denotes number)
    {bound : Int64} : value.Reaches bound ↔ bound.toInt ≤ number :=
  (Value.reaches_iff denotes.of?_eq).trans
    ((or_iff_right Bool.false_ne_true).trans compare_reaches_iff)

theorem Value.Denotes.keeps_iff {value : Value} {number : Int} (denotes : value.Denotes number)
    {bound : Int64} : value.Keeps bound ↔ number ≤ bound.toInt :=
  (Value.keeps_iff denotes.of?_eq).trans
    ((or_iff_right Bool.false_ne_true).trans compare_keeps_iff)

/-! ### Directives and bounds -/

section Rules

variable {directive : Directive} {value : Value} {low high bound : Int64}

theorem Directive.minimum_eq_none_iff (given : firstNumber? directive.arguments = some bound) :
    directive.minimum value = none ↔ value.Reaches bound := by
  rw [minimum_eq_measured, given, measured_eq_none_iff]
  rfl

theorem Directive.maximum_eq_none_iff (given : firstNumber? directive.arguments = some bound) :
    directive.maximum value = none ↔ value.Keeps bound := by
  rw [maximum_eq_measured, given, measured_eq_none_iff]
  rfl

/-- A range is a lower and an upper bound. -/
theorem Directive.between_eq_none_iff (given : directive.pair? = some (low, high)) :
    directive.between value = none ↔ value.Reaches low ∧ value.Keeps high := by
  rw [between_eq_measured, given, measured_eq_none_iff]
  unfold Value.Reaches Value.Keeps
  cases Measure.of? value with
  | none => simp
  | some measure =>
    simp only [Option.some.injEq, exists_eq_left', Bool.or_eq_false_iff]
    exact or_and_left

end Rules

/-! ### Written bounds -/

/-- A written number is the first number in its text. -/
theorem firstNumber?_of_signedText {text : List Char} {number : Int64}
    (written : SignedText text number.toInt) : firstNumber? text = some number := by
  have read (sign run : List Char) (digits : IsRun run)
      (signs : ∀ character ∈ sign, isDigit character = false) (parts : text = sign ++ run)
      (worth : SignedText (if sign.getLast? = some '-' then '-' :: run else run) number.toInt) :
      firstNumber? text = some number := by
    have first : FirstRun text sign run [] := {
      parts := by rw [parts, List.append_nil]
      early := signs
      digits := digits
      ends := beginsOutside_nil _ }
    rw [first.firstNumber?_eq, toOption_eq_some_iff, readInt64_eq_ok_iff]
    exact worth
  generalize value : number.toInt = total at written read
  cases written with
  | plain digits => exact read [] text digits (List.forall_mem_nil _) rfl (.plain digits)
  | @plus run digits =>
    exact read ['+'] run digits (List.forall_mem_singleton.2 (by decide)) rfl (.plain digits)
  | @minus run digits =>
    exact read ['-'] run digits (List.forall_mem_singleton.2 (by decide)) rfl (.minus digits)

/-- Whether a character can stand in written bounds. -/
def isBoundChar (character : Char) : Bool :=
  isDigit character || character == '+' || character == '-' || character == ','

theorem Number.SignedText.isBoundChar {text : List Char} {value : Int}
    (written : SignedText text value) : ∀ character ∈ text, isBoundChar character = true := by
  intro character member
  unfold Rulebook.isBoundChar
  rcases written.mem member with digit | rfl | rfl
  · simp [digit]
  · rfl
  · rfl

theorem isBlank_of_isBoundChar {character : Char} (allowed : isBoundChar character = true) :
    isBlank character = false := by
  simp only [isBoundChar, Bool.or_eq_true, beq_iff_eq] at allowed
  rcases allowed with ((digit | rfl) | rfl) | rfl
  · exact isBlank_of_isDigit digit
  all_goals decide

/-- A rule text that is a name, a colon and bounds is one directive. -/
theorem readRules_bounds {name : String} {arguments : List Char} (isName : IsName name)
    (allowed : ∀ character ∈ arguments, isBoundChar character = true) :
    readRules (name ++ ":" ++ String.ofList arguments) =
      [⟨name, some (String.ofList arguments)⟩] := by
  have other {character : Char} (absent : isBoundChar character = false) :
      character ∉ (String.ofList arguments).toList := by
    rw [String.toList_ofList]
    intro member
    rw [allowed character member] at absent
    cases absent
  have visible : HasNoBlank (String.ofList arguments).toList := by
    rw [String.toList_ofList]
    exact fun character member => isBlank_of_isBoundChar (allowed character member)
  have spelled := Directive.Spelled.bare isName visible
    (fun quoted => other (show isBoundChar '\'' = false by decide) (List.mem_of_head? quoted))
    (not_infix_of_notMem (other (by decide)))
  have text : (name ++ ":" ++ String.ofList arguments).toList =
      name.toList ++ ':' :: (String.ofList arguments).toList := by
    simp
  rw [← text] at spelled
  exact spelled.readRules_eq

/-! ### Written rules -/

section Written

variable {low high bound : Int64} {first second written : List Char}

/-- Whatever the name of the rule is, a number is a bound. -/
theorem readRules_number (name : String) (isName : IsName name)
    (number : SignedText written bound.toInt) :
    readRules (name ++ ":" ++ String.ofList written) = [⟨name, some (String.ofList written)⟩] :=
  readRules_bounds isName number.isBoundChar

theorem Directive.firstNumber?_written {name : String} (number : SignedText written bound.toInt) :
    firstNumber? (⟨name, some (String.ofList written)⟩ : Directive).arguments = some bound := by
  show firstNumber? (String.ofList written).toList = some bound
  rw [String.toList_ofList]
  exact firstNumber?_of_signedText number

/-- Whatever the name of the rule is, two numbers with a comma between them are bounds. -/
theorem readRules_pair (name : String) (isName : IsName name)
    (lowNumber : SignedText first low.toInt) (highNumber : SignedText second high.toInt) :
    readRules (name ++ ":" ++ String.ofList (first ++ ',' :: second)) =
      [⟨name, some (String.ofList (first ++ ',' :: second))⟩] := by
  refine readRules_bounds isName fun character member => ?_
  rcases List.mem_append.1 member with early | late
  · exact lowNumber.isBoundChar character early
  · rcases List.mem_cons.1 late with rfl | later
    · rfl
    · exact highNumber.isBoundChar character later

theorem Directive.pair?_written {name : String} (lowNumber : SignedText first low.toInt)
    (highNumber : SignedText second high.toInt) :
    (⟨name, some (String.ofList (first ++ ',' :: second))⟩ : Directive).pair? = some (low, high) :=
  pair?_eq_some_iff.2 ⟨first, second, String.toList_ofList, lowNumber, highNumber⟩

variable {value : Value} {settings : Settings} {roster : Option Roster} {store : PatternStore}

theorem evaluate_minimum_eq_nil_iff (number : SignedText written bound.toInt) :
    ((⟨"min", some (String.ofList written)⟩ : Directive).evaluate value settings roster
        store).1 = [] ↔ value.Reaches bound :=
  Option.toList_eq_nil_iff.trans
    (Directive.minimum_eq_none_iff (Directive.firstNumber?_written number))

theorem evaluate_maximum_eq_nil_iff (number : SignedText written bound.toInt) :
    ((⟨"max", some (String.ofList written)⟩ : Directive).evaluate value settings roster
        store).1 = [] ↔ value.Keeps bound :=
  Option.toList_eq_nil_iff.trans
    (Directive.maximum_eq_none_iff (Directive.firstNumber?_written number))

theorem evaluate_between_eq_nil_iff (lowNumber : SignedText first low.toInt)
    (highNumber : SignedText second high.toInt) :
    ((⟨"between", some (String.ofList (first ++ ',' :: second))⟩ : Directive).evaluate value
        settings roster store).1 = [] ↔ value.Reaches low ∧ value.Keeps high :=
  Option.toList_eq_nil_iff.trans
    (Directive.between_eq_none_iff (Directive.pair?_written lowNumber highNumber))

end Written

end Rulebook
