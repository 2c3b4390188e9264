/-
This file proves that no malformed directive passes silently.

Some violations blame the rule and not the value: the arguments of a directive make no sense,
or the directive asks for what does not exist. `Malformed` says, name by name and without
looking at how it is applied, when a directive deserves the blame; besides, some rules cannot be
applied to times and nested values. A directive is blamed exactly for one of these reasons,
whatever the value. The empty text, which bounds leave alone, hides nothing, and neither does a
candidate that has been found before, or a pattern that has been looked up before.
-/
import Rulebook.Proofs.Number.Decimal
import Rulebook.Proofs.Pattern.Remembered
import Rulebook.Proofs.Rule.FirstNumber
import Rulebook.Proofs.Rule.Measured
import Rulebook.Rule.Evaluation

namespace Rulebook

open Number Text

/-- Whether a violation blames the rule and not the value. -/
def Violation.blamesRule : Violation → Bool
  | inapplicable .. => true
  | badRange => true
  | badMinimum => true
  | badMaximum => true
  | badMember _ => true
  | badExclusion _ => true
  | badWordRange => true
  | badPattern => true
  | unknownCheck _ => true
  | unknownRule _ => true
  | _ => false

/-! ### What makes a directive malformed -/

/-- The arguments are two whole numbers of 64 bits with a comma between them. -/
def Directive.HasPair (directive : Directive) : Prop :=
  ∃ (first second : List Char) (low high : Int64),
    directive.arguments = first ++ ',' :: second ∧ SignedText first low.toInt ∧
      SignedText second high.toInt

/-- The arguments hold no digit, or their first run of digits, with its sign, is no number of 64
bits. -/
def Directive.LacksNumber (directive : Directive) : Prop :=
  (∀ character ∈ directive.arguments, isDigit character = false) ∨
    ∃ before run after, FirstRun directive.arguments before run after ∧
      ¬ FitsInt64 (signedRun before run)

/-- The value is a number, and the candidate is not written as a number of its kind. -/
def Value.CannotRead (value : Value) (candidate : List Char) : Prop :=
  match value with
  | .integer _ => ¬ ∃ number : Int64, SignedText candidate number.toInt
  | .unsigned _ => ¬ ∃ number : UInt64, UnsignedText candidate number.toNat
  | .float _ => ¬ DoubleText candidate
  | _ => False

/-- There are no arguments, or they are no pattern within the limit; three words are not taken for
patterns. -/
def Directive.LacksPattern (directive : Directive) (limit : Nat) : Prop :=
  directive.arguments = [] ∨
    String.ofList directive.arguments ∉ ["email", "phone", "password"] ∧
      Pattern.read? limit directive.arguments = none

/-- What a directive must not be like, by its name. -/
def Directive.Malformed (directive : Directive) (limit : Nat) (value : Value)
    (roster : Option Roster) : Prop :=
  match directive.name with
  | "between" | "wordCount" => ¬ directive.HasPair
  | "min" | "max" => directive.LacksNumber
  | "enum" | "exclude" => ∃ candidate ∈ directive.argumentList, value.CannotRead candidate
  | "match" => directive.LacksPattern limit
  | "custom" => ∃ checks, roster = some checks ∧
      ∃ name ∈ directive.argumentList, checks.find? (String.ofList name) = none
  | "required" | "default" | "prohibit" => False
  | _ => True

/-- The rule has no meaning for values of the kind. -/
def Directive.Inapplicable (directive : Directive) (kind : Kind) : Prop :=
  directive.name ∈ ["between", "min", "max", "enum", "exclude"] ∧
    (kind = .temporal ∨ kind = .nested)

/-! ### Arguments -/

theorem Directive.pair?_eq_some_iff {directive : Directive} {low high : Int64} :
    directive.pair? = some (low, high) ↔
      ∃ first second, directive.arguments = first ++ ',' :: second ∧
        SignedText first low.toInt ∧ SignedText second high.toInt := by
  constructor
  · intro read
    unfold pair? at read
    split at read
    · next first second listed =>
      split at read
      · next readLow readHigh =>
        cases read
        refine ⟨first, second, ?_, (readInt64_eq_ok_iff _ _).1 readLow,
          (readInt64_eq_ok_iff _ _).1 readHigh⟩
        unfold argumentList at listed
        have joined : [','].intercalate (directive.arguments.splitOn ',') = directive.arguments :=
          List.intercalate_splitOn ','
        rw [listed] at joined
        simpa using joined.symm
      · cases read
    · cases read
  · rintro ⟨first, second, parts, writtenLow, writtenHigh⟩
    have listed : directive.argumentList = [first, second] := by
      unfold argumentList
      rw [parts, List.splitOn_append_cons_self_of_not_mem (writtenLow.notMem (by decide)),
        List.splitOn_eq_singleton (writtenHigh.notMem (by decide))]
    unfold pair?
    rw [listed]
    simp only [(readInt64_eq_ok_iff _ _).2 writtenLow, (readInt64_eq_ok_iff _ _).2 writtenHigh]

theorem Directive.firstNumber?_eq_none_iff {directive : Directive} :
    firstNumber? directive.arguments = none ↔ directive.LacksNumber :=
  Rulebook.firstNumber?_eq_none_iff

theorem Directive.pair?_eq_none_iff {directive : Directive} :
    directive.pair? = none ↔ ¬ directive.HasPair := by
  unfold HasPair
  rw [Option.eq_none_iff_forall_not_mem]
  simp only [Option.mem_def, Prod.forall, pair?_eq_some_iff]
  grind

theorem Likeness.ofRead_eq_unreadable_iff {Item : Type} {read : Option Item}
    {isEqual : Item → Bool} : ofRead read isEqual = .unreadable ↔ read = none := by
  unfold ofRead
  cases read with
  | none => exact iff_of_true rfl rfl
  | some item =>
    dsimp only
    split <;> simp

theorem Likeness.of?_eq_unreadable_iff {value : Value} {candidate : List Char} :
    of? value candidate = some .unreadable ↔ value.CannotRead candidate := by
  unfold of? Value.CannotRead
  cases value with
  | text content =>
    dsimp only
    split <;> simp
  | integer number =>
    rw [Option.some.injEq, ofRead_eq_unreadable_iff, toOption_readInt64_eq_none_iff]
  | unsigned number =>
    rw [Option.some.injEq, ofRead_eq_unreadable_iff, toOption_readUInt64_eq_none_iff]
  | float number =>
    rw [Option.some.injEq, ofRead_eq_unreadable_iff, ← isSome_readDouble?_iff,
      Option.not_isSome_iff_eq_none]
  | temporal instant => exact iff_of_false nofun id
  | nested entries => exact iff_of_false nofun id

theorem Measure.of?_eq_none_iff {value : Value} :
    of? value = none ↔ value.kind = .temporal ∨ value.kind = .nested := by
  cases value <;> simp [of?, Value.kind]

theorem Directive.canCompare_eq_false_iff {kind : Kind} :
    canCompare kind = false ↔ kind = .temporal ∨ kind = .nested := by
  cases kind <;> simp [canCompare]

/-! ### One rule after the other -/

section Rules

variable {directive : Directive} {value : Value}

/-- Bounds find everything that is wrong with the rule before they look at the value. -/
theorem Directive.blamesRule_measured {Bounds : Type} {bounds : Option Bounds} {rule : String}
    {unread : Violation} {misses : Measure → Bounds → Bool} {missed : Measure → Bounds → Violation}
    (blames : unread.blamesRule = true)
    (fair : ∀ measure bounds, (missed measure bounds).blamesRule = false) :
    (measured rule unread misses missed bounds value).any Violation.blamesRule = true ↔
      bounds = none ∨ (value.kind = .temporal ∨ value.kind = .nested) := by
  rw [any_measured_iff rfl blames fair, Measure.of?_eq_none_iff]

theorem Directive.blamesRule_wordCount :
    (directive.wordCount value).any Violation.blamesRule = true ↔ ¬ directive.HasPair := by
  rw [← pair?_eq_none_iff]
  unfold wordCount
  cases directive.pair? with
  | none => simp [Violation.blamesRule]
  | some bounds =>
    dsimp only
    split <;> simp [Violation.blamesRule]

theorem Directive.any_unreadable_iff (report : String → Violation)
    (blames : ∀ candidate, (report candidate).blamesRule = true)
    (candidates : List (List Char)) :
    (unreadable value report candidates).any Violation.blamesRule = true ↔
      ∃ candidate ∈ candidates, value.CannotRead candidate := by
  unfold unreadable
  simp only [List.any_eq_true, List.mem_filterMap]
  constructor
  · rintro ⟨violation, ⟨candidate, member, given⟩, _⟩
    split at given
    · next unread => exact ⟨candidate, member, Likeness.of?_eq_unreadable_iff.1 unread⟩
    · cases given
  · rintro ⟨candidate, member, cannot⟩
    exact ⟨_, ⟨candidate, member, if_pos (Likeness.of?_eq_unreadable_iff.2 cannot)⟩, blames _⟩

theorem Directive.blamesRule_oneOf :
    (directive.oneOf value).any Violation.blamesRule = true ↔
      (∃ candidate ∈ directive.argumentList, value.CannotRead candidate) ∨
        (value.kind = .temporal ∨ value.kind = .nested) := by
  rw [← canCompare_eq_false_iff, ← any_unreadable_iff .badMember fun candidate => rfl]
  unfold oneOf
  cases canCompare value.kind with
  | false => exact iff_of_true rfl (.inr rfl)
  | true =>
    have fair : (if directive.argumentList.any fun candidate =>
        Likeness.of? value candidate = some .equal then []
          else [Violation.noMember (directive.argumentList.map String.ofList)]).any
        Violation.blamesRule = false := by
      split <;> rfl
    rw [if_neg (by decide), List.any_append, fair, Bool.or_false]
    exact (or_iff_left Bool.false_ne_true.symm).symm

/-- A candidate that equals the value is reported or not, but it never hides a later one. -/
theorem Directive.any_exclusions_iff (found : Bool) (candidates : List (List Char)) :
    (exclusions value found candidates).any Violation.blamesRule = true ↔
      ∃ candidate ∈ candidates, value.CannotRead candidate := by
  induction candidates generalizing found with
  | nil => simp [exclusions]
  | cons candidate rest induction =>
    rw [List.exists_mem_cons_iff, ← Likeness.of?_eq_unreadable_iff]
    unfold exclusions
    split
    · next equal =>
      have readable : Likeness.of? value candidate ≠ some .unreadable := by simp [equal]
      rw [or_iff_right readable]
      split
      · exact induction true
      · exact induction true
    · next unread => exact iff_of_true rfl (.inl unread)
    · next _ readable =>
      rw [or_iff_right readable]
      exact induction found

theorem Directive.blamesRule_noneOf :
    (directive.noneOf value).any Violation.blamesRule = true ↔
      (∃ candidate ∈ directive.argumentList, value.CannotRead candidate) ∨
        (value.kind = .temporal ∨ value.kind = .nested) := by
  rw [← canCompare_eq_false_iff, ← any_exclusions_iff false]
  unfold noneOf
  cases canCompare value.kind with
  | false => exact iff_of_true rfl (.inr rfl)
  | true =>
    rw [if_neg (by decide)]
    exact (or_iff_left Bool.false_ne_true.symm).symm

theorem any_reportUnless {holds : Bool} {violation : Violation}
    (fair : violation.blamesRule = false) :
    (reportUnless holds violation).any Violation.blamesRule = false := by
  unfold reportUnless
  split
  · rfl
  · exact fair

/-- A word that is not taken for a pattern is never to blame. -/
theorem Directive.any_reportUnless_iff_lacksPattern {limit : Nat} {text : String} {holds : Bool}
    {violation : Violation} (spelled : String.ofList directive.arguments = text)
    (known : text ∈ ["email", "phone", "password"]) (fair : violation.blamesRule = false) :
    (reportUnless holds violation).any Violation.blamesRule = true ↔
      directive.LacksPattern limit := by
  rw [any_reportUnless fair]
  refine iff_of_false Bool.false_ne_true ?_
  rintro (empty | ⟨other, _⟩)
  · rw [empty] at spelled
    subst spelled
    exact absurd known (by decide)
  · exact other (spelled ▸ known)

/-- What has been looked up before makes no difference. -/
theorem Directive.blamesRule_looksLike {limit : Nat} {store : PatternStore}
    (answers : store.AnswersFor limit) :
    (directive.looksLike value store).1.any Violation.blamesRule = true ↔
      directive.LacksPattern limit := by
  unfold looksLike
  split
  · next spelled => exact any_reportUnless_iff_lacksPattern spelled (by decide) rfl
  · next spelled => exact any_reportUnless_iff_lacksPattern spelled (by decide) rfl
  · next spelled => exact any_reportUnless_iff_lacksPattern spelled (by decide) rfl
  · next spelled =>
    refine iff_of_true rfl (.inl ?_)
    simpa using congrArg String.toList spelled
  · next notEmail notPhone notPassword notEmpty =>
    have answer := answers.lookUp_fst (String.ofList directive.arguments)
    rw [String.toList_ofList] at answer
    have isLiteral : String.ofList directive.arguments ∉ ["email", "phone", "password"] := by
      simp only [List.mem_cons, List.not_mem_nil, or_false, not_or]
      exact ⟨notEmail, notPhone, notPassword⟩
    have given : directive.arguments ≠ [] := fun empty => notEmpty (by rw [empty])
    unfold LacksPattern
    rw [← answer, or_iff_right given, and_iff_right isLiteral]
    dsimp only
    split
    · next pattern found =>
      rw [any_reportUnless rfl, found]
      exact iff_of_false Bool.false_ne_true nofun
    · next found => exact iff_of_true rfl found

theorem Directive.blamesRule_custom {roster : Option Roster} :
    (directive.custom value roster).any Violation.blamesRule = true ↔
      ∃ checks, roster = some checks ∧
        ∃ name ∈ directive.argumentList, checks.find? (String.ofList name) = none := by
  unfold custom
  cases roster with
  | none => simp
  | some checks =>
    simp only [List.any_eq_true, List.mem_filterMap, Option.some.injEq, exists_eq_left']
    constructor
    · rintro ⟨violation, ⟨name, member, answer⟩, blames⟩
      refine ⟨name, member, ?_⟩
      unfold checked at answer
      split at answer
      · assumption
      · next check _ =>
        -- A check that is there speaks about the value.
        obtain ⟨message, _, rfl⟩ := Option.map_eq_some_iff.1 answer
        split at blames <;> cases blames
    · rintro ⟨name, member, missing⟩
      refine ⟨.unknownCheck (String.ofList name), ⟨name, member, ?_⟩, rfl⟩
      unfold checked
      rw [missing]

end Rules

/-! ### All rules -/

/-- Where unknown rules are reported, a directive is blamed for something exactly when it is
malformed or has no meaning for values of the kind; it does not matter what the value is otherwise,
or which patterns have been looked up before. -/
theorem exists_blamesRule_iff_malformed {settings : Settings} {store : PatternStore} {limit : Nat}
    (reports : settings.reportUnknown = true) (answers : store.AnswersFor limit)
    (directive : Directive) (value : Value) (roster : Option Roster) :
    (∃ violation ∈ (directive.evaluate value settings roster store).1,
        violation.blamesRule = true) ↔
      directive.Malformed limit value roster ∨ directive.Inapplicable value.kind := by
  rw [← List.any_eq_true]
  obtain ⟨name, arguments⟩ := directive
  unfold Directive.Malformed Directive.Inapplicable
  dsimp only
  -- One case for each name, in the order of `Malformed`. Names compute to their keywords.
  split
  next =>
    show ((⟨"between", arguments⟩ : Directive).between value).toList.any _ = true ↔ _
    rw [Option.any_toList, Directive.between_eq_measured,
      Directive.blamesRule_measured rfl fun _ _ => rfl, Directive.pair?_eq_none_iff,
      and_iff_right (by decide)]
  next =>
    show ((⟨"wordCount", arguments⟩ : Directive).wordCount value).toList.any _ = true ↔ _
    rw [Option.any_toList, Directive.blamesRule_wordCount, or_iff_left (by simp)]
  next =>
    show ((⟨"min", arguments⟩ : Directive).minimum value).toList.any _ = true ↔ _
    rw [Option.any_toList, Directive.minimum_eq_measured,
      Directive.blamesRule_measured rfl fun _ _ => rfl, Directive.firstNumber?_eq_none_iff,
      and_iff_right (by decide)]
  next =>
    show ((⟨"max", arguments⟩ : Directive).maximum value).toList.any _ = true ↔ _
    rw [Option.any_toList, Directive.maximum_eq_measured,
      Directive.blamesRule_measured rfl fun _ _ => rfl, Directive.firstNumber?_eq_none_iff,
      and_iff_right (by decide)]
  next =>
    rw [and_iff_right (by decide)]
    exact Directive.blamesRule_oneOf
  next =>
    rw [and_iff_right (by decide)]
    exact Directive.blamesRule_noneOf
  next =>
    show ((⟨"match", arguments⟩ : Directive).looksLike value store).1.toList.any _ = true ↔ _
    rw [Option.any_toList, Directive.blamesRule_looksLike answers, or_iff_left (by simp)]
  next =>
    rw [or_iff_left (by simp)]
    exact Directive.blamesRule_custom
  next =>
    have fair : (Directive.required value).any Violation.blamesRule = false := any_reportUnless rfl
    show (Directive.required value).toList.any _ = true ↔ _
    rw [Option.any_toList, fair]
    simp
  next => exact iff_of_false Bool.false_ne_true (by simp)
  next => exact iff_of_false Bool.false_ne_true (by simp)
  next =>
    have unknown : Keyword.ofName name = .unknown := by
      unfold Keyword.ofName
      split <;> first | contradiction | rfl
    unfold Directive.evaluate Directive.keyword
    rw [unknown]
    simp [reports, Violation.blamesRule]

/-- A pattern that is none and has been looked up before, and a bound that does not fit, asked of
the empty text. -/
theorem exists_blamesRule_remembered :
    let broken : Directive := ⟨"match", some "([a-z"⟩
    let wide : Directive := ⟨"max", some "below -9223372036854775809."⟩
    let store := ((Settings.standard).store.lookUp "([a-z").2
    Settings.standard.reportUnknown = true ∧ store.AnswersFor 1048576 ∧
      (∃ violation ∈ (broken.evaluate (.integer 7) .standard none store).1,
        violation.blamesRule = true) ∧
      ∃ violation ∈ (wide.evaluate (.text "") .standard none store).1,
        violation.blamesRule = true := by
  intro broken wide store
  have answers : store.AnswersFor 1048576 :=
    PatternStore.AnswersFor.lookUp_snd (PatternStore.answersFor_fresh 1048576) "([a-z"
  have noPattern : broken.Malformed 1048576 (.integer 7) none :=
    .inr ⟨by decide, by decide⟩
  have early : "below -".toList.all (!isDigit ·) = true := by decide
  have first : FirstRun wide.arguments "below -".toList "9223372036854775809".toList ['.'] := {
    parts := rfl
    early := fun character member => by simpa using List.all_eq_true.1 early character member
    digits := ⟨by decide, rfl⟩
    ends := beginsOutside_cons (by decide) [] }
  have tooLarge : wide.Malformed 1048576 (.text "") none :=
    .inr ⟨_, _, _, first, fun fits => absurd fits.1 (by decide)⟩
  exact ⟨rfl, answers,
    (exists_blamesRule_iff_malformed rfl answers broken (.integer 7) none).2 (.inl noPattern),
    (exists_blamesRule_iff_malformed rfl answers wide (.text "") none).2 (.inl tooLarge)⟩

end Rulebook
