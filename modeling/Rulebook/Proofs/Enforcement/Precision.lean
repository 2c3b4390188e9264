/-
This file compares the bounds of a field declared as float with those of a field declared as
integer, where a JSON object gives both the same whole number.

A field declared as float holds the double-precision number nearest to the given one, and a bound
is rounded in the same way before the two are compared. Rounding keeps the order but not the
distance. So whatever keeps its bounds as an integer keeps them as a float, and a number that
violates a bound as an integer passes as a float exactly if both are rounded to the same number.
This takes 54 digits on both sides.
-/
import Rulebook.Proofs.Coercion.Whole
import Rulebook.Proofs.Enforcement.Single
import Rulebook.Proofs.Number.Rounding
import Rulebook.Proofs.Rule.Bounds

namespace Rulebook

open Number

/-! ### Rounded comparisons -/

variable {number bound low high : Int64}

/-- The nearest double-precision numbers of the two are equal. -/
def SameDouble (first second : Int64) : Prop :=
  (Double.ofInt first.toInt).equals (.ofInt second.toInt) = true

theorem sameDouble_iff :
    SameDouble number bound ↔ nearestInt number.toInt = nearestInt bound.toInt :=
  Double.equals_ofInt_iff (natAbs_toInt_lt number) (natAbs_toInt_lt bound)

/-- Two numbers of which one has at most 53 binary digits are not rounded to the same one. -/
theorem SameDouble.toInt_eq (same : SameDouble number bound)
    (few : number.toInt.natAbs < 2 ^ 53 ∨ bound.toInt.natAbs < 2 ^ 53) :
    number.toInt = bound.toInt := by
  rw [sameDouble_iff] at same
  rcases few with few | few
  · exact eq_of_nearestInt_eq few same
  · exact (eq_of_nearestInt_eq few same.symm).symm

theorem Measure.of?_float (number : Double) : of? (.float number) = some (.float number) :=
  rfl

/-- A bound is compared after rounding. -/
theorem Measure.compare?_float :
    (Measure.float (.ofInt number.toInt)).compare? bound =
      some (compare (nearestInt number.toInt) (nearestInt bound.toInt)) :=
  Double.compare?_ofInt (natAbs_toInt_lt number) (natAbs_toInt_lt bound)

theorem Value.reaches_float_iff :
    (float (.ofInt number.toInt)).Reaches bound ↔
      bound.toInt ≤ number.toInt ∨ SameDouble number bound := by
  refine (reaches_iff (Measure.of?_float _)).trans ((or_iff_right Bool.false_ne_true).trans ?_)
  rw [Measure.compare?_float, compare_reaches_iff, nearestInt_le_iff, sameDouble_iff, eq_comm]

theorem Value.keeps_float_iff :
    (float (.ofInt number.toInt)).Keeps bound ↔
      number.toInt ≤ bound.toInt ∨ SameDouble number bound := by
  refine (keeps_iff (Measure.of?_float _)).trans ((or_iff_right Bool.false_ne_true).trans ?_)
  rw [Measure.compare?_float, compare_keeps_iff, nearestInt_le_iff, sameDouble_iff]

/-! ### Records -/

section Records

variable {record : JsonRecord} {name subject rules : String} {value : Value} {declared : Kind}
  {directive : Directive} {settings : Settings} {roster : Option Roster}

theorem evaluateAll_singleton (store : PatternStore) :
    (evaluateAll value settings roster store [directive]).1 =
      (directive.evaluate value settings roster store).1 :=
  List.append_nil _

/-- The messages about an object with one field, whose member is of the declared kind, are none if
its directive has none. -/
theorem enforce_eq_nil_iff {json : Json} (given : Entries.find? record name = some json)
    (read : Value.ofJson declared (some json) = value) (inLine : value.kind = declared)
    (ruled : readRules rules = [directive]) :
    enforce ⟨subject, [⟨name, declared, rules⟩]⟩ record settings roster = [] ↔
      (directive.evaluate value settings roster settings.store).1 = [] := by
  subst inLine
  have found : (⟨subject, [⟨name, value.kind, rules⟩]⟩ : Schema).find? name =
      some ⟨name, value.kind, rules⟩ :=
    List.find?_cons_of_pos (decide_eq_true rfl)
  have held : FieldStore.read? ⟨subject, [⟨name, value.kind, rules⟩]⟩ record name = some value := by
    show (Schema.find? _ name).map (fun field : Field =>
      Value.ofJson field.kind (Entries.find? record name)) = some value
    rw [found, given]
    exact congrArg some read
  rw [enforce_eq_map_violations rfl held, List.map_eq_nil_iff, violations_kind, ruled,
    evaluateAll_singleton]

/-- Written bounds of the only field of an object. -/
theorem enforce_bounds_eq_nil_iff {first second : List Char}
    (lowNumber : SignedText first low.toInt) (highNumber : SignedText second high.toInt)
    {json : Json} (given : Entries.find? record name = some json)
    (read : Value.ofJson declared (some json) = value) (inLine : value.kind = declared) :
    let passes (rules : String) : Prop :=
      enforce ⟨subject, [⟨name, declared, rules⟩]⟩ record settings roster = []
    (passes ("min:" ++ String.ofList first) ↔ value.Reaches low) ∧
      (passes ("max:" ++ String.ofList second) ↔ value.Keeps high) ∧
      (passes ("between:" ++ String.ofList (first ++ ',' :: second)) ↔
        value.Reaches low ∧ value.Keeps high) :=
  ⟨(enforce_eq_nil_iff given read inLine (readRules_number "min" (by decide) lowNumber)).trans
      (evaluate_minimum_eq_nil_iff lowNumber),
    (enforce_eq_nil_iff given read inLine (readRules_number "max" (by decide) highNumber)).trans
      (evaluate_maximum_eq_nil_iff highNumber),
    (enforce_eq_nil_iff given read inLine
      (readRules_pair "between" (by decide) lowNumber highNumber)).trans
        (evaluate_between_eq_nil_iff lowNumber highNumber)⟩

theorem Value.ofJson_integer (number : Int64) :
    ofJson .integer (some (.number (.ofInt64 number))) = .integer number := by
  show (if number.toInt < 2 ^ 63 then integer (.ofInt number.toInt) else _) = integer number
  rw [if_pos number.toInt_lt, Int64.ofInt_toInt]

theorem Value.ofJson_float (number : Int64) :
    ofJson .float (some (.number (.ofInt64 number))) = .float (.ofInt number.toInt) :=
  rfl

/-- An object gives a field a whole number of 64 bits with a sign. Declared as integer, the field
keeps a written bound if the number does. Declared as float, it also keeps a bound that has the same
nearest double-precision number, and no other. So the two declarations agree wherever the number or
the bounds have at most 53 binary digits, and what an integer field lets pass, a float field lets
pass as well. -/
theorem enforce_float_eq_nil_iff {low high number : Int64} {first second : List Char}
    (lowNumber : SignedText first low.toInt) (highNumber : SignedText second high.toInt)
    {record : JsonRecord} {name : String}
    (given : Entries.find? record name = some (.number (.ofInt64 number))) (subject : String)
    (settings : Settings) (roster : Option Roster) :
    let passes (declared : Kind) (rules : String) : Prop :=
      enforce ⟨subject, [⟨name, declared, rules⟩]⟩ record settings roster = []
    let least := "min:" ++ String.ofList first
    let most := "max:" ++ String.ofList second
    let range := "between:" ++ String.ofList (first ++ ',' :: second)
    (passes .integer least ↔ low.toInt ≤ number.toInt) ∧
      (passes .integer most ↔ number.toInt ≤ high.toInt) ∧
      (passes .integer range ↔ low.toInt ≤ number.toInt ∧ number.toInt ≤ high.toInt) ∧
      (passes .float least ↔ low.toInt ≤ number.toInt ∨ SameDouble number low) ∧
      (passes .float most ↔ number.toInt ≤ high.toInt ∨ SameDouble number high) ∧
      (passes .float range ↔ (low.toInt ≤ number.toInt ∨ SameDouble number low) ∧
        (number.toInt ≤ high.toInt ∨ SameDouble number high)) ∧
      (∀ rules ∈ [least, most, range], passes .integer rules → passes .float rules) ∧
      (number.toInt.natAbs < 2 ^ 53 ∨ low.toInt.natAbs < 2 ^ 53 ∧ high.toInt.natAbs < 2 ^ 53 →
        ∀ rules ∈ [least, most, range], passes .float rules ↔ passes .integer rules) := by
  intro passes least most range
  obtain ⟨integerLeast, integerMost, integerRange⟩ :
      (passes .integer least ↔ (Value.integer number).Reaches low) ∧
        (passes .integer most ↔ (Value.integer number).Keeps high) ∧
        (passes .integer range ↔
          (Value.integer number).Reaches low ∧ (Value.integer number).Keeps high) :=
    enforce_bounds_eq_nil_iff lowNumber highNumber given (Value.ofJson_integer number) rfl
  obtain ⟨floatLeast, floatMost, floatRange⟩ :
      (passes .float least ↔ (Value.float (.ofInt number.toInt)).Reaches low) ∧
        (passes .float most ↔ (Value.float (.ofInt number.toInt)).Keeps high) ∧
        (passes .float range ↔ (Value.float (.ofInt number.toInt)).Reaches low ∧
          (Value.float (.ofInt number.toInt)).Keeps high) :=
    enforce_bounds_eq_nil_iff lowNumber highNumber given (Value.ofJson_float number) rfl
  have whole : (Value.integer number).Denotes number.toInt := rfl
  rw [whole.reaches_iff] at integerLeast
  rw [whole.keeps_iff] at integerMost
  rw [whole.reaches_iff, whole.keeps_iff] at integerRange
  rw [Value.reaches_float_iff] at floatLeast
  rw [Value.keeps_float_iff] at floatMost
  rw [Value.reaches_float_iff, Value.keeps_float_iff] at floatRange
  refine ⟨integerLeast, integerMost, integerRange, floatLeast, floatMost, floatRange, ?also, ?few⟩
  case also =>
    intro rules asked
    simp only [List.mem_cons, List.not_mem_nil, or_false] at asked
    rcases asked with rfl | rfl | rfl
    · rw [integerLeast, floatLeast]
      exact .inl
    · rw [integerMost, floatMost]
      exact .inl
    · rw [integerRange, floatRange]
      exact And.imp .inl .inl
  case few =>
    intro few rules asked
    have lowApart : SameDouble number low → low.toInt ≤ number.toInt := fun same =>
      Int.le_of_eq (same.toInt_eq (few.imp_right And.left)).symm
    have highApart : SameDouble number high → number.toInt ≤ high.toInt := fun same =>
      Int.le_of_eq (same.toInt_eq (few.imp_right And.right))
    simp only [List.mem_cons, List.not_mem_nil, or_false] at asked
    rcases asked with rfl | rfl | rfl
    · rw [integerLeast, floatLeast, or_iff_left_of_imp lowApart]
    · rw [integerMost, floatMost, or_iff_left_of_imp highApart]
    · rw [integerRange, floatRange, or_iff_left_of_imp lowApart, or_iff_left_of_imp highApart]

end Records

/-- A number one above a power of two, and this power as the bound. -/
theorem enforce_float_ne_integer :
    let record : JsonRecord := [("level", .number (.ofInt64 9007199254740993))]
    let messages (declared : Kind) : List String :=
      enforce ⟨"Reading", [⟨"level", declared, "max:9007199254740992"⟩]⟩ record .standard none
    ¬ (messages .float = [] ↔ messages .integer = []) ∧
      messages .integer = ["Field 'level' must be at most 9007199254740992"] := by
  decide +kernel

/-- The same number in a range with a sign in front of its lower bound. -/
theorem enforce_float_eq_nil_iff_level :
    let record : JsonRecord := [("level", .number (.ofInt64 9007199254740993))]
    let messages (declared : Kind) : List String :=
      enforce ⟨"Reading", [⟨"level", declared, "between:+7,9007199254740992"⟩]⟩ record .standard
        none
    SignedText "+7".toList (7 : Int64).toInt ∧
      SignedText "9007199254740992".toList (9007199254740992 : Int64).toInt ∧
      SameDouble 9007199254740993 9007199254740992 ∧ messages .float = [] ∧
      messages .integer ≠ [] := by
  intro record messages
  have lowNumber : SignedText "+7".toList (7 : Int64).toInt :=
    (readInt64_eq_ok_iff _ _).1 rfl
  have highNumber : SignedText "9007199254740992".toList (9007199254740992 : Int64).toInt :=
    (readInt64_eq_ok_iff _ _).1 rfl
  have same : SameDouble 9007199254740993 9007199254740992 := by
    unfold SameDouble
    decide +kernel
  obtain ⟨-, -, integerRange, -, -, floatRange, -⟩ :=
    enforce_float_eq_nil_iff lowNumber highNumber
      (show Entries.find? record "level" = some (.number (.ofInt64 9007199254740993)) from rfl)
      "Reading" .standard none
  refine ⟨lowNumber, highNumber, same, floatRange.2 ⟨.inl (by decide), .inr same⟩, ?_⟩
  intro silent
  exact absurd (integerRange.1 silent).2 (by decide)

end Rulebook
