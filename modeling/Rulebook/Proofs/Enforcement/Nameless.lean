/-
This file proves that nothing is left of the empty name in the messages about a single value.

The name is taken out in two passes: first the pairs of quotes with a blank before them, then
the pairs that remain. The first pass can bring quotes together that stood apart, and a message
can hold any number of quotes, from a candidate, the name of a rule or the words of a named
check. The second pass alone settles the matter. It leaves no pair behind, and a text without
pairs stays as it is in both passes. Nothing but quotes and blanks is lost on the way.
-/
import Rulebook.Proofs.Enforcement.Elision

namespace Rulebook

/-! ### What taking out pairs costs -/

/-- Whether a character can never be part of what stands for the empty name. -/
def isOther (character : Char) : Bool :=
  character ≠ '\'' && character ≠ ' '

/-- The second text is the first one without some of its quotes and blanks. -/
structure LosesMarks (text left : List Char) : Prop where
  sublist : left.Sublist text
  others : left.filter isOther = text.filter isOther

namespace LosesMarks

variable {text middle left : List Char}

theorem refl (text : List Char) : LosesMarks text text :=
  ⟨List.Sublist.refl text, rfl⟩

theorem trans (first : LosesMarks text middle) (second : LosesMarks middle left) :
    LosesMarks text left :=
  ⟨second.sublist.trans first.sublist, second.others.trans first.others⟩

theorem keep (loses : LosesMarks text left) (character : Char) :
    LosesMarks (character :: text) (character :: left) := by
  refine ⟨loses.sublist.cons_cons character, ?_⟩
  rw [List.filter_cons, List.filter_cons, loses.others]

theorem lose (loses : LosesMarks text left) {character : Char}
    (mark : isOther character = false) : LosesMarks (character :: text) left := by
  refine ⟨loses.sublist.cons character, ?_⟩
  rw [List.filter_cons_of_neg (by simp [mark]), loses.others]

theorem loseAll (loses : LosesMarks text left) {pattern : List Char}
    (marks : ∀ character ∈ pattern, isOther character = false) :
    LosesMarks (pattern ++ text) left := by
  induction pattern with
  | nil => exact loses
  | cons character rest induction =>
    obtain ⟨mark, others⟩ := List.forall_mem_cons.1 marks
    exact (induction others).lose mark

end LosesMarks

/-- Taking out a pattern of quotes and blanks loses no more than these. -/
theorem losesMarks_dropAll {pattern : List Char}
    (marks : ∀ character ∈ pattern, isOther character = false) (text : List Char) :
    LosesMarks text (dropAll pattern text) := by
  fun_induction dropAll pattern text with
  | case1 => exact .refl []
  | case2 character rest found induction =>
    obtain ⟨given, behind, same⟩ := found
    cases pattern with
    | nil => exact absurd rfl given
    | cons first more =>
      obtain ⟨rfl, sameRest⟩ := List.cons.inj same
      have parts : rest = more ++ behind := sameRest.symm
      have left : rest.drop ((first :: more).length - 1) = behind := by
        rw [parts]
        exact List.drop_left
      rw [left] at induction ⊢
      rw [parts]
      exact induction.loseAll marks
  | case3 character rest _ induction => exact induction.keep character

/-- Taking out the empty name costs a message nothing but quotes and blanks. -/
theorem losesMarks_withoutEmptyName (message : String) :
    LosesMarks message.toList (withoutEmptyName message).toList := by
  unfold withoutEmptyName
  rw [String.toList_ofList]
  exact (losesMarks_dropAll (by simp [isOther]) _).trans (losesMarks_dropAll (by simp [isOther]) _)

/-- Nothing of the empty name is left when it has been taken out once. -/
theorem withoutEmptyName_withoutEmptyName (message : String) :
    withoutEmptyName (withoutEmptyName message) = withoutEmptyName message :=
  withoutEmptyName_eq_self (not_hasPair_withoutEmptyName message)

/-! ### Messages about single values -/

variable {value : Value} {rules message : String} {settings : Settings} {roster : Option Roster}

/-- No message about a single value holds two quotes in a row, so that taking out the empty name
once more changes nothing. It is what some directive says of a field without a name, less some
quotes and blanks. -/
theorem enforceValue_holds_no_pair
    (member : message ∈ enforceValue value rules settings roster) :
    ¬ HasPair message.toList ∧ withoutEmptyName message = message ∧
      ∃ directive ∈ readRules rules, ∃ worded ∈ directive.messages "" value settings roster,
        message = withoutEmptyName worded ∧ LosesMarks worded.toList message.toList := by
  rw [enforceValue_eq_flatMap] at member
  obtain ⟨directive, given, found⟩ := List.mem_flatMap.1 member
  obtain ⟨worded, said, rfl⟩ := List.mem_map.1 found
  exact ⟨not_hasPair_withoutEmptyName worded, withoutEmptyName_withoutEmptyName worded, directive,
    given, worded, said, rfl, losesMarks_withoutEmptyName worded⟩

/-- A named check speaks of quotes that the first pass brings together. -/
theorem enforceValue_holds_no_pair_joined :
    let checks : Roster := [[("c", fun _ => some "it' '''s' '' ")]]
    "its' " ∈ enforceValue (.text "x") "min:1 custom:c" .standard (some checks) ∧
      ¬ HasPair "its' ".toList ∧ withoutEmptyName "its' " = "its' " := by
  intro checks
  have member : "its' " ∈ enforceValue (.text "x") "min:1 custom:c" .standard (some checks) := by
    decide +kernel
  obtain ⟨unpaired, fixed, _⟩ := enforceValue_holds_no_pair member
  exact ⟨member, unpaired, fixed⟩

end Rulebook
