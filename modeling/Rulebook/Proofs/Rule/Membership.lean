/-
This file proves what the two rules with lists report of a list of candidates.

`Value.Equals` says without any procedure when a candidate is the value: texts are compared
character for character, whole numbers as integers, floating-point numbers as numbers, so that what
is not a number equals nothing. Both rules report the same candidates as unreadable, in the order of
the list. Wanted candidates end in one more report if none of them equals the value. Of unwanted
ones the first that equals the value is reported, in its place among the unreadable ones, and no
later one is.
-/
import Rulebook.Proofs.Rule.Blame

namespace Rulebook

open Number Text

/-- The candidate is the value. -/
def Value.Equals (value : Value) (candidate : List Char) : Prop :=
  match value with
  | .text content => candidate = content.toList
  | .integer number => SignedText candidate number.toInt
  | .unsigned number => UnsignedText candidate number.toNat
  | .float number => ∃ read, readDouble? candidate = some read ∧ read.equals number = true
  | _ => False

theorem Likeness.ofRead_eq_equal_iff {Item : Type} {read : Option Item} {isEqual : Item → Bool} :
    ofRead read isEqual = .equal ↔ ∃ item, read = some item ∧ isEqual item = true := by
  unfold ofRead
  cases read with
  | none => simp
  | some item =>
    dsimp only
    split <;> simp_all

theorem Likeness.of?_eq_equal_iff {value : Value} {candidate : List Char} :
    of? value candidate = some .equal ↔ value.Equals candidate := by
  unfold of? Value.Equals
  cases value with
  | text content =>
    dsimp only
    rw [eq_comm (a := candidate)]
    split <;> simp_all
  | integer number =>
    rw [Option.some.injEq, ofRead_eq_equal_iff]
    simp only [decide_eq_true_eq, exists_eq_right, toOption_eq_some_iff, readInt64_eq_ok_iff]
  | unsigned number =>
    rw [Option.some.injEq, ofRead_eq_equal_iff]
    simp only [decide_eq_true_eq, exists_eq_right, toOption_eq_some_iff, readUInt64_eq_ok_iff]
  | float number => rw [Option.some.injEq, ofRead_eq_equal_iff]
  | temporal instant => exact iff_of_false nofun id
  | nested entries => exact iff_of_false nofun id

instance (value : Value) (candidate : List Char) : Decidable (value.Equals candidate) :=
  decidable_of_iff _ Likeness.of?_eq_equal_iff

instance (value : Value) (candidate : List Char) : Decidable (value.CannotRead candidate) :=
  decidable_of_iff _ Likeness.of?_eq_unreadable_iff

/-- A candidate that is the value can be read. -/
theorem Value.Equals.not_cannotRead {value : Value} {candidate : List Char}
    (equal : value.Equals candidate) : ¬ value.CannotRead candidate := by
  rw [← Likeness.of?_eq_unreadable_iff, Likeness.of?_eq_equal_iff.2 equal]
  simp

/-- The candidates that cannot be read as values of the kind, in order. -/
def Value.unreadable (value : Value) (candidates : List (List Char)) : List String :=
  (candidates.filter fun candidate => value.CannotRead candidate).map String.ofList

theorem Value.unreadable_append (value : Value) (before after : List (List Char)) :
    value.unreadable (before ++ after) = value.unreadable before ++ value.unreadable after := by
  unfold unreadable
  rw [List.filter_append, List.map_append]

theorem Value.unreadable_text (content : String) (candidates : List (List Char)) :
    (Value.text content).unreadable candidates = [] := by
  unfold unreadable
  rw [List.map_eq_nil_iff, List.filter_eq_nil_iff]
  intro candidate _ unread
  have cannot : (text content).CannotRead candidate := of_decide_eq_true unread
  exact cannot

/-- If some candidate is the value, there is a first one. -/
theorem Value.exists_first {value : Value} {candidates : List (List Char)}
    (listed : ∃ candidate ∈ candidates, value.Equals candidate) :
    ∃ before first after, candidates = before ++ first :: after ∧
      (∀ candidate ∈ before, ¬ value.Equals candidate) ∧ value.Equals first := by
  obtain ⟨candidate, member, equal⟩ := listed
  have isFound : (candidates.find? fun candidate => value.Equals candidate).isSome = true :=
    List.find?_isSome.2 ⟨candidate, member, decide_eq_true equal⟩
  obtain ⟨first, found⟩ := Option.isSome_iff_exists.1 isFound
  obtain ⟨firstEqual, before, after, parts, others⟩ := List.find?_eq_some_iff_append.1 found
  exact ⟨before, first, after, parts, by simpa using others, of_decide_eq_true firstEqual⟩

namespace Directive

variable {directive : Directive} {value : Value} {candidates before after : List (List Char)}
  {first : List Char}

theorem unreadable_eq_map (report : String → Violation) :
    unreadable value report candidates = (value.unreadable candidates).map report := by
  unfold unreadable Value.unreadable
  rw [List.map_map, ← List.filterMap_eq_map, List.filterMap_filter]
  simp only [Likeness.of?_eq_unreadable_iff, decide_eq_true_eq, Function.comp_apply]

/-! ### Wanted candidates -/

/-- Candidates that cannot be read are reported, and then that none is the value. -/
theorem oneOf_eq (comparable : canCompare value.kind = true) :
    directive.oneOf value =
      (value.unreadable directive.argumentList).map .badMember ++
        if ∃ candidate ∈ directive.argumentList, value.Equals candidate then []
        else [.noMember (directive.argumentList.map String.ofList)] := by
  unfold oneOf
  rw [comparable, if_neg (by decide), unreadable_eq_map]
  simp only [List.any_eq_true, decide_eq_true_eq, Likeness.of?_eq_equal_iff]

theorem oneOf_of_exists (comparable : canCompare value.kind = true)
    (listed : ∃ candidate ∈ directive.argumentList, value.Equals candidate) :
    directive.oneOf value = (value.unreadable directive.argumentList).map .badMember := by
  rw [oneOf_eq comparable, if_pos listed, List.append_nil]

theorem oneOf_of_none (comparable : canCompare value.kind = true)
    (none : ∀ candidate ∈ directive.argumentList, ¬ value.Equals candidate) :
    directive.oneOf value =
      (value.unreadable directive.argumentList).map .badMember ++
        [.noMember (directive.argumentList.map String.ofList)] := by
  rw [oneOf_eq comparable, if_neg fun ⟨candidate, member, equal⟩ => none candidate member equal]

theorem oneOf_eq_nil_iff (comparable : canCompare value.kind = true) :
    directive.oneOf value = [] ↔ value.unreadable directive.argumentList = [] ∧
      ∃ candidate ∈ directive.argumentList, value.Equals candidate := by
  rw [oneOf_eq comparable, List.append_eq_nil_iff, List.map_eq_nil_iff]
  simp

/-! ### Unwanted candidates -/

/-- The first candidate that is the value is reported. -/
theorem exclusions_cons_of_equals (equal : value.Equals first) :
    exclusions value false (first :: after) =
      .excluded (String.ofList first) :: exclusions value true after := by
  rw [exclusions, Likeness.of?_eq_equal_iff.2 equal]
  rfl

/-- Of a candidate that is not the value, or comes after one that is, it is only reported that it
cannot be read. -/
theorem exclusions_cons_of_not {found : Bool} (silent : found = true ∨ ¬ value.Equals first) :
    exclusions value found (first :: after) =
      (value.unreadable [first]).map .badExclusion ++ exclusions value found after := by
  have single : (value.unreadable [first]).map Violation.badExclusion =
      if value.CannotRead first then [.badExclusion (String.ofList first)] else [] := by
    unfold Value.unreadable
    split <;> simp [*]
  rw [single, exclusions]
  split
  · next equal =>
    have equals := Likeness.of?_eq_equal_iff.1 equal
    have reported : found = true := silent.resolve_right fun other => other equals
    rw [if_neg equals.not_cannotRead, if_pos reported, reported]
    rfl
  · next cannot =>
    rw [if_pos (Likeness.of?_eq_unreadable_iff.1 cannot)]
    rfl
  · next readable =>
    rw [if_neg fun cannot => readable (Likeness.of?_eq_unreadable_iff.2 cannot)]
    rfl

/-- Where there is no first candidate to report, all that is reported is what cannot be read. -/
theorem exclusions_append {found : Bool}
    (silent : found = true ∨ ∀ candidate ∈ before, ¬ value.Equals candidate) :
    exclusions value found (before ++ after) =
      (value.unreadable before).map .badExclusion ++ exclusions value found after := by
  induction before with
  | nil => rfl
  | cons candidate rest induction =>
    have here := silent.imp_right fun none => none candidate List.mem_cons_self
    have later := silent.imp_right fun none other member => none other (List.mem_cons_of_mem _ member)
    rw [List.cons_append, exclusions_cons_of_not here, induction later, ← List.append_assoc,
      ← List.map_append, ← Value.unreadable_append]
    rfl

theorem exclusions_eq_map {found : Bool}
    (silent : found = true ∨ ∀ candidate ∈ candidates, ¬ value.Equals candidate) :
    exclusions value found candidates = (value.unreadable candidates).map .badExclusion := by
  have all : exclusions value found (candidates ++ []) =
      (value.unreadable candidates).map .badExclusion ++ exclusions value found [] :=
    exclusions_append silent
  rwa [List.append_nil, exclusions, List.append_nil] at all

/-- The first candidate that is the value is reported in its place, and no later one is. -/
theorem exclusions_eq_of_split (none : ∀ candidate ∈ before, ¬ value.Equals candidate)
    (equal : value.Equals first) :
    exclusions value false (before ++ first :: after) =
      (value.unreadable before).map .badExclusion ++
        .excluded (String.ofList first) :: (value.unreadable after).map .badExclusion := by
  rw [exclusions_append (.inr none), exclusions_cons_of_equals equal, exclusions_eq_map (.inl rfl)]

theorem noneOf_eq (comparable : canCompare value.kind = true) :
    directive.noneOf value = exclusions value false directive.argumentList := by
  unfold noneOf
  rw [comparable, if_neg (by decide)]

theorem noneOf_eq_nil_iff (comparable : canCompare value.kind = true) :
    directive.noneOf value = [] ↔ value.unreadable directive.argumentList = [] ∧
      ∀ candidate ∈ directive.argumentList, ¬ value.Equals candidate := by
  rw [noneOf_eq comparable]
  by_cases listed : ∃ candidate ∈ directive.argumentList, value.Equals candidate
  · obtain ⟨before, first, after, parts, others, equal⟩ := Value.exists_first listed
    rw [parts, exclusions_eq_of_split others equal]
    exact iff_of_false (by simp) fun none => none.2 first (by simp) equal
  · have none : ∀ candidate ∈ directive.argumentList, ¬ value.Equals candidate :=
      fun candidate member equal => listed ⟨candidate, member, equal⟩
    rw [exclusions_eq_map (.inr none), List.map_eq_nil_iff, and_iff_left none]

end Directive

end Rulebook
