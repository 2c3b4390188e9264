/-
This file proves what becomes of the words of a named check when a single value is enforced.

A single value is a field with the empty name, which messages show as two quotes in a row.
These are taken out afterwards, from the finished text, wherever they stand: not only at the
place of the name, but also in words that a check has found for itself. So such words reach
the caller as they are exactly when they hold no two quotes in a row. The condition is
necessary because no message about a single value ever holds two quotes in a row, whoever
worded it.
-/
import Rulebook.Proofs.Enforcement.Single

namespace Rulebook

/-- Somewhere in the text two quotes stand in a row. -/
abbrev HasPair (text : List Char) : Prop :=
  ['\'', '\''] <:+: text

theorem not_hasPair_of_notMem {text : List Char} (unquoted : '\'' ∉ text) : ¬ HasPair text :=
  fun pair => unquoted (pair.subset List.mem_cons_self)

/-! ### Taking out a pattern -/

section DropAll

variable {pattern text : List Char}

/-- A text that does not begin with the pattern keeps its first character. -/
theorem dropAll_cons {character : Char} {rest : List Char}
    (apart : ¬ pattern <+: character :: rest) :
    dropAll pattern (character :: rest) = character :: dropAll pattern rest := by
  rw [dropAll, if_neg fun found => apart found.2]

/-- At the front of a text the pattern is taken out. -/
theorem dropAll_append (given : pattern ≠ []) (rest : List Char) :
    dropAll pattern (pattern ++ rest) = dropAll pattern rest := by
  cases pattern with
  | nil => exact absurd rfl given
  | cons first more =>
    rw [List.cons_append, dropAll, if_pos ⟨given, rest, rfl⟩, List.length_cons, Nat.add_sub_cancel,
      List.drop_left]

/-- A text in which the pattern does not occur is left as it is. -/
theorem dropAll_eq_self (absent : ¬ pattern <:+: text) : dropAll pattern text = text := by
  induction text with
  | nil => rw [dropAll]
  | cons character rest induction =>
    rw [dropAll_cons fun found => absent found.isInfix,
      induction fun found => absent (List.infix_cons found)]

end DropAll

/-! ### Taking out pairs -/

/-- Taking out pairs leaves none, not even one of quotes that were apart before. -/
theorem not_hasPair_dropAll (text : List Char) : ¬ HasPair (dropAll ['\'', '\''] text) := by
  fun_induction dropAll ['\'', '\''] text with
  | case1 => simp
  | case2 character rest _ induction => exact induction
  | case3 character rest single induction =>
    intro pair
    rcases List.infix_cons_iff.1 pair with atFront | later
    · obtain ⟨rfl, after⟩ := List.cons_prefix_cons.1 atFront
      obtain ⟨behind, same⟩ := after
      -- The second quote would have been the first character of the rest already.
      cases rest with
      | nil => simp [dropAll] at same
      | cons next more =>
        by_cases quoted : next = '\''
        · exact single ⟨List.cons_ne_nil _ _, more, by rw [quoted]; rfl⟩
        · have apart : ¬ ['\'', '\''] <+: next :: more :=
            fun found => quoted (List.cons_prefix_cons.1 found).1.symm
          rw [dropAll_cons apart] at same
          exact quoted (List.cons.inj same).1.symm
    · exact induction later

/-- The spaced pattern for the empty name holds a pair. -/
theorem HasPair.of_spaced {text : List Char} (spaced : [' ', '\'', '\''] <:+: text) :
    HasPair text :=
  (List.infix_cons (List.infix_refl ['\'', '\''])).trans spaced

/-- A message without pairs is left as it is. -/
theorem withoutEmptyName_eq_self {message : String} (unpaired : ¬ HasPair message.toList) :
    withoutEmptyName message = message := by
  unfold withoutEmptyName
  rw [dropAll_eq_self fun spaced => unpaired (.of_spaced spaced), dropAll_eq_self unpaired,
    String.ofList_toList]

/-- Of a message that begins with the subject, the empty name is taken out and nothing else, if
the words after the subject hold no pair. -/
theorem withoutEmptyName_subject {rest : String} (unpaired : ¬ HasPair rest.toList) :
    withoutEmptyName (Violation.subject "" ++ rest) = "Field" ++ rest := by
  -- The letter before the gap cannot be paired with a quote that the rest begins with.
  have kept : ¬ HasPair ("Field" ++ rest).toList := by
    rw [String.toList_append]
    simpa [HasPair, List.infix_cons_iff] using unpaired
  have laidOut : (Violation.subject "" ++ rest).toList =
      'F' :: 'i' :: 'e' :: 'l' :: 'd' :: ([' ', '\'', '\''] ++ rest.toList) := by
    rw [String.toList_append]
    rfl
  have spaced : dropAll [' ', '\'', '\''] (Violation.subject "" ++ rest).toList =
      "Field".toList ++ rest.toList := by
    rw [laidOut]
    iterate 5 rw [dropAll_cons (by simp)]
    rw [dropAll_append (by simp), dropAll_eq_self fun inside => unpaired (.of_spaced inside)]
    rfl
  unfold withoutEmptyName
  rw [spaced, ← String.toList_append, dropAll_eq_self kept, String.ofList_toList]

theorem not_hasPair_withoutEmptyName (message : String) :
    ¬ HasPair (withoutEmptyName message).toList := by
  unfold withoutEmptyName
  rw [String.toList_ofList]
  exact not_hasPair_dropAll _

/-! ### Messages about single values -/

variable {value : Value} {rules message : String} {settings : Settings} {roster : Option Roster}

/-- No message about a single value holds two quotes in a row. -/
theorem not_hasPair_of_mem_enforceValue
    (member : message ∈ enforceValue value rules settings roster) : ¬ HasPair message.toList := by
  obtain ⟨violation, _, rfl⟩ := List.mem_map.1 member
  exact not_hasPair_withoutEmptyName _

/-- What a named check says of a value is among the messages of the directive that names it. -/
theorem Directive.mem_messages_of_check {directive : Directive} {checks : Roster}
    {name : List Char} {check : Check} (isCustom : directive.keyword = .custom)
    (named : name ∈ directive.argumentList) (found : checks.find? (String.ofList name) = some check)
    (rejects : check value.raw = some message) (worded : message ≠ "") (field : String) :
    message ∈ directive.messages field value settings (some checks) := by
  have answer : checked checks value.raw (String.ofList name) = some (.reported message) := by
    unfold checked
    rw [found]
    show (check value.raw).map _ = _
    rw [rejects, Option.map_some, if_neg worded]
  have reported : .reported message ∈ directive.custom value (some checks) :=
    List.mem_filterMap.2 ⟨name, named, answer⟩
  unfold messages evaluate
  rw [isCustom]
  exact List.mem_map.2 ⟨.reported message, reported, rfl⟩

/-- What a named check says of a single value is among the messages without its pairs of quotes,
and is among them as it is exactly when it holds no two quotes in a row. -/
theorem mem_enforceValue_iff_of_check {directive : Directive} {checks : Roster} {name : List Char}
    {check : Check} (given : directive ∈ readRules rules) (isCustom : directive.keyword = .custom)
    (named : name ∈ directive.argumentList) (found : checks.find? (String.ofList name) = some check)
    (rejects : check value.raw = some message) (worded : message ≠ "") :
    withoutEmptyName message ∈ enforceValue value rules settings (some checks) ∧
      (message ∈ enforceValue value rules settings (some checks) ↔ ¬ HasPair message.toList) := by
  have elided : withoutEmptyName message ∈ enforceValue value rules settings (some checks) := by
    rw [enforceValue_eq_flatMap]
    exact List.mem_flatMap.2 ⟨directive, given, List.mem_map.2 ⟨message,
      directive.mem_messages_of_check isCustom named found rejects worded "", rfl⟩⟩
  refine ⟨elided, not_hasPair_of_mem_enforceValue, fun unpaired => ?_⟩
  rwa [withoutEmptyName_eq_self unpaired] at elided

/-- Words with quotes and blanks, but no two quotes in a row. -/
theorem mem_enforceValue_of_check_spaced :
    let sentence := "it's  'so' "
    let checks : Roster := [[("other", fun _ => none)], [("c", fun _ => some sentence)]]
    let directive : Directive := ⟨"custom", some "other,c"⟩
    directive ∈ readRules "max:1 custom:other,c" ∧
      checks.find? "c" = some (fun _ => some sentence) ∧ ¬ HasPair sentence.toList ∧
      sentence ∈ enforceValue (.text "xyz") "max:1 custom:other,c" .standard (some checks) := by
  intro sentence checks directive
  have given : directive ∈ readRules "max:1 custom:other,c" := by decide +kernel
  have named : ['c'] ∈ directive.argumentList := by decide
  have found : checks.find? (String.ofList ['c']) = some (fun _ => some sentence) := rfl
  have unpaired : ¬ HasPair sentence.toList := by simp [sentence, List.infix_cons_iff]
  have asItIs :
      sentence ∈ enforceValue (.text "xyz") "max:1 custom:other,c" .standard (some checks) ↔
        ¬ HasPair sentence.toList :=
    (mem_enforceValue_iff_of_check given (by decide) named found rfl (by decide)).2
  exact ⟨given, rfl, unpaired, asItIs.2 unpaired⟩

/-- A check says a word with two quotes in it, which is reported without them. -/
theorem enforceValue_drops_quotes_of_check :
    let sentence := "it''s"
    let checks : Roster := [[("c", fun _ => some sentence)]]
    (⟨"custom", some "c"⟩ : Directive) ∈ readRules "custom:c" ∧
      checks.find? "c" = some (fun _ => some sentence) ∧ sentence ≠ "" ∧
      enforceValue (.text "x") "custom:c" .standard (some checks) = ["its"] ∧
      sentence ∉ enforceValue (.text "x") "custom:c" .standard (some checks) := by
  intro sentence checks
  have messages : enforceValue (.text "x") "custom:c" .standard (some checks) = ["its"] := by
    decide +kernel
  refine ⟨by decide +kernel, rfl, by decide, messages, ?_⟩
  rw [messages]
  decide

end Rulebook
