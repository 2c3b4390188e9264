/-
This file proves that a list of wanted values and a list of unwanted ones are opposites.

The two rules go through one list of candidates, each in its own way. They blame the same candidates
for not being values of the kind, in the same order; and one reports an unwanted value exactly when
the other does not miss a wanted one. A text in a quotation may hold blanks, quotes and colons, so
that every list of texts without commas can be written as a rule, as long as no quote stands before
a blank. The rule then accepts exactly the texts of the list, or exactly the others.
-/
import Rulebook.Proofs.Enforcement.Bounds
import Rulebook.Proofs.Rule.Membership
import Rulebook.Proofs.Rule.Spelling

namespace Rulebook

open Text

/-! ### The messages of the two rules -/

section Messages

variable {value : Value} {field arguments : String} {settings : Settings} {roster : Option Roster}

/-- The reports about the candidates that cannot be read. -/
def Value.reports (value : Value) (field : String) (report : String → Violation)
    (candidates : List (List Char)) : List String :=
  (value.unreadable candidates).map fun candidate => (report candidate).message field

theorem messages_enum_of_exists (comparable : Directive.canCompare value.kind = true)
    (listed : ∃ candidate ∈ arguments.toList.splitOn ',', value.Equals candidate) :
    (⟨"enum", some arguments⟩ : Directive).messages field value settings roster =
      value.reports field .badMember (arguments.toList.splitOn ',') := by
  have found : (⟨"enum", some arguments⟩ : Directive).oneOf value =
      (value.unreadable (arguments.toList.splitOn ',')).map .badMember :=
    Directive.oneOf_of_exists comparable listed
  exact (congrArg (List.map (Violation.message field)) found).trans List.map_map

theorem messages_enum_of_none (comparable : Directive.canCompare value.kind = true)
    (none : ∀ candidate ∈ arguments.toList.splitOn ',', ¬ value.Equals candidate) :
    (⟨"enum", some arguments⟩ : Directive).messages field value settings roster =
      value.reports field .badMember (arguments.toList.splitOn ',') ++
        [(Violation.noMember ((arguments.toList.splitOn ',').map String.ofList)).message field] := by
  have found : (⟨"enum", some arguments⟩ : Directive).oneOf value =
      (value.unreadable (arguments.toList.splitOn ',')).map .badMember ++
        [.noMember ((arguments.toList.splitOn ',').map String.ofList)] :=
    Directive.oneOf_of_none comparable none
  refine (congrArg (List.map (Violation.message field)) found).trans ?_
  rw [List.map_append, List.map_map]
  rfl

theorem messages_exclude_eq (comparable : Directive.canCompare value.kind = true) :
    (⟨"exclude", some arguments⟩ : Directive).messages field value settings roster =
      (Directive.exclusions value false (arguments.toList.splitOn ',')).map
        (Violation.message field) :=
  congrArg (List.map (Violation.message field)) (Directive.noneOf_eq comparable)

theorem messages_exclude_of_none (comparable : Directive.canCompare value.kind = true)
    (none : ∀ candidate ∈ arguments.toList.splitOn ',', ¬ value.Equals candidate) :
    (⟨"exclude", some arguments⟩ : Directive).messages field value settings roster =
      value.reports field .badExclusion (arguments.toList.splitOn ',') := by
  rw [messages_exclude_eq comparable, Directive.exclusions_eq_map (.inr none), List.map_map]
  rfl

theorem messages_exclude_of_split (comparable : Directive.canCompare value.kind = true)
    {before after : List (List Char)} {first : List Char}
    (split : arguments.toList.splitOn ',' = before ++ first :: after)
    (others : ∀ candidate ∈ before, ¬ value.Equals candidate) (equal : value.Equals first) :
    (⟨"exclude", some arguments⟩ : Directive).messages field value settings roster =
      value.reports field .badExclusion before ++
        (Violation.excluded (String.ofList first)).message field ::
          value.reports field .badExclusion after := by
  rw [messages_exclude_eq comparable, split, Directive.exclusions_eq_of_split others equal,
    List.map_append, List.map_cons, List.map_map, List.map_map]
  rfl

/-- What is worded otherwise is not among the reports about candidates that cannot be read. -/
theorem message_notMem_reports {report : String → Violation} {violation : Violation}
    (apart : ∀ candidate, (report candidate).message field ≠ violation.message field)
    (candidates : List (List Char)) :
    violation.message field ∉ value.reports field report candidates := by
  intro member
  obtain ⟨candidate, _, worded⟩ := List.mem_map.1 member
  exact apart candidate worded

theorem message_badMember_ne_noMember (field candidate : String) (listed : List String) :
    (Violation.badMember candidate).message field ≠ (Violation.noMember listed).message field := by
  unfold Violation.message Violation.subject
  simp [← String.toList_inj]

theorem message_badExclusion_ne_excluded (field candidate other : String) :
    (Violation.badExclusion candidate).message field ≠
      (Violation.excluded other).message field := by
  unfold Violation.message Violation.subject
  simp [← String.toList_inj]

end Messages

/-! ### Lists of texts -/

section Texts

variable {parts : List String}

/-- Texts without commas, joined with commas, are the candidates again. -/
theorem argumentList_intercalate {name : String} (nonempty : parts ≠ [])
    (unmarked : ∀ part ∈ parts, ',' ∉ part.toList) :
    (⟨name, some (",".intercalate parts)⟩ : Directive).argumentList =
      parts.map String.toList := by
  show (",".intercalate parts).toList.splitOn ',' = _
  rw [String.toList_intercalate]
  exact List.splitOn_intercalate ',' (List.forall_mem_map.2 unmarked) (by simpa using nonempty)

theorem exists_equals_text_iff {content : String} :
    (∃ candidate ∈ parts.map String.toList, (Value.text content).Equals candidate) ↔
      content ∈ parts := by
  constructor
  · rintro ⟨candidate, member, rfl⟩
    obtain ⟨part, listed, same⟩ := List.mem_map.1 member
    rwa [← String.toList_inj.1 same]
  · intro listed
    exact ⟨content.toList, List.mem_map_of_mem listed, rfl⟩

/-- A list in a quotation is read as it is, if no quote in it stands before a blank. -/
theorem readRules_quoted {name arguments : String} (isName : IsName name)
    (unbroken : ∀ next, isBlank next = true → ¬ ['\'', next] <:+: arguments.toList) :
    readRules (name ++ ":'" ++ arguments ++ "'") = [⟨name, some arguments⟩] := by
  have spelled := Directive.Spelled.quoted isName unbroken
  have text : (name ++ ":'" ++ arguments ++ "'").toList =
      name.toList ++ ':' :: '\'' :: arguments.toList ++ ['\''] := by
    simp
  rw [← text] at spelled
  exact spelled.readRules_eq

/-- A list of wanted texts, written as a quotation, is kept to by the texts of the list. -/
theorem enforceValue_enum_eq_nil_iff (nonempty : parts ≠ [])
    (unmarked : ∀ part ∈ parts, ',' ∉ part.toList)
    (unbroken : ∀ next, isBlank next = true → ¬ ['\'', next] <:+: (",".intercalate parts).toList)
    (content : String) (settings : Settings) (roster : Option Roster) :
    enforceValue (.text content) ("enum:'" ++ ",".intercalate parts ++ "'") settings roster = [] ↔
      content ∈ parts := by
  have comparable : Directive.canCompare (Value.text content).kind = true := rfl
  refine (enforceValue_eq_nil_iff (@readRules_quoted "enum" _ (by decide) unbroken)).trans ?_
  refine (Directive.oneOf_eq_nil_iff comparable).trans ?_
  rw [argumentList_intercalate nonempty unmarked, Value.unreadable_text, exists_equals_text_iff]
  exact and_iff_right rfl

/-- A list of unwanted texts, written as a quotation, is kept to by all other texts. -/
theorem enforceValue_exclude_eq_nil_iff (nonempty : parts ≠ [])
    (unmarked : ∀ part ∈ parts, ',' ∉ part.toList)
    (unbroken : ∀ next, isBlank next = true → ¬ ['\'', next] <:+: (",".intercalate parts).toList)
    (content : String) (settings : Settings) (roster : Option Roster) :
    enforceValue (.text content) ("exclude:'" ++ ",".intercalate parts ++ "'") settings roster =
      [] ↔ content ∉ parts := by
  have comparable : Directive.canCompare (Value.text content).kind = true := rfl
  refine (enforceValue_eq_nil_iff (@readRules_quoted "exclude" _ (by decide) unbroken)).trans ?_
  refine (Directive.noneOf_eq_nil_iff comparable).trans ?_
  rw [argumentList_intercalate nonempty unmarked, Value.unreadable_text, and_iff_right rfl,
    ← exists_equals_text_iff, not_exists]
  exact forall_congr' fun candidate => not_and.symm

end Texts

/-! ### The two rules -/

/-- Of one list of candidates, the two rules report the same ones as unreadable, in the same order.
An unwanted value is reported exactly when a wanted one is not missed; it is the first candidate
that is the value, and the only one. A text keeps to a quoted list exactly when it is in the list,
and to the same list of unwanted texts exactly when it is not. -/
theorem excluded_mem_messages_iff_noMember_notMem {value : Value}
    (comparable : value.kind ∈ [Kind.text, .integer, .unsigned, .float])
    (field arguments : String) (settings : Settings) (roster : Option Roster) :
    let candidates := arguments.toList.splitOn ','
    let wanted := (⟨"enum", some arguments⟩ : Directive).messages field value settings roster
    let unwanted := (⟨"exclude", some arguments⟩ : Directive).messages field value settings roster
    let missed := (Violation.noMember (candidates.map String.ofList)).message field
    let excluded (candidate : String) := (Violation.excluded candidate).message field
    ((∃ candidate, excluded candidate ∈ unwanted) ↔ missed ∉ wanted) ∧
      (wanted = value.reports field .badMember candidates ∨
        wanted = value.reports field .badMember candidates ++ [missed]) ∧
      (unwanted = value.reports field .badExclusion candidates ∧
          (∀ candidate ∈ candidates, ¬ value.Equals candidate) ∨
        ∃ before first after, candidates = before ++ first :: after ∧
          (∀ candidate ∈ before, ¬ value.Equals candidate) ∧ value.Equals first ∧
          unwanted = value.reports field .badExclusion before ++
            excluded (String.ofList first) :: value.reports field .badExclusion after) ∧
      ∀ content parts, value = .text content → parts ≠ [] →
        (∀ part ∈ parts, ',' ∉ part.toList) →
        (∀ next, isBlank next = true → ¬ ['\'', next] <:+: (",".intercalate parts).toList) →
        (enforceValue value ("enum:'" ++ ",".intercalate parts ++ "'") settings roster = [] ↔
            content ∈ parts) ∧
          (enforceValue value ("exclude:'" ++ ",".intercalate parts ++ "'") settings roster = [] ↔
            content ∉ parts) := by
  intro candidates wanted unwanted missed excluded
  have canCompare : Directive.canCompare value.kind = true := by
    revert comparable
    cases value.kind <;> decide
  have texts : ∀ content parts, value = .text content → parts ≠ [] →
      (∀ part ∈ parts, ',' ∉ part.toList) →
      (∀ next, isBlank next = true → ¬ ['\'', next] <:+: (",".intercalate parts).toList) →
      (enforceValue value ("enum:'" ++ ",".intercalate parts ++ "'") settings roster = [] ↔
          content ∈ parts) ∧
        (enforceValue value ("exclude:'" ++ ",".intercalate parts ++ "'") settings roster = [] ↔
          content ∉ parts) := by
    rintro content parts rfl nonempty unmarked unbroken
    exact ⟨enforceValue_enum_eq_nil_iff nonempty unmarked unbroken content settings roster,
      enforceValue_exclude_eq_nil_iff nonempty unmarked unbroken content settings roster⟩
  by_cases listed : ∃ candidate ∈ candidates, value.Equals candidate
  · obtain ⟨before, first, after, split, others, equal⟩ := Value.exists_first listed
    have wantedEq : wanted = value.reports field .badMember candidates :=
      messages_enum_of_exists canCompare listed
    have unwantedEq : unwanted = value.reports field .badExclusion before ++
        excluded (String.ofList first) :: value.reports field .badExclusion after :=
      messages_exclude_of_split canCompare split others equal
    refine ⟨iff_of_true ⟨String.ofList first, ?_⟩ ?_, .inl wantedEq,
      .inr ⟨before, first, after, split, others, equal, unwantedEq⟩, texts⟩
    · rw [unwantedEq]
      exact List.mem_append_right _ List.mem_cons_self
    · rw [wantedEq]
      exact message_notMem_reports (message_badMember_ne_noMember field · _) candidates
  · have none : ∀ candidate ∈ candidates, ¬ value.Equals candidate :=
      fun candidate member equal => listed ⟨candidate, member, equal⟩
    have wantedEq : wanted = value.reports field .badMember candidates ++ [missed] :=
      messages_enum_of_none canCompare none
    have unwantedEq : unwanted = value.reports field .badExclusion candidates :=
      messages_exclude_of_none canCompare none
    refine ⟨iff_of_false ?_ ?_, .inr wantedEq, .inl ⟨unwantedEq, none⟩, texts⟩
    · rintro ⟨candidate, member⟩
      rw [unwantedEq] at member
      exact message_notMem_reports (message_badExclusion_ne_excluded field · candidate) candidates
        member
    · rw [wantedEq, not_not]
      exact List.mem_append_right _ List.mem_cons_self

/-- A number that stands twice in the list, behind what is no number; and a text with a quote, a
colon and a blank, in a list that ends in a quote. -/
theorem excluded_mem_messages_iff_noMember_notMem_age :
    let kinds := [Kind.text, .integer, .unsigned, .float]
    let wanted := (⟨"enum", some "nine,9,09"⟩ : Directive).messages "age" (.integer 9) .standard none
    let unwanted := (⟨"exclude", some "nine,9,09"⟩ : Directive).messages "age" (.integer 9) .standard
      none
    let value := Value.text "it's: "
    let parts := ["a b", "it's: ", "'"]
    (Value.integer 9).kind ∈ kinds ∧ value.kind ∈ kinds ∧ parts ≠ [] ∧
      (∀ part ∈ parts, ',' ∉ part.toList) ∧
      (∀ next, isBlank next = true → ¬ ['\'', next] <:+: (",".intercalate parts).toList) ∧
      unwanted = ["Invalid exclude value 'nine' for field 'age'",
        "Field 'age' contains excluded value: 9"] ∧
      "Field 'age' does not match any enum values: nine, 9, 09" ∉ wanted ∧
      enforceValue value "enum:'a b,it's: ,''" .standard none = [] ∧
      enforceValue value "exclude:'a b,it's: ,''" .standard none ≠ [] := by
  intro kinds wanted unwanted value parts
  have unmarked : ∀ part ∈ parts, ',' ∉ part.toList := by decide
  have unbroken : ∀ next, isBlank next = true →
      ¬ ['\'', next] <:+: (",".intercalate parts).toList := by
    intro next blank within
    have letter : next = 's' := by
      simpa [parts, String.toList_intercalate, List.intercalate, List.infix_cons_iff] using within
    subst letter
    cases blank
  have whole : (Value.integer 9).kind ∈ kinds := by decide
  have written : value.kind ∈ kinds := by decide
  have opposite := excluded_mem_messages_iff_noMember_notMem whole "age" "nine,9,09" .standard none
  have texts := (excluded_mem_messages_iff_noMember_notMem written "" "" .standard none).2.2.2
    "it's: " parts rfl (by decide) unmarked unbroken
  have reported : unwanted = ["Invalid exclude value 'nine' for field 'age'",
      "Field 'age' contains excluded value: 9"] := rfl
  have excluded : (Violation.excluded "9").message "age" ∈ unwanted := by
    rw [reported]
    exact List.mem_cons_of_mem _ (List.mem_singleton.2 rfl)
  refine ⟨whole, written, by decide, unmarked, unbroken, reported, ?_, texts.1.2 (by decide), ?_⟩
  · exact opposite.1.1 ⟨"9", excluded⟩
  · exact fun silent => texts.2.1 silent (by decide)

end Rulebook
