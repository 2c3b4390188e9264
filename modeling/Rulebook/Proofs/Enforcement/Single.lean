/-
This file proves how single values are enforced.

A value is of its own kind, so nothing has to be brought in line, and the messages are
those of the directives in order, each applied with a fresh store of patterns. Two things
follow. Rule texts add up: two texts with a blank between them are enforced one after the
other, if no quote in the first one stands directly after a colon and could open a quotation
that reaches into the second one. And a record whose one field holds the value has the same
violations, since a violation is found before the field is named; the name only comes in
with the wording.
-/
import Rulebook.Proofs.Enforcement.Blocks
import Rulebook.Proofs.Rule.Words

namespace Rulebook

open Text

/-! ### The messages of a rule text -/

/-- A value is in line with its own kind. -/
theorem violations_kind (value : Value) (directives : List Directive) (settings : Settings)
    (roster : Option Roster) (store : PatternStore) :
    violations value.kind value directives settings roster store =
      evaluateAll value settings roster store directives := by
  unfold violations
  rw [reconcile_of_kind rfl]

/-- The messages about a single value are those of the directives, without the empty name. -/
theorem enforceValue_eq_flatMap (value : Value) (rules : String) (settings : Settings)
    (roster : Option Roster) :
    enforceValue value rules settings roster =
      (readRules rules).flatMap fun directive =>
        (directive.messages "" value settings roster).map withoutEmptyName := by
  unfold enforceValue
  rw [violations_kind, evaluateAll_fst settings.accepts_store, List.map_flatMap]
  simp only [Directive.messages, List.map_map, Function.comp_def]

/-- A single value has a message exactly when a field that holds it has one. -/
theorem enforceValue_eq_nil_iff_messages (value : Value) (rules field : String)
    (settings : Settings) (roster : Option Roster) :
    enforceValue value rules settings roster = [] ↔
      ((readRules rules).flatMap fun directive =>
        directive.messages field value settings roster) = [] := by
  rw [enforceValue_eq_flatMap]
  unfold Directive.messages
  simp only [List.flatMap_eq_nil_iff, List.map_eq_nil_iff]

/-! ### Rule texts in a row -/

/-- Blanks set two rule texts apart, if no quote in the first one follows a colon. -/
theorem readRules_append {first gap : String} (second : String)
    (plain : ¬ [':', '\''] <:+: first.toList) (blank : isBlankText gap.toList = true)
    (apart : gap ≠ "") :
    readRules (first ++ gap ++ second) = readRules first ++ readRules second := by
  obtain ⟨character, more, split⟩ : ∃ character more, gap.toList = character :: more :=
    List.exists_cons_of_ne_nil (by simpa using apart)
  obtain ⟨isGap, others⟩ := isBlankText_cons.1 (split ▸ blank)
  have laidOut : (first ++ gap ++ second).toList =
      first.toList ++ character :: (more ++ second.toList) := by
    rw [String.toList_append, String.toList_append, split, List.append_assoc, List.cons_append]
  unfold readRules
  rw [laidOut, words_append_blank _ plain isGap, words_blanks others, List.map_append]

/-- The messages about two rule texts in a row are those about the first one, followed by those
about the second one. -/
theorem enforceValue_append {first gap : String} (second : String)
    (plain : ¬ [':', '\''] <:+: first.toList) (blank : isBlankText gap.toList = true)
    (apart : gap ≠ "") (value : Value) (settings : Settings) (roster : Option Roster) :
    enforceValue value (first ++ gap ++ second) settings roster =
      enforceValue value first settings roster ++ enforceValue value second settings roster := by
  simp only [enforceValue_eq_flatMap, readRules_append second plain blank apart,
    List.flatMap_append]

/-- The first text ends in a colon and the second one begins with a quotation. -/
theorem enforceValue_append_colon :
    let first := "required it's min:"
    let second := "'a b' max:'1 '"
    ¬ [':', '\''] <:+: first.toList ∧ isBlankText "\t ".toList = true ∧ "\t " ≠ "" ∧
      enforceValue (.text "") (first ++ "\t " ++ second) .standard none =
        enforceValue (.text "") first .standard none ++
          enforceValue (.text "") second .standard none := by
  intro first second
  have plain : ¬ [':', '\''] <:+: first.toList := by simp [first, List.infix_cons_iff]
  exact ⟨plain, by decide, by decide,
    enforceValue_append second plain (by decide) (by decide) (.text "") .standard none⟩

/-! ### A record with one field -/

variable {Store : Type} [FieldStore Store] {schema : Schema} {record : Store} {name rules : String}
  {value : Value}

/-- A record with one field that has rules has the violations of that field. -/
theorem enforce_eq_map_violations_of_ruled {declared : Kind}
    (single : schema.fields = [⟨name, declared, rules⟩])
    (held : FieldStore.read? schema record name = some value) (ruled : readRules rules ≠ [])
    (settings : Settings) (roster : Option Roster) :
    enforce schema record settings roster =
      (violations declared value (readRules rules) settings roster settings.store).1.map
        (Violation.message name) := by
  have nonempty : (readRules rules).isEmpty = false := List.isEmpty_eq_false_iff.2 ruled
  unfold enforce
  rw [single]
  simp only [walk, Field.directives, nonempty, held, Option.getD_some, List.append_nil,
    List.map_map, Bool.false_eq_true, if_false]
  rfl

/-- A record with one field has the violations of the value that the field holds. -/
theorem enforce_eq_map_violations (single : schema.fields = [⟨name, value.kind, rules⟩])
    (held : FieldStore.read? schema record name = some value) (settings : Settings)
    (roster : Option Roster) :
    enforce schema record settings roster =
      (violations value.kind value (readRules rules) settings roster settings.store).1.map
        (Violation.message name) := by
  by_cases ruled : readRules rules = []
  · unfold enforce
    rw [single]
    simp only [walk, Field.directives, violations_kind, ruled]
    rfl
  · exact enforce_eq_map_violations_of_ruled single held ruled settings roster

/-- A single value and a record whose one field holds it have the same violations: the two lists of
messages differ only in the name of the field and in the elision of the empty name. -/
theorem enforceValue_agrees_with_enforce (single : schema.fields = [⟨name, value.kind, rules⟩])
    (held : FieldStore.read? schema record name = some value) (settings : Settings)
    (roster : Option Roster) :
    (∃ found : List Violation,
        enforce schema record settings roster = found.map (Violation.message name) ∧
          enforceValue value rules settings roster =
            found.map fun violation => withoutEmptyName (violation.message "")) ∧
      (enforce schema record settings roster).length =
        (enforceValue value rules settings roster).length ∧
      (enforce schema record settings roster = [] ↔
        enforceValue value rules settings roster = []) ∧
      (name = "" → enforceValue value rules settings roster =
        (enforce schema record settings roster).map withoutEmptyName) := by
  have worded := enforce_eq_map_violations single held settings roster
  unfold enforceValue
  rw [worded]
  refine ⟨⟨_, rfl, rfl⟩, ?length, ?empty, ?unnamed⟩
  case length => rw [List.length_map, List.length_map]
  case empty => rw [List.map_eq_nil_iff, List.map_eq_nil_iff]
  case unnamed =>
    rintro rfl
    rw [List.map_map]
    rfl

/-- A typed record under a name and under the empty name. -/
theorem enforceValue_agrees_with_enforce_age :
    let rules := "required exclude:9,nine min:10"
    let schema (name : String) : Schema := ⟨"Guest", [⟨name, .integer, rules⟩]⟩
    let record (name : String) : TypedRecord := [(name, .integer 9)]
    let single := enforceValue (.integer 9) rules .standard none
    (enforce (schema "age") (record "age") .standard none).length = single.length ∧
      single = (enforce (schema "") (record "") .standard none).map withoutEmptyName ∧
      single = ["Field contains excluded value: 9", "Invalid exclude value 'nine' for field",
        "Field must be at least 10"] := by
  intro rules schema record single
  have named := enforceValue_agrees_with_enforce
    (show (schema "age").fields = [⟨"age", (Value.integer 9).kind, rules⟩] from rfl)
    (show FieldStore.read? (schema "age") (record "age") "age" = some (.integer 9) from rfl)
    .standard none
  have unnamed := enforceValue_agrees_with_enforce
    (show (schema "").fields = [⟨"", (Value.integer 9).kind, rules⟩] from rfl)
    (show FieldStore.read? (schema "") (record "") "" = some (.integer 9) from rfl)
    .standard none
  exact ⟨named.2.1, unnamed.2.2.2 rfl, by decide +kernel⟩

end Rulebook
