/-
This file proves that every message of the library says which field it is about.

The wording of a violation differs from rule to rule, and candidates, bounds and the names of
rules are quoted in it as they stand. But the name of the field is always there, in single
quotes. The one exception are the words of a named check, which are its own; without a roster
there are none. So whoever reads a message of a block finds the name of its field in it, and
the blocks come in the order of the schema.
-/
import Rulebook.Proofs.Enforcement.Blocks
import Rulebook.Proofs.Rule.Wording

namespace Rulebook

/-- The message holds the name of a field in single quotes. -/
def Names (field message : String) : Prop :=
  '\'' :: field.toList ++ ['\''] <:+: message.toList

/-! ### Putting a message together -/

namespace Names

variable {field front back : String}

theorem append_right (names : Names field front) (back : String) : Names field (front ++ back) := by
  unfold Names
  rw [String.toList_append]
  exact names.trans List.infix_append_left

/-- A quote before the name and a quote after it are all that is needed. -/
theorem of_quotes (field : String) (opens : front.toList.getLast? = some '\'')
    (closes : back.toList.head? = some '\'') : Names field (front ++ field ++ back) := by
  obtain ⟨lead, opened⟩ := List.getLast?_eq_some_iff.1 opens
  obtain ⟨rest, closed⟩ := List.head?_eq_some_iff.1 closes
  refine ⟨lead, rest, ?_⟩
  simp [opened, closed]

theorem subject (field : String) : Names field (Violation.subject field) :=
  of_quotes field rfl rfl

/-- The name stands behind a text of any kind and words that end in a quote. -/
theorem of_quotes_append (field text : String) (opens : front.toList.getLast? = some '\'')
    (closes : back.toList.head? = some '\'') : Names field (text ++ front ++ field ++ back) := by
  refine of_quotes field ?_ closes
  rw [String.toList_append, List.getLast?_append, opens]
  rfl

end Names

/-! ### The wording of violations -/

/-- Every violation is worded with the name of the field, but for what a named check says in its
own words. -/
theorem Violation.names_message {violation : Violation}
    (worded : ∀ message, violation ≠ .reported message) (field : String) :
    Names field (violation.message field) := by
  have subject := Names.subject field
  cases violation with
  | wrongKind declared => exact (subject.append_right _).append_right _
  | missing => exact .of_quotes field rfl rfl
  | inapplicable rule kind =>
    have quoted : Names field ("Unsupported type for field '" ++ field ++ "': ") :=
      .of_quotes field rfl rfl
    exact (((quoted.append_right _).append_right _).append_right _).append_right _
  | badRange => exact .of_quotes field rfl rfl
  | badMinimum => exact .of_quotes field rfl rfl
  | badMaximum => exact .of_quotes field rfl rfl
  | outside low high counted =>
    exact ((((subject.append_right _).append_right _).append_right _).append_right _).append_right _
  | tooSmall bound counted =>
    exact ((subject.append_right _).append_right _).append_right _
  | tooLarge bound counted =>
    exact ((subject.append_right _).append_right _).append_right _
  | badMember candidate => exact .of_quotes_append field _ rfl rfl
  | noMember candidates => exact (subject.append_right _).append_right _
  | badExclusion candidate => exact .of_quotes_append field _ rfl rfl
  | excluded candidate => exact (subject.append_right _).append_right _
  | badWordRange => exact .of_quotes field rfl rfl
  | wordsOutside low high =>
    exact ((((subject.append_right _).append_right _).append_right _).append_right _).append_right _
  | noAddress => exact subject.append_right _
  | noPhoneNumber => exact subject.append_right _
  | weakPassword lacking => exact (subject.append_right _).append_right _
  | badPattern => exact .of_quotes field rfl rfl
  | unmatched => exact subject.append_right _
  | failedCheck name => exact ((subject.append_right _).append_right _).append_right _
  | reported message => exact absurd rfl (worded message)
  | unknownCheck name => exact .of_quotes_append field _ rfl rfl
  | unknownRule name => exact .of_quotes_append field _ rfl rfl

/-! ### Blocks without a roster -/

section Blocks

variable {settings : Settings} {message : String}

/-- Without a roster no directive leaves out the name. -/
theorem Directive.names_of_mem_messages {directive : Directive} {field : String} {value : Value}
    (member : message ∈ directive.messages field value settings none) : Names field message := by
  obtain ⟨violation, found, rfl⟩ := List.mem_map.1 member
  have builtIn := List.all_eq_true.1
    (directive.isBuiltIn_evaluate value settings settings.store) violation found
  refine violation.names_message (fun words same => ?_) field
  rw [same] at builtIn
  cases builtIn

theorem Field.names_of_mem_messages {field : Field} {held : Option Value}
    (member : message ∈ field.messages held settings none) : Names field.name message := by
  unfold Field.messages at member
  split at member
  · cases member
  · cases fit : reconcile field.kind (held.getD field.kind.zero) with
    | error mismatch =>
      simp only [fit, List.mem_singleton] at member
      rw [member, ← Violation.message_wrongKind]
      exact Violation.names_message (by simp) field.name
    | ok value =>
      simp only [fit] at member
      obtain ⟨directive, _, said⟩ := List.mem_flatMap.1 member
      exact directive.names_of_mem_messages said

end Blocks

variable {Store : Type} [FieldStore Store]

/-- Enforcement without a roster is a block for each field, in the order of the schema, and every
message of a block holds the name of its field in single quotes. -/
theorem enforce_none_names_fields (schema : Schema) (record : Store) (settings : Settings) :
    enforce schema record settings none =
        (schema.fields.flatMap fun field =>
          field.messages (FieldStore.read? schema record field.name) settings none) ∧
      ∀ field ∈ schema.fields,
        ∀ message ∈ field.messages (FieldStore.read? schema record field.name) settings none,
          Names field.name message :=
  ⟨map_walk settings.accepts_store schema record none schema.fields,
    fun _ _ _ member => Field.names_of_mem_messages member⟩

/-- A field with a quote in its name, and a rule of another name that quotes as well. -/
theorem enforce_none_names_fields_quote :
    let field : Field := ⟨"it's", .integer, "enum:a,'b' 'size':3"⟩
    let schema : Schema := ⟨"Guest", [⟨"at", .temporal, "min:1"⟩, field]⟩
    let record : JsonRecord := [("it's", .string "5")]
    let message := "Unknown enforcement ''size'' for field 'it's'"
    field ∈ schema.fields ∧
      message ∈ field.messages (FieldStore.read? schema record field.name) .standard none ∧
      Names "it's" message := by
  intro field schema record message
  have declared : field ∈ schema.fields := by simp [schema]
  have member :
      message ∈ field.messages (FieldStore.read? schema record field.name) .standard none := by
    decide +kernel
  exact ⟨declared, member,
    (enforce_none_names_fields schema record .standard).2 field declared message member⟩

end Rulebook
