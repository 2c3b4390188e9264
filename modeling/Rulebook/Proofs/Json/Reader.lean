/-
This file proves how an object with one string is read from JSON text.

A string without quotes, backslashes and control characters stands for itself: it ends at the first
quote, and nothing in it is escaped. Nothing else is needed of the reader where a text in quotes is
compared with the same text in another format.
-/
import Rulebook.Json.Reader

namespace Rulebook

namespace JsonForm

/-! ### Strings -/

/-- A character that stands for itself in a string. -/
def IsPlainChar (character : Char) : Prop :=
  character ≠ '"' ∧ character ≠ '\\' ∧ 32 ≤ character.toNat

instance (character : Char) : Decidable (IsPlainChar character) :=
  inferInstanceAs (Decidable (_ ∧ _ ∧ _))

theorem stringEnd?_cons {first : Char} (plain : IsPlainChar first) (read rest : List Char)
    (fuel : Nat) :
    stringEnd? (some read) (fuel + 1) (first :: rest) =
      stringEnd? (some (first :: read)) fuel rest := by
  obtain ⟨noQuote, noBackslash, visible⟩ := plain
  generalize later : stringEnd? (some (first :: read)) fuel rest = result
  unfold stringEnd?
  split
  · next same => cases same
  · next same => cases same
  · next same => exact absurd (List.cons.inj same).1 noQuote
  · next same => exact absurd (List.cons.inj same).1 noBackslash
  · next sameFuel same =>
    cases sameFuel
    cases same
    exact (if_neg (Nat.not_lt.2 visible)).trans later

/-- The characters of a plain text are read one by one, up to the closing quote. -/
theorem stringEnd?_plain {content : List Char}
    (plain : ∀ character ∈ content, IsPlainChar character) (read : List Char) {fuel : Nat}
    (enough : content.length < fuel) (rest : List Char) :
    stringEnd? (some read) fuel (content ++ '"' :: rest) =
      some (some (content.reverse ++ read), rest) := by
  induction content generalizing read fuel with
  | nil =>
    obtain ⟨fuel, rfl⟩ := Nat.exists_eq_succ_of_ne_zero (Nat.ne_of_gt enough)
    rfl
  | cons first more induction =>
    obtain ⟨fuel, rfl⟩ := Nat.exists_eq_succ_of_ne_zero (Nat.ne_of_gt (Nat.zero_lt_of_lt enough))
    obtain ⟨here, later⟩ := List.forall_mem_cons.1 plain
    rw [List.cons_append, stringEnd?_cons here,
      induction later (first :: read) (Nat.lt_of_succ_lt_succ enough), List.reverse_cons,
      List.append_assoc]
    rfl

theorem string?_plain {content : List Char}
    (plain : ∀ character ∈ content, IsPlainChar character) (rest : List Char) :
    string? (content ++ '"' :: rest) = some (some (String.ofList content), rest) := by
  have enough : content.length < (content ++ '"' :: rest).length + 1 := by
    rw [List.length_append]
    omega
  unfold string?
  rw [stringEnd?_plain plain [] enough, List.append_nil]
  simp only [Option.map_some, List.reverse_reverse]

/-! ### Objects -/

/-- An object whose one member is a string. -/
def memberText (name content : List Char) : List Char :=
  '{' :: '"' :: (name ++ '"' :: ':' :: '"' :: (content ++ ['"', '}']))

theorem members?_plain {name content : List Char}
    (plainName : ∀ character ∈ name, IsPlainChar character)
    (plainContent : ∀ character ∈ content, IsPlainChar character) (fuel : Nat) :
    members? (fuel + 2) ('"' :: (name ++ '"' :: ':' :: '"' :: (content ++ ['"', '}']))) =
      some ([(some (String.ofList name), .string (some (String.ofList content)))], []) := by
  have item : value? (fuel + 1) ('"' :: (content ++ ['"', '}'])) =
      some (.string (some (String.ofList content)), ['}']) := by
    show (string? (content ++ '"' :: ['}'])).map _ = _
    rw [string?_plain plainContent]
    rfl
  have named := string?_plain plainName (':' :: '"' :: (content ++ ['"', '}']))
  have begun : skip ('"' :: (name ++ '"' :: ':' :: '"' :: (content ++ ['"', '}']))) =
      '"' :: (name ++ '"' :: ':' :: '"' :: (content ++ ['"', '}'])) := rfl
  have colon : skip (':' :: '"' :: (content ++ ['"', '}'])) =
      ':' :: '"' :: (content ++ ['"', '}']) := rfl
  have brace : skip ['}'] = ['}'] := rfl
  unfold members?
  simp only [begun, named, colon, item, brace]

end JsonForm

open JsonForm

/-- An object with one plain string is read as it is written. -/
theorem Json.read?_memberText {name content : List Char}
    (plainName : ∀ character ∈ name, IsPlainChar character)
    (plainContent : ∀ character ∈ content, IsPlainChar character) :
    Json.read? (memberText name content) =
      some (.object [(String.ofList name, .string (String.ofList content))]) := by
  have members := members?_plain plainName plainContent
    (2 * (name ++ '"' :: ':' :: '"' :: (content ++ ['"', '}'])).length + 3)
  have length : 2 * (memberText name content).length + 2 =
      2 * (name ++ '"' :: ':' :: '"' :: (content ++ ['"', '}'])).length + 3 + 2 + 1 := by
    unfold memberText
    simp only [List.length_cons]
    omega
  have value : value? (2 * (memberText name content).length + 2) (memberText name content) =
      some (.object [(some (String.ofList name), .string (some (String.ofList content)))], []) := by
    rw [length]
    show (members? _ ('"' :: (name ++ '"' :: ':' :: '"' :: (content ++ ['"', '}'])))).map _ = _
    rw [members]
    rfl
  have form : JsonForm.read? (memberText name content) =
      some (.object [(some (String.ofList name), .string (some (String.ofList content)))]) := by
    unfold JsonForm.read?
    rw [value]
    rfl
  unfold Json.read?
  rw [form]
  rfl

end Rulebook
