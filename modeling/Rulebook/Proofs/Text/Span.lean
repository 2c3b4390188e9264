/-
This file proves that a text can be split in one way only where a sort of characters ends.

The characters of a sort at the front of a text are taken off. If a text is put together from
characters of the sort and something that does not begin with one, then taking them off gives
just these two parts back; and what is left after taking them off never begins with one.
-/
import Mathlib.Data.List.Basic

namespace Rulebook.Text

variable {sort : Char → Bool} {front after : List Char}

/-- The text is empty or begins with a character that is not of the sort. -/
def BeginsOutside (sort : Char → Bool) (text : List Char) : Prop :=
  ∀ first ∈ text.head?, sort first = false

theorem beginsOutside_nil (sort : Char → Bool) : BeginsOutside sort [] := by
  intro first member
  cases member

theorem beginsOutside_cons {first : Char} (outside : sort first = false) (rest : List Char) :
    BeginsOutside sort (first :: rest) := by
  intro other member
  obtain rfl : first = other := Option.some.inj member
  exact outside

theorem beginsOutside_dropWhile (sort : Char → Bool) (text : List Char) :
    BeginsOutside sort (text.dropWhile sort) := by
  intro first member
  have stopped := List.head?_dropWhile_not sort text
  rw [Option.mem_def.1 member] at stopped
  exact stopped

theorem takeWhile_append_of_beginsOutside (all : ∀ character ∈ front, sort character = true)
    (outside : BeginsOutside sort after) : (front ++ after).takeWhile sort = front := by
  rw [List.takeWhile_append_of_pos all]
  cases after with
  | nil => exact List.append_nil front
  | cons first rest =>
    rw [List.takeWhile_cons_of_neg (by simp [outside first rfl]), List.append_nil]

theorem dropWhile_append_of_beginsOutside (all : ∀ character ∈ front, sort character = true)
    (outside : BeginsOutside sort after) : (front ++ after).dropWhile sort = after := by
  rw [List.dropWhile_append_of_pos all]
  cases after with
  | nil => rfl
  | cons first rest => exact List.dropWhile_cons_of_neg (by simp [outside first rfl])

end Rulebook.Text
