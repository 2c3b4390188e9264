/-
This file cuts a text at a character.

A cut at the first mark gives what stands before it and after it. A cut at all
marks is that of lists in general, and a text with `n` marks is `n + 1` pieces.
-/

namespace Rulebook.Text

/-- The parts before and after the first mark, if the mark occurs. -/
def cutFirst (mark : Char) : List Char → Option (List Char × List Char)
  | [] => none
  | character :: rest =>
    if character = mark then some ([], rest)
    else (cutFirst mark rest).map fun (before, after) => (character :: before, after)

/-! ### The first mark -/

theorem eq_append_of_cutFirst {mark : Char} {text before after : List Char}
    (cut : cutFirst mark text = some (before, after)) : text = before ++ mark :: after := by
  induction text generalizing before with
  | nil => cases cut
  | cons character rest induction =>
    unfold cutFirst at cut
    split at cut
    · next found =>
      cases cut
      rw [found]
      rfl
    · obtain ⟨⟨inner, last⟩, found, same⟩ := Option.map_eq_some_iff.1 cut
      cases same
      rw [induction found]
      rfl

/-- The first mark divides a text. -/
theorem cutFirst_append {mark : Char} {before : List Char} (unmarked : mark ∉ before)
    (after : List Char) : cutFirst mark (before ++ mark :: after) = some (before, after) := by
  induction before with
  | nil => simp [cutFirst]
  | cons character rest induction =>
    obtain ⟨different, unmarkedRest⟩ := List.ne_and_not_mem_of_not_mem_cons unmarked
    rw [List.cons_append, cutFirst, if_neg different.symm, induction unmarkedRest]
    rfl

theorem notMem_of_cutFirst {mark : Char} {text before after : List Char}
    (cut : cutFirst mark text = some (before, after)) : mark ∉ before := by
  induction text generalizing before with
  | nil => cases cut
  | cons character rest induction =>
    unfold cutFirst at cut
    split at cut
    · cases cut
      exact List.not_mem_nil
    · next different =>
      obtain ⟨⟨inner, last⟩, found, same⟩ := Option.map_eq_some_iff.1 cut
      cases same
      exact List.not_mem_cons_of_ne_of_not_mem (Ne.symm different) (induction found)

/-- A cut at the first mark is the split of the text with no mark in the first part. -/
theorem cutFirst_eq_some_iff {mark : Char} {text before after : List Char} :
    cutFirst mark text = some (before, after) ↔ mark ∉ before ∧ text = before ++ mark :: after := by
  constructor
  · exact fun cut => ⟨notMem_of_cutFirst cut, eq_append_of_cutFirst cut⟩
  · rintro ⟨unmarked, rfl⟩
    exact cutFirst_append unmarked after

theorem cutFirst_eq_none {mark : Char} {text : List Char} (unmarked : mark ∉ text) :
    cutFirst mark text = none := by
  induction text with
  | nil => rfl
  | cons character rest induction =>
    obtain ⟨different, unmarkedRest⟩ := List.ne_and_not_mem_of_not_mem_cons unmarked
    rw [cutFirst, if_neg different.symm, induction unmarkedRest]
    rfl

/-! ### All marks -/

/-- There is one piece more than there are marks. -/
theorem length_splitOn (mark : Char) (text : List Char) :
    (text.splitOn mark).length = text.count mark + 1 := by
  induction text with
  | nil => rfl
  | cons character rest induction =>
    rw [List.splitOn_cons_eq_if_modifyHead, List.count_cons]
    split
    · rw [List.length_cons, induction]
    · rw [List.length_modifyHead, induction]

end Rulebook.Text
