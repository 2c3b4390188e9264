/-
This file keeps values under names, in the order of the names.

A list of entries has each name once when it is built by `put` from the empty
list, and its names ascend by code point. Finding a name takes the first entry
that bears it.
-/

namespace Rulebook

/-- Values under names. -/
abbrev Entries (Item : Type) : Type :=
  List (String × Item)

namespace Entries

variable {Item : Type}

/-- The value under a name. -/
def find? (entries : Entries Item) (name : String) : Option Item :=
  match entries with
  | [] => none
  | (first, item) :: rest => if first = name then some item else find? rest name

/-- Puts a value under a name, in place of the one that was there. -/
def put (entries : Entries Item) (name : String) (item : Item) : Entries Item :=
  match entries with
  | [] => [(name, item)]
  | (first, old) :: rest =>
    if first = name then (name, item) :: rest
    else if name < first then (name, item) :: (first, old) :: rest
    else (first, old) :: put rest name item

/-- Takes a name away. -/
def remove (entries : Entries Item) (name : String) : Entries Item :=
  entries.filter fun entry => entry.1 ≠ name

/-- The entries of a list of pairs, a later pair replacing an earlier one of its name. -/
def ofPairs (pairs : List (String × Item)) : Entries Item :=
  pairs.foldl (fun entries pair => entries.put pair.1 pair.2) []

/-! ### What is found after putting -/

theorem find?_eq_none_of_notMem {entries : Entries Item} {name : String}
    (missing : name ∉ entries.map Prod.fst) : entries.find? name = none := by
  induction entries with
  | nil => rfl
  | cons entry rest induction =>
    obtain ⟨first, item⟩ := entry
    obtain ⟨different, missingRest⟩ := List.ne_and_not_mem_of_not_mem_cons missing
    simp only [find?, different.symm, if_false]
    exact induction missingRest

theorem find?_put_self (entries : Entries Item) (name : String) (item : Item) :
    (entries.put name item).find? name = some item := by
  induction entries with
  | nil => simp [put, find?]
  | cons entry rest induction =>
    obtain ⟨first, old⟩ := entry
    unfold put
    by_cases same : first = name
    · simp [same, find?]
    · by_cases before : name < first
      · simp [same, before, find?]
      · simp [same, before, find?, induction]

theorem find?_put_of_ne (entries : Entries Item) {name other : String} (item : Item)
    (different : other ≠ name) : (entries.put name item).find? other = entries.find? other := by
  induction entries with
  | nil => simp [put, find?, different.symm]
  | cons entry rest induction =>
    obtain ⟨first, old⟩ := entry
    unfold put
    by_cases same : first = name
    · subst same
      simp [find?, different.symm]
    · by_cases before : name < first
      · simp [same, before, find?, different.symm]
      · simp [same, before, find?, induction]

end Entries

end Rulebook
