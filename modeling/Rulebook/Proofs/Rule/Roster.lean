/-
This file proves which check a roster finds under a name.

A layer comes from inserting checks one after the other, and a roster is a list of layers. Inserting
replaces, so in a layer the last check of a name counts, while among the layers it is the first one
that has the name. The two rules run in opposite directions. So one layer alone finds what
the roster finds if the checks of all its layers are inserted from the last layer to the first.
-/
import Rulebook.Rule.Roster

namespace Rulebook

/-! ### Entries put one after the other -/

namespace Entries

variable {Item : Type}

/-- The item was put under the name, and no other one after it. -/
def IsLast (pairs : List (String × Item)) (name : String) (item : Item) : Prop :=
  ∃ before after, pairs = before ++ (name, item) :: after ∧ name ∉ after.map Prod.fst

theorem find?_put (entries : Entries Item) (first name : String) (item : Item) :
    (entries.put first item).find? name =
      if first = name then some item else entries.find? name := by
  split
  · next same =>
    subst same
    exact find?_put_self entries first item
  · next different => exact find?_put_of_ne entries item (Ne.symm different)

/-- What was put last is found; what was there before is found where nothing was put. -/
theorem find?_foldl_put (entries : Entries Item) (pairs : List (String × Item)) (name : String) :
    find? (pairs.foldl (fun entries pair => entries.put pair.1 pair.2) entries) name =
      ((ofPairs pairs).find? name).or (entries.find? name) := by
  induction pairs generalizing entries with
  | nil => rfl
  | cons pair rest induction =>
    show find? (rest.foldl _ (entries.put pair.1 pair.2)) name =
      (find? (rest.foldl _ (put [] pair.1 pair.2)) name).or _
    rw [induction, induction, find?_put, find?_put, Option.or_assoc]
    split <;> rfl

theorem find?_ofPairs_append (first second : List (String × Item)) (name : String) :
    (ofPairs (first ++ second)).find? name =
      ((ofPairs second).find? name).or ((ofPairs first).find? name) := by
  show find? ((first ++ second).foldl _ []) name = _
  rw [List.foldl_append, find?_foldl_put]
  rfl

theorem find?_ofPairs_cons (pair : String × Item) (rest : List (String × Item)) (name : String) :
    (ofPairs (pair :: rest)).find? name =
      ((ofPairs rest).find? name).or (if pair.1 = name then some pair.2 else none) :=
  find?_ofPairs_append [pair] rest name

theorem find?_ofPairs_eq_none_iff {pairs : List (String × Item)} {name : String} :
    (ofPairs pairs).find? name = none ↔ name ∉ pairs.map Prod.fst := by
  induction pairs with
  | nil => exact iff_of_true rfl List.not_mem_nil
  | cons pair rest induction =>
    rw [find?_ofPairs_cons, Option.or_eq_none_iff, induction, List.map_cons, List.mem_cons, not_or,
      and_comm]
    refine and_congr_left fun _ => ?_
    split
    · next same => exact iff_of_false nofun (not_not_intro same.symm)
    · next different => exact iff_of_true rfl (Ne.symm different)

/-- The check that is found is the one that was put last. -/
theorem find?_ofPairs_eq_some_iff {pairs : List (String × Item)} {name : String} {item : Item} :
    (ofPairs pairs).find? name = some item ↔ IsLast pairs name item := by
  constructor
  · intro found
    induction pairs with
    | nil => cases found
    | cons pair rest induction =>
      rw [find?_ofPairs_cons, Option.or_eq_some_iff] at found
      rcases found with later | ⟨absent, here⟩
      · obtain ⟨before, after, rfl, last⟩ := induction later
        exact ⟨pair :: before, after, rfl, last⟩
      · split at here
        · next same =>
          cases here
          cases same
          exact ⟨[], rest, rfl, find?_ofPairs_eq_none_iff.1 absent⟩
        · cases here
  · rintro ⟨before, after, rfl, last⟩
    rw [find?_ofPairs_append, find?_ofPairs_cons, find?_ofPairs_eq_none_iff.2 last, if_pos rfl]
    rfl

/-! ### Ascending names -/

/-- Each name stands before all greater ones, and once. -/
def Ascending (entries : Entries Item) : Prop :=
  entries.Pairwise fun first second => first.1 < second.1

theorem eq_or_mem_of_mem_put {entries : Entries Item} {name : String} {item : Item}
    {entry : String × Item} (member : entry ∈ entries.put name item) :
    entry = (name, item) ∨ entry ∈ entries := by
  induction entries with
  | nil => exact .inl (List.mem_singleton.1 member)
  | cons head rest induction =>
    unfold put at member
    split at member
    · exact (List.mem_cons.1 member).imp_right (List.mem_cons_of_mem _)
    · split at member
      · exact List.mem_cons.1 member
      · rcases List.mem_cons.1 member with rfl | later
        · exact .inr List.mem_cons_self
        · exact (induction later).imp_right (List.mem_cons_of_mem _)

theorem Ascending.put {entries : Entries Item} (ascending : entries.Ascending) (name : String)
    (item : Item) : (entries.put name item).Ascending := by
  induction entries with
  | nil => exact List.pairwise_singleton _ _
  | cons head rest induction =>
    obtain ⟨above, restAscending⟩ := List.pairwise_cons.1 ascending
    unfold Entries.put
    split
    · next same =>
      subst same
      exact List.pairwise_cons.2 ⟨above, restAscending⟩
    · next different =>
      split
      · next before =>
        refine List.pairwise_cons.2 ⟨fun other member => ?_, ascending⟩
        rcases List.mem_cons.1 member with rfl | later
        · exact before
        · exact String.lt_trans before (above other later)
      · next notBefore =>
        have after : head.1 < name := Std.lt_of_le_of_ne (String.not_lt.1 notBefore) different
        refine List.pairwise_cons.2 ⟨fun other member => ?_, induction restAscending⟩
        rcases eq_or_mem_of_mem_put member with rfl | old
        · exact after
        · exact above other old

/-- Names ascend in what is built by putting. -/
theorem ascending_ofPairs (pairs : List (String × Item)) : (ofPairs pairs).Ascending := by
  have kept (entries : Entries Item) (ascending : entries.Ascending) :
      Ascending (pairs.foldl (fun entries pair => entries.put pair.1 pair.2) entries) := by
    induction pairs generalizing entries with
    | nil => exact ascending
    | cons pair rest induction => exact induction _ (ascending.put pair.1 pair.2)
  exact kept [] List.Pairwise.nil

/-- Where each name stands once it makes no difference whether the first or the last one counts. -/
theorem Ascending.find?_ofPairs {entries : Entries Item} (ascending : entries.Ascending)
    (name : String) : (ofPairs entries).find? name = entries.find? name := by
  induction entries with
  | nil => rfl
  | cons head rest induction =>
    obtain ⟨above, restAscending⟩ := List.pairwise_cons.1 ascending
    rw [find?_ofPairs_cons, induction restAscending, find?]
    split
    · next same =>
      subst same
      have absent : head.1 ∉ rest.map Prod.fst := by
        intro member
        obtain ⟨other, later, same⟩ := List.mem_map.1 member
        exact String.lt_irrefl head.1 (same ▸ above other later)
      rw [find?_eq_none_of_notMem absent]
      rfl
    · exact Option.or_none

end Entries

/-! ### Layers one behind the other -/

namespace Roster

theorem find?_cons (layer : CheckLayer) (rest : Roster) (name : String) :
    find? (layer :: rest) name = (Entries.find? layer name).or (rest.find? name) := by
  unfold find?
  rw [List.findSome?_cons]
  cases Entries.find? layer name <;> rfl

/-- Layers behind others count where the others have no check. -/
theorem find?_append (roster more : Roster) (name : String) :
    find? (roster ++ more) name = (roster.find? name).or (more.find? name) :=
  List.findSome?_append

/-- The check of a name in the first of the layers that have one. -/
theorem find?_eq_some_iff {histories : List (List (String × Check))} {name : String}
    {check : Check} :
    find? (histories.map Entries.ofPairs) name = some check ↔
      ∃ earlier history later, histories = earlier ++ history :: later ∧
        (∀ other ∈ earlier, name ∉ other.map Prod.fst) ∧ Entries.IsLast history name check := by
  unfold find?
  rw [List.findSome?_map, List.findSome?_eq_some_iff]
  simp only [Function.comp_apply, Entries.find?_ofPairs_eq_some_iff,
    Entries.find?_ofPairs_eq_none_iff]
  grind

/-- Inserting the checks of the last layer first and those of the first layer last makes a layer
that finds what the layers find. -/
theorem find?_merged {roster : Roster} (ascending : ∀ layer ∈ roster, Entries.Ascending layer)
    (name : String) :
    Entries.find? (Entries.ofPairs roster.reverse.flatten) name = roster.find? name := by
  induction roster with
  | nil => rfl
  | cons layer rest induction =>
    obtain ⟨here, others⟩ := List.forall_mem_cons.1 ascending
    rw [find?_cons, List.reverse_cons, List.flatten_append, List.flatten_singleton,
      Entries.find?_ofPairs_append, here.find?_ofPairs, induction others]

end Roster

end Rulebook
