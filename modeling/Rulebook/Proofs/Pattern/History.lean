/-
This file proves that a store of patterns can be looked into any number of times, in any order.

Every answer in a row of look-ups is the one that a fresh store gives to the same text, whether
the text is a pattern or not, and the store has grown by one for each text that had not been
asked for before. The second statement has an invariant of its own: what is remembered is what
has been asked for, and nothing is remembered twice.
-/
import Rulebook.Proofs.Pattern.Remembered
import Mathlib.Data.List.Dedup

namespace Rulebook

/-! ### Names of entries -/

namespace Entries

variable {Item : Type} {entries : Entries Item} {name : String}

/-- A name under which nothing is found is no name of an entry. -/
theorem find?_eq_none_iff : entries.find? name = none ↔ name ∉ entries.map Prod.fst := by
  refine ⟨fun none member => ?_, find?_eq_none_of_notMem⟩
  induction entries with
  | nil => cases member
  | cons entry rest induction =>
    obtain ⟨first, item⟩ := entry
    unfold find? at none
    split at none
    · cases none
    · next different =>
      rcases List.mem_cons.1 member with same | later
      · exact different same.symm
      · exact induction none later

/-- Putting a new name adds it to the names that are there. -/
theorem perm_map_fst_put (item : Item) (missing : name ∉ entries.map Prod.fst) :
    ((entries.put name item).map Prod.fst).Perm (name :: entries.map Prod.fst) := by
  induction entries with
  | nil => exact List.Perm.refl _
  | cons entry rest induction =>
    obtain ⟨first, old⟩ := entry
    obtain ⟨different, missingRest⟩ := List.ne_and_not_mem_of_not_mem_cons missing
    unfold put
    rw [if_neg different.symm]
    split
    · exact List.Perm.refl _
    · exact ((induction missingRest).cons first).trans (List.Perm.swap name first _)

end Entries

namespace PatternStore

/-! ### Looking up one text after the other -/

/-- The answers to texts that are looked up one after the other, and the store after them. -/
def lookUpAll (store : PatternStore) : List String → List (Option Pattern) × PatternStore
  | [] => ([], store)
  | text :: rest =>
    let (answer, store) := store.lookUp text
    let (later, store) := store.lookUpAll rest
    (answer :: later, store)

variable {limit : Nat} {store : PatternStore} {seen : List String}

/-- A store that answers like the fresh one gives the answers of the fresh one. -/
theorem AnswersFor.lookUpAll_fst (answers : store.AnswersFor limit) (texts : List String) :
    (store.lookUpAll texts).1 = texts.map fun text => ((fresh limit).lookUp text).1 := by
  induction texts generalizing store with
  | nil => rfl
  | cons text rest induction =>
    have here : (store.lookUp text).1 = ((fresh limit).lookUp text).1 :=
      (answers.lookUp_fst text).trans ((answersFor_fresh limit).lookUp_fst text).symm
    rw [List.map_cons, ← here, ← induction (answers.lookUp_snd text)]
    rfl

/-! ### What is remembered -/

/-- The store remembers the texts that have been looked up, each of them once. -/
structure Remembers (store : PatternStore) (seen : List String) : Prop where
  distinct : (store.known.map Prod.fst).Nodup
  asked : ∀ text, text ∈ store.known.map Prod.fst ↔ text ∈ seen

theorem remembers_fresh (limit : Nat) : (fresh limit).Remembers [] where
  distinct := List.nodup_nil
  asked _ := Iff.rfl

/-- A look-up adds its text to what is remembered, unless it is remembered already. -/
theorem Remembers.lookUp (remembers : store.Remembers seen) (text : String) :
    (store.lookUp text).2.Remembers (seen ++ [text]) := by
  unfold PatternStore.lookUp
  cases known : store.known.find? text with
  | some remembered =>
    refine ⟨remembers.distinct, fun other => ?_⟩
    have old : text ∈ seen := by
      by_contra missing
      rw [← remembers.asked, ← Entries.find?_eq_none_iff, known] at missing
      cases missing
    rw [remembers.asked, List.mem_append, List.mem_singleton]
    exact ⟨.inl, fun either => either.elim id fun same => same ▸ old⟩
  | none =>
    have missing := Entries.find?_eq_none_iff.1 known
    have names := Entries.perm_map_fst_put (Pattern.read? store.limit text.toList) missing
    refine ⟨names.nodup_iff.2 (List.nodup_cons.2 ⟨missing, remembers.distinct⟩), fun other => ?_⟩
    rw [names.mem_iff, List.mem_cons, remembers.asked, List.mem_append, List.mem_singleton,
      or_comm]

theorem Remembers.lookUpAll (remembers : store.Remembers seen) (texts : List String) :
    (store.lookUpAll texts).2.Remembers (seen ++ texts) := by
  induction texts generalizing store seen with
  | nil =>
    rw [List.append_nil]
    exact remembers
  | cons text rest induction =>
    rw [← List.singleton_append, ← List.append_assoc]
    exact induction (remembers.lookUp text)

/-- A store counts the different texts that it remembers. -/
theorem Remembers.count_eq (remembers : store.Remembers seen) :
    store.count = seen.dedup.length := by
  have same : (store.known.map Prod.fst).Perm seen.dedup :=
    (List.perm_ext_iff_of_nodup remembers.distinct seen.nodup_dedup).2 fun text => by
      rw [remembers.asked, List.mem_dedup]
  rw [← same.length_eq, List.length_map]
  rfl

/-- Whatever has been looked up before, an answer is that of a fresh store with the same limit,
and the store counts the different texts that were looked up, patterns or not. -/
theorem lookUpAll_fresh (limit : Nat) (texts : List String) :
    ((fresh limit).lookUpAll texts).1 =
        (texts.map fun text => ((fresh limit).lookUp text).1) ∧
      ((fresh limit).lookUpAll texts).2.count = texts.dedup.length :=
  ⟨(answersFor_fresh limit).lookUpAll_fst texts,
    ((remembers_fresh limit).lookUpAll texts).count_eq⟩

end PatternStore

end Rulebook
