/-
This file proves that remembering patterns changes nothing that can be seen.

A store that has been looked into any number of times answers like the fresh
store with its limit: what it remembers of a text is what reading the text gives.
This is an invariant of `lookUp`, and of everything that hands a store on, and it
is the only thing that is ever needed to know about a store.
-/
import Rulebook.Pattern.Store

namespace Rulebook.PatternStore

/-- The store has a limit, and all that it remembers is what reading under this limit gives. -/
structure AnswersFor (limit : Nat) (store : PatternStore) : Prop where
  limit_eq : store.limit = limit
  faithful : ∀ text remembered, store.known.find? text = some remembered →
    remembered = Pattern.read? limit text.toList

theorem answersFor_fresh (limit : Nat) : (fresh limit).AnswersFor limit where
  limit_eq := rfl
  faithful := by
    intro text remembered found
    cases found

variable {limit : Nat} {store : PatternStore}

/-- Looking up gives what reading gives. -/
theorem AnswersFor.lookUp_fst (answers : store.AnswersFor limit) (text : String) :
    (store.lookUp text).1 = Pattern.read? limit text.toList := by
  unfold lookUp
  split
  · next remembered found => exact answers.faithful text remembered found
  · rw [answers.limit_eq]

/-- Looking up leaves a store that answers as before. -/
theorem AnswersFor.lookUp_snd (answers : store.AnswersFor limit) (text : String) :
    (store.lookUp text).2.AnswersFor limit := by
  unfold lookUp
  split
  · exact answers
  · refine ⟨answers.limit_eq, ?_⟩
    intro other remembered found
    by_cases same : other = text
    · subst same
      rw [Entries.find?_put_self] at found
      rw [← Option.some.inj found, answers.limit_eq]
    · rw [Entries.find?_put_of_ne _ _ same] at found
      exact answers.faithful other remembered found

end Rulebook.PatternStore
