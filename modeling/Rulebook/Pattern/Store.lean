/-
This file keeps the patterns that have been read.

A store remembers every text that was looked up as a pattern together with what
came of it, so that no text is read twice. A text that is no pattern is
remembered as well. Looking up in a store gives what reading gives.
-/
import Rulebook.Entries
import Rulebook.Pattern.Extent

namespace Rulebook

/-- Patterns under their texts, none for a text that is no pattern. -/
structure PatternStore where
  /-- The limit on the size of patterns. -/
  limit : Nat
  known : Entries (Option Pattern)

namespace PatternStore

/-- The store in which nothing has been looked up. -/
def fresh (limit : Nat) : PatternStore :=
  ⟨limit, []⟩

/-- The pattern that a text stands for, and the store that remembers it. -/
def lookUp (store : PatternStore) (text : String) : Option Pattern × PatternStore :=
  match store.known.find? text with
  | some known => (known, store)
  | none =>
    let read := Pattern.read? store.limit text.toList
    (read, { store with known := store.known.put text read })

/-- How many different texts have been looked up. -/
def count (store : PatternStore) : Nat :=
  store.known.length

end PatternStore

end Rulebook
