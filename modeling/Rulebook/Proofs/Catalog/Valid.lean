/-
This file proves which catalogs pass the check.

The check goes through the catalog with lists of the names that it has seen. What it lets
through is what `Catalog.IsValid` says without them: every record type and every field bears a
name, the record types have different names, and so do the fields of each record type. Whatever
is loaded from a file has passed the check, so that a name leads to one record type, and within
it to one field.
-/
import Rulebook.Format
import Rulebook.Proofs.Default.Pass

namespace Rulebook

namespace Catalog

/-! ### Names seen before -/

/-- The names are not among those seen before, and differ from each other. -/
def AreNew (seen names : List String) : Prop :=
  (∀ name ∈ names, name ∉ seen) ∧ names.Nodup

theorem areNew_nil (seen : List String) : AreNew seen [] :=
  ⟨List.forall_mem_nil _, List.nodup_nil⟩

/-- Of new names the later ones are new to the first one as well. -/
theorem areNew_cons_iff {seen rest : List String} {name : String} :
    AreNew seen (name :: rest) ↔ name ∉ seen ∧ AreNew (name :: seen) rest := by
  unfold AreNew
  rw [List.forall_mem_cons, List.nodup_cons]
  constructor
  · rintro ⟨⟨new, others⟩, apart, distinct⟩
    refine ⟨new, fun other member seenBefore => ?_, distinct⟩
    rcases List.mem_cons.1 seenBefore with rfl | known
    · exact apart member
    · exact others other member known
  · rintro ⟨new, others, distinct⟩
    exact ⟨⟨new, fun other member known => others other member (List.mem_cons_of_mem _ known)⟩,
      fun member => others name member List.mem_cons_self, distinct⟩

theorem areNew_nil_iff {names : List String} : AreNew [] names ↔ names.Nodup := by
  unfold AreNew
  simp

/-! ### Scans that stop at a flaw -/

section Scan

variable {Item : Type} {judge : List String → Item → Option Flaw} {name : Item → String}
  {seen : List String} {items before after : List Item} {flaw : Flaw}

/-- The first flaw of items, each judged with the names of those before it. -/
def scan? (judge : List String → Item → Option Flaw) (name : Item → String)
    (seen : List String) : List Item → Option Flaw
  | [] => none
  | item :: rest => (judge seen item).or (scan? judge name (name item :: seen) rest)

/-- A scan that asks every item to be sound and to bear a new name finds nothing in sound items with
new names. -/
theorem scan?_eq_none_iff {IsSound : Item → Prop}
    (judged : ∀ seen item, judge seen item = none ↔ IsSound item ∧ name item ∉ seen) :
    scan? judge name seen items = none ↔
      (∀ item ∈ items, IsSound item) ∧ AreNew seen (items.map name) := by
  induction items generalizing seen with
  | nil => exact iff_of_true rfl ⟨List.forall_mem_nil _, areNew_nil seen⟩
  | cons item rest induction =>
    rw [List.map_cons, areNew_cons_iff, List.forall_mem_cons, scan?, Option.or_eq_none_iff, judged,
      induction]
    exact and_and_and_comm

end Scan

/-! ### The two scans of the check -/

/-- The flaw of a field, given the names of the fields before. -/
def judgeField (record : String) (seen : List String) (field : Field) : Option Flaw :=
  if isNameless field.name then some (.namelessField record)
  else if seen.contains field.name then some (.repeatedField field.name record)
  else none

/-- The flaw of a record type, given the names of the record types before. -/
def judgeRecord (seen : List String) (record : Schema) : Option Flaw :=
  if isNameless record.name then some .namelessRecord
  else if seen.contains record.name then some (.repeatedRecord record.name)
  else fieldFlaw? record.name [] record.fields

theorem fieldFlaw?_eq_scan? (record : String) (seen : List String) (fields : List Field) :
    fieldFlaw? record seen fields = scan? (judgeField record) Field.name seen fields := by
  induction fields generalizing seen with
  | nil => rfl
  | cons field rest induction =>
    unfold fieldFlaw? scan? judgeField
    rw [induction]
    split_ifs <;> rfl

theorem recordFlaw?_eq_scan? (seen : List String) (records : List Schema) :
    recordFlaw? seen records = scan? judgeRecord Schema.name seen records := by
  induction records generalizing seen with
  | nil => rfl
  | cons record rest induction =>
    unfold recordFlaw? scan? judgeRecord
    rw [induction]
    split_ifs
    · rfl
    · rfl
    · cases fieldFlaw? record.name [] record.fields <;> rfl

theorem judgeField_eq_none_iff {record : String} {seen : List String} {field : Field} :
    judgeField record seen field = none ↔ isNameless field.name = false ∧ field.name ∉ seen := by
  unfold judgeField
  split_ifs <;> simp_all

theorem judgeRecord_eq_none_iff {seen : List String} {record : Schema} :
    judgeRecord seen record = none ↔
      (isNameless record.name = false ∧ fieldFlaw? record.name [] record.fields = none) ∧
        record.name ∉ seen := by
  unfold judgeRecord
  split_ifs <;> simp_all

/-- Fields pass when they bear names, and new ones. -/
theorem fieldFlaw?_eq_none_iff {record : String} {seen : List String} {fields : List Field} :
    fieldFlaw? record seen fields = none ↔
      (∀ field ∈ fields, isNameless field.name = false) ∧
        AreNew seen (fields.map Field.name) := by
  rw [fieldFlaw?_eq_scan?]
  exact scan?_eq_none_iff fun _ _ => judgeField_eq_none_iff

/-- Record types pass when they bear names, and new ones, and their fields pass. -/
theorem recordFlaw?_eq_none_iff {seen : List String} {records : List Schema} :
    recordFlaw? seen records = none ↔
      (∀ record ∈ records, isNameless record.name = false ∧
        fieldFlaw? record.name [] record.fields = none) ∧
        AreNew seen (records.map Schema.name) := by
  rw [recordFlaw?_eq_scan?]
  exact scan?_eq_none_iff fun _ _ => judgeRecord_eq_none_iff

/-! ### Valid catalogs -/

/-- Nothing goes without a name, and no name is given twice on one level. -/
structure IsValid (catalog : Catalog) : Prop where
  recordsNamed : ∀ record ∈ catalog.records, isNameless record.name = false
  recordsDistinct : (catalog.records.map Schema.name).Nodup
  fieldsNamed : ∀ record ∈ catalog.records, ∀ field ∈ record.fields, isNameless field.name = false
  fieldsDistinct : ∀ record ∈ catalog.records, record.HasDistinctNames

theorem flaw?_eq_none_iff {catalog : Catalog} : catalog.flaw? = none ↔ catalog.IsValid := by
  unfold flaw?
  simp only [recordFlaw?_eq_none_iff, fieldFlaw?_eq_none_iff, areNew_nil_iff]
  constructor
  · rintro ⟨sound, distinct⟩
    exact ⟨fun record member => (sound record member).1, distinct,
      fun record member => (sound record member).2.1, fun record member => (sound record member).2.2⟩
  · rintro ⟨named, distinct, fieldsNamed, fieldsDistinct⟩
    exact ⟨fun record member => ⟨named record member, fieldsNamed record member,
      fieldsDistinct record member⟩, distinct⟩

/-- The check gives back the catalog that it is given, if that is valid. -/
theorem validate_eq_ok_iff {catalog checked : Catalog} :
    catalog.validate = .ok checked ↔ catalog = checked ∧ catalog.IsValid := by
  rw [← flaw?_eq_none_iff]
  unfold validate
  cases catalog.flaw? <;> simp

end Catalog

/-! ### Catalogs from files -/

theorem isValid_of_readCatalogFile {path : String} {text : List Char} {catalog : Catalog}
    (read : readCatalogFile path text = .ok catalog) : catalog.IsValid := by
  unfold readCatalogFile at read
  dsimp only at read
  split at read
  · unfold Format.readCatalog at read
    split at read
    · obtain ⟨rfl, valid⟩ := Catalog.validate_eq_ok_iff.1 read
      exact valid
    · cases read
  · cases read

end Rulebook
