/-
This file proves that a default pass that succeeds leaves nothing to do for another
one, whatever the time then is.

The second pass may write again. A default that stands for zero still reads as zero once
it is written, and so does a number that JSON keeps as null. But what it writes is what
the first pass wrote there, and putting that in its place once more changes nothing.

Only a default for a time depends on the present moment, and a time that was written
never reads as zero, not even where JSON gives it back as a plain text. So a default is
read a second time only if it means the same, and one that the first pass has not read
is not read by the second.
-/
import Rulebook.Proofs.Default.Json
import Mathlib.Data.String.Basic

namespace Rulebook

/-! ### Entries that are in place -/

namespace Entries

variable {Item : Type}

/-- Putting the item under the name changes nothing. -/
def Holds (entries : Entries Item) (name : String) (item : Item) : Prop :=
  entries.put name item = entries

theorem holds_put_self (entries : Entries Item) (name : String) (item : Item) :
    (entries.put name item).Holds name item := by
  unfold Holds
  induction entries with
  | nil => simp [put]
  | cons entry rest induction =>
    obtain ⟨first, old⟩ := entry
    unfold put
    by_cases same : first = name
    · simp [same, put]
    · by_cases before : name < first
      · simp [same, before, put]
      · simp [same, before, put, induction]

/-- An item that is in place stays in place when another name is given an item. -/
theorem Holds.put {entries : Entries Item} {name other : String} {item : Item}
    (holds : entries.Holds name item) (different : other ≠ name) (given : Item) :
    (entries.put other given).Holds name item := by
  unfold Holds at holds ⊢
  induction entries with
  | nil => cases holds
  | cons entry rest induction =>
    obtain ⟨first, old⟩ := entry
    unfold Entries.put at holds
    split at holds
    · next found =>
      subst found
      cases holds
      by_cases before : other < first
      · simp [Entries.put, different, different.symm, before, before.asymm]
      · simp [Entries.put, different.symm, before]
    · next apart =>
      split at holds
      · -- An insertion in front of `first` would make the list longer.
        exact absurd (congrArg List.length holds) (by simp)
      · next after =>
        have holdsRest : Entries.put rest name item = rest := (List.cons.inj holds).2
        by_cases same : first = other
        · subst same
          simp [Entries.put, apart, after, holdsRest]
        · by_cases before : other < first
          · have behind : ¬ name < other := fun earlier => after (lt_trans earlier before)
            simp [Entries.put, same, apart, different, before, behind, after, holdsRest]
          · have later := induction holdsRest
            simp [Entries.put, same, before, apart, after, later]

end Entries

/-! ### What a pass leaves in place -/

section Pass

variable {Item : Type} [FieldStore (Entries Item)] [EntryStore Item] {schema : Schema}

/-- An item that is in place stays there through writes to other names. -/
theorem Entries.Holds.putAll {record : Entries Item} {name : String} {item : Item}
    (holds : record.Holds name item) {writes : Entries Value}
    (others : name ∉ writes.map Prod.fst) : (Rulebook.putAll record writes).Holds name item := by
  induction writes generalizing record with
  | nil => exact holds
  | cons entry rest induction =>
    obtain ⟨other, given⟩ := entry
    obtain ⟨different, othersRest⟩ := List.ne_and_not_mem_of_not_mem_cons others
    refine induction ?_ othersRest
    show (FieldStore.put record other given).Holds name item
    rw [EntryStore.put_eq]
    exact holds.put different.symm _

/-- What was written is in place once all writes are carried out. -/
theorem holds_putAll (record : Entries Item) {writes : Entries Value}
    (distinct : (writes.map Prod.fst).Nodup) {name : String} {value : Value}
    (written : writes.find? name = some value) :
    (putAll record writes).Holds name (EntryStore.encode value) := by
  induction writes generalizing record with
  | nil => cases written
  | cons entry rest induction =>
    obtain ⟨other, given⟩ := entry
    obtain ⟨others, distinctRest⟩ := List.nodup_cons.1 distinct
    show (putAll (FieldStore.put record other given) rest).Holds name _
    by_cases same : other = name
    · subst same
      simp only [Entries.find?, if_true, Option.some.injEq] at written
      subst written
      refine Entries.Holds.putAll ?_ others
      rw [EntryStore.put_eq]
      exact record.holds_put_self other _
    · simp only [Entries.find?, same, if_false] at written
      exact induction _ distinctRest written

/-- A field that has no reason to be written keeps its entry. -/
theorem find?_of_verdict_eq_none (distinct : schema.HasDistinctNames) {now : Instant}
    {record final : Entries Item} {changed : List String}
    (succeeded : applyDefaults schema now record = (final, .ok changed)) {field : Field}
    (member : field ∈ schema.fields) (left : verdict schema now record field = .ok none) :
    final.find? field.name = record.find? field.name := by
  refine find?_of_notMem_changed distinct succeeded fun written => ?_
  obtain ⟨other, otherMember, named, held, value, read, injects⟩ :=
    (mem_changed_iff distinct succeeded).1 written
  obtain rfl := distinct.field_ext otherMember member named
  have judged := (verdict_eq_some_iff (Schema.find?_name distinct member) now record value).2
    ⟨held, read, injects⟩
  rw [left] at judged
  cases judged

end Pass

/-! ### What a store gives back of what was written -/

/-- A store that gives back what a second pass has to know: a written zero value as it is, and for
a written time something that does not read as zero. -/
class KeepsWritten (Item : Type) [FieldStore (Entries Item)] [EntryStore Item] : Prop where
  isSome_read? : ∀ {schema : Schema} {record : Entries Item} {field : Field},
    schema.find? field.name = some field → (record.find? field.name).isSome = true →
      (FieldStore.read? schema record field.name).isSome = true
  read?_zero : ∀ {schema : Schema} {record : Entries Item} {field : Field},
    schema.find? field.name = some field →
      record.find? field.name = some (EntryStore.encode field.kind.zero) →
        FieldStore.read? schema record field.name = some field.kind.zero
  not_readsAsZero : ∀ {schema : Schema} {record : Entries Item} {field : Field}
    {instant : Instant} {stored : Value},
    schema.find? field.name = some field → field.kind = .temporal →
      record.find? field.name = some (EntryStore.encode (.temporal (some instant))) →
        FieldStore.read? schema record field.name = some stored →
          ¬ ReadsAsZero field.kind stored

/-- A text that is not empty is a time, or it is brought in line with no time at all. -/
theorem not_readsAsZero_text {content : String} (nonempty : content ≠ "") :
    ¬ ReadsAsZero .temporal (.text content) := by
  rintro ⟨zero, reconciled, isZero⟩
  rw [reconcile_temporal_text nonempty] at reconciled
  split at reconciled
  · cases reconciled
    cases isZero
  · cases reconciled

/-- A time that JSON keeps is given back as a time or as the text of one. -/
theorem not_readsAsZero_ofJson_toJson (instant : Instant) :
    ¬ ReadsAsZero .temporal
      (.ofJson .temporal (some (Value.temporal (some instant)).toJson)) := by
  have text : (Value.temporal (some instant)).toJson = .string (String.ofList instant.text) := rfl
  rw [text, Value.ofJson_temporal_string]
  split
  · exact not_readsAsZero_temporal _ _
  · refine not_readsAsZero_text fun blank => instant.text_ne_nil ?_
    rw [← String.toList_ofList (l := instant.text), blank]
    rfl

instance : KeepsWritten Value where
  isSome_read? _ present := present
  read?_zero _ stored := stored
  not_readsAsZero _ _ stored read := by
    cases stored.symm.trans read
    exact not_readsAsZero_temporal _ _

instance : KeepsWritten Json where
  isSome_read? declared _ := by
    rw [read?_json_of_find? declared]
    rfl
  read?_zero {_ _ field} declared stored := by
    rw [read?_json_of_find? declared, stored]
    cases field.kind <;> rfl
  not_readsAsZero {_ _ _ instant _} declared temporal stored read := by
    rw [read?_json_of_find? declared, stored, temporal] at read
    rw [temporal, ← Option.some.inj read]
    exact not_readsAsZero_ofJson_toJson instant

/-! ### The second verdict on a field -/

/-- Only a default for a time depends on the present moment. -/
theorem readDefault_congr_now {kind : Kind} (timeless : kind ≠ .temporal) (first second : Instant)
    (text : List Char) : readDefault kind first text = readDefault kind second text := by
  cases kind with
  | temporal => exact absurd rfl timeless
  | _ => rfl

/-- A default for a time that is read stands for a time. -/
theorem temporal_of_readDefault {now : Instant} {text : List Char} {value : Value}
    (read : readDefault .temporal now text = .ok (some value)) :
    ∃ instant, value = .temporal (some instant) := by
  simp only [readDefault] at read
  split at read
  · next instant _ =>
    cases read
    exact ⟨instant, rfl⟩
  · cases read

section Again

variable {Item : Type} [FieldStore (Entries Item)] [EntryStore Item] [KeepsWritten Item]
  {schema : Schema} {first second : Instant} {record final : Entries Item} {changed : List String}

/-- A field that was written is left alone, or it is to be given the same value again. -/
theorem verdict_of_injects {field : Field} (declared : schema.find? field.name = some field)
    {held value : Value} (injects : Injects first field held value)
    (stored : final.find? field.name = some (EntryStore.encode value)) :
    verdict schema second final field = .ok none ∨
      verdict schema second final field = .ok (some value) := by
  cases injects with
  | reset prohibited _ =>
    have read := KeepsWritten.read?_zero declared stored
    exact .inl ((verdict_eq_none_iff schema second final field).2 (.inr
      ⟨_, read, .reset prohibited field.kind.isZero_zero field.kind.kind_zero⟩))
  | @fill directive _ allowed firstDefault _ meant =>
    have present := KeepsWritten.isSome_read? declared (Option.isSome_iff_exists.2 ⟨_, stored⟩)
    obtain ⟨kept, read⟩ := Option.isSome_iff_exists.1 present
    by_cases zero : ReadsAsZero field.kind kept
    · have timeless : field.kind ≠ .temporal := by
        intro temporal
        rw [temporal] at meant
        obtain ⟨instant, rfl⟩ := temporal_of_readDefault meant
        exact KeepsWritten.not_readsAsZero declared temporal stored read zero
      have meantAgain : readDefault field.kind second directive.arguments = .ok (some value) :=
        (readDefault_congr_now timeless second first _).trans meant
      exact .inr ((verdict_eq_some_iff declared second final value).2
        ⟨kept, read, .fill allowed firstDefault zero meantAgain⟩)
    · exact .inl ((verdict_eq_none_iff schema second final field).2
        (.inr ⟨kept, read, .filled allowed firstDefault zero⟩))

/-- A field that was left alone is left alone again, at whatever moment. -/
theorem verdict_eq_none_again {Store : Type} [FieldStore Store] {record : Store} {field : Field}
    (left : verdict schema first record field = .ok none) :
    verdict schema second record field = .ok none :=
  (verdict_eq_none_iff schema second record field).2
    ((verdict_eq_none_iff schema first record field).1 left)

/-! ### The second pass -/

/-- A step that changes nothing on a record, for each of some fields, makes a pass that changes
nothing. -/
theorem injectFields_of_still {Store : Type} [FieldStore Store] {now : Instant} {record : Store}
    {fields : List Field}
    (still : ∀ field ∈ fields, ∃ written,
      injectField schema now record field = .ok (record, written)) :
    ∃ names, injectFields schema now record fields = (record, .ok names) := by
  induction fields with
  | nil => exact ⟨[], rfl⟩
  | cons field rest induction =>
    obtain ⟨written, stepped⟩ := still field List.mem_cons_self
    obtain ⟨names, rested⟩ := induction fun other member =>
      still other (List.mem_cons_of_mem _ member)
    refine ⟨if written then field.name :: names else names, ?_⟩
    simp only [injectFields, stepped, rested, Except.map]

/-- The second pass changes nothing at any field. -/
theorem injectField_again (distinct : schema.HasDistinctNames)
    (succeeded : applyDefaults schema first record = (final, .ok changed)) (second : Instant)
    {field : Field} (member : field ∈ schema.fields) :
    ∃ written, injectField schema second final field = .ok (final, written) := by
  have declared := Schema.find?_name distinct member
  obtain ⟨finalEq, complete, -⟩ := plan_of_succeeded distinct succeeded
  obtain ⟨given, judged⟩ := verdict_of_complete complete member
  cases given with
  | none =>
    have kept := find?_of_verdict_eq_none distinct succeeded member judged
    have again : verdict schema second final field = .ok none := by
      rw [verdict_congr schema second kept]
      exact verdict_eq_none_again judged
    exact ⟨false, by rw [injectField_eq, again]; rfl⟩
  | some value =>
    obtain ⟨held, read, injects⟩ := (verdict_eq_some_iff declared first record value).1 judged
    have stored := find?_of_injects distinct succeeded member read injects
    have holds : final.Holds field.name (EntryStore.encode value) := by
      rw [finalEq]
      exact holds_putAll record
        ((plan_names_sublist schema first record schema.fields).nodup distinct)
        (planned_of_verdict distinct complete member judged)
    rcases verdict_of_injects declared injects stored with spared | again
    · exact ⟨false, by rw [injectField_eq, spared]; rfl⟩
    · refine ⟨true, ?_⟩
      have inPlace : FieldStore.put final field.name value = final :=
        (EntryStore.put_eq final field.name value).trans holds
      rw [injectField_eq, again]
      show Except.ok (FieldStore.put final field.name value, true) = _
      rw [inPlace]

/-- After a pass that succeeds, a pass at any other moment succeeds as well and leaves the record
as it is. -/
theorem applyDefaults_again (distinct : schema.HasDistinctNames)
    (succeeded : applyDefaults schema first record = (final, .ok changed)) (second : Instant) :
    ∃ rewritten, applyDefaults schema second final = (final, .ok rewritten) :=
  injectFields_of_still fun _ member => injectField_again distinct succeeded second member

end Again

/-- An infinite number, which JSON keeps as null, is written again. A time in a year of five
digits, which JSON gives back as a text, and a time relative to the moment are not. -/
theorem applyDefaults_again_reading :
    let schema : Schema := ⟨"Reading",
      [⟨"level", .float, "default:inf"⟩,
        ⟨"next", .temporal, "default:'+12024-01-01 00;00;00 +00;00'"⟩,
        ⟨"seen", .temporal, "default:timeNow"⟩]⟩
    let later : Instant := ⟨86400, 0, 0, by decide⟩
    let record : JsonRecord := []
    let final : JsonRecord := [("level", .null), ("next", .string "+12024-01-01T00:00:00+00:00"),
      ("seen", .string "1970-01-01T00:00:00+00:00")]
    schema.HasDistinctNames ∧
      applyDefaults schema .epoch record = (final, .ok ["level", "next", "seen"]) ∧
      ∃ rewritten, applyDefaults schema later final = (final, .ok rewritten) := by
  intro schema later record final
  have distinct : schema.HasDistinctNames := by decide
  have succeeded : applyDefaults schema .epoch record = (final, .ok ["level", "next", "seen"]) := by
    have text : String.ofList Instant.epoch.text = "1970-01-01T00:00:00+00:00" := by decide +kernel
    rw [applyDefaults_reading, text]
  exact ⟨distinct, succeeded, applyDefaults_again distinct succeeded later⟩

end Rulebook
