/-
This file describes a whole default pass by the record that it begins with.

The pass reads each field from the record that its earlier writes have left. When
the fields have different names this makes no difference: no write touches what a
later field reads. So the pass is a plan, made once from the record at the start,
that lists the writes up to the first fault, and the writes are then carried out.

From this follow the two facts on which every statement about the pass rests. A
name that no planned write bears keeps its entry, whether the pass succeeds or
not. After a pass that succeeds, every field that the plan writes holds just what
was planned for it.
-/
import Rulebook.Proofs.Default.Injection
import Mathlib.Data.List.Nodup

namespace Rulebook

/-! ### Things with names -/

section Named

variable {Item : Type} {name : Item → String} {item : Item}

/-- A name leads to the first thing that bears it. -/
theorem find?_append_cons_of_notMem {before after : List Item}
    (new : name item ∉ before.map name) :
    (before ++ item :: after).find? (fun other => name other = name item) = some item := by
  have missing : before.find? (fun other => name other = name item) = none :=
    List.find?_eq_none.2 fun other member same =>
      new (of_decide_eq_true same ▸ List.mem_map_of_mem member)
  rw [List.find?_append, missing, List.find?_cons_of_pos (by simp)]
  rfl

/-- Among things of different names, each stands between things of other names. -/
theorem exists_append_of_nodup_map {items : List Item} (distinct : (items.map name).Nodup)
    (member : item ∈ items) :
    ∃ before after, items = before ++ item :: after ∧
      name item ∉ before.map name ∧ name item ∉ after.map name := by
  obtain ⟨before, after, split⟩ := List.append_of_mem member
  rw [split, List.map_append, List.map_cons, List.nodup_middle, List.nodup_cons, List.mem_append,
    not_or] at distinct
  exact ⟨before, after, split, distinct.1⟩

/-- Among things of different names, each is found under its own. -/
theorem find?_of_nodup_map {items : List Item} (distinct : (items.map name).Nodup)
    (member : item ∈ items) :
    items.find? (fun other => name other = name item) = some item := by
  obtain ⟨before, after, rfl, new, -⟩ := exists_append_of_nodup_map distinct member
  exact find?_append_cons_of_notMem new

end Named

/-! ### Stores made of entries -/

/-- A store that keeps one entry for each field, and reads a field from its entry alone. -/
class EntryStore (Item : Type) [FieldStore (Entries Item)] where
  /-- The entry that a value is kept as. -/
  encode : Value → Item
  put_eq : ∀ (record : Entries Item) (name : String) (value : Value),
    FieldStore.put record name value = record.put name (encode value)
  read?_congr : ∀ (schema : Schema) (first second : Entries Item) (name : String),
    first.find? name = second.find? name →
      FieldStore.read? schema first name = FieldStore.read? schema second name

instance : EntryStore Value where
  encode value := value
  put_eq _ _ _ := rfl
  read?_congr _ _ _ _ same := same

instance : EntryStore Json where
  encode := Value.toJson
  put_eq _ _ _ := rfl
  read?_congr schema _ _ name same :=
    congrArg (fun held => (schema.find? name).map fun field => Value.ofJson field.kind held) same

/-- A declared field of a JSON object is always read, from its member or from nothing. -/
theorem read?_json_of_find? {schema : Schema} {field : Field}
    (declared : schema.find? field.name = some field) (record : JsonRecord) :
    FieldStore.read? schema record field.name =
      some (.ofJson field.kind (record.find? field.name)) :=
  congrArg (Option.map _) declared

/-- No two fields have one name. -/
def Schema.HasDistinctNames (schema : Schema) : Prop :=
  (schema.fields.map Field.name).Nodup

instance (schema : Schema) : Decidable schema.HasDistinctNames :=
  inferInstanceAs (Decidable (schema.fields.map Field.name).Nodup)

/-- Two fields of one name are one field, when the names are distinct. -/
theorem Schema.HasDistinctNames.field_ext {schema : Schema} (distinct : schema.HasDistinctNames)
    {first second : Field} (firstMember : first ∈ schema.fields)
    (secondMember : second ∈ schema.fields) (same : first.name = second.name) : first = second :=
  List.inj_on_of_nodup_map distinct firstMember secondMember same

/-- A name stands for its first field. -/
theorem Schema.find?_of_fields_eq {schema : Schema} {field : Field} {before after : List Field}
    (split : schema.fields = before ++ field :: after)
    (declared : field.name ∉ before.map Field.name) : schema.find? field.name = some field :=
  (congrArg (List.find? _) split).trans (find?_append_cons_of_notMem declared)

/-- A field stands among fields of other names, when the names are distinct. -/
theorem Schema.HasDistinctNames.exists_append {schema : Schema}
    (distinct : schema.HasDistinctNames) {field : Field} (member : field ∈ schema.fields) :
    ∃ before after, schema.fields = before ++ field :: after ∧
      field.name ∉ before.map Field.name ∧ field.name ∉ after.map Field.name :=
  exists_append_of_nodup_map distinct member

/-- A field is found under its name, when the names are distinct. -/
theorem Schema.find?_name {schema : Schema} (distinct : schema.HasDistinctNames) {field : Field}
    (member : field ∈ schema.fields) : schema.find? field.name = some field :=
  find?_of_nodup_map distinct member

/-! ### One field -/

section Verdict

variable {Store : Type} [FieldStore Store]

/-- What the pass makes of a field: the value it writes there, nothing, or a fault. -/
def verdict (schema : Schema) (now : Instant) (record : Store) (field : Field) :
    Except Fault (Option Value) :=
  if field.directives.isEmpty then .ok none
  else
    match FieldStore.read? schema record field.name with
    | none => .error (.unknownField field.name)
    | some held =>
      match injected field.kind field.directives now held with
      | .error flaw => .error (.badDefault field.name flaw.message)
      | .ok none => .ok none
      | .ok (some value) => (checkWrite schema field.name value).map fun _ => some value

/-- The step of the pass is to carry out the verdict. -/
theorem injectField_eq (schema : Schema) (now : Instant) (record : Store) (field : Field) :
    injectField schema now record field =
      (verdict schema now record field).map fun
        | none => (record, false)
        | some value => (FieldStore.put record field.name value, true) := by
  unfold injectField verdict
  by_cases unruled : field.directives.isEmpty = true
  · rw [if_pos unruled, if_pos unruled]
    rfl
  · rw [if_neg unruled, if_neg unruled]
    cases FieldStore.read? schema record field.name with
    | none => rfl
    | some held =>
      dsimp only
      cases injected field.kind field.directives now held with
      | error flaw => rfl
      | ok given =>
        cases given with
        | none => rfl
        | some value =>
          unfold write
          dsimp only
          cases checkWrite schema field.name value <;> rfl

/-- A step that ends has left the record alone, or has put a value into its field. -/
theorem injectField_cases {record next : Store} {field : Field} {written : Bool}
    (stepped : injectField schema now record field = .ok (next, written)) :
    (verdict schema now record field = .ok none ∧ next = record) ∨
      ∃ value, verdict schema now record field = .ok (some value) ∧
        next = FieldStore.put record field.name value := by
  rw [injectField_eq] at stepped
  cases judged : verdict schema now record field with
  | error fault =>
    rw [judged] at stepped
    cases stepped
  | ok given =>
    rw [judged] at stepped
    cases given with
    | none =>
      cases stepped
      exact .inl ⟨rfl, rfl⟩
    | some value =>
      cases stepped
      exact .inr ⟨value, rfl, rfl⟩

/-- A declared field is written exactly when it is read and there is a reason to write. -/
theorem verdict_eq_some_iff {schema : Schema} {field : Field}
    (declared : schema.find? field.name = some field) (now : Instant) (record : Store)
    (value : Value) :
    verdict schema now record field = .ok (some value) ↔
      ∃ held, FieldStore.read? schema record field.name = some held ∧
        Injects now field held value := by
  constructor
  · intro written
    unfold verdict at written
    split at written
    · cases written
    · split at written
      · cases written
      · next held read =>
        split at written
        · cases written
        · cases written
        · next given givenEq =>
          have injects := (injected_eq_some_iff now field held given).1 givenEq
          cases checked : checkWrite schema field.name given with
          | error fault =>
            rw [checked] at written
            cases written
          | ok _ =>
            rw [checked] at written
            cases written
            exact ⟨held, read, injects⟩
  · rintro ⟨held, read, injects⟩
    have allowed : checkWrite schema field.name value = .ok () := by
      unfold checkWrite
      rw [declared]
      exact if_pos injects.kind_eq.symm
    unfold verdict
    simp only [injects.isEmpty_directives, Bool.false_eq_true, if_false, read,
      (injected_eq_some_iff now field held value).2 injects, allowed]
    rfl

/-- A field is left alone exactly when it has no rules, or it is read and there is no reason to
write. -/
theorem verdict_eq_none_iff (schema : Schema) (now : Instant) (record : Store) (field : Field) :
    verdict schema now record field = .ok none ↔
      field.directives.isEmpty = true ∨
        ∃ held, FieldStore.read? schema record field.name = some held ∧ Spares field held := by
  constructor
  · intro left
    unfold verdict at left
    split at left
    · next unruled => exact .inl unruled
    · split at left
      · cases left
      · next held read =>
        split at left
        · cases left
        · next spared => exact .inr ⟨held, read, (injected_eq_none_iff now field held).1 spared⟩
        · next given _ =>
          cases checked : checkWrite schema field.name given with
          | error fault =>
            rw [checked] at left
            cases left
          | ok _ =>
            rw [checked] at left
            cases left
  · rintro (unruled | ⟨held, read, spares⟩)
    · exact if_pos unruled
    · unfold verdict
      simp only [read, (injected_eq_none_iff now field held).2 spares, ite_self]

/-- A prohibited field that holds anything else than a zero of its kind is reset. -/
theorem verdict_of_prohibited {schema : Schema} {record : Store} {field : Field} {held : Value}
    (declared : schema.find? field.name = some field) (prohibited : field.HasRule .prohibit)
    (read : FieldStore.read? schema record field.name = some held)
    (apart : held.isZero = false ∨ held.kind ≠ field.kind) (now : Instant) :
    verdict schema now record field = .ok (some field.kind.zero) :=
  (verdict_eq_some_iff declared now record _).2 ⟨held, read, .reset prohibited apart⟩

/-- A field that is not prohibited is left alone where it does not read as zero. -/
theorem verdict_of_not_readsAsZero {schema : Schema} {record : Store} {field : Field}
    {held : Value} (allowed : ¬ field.HasRule .prohibit)
    (read : FieldStore.read? schema record field.name = some held)
    (apart : ¬ ReadsAsZero field.kind held) (now : Instant) :
    verdict schema now record field = .ok none := by
  refine (verdict_eq_none_iff schema now record field).2 (.inr ⟨held, read, ?_⟩)
  cases first : findKeyword? field.directives .default with
  | none => exact .noDefault allowed first
  | some directive => exact .filled allowed first apart

/-! ### From one field to the next -/

/-- What holds of a record holds of the one that a pass leaves, if no step takes it away. -/
theorem injectFields_induction {motive : Store → Prop} {fields : List Field}
    (step : ∀ field ∈ fields, ∀ record next written, motive record →
      injectField schema now record field = .ok (next, written) → motive next)
    {record : Store} (start : motive record) : motive (injectFields schema now record fields).1 := by
  induction fields generalizing record with
  | nil => exact start
  | cons field rest induction =>
    have stepRest := fun other member => step other (List.mem_cons_of_mem _ member)
    unfold injectFields
    cases stepped : injectField schema now record field with
    | error fault => exact start
    | ok reached =>
      obtain ⟨next, written⟩ := reached
      exact induction stepRest (step field List.mem_cons_self record next written start stepped)

/-- A pass goes on with later fields from the record that the earlier ones have left. -/
theorem injectFields_append {record reached : Store} {before : List Field} {changed : List String}
    (passed : injectFields schema now record before = (reached, .ok changed))
    (after : List Field) :
    (injectFields schema now record (before ++ after)).1 =
      (injectFields schema now reached after).1 := by
  induction before generalizing record changed with
  | nil =>
    obtain ⟨rfl, -⟩ := Prod.mk.inj passed
    rfl
  | cons field rest induction =>
    unfold injectFields at passed
    rw [List.cons_append, injectFields]
    cases stepped : injectField schema now record field with
    | error fault =>
      rw [stepped] at passed
      cases passed
    | ok next =>
      obtain ⟨next, written⟩ := next
      rw [stepped] at passed
      dsimp only at passed
      cases later : injectFields schema now next rest with
      | mk last outcome =>
        rw [later] at passed
        cases outcome with
        | error fault => cases passed
        | ok names =>
          obtain ⟨rfl, -⟩ := Prod.mk.inj passed
          exact induction later

end Verdict

/-! ### The plan of a pass -/

section Plan

variable {Item : Type} [FieldStore (Entries Item)]

/-- The writes to fields up to the first fault, and this fault, all judged by one record. -/
def plan (schema : Schema) (now : Instant) (record : Entries Item) :
    List Field → Entries Value × Option Fault
  | [] => ([], none)
  | field :: rest =>
    match verdict schema now record field with
    | .error fault => ([], some fault)
    | .ok none => plan schema now record rest
    | .ok (some value) =>
      ((field.name, value) :: (plan schema now record rest).1, (plan schema now record rest).2)

/-- The names of planned writes, or the fault that cut the plan short. -/
def planOutcome (planned : Entries Value × Option Fault) : Except Fault (List String) :=
  match planned.2 with
  | none => .ok (planned.1.map Prod.fst)
  | some fault => .error fault

/-- A verdict is given by what the field's own entry is. -/
theorem verdict_congr [EntryStore Item] (schema : Schema) (now : Instant)
    {first second : Entries Item} {field : Field}
    (same : first.find? field.name = second.find? field.name) :
    verdict schema now first field = verdict schema now second field := by
  unfold verdict
  rw [EntryStore.read?_congr schema first second field.name same]

/-- A plan is made of the verdicts. -/
theorem plan_congr_of_verdict (schema : Schema) (now : Instant) {first second : Entries Item}
    {fields : List Field}
    (same : ∀ field ∈ fields,
      verdict schema now first field = verdict schema now second field) :
    plan schema now first fields = plan schema now second fields := by
  induction fields with
  | nil => rfl
  | cons field rest induction =>
    have later := induction fun other member => same other (List.mem_cons_of_mem _ member)
    unfold plan
    rw [same field List.mem_cons_self, later]

theorem plan_congr [EntryStore Item] (schema : Schema) (now : Instant)
    {first second : Entries Item} {fields : List Field}
    (same : ∀ field ∈ fields, first.find? field.name = second.find? field.name) :
    plan schema now first fields = plan schema now second fields :=
  plan_congr_of_verdict schema now fun field member =>
    verdict_congr schema now (same field member)

/-- A write for one field leaves the plan for fields of other names as it is. -/
theorem plan_put [EntryStore Item] (schema : Schema) (now : Instant) (record : Entries Item)
    (name : String) (value : Value) {fields : List Field}
    (others : name ∉ fields.map Field.name) :
    plan schema now (FieldStore.put record name value) fields = plan schema now record fields := by
  refine plan_congr schema now fun field member => ?_
  rw [EntryStore.put_eq]
  refine Entries.find?_put_of_ne record _ fun same => others ?_
  rw [← same]
  exact List.mem_map_of_mem member

/-- The record after writes. -/
def putAll (record : Entries Item) (writes : Entries Value) : Entries Item :=
  writes.foldl (fun record entry => FieldStore.put record entry.1 entry.2) record

/-- The pass over fields with distinct names carries out its plan. -/
theorem injectFields_eq [EntryStore Item] (schema : Schema) (now : Instant)
    (record : Entries Item) {fields : List Field} (distinct : (fields.map Field.name).Nodup) :
    injectFields schema now record fields =
      (putAll record (plan schema now record fields).1,
        planOutcome (plan schema now record fields)) := by
  induction fields generalizing record with
  | nil => rfl
  | cons field rest induction =>
    obtain ⟨others, distinctRest⟩ := List.nodup_cons.1 distinct
    unfold injectFields plan
    rw [injectField_eq]
    cases verdict schema now record field with
    | error fault => rfl
    | ok given =>
      cases given with
      | none =>
        simp only [Except.map, induction record distinctRest, Bool.false_eq_true, if_false]
        cases planOutcome (plan schema now record rest) <;> rfl
      | some value =>
        simp only [Except.map, induction _ distinctRest, plan_put schema now record _ _ others,
          planOutcome]
        cases (plan schema now record rest).2 <;> rfl

/-! ### What is planned -/

/-- Writes are planned in the order of the fields. -/
theorem plan_names_sublist (schema : Schema) (now : Instant) (record : Entries Item)
    (fields : List Field) :
    ((plan schema now record fields).1.map Prod.fst).Sublist (fields.map Field.name) := by
  induction fields with
  | nil => exact List.Sublist.slnil
  | cons field rest induction =>
    unfold plan
    split
    · exact List.nil_sublist _
    · exact induction.cons _
    · exact induction.cons_cons _

/-- What is planned for a name is the verdict on a field of this name. -/
theorem verdict_of_planned {schema : Schema} {now : Instant} {record : Entries Item}
    {fields : List Field} {name : String} {value : Value}
    (planned : (plan schema now record fields).1.find? name = some value) :
    ∃ field ∈ fields, field.name = name ∧ verdict schema now record field = .ok (some value) := by
  induction fields with
  | nil => cases planned
  | cons field rest induction =>
    unfold plan at planned
    split at planned
    · cases planned
    · obtain ⟨other, member, found⟩ := induction planned
      exact ⟨other, List.mem_cons_of_mem _ member, found⟩
    · next given judged =>
      by_cases same : field.name = name
      · simp only [Entries.find?, same, if_true, Option.some.injEq] at planned
        exact ⟨field, List.mem_cons_self, same, planned ▸ judged⟩
      · simp only [Entries.find?, same, if_false] at planned
        obtain ⟨other, member, found⟩ := induction planned
        exact ⟨other, List.mem_cons_of_mem _ member, found⟩

open Classical in
/-- A plan without a fault writes just the fields whose verdict is a value. -/
theorem plan_names_eq {schema : Schema} {now : Instant} {record : Entries Item}
    {fields : List Field} (complete : (plan schema now record fields).2 = none) :
    (plan schema now record fields).1.map Prod.fst =
      (fields.filter fun field =>
        ∃ value, verdict schema now record field = .ok (some value)).map Field.name := by
  induction fields with
  | nil => rfl
  | cons field rest induction =>
    unfold plan at complete ⊢
    split at complete
    · cases complete
    · next judged =>
      rw [List.filter_cons_of_neg (by simp [judged])]
      exact induction complete
    · next value judged =>
      rw [List.filter_cons_of_pos (by simp [judged])]
      exact congrArg (List.cons field.name) (induction complete)

/-- A plan without a fault holds the verdict on each field that it writes. -/
theorem planned_of_verdict {schema : Schema} {now : Instant} {record : Entries Item}
    {fields : List Field} (distinct : (fields.map Field.name).Nodup)
    (complete : (plan schema now record fields).2 = none) {field : Field}
    (member : field ∈ fields) {value : Value}
    (judged : verdict schema now record field = .ok (some value)) :
    (plan schema now record fields).1.find? field.name = some value := by
  induction fields with
  | nil => exact absurd member List.not_mem_nil
  | cons first rest induction =>
    obtain ⟨others, distinctRest⟩ := List.nodup_cons.1 distinct
    unfold plan at complete ⊢
    split at complete
    · cases complete
    · next left =>
      rcases List.mem_cons.1 member with rfl | inRest
      · rw [left] at judged
        cases judged
      · exact induction distinctRest complete inRest
    · next given written =>
      rcases List.mem_cons.1 member with rfl | inRest
      · rw [written] at judged
        cases judged
        simp only [Entries.find?, if_true]
      · have different : first.name ≠ field.name := fun same =>
          others (same ▸ List.mem_map_of_mem inRest)
        simp only [Entries.find?, different, if_false]
        exact induction distinctRest complete inRest

/-- A plan without a fault has a verdict on every field. -/
theorem verdict_of_complete {schema : Schema} {now : Instant} {record : Entries Item}
    {fields : List Field} (complete : (plan schema now record fields).2 = none) {field : Field}
    (member : field ∈ fields) : ∃ given, verdict schema now record field = .ok given := by
  induction fields with
  | nil => exact absurd member List.not_mem_nil
  | cons first rest induction =>
    unfold plan at complete
    split at complete
    · cases complete
    · next left =>
      rcases List.mem_cons.1 member with rfl | inRest
      · exact ⟨_, left⟩
      · exact induction complete inRest
    · next written =>
      rcases List.mem_cons.1 member with rfl | inRest
      · exact ⟨_, written⟩
      · exact induction complete inRest

/-! ### Carrying out the plan -/

theorem find?_putAll_of_none [EntryStore Item] (record : Entries Item) {writes : Entries Value}
    {name : String} (unwritten : writes.find? name = none) :
    (putAll record writes).find? name = record.find? name := by
  induction writes generalizing record with
  | nil => rfl
  | cons entry rest induction =>
    obtain ⟨first, value⟩ := entry
    by_cases same : first = name
    · simp [Entries.find?, same] at unwritten
    · simp only [Entries.find?, same, if_false] at unwritten
      show (putAll (FieldStore.put record first value) rest).find? name = _
      rw [induction _ unwritten, EntryStore.put_eq, Entries.find?_put_of_ne _ _ (Ne.symm same)]

theorem find?_putAll_of_some [EntryStore Item] (record : Entries Item) {writes : Entries Value}
    (distinct : (writes.map Prod.fst).Nodup) {name : String} {value : Value}
    (written : writes.find? name = some value) :
    (putAll record writes).find? name = some (EntryStore.encode value) := by
  induction writes generalizing record with
  | nil => cases written
  | cons entry rest induction =>
    obtain ⟨first, given⟩ := entry
    obtain ⟨others, distinctRest⟩ := List.nodup_cons.1 distinct
    show (putAll (FieldStore.put record first given) rest).find? name = _
    by_cases same : first = name
    · subst same
      simp only [Entries.find?, if_true, Option.some.injEq] at written
      rw [find?_putAll_of_none _ (Entries.find?_eq_none_of_notMem others), EntryStore.put_eq,
        Entries.find?_put_self, written]
    · simp only [Entries.find?, same, if_false] at written
      exact induction _ distinctRest written

/-- Writes leave two records alike in a name in which they are alike. -/
theorem find?_putAll_congr [EntryStore Item] {first second : Entries Item}
    {writes : Entries Value} (distinct : (writes.map Prod.fst).Nodup) {name : String}
    (same : first.find? name = second.find? name) :
    (putAll first writes).find? name = (putAll second writes).find? name := by
  cases written : writes.find? name with
  | none => rw [find?_putAll_of_none _ written, find?_putAll_of_none _ written, same]
  | some value =>
    rw [find?_putAll_of_some _ distinct written, find?_putAll_of_some _ distinct written]

end Plan

/-! ### The two facts about a pass -/

section Pass

variable {Item : Type} [FieldStore (Entries Item)] [EntryStore Item] {schema : Schema}

/-- A name keeps its entry, in a pass that succeeds and in one that fails, unless a field of this
name is read and there is a reason to write it; the entry then is what the reason gives. -/
theorem find?_applyDefaults (distinct : schema.HasDistinctNames) (now : Instant)
    (record : Entries Item) (name : String) :
    (applyDefaults schema now record).1.find? name = record.find? name ∨
      ∃ field ∈ schema.fields, field.name = name ∧
        ∃ held value, FieldStore.read? schema record field.name = some held ∧
          Injects now field held value ∧
          (applyDefaults schema now record).1.find? name = some (EntryStore.encode value) := by
  have names : ((plan schema now record schema.fields).1.map Prod.fst).Nodup :=
    (plan_names_sublist schema now record schema.fields).nodup distinct
  have carriedOut : (applyDefaults schema now record).1 =
      putAll record (plan schema now record schema.fields).1 :=
    congrArg Prod.fst (injectFields_eq schema now record distinct)
  rw [carriedOut]
  cases planned : (plan schema now record schema.fields).1.find? name with
  | none => exact .inl (find?_putAll_of_none record planned)
  | some value =>
    obtain ⟨field, member, named, judged⟩ := verdict_of_planned planned
    obtain ⟨held, read, injects⟩ :=
      (verdict_eq_some_iff (Schema.find?_name distinct member) now record value).1 judged
    exact .inr ⟨field, member, named, held, value, read, injects,
      find?_putAll_of_some record names planned⟩

/-- A pass that succeeds has planned all of its writes, and names them. -/
theorem plan_of_succeeded (distinct : schema.HasDistinctNames) {now : Instant}
    {record final : Entries Item} {changed : List String}
    (succeeded : applyDefaults schema now record = (final, .ok changed)) :
    final = putAll record (plan schema now record schema.fields).1 ∧
      (plan schema now record schema.fields).2 = none ∧
      changed = (plan schema now record schema.fields).1.map Prod.fst := by
  have carriedOut := succeeded.symm.trans (injectFields_eq schema now record distinct)
  obtain ⟨finalEq, outcome⟩ := Prod.mk.inj carriedOut
  unfold planOutcome at outcome
  split at outcome
  · next complete => exact ⟨finalEq, complete, Except.ok.inj outcome⟩
  · cases outcome

/-- After a pass that succeeds, a field that is read and has a reason to be written holds what the
reason gives. -/
theorem find?_of_injects (distinct : schema.HasDistinctNames) {now : Instant}
    {record final : Entries Item} {changed : List String}
    (succeeded : applyDefaults schema now record = (final, .ok changed)) {field : Field}
    (member : field ∈ schema.fields) {held value : Value}
    (read : FieldStore.read? schema record field.name = some held)
    (injects : Injects now field held value) :
    final.find? field.name = some (EntryStore.encode value) := by
  obtain ⟨finalEq, complete, -⟩ := plan_of_succeeded distinct succeeded
  have judged := (verdict_eq_some_iff (Schema.find?_name distinct member) now record value).2
    ⟨held, read, injects⟩
  rw [finalEq]
  exact find?_putAll_of_some record
    ((plan_names_sublist schema now record schema.fields).nodup distinct)
    (planned_of_verdict distinct complete member judged)

open Classical in
/-- A pass that succeeds names the fields that are read and have a reason to be written. -/
theorem changed_eq (distinct : schema.HasDistinctNames) {now : Instant}
    {record final : Entries Item} {changed : List String}
    (succeeded : applyDefaults schema now record = (final, .ok changed)) :
    changed = (schema.fields.filter fun field => ∃ held value,
      FieldStore.read? schema record field.name = some held ∧
        Injects now field held value).map Field.name := by
  obtain ⟨-, complete, changedEq⟩ := plan_of_succeeded distinct succeeded
  rw [changedEq, plan_names_eq complete]
  refine congrArg (List.map Field.name) (List.filter_congr fun field member => ?_)
  rw [decide_eq_decide]
  have declared := Schema.find?_name distinct member
  constructor
  · rintro ⟨value, judged⟩
    obtain ⟨held, read, injects⟩ := (verdict_eq_some_iff declared now record value).1 judged
    exact ⟨held, value, read, injects⟩
  · rintro ⟨held, value, read, injects⟩
    exact ⟨value, (verdict_eq_some_iff declared now record value).2 ⟨held, read, injects⟩⟩

/-- The names that a pass gives back are those of the fields with a reason to be written. -/
theorem mem_changed_iff (distinct : schema.HasDistinctNames) {now : Instant}
    {record final : Entries Item} {changed : List String}
    (succeeded : applyDefaults schema now record = (final, .ok changed)) {name : String} :
    name ∈ changed ↔ ∃ field ∈ schema.fields, field.name = name ∧
      ∃ held value, FieldStore.read? schema record name = some held ∧
        Injects now field held value := by
  rw [changed_eq distinct succeeded, List.mem_map]
  simp only [List.mem_filter, decide_eq_true_eq]
  constructor
  · rintro ⟨field, ⟨member, reason⟩, rfl⟩
    exact ⟨field, member, rfl, reason⟩
  · rintro ⟨field, member, rfl, reason⟩
    exact ⟨field, ⟨member, reason⟩, rfl⟩

/-- A name that a pass does not give back keeps its entry. -/
theorem find?_of_notMem_changed (distinct : schema.HasDistinctNames) {now : Instant}
    {record final : Entries Item} {changed : List String}
    (succeeded : applyDefaults schema now record = (final, .ok changed)) {name : String}
    (unwritten : name ∉ changed) : final.find? name = record.find? name := by
  have finalEq : (applyDefaults schema now record).1 = final := congrArg Prod.fst succeeded
  rw [← finalEq]
  rcases find?_applyDefaults distinct now record name with same | written
  · exact same
  · obtain ⟨field, member, rfl, held, value, read, injects, -⟩ := written
    exact absurd ((mem_changed_iff distinct succeeded).2
      ⟨field, member, rfl, held, value, read, injects⟩) unwritten

end Pass

end Rulebook
