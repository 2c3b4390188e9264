/-
This file says what a default pass does to a JSON object.

Whether the pass succeeds or not, it removes no member, and it changes a member
only for a field that is prohibited or that has a default and read as zero. When it
succeeds, every prohibited field reads as zero, and a default that JSON can hold is
read back as the value that was meant.

Not every default can be held. A number that is not finite is stored as null, and a
time that no stamp can hold is stored as a text that is not a time or is the text of
another one.
-/
import Rulebook.Proofs.Default.Pass
import Rulebook.Proofs.Json.Field
import Rulebook.Proofs.Rule.Spelling

namespace Rulebook

variable {schema : Schema} {now : Instant} {record final : JsonRecord} {changed : List String}

/-! ### Reading a declared field -/

theorem read?_json (distinct : schema.HasDistinctNames) (record : JsonRecord) {field : Field}
    (member : field ∈ schema.fields) :
    FieldStore.read? schema record field.name =
      some (.ofJson field.kind (record.find? field.name)) :=
  read?_json_of_find? (Schema.find?_name distinct member) record

/-- What the pass has written is read back, where JSON can hold it. -/
theorem read?_json_of_injects (distinct : schema.HasDistinctNames)
    (succeeded : applyDefaults schema now record = (final, .ok changed)) {field : Field}
    (member : field ∈ schema.fields) {held value : Value}
    (read : FieldStore.read? schema record field.name = some held)
    (injects : Injects now field held value) (fits : value.FitsJson) :
    FieldStore.read? schema final field.name = some value := by
  have written : final.find? field.name = some value.toJson :=
    find?_of_injects distinct succeeded member read injects
  rw [read?_json distinct final member, written, ← injects.kind_eq, Value.ofJson_toJson fits]

/-! ### Defaults that are read back -/

/-- A default that fills a field is read back by the field and needs no bringing in line, where
JSON can hold it. A number that is not finite is stored as null, which reads as zero. -/
theorem reconcile_json_of_default (distinct : schema.HasDistinctNames)
    (succeeded : applyDefaults schema now record = (final, .ok changed)) {field : Field}
    (member : field ∈ schema.fields) (allowed : ¬ field.HasRule .prohibit) {directive : Directive}
    (first : findKeyword? field.directives .default = some directive) {held value : Value}
    (read : FieldStore.read? schema record field.name = some held)
    (zero : ReadsAsZero field.kind held)
    (meant : readDefault field.kind now directive.arguments = .ok (some value)) :
    ∃ stored, FieldStore.read? schema final field.name = some stored ∧
      (value.FitsJson → reconcile field.kind stored = .ok value) ∧
      ∀ number, value = .float number → number.isFinite = false →
        final.find? field.name = some .null ∧
          reconcile field.kind stored = .ok (Kind.zero .float) := by
  have injects : Injects now field held value := .fill allowed first zero meant
  have written : final.find? field.name = some value.toJson :=
    find?_of_injects distinct succeeded member read injects
  refine ⟨_, read?_json distinct final member, ?_, ?_⟩
  · intro fits
    rw [written, ← injects.kind_eq, Value.ofJson_toJson fits]
    exact reconcile_of_kind rfl
  · intro number isNumber infinite
    have null : final.find? field.name = some .null := by
      rw [written, isNumber, Value.toJson_float_of_not_finite infinite]
    have isFloat : field.kind = .float := by
      rw [← injects.kind_eq, isNumber]
      rfl
    refine ⟨null, ?_⟩
    rw [null, isFloat]
    exact reconcile_of_kind rfl

/-- A default that is the only rule of its field is the first one, and there is no prohibition. -/
theorem Field.only_default {field : Field} {arguments : String}
    (rules : field.directives = [⟨"default", some arguments⟩]) :
    ¬ field.HasRule .prohibit ∧
      findKeyword? field.directives .default = some ⟨"default", some arguments⟩ := by
  rw [← Field.hasKeyword_eq_false_iff, rules]
  exact ⟨rfl, rfl⟩

/-- A declared field without a member holds the zero of its kind, which a default fills. -/
theorem injects_of_only_default {field : Field} (declared : schema.find? field.name = some field)
    (absent : record.find? field.name = none) {arguments : String}
    (rules : field.directives = [⟨"default", some arguments⟩]) {value : Value}
    (meant : readDefault field.kind now arguments.toList = .ok (some value)) :
    FieldStore.read? schema record field.name = some field.kind.zero ∧
      ReadsAsZero field.kind field.kind.zero ∧ Injects now field field.kind.zero value := by
  obtain ⟨allowed, first⟩ := Field.only_default rules
  have zero : ReadsAsZero field.kind field.kind.zero :=
    ⟨_, reconcile_of_kind field.kind.kind_zero, field.kind.isZero_zero⟩
  refine ⟨?_, zero, .fill allowed first zero meant⟩
  rw [read?_json_of_find? declared, absent]
  rfl

/-- A field whose only rule is a default is filled where it has no member. -/
theorem injectField_of_only_default {field : Field}
    (declared : schema.find? field.name = some field) (absent : record.find? field.name = none)
    {arguments : String} (rules : field.directives = [⟨"default", some arguments⟩]) {value : Value}
    (meant : readDefault field.kind now arguments.toList = .ok (some value)) {json : Json}
    (written : value.toJson = json) {reached : JsonRecord}
    (stored : record.put field.name json = reached) :
    injectField schema now record field = .ok (reached, true) := by
  obtain ⟨read, -, injects⟩ := injects_of_only_default declared absent rules meant
  have judged : verdict schema now record field = .ok (some value) :=
    (verdict_eq_some_iff declared now record value).2 ⟨_, read, injects⟩
  rw [injectField_eq, judged, ← stored, ← written]
  rfl

/-- After a field that is filled the pass goes on with the others. -/
theorem injectFields_cons {reached : JsonRecord} {field : Field} {rest : List Field}
    (filled : injectField schema now record field = .ok (reached, true))
    (passed : injectFields schema now reached rest = (final, .ok changed)) :
    injectFields schema now record (field :: rest) = (final, .ok (field.name :: changed)) := by
  rw [injectFields, filled]
  dsimp only
  rw [passed]
  rfl

/-- A time is read back from the object, and an infinite number is stored as null. -/
theorem reconcile_json_visit :
    let since : Field := ⟨"since", .temporal, "default:'2024-02-29 23;59;58 -01;30'"⟩
    let level : Field := ⟨"level", .float, "default:-inf"⟩
    let schema : Schema := ⟨"Visit", [since, level]⟩
    let record : JsonRecord := []
    let final : JsonRecord := [("level", .null), ("since", .string "2024-02-29T23:59:58-01:30")]
    let time : Value := .temporal (some ⟨1709256598, 0, -5400, by decide⟩)
    schema.HasDistinctNames ∧
      applyDefaults schema .epoch record = (final, .ok ["since", "level"]) ∧
      time.FitsJson ∧
      (∃ stored, FieldStore.read? schema final "since" = some stored ∧
        reconcile .temporal stored = .ok time) ∧
      final.find? "level" = some .null := by
  intro since level schema record final time
  have distinct : schema.HasDistinctNames := by decide
  have fits : time.FitsJson := by decide +kernel
  have sinceMember : since ∈ schema.fields := List.mem_cons_self
  have sinceRules : since.directives = [⟨"default", some "2024-02-29 23;59;58 -01;30"⟩] :=
    @Directive.Spelled.readRules_eq _ "default:'2024-02-29 23;59;58 -01;30'"
      (.quoted_of_notMem (by decide) (by decide))
  obtain ⟨sinceAllowed, sinceFirst⟩ := Field.only_default sinceRules
  have sinceRead : FieldStore.read? schema record since.name = some (.temporal none) := rfl
  have sinceMeant : readDefault .temporal .epoch "2024-02-29 23;59;58 -01;30".toList =
      .ok (some time) := rfl
  have levelMember : level ∈ schema.fields := List.mem_cons_of_mem _ List.mem_cons_self
  have levelRules : level.directives = [⟨"default", some "-inf"⟩] :=
    @Directive.Spelled.readRules_eq _ "default:-inf"
      (.bare_of_notMem (by decide) (by decide) (by decide))
  obtain ⟨levelAllowed, levelFirst⟩ := Field.only_default levelRules
  have levelRead : FieldStore.read? schema record level.name = some (.float (.zero false)) := rfl
  have levelMeant : readDefault .float .epoch "-inf".toList =
      .ok (some (.float (.infinite true))) := rfl
  have succeeded : applyDefaults schema .epoch record = (final, .ok ["since", "level"]) := by
    have text : time.toJson = .string "2024-02-29T23:59:58-01:30" :=
      congrArg Json.string (by decide +kernel)
    let first : JsonRecord := [("since", .string "2024-02-29T23:59:58-01:30")]
    have sinceFilled : injectField schema .epoch record since = .ok (first, true) :=
      injectField_of_only_default rfl rfl sinceRules sinceMeant text rfl
    have stored : first.put "level" .null = final := rfl
    have levelFilled : injectField schema .epoch first level = .ok (final, true) :=
      injectField_of_only_default rfl rfl levelRules levelMeant
        (Value.toJson_float_of_not_finite rfl) stored
    exact injectFields_cons sinceFilled (injectFields_cons levelFilled rfl)
  obtain ⟨stored, read, readBack, -⟩ := reconcile_json_of_default distinct succeeded sinceMember
    sinceAllowed sinceFirst sinceRead ⟨_, rfl, rfl⟩ sinceMeant
  obtain ⟨_, _, _, infinite⟩ := reconcile_json_of_default distinct succeeded levelMember
    levelAllowed levelFirst levelRead ⟨_, rfl, rfl⟩ levelMeant
  exact ⟨distinct, succeeded, fits, ⟨stored, read, readBack fits⟩, (infinite _ rfl rfl).1⟩

/-- A default fills the field, and what the field of the final object gives, brought in line, is not
the value that was meant. -/
def LosesDefault (schema : Schema) (now : Instant) (record final : JsonRecord) (field : Field) :
    Prop :=
  ¬ field.HasRule .prohibit ∧
    ∃ directive held value stored,
      findKeyword? field.directives .default = some directive ∧
      FieldStore.read? schema record field.name = some held ∧ ReadsAsZero field.kind held ∧
      readDefault field.kind now directive.arguments = .ok (some value) ∧
      FieldStore.read? schema final field.name = some stored ∧
      reconcile field.kind stored ≠ .ok value

/-- A default is lost when the text that it is stored as is read as something else. -/
theorem losesDefault_of_only_default (distinct : schema.HasDistinctNames)
    (succeeded : applyDefaults schema now record = (final, .ok changed)) {field : Field}
    (member : field ∈ schema.fields) (absent : record.find? field.name = none) {arguments : String}
    (rules : field.directives = [⟨"default", some arguments⟩]) (value : Value)
    (meant : readDefault field.kind now arguments.toList = .ok (some value))
    (lost : reconcile field.kind (.ofJson field.kind (some value.toJson)) ≠ .ok value) :
    LosesDefault schema now record final field := by
  obtain ⟨allowed, first⟩ := Field.only_default rules
  obtain ⟨read, zero, injects⟩ :=
    injects_of_only_default (Schema.find?_name distinct member) absent rules meant
  have written : final.find? field.name = some value.toJson :=
    find?_of_injects distinct succeeded member read injects
  refine ⟨allowed, _, _, value, _, first, read, zero, meant, read?_json distinct final member, ?_⟩
  rwa [written]

/-- Each of the three fields that the next examples declare has a default for its only rule. -/
theorem directives_reading :
    (⟨"level", .float, "default:inf"⟩ : Field).directives = [⟨"default", some "inf"⟩] ∧
      (⟨"next", .temporal, "default:'+12024-01-01 00;00;00 +00;00'"⟩ : Field).directives =
        [⟨"default", some "+12024-01-01 00;00;00 +00;00"⟩] ∧
      (⟨"seen", .temporal, "default:timeNow"⟩ : Field).directives =
        [⟨"default", some "timeNow"⟩] :=
  ⟨Directive.Spelled.readRules_eq (.bare_of_notMem (by decide) (by decide) (by decide)),
    Directive.Spelled.readRules_eq (.quoted_of_notMem (by decide) (by decide)),
    Directive.Spelled.readRules_eq (.bare_of_notMem (by decide) (by decide) (by decide))⟩

/-- At whatever moment the pass is made, an infinite number is stored as null, a time in a year of
five digits as its text, and the moment as its own text. -/
theorem applyDefaults_reading (now : Instant) :
    let level : Field := ⟨"level", .float, "default:inf"⟩
    let next : Field := ⟨"next", .temporal, "default:'+12024-01-01 00;00;00 +00;00'"⟩
    let seen : Field := ⟨"seen", .temporal, "default:timeNow"⟩
    let schema : Schema := ⟨"Reading", [level, next, seen]⟩
    let record : JsonRecord := []
    let final : JsonRecord := [("level", .null), ("next", .string "+12024-01-01T00:00:00+00:00"),
      ("seen", .string (String.ofList now.text))]
    applyDefaults schema now record = (final, .ok ["level", "next", "seen"]) := by
  intro level next seen schema record final
  obtain ⟨levelRules, nextRules, seenRules⟩ := directives_reading
  let far : Instant := ⟨317273587200, 0, 0, by decide⟩
  have levelMeant : readDefault .float now "inf".toList = .ok (some (.float (.infinite false))) :=
    rfl
  have nextMeant : readDefault .temporal now "+12024-01-01 00;00;00 +00;00".toList =
      .ok (some (.temporal (some far))) := rfl
  have seenMeant : readDefault .temporal now "timeNow".toList =
      .ok (some (.temporal (some now))) := rfl
  have levelJson : (Value.float (.infinite false)).toJson = .null :=
    Value.toJson_float_of_not_finite rfl
  have nextJson : (Value.temporal (some far)).toJson = .string "+12024-01-01T00:00:00+00:00" :=
    congrArg Json.string (by decide +kernel)
  have seenJson : (Value.temporal (some now)).toJson = .string (String.ofList now.text) := rfl
  let one : JsonRecord := [("level", .null)]
  let two : JsonRecord := [("level", .null), ("next", .string "+12024-01-01T00:00:00+00:00")]
  have levelFilled : injectField schema now record level = .ok (one, true) :=
    injectField_of_only_default rfl rfl levelRules levelMeant levelJson rfl
  have nextStored : one.put "next" (.string "+12024-01-01T00:00:00+00:00") = two := rfl
  have nextFilled : injectField schema now one next = .ok (two, true) :=
    injectField_of_only_default rfl rfl nextRules nextMeant nextJson nextStored
  have seenStored : two.put "seen" (.string (String.ofList now.text)) = final := rfl
  have seenFilled : injectField schema now two seen = .ok (final, true) :=
    injectField_of_only_default rfl rfl seenRules seenMeant seenJson seenStored
  exact injectFields_cons levelFilled (injectFields_cons nextFilled
    (injectFields_cons seenFilled rfl))

/-- Four defaults that are not read back as the values that were meant: an infinite number, a time
in a year of five digits, a moment at an offset of half a minute, and a moment in a leap second that
does not end a minute. -/
theorem defaults_not_read_back :
    let level : Field := ⟨"level", .float, "default:inf"⟩
    let next : Field := ⟨"next", .temporal, "default:'+12024-01-01 00;00;00 +00;00'"⟩
    let seen : Field := ⟨"seen", .temporal, "default:timeNow"⟩
    let schema : Schema := ⟨"Reading", [level, next, seen]⟩
    let record : JsonRecord := []
    let halfMinute : Instant := ⟨0, 0, 30, by decide⟩
    let withinMinute : Instant := ⟨1704078245, 1500000000, 0, by decide⟩
    let final : JsonRecord := [("level", .null), ("next", .string "+12024-01-01T00:00:00+00:00"),
      ("seen", .string "1970-01-01T00:00:30+00:01")]
    let leapt : JsonRecord := [("level", .null), ("next", .string "+12024-01-01T00:00:00+00:00"),
      ("seen", .string "2024-01-01T03:04:06.500+00:00")]
    schema.HasDistinctNames ∧
      applyDefaults schema halfMinute record = (final, .ok ["level", "next", "seen"]) ∧
      (∀ field ∈ schema.fields, LosesDefault schema halfMinute record final field) ∧
      applyDefaults schema withinMinute record = (leapt, .ok ["level", "next", "seen"]) ∧
      LosesDefault schema withinMinute record leapt seen := by
  intro level next seen schema record halfMinute withinMinute final leapt
  obtain ⟨levelRules, nextRules, seenRules⟩ := directives_reading
  let far : Instant := ⟨317273587200, 0, 0, by decide⟩
  have distinct : schema.HasDistinctNames := by decide
  have levelMeant : readDefault .float halfMinute "inf".toList =
      .ok (some (.float (.infinite false))) := rfl
  have nextMeant : readDefault .temporal halfMinute "+12024-01-01 00;00;00 +00;00".toList =
      .ok (some (.temporal (some far))) := rfl
  have seenMeant (now : Instant) : readDefault .temporal now "timeNow".toList =
      .ok (some (.temporal (some now))) := rfl
  have levelJson : (Value.float (.infinite false)).toJson = .null :=
    Value.toJson_float_of_not_finite rfl
  have nextJson : (Value.temporal (some far)).toJson = .string "+12024-01-01T00:00:00+00:00" :=
    congrArg Json.string (by decide +kernel)
  have succeeded : applyDefaults schema halfMinute record =
      (final, .ok ["level", "next", "seen"]) := by
    have text : String.ofList halfMinute.text = "1970-01-01T00:00:30+00:01" := by decide +kernel
    rw [applyDefaults_reading, text]
  have leaping : applyDefaults schema withinMinute record =
      (leapt, .ok ["level", "next", "seen"]) := by
    have text : String.ofList withinMinute.text = "2024-01-01T03:04:06.500+00:00" := by
      decide +kernel
    rw [applyDefaults_reading, text]
  have seenMember : seen ∈ schema.fields :=
    List.mem_cons_of_mem _ (List.mem_cons_of_mem _ List.mem_cons_self)
  refine ⟨distinct, succeeded, ?_, leaping, ?_⟩
  · refine List.forall_mem_cons.2 ⟨?level, List.forall_mem_cons.2 ⟨?next,
      List.forall_mem_singleton.2 ?seen⟩⟩
    case level =>
      refine losesDefault_of_only_default distinct succeeded List.mem_cons_self rfl levelRules _
        levelMeant fun same => ?_
      rw [levelJson] at same
      cases Except.ok.inj ((reconcile_of_kind rfl).symm.trans same)
    case next =>
      have unread : Instant.read? "+12024-01-01T00:00:00+00:00".toList = none := by decide +kernel
      refine losesDefault_of_only_default distinct succeeded
        (List.mem_cons_of_mem _ List.mem_cons_self) rfl nextRules _ nextMeant
        fun same => ?_
      have given : reconcile .temporal (.text "+12024-01-01T00:00:00+00:00") =
          .error (.text "+12024-01-01T00:00:00+00:00") := by
        rw [reconcile_temporal_text (by decide), unread]
      rw [nextJson, Value.ofJson_temporal_string, unread] at same
      cases given.symm.trans same
    case seen =>
      have read : Instant.read? halfMinute.text = some ⟨-30, 0, 60, by decide⟩ := by decide +kernel
      refine losesDefault_of_only_default distinct succeeded seenMember rfl seenRules _
        (seenMeant halfMinute) fun same => ?_
      have given := Value.ofJson_toJson_time halfMinute
      rw [read] at given
      rw [given] at same
      have values := Except.ok.inj ((reconcile_of_kind rfl).symm.trans same)
      have instants := Option.some.inj (Value.temporal.inj values)
      exact absurd (congrArg Instant.seconds instants) (by decide)
  · let after : Instant := ⟨1704078246, 500000000, 0, by decide⟩
    have leaps : withinMinute.LeapsTo after :=
      ⟨by decide, by decide, by decide, by decide, by decide⟩
    refine losesDefault_of_only_default distinct leaping seenMember rfl seenRules _
      (seenMeant withinMinute) fun same => ?_
    have given := Value.ofJson_toJson_time withinMinute
    rw [leaps.read?_text (by decide +kernel)] at given
    rw [given] at same
    have values := Except.ok.inj ((reconcile_of_kind rfl).symm.trans same)
    exact leaps.ne (Option.some.inj (Value.temporal.inj values))

/-! ### Prohibited fields -/

/-- A prohibited field reads as zero after a pass that succeeds. -/
theorem isZero_of_prohibit (distinct : schema.HasDistinctNames)
    (succeeded : applyDefaults schema now record = (final, .ok changed)) {field : Field}
    (member : field ∈ schema.fields) (prohibited : field.HasRule .prohibit) :
    ∃ value, FieldStore.read? schema final field.name = some value ∧
      value.kind = field.kind ∧ value.isZero = true := by
  have read := read?_json distinct record member
  generalize Value.ofJson field.kind (record.find? field.name) = held at read
  by_cases zero : held.isZero = true ∧ held.kind = field.kind
  · refine ⟨held, ?_, zero.2, zero.1⟩
    rw [← read]
    refine EntryStore.read?_congr schema final record field.name ?_
    rcases find?_applyDefaults distinct now record field.name with same | written
    · rwa [succeeded] at same
    · obtain ⟨other, otherMember, named, found, value, otherRead, injects, -⟩ := written
      obtain rfl := distinct.field_ext otherMember member named
      obtain rfl := Option.some.inj (otherRead.symm.trans read)
      exact absurd injects (not_injects_of_isZero prohibited zero.1 zero.2 value)
  · have apart : held.isZero = false ∨ held.kind ≠ field.kind :=
      (not_and_or.1 zero).imp_left Bool.eq_false_iff.2
    have written := read?_json_of_injects distinct succeeded member read (.reset prohibited apart)
      (Value.fitsJson_zero field.kind)
    exact ⟨field.kind.zero, written, field.kind.kind_zero, field.kind.isZero_zero⟩

/-! ### The whole pass -/

/-- No member is removed, a member is changed only for a field that is prohibited or that has a
default and read as zero, and the prohibited fields read as zero after a pass that succeeds. -/
theorem find?_json_applyDefaults (distinct : schema.HasDistinctNames) (now : Instant)
    (record : JsonRecord) :
    (∀ name, (record.find? name).isSome = true →
        ((applyDefaults schema now record).1.find? name).isSome = true) ∧
      (∀ name, (applyDefaults schema now record).1.find? name ≠ record.find? name →
        ∃ field ∈ schema.fields, field.name = name ∧
          (field.HasRule .prohibit ∨ field.HasRule .default ∧
            ∃ held, FieldStore.read? schema record name = some held ∧
              ReadsAsZero field.kind held)) ∧
      ∀ changed, (applyDefaults schema now record).2 = .ok changed →
        ∀ field ∈ schema.fields, field.HasRule .prohibit →
          ∃ value, FieldStore.read? schema (applyDefaults schema now record).1 field.name =
              some value ∧ value.kind = field.kind ∧ value.isZero = true := by
  refine ⟨?_, ?_, ?_⟩
  · intro name present
    rcases find?_applyDefaults distinct now record name with same | written
    · rwa [same]
    · obtain ⟨_, _, _, _, _, _, _, stored⟩ := written
      rw [stored]
      rfl
  · intro name different
    rcases find?_applyDefaults distinct now record name with same | written
    · exact absurd same different
    · obtain ⟨field, member, named, held, value, read, injects, -⟩ := written
      subst named
      refine ⟨field, member, rfl, ?_⟩
      cases injects with
      | reset prohibited _ => exact .inl prohibited
      | fill _ first zero _ => exact .inr ⟨Field.hasRule_of_findKeyword? first, held, read, zero⟩
  · intro changed outcome field member prohibited
    exact isZero_of_prohibit distinct (Prod.ext rfl outcome) member prohibited

/-- Of three members the pass changes the prohibited array alone. -/
theorem find?_json_list :
    let schema : Schema := ⟨"Product",
      [⟨"role", .text, "prohibit"⟩, ⟨"stock", .integer, "default:10"⟩]⟩
    let record : JsonRecord :=
      [("note", .bool true), ("role", .array [.null]), ("stock", .string "12")]
    let final : JsonRecord := [("note", .bool true), ("role", .string ""), ("stock", .string "12")]
    schema.HasDistinctNames ∧
      applyDefaults schema .epoch record = (final, .ok ["role"]) ∧
      ∃ value, FieldStore.read? schema final "role" = some value ∧ value.kind = .text ∧
        value.isZero = true := by
  intro schema record final
  have distinct : schema.HasDistinctNames := by decide
  have role : (⟨"role", .text, "prohibit"⟩ : Field).directives = [⟨"prohibit", none⟩] :=
    Directive.Spelled.readRules_eq (.plain (by decide) (by decide))
  have stock : (⟨"stock", .integer, "default:10"⟩ : Field).directives =
      [⟨"default", some "10"⟩] :=
    Directive.Spelled.readRules_eq (.bare_of_notMem (by decide) (by decide) (by decide))
  have succeeded : applyDefaults schema .epoch record = (final, .ok ["role"]) := by
    unfold applyDefaults
    simp only [schema, injectFields, injectField, role, stock]
    rfl
  have prohibited : Field.HasRule ⟨"role", .text, "prohibit"⟩ .prohibit := by
    rw [← Field.hasKeyword_iff, role]
    rfl
  have whole := (find?_json_applyDefaults distinct .epoch record).2.2
  rw [succeeded] at whole
  exact ⟨distinct, succeeded, whole _ rfl _ (by simp [schema]) prohibited⟩

end Rulebook
