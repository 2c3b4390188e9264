/-
This file proves that a timestamp that stands as a default in a rule text reaches the record.

On its way the text is taken out of its quotes and cut at the first colon of the word, its
semicolons become colons, and it is read as a time. What comes out is the instant with the local
date, the time of day and the offset that were written, and the present moment has no part in this.
The default pass puts this instant into a field that reads as zero. It then stays there, since a time
does not read as zero under any kind, so that just a prohibition could remove it again.

Fields may share a name here. A name stands for its first field.
-/
import Rulebook.Proofs.Calendar.Timestamp
import Rulebook.Proofs.Default.Pass
import Rulebook.Proofs.Record.Write
import Rulebook.Proofs.Rule.Closing

namespace Rulebook

open Calendar Number Text

/-! ### The default of a rule text -/

/-- The field has a timestamp as its first default, in quotes, between two texts that hold its other
directives. -/
structure Field.HasTimestamp (field : Field) (time : Timestamp) (front back : String) : Prop where
  isTemporal : field.kind = .temporal
  rules_eq : field.rules = front ++ ("default:'" ++ String.ofList time.text ++ "'") ++ back
  closes : Closes [] front.toList
  ends : endsWord back.toList = true
  first : findKeyword? (readRules front) .default = none

/-- A timestamp is written in quotes as it is. -/
theorem spelled_timestamp (time : Timestamp) :
    (⟨"default", some (String.ofList time.text)⟩ : Directive).Spelled
      ("default:'" ++ String.ofList time.text ++ "'").toList := by
  have unquoted : '\'' ∉ (String.ofList time.text).toList := by
    rw [String.toList_ofList]
    exact time.quote_notMem_text
  have spelling : ("default:'" ++ String.ofList time.text ++ "'").toList =
      "default".toList ++ ':' :: '\'' :: (String.ofList time.text).toList ++ ['\''] := by
    rw [String.toList_append, String.toList_append]
    rfl
  rw [spelling]
  exact .quoted_of_notMem (by decide) unquoted

/-- The timestamp is what the pass takes as the default of the field. -/
theorem Field.HasTimestamp.findKeyword? {field : Field} {time : Timestamp} {front back : String}
    (has : field.HasTimestamp time front back) :
    Rulebook.findKeyword? field.directives .default =
      some ⟨"default", some (String.ofList time.text)⟩ := by
  unfold Field.directives
  rw [has.rules_eq, (spelled_timestamp time).readRules_append has.closes has.ends]
  have missing := has.first
  unfold Rulebook.findKeyword? at missing ⊢
  rw [List.find?_append, missing, List.find?_cons_of_pos (by rfl)]
  rfl

/-! ### Reading the default -/

/-- The word for the present moment does not stand in front of a timestamp. -/
theorem isPrefixOf?_timestamp (time : Timestamp) :
    presentWord.isPrefixOf? time.text = none := by
  obtain ⟨first, middle, digit, written⟩ := time.exists_text_eq
  have other : first ≠ 't' := by
    rintro rfl
    exact absurd digit (by decide)
  have word : presentWord = 't' :: "imeNow".toList := rfl
  rw [written, word]
  exact if_neg (by simpa using other.symm)

/-- At whatever moment, the default is the instant that the timestamp names. -/
theorem exists_readDefault_timestamp (time : Timestamp) :
    ∃ instant, time.Names instant ∧
      ∀ now, readDefault .temporal now time.text = .ok (some (.temporal (some instant))) := by
  obtain ⟨instant, read, names⟩ := time.exists_read?_text
  refine ⟨instant, names, fun now => ?_⟩
  unfold readDefault readTime
  dsimp only
  rw [time.trim_text, isPrefixOf?_timestamp, read]

/-! ### One name during a pass -/

section Pass

variable {Store : Type} [FieldStore Store] {schema : Schema} {now : Instant}

/-- The pass fills a field that reads as zero with its timestamp. -/
theorem Field.HasTimestamp.injectField_eq {field : Field} {time : Timestamp} {front back : String}
    (has : field.HasTimestamp time front back) (declared : schema.find? field.name = some field)
    (allowed : ¬ field.HasRule .prohibit) {instant : Instant}
    (meant : readDefault .temporal now time.text = .ok (some (.temporal (some instant))))
    {record : Store} {held : Value} (read : FieldStore.read? schema record field.name = some held)
    (zero : ReadsAsZero .temporal held) :
    injectField schema now record field =
      .ok (FieldStore.put record field.name (.temporal (some instant)), true) := by
  have meantHere : readDefault field.kind now (String.ofList time.text).toList =
      .ok (some (.temporal (some instant))) := by
    rw [has.isTemporal, String.toList_ofList, meant]
  have injects : Injects now field held (.temporal (some instant)) :=
    .fill allowed has.findKeyword? (has.isTemporal ▸ zero) meantHere
  rw [Rulebook.injectField_eq, (verdict_eq_some_iff declared now record _).2 ⟨held, read, injects⟩]
  rfl

variable [PutGet Store]

/-- The pass over fields of other names does not touch what is read under a name. -/
theorem read?_injectFields_of_notMem {name : String} {fields : List Field}
    (others : name ∉ fields.map Field.name) (record : Store) :
    FieldStore.read? schema (injectFields schema now record fields).1 name =
      FieldStore.read? schema record name := by
  refine injectFields_induction (motive := fun reached =>
    FieldStore.read? schema reached name = FieldStore.read? schema record name) ?_ rfl
  intro field member reached next written same stepped
  rcases injectField_cases stepped with ⟨-, rfl⟩ | ⟨value, -, rfl⟩
  · exact same
  · have different : name ≠ field.name := fun named =>
      others (named ▸ List.mem_map_of_mem member)
    rw [PutGet.read?_put_of_ne schema reached value different, same]

/-- A time that a record holds under a name stays there as long as no field of the name is
prohibited. -/
theorem read?_time_injectFields {name : String} {instant : Instant} {fields : List Field}
    (allowed : ∀ field ∈ fields, field.name = name → ¬ field.HasRule .prohibit) {record : Store}
    (held : FieldStore.read? schema record name = some (.temporal (some instant))) :
    FieldStore.read? schema (injectFields schema now record fields).1 name =
      some (.temporal (some instant)) := by
  refine injectFields_induction (motive := fun reached =>
    FieldStore.read? schema reached name = some (.temporal (some instant))) ?_ held
  intro field member reached next written same stepped
  rcases injectField_cases stepped with ⟨-, rfl⟩ | ⟨value, judged, rfl⟩
  · exact same
  · by_cases named : field.name = name
    · subst named
      have left := verdict_of_not_readsAsZero (allowed field member rfl) same
        (not_readsAsZero_temporal field.kind instant) now
      rw [left] at judged
      cases judged
    · rw [PutGet.read?_put_of_ne schema reached value (Ne.symm named), same]

/-! ### The timestamp in the record -/

/-- A field that reads as zero and is not prohibited ends as the instant that its timestamp names,
whatever the present moment is, if no field before it ends the pass with a fault. -/
theorem read?_applyDefaults_timestamp {record : Store} {field : Field} {before after : List Field}
    {time : Timestamp} {front back : String} {held : Value}
    (split : schema.fields = before ++ field :: after)
    (declared : field.name ∉ before.map Field.name)
    (allowed : ∀ other ∈ field :: after, other.name = field.name → ¬ other.HasRule .prohibit)
    (has : field.HasTimestamp time front back)
    (read : FieldStore.read? schema record field.name = some held)
    (zero : ReadsAsZero .temporal held) :
    ∃ instant, time.Names instant ∧ ∀ now reached changed,
      injectFields schema now record before = (reached, .ok changed) →
        FieldStore.read? schema (applyDefaults schema now record).1 field.name =
          some (.temporal (some instant)) := by
  have found := Schema.find?_of_fields_eq split declared
  obtain ⟨instant, names, meant⟩ := exists_readDefault_timestamp time
  refine ⟨instant, names, fun now reached changed passed => ?_⟩
  have untouched : FieldStore.read? schema (injectFields schema now record before).1 field.name =
      FieldStore.read? schema record field.name :=
    read?_injectFields_of_notMem declared record
  rw [passed, read] at untouched
  have filled := has.injectField_eq found (allowed field List.mem_cons_self rfl) (meant now)
    untouched zero
  have put : FieldStore.read? schema
      (FieldStore.put reached field.name (.temporal (some instant))) field.name =
        some (.temporal (some instant)) :=
    PutGet.read?_put reached found has.isTemporal names.fitsStamp
  unfold applyDefaults
  rw [split, injectFields_append passed, injectFields, filled]
  exact read?_time_injectFields
    (fun other member => allowed other (List.mem_cons_of_mem _ member)) put

/-- A leap day behind two directives and in front of one, with semicolons and a colon in it. -/
theorem read?_applyDefaults_leap_day :
    let time : Timestamp :=
      { date := ⟨2024, 2, 29⟩, hour := 23, minute := 59, second := 58
        sign := '-', offsetHours := 1, offsetMinutes := 30
        hourMark := ';', minuteMark := ':', offsetMark := ';'
        year_nonneg := by decide, year_le := by decide, isValid := by decide
        hour_lt := by decide, minute_lt := by decide, second_lt := by decide
        isSign := by decide, offsetHours_lt := by decide, offsetMinutes_lt := by decide
        isHourMark := by decide, isMinuteMark := by decide, isOffsetMark := by decide }
    let since : Field := ⟨"since", .temporal,
      "required custom:'no holiday' default:'2024-02-29 23;59:58 -01;30' custom:weekday"⟩
    let note : Field := ⟨"note", .text, "prohibit"⟩
    let schema : Schema := ⟨"Visit", [note, since]⟩
    let record : JsonRecord := [("note", .string "late")]
    let instant : Instant := ⟨1709256598, 0, -5400, by decide⟩
    since.HasTimestamp time "required custom:'no holiday' " " custom:weekday" ∧
      time.Names instant ∧
      ∀ now, FieldStore.read? schema (applyDefaults schema now record).1 "since" =
        some (.temporal (some instant)) := by
  intro time since note schema record instant
  have required : (⟨"required", none⟩ : Directive).Spelled "required".toList :=
    .plain (by decide) (by decide)
  have custom : (⟨"custom", some "no holiday"⟩ : Directive).Spelled "custom:'no holiday'".toList :=
    .quoted_of_notMem (by decide) (by decide)
  have gap : isBlankText [' '] = true := by decide
  have has : since.HasTimestamp time "required custom:'no holiday' " " custom:weekday" :=
    { isTemporal := rfl
      rules_eq := by cbv
      closes := (required.closes gap (by decide)).append (custom.closes gap (by decide))
      ends := by decide
      first := by cbv }
  have names : time.Names instant := ⟨by decide +kernel, by decide, rfl, by decide⟩
  have split : schema.fields = [note] ++ since :: [] := rfl
  have allowed : ∀ other ∈ [since], other.name = "since" → ¬ other.HasRule .prohibit :=
    List.forall_mem_singleton.2 fun _ => Field.hasKeyword_eq_false_iff.1 (by cbv)
  have read : FieldStore.read? schema record "since" = some (.temporal none) := rfl
  have zero : ReadsAsZero .temporal (.temporal none) := ⟨_, rfl, rfl⟩
  have prohibited : note.directives = [⟨"prohibit", none⟩] :=
    Directive.Spelled.readRules_eq (.plain (by decide) (by decide))
  have passed (now : Instant) :
      injectFields schema now record [note] = ([("note", .string "")], .ok ["note"]) := by
    simp only [injectFields, injectField, prohibited]
    rfl
  obtain ⟨other, otherNames, reaches⟩ :=
    read?_applyDefaults_timestamp split (by decide) allowed has read zero
  rw [names.unique otherNames]
  exact ⟨has, otherNames, fun now => reaches now _ _ (passed now)⟩

end Pass

end Rulebook
