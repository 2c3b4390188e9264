/-
This file settles what a check makes of a time in a TOML file and in a JSON file.

JSON has no times. A time that stands for itself in TOML becomes an object with a stamp in it, and
no field for times takes an object: the check reports a value of the wrong kind, where the same
text in quotes is read as a time and goes through the directives of the field. So the two files are
never reported alike, whatever the rules are, unless the field is not looked at: the default pass
stops at a fault before, or it resets the field, which a rule prohibits.
-/
import Rulebook.Proofs.Command.Ending
import Rulebook.Proofs.Default.Twins
import Rulebook.Proofs.Enforcement.Influence
import Rulebook.Proofs.Json.Reader
import Rulebook.Proofs.Toml.Time

namespace Rulebook

/-! ### TOML tables as JSON -/

namespace Toml

/-- A member of a table is a member of the object under the same name. -/
theorem find?_membersToJson (members : Members) (name : String) :
    Entries.find? (Item.membersToJson members) name =
      (Entries.find? members name).map Item.toJson := by
  induction members with
  | nil => rfl
  | cons entry rest induction =>
    obtain ⟨first, item⟩ := entry
    unfold Item.membersToJson Entries.find?
    by_cases same : first = name
    · rw [if_pos same, if_pos same]
      rfl
    · rw [if_neg same, if_neg same]
      exact induction

end Toml

namespace Command

open Calendar

/-! ### Two files for one record -/

/-- No character of a date-time is escaped in a string. -/
theorem isPlainChar_of_mem_text {time : DateTime} {character : Char}
    (member : character ∈ time.text) : JsonForm.IsPlainChar character := by
  rcases time.isStampChar_of_mem_text member with (digit | sign) | letter
  · have bounds := Number.isDigit_bounds digit
    refine ⟨?_, ?_, by omega⟩
    · rintro rfl
      cases digit
    · rintro rfl
      cases digit
  · simp only [List.mem_cons, List.not_mem_nil, or_false] at sign
    rcases sign with rfl | rfl | rfl | rfl | rfl <;> decide
  · simp only [List.mem_cons, List.not_mem_nil, or_false] at letter
    rcases letter with rfl | rfl | rfl | rfl <;> decide

/-- Two files that give one record. The TOML file gives a time without quotes, as it stands, where
the JSON file has the same text as a string. -/
structure RecordTwins (files : String → Found) (tomlPath jsonPath name : String) (time : DateTime)
    (native : Toml.Members) (quoted : JsonRecord) : Prop where
  toml_read : ∃ content, files tomlPath = .text content ∧
    Format.ofExtension? (extension tomlPath) = some .toml ∧
      Toml.read? content.toList = some native
  json_read : ∃ content, files jsonPath = .text content ∧
    Format.ofExtension? (extension jsonPath) = some .json ∧
      Json.read? content.toList = some (.object quoted)
  native_held : ∃ stamp, Toml.IsStampOf time stamp ∧
    Entries.find? native name = some (.time stamp)
  quoted_held : Entries.find? quoted name = some (.string (String.ofList time.text))
  others : ∀ other, other ≠ name →
    (Entries.find? native other).map Toml.Item.toJson = Entries.find? quoted other

namespace RecordTwins

variable {files : String → Found} {tomlPath jsonPath name : String} {time : DateTime}
  {native : Toml.Members} {quoted : JsonRecord}

theorem loadRecord_toml (twins : RecordTwins files tomlPath jsonPath name time native quoted) :
    loadRecord files tomlPath = .ok (.object (Toml.Item.membersToJson native)) := by
  obtain ⟨content, found, isToml, read⟩ := twins.toml_read
  have json : Toml.readJson? content.toList =
      some (.object (Toml.Item.membersToJson native)) := by
    unfold Toml.readJson?
    rw [read]
    rfl
  unfold loadRecord readRecordFile
  rw [found]
  dsimp only [Found.text?]
  rw [isToml]
  dsimp only [Format.readJson?]
  rw [json]

theorem loadRecord_json (twins : RecordTwins files tomlPath jsonPath name time native quoted) :
    loadRecord files jsonPath = .ok (.object quoted) := by
  obtain ⟨content, found, isJson, read⟩ := twins.json_read
  unfold loadRecord readRecordFile
  rw [found]
  dsimp only [Found.text?]
  rw [isJson]
  dsimp only [Format.readJson?]
  rw [read]

/-- The time is boxed in the one record and quoted in the other. -/
theorem timeTwins (twins : RecordTwins files tomlPath jsonPath name time native quoted) :
    TimeTwins name (Toml.Item.membersToJson native) quoted where
  boxed_held := by
    obtain ⟨stamp, -, held⟩ := twins.native_held
    exact ⟨[(Toml.Item.timeMember, .string stamp)], by rw [Toml.find?_membersToJson, held]; rfl⟩
  quoted_held := by
    obtain ⟨instant, read⟩ := time.exists_read?_text
    exact ⟨String.ofList time.text, instant, twins.quoted_held, by rwa [String.toList_ofList]⟩
  others other different := by
    rw [Toml.find?_membersToJson]
    exact twins.others other different

/-- Every date-time can be given in both ways: by a line in TOML, and by an object with one string
in JSON. -/
theorem exists_of_lines {key : List Char} (bare : Toml.IsBareKey key) (time : DateTime)
    (isToml : Format.ofExtension? (extension tomlPath) = some .toml)
    (isJson : Format.ofExtension? (extension jsonPath) = some .json)
    (line : files tomlPath = .text (String.ofList (Toml.timeLine key time)))
    (object : files jsonPath = .text (String.ofList (JsonForm.memberText key time.text))) :
    ∃ stamp, RecordTwins files tomlPath jsonPath (String.ofList key) time
      [(String.ofList key, .time stamp)]
      [(String.ofList key, .string (String.ofList time.text))] := by
  obtain ⟨stamp, stamped⟩ := Toml.exists_isStampOf time
  have plainKey : ∀ character ∈ key, JsonForm.IsPlainChar character := fun character member =>
    ⟨Toml.ne_of_isKeyCharacter (bare.2 character member) (by decide),
      Toml.ne_of_isKeyCharacter (bare.2 character member) (by decide),
      Toml.le_toNat_of_isKeyCharacter (bare.2 character member)⟩
  have plainTime : ∀ character ∈ time.text, JsonForm.IsPlainChar character :=
    fun character member => isPlainChar_of_mem_text member
  have alone {Item : Type} (item : Item) (other : String) (different : other ≠ String.ofList key) :
      Entries.find? [(String.ofList key, item)] other = none :=
    if_neg (Ne.symm different)
  refine ⟨stamp, ?_⟩
  exact {
    toml_read := ⟨_, line, isToml, by rw [String.toList_ofList]; exact stamped.read? bare⟩
    json_read := ⟨_, object, isJson, by
      rw [String.toList_ofList]
      exact Json.read?_memberText plainKey plainTime⟩
    native_held := ⟨stamp, stamped, if_pos rfl⟩
    quoted_held := if_pos rfl
    others := fun other different => by
      rw [alone _ other different, alone _ other different]
      rfl }

end RecordTwins

/-! ### Outcomes -/

/-- What a check comes to whose record is a JSON object. -/
theorem outcome_check_of_object {files : String → Found} {catalogPath name input : String}
    {catalog : Catalog} {schema : Schema} {record : JsonRecord}
    (loaded : loadCatalog files catalogPath = .ok catalog)
    (found : findRecord catalog name = .ok schema)
    (read : loadRecord files input = .ok (.object record)) (now : Instant) (wantsDefaults : Bool)
    (form : OutputForm) :
    (Task.check catalogPath name input wantsDefaults form).outcome files now =
      if wantsDefaults then
        (applyDefaults schema now record).2.mapError Failure.ofFault >>= fun changed =>
          .ok (.enforced ⟨name, enforce schema (applyDefaults schema now record).1
            catalog.settings none, changed⟩)
      else .ok (.enforced ⟨name, enforce schema record catalog.settings none, []⟩) := by
  rw [outcome_check, loaded]
  show (findRecord catalog name >>= _) = _
  rw [found]
  show (loadRecord files input >>= _) = _
  rw [read]
  cases wantsDefaults with
  | false => rfl
  | true =>
    show ((fillIn schema now (.object record)).map _ >>= _) = _
    unfold fillIn JsonRecord.ofJson
    dsimp only
    cases applyDefaults schema now record with
    | mk final outcome => cases outcome <;> rfl

/-- The outcomes are reports that differ for one field: the first has a message there, and the
second has others in its place, or none. -/
def ReportedApart (subject message : String) (first second : Except Failure Outcome) : Prop :=
  ∃ before own after changed,
    first = .ok (.enforced ⟨subject, before ++ [message] ++ after, changed⟩) ∧
      second = .ok (.enforced ⟨subject, before ++ own ++ after, changed⟩) ∧ message ∉ own

theorem ReportedApart.ne {subject message : String} {first second : Except Failure Outcome}
    (apart : ReportedApart subject message first second) : first ≠ second := by
  obtain ⟨before, own, after, changed, rfl, rfl, absent⟩ := apart
  intro same
  have messages : before ++ [message] ++ after = before ++ own ++ after :=
    congrArg Report.messages (Outcome.enforced.inj (Except.ok.inj same))
  have alone : [message] = own := List.append_cancel_left (List.append_cancel_right messages)
  exact absent (alone ▸ List.mem_singleton_self message)

/-- A report with a message has found violations. -/
theorem ReportedApart.exit_eq {subject message : String} {second : Except Failure Outcome}
    {files : String → Found} {now : Instant} {task : Task}
    (apart : ReportedApart subject message (task.outcome files now) second) (inColour : Bool)
    (verbosity : Nat) (quiet : Bool) :
    (run files now inColour ⟨task, verbosity, quiet⟩).exit = .violations := by
  obtain ⟨before, own, after, changed, reported, -, -⟩ := apart
  unfold run
  rw [reported]
  have filled : (before ++ [message] ++ after).isEmpty = false := by simp
  show Exit.ofMessages (before ++ [message] ++ after) = .violations
  unfold Exit.ofMessages
  rw [filled]
  rfl

/-- The time is not looked at: the default pass resets it or ends in a fault. -/
def Unread (field : Field) (wantsDefaults : Bool) (outcome : Except Failure Outcome) : Prop :=
  wantsDefaults = true ∧
    (field.HasRule .prohibit ∨ ∃ failure, outcome = .error failure)

section Records

variable {files : String → Found} {catalogPath name firstPath secondPath : String}
  {catalog : Catalog} {schema : Schema} {field : Field} {boxed quoted : JsonRecord}

/-- The checks of two objects that give a time in different forms come to the same where it is not
looked at, and to different reports otherwise. -/
theorem outcome_check_of_timeTwins (loaded : loadCatalog files catalogPath = .ok catalog)
    (found : findRecord catalog name = .ok schema) (member : field ∈ schema.fields)
    (temporal : field.kind = .temporal) (ruled : field.directives ≠ [])
    (twins : TimeTwins field.name boxed quoted)
    (firstRead : loadRecord files firstPath = .ok (.object boxed))
    (secondRead : loadRecord files secondPath = .ok (.object quoted)) (now : Instant)
    (wantsDefaults : Bool) (form : OutputForm) :
    let first := (Task.check catalogPath name firstPath wantsDefaults form).outcome files now
    let second := (Task.check catalogPath name secondPath wantsDefaults form).outcome files now
    Unread field wantsDefaults second ∧ first = second ∨
      ¬ Unread field wantsDefaults second ∧
        ReportedApart name ((Violation.wrongKind .temporal).message field.name) first second := by
  intro first second
  have distinct := hasDistinctNames_of_findRecord loaded found
  have firstOutcome := outcome_check_of_object loaded found firstRead now wantsDefaults form
  have secondOutcome := outcome_check_of_object loaded found secondRead now wantsDefaults form
  cases wantsDefaults with
  | false =>
    obtain ⟨before, own, after, firstMessages, secondMessages, absent⟩ :=
      twins.exists_enforce_eq distinct member temporal ruled catalog.settings
    refine .inr ⟨fun unread => Bool.false_ne_true unread.1, before, own, after, [], ?_, ?_, absent⟩
    · rw [← firstMessages]
      exact firstOutcome
    · rw [← secondMessages]
      exact secondOutcome
  | true =>
    have samePass := twins.applyDefaults_snd_eq distinct member temporal now
    simp only [if_true] at firstOutcome secondOutcome
    rw [samePass] at firstOutcome
    cases ended : (applyDefaults schema now quoted).2 with
    | error fault =>
      rw [ended] at firstOutcome secondOutcome
      exact .inl ⟨⟨rfl, .inr ⟨_, secondOutcome⟩⟩, firstOutcome.trans secondOutcome.symm⟩
    | ok changed =>
      rw [ended] at firstOutcome secondOutcome
      by_cases prohibited : field.HasRule .prohibit
      · have same := twins.find?_applyDefaults_of_prohibited distinct member temporal now
          prohibited ended
        have messages : enforce schema (applyDefaults schema now boxed).1 catalog.settings none =
            enforce schema (applyDefaults schema now quoted).1 catalog.settings none :=
          enforce_congr (fun other _ _ =>
            EntryStore.read?_congr schema _ _ other.name (same other.name)) catalog.settings none
        rw [messages] at firstOutcome
        exact .inl ⟨⟨rfl, .inl prohibited⟩, firstOutcome.trans secondOutcome.symm⟩
      · have after := twins.after_applyDefaults distinct member temporal now prohibited
        obtain ⟨before, own, after, firstMessages, secondMessages, absent⟩ :=
          after.exists_enforce_eq distinct member temporal ruled catalog.settings
        refine .inr ⟨?_, before, own, after, changed, ?_, ?_, absent⟩
        · rintro ⟨-, refused | ⟨failure, failed⟩⟩
          · exact prohibited refused
          · cases secondOutcome.symm.trans failed
        · rw [← firstMessages]
          exact firstOutcome
        · rw [← secondMessages]
          exact secondOutcome

end Records

/-! ### The two formats -/

/-- A time without quotes in a TOML file is not checked as the same text in a JSON file is. The
TOML file is always reported for a value of the wrong kind, in the place of what the rules of the
field find in the time; so the two checks come to the same exactly when the default pass resets the
field or ends in a fault. -/
theorem check_toml_eq_check_json_iff {files : String → Found}
    {catalogPath name tomlPath jsonPath : String} {catalog : Catalog} {schema : Schema}
    {field : Field} {time : DateTime} {native : Toml.Members} {quoted : JsonRecord}
    (loaded : loadCatalog files catalogPath = .ok catalog)
    (found : findRecord catalog name = .ok schema) (member : field ∈ schema.fields)
    (temporal : field.kind = .temporal) (ruled : field.directives ≠ [])
    (twins : RecordTwins files tomlPath jsonPath field.name time native quoted) (now : Instant)
    (wantsDefaults : Bool) (form : OutputForm) :
    let fromToml := (Task.check catalogPath name tomlPath wantsDefaults form).outcome files now
    let fromJson := (Task.check catalogPath name jsonPath wantsDefaults form).outcome files now
    (fromToml = fromJson ↔
        wantsDefaults = true ∧
          (field.HasRule .prohibit ∨ ∃ failure, fromJson = .error failure)) ∧
      (fromToml ≠ fromJson →
        (∃ before own after changed,
          fromToml = .ok (.enforced ⟨name, before ++
            ["Field '" ++ field.name ++ "' must be of kind " ++ Kind.temporal.name] ++ after,
              changed⟩) ∧
          fromJson = .ok (.enforced ⟨name, before ++ own ++ after, changed⟩) ∧
          "Field '" ++ field.name ++ "' must be of kind " ++ Kind.temporal.name ∉ own) ∧
        ∀ (inColour : Bool) (verbosity : Nat) (quiet : Bool),
          (run files now inColour ⟨.check catalogPath name tomlPath wantsDefaults form, verbosity,
            quiet⟩).exit = .violations) := by
  intro fromToml fromJson
  have either := outcome_check_of_timeTwins loaded found member temporal ruled twins.timeTwins
    twins.loadRecord_toml twins.loadRecord_json now wantsDefaults form
  rcases either with ⟨unread, same⟩ | ⟨read, apart⟩
  · exact ⟨iff_of_true same unread, fun different => absurd same different⟩
  · refine ⟨iff_of_false apart.ne read, fun _ => ⟨?_, fun inColour verbosity quiet => ?_⟩⟩
    · rw [← Violation.message_wrongKind]
      exact apart
    · exact apart.exit_eq inColour verbosity quiet

/-- The date-time `2024-01-02T03:04:05Z`. -/
def januaryMorning : DateTime where
  date := ⟨2024, 1, 2⟩
  mark := 'T'
  hour := 3
  minute := 4
  second := 5
  fraction := []
  offset := ['Z']
  year_nonneg := by decide
  year_le := by decide
  isValid := by decide
  isMark := .inl rfl
  hour_lt := by decide
  minute_lt := by decide
  second_le := by decide
  isFraction := .absent
  isOffset := .zero (.inl rfl)

/-- A catalog with a time that is required, and a record in two formats. -/
def visitFiles (path : String) : Found :=
  if path = "c.toml" then
    .text ("[[records]]\nname = 'Visit'\n[[records.fields]]\nname = 'at'\n" ++
      "kind = 'temporal'\nrules = 'required'\n")
  else if path = "r.toml" then .text "at = 2024-01-02T03:04:05Z\n"
  else if path = "r.json" then .text "\x7b\x22at\x22:\x222024-01-02T03:04:05Z\x22\x7d"
  else .nothing

/-- The default pass has nothing to do for the record, and the formats make a difference. -/
theorem check_toml_eq_check_json_iff_visit :
    let schema : Schema := ⟨"Visit", [⟨"at", .temporal, "required"⟩]⟩
    let check (path : String) : Task := .check "c.toml" "Visit" path true .json
    loadCatalog visitFiles "c.toml" = .ok ⟨.standard, [schema]⟩ ∧
      (∃ native quoted,
        RecordTwins visitFiles "r.toml" "r.json" "at" januaryMorning native quoted) ∧
      (∀ failure, (check "r.json").outcome visitFiles .epoch ≠ .error failure) ∧
      (check "r.toml").outcome visitFiles .epoch ≠ (check "r.json").outcome visitFiles .epoch ∧
      (run visitFiles .epoch false ⟨check "r.toml", 0, true⟩).exit = .violations := by
  intro schema check
  have loaded : loadCatalog visitFiles "c.toml" = .ok ⟨.standard, [schema]⟩ := by decide +kernel
  have found : findRecord ⟨.standard, [schema]⟩ "Visit" = .ok schema := rfl
  have bare : Toml.IsBareKey "at".toList := ⟨by decide, List.all_eq_true.mp (by decide)⟩
  have line : visitFiles "r.toml" =
      .text (String.ofList (Toml.timeLine "at".toList januaryMorning)) := by
    decide +kernel
  have object : visitFiles "r.json" =
      .text (String.ofList (JsonForm.memberText "at".toList januaryMorning.text)) := by
    decide +kernel
  obtain ⟨stamp, twins⟩ := RecordTwins.exists_of_lines bare januaryMorning (by decide +kernel)
    (by decide +kernel) line object
  have allowed : ¬ Field.HasRule ⟨"at", .temporal, "required"⟩ .prohibit :=
    Field.hasKeyword_eq_false_iff.1 (by decide +kernel)
  have succeeded : ∀ failure, (check "r.json").outcome visitFiles .epoch ≠ .error failure := by
    intro failure failed
    rw [outcome_check_of_object loaded found twins.loadRecord_json] at failed
    have unchanged : (applyDefaults schema .epoch
        ([(String.ofList "at".toList, .string (String.ofList januaryMorning.text))] :
          JsonRecord)).2 = .ok [] := by decide +kernel
    rw [if_pos rfl, unchanged] at failed
    cases failed
  have settled := check_toml_eq_check_json_iff loaded found List.mem_cons_self rfl
    (by decide +kernel) twins .epoch true .json
  have different : (check "r.toml").outcome visitFiles .epoch ≠
      (check "r.json").outcome visitFiles .epoch := by
    intro same
    rcases (settled.1.1 same).2 with refused | ⟨failure, failed⟩
    · exact allowed refused
    · exact succeeded failure failed
  exact ⟨loaded, ⟨_, _, twins⟩, succeeded, different, (settled.2 different).2 false 0 true⟩

/-- The TOML file is reported and the JSON file is not, with and without the default pass. -/
theorem time_in_toml_reported :
    let exit (path : String) (wantsDefaults : Bool) : Exit :=
      (run visitFiles .epoch false
        ⟨.check "c.toml" "Visit" path wantsDefaults .json, 0, true⟩).exit
    String.ofList januaryMorning.text = "2024-01-02T03:04:05Z" ∧
      ∀ wantsDefaults : Bool, (exit "r.toml" wantsDefaults).code = 1 ∧
        (exit "r.json" wantsDefaults).code = 0 := by
  decide +kernel

end Command

end Rulebook
