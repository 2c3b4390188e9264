/-
This file proves that no command ends with an internal error.

An internal error would be a field that the schema does not know, or a write of the wrong kind.
Commands take their schemas from catalogs that have passed the check, so that the names of the
fields are distinct, and a pass on such a schema stops at nothing but what the user is told about:
a record that is no JSON object, or a default that cannot be read. Every other step of a command
fails for a file, for the catalog or for the input.
-/
import Rulebook.Command.Run
import Rulebook.Proofs.Catalog.Valid
import Rulebook.Proofs.Default.Fault

namespace Rulebook

namespace Command

/-! ### Steps that end well or for the user -/

/-- The step does not end with an internal error. -/
def IsSound {Result : Type} (attempt : Except Failure Result) : Prop :=
  ∀ failure, attempt = .error failure → failure.exit ≠ .internal

section Steps

variable {First Second : Type}

theorem isSound_ok (result : First) : IsSound (.ok result) := by
  intro failure failed
  cases failed

theorem isSound_error {failure : Failure} (users : failure.exit ≠ .internal) :
    IsSound (.error failure : Except Failure First) := by
  intro other failed
  cases failed
  exact users

theorem IsSound.bind {attempt : Except Failure First} {next : First → Except Failure Second}
    (first : IsSound attempt) (second : ∀ result, attempt = .ok result → IsSound (next result)) :
    IsSound (attempt >>= next) := by
  cases attempt with
  | error failure => exact isSound_error (first failure rfl)
  | ok result => exact second result rfl

theorem IsSound.map {attempt : Except Failure First} (sound : IsSound attempt)
    (change : First → Second) : IsSound (attempt.map change) := by
  cases attempt with
  | error failure => exact isSound_error (sound failure rfl)
  | ok result => exact isSound_ok (change result)

end Steps

/-! ### The catalog -/

theorem isSound_readCatalogFile (path : String) (text : List Char) :
    IsSound ((readCatalogFile path text).mapError Failure.ofFault) := by
  unfold readCatalogFile Format.readCatalog Catalog.validate
  dsimp only
  split
  · split
    · split
      · exact isSound_ok _
      · exact isSound_error Exit.noConfusion
    · exact isSound_error Exit.noConfusion
  · exact isSound_error Exit.noConfusion

theorem isSound_loadCatalog (files : String → Found) (path : String) :
    IsSound (loadCatalog files path) := by
  unfold loadCatalog
  split
  · exact isSound_error Exit.noConfusion
  · split
    · exact isSound_error Exit.noConfusion
    · exact isSound_readCatalogFile path _

/-- A catalog that is loaded has passed the check. -/
theorem isValid_of_loadCatalog {files : String → Found} {path : String} {catalog : Catalog}
    (loaded : loadCatalog files path = .ok catalog) : catalog.IsValid := by
  unfold loadCatalog at loaded
  split at loaded
  · cases loaded
  · split at loaded
    · cases loaded
    · next content _ =>
      cases read : readCatalogFile path content.toList with
      | error fault =>
        rw [read] at loaded
        cases loaded
      | ok other =>
        rw [read] at loaded
        cases loaded
        exact isValid_of_readCatalogFile read

theorem isSound_findRecord (catalog : Catalog) (name : String) :
    IsSound (findRecord catalog name) := by
  unfold findRecord
  split
  · exact isSound_ok _
  · exact isSound_error Exit.noConfusion

theorem mem_of_findRecord {catalog : Catalog} {name : String} {schema : Schema}
    (found : findRecord catalog name = .ok schema) : schema ∈ catalog.records := by
  unfold findRecord Catalog.find? at found
  split at found
  · next known =>
    cases found
    exact List.mem_of_find?_eq_some known
  · cases found

/-- The names of the fields of a record type that a command finds are distinct. -/
theorem hasDistinctNames_of_findRecord {files : String → Found} {path name : String}
    {catalog : Catalog} {schema : Schema} (loaded : loadCatalog files path = .ok catalog)
    (found : findRecord catalog name = .ok schema) : schema.HasDistinctNames :=
  (isValid_of_loadCatalog loaded).fieldsDistinct schema (mem_of_findRecord found)

/-! ### The record -/

theorem isSound_loadRecord (files : String → Found) (path : String) :
    IsSound (loadRecord files path) := by
  unfold loadRecord readRecordFile
  dsimp only
  split
  · exact isSound_error Exit.noConfusion
  · split
    · split
      · exact isSound_ok _
      · exact isSound_error Exit.noConfusion
    · exact isSound_error Exit.noConfusion

/-- A command fails to fill in a record for the fault that stops the default pass. -/
theorem fillIn_eq_error_iff {schema : Schema} {now : Instant} {json : Json} {failure : Failure} :
    fillIn schema now json = .error failure ↔
      ∃ fault, defaultFault? schema now json = some fault ∧ failure = .ofFault fault := by
  unfold fillIn defaultFault?
  cases JsonRecord.ofJson json with
  | error fault => simp [eq_comm]
  | ok record =>
    dsimp only
    cases applyDefaults schema now record with
    | mk final outcome => cases outcome <;> simp [eq_comm]

theorem isSound_fillIn {schema : Schema} (distinct : schema.HasDistinctNames) (now : Instant)
    (json : Json) : IsSound (fillIn schema now json) := by
  intro failure failed
  obtain ⟨fault, stopped, rfl⟩ := fillIn_eq_error_iff.1 failed
  rcases eq_of_defaultFault? distinct stopped with ⟨_, rfl⟩ | ⟨_, _, _, _, _, rfl⟩
  · exact Exit.noConfusion
  · exact Exit.noConfusion

theorem isSound_enforceJson (schema : Schema) (settings : Settings) (json : Json) :
    IsSound (enforceJson schema settings json) := by
  unfold enforceJson
  split
  · next fault refused =>
    obtain ⟨_, rfl⟩ := ofJson_eq_error_iff.1 refused
    exact isSound_error Exit.noConfusion
  · exact isSound_ok _

theorem isSound_readValue (raw : String) (kind : Kind) : IsSound (readValue raw kind) := by
  unfold readValue
  cases reconcile kind (.text raw) with
  | error mismatch => exact isSound_error Exit.noConfusion
  | ok value => exact isSound_ok value

/-! ### Whole commands -/

/-- The record that a check enforces, and the names of the fields that it has filled in. -/
def prepared (schema : Schema) (now : Instant) (json : Json) (wantsDefaults : Bool) :
    Except Failure (Json × List String) :=
  if wantsDefaults then (fillIn schema now json).map fun (record, changed) =>
    (.object record, changed)
  else .ok (json, [])

/-- A check goes from the catalog to the record, and from there to the messages. -/
theorem outcome_check (files : String → Found) (now : Instant) (catalogPath name input : String)
    (wantsDefaults : Bool) (form : OutputForm) :
    (Task.check catalogPath name input wantsDefaults form).outcome files now =
      loadCatalog files catalogPath >>= fun catalog =>
      findRecord catalog name >>= fun schema =>
      loadRecord files input >>= fun json =>
      prepared schema now json wantsDefaults >>= fun filled =>
      enforceJson schema catalog.settings filled.1 >>= fun messages =>
      .ok (.enforced ⟨name, messages, filled.2⟩) := by
  cases wantsDefaults <;> rfl

theorem isSound_prepared {schema : Schema} (distinct : schema.HasDistinctNames) (now : Instant)
    (json : Json) (wantsDefaults : Bool) : IsSound (prepared schema now json wantsDefaults) := by
  unfold prepared
  split
  · exact (isSound_fillIn distinct now json).map _
  · exact isSound_ok _

theorem isSound_outcome (files : String → Found) (now : Instant) (task : Task) :
    IsSound (task.outcome files now) := by
  cases task with
  | check catalogPath name input wantsDefaults form =>
    rw [outcome_check]
    refine (isSound_loadCatalog files catalogPath).bind fun catalog loaded => ?_
    refine (isSound_findRecord catalog name).bind fun schema found => ?_
    refine (isSound_loadRecord files input).bind fun json _ => ?_
    have distinct := hasDistinctNames_of_findRecord loaded found
    refine (isSound_prepared distinct now json wantsDefaults).bind fun filled _ => ?_
    exact (isSound_enforceJson schema catalog.settings filled.1).bind fun _ _ => isSound_ok _
  | defaults catalogPath name input form =>
    refine (isSound_loadCatalog files catalogPath).bind fun catalog loaded => ?_
    refine (isSound_findRecord catalog name).bind fun schema found => ?_
    refine (isSound_loadRecord files input).bind fun json _ => ?_
    exact (isSound_fillIn (hasDistinctNames_of_findRecord loaded found) now json).bind
      fun _ _ => isSound_ok _
  | value raw rules kind form =>
    exact (isSound_readValue raw kind).bind fun _ _ => isSound_ok _

theorem exit_run_ne_internal (files : String → Found) (now : Instant) (inColour : Bool)
    (invocation : Invocation) : (run files now inColour invocation).exit ≠ .internal := by
  unfold run
  split
  · next failure failed => exact isSound_outcome files now invocation.task failure failed
  · next outcome _ =>
    cases outcome with
    | enforced report =>
      show Exit.ofMessages report.messages ≠ .internal
      unfold Exit.ofMessages
      split <;> exact Exit.noConfusion
    | defaulted report => exact Exit.noConfusion

theorem code_eq_ten_iff {exit : Exit} : exit.code = 10 ↔ exit = .internal := by
  cases exit <;> decide

/-- A default pass on a record type of a catalog that passes the check stops at nothing but a JSON
value that is no object, and at every such value, or a default that cannot be read. Hence no
command ends with the code of an internal error, whatever the files, the moment and the
arguments. -/
theorem faults_of_validate :
    (∀ catalog checked : Catalog, catalog.validate = .ok checked →
      ∀ schema ∈ checked.records, ∀ (now : Instant) (json : Json),
        (∀ fault, defaultFault? schema now json = some fault →
          fault = .notARecord json.typeName ∨
            ∃ field ∈ schema.fields, ∃ flaw : DefaultFlaw,
              fault = .badDefault field.name flaw.message) ∧
        ((∃ found, defaultFault? schema now json = some (.notARecord found)) ↔
          ∀ members, json ≠ .object members)) ∧
      ∀ (files : String → Found) (now : Instant) (inColour : Bool) (invocation : Invocation),
        (run files now inColour invocation).exit.code ≠ 10 := by
  refine ⟨?faults, fun files now inColour invocation code => ?_⟩
  case faults =>
    intro catalog checked passed schema listed now json
    obtain ⟨rfl, valid⟩ := Catalog.validate_eq_ok_iff.1 passed
    have distinct := valid.fieldsDistinct schema listed
    refine ⟨fun fault stopped => ?_, exists_defaultFault?_eq_notARecord_iff distinct⟩
    rcases eq_of_defaultFault? distinct stopped with ⟨_, shape⟩ | ⟨_, _, field, member, flaw, bad⟩
    · exact .inl shape
    · exact .inr ⟨field, member, flaw, bad⟩
  · exact exit_run_ne_internal files now inColour invocation (code_eq_ten_iff.1 code)

/-- A record type with a default that cannot be read, an object and an array for it, and the same
from files. -/
theorem faults_of_validate_guest :
    let schema : Schema :=
      ⟨"Guest", [⟨"name", .text, "prohibit"⟩, ⟨"age", .integer, "default:old"⟩]⟩
    let catalog : Catalog := ⟨.standard, [schema]⟩
    let files : String → Found := fun path =>
      if path = "c.toml" then
        .text ("[[records]]\nname = 'Guest'\n[[records.fields]]\nname = 'age'\n" ++
          "kind = 'integer'\nrules = 'default:old'\n")
      else if path = "r.toml" then .text "name = 'Ann'\n"
      else .nothing
    let invocation : Invocation := ⟨.check "c.toml" "Guest" "r.toml" true .json, 0, true⟩
    catalog.validate = .ok catalog ∧ schema ∈ catalog.records ∧
      (∃ fault, defaultFault? schema .epoch (.object []) = some fault ∧
        (fault = .notARecord "object" ∨
          ∃ field ∈ schema.fields, ∃ flaw : DefaultFlaw,
            fault = .badDefault field.name flaw.message)) ∧
      (∃ found, defaultFault? schema .epoch (.array []) = some (.notARecord found)) ∧
      (run files .epoch false invocation).exit.code = 3 ∧
      (run files .epoch false invocation).exit.code ≠ 10 := by
  intro schema catalog files invocation
  have passed : catalog.validate = .ok catalog := by decide +kernel
  have listed : schema ∈ catalog.records := List.mem_cons_self
  have stopped : defaultFault? schema .epoch (.object []) =
      some (.badDefault "age" (DefaultFlaw.badInteger .stray).message) := by decide +kernel
  obtain ⟨ofRecordTypes, ofRuns⟩ := faults_of_validate
  exact ⟨passed, listed,
    ⟨_, stopped, (ofRecordTypes catalog catalog passed schema listed .epoch _).1 _ stopped⟩,
    (ofRecordTypes catalog catalog passed schema listed .epoch _).2.2 nofun,
    by decide +kernel, ofRuns files .epoch false invocation⟩

end Command

end Rulebook
