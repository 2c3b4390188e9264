/-
This file proves that the presentation of a run does not change its verdict.

A task is carried out without a look at the form of its output, at colours, or at how much is to be
written; all of this comes in only when there is something to write. So the exit and the complaint
of a run are those of its task. Where a task comes to enforcement, the exit, the mark of the verdict
in the output and the number beside it all say the same: whether enforcement has found nothing.
-/
import Rulebook.Proofs.Command.Ending
import Rulebook.Proofs.Command.Opening
import Rulebook.Proofs.Command.SingleValue

namespace Rulebook.Command

/-! ### Forms -/

/-- The task with another form of output. -/
def Task.inForm (form : OutputForm) : Task → Task
  | check catalog name input wantsDefaults _ => check catalog name input wantsDefaults form
  | defaults catalog name input _ => defaults catalog name input form
  | value raw rules kind _ => value raw rules kind form

@[simp]
theorem Task.form_inForm (form : OutputForm) (task : Task) : (task.inForm form).form = form := by
  cases task <;> rfl

@[simp]
theorem Task.outcome_inForm (form : OutputForm) (task : Task) (files : String → Found)
    (now : Instant) : (task.inForm form).outcome files now = task.outcome files now := by
  cases task <;> rfl

/-- How a task ends, whatever is written of it. -/
def Task.exit (files : String → Found) (now : Instant) (task : Task) : Exit :=
  match task.outcome files now with
  | .error failure => failure.exit
  | .ok outcome => outcome.exit

/-- What a task leaves on the standard error output, whatever is written of it. -/
def Task.complaint (files : String → Found) (now : Instant) (task : Task) : String :=
  match task.outcome files now with
  | .error failure => "Error: " ++ failure.message ++ "\n"
  | .ok _ => ""

section Runs

variable {files : String → Found} {now : Instant} {task : Task}

theorem exit_run (inColour : Bool) (form : OutputForm) (verbosity : Nat) (quiet : Bool) :
    (run files now inColour ⟨task.inForm form, verbosity, quiet⟩).exit = task.exit files now := by
  unfold run Task.exit
  rw [Task.outcome_inForm]
  cases task.outcome files now <;> rfl

theorem complaint_run (inColour : Bool) (form : OutputForm) (verbosity : Nat) (quiet : Bool) :
    (run files now inColour ⟨task.inForm form, verbosity, quiet⟩).complaint =
      task.complaint files now := by
  unfold run Task.complaint
  rw [Task.outcome_inForm]
  cases task.outcome files now <;> rfl

theorem output_run_quiet (inColour : Bool) (form : OutputForm) (verbosity : Nat) :
    (run files now inColour ⟨task.inForm form, verbosity, true⟩).output = "" := by
  unfold run
  rw [Task.outcome_inForm]
  cases task.outcome files now <;> rfl

/-! ### Tasks that come to enforcement -/

/-- What the task finds when it gets past loading and the default pass: for a check, the messages
about the record that the pass leaves, or about the one in the file, and for a single value those
about the value that the text is read as. -/
inductive Task.Finds (files : String → Found) (now : Instant) : Task → Report → Prop where
  | check {catalogPath name input : String} {wantsDefaults : Bool} {form : OutputForm}
      {catalog : Catalog} {schema : Schema} {json : Json} {record : JsonRecord}
      {changed : List String}
      (loaded : loadCatalog files catalogPath = .ok catalog)
      (found : findRecord catalog name = .ok schema)
      (read : loadRecord files input = .ok json)
      (filled : prepared schema now json wantsDefaults = .ok (.object record, changed)) :
      Task.Finds files now (.check catalogPath name input wantsDefaults form)
        ⟨name, enforce schema record catalog.settings none, changed⟩
  | value {raw rules : String} {kind : Kind} {form : OutputForm} {value : Value}
      (fits : reconcile kind (.text raw) = .ok value) :
      Task.Finds files now (.value raw rules kind form)
        ⟨"value", enforceValue value rules .standard none, []⟩

theorem bind_eq_ok_iff {First Second : Type} {attempt : Except Failure First}
    {next : First → Except Failure Second} {result : Second} :
    attempt >>= next = .ok result ↔ ∃ first, attempt = .ok first ∧ next first = .ok result := by
  cases attempt with
  | error failure => exact ⟨nofun, nofun⟩
  | ok first => simp [bind, Except.bind]

/-- Only an object is enforced. -/
theorem enforceJson_eq_ok_iff {schema : Schema} {settings : Settings} {json : Json}
    {messages : List String} :
    enforceJson schema settings json = .ok messages ↔
      ∃ record : JsonRecord, json = .object record ∧
        enforce schema record settings none = messages := by
  unfold enforceJson JsonRecord.ofJson
  cases json <;> simp

theorem Task.Finds.outcome_eq {report : Report} (finds : task.Finds files now report) :
    task.outcome files now = .ok (.enforced report) := by
  rcases finds with ⟨loaded, found, read, filled⟩ | fits
  · rw [outcome_check]
    refine bind_eq_ok_iff.2 ⟨_, loaded, bind_eq_ok_iff.2 ⟨_, found, bind_eq_ok_iff.2 ⟨_, read, ?_⟩⟩⟩
    exact bind_eq_ok_iff.2 ⟨_, filled, rfl⟩
  · exact outcome_value_of_ok fits files now _ _

/-- A task that is not the default pass alone comes to nothing unless it finds something. -/
theorem Task.exists_finds
    (enforces : ∀ catalogPath name input form, task ≠ .defaults catalogPath name input form)
    {outcome : Outcome} (ended : task.outcome files now = .ok outcome) :
    ∃ report, task.Finds files now report := by
  cases task with
  | check catalogPath name input wantsDefaults form =>
    rw [outcome_check] at ended
    obtain ⟨catalog, loaded, ended⟩ := bind_eq_ok_iff.1 ended
    obtain ⟨schema, found, ended⟩ := bind_eq_ok_iff.1 ended
    obtain ⟨json, read, ended⟩ := bind_eq_ok_iff.1 ended
    obtain ⟨⟨filled, changed⟩, prepared, ended⟩ := bind_eq_ok_iff.1 ended
    obtain ⟨messages, enforced, -⟩ := bind_eq_ok_iff.1 ended
    obtain ⟨record, rfl, -⟩ := enforceJson_eq_ok_iff.1 enforced
    exact ⟨_, .check loaded found read prepared⟩
  | defaults catalogPath name input form =>
    exact absurd rfl (enforces catalogPath name input form)
  | value raw rules kind form =>
    cases fits : reconcile kind (.text raw) with
    | error mismatch =>
      rw [outcome_value_of_error fits] at ended
      cases ended
    | ok value => exact ⟨_, .value fits⟩

/-! ### Verdicts -/

theorem code_exit_failure (failure : Failure) : 3 ≤ failure.exit.code := by
  unfold Failure.exit
  split <;> decide

theorem code_ofMessages_le (messages : List String) : (Exit.ofMessages messages).code ≤ 1 := by
  unfold Exit.ofMessages
  split <;> decide

theorem Task.Finds.exit_eq {report : Report} (finds : task.Finds files now report) :
    task.exit files now = .ofMessages report.messages := by
  unfold Task.exit
  rw [finds.outcome_eq]
  rfl

theorem Task.Finds.output_run {report : Report} (finds : task.Finds files now report)
    (inColour : Bool) (form : OutputForm) (verbosity : Nat) :
    (run files now inColour ⟨task.inForm form, verbosity, false⟩).output =
      report.written inColour form := by
  unfold run
  rw [Task.outcome_inForm, finds.outcome_eq]
  dsimp only
  rw [if_neg Bool.false_ne_true, Task.form_inForm]
  rfl

/-- A task that is not the default pass alone ends in a failure unless it finds something. -/
theorem code_exit_le_iff
    (enforces : ∀ catalogPath name input form, task ≠ .defaults catalogPath name input form) :
    (task.exit files now).code ≤ 1 ↔ ∃ report, task.Finds files now report := by
  constructor
  · intro code
    cases ended : task.outcome files now with
    | error failure =>
      unfold Task.exit at code
      rw [ended] at code
      exact absurd (code_exit_failure failure) (Nat.not_le.2 (Nat.lt_of_le_of_lt code (by decide)))
    | ok outcome => exact Task.exists_finds enforces ended
  · rintro ⟨report, finds⟩
    rw [finds.exit_eq]
    exact code_ofMessages_le report.messages

/-- How a run is presented does not change its verdict. For every task, the exit and the complaint
are the same in all forms, with and without colours, and whatever is asked to be written; and what
is asked to be quiet writes nothing. A check, and an enforcement of a single value, ends with one of
the codes 0 and 1 exactly when it gets past loading and the default pass to what it is to enforce.
Then it ends with 0 exactly when enforcement finds nothing, and in every form the output begins with
the subject, the verdict and the number of violations, so that it is announced as valid, with no
violation, exactly in this case. -/
theorem run_presentation (files : String → Found) (now : Instant) (task : Task) :
    (∀ (first second : OutputForm) (firstColour secondColour : Bool)
        (firstVerbosity secondVerbosity : Nat) (firstQuiet secondQuiet : Bool),
        let one := run files now firstColour ⟨task.inForm first, firstVerbosity, firstQuiet⟩
        let other := run files now secondColour ⟨task.inForm second, secondVerbosity, secondQuiet⟩
        one.exit = other.exit ∧ one.complaint = other.complaint) ∧
      (∀ (form : OutputForm) (inColour : Bool) (verbosity : Nat),
        (run files now inColour ⟨task.inForm form, verbosity, true⟩).output = "") ∧
      ((∀ catalogPath name input form, task ≠ .defaults catalogPath name input form) →
        ∀ (form : OutputForm) (inColour : Bool) (verbosity : Nat) (quiet : Bool),
          (run files now inColour ⟨task.inForm form, verbosity, quiet⟩).exit.code ≤ 1 ↔
            ∃ report, task.Finds files now report) ∧
      ∀ report, task.Finds files now report →
        ∀ (form : OutputForm) (inColour : Bool) (verbosity : Nat),
          (∀ quiet, (run files now inColour ⟨task.inForm form, verbosity, quiet⟩).exit.code = 0 ↔
            report.messages = []) ∧
          let output := (run files now inColour ⟨task.inForm form, verbosity, false⟩).output.toList
          let begins (valid : Bool) (count : Nat) : Prop :=
            Report.opening inColour report.subject form ++
              Report.verdict inColour report.subject valid count form <+: output
          begins report.messages.isEmpty report.messages.length ∧
            (begins true 0 ↔ report.messages = []) := by
  refine ⟨?same, ?quiet, ?enforced, ?found⟩
  case same =>
    intro first second firstColour secondColour firstVerbosity secondVerbosity firstQuiet
      secondQuiet one other
    exact ⟨(exit_run ..).trans (exit_run ..).symm, (complaint_run ..).trans (complaint_run ..).symm⟩
  case quiet => exact fun form inColour verbosity => output_run_quiet inColour form verbosity
  case enforced =>
    intro enforces form inColour verbosity quiet
    rw [exit_run]
    exact code_exit_le_iff enforces
  case found =>
    intro report finds form inColour verbosity
    refine ⟨fun quiet => ?_, ?_⟩
    · rw [exit_run, finds.exit_eq]
      exact code_ofMessages_eq_zero_iff
    · intro output begins
      have written : output = (report.written inColour form).toList :=
        congrArg String.toList (finds.output_run inColour form verbosity)
      obtain ⟨rest, text⟩ := report.exists_written_eq inColour form
      refine ⟨⟨rest, (written.trans text).symm⟩, ?_⟩
      show _ <+: output ↔ _
      rw [written]
      exact report.opening_isPrefix_iff inColour form

end Runs

/-- A record with a name that is missing, and with an age from the default pass that is too high. -/
theorem run_presentation_guest :
    let files : String → Found := fun path =>
      if path = "c.toml" then
        .text ("[[records]]\nname = 'Guest'\n" ++
          "[[records.fields]]\nname = 'name'\nkind = 'text'\nrules = 'required'\n" ++
          "[[records.fields]]\nname = 'age'\nkind = 'integer'\nrules = 'default:7 max:5'\n")
      else if path = "r.json" then .text "\x7b\x7d"
      else .nothing
    let task : Task := .check "c.toml" "Guest" "r.json" true .table
    let report : Report :=
      ⟨"Guest", ["Required field 'name' is not provided", "Field 'age' must be at most 5"], ["age"]⟩
    (∀ catalogPath name input form, task ≠ .defaults catalogPath name input form) ∧
      task.Finds files .epoch report ∧
      ∀ (form : OutputForm) (inColour : Bool),
        (run files .epoch inColour ⟨task.inForm form, 0, true⟩).exit.code = 1 ∧
          ¬ Report.opening inColour "Guest" form ++
              Report.verdict inColour "Guest" true 0 form <+:
            (run files .epoch inColour ⟨task.inForm form, 0, false⟩).output.toList := by
  intro files task report
  have enforces : ∀ catalogPath name input form, task ≠ .defaults catalogPath name input form :=
    fun _ _ _ _ => nofun
  have finds : task.Finds files .epoch report := by
    let schema : Schema :=
      ⟨"Guest", [⟨"name", .text, "required"⟩, ⟨"age", .integer, "default:7 max:5"⟩]⟩
    let record : JsonRecord := (applyDefaults schema .epoch ([] : JsonRecord)).1
    have loaded : loadCatalog files "c.toml" = .ok ⟨.standard, [schema]⟩ := by decide +kernel
    have read : loadRecord files "r.json" = .ok (.object []) := rfl
    have changed : (applyDefaults schema .epoch ([] : JsonRecord)).2 = .ok ["age"] := by
      decide +kernel
    have pass : applyDefaults schema .epoch ([] : JsonRecord) = (record, .ok ["age"]) :=
      Prod.ext rfl changed
    have filled : prepared schema .epoch (.object []) true = .ok (.object record, ["age"]) := by
      unfold prepared fillIn JsonRecord.ofJson
      dsimp only
      rw [pass]
      rfl
    have messages : enforce schema record .standard none = report.messages := by decide +kernel
    show Task.Finds files .epoch task ⟨"Guest", report.messages, ["age"]⟩
    rw [← messages]
    exact .check loaded rfl read filled
  refine ⟨enforces, finds, fun form inColour => ?_⟩
  obtain ⟨-, -, enforced, found⟩ := run_presentation files .epoch task
  obtain ⟨exit, -, valid⟩ := found report finds form inColour 0
  have filled : report.messages ≠ [] := List.cons_ne_nil _ _
  have code := (enforced enforces form inColour 0 true).2 ⟨report, finds⟩
  have violated := mt (exit true).1 filled
  exact ⟨by omega, mt valid.1 filled⟩

end Rulebook.Command
