/-
This file proves how a written report begins.

In every form a report names its subject, says whether it is valid, and counts the violations. The
verdict stands in the same place whatever there is to report, and the verdicts on what is valid and
on what is not differ in a character there. So a text that begins like the report of something valid
is the report of something valid.
-/
import Rulebook.Command.Report

namespace Rulebook

/-! ### Members on lines of their own -/

namespace Json

theorem indented_object {members : List (String × Json)} (filled : members ≠ []) (depth : Nat) :
    (object members).indented depth =
      '{' :: indentedMembers (depth + 1) members ++ newLine depth ++ ['}'] := by
  cases members with
  | nil => exact absurd rfl filled
  | cons member rest => rw [indented]

theorem indentedMembers_cons {more : List (String × Json)} (filled : more ≠ []) (depth : Nat)
    (name : String) (item : Json) :
    indentedMembers depth ((name, item) :: more) =
      newLine depth ++ quoted name ++ ':' :: ' ' :: indented depth item ++
        ',' :: indentedMembers depth more := by
  cases more with
  | nil => exact absurd rfl filled
  | cons member rest =>
    rw [indentedMembers]
    exact List.cons_ne_nil member rest

theorem indented_string (depth : Nat) (content : String) :
    (string content).indented depth = quoted content := by
  rw [indented, compact]
  · exact nofun
  · exact nofun

theorem indented_bool (depth : Nat) (value : Bool) :
    (bool value).indented depth = (bool value).compact := by
  rw [indented]
  · exact nofun
  · exact nofun

end Json

namespace Yaml

/-- A member of a table at the left edge whose key needs no quotes. -/
theorem memberLines_plain {name : String} (simple : isSimpleKey name = true)
    (plain : textLines 0 name.toList = name.toList) (isInline : Bool) (item : Json)
    (rest : List (String × Json)) :
    memberLines 0 isInline ((name, item) :: rest) =
      name.toList ++ ':' :: afterKey 0 item ++ memberLines 0 false rest := by
  rw [memberLines, if_pos simple, plain]
  cases isInline <;> rfl

theorem afterKey_string (content : String) :
    afterKey 0 (.string content) = ' ' :: ended (textLines 2 content.toList) := by
  rw [afterKey, inline?, Option.getD_some]
  · exact nofun
  · exact nofun

theorem afterKey_bool (value : Bool) :
    afterKey 0 (.bool value) = ' ' :: (Json.bool value).compact ++ ['\n'] := by
  cases value <;> decide

end Yaml

namespace Command

namespace Report

/-! ### Verdicts -/

/-- How a report begins, up to its verdict. -/
def opening (inColour : Bool) (subject : String) : OutputForm → List Char
  | .json =>
    '\x7b' :: Json.newLine 1 ++ Json.quoted "record" ++ ':' :: ' ' :: Json.quoted subject ++
      ',' :: Json.newLine 1 ++ Json.quoted "valid" ++ [':', ' ']
  | .yaml =>
    "record".toList ++ ':' :: ' ' :: Yaml.ended (Yaml.textLines 2 subject.toList) ++
      "valid".toList ++ [':', ' ']
  | .table => (ofLines ["", painted inColour .title "Enforcement Results", bar '=', ""]).toList

/-- The verdict of a report: whether its subject is valid, and how many violations there are. -/
def verdict (inColour : Bool) (subject : String) (valid : Bool) (count : Nat) :
    OutputForm → List Char
  | .json =>
    (Json.bool valid).compact ++ ',' :: Json.newLine 1 ++ Json.quoted "violation_count" ++
      ':' :: ' ' :: (number count).compact ++ [',']
  | .yaml =>
    (Json.bool valid).compact ++ '\n' :: "violation_count".toList ++
      ':' :: ' ' :: (number count).compact ++ ['\n']
  | .table =>
    if valid then (painted inColour .good "+" ++ " " ++ (subject ++ " is valid") ++ "\n").toList
    else (painted inColour .bad "x" ++ " " ++
      (subject ++ " has " ++ decimal count ++ " violation(s)") ++ "\n").toList

example : opening false "Guest" .json ++ verdict false "Guest" true 0 .json =
    "\x7b\n  \x22record\x22: \x22Guest\x22,\n  \x22valid\x22: true,\n  ".toList ++
      "\x22violation_count\x22: 0,".toList := by
  decide +kernel

example : opening false "Guest" .yaml ++ verdict false "Guest" false 2 .yaml =
    "record: Guest\nvalid: false\nviolation_count: 2\n".toList := by
  decide +kernel

theorem verdict_append_ne (inColour : Bool) (subject : String) (form : OutputForm)
    (first second : Nat) (early late : List Char) :
    verdict inColour subject true first form ++ early ≠
      verdict inColour subject false second form ++ late := by
  cases form with
  | json => exact fun same => absurd (List.cons.inj same).1 (by decide)
  | yaml => exact fun same => absurd (List.cons.inj same).1 (by decide)
  | table =>
    intro same
    cases inColour with
    | false => simp [verdict, painted] at same
    | true => simp [verdict, painted, Paint.codes] at same

/-! ### Beginnings -/

variable (inColour : Bool) (report : Report)

/-- The members of a report that its verdict is written from come first. -/
theorem exists_toJson_eq : ∃ more ≠ [], report.toJson = .object
    (("record", .string report.subject) :: ("valid", .bool report.messages.isEmpty) ::
      ("violation_count", number report.messages.length) :: more) :=
  ⟨("violations", texts report.messages) :: _, List.cons_ne_nil _ _, rfl⟩

theorem indented_number (value depth : Nat) :
    (number value).indented depth = (number value).compact := by
  unfold number
  cases JsonNumber.ofInt? value <;> rfl

theorem afterKey_number (value : Nat) :
    Yaml.afterKey 0 (number value) = ' ' :: (number value).compact ++ ['\n'] := by
  unfold number JsonNumber.ofInt?
  split
  · have unended : (Number.signedDigits value).getLast? ≠ some '\n' := by
      intro ended
      have member := List.mem_of_getLast? ended
      have digit := List.all_eq_true.1 (Number.all_isDigit_digits _) _ member
      exact absurd digit (by decide)
    show ' ' :: Yaml.ended (Number.signedDigits value) = ' ' :: Number.signedDigits value ++ ['\n']
    unfold Yaml.ended
    rw [if_neg unended, List.cons_append]
  · decide

theorem exists_indented_eq :
    ∃ rest, report.toJson.indented 0 = opening inColour report.subject .json ++
      verdict inColour report.subject report.messages.isEmpty report.messages.length .json ++
        rest := by
  obtain ⟨more, filled, members⟩ := report.exists_toJson_eq
  refine ⟨Json.indentedMembers 1 more ++ Json.newLine 0 ++ ['\x7d'], ?_⟩
  rw [members, Json.indented_object (List.cons_ne_nil _ _),
    Json.indentedMembers_cons (List.cons_ne_nil _ _),
    Json.indentedMembers_cons (List.cons_ne_nil _ _), Json.indentedMembers_cons filled,
    indented_number, Json.indented_string, Json.indented_bool, Nat.zero_add]
  unfold opening verdict
  dsimp only
  -- a step that holds by computing would have the texts of the members opened
  simp -implicitDefEqProofs only [List.append_assoc, List.cons_append, List.nil_append]

theorem exists_document_eq :
    ∃ rest, Yaml.document report.toJson = opening inColour report.subject .yaml ++
      verdict inColour report.subject report.messages.isEmpty report.messages.length .yaml ++
        rest := by
  obtain ⟨more, -, members⟩ := report.exists_toJson_eq
  refine ⟨Yaml.memberLines 0 false more, ?_⟩
  rw [members, Yaml.document, Yaml.memberLines_plain (by decide) (by decide),
    Yaml.memberLines_plain (by decide) (by decide), Yaml.memberLines_plain (by decide) (by decide),
    Yaml.afterKey_string, Yaml.afterKey_bool, afterKey_number]
  unfold opening verdict
  dsimp only
  simp -implicitDefEqProofs only [List.append_assoc, List.cons_append, List.nil_append]

theorem toList_ofLines_append (first second : List String) :
    (ofLines (first ++ second)).toList = (ofLines first).toList ++ (ofLines second).toList := by
  unfold ofLines
  rw [List.map_append]
  simp [String.toList_join]

theorem toList_ofLines_singleton (line : String) :
    (ofLines [line]).toList = (line ++ "\n").toList := by
  unfold ofLines
  simp

theorem exists_table_eq :
    ∃ rest, (report.table inColour).toList = opening inColour report.subject .table ++
      verdict inColour report.subject report.messages.isEmpty report.messages.length .table ++
        rest := by
  obtain ⟨more, lines⟩ : ∃ more, report.table inColour =
      ofLines (["", painted inColour .title "Enforcement Results", bar '=', ""] ++
        ([(if report.messages.isEmpty then painted inColour .good "+" else
          painted inColour .bad "x") ++ " " ++ report.summary] ++ more)) :=
    ⟨_, rfl⟩
  refine ⟨(ofLines more).toList, ?_⟩
  rw [lines, toList_ofLines_append, toList_ofLines_append, toList_ofLines_singleton]
  unfold opening verdict summary
  cases report.messages.isEmpty <;> simp

/-- Every report begins with its subject and its verdict. -/
theorem exists_written_eq (form : OutputForm) :
    ∃ rest, (report.written inColour form).toList = opening inColour report.subject form ++
      verdict inColour report.subject report.messages.isEmpty report.messages.length form ++
        rest := by
  unfold Report.written Command.written
  cases form with
  | table =>
    rw [if_pos rfl]
    exact report.exists_table_eq inColour
  | json =>
    obtain ⟨rest, text⟩ := report.exists_indented_eq inColour
    refine ⟨rest ++ ['\n'], ?_⟩
    rw [if_neg (by decide), String.toList_append, String.toList_ofList, text,
      List.append_assoc _ rest]
    rfl
  | yaml =>
    obtain ⟨rest, text⟩ := report.exists_document_eq inColour
    refine ⟨rest ++ ['\n'], ?_⟩
    rw [if_neg (by decide), String.toList_append, String.toList_ofList, text,
      List.append_assoc _ rest]
    rfl

/-- A report that begins like the one of something valid is the one of something valid. -/
theorem opening_isPrefix_iff (form : OutputForm) :
    opening inColour report.subject form ++ verdict inColour report.subject true 0 form <+:
        (report.written inColour form).toList ↔ report.messages = [] := by
  obtain ⟨rest, text⟩ := report.exists_written_eq inColour form
  rw [text]
  constructor
  · rintro ⟨more, same⟩
    rw [List.append_assoc, List.append_assoc, List.append_cancel_left_eq] at same
    cases found : report.messages with
    | nil => rfl
    | cons message others =>
      rw [found] at same
      exact absurd same (verdict_append_ne inColour report.subject form _ _ more rest)
  · intro none
    rw [none]
    exact List.prefix_append _ rest

end Report

end Command

end Rulebook
