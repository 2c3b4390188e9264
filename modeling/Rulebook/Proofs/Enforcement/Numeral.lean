/-
This file proves that whole numbers are enforced alike with and without quotes.

A JSON object can give a field a number, or a string with the digits of this number. Where the
field is declared as signed or as unsigned, both end as the value of the declared kind that denotes
the number, if the number fits, and as a mismatch otherwise. This covers every whole number that a
JSON number can hold: the negative ones, which the unsigned kind cannot take, and the large ones,
which the signed kind cannot take.
-/
import Rulebook.Proofs.Coercion.Whole
import Rulebook.Proofs.Enforcement.Influence

namespace Rulebook

open Number

variable {number : Int} {declared : Kind}

/-! ### Reading -/

theorem Value.denotes_integer (low : -2 ^ 63 ≤ number) (high : number < 2 ^ 63) :
    (integer (.ofInt number)).Denotes number :=
  Int64.toInt_ofInt_of_le low high

theorem Value.denotes_unsigned (low : 0 ≤ number) (high : number < 2 ^ 64) :
    (unsigned (.ofNat number.toNat)).Denotes number := by
  have small : number.toNat < 2 ^ 64 := by omega
  show ((UInt64.ofNat number.toNat).toNat : Int) = number
  rw [UInt64.toNat_ofNat_of_lt' small]
  exact Int.toNat_of_nonneg low

theorem JsonNumber.denotes_toValue (fits : -2 ^ 63 ≤ number ∧ number < 2 ^ 64) :
    (whole number fits).toValue.Denotes number := by
  show (if number < 2 ^ 63 then Value.integer (.ofInt number)
    else .unsigned (.ofNat number.toNat)).Denotes number
  split
  · next small => exact Value.denotes_integer fits.1 small
  · next large => exact Value.denotes_unsigned (by omega) fits.2

/-- A number is read as a value that denotes it, of the declared kind or of the other one. -/
theorem Value.denotes_ofJson (isWhole : declared.IsWhole)
    (fits : -2 ^ 63 ≤ number ∧ number < 2 ^ 64) :
    (ofJson declared (some (.number (.whole number fits)))).Denotes number := by
  rcases isWhole with rfl | rfl
  · show (if number < 2 ^ 63 then integer (.ofInt number)
      else (JsonNumber.whole number fits).toValue).Denotes number
    split
    · next small => exact denotes_integer fits.1 small
    · exact JsonNumber.denotes_toValue fits
  · show (if 0 ≤ number then unsigned (.ofNat number.toNat)
      else (JsonNumber.whole number fits).toValue).Denotes number
    split
    · next natural => exact denotes_unsigned natural fits.2
    · exact JsonNumber.denotes_toValue fits

theorem Value.ofJson_string_of_isWhole (isWhole : declared.IsWhole) (content : String) :
    ofJson declared (some (.string content)) = .text content := by
  rcases isWhole with rfl | rfl <;> rfl

/-! ### Enforcement -/

/-- A member under a name, as a field of this name is given it. -/
theorem read?_json_of_find?_eq_some {schema : Schema} {record : JsonRecord} {field : Field}
    (member : field ∈ schema.fields) {json : Json}
    (held : Entries.find? record field.name = some json) :
    ∃ other ∈ schema.fields, other.name = field.name ∧
      FieldStore.read? schema record field.name = some (.ofJson other.kind (some json)) := by
  have known : (schema.find? field.name).isSome :=
    List.find?_isSome.2 ⟨field, member, by simp⟩
  obtain ⟨other, found⟩ := Option.isSome_iff_exists.1 known
  refine ⟨other, List.mem_of_find?_eq_some found, by simpa using List.find?_some found, ?_⟩
  show (schema.find? field.name).map (fun other => Value.ofJson other.kind
    (Entries.find? record field.name)) = _
  rw [found, held]
  rfl

/-- An object that gives a number to the fields of a name, all of them declared as signed or as
unsigned, and one that gives them the digits of the number are enforced alike. In both the value
that is enforced is the number in the declared kind, and there is none when it does not fit. -/
theorem enforce_number_eq_enforce_digits {schema : Schema} {name : String}
    (whole : ∀ field ∈ schema.fields, field.name = name → field.kind.IsWhole)
    (fits : -2 ^ 63 ≤ number ∧ number < 2 ^ 64) {plain quoted : JsonRecord}
    (given : Entries.find? plain name = some (.number (.whole number fits)))
    (written : Entries.find? quoted name = some (.string (String.ofList (signedDigits number))))
    (others : ∀ other, other ≠ name → plain.member other = quoted.member other)
    (settings : Settings) (roster : Option Roster) :
    enforce schema plain settings roster = enforce schema quoted settings roster ∧
      ∀ field ∈ schema.fields, field.name = name → ∀ record ∈ [plain, quoted], ∀ value,
        reconcile field.kind ((FieldStore.read? schema record name).getD field.kind.zero) =
            .ok value ↔
          value.kind = field.kind ∧ value.Denotes number := by
  have comesOut : ∀ field ∈ schema.fields, field.name = name → ∀ record ∈ [plain, quoted],
      ∀ value, reconcile field.kind ((FieldStore.read? schema record name).getD field.kind.zero) =
          .ok value ↔
        value.kind = field.kind ∧ value.Denotes number := by
    rintro field member rfl record asked value
    have isWhole := whole field member rfl
    simp only [List.mem_cons, List.not_mem_nil, or_false] at asked
    rcases asked with rfl | rfl
    · obtain ⟨other, otherMember, named, read⟩ := read?_json_of_find?_eq_some member given
      rw [read]
      exact (Value.denotes_ofJson (whole other otherMember named) fits).reconcile_eq_ok_iff isWhole
    · obtain ⟨other, otherMember, named, read⟩ := read?_json_of_find?_eq_some member written
      rw [read, Value.ofJson_string_of_isWhole (whole other otherMember named)]
      exact reconcile_text_eq_ok_iff isWhole
  refine ⟨enforce_congr_of_reconcile (fun field member _ value => ?_) settings roster, comesOut⟩
  by_cases named : field.name = name
  · rw [named, comesOut field member named plain List.mem_cons_self,
      comesOut field member named quoted (List.mem_cons_of_mem _ List.mem_cons_self)]
  · rw [read?_json_eq, read?_json_eq, others field.name named]

/-- The least number of the signed kind, which the unsigned kind does not take. -/
theorem enforce_number_eq_enforce_digits_least :
    let schema : Schema :=
      ⟨"Reading", [⟨"level", .integer, "exclude:-9223372036854775808"⟩,
        ⟨"level", .unsigned, "required"⟩, ⟨"note", .text, "required"⟩]⟩
    let plain : JsonRecord := [("level", .number (.whole (-2 ^ 63) (by decide)))]
    let quoted : JsonRecord :=
      [("level", .string "-9223372036854775808"), ("note", .null)]
    (∀ field ∈ schema.fields, field.name = "level" → field.kind.IsWhole) ∧
      enforce schema plain .standard none = enforce schema quoted .standard none ∧
      enforce schema quoted .standard none =
        ["Field 'level' contains excluded value: -9223372036854775808",
          "Field 'level' must be of kind unsigned", "Required field 'note' is not provided"] := by
  intro schema plain quoted
  have whole : ∀ field ∈ schema.fields, field.name = "level" → field.kind.IsWhole := by
    intro field member named
    simp only [schema, List.mem_cons, List.not_mem_nil, or_false] at member
    rcases member with rfl | rfl | rfl
    · exact .inl rfl
    · exact .inr rfl
    · exact absurd named (by decide)
  have written : Entries.find? quoted "level" =
      some (.string (String.ofList (signedDigits (-2 ^ 63)))) := by
    have digits : "-9223372036854775808" = String.ofList (signedDigits (-2 ^ 63)) := by
      decide +kernel
    rw [← digits]
    rfl
  have others : ∀ other, other ≠ "level" → plain.member other = quoted.member other := by
    intro other different
    unfold JsonRecord.member
    by_cases note : other = "note"
    · subst note
      rfl
    · simp [plain, quoted, Entries.find?, different.symm, Ne.symm note]
  exact ⟨whole, (enforce_number_eq_enforce_digits whole (by decide) rfl written others .standard
    none).1, by decide +kernel⟩

end Rulebook
