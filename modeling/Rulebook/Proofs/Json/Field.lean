/-
This file proves which values a field keeps when it is written in JSON and read
again.

JSON has no numbers that are not finite, and times go through their text, so that
only those come back which a stamp can hold. Everything else that a field of a
kind other than the nested one can be given comes back as it was.
-/
import Rulebook.Json.Field
import Rulebook.Proofs.Calendar.Instant
import Rulebook.Proofs.Coercion.Text

namespace Rulebook

namespace Value

/-- JSON holds the value, so that a field of its kind reads it back. Of nested values only the
empty one is counted. -/
def FitsJson : Value → Prop
  | text _ => True
  | integer _ => True
  | unsigned _ => True
  | float number => number.isFinite = true
  | temporal none => True
  | temporal (some instant) => instant.FitsStamp
  | nested entries => entries = []

instance (value : Value) : Decidable value.FitsJson :=
  match value with
  | text _ => isTrue trivial
  | integer _ => isTrue trivial
  | unsigned _ => isTrue trivial
  | float number => inferInstanceAs (Decidable (number.isFinite = true))
  | temporal none => isTrue trivial
  | temporal (some instant) => inferInstanceAs (Decidable instant.FitsStamp)
  | nested [] => isTrue rfl
  | nested (_ :: _) => isFalse (List.cons_ne_nil _ _)

theorem fitsJson_zero (kind : Kind) : kind.zero.FitsJson := by
  cases kind with
  | float => exact (by decide : (Double.zero false).isFinite = true)
  | nested => rfl
  | _ => trivial

/-! ### Writing and reading -/

theorem ofJson_toJson_integer (number : Int64) :
    ofJson .integer (some (integer number).toJson) = integer number := by
  simp only [toJson, ofJson, JsonNumber.ofInt64, ofPresentJson]
  rw [if_pos number.toInt_lt, Int64.ofInt_toInt]

theorem ofJson_toJson_unsigned (number : UInt64) :
    ofJson .unsigned (some (unsigned number).toJson) = unsigned number := by
  simp only [toJson, ofJson, JsonNumber.ofUInt64, ofPresentJson]
  rw [if_pos (Int.natCast_nonneg _), Int.toNat_natCast, UInt64.ofNat_toNat]

theorem toJson_float_of_finite {number : Double} (finite : number.isFinite = true) :
    (float number).toJson = .number (.double number finite) := by
  unfold toJson JsonNumber.ofDouble?
  rw [dif_pos finite]

/-- A number that is not finite is written as null. -/
theorem toJson_float_of_not_finite {number : Double} (infinite : number.isFinite = false) :
    (float number).toJson = .null := by
  unfold toJson JsonNumber.ofDouble?
  rw [dif_neg (by simp [infinite])]

/-- A time is written as its text, and what this is read as is what the field gives. -/
theorem ofJson_toJson_time (instant : Instant) :
    ofJson .temporal (some (temporal (some instant)).toJson) =
      match Instant.read? instant.text with
      | some other => temporal (some other)
      | none => text (String.ofList instant.text) := by
  have written : (temporal (some instant)).toJson = .string (String.ofList instant.text) := rfl
  have read := ofJson_temporal_string (String.ofList instant.text)
  rwa [← written, String.toList_ofList] at read

/-- A value that JSON holds is read back by a field of its kind. -/
theorem ofJson_toJson {value : Value} (fits : value.FitsJson) :
    ofJson value.kind (some value.toJson) = value := by
  cases value with
  | text content => rfl
  | integer number => exact ofJson_toJson_integer number
  | unsigned number => exact ofJson_toJson_unsigned number
  | float number =>
    rw [toJson_float_of_finite fits]
    rfl
  | temporal instant =>
    cases instant with
    | none => rfl
    | some instant =>
      show ofJson .temporal _ = _
      rw [ofJson_toJson_time, (Instant.read?_text_eq_some_iff instant).2 fits]
  | nested entries =>
    obtain rfl : entries = [] := fits
    rfl

end Value

end Rulebook
