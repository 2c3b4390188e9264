/-
This file proves how whole numbers are brought in line with the signed and the unsigned kind.

A whole number comes as a value of either kind, or as the text that it is written as. Coercion
treats all of these alike. It looks for the value of the declared kind that denotes the number:
there is one, if the number fits, and it is the one that comes out.
-/
import Rulebook.Coercion
import Rulebook.Proofs.Number.Whole
import Rulebook.Proofs.Text.Blank

namespace Rulebook

open Number Text

/-- The value is a whole number, of the signed or of the unsigned kind. -/
def Value.Denotes (value : Value) (number : Int) : Prop :=
  match value with
  | .integer held => held.toInt = number
  | .unsigned held => (held.toNat : Int) = number
  | _ => False

/-- The kind is one of the two that hold whole numbers. -/
def Kind.IsWhole (kind : Kind) : Prop :=
  kind = .integer ∨ kind = .unsigned

/-! ### The value of a kind for a number -/

theorem Value.denotes_integer_iff {value : Value} {number : Int} :
    value.kind = .integer ∧ value.Denotes number ↔
      ∃ held : Int64, value = .integer held ∧ held.toInt = number := by
  cases value <;> simp [kind, Denotes]

theorem Value.denotes_unsigned_iff {value : Value} {number : Int} :
    value.kind = .unsigned ∧ value.Denotes number ↔
      ∃ held : UInt64, value = .unsigned held ∧ (held.toNat : Int) = number := by
  cases value <;> simp [kind, Denotes]

/-- There is one value of a kind at most for a number. -/
theorem Value.Denotes.unique {first second : Value} {number : Int} (denotes : first.Denotes number)
    (other : second.Denotes number) (same : first.kind = second.kind) : first = second := by
  cases first with
  | integer held =>
    obtain ⟨again, rfl, value⟩ := denotes_integer_iff.1 ⟨same.symm, other⟩
    exact congrArg integer (Int64.toInt_inj.1 (Eq.trans denotes value.symm))
  | unsigned held =>
    obtain ⟨again, rfl, value⟩ := denotes_unsigned_iff.1 ⟨same.symm, other⟩
    exact congrArg unsigned
      (UInt64.toNat_inj.1 (Int.ofNat.inj (Eq.trans denotes value.symm)))
  | _ => exact denotes.elim

theorem natAbs_toInt_lt (number : Int64) : number.toInt.natAbs < 2 ^ 64 := by
  have low := number.le_toInt
  have high := number.toInt_lt
  omega

/-- A number that a value denotes takes 64 binary digits at most. -/
theorem Value.Denotes.natAbs_lt {value : Value} {number : Int} (denotes : value.Denotes number) :
    number.natAbs < 2 ^ 64 := by
  cases value with
  | integer held => exact denotes ▸ natAbs_toInt_lt held
  | unsigned held =>
    obtain rfl : (held.toNat : Int) = number := denotes
    exact held.toNat_lt
  | _ => exact denotes.elim

/-! ### From one kind to the other -/

theorem toUnsigned?_eq_some_iff {held : Int64} {given : UInt64} :
    toUnsigned? held = some given ↔ (given.toNat : Int) = held.toInt := by
  have high := held.toInt_lt
  have small := given.toNat_lt
  unfold toUnsigned?
  split
  · next natural =>
    have fits : held.toInt.toNat < 2 ^ 64 := by omega
    rw [Option.some.injEq, ← UInt64.toNat_inj, UInt64.toNat_ofNat_of_lt' fits]
    omega
  · next negative =>
    refine iff_of_false nofun ?_
    omega

theorem toInteger?_eq_some_iff {held : UInt64} {given : Int64} :
    toInteger? held = some given ↔ given.toInt = held.toNat := by
  have high := given.toInt_lt
  unfold toInteger?
  split
  · next small =>
    rw [Option.some.injEq, ← Int64.toInt_inj, Int64.toInt_ofInt_of_le (by omega) (by omega)]
    exact eq_comm
  · next large =>
    refine iff_of_false nofun ?_
    omega

/-- What comes out for another kind than the declared one is what is converted. -/
theorem reconcile_eq_ok_iff_of_ne {declared : Kind} {held value : Value}
    (other : held.kind ≠ declared) :
    reconcile declared held = .ok value ↔ convert? declared held = some value := by
  unfold reconcile
  rw [if_neg other]
  cases convert? declared held <;> simp

/-- A whole number comes out as the value of the declared kind that denotes it. -/
theorem Value.Denotes.reconcile_eq_ok_iff {declared : Kind} (whole : declared.IsWhole)
    {held value : Value} {number : Int} (denotes : held.Denotes number) :
    reconcile declared held = .ok value ↔ value.kind = declared ∧ value.Denotes number := by
  by_cases same : held.kind = declared
  · rw [reconcile_of_kind same, Except.ok.injEq]
    constructor
    · rintro rfl
      exact ⟨same, denotes⟩
    · rintro ⟨kindEq, other⟩
      exact denotes.unique other (same.trans kindEq.symm)
  · rw [reconcile_eq_ok_iff_of_ne same]
    cases held with
    | integer held =>
      obtain rfl : declared = .unsigned := whole.resolve_left fun isSigned => same isSigned.symm
      rw [denotes_unsigned_iff]
      simp only [convert?, Option.map_eq_some_iff, toUnsigned?_eq_some_iff]
      exact exists_congr fun given => by rw [and_comm, eq_comm, (denotes : held.toInt = number)]
    | unsigned held =>
      obtain rfl : declared = .integer := whole.resolve_right fun isUnsigned => same isUnsigned.symm
      rw [denotes_integer_iff]
      simp only [convert?, Option.map_eq_some_iff, toInteger?_eq_some_iff]
      exact exists_congr fun given => by
        rw [and_comm, eq_comm, (denotes : (held.toNat : Int) = number)]
    | _ => exact denotes.elim

/-! ### From text -/

theorem signedDigits_ne_nil (number : Int) : signedDigits number ≠ [] := by
  unfold signedDigits
  split
  · exact List.cons_ne_nil _ _
  · exact digits_ne_nil _

/-- There is nothing to trim about a written number. -/
theorem trim_signedDigits (number : Int) : trim (signedDigits number) = signedDigits number := by
  refine trim_eq_self fun character member => ?_
  rcases (signedText_signedDigits_iff.2 rfl).mem member with digit | rfl | rfl
  · exact isBlank_of_isDigit digit
  · decide
  · decide

/-- A written number comes out as the value of the declared kind that denotes it. -/
theorem reconcile_text_eq_ok_iff {declared : Kind} (whole : declared.IsWhole) {number : Int}
    {value : Value} :
    reconcile declared (.text (String.ofList (signedDigits number))) = .ok value ↔
      value.kind = declared ∧ value.Denotes number := by
  have other : (Value.text (String.ofList (signedDigits number))).kind ≠ declared := by
    rcases whole with rfl | rfl <;> exact Kind.noConfusion
  have given : String.ofList (signedDigits number) ≠ "" := fun empty =>
    signedDigits_ne_nil number (by simpa using congrArg String.toList empty)
  rw [reconcile_eq_ok_iff_of_ne other]
  unfold convert?
  dsimp only
  rw [if_neg fun empty => given empty.1, String.toList_ofList]
  rcases whole with rfl | rfl
  · rw [Value.denotes_integer_iff]
    simp only [readAs?, trim_signedDigits, Option.map_eq_some_iff, toOption_eq_some_iff,
      readInt64_eq_ok_iff, signedText_signedDigits_iff]
    exact exists_congr fun held => by rw [and_comm, eq_comm (a := value)]
  · rw [Value.denotes_unsigned_iff]
    simp only [readAs?, trim_signedDigits, Option.map_eq_some_iff, toOption_eq_some_iff,
      readUInt64_eq_ok_iff, unsignedText_signedDigits_iff]
    exact exists_congr fun held => by rw [and_comm, eq_comm (a := value)]

end Rulebook
