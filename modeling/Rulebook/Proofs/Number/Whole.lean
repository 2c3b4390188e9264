/-
This file proves which texts are read as whole numbers of 64 bits.

`SignedText` and `UnsignedText` say how a number is written: a run of digits, with or without a
sign in front of it. The reader watches the range digit by digit, but the total only ever grows,
so that in the end just the value counts: a text is read exactly when it is written like this
and its value lies within the range.
-/
import Rulebook.Number.Whole

namespace Rulebook.Number

/-! ### Written forms -/

/-- Digits, and at least one of them. -/
def IsRun (run : List Char) : Prop :=
  run ≠ [] ∧ run.all isDigit = true

/-- The text is an integer in decimal, a sign in front of it or not. -/
inductive SignedText : List Char → Int → Prop where
  | plain {run : List Char} (digits : IsRun run) : SignedText run (valueOf run)
  | plus {run : List Char} (digits : IsRun run) : SignedText ('+' :: run) (valueOf run)
  | minus {run : List Char} (digits : IsRun run) : SignedText ('-' :: run) (-(valueOf run : Int))

/-- The text is a natural number in decimal, a plus sign in front of it or not. -/
inductive UnsignedText : List Char → Nat → Prop where
  | plain {run : List Char} (digits : IsRun run) : UnsignedText run (valueOf run)
  | plus {run : List Char} (digits : IsRun run) : UnsignedText ('+' :: run) (valueOf run)

theorem not_isRun_nil : ¬ IsRun [] :=
  fun digits => digits.1 rfl

theorem not_isRun_cons {first : Char} (other : isDigit first = false) (rest : List Char) :
    ¬ IsRun (first :: rest) := by
  intro digits
  have all := digits.2
  rw [List.all_cons, other, Bool.false_and] at all
  cases all

theorem isDigit_of_mem {run : List Char} (digits : IsRun run) {character : Char}
    (member : character ∈ run) : isDigit character = true :=
  List.all_eq_true.1 digits.2 character member

theorem signedText_plus_iff {run : List Char} {value : Int} :
    SignedText ('+' :: run) value ↔ IsRun run ∧ (valueOf run : Int) = value := by
  constructor
  · intro written
    cases written with
    | plain digits => exact absurd digits (not_isRun_cons (by decide) run)
    | plus digits => exact ⟨digits, rfl⟩
  · rintro ⟨digits, rfl⟩
    exact .plus digits

theorem signedText_minus_iff {run : List Char} {value : Int} :
    SignedText ('-' :: run) value ↔ IsRun run ∧ -(valueOf run : Int) = value := by
  constructor
  · intro written
    cases written with
    | plain digits => exact absurd digits (not_isRun_cons (by decide) run)
    | minus digits => exact ⟨digits, rfl⟩
  · rintro ⟨digits, rfl⟩
    exact .minus digits

theorem signedText_iff {text : List Char} {value : Int} (noPlus : ∀ run, text ≠ '+' :: run)
    (noMinus : ∀ run, text ≠ '-' :: run) :
    SignedText text value ↔ IsRun text ∧ (valueOf text : Int) = value := by
  constructor
  · intro written
    cases written with
    | plain digits => exact ⟨digits, rfl⟩
    | plus _ => exact absurd rfl (noPlus _)
    | minus _ => exact absurd rfl (noMinus _)
  · rintro ⟨digits, rfl⟩
    exact .plain digits

theorem unsignedText_plus_iff {run : List Char} {value : Nat} :
    UnsignedText ('+' :: run) value ↔ IsRun run ∧ valueOf run = value := by
  constructor
  · intro written
    cases written with
    | plain digits => exact absurd digits (not_isRun_cons (by decide) run)
    | plus digits => exact ⟨digits, rfl⟩
  · rintro ⟨digits, rfl⟩
    exact .plus digits

theorem unsignedText_iff {text : List Char} {value : Nat} (noPlus : ∀ run, text ≠ '+' :: run) :
    UnsignedText text value ↔ IsRun text ∧ valueOf text = value := by
  constructor
  · intro written
    cases written with
    | plain digits => exact ⟨digits, rfl⟩
    | plus _ => exact absurd rfl (noPlus _)
  · rintro ⟨digits, rfl⟩
    exact .plain digits

/-- A written number holds nothing but digits and signs. -/
theorem SignedText.mem {text : List Char} {value : Int} (written : SignedText text value)
    {character : Char} (member : character ∈ text) :
    isDigit character = true ∨ character = '+' ∨ character = '-' := by
  cases written with
  | plain digits => exact .inl (isDigit_of_mem digits member)
  | plus digits =>
    rcases List.mem_cons.1 member with sign | later
    · exact .inr (.inl sign)
    · exact .inl (isDigit_of_mem digits later)
  | minus digits =>
    rcases List.mem_cons.1 member with sign | later
    · exact .inr (.inr sign)
    · exact .inl (isDigit_of_mem digits later)

theorem SignedText.notMem {text : List Char} {value : Int} (written : SignedText text value)
    {character : Char}
    (foreign : isDigit character = false ∧ character ≠ '+' ∧ character ≠ '-') :
    character ∉ text := by
  intro member
  rcases written.mem member with digit | plus | minus
  · exact Bool.false_ne_true (foreign.1.symm.trans digit)
  · exact foreign.2.1 plus
  · exact foreign.2.2 minus

/-! ### Reading digits under a limit -/

/-- The value of a run of digits that follows digits worth a total. -/
def valueFrom (total : Nat) (run : List Char) : Nat :=
  run.foldl (fun total character => total * 10 + (digitValue? character).getD 0) total

theorem valueFrom_zero (run : List Char) : valueFrom 0 run = valueOf run := rfl

theorem valueFrom_cons (total : Nat) (character : Char) (rest : List Char) :
    valueFrom total (character :: rest) =
      valueFrom (total * 10 + (digitValue? character).getD 0) rest := rfl

/-- Further digits never lower the total. -/
theorem le_valueFrom (total : Nat) (run : List Char) : total ≤ valueFrom total run := by
  induction run generalizing total with
  | nil => exact Nat.le_refl total
  | cons character rest induction =>
    rw [valueFrom_cons]
    have later := induction (total * 10 + (digitValue? character).getD 0)
    omega

theorem readDigits_eq_ok_iff {limit total : Nat} (within : total ≤ limit) (beyond : WholeFlaw)
    (run : List Char) (value : Nat) :
    readDigits limit beyond total run = .ok value ↔
      run.all isDigit = true ∧ valueFrom total run = value ∧ value ≤ limit := by
  induction run generalizing total with
  | nil =>
    show Except.ok total = Except.ok value ↔ true = true ∧ total = value ∧ value ≤ limit
    rw [Except.ok.injEq]
    exact ⟨fun same => ⟨rfl, same, same ▸ within⟩, fun given => given.2.1⟩
  | cons character rest induction =>
    unfold readDigits
    rw [valueFrom_cons, List.all_cons]
    cases known : digitValue? character with
    | none => simp [isDigit, known]
    | some digit =>
      have counted : isDigit character = true := by simp [isDigit, known]
      rw [counted, Bool.true_and, Option.getD_some]
      dsimp only
      split
      · next small => exact induction small
      · next large =>
        -- Once the total has left the range, no further digit brings it back.
        have grown := le_valueFrom (total * 10 + digit) rest
        simp only [reduceCtorEq, false_iff]
        rintro ⟨_, same, small⟩
        omega

theorem readMagnitude_eq_ok_iff (limit : Nat) (beyond : WholeFlaw) (run : List Char)
    (value : Nat) :
    readMagnitude limit beyond run = .ok value ↔
      IsRun run ∧ valueOf run = value ∧ value ≤ limit := by
  cases run with
  | nil => simp [readMagnitude, not_isRun_nil]
  | cons character rest =>
    show readDigits limit beyond 0 (character :: rest) = .ok value ↔ _
    rw [readDigits_eq_ok_iff (Nat.zero_le limit), valueFrom_zero]
    unfold IsRun
    simp

/-! ### Numbers of 64 bits -/

/-- An integer is a signed number of 64 bits. -/
def FitsInt64 (value : Int) : Prop :=
  -2 ^ 63 ≤ value ∧ value < 2 ^ 63

instance (value : Int) : Decidable (FitsInt64 value) :=
  inferInstanceAs (Decidable (_ ∧ _))

theorem fitsInt64_toInt (number : Int64) : FitsInt64 number.toInt :=
  ⟨number.le_toInt, number.toInt_lt⟩

theorem exists_toInt_eq_iff {value : Int} :
    (∃ number : Int64, number.toInt = value) ↔ FitsInt64 value := by
  constructor
  · rintro ⟨number, rfl⟩
    exact fitsInt64_toInt number
  · rintro ⟨low, high⟩
    exact ⟨Int64.ofInt value, Int64.toInt_ofInt_of_le low high⟩

theorem map_eq_ok_iff {Flaw First Second : Type} {convert : First → Second}
    {read : Except Flaw First} {value : Second} :
    read.map convert = .ok value ↔ ∃ first, read = .ok first ∧ convert first = value := by
  cases read <;> simp [Except.map]

/-- The values of a run of digits that a limit admits. -/
theorem map_readMagnitude_eq_ok_iff {Item : Type} {convert : Nat → Item} (limit : Nat)
    (beyond : WholeFlaw) (run : List Char) (value : Item) :
    (readMagnitude limit beyond run).map convert = .ok value ↔
      IsRun run ∧ convert (valueOf run) = value ∧ valueOf run ≤ limit := by
  rw [map_eq_ok_iff]
  constructor
  · rintro ⟨number, read, same⟩
    obtain ⟨digits, rfl, small⟩ := (readMagnitude_eq_ok_iff limit beyond run number).1 read
    exact ⟨digits, same, small⟩
  · rintro ⟨digits, same, small⟩
    exact ⟨valueOf run, (readMagnitude_eq_ok_iff limit beyond run _).2 ⟨digits, rfl, small⟩, same⟩

theorem le_signedLimit_sub_one_iff {value : Nat} : value ≤ signedLimit - 1 ↔ FitsInt64 value := by
  unfold signedLimit FitsInt64
  omega

theorem le_signedLimit_iff {value : Nat} : value ≤ signedLimit ↔ FitsInt64 (-value) := by
  unfold signedLimit FitsInt64
  omega

theorem le_unsignedLimit_iff {value : Nat} : value ≤ unsignedLimit ↔ value < 2 ^ 64 :=
  Nat.lt_succ_iff.symm

theorem readSigned_eq_ok_iff (text : List Char) (value : Int) :
    readSigned text = .ok value ↔ SignedText text value ∧ FitsInt64 value := by
  unfold readSigned
  split
  · rw [signedText_iff (by simp) (by simp)]
    simp [not_isRun_nil]
  · next run =>
    rw [map_readMagnitude_eq_ok_iff, signedText_plus_iff, le_signedLimit_sub_one_iff, and_assoc]
    exact and_congr_right fun _ => and_congr_right fun same => same ▸ Iff.rfl
  · next run =>
    rw [map_readMagnitude_eq_ok_iff, signedText_minus_iff, le_signedLimit_iff, and_assoc]
    exact and_congr_right fun _ => and_congr_right fun same => same ▸ Iff.rfl
  · next noPlus noMinus =>
    rw [map_readMagnitude_eq_ok_iff, signedText_iff noPlus noMinus, le_signedLimit_sub_one_iff,
      and_assoc]
    exact and_congr_right fun _ => and_congr_right fun same => same ▸ Iff.rfl

theorem readUnsigned_eq_ok_iff (text : List Char) (value : Nat) :
    readUnsigned text = .ok value ↔ UnsignedText text value ∧ value < 2 ^ 64 := by
  unfold readUnsigned
  split
  · rw [unsignedText_iff (by simp)]
    simp [not_isRun_nil]
  · next run =>
    rw [readMagnitude_eq_ok_iff, unsignedText_plus_iff, le_unsignedLimit_iff, and_assoc]
  · next noPlus =>
    rw [readMagnitude_eq_ok_iff, unsignedText_iff noPlus, le_unsignedLimit_iff, and_assoc]

/-- A signed number is read exactly from the texts that it is written as. -/
theorem readInt64_eq_ok_iff (text : List Char) (number : Int64) :
    readInt64 text = .ok number ↔ SignedText text number.toInt := by
  unfold readInt64
  rw [map_eq_ok_iff]
  constructor
  · rintro ⟨value, read, rfl⟩
    obtain ⟨written, low, high⟩ := (readSigned_eq_ok_iff text value).1 read
    rwa [Int64.toInt_ofInt_of_le low high]
  · intro written
    exact ⟨number.toInt, (readSigned_eq_ok_iff text _).2 ⟨written, fitsInt64_toInt number⟩,
      Int64.ofInt_toInt number⟩

/-- An unsigned number is read exactly from the texts that it is written as. -/
theorem readUInt64_eq_ok_iff (text : List Char) (number : UInt64) :
    readUInt64 text = .ok number ↔ UnsignedText text number.toNat := by
  unfold readUInt64
  rw [map_eq_ok_iff]
  constructor
  · rintro ⟨value, read, rfl⟩
    obtain ⟨written, small⟩ := (readUnsigned_eq_ok_iff text value).1 read
    rwa [UInt64.toNat_ofNat_of_lt' small]
  · intro written
    exact ⟨number.toNat, (readUnsigned_eq_ok_iff text _).2 ⟨written, number.toNat_lt⟩,
      UInt64.ofNat_toNat⟩

theorem toOption_eq_none_iff {Flaw Item : Type} {read : Except Flaw Item} :
    read.toOption = none ↔ ¬ ∃ item, read = .ok item := by
  cases read <;> simp [Except.toOption]

theorem toOption_eq_some_iff {Flaw Item : Type} {read : Except Flaw Item} {item : Item} :
    read.toOption = some item ↔ read = .ok item := by
  cases read <;> simp [Except.toOption]

theorem toOption_readInt64_eq_none_iff {text : List Char} :
    (readInt64 text).toOption = none ↔ ¬ ∃ number : Int64, SignedText text number.toInt := by
  simp only [toOption_eq_none_iff, readInt64_eq_ok_iff]

theorem toOption_readUInt64_eq_none_iff {text : List Char} :
    (readUInt64 text).toOption = none ↔
      ¬ ∃ number : UInt64, UnsignedText text number.toNat := by
  simp only [toOption_eq_none_iff, readUInt64_eq_ok_iff]

/-! ### Written numbers -/

theorem isRun_digits (value : Nat) : IsRun (digits value) :=
  ⟨digits_ne_nil value, all_isDigit_digits value⟩

/-- Digits do not begin with a sign. -/
theorem digits_ne_cons {first : Char} (other : isDigit first = false) (value : Nat)
    (rest : List Char) : digits value ≠ first :: rest := by
  intro same
  exact not_isRun_cons other rest (same ▸ isRun_digits value)

/-- What is written for an integer is a text of this integer alone. -/
theorem signedText_signedDigits_iff {number value : Int} :
    SignedText (signedDigits number) value ↔ value = number := by
  unfold signedDigits
  split
  · next negative =>
    rw [signedText_minus_iff, and_iff_right (isRun_digits _), valueOf_digits]
    omega
  · next natural =>
    rw [signedText_iff (digits_ne_cons (by decide) _) (digits_ne_cons (by decide) _),
      and_iff_right (isRun_digits _), valueOf_digits]
    omega

theorem unsignedText_signedDigits_iff {number : Int} {value : Nat} :
    UnsignedText (signedDigits number) value ↔ (value : Int) = number := by
  unfold signedDigits
  split
  · next negative =>
    rw [unsignedText_iff (by simp)]
    refine iff_of_false (fun written => not_isRun_cons (by decide) _ written.1) ?_
    omega
  · next natural =>
    rw [unsignedText_iff (digits_ne_cons (by decide) _), and_iff_right (isRun_digits _),
      valueOf_digits]
    omega

end Rulebook.Number
