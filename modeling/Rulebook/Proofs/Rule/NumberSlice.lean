/-
This file proves what the first number of any text is, and that it can be cut out of the bytes
of the text.

A text is kept as bytes, and a character takes from one to four of them. Whoever cuts a number
out by offsets counts bytes and has to hit a place between two characters each time, also when
one byte is stepped back from the first digit to a minus sign. `slice?` has no answer for any
other offset. The cut goes well in every text: digits and the minus sign take one byte each, and
what stands before and behind them is never cut into. So reading a number out of the bytes and
reading it out of the characters are the same.
-/
import Rulebook.Proofs.Number.Digits
import Rulebook.Proofs.Rule.FirstNumber
import Mathlib.Data.String.Basic

namespace Rulebook

open Number Text

/-! ### Bytes of a text -/

/-- The text between two places, given as numbers of bytes; none if one of them lies within a
character or outside the text, or if they are not in order. -/
def slice? (text : String) (start stop : String.Pos.Raw) : Option String :=
  if String.Pos.Raw.IsValid text start ∧ String.Pos.Raw.IsValid text stop ∧ start ≤ stop then
    some (String.Pos.Raw.extract text start stop)
  else none

/-- The number of bytes before the first character that passes a test. -/
def offset? (test : Char → Bool) : List Char → Option Nat
  | [] => none
  | character :: rest =>
    if test character then some 0 else (offset? test rest).map (· + character.utf8Size)

theorem isValid_utf8Len (front back : List Char) :
    String.Pos.Raw.IsValid (String.ofList (front ++ back)) ⟨String.utf8Len front⟩ := by
  refine String.Pos.Raw.isValid_iff_exists_append.2
    ⟨String.ofList front, String.ofList back, String.ofList_append, ?_⟩
  rw [String.rawEndPos, String.utf8ByteSize_ofList]

/-- A slice between characters is cut out as it stands. -/
theorem slice?_append (front middle back : List Char) :
    slice? (String.ofList (front ++ middle ++ back)) ⟨String.utf8Len front⟩
        ⟨String.utf8Len front + String.utf8Len middle⟩ = some (String.ofList middle) := by
  have start : String.Pos.Raw.IsValid (String.ofList (front ++ middle ++ back))
      ⟨String.utf8Len front⟩ := by
    rw [List.append_assoc]
    exact isValid_utf8Len front (middle ++ back)
  have stop : String.Pos.Raw.IsValid (String.ofList (front ++ middle ++ back))
      ⟨String.utf8Len front + String.utf8Len middle⟩ := by
    rw [← String.utf8Len_append]
    exact isValid_utf8Len (front ++ middle) back
  unfold slice?
  rw [if_pos ⟨start, stop, Nat.le_add_right _ _⟩, String.extract_of_valid]

section Offset

variable {test : Char → Bool} {front : List Char}

theorem offset?_eq_none (early : ∀ character ∈ front, test character = false) :
    offset? test front = none := by
  induction front with
  | nil => rfl
  | cons character rest induction =>
    obtain ⟨here, later⟩ := List.forall_mem_cons.1 early
    rw [offset?, here, induction later]
    rfl

theorem offset?_append_cons (early : ∀ character ∈ front, test character = false) {first : Char}
    (passes : test first = true) (rest : List Char) :
    offset? test (front ++ first :: rest) = some (String.utf8Len front) := by
  induction front with
  | nil => exact if_pos passes
  | cons character more induction =>
    obtain ⟨here, later⟩ := List.forall_mem_cons.1 early
    rw [List.cons_append, offset?, here, induction later, String.utf8Len_cons]
    rfl

end Offset

/-! ### Cutting out the first number -/

/-- The first number in a text, cut out of its bytes: from the first digit, or one byte before it
where a minus sign stands, to the next character that is no digit. There is no answer at all if a
cut goes through a character. -/
def cutNumber? (text : String) : Option (Option Int64) :=
  match offset? isDigit text.toList with
  | none => some none
  | some first => do
    let rest ← slice? text ⟨first⟩ text.rawEndPos
    let stop := (offset? (!isDigit ·) rest.toList).elim text.utf8ByteSize (first + ·)
    let front ← slice? text 0 ⟨first⟩
    let start := if front.toList.getLast? = some '-' then first - 1 else first
    let number ← slice? text ⟨start⟩ ⟨stop⟩
    return (readInt64 number.toList).toOption

variable {before run after : List Char}

/-- The offset of the first character behind a run of digits, or the end of the text. -/
theorem elim_offset?_run (digits : IsRun run) (ends : BeginsOutside isDigit after)
    (front : List Char) :
    (offset? (!isDigit ·) (run ++ after)).elim
        (String.ofList (front ++ (run ++ after))).utf8ByteSize (String.utf8Len front + ·) =
      String.utf8Len front + String.utf8Len run := by
  have early : ∀ character ∈ run, (!isDigit character) = false := by
    intro character member
    rw [isDigit_of_mem digits member]
    rfl
  cases after with
  | nil =>
    rw [List.append_nil, offset?_eq_none early, Option.elim_none, String.utf8ByteSize_ofList,
      String.utf8Len_append]
  | cons first rest =>
    rw [offset?_append_cons early (by rw [ends first rfl]; rfl), Option.elim_some]

/-- The run of digits is cut out with the minus sign before it, which takes one byte. -/
theorem slice?_signed (before run after : List Char) :
    slice? (String.ofList (before ++ (run ++ after)))
        ⟨if before.getLast? = some '-' then String.utf8Len before - 1 else String.utf8Len before⟩
        ⟨String.utf8Len before + String.utf8Len run⟩ =
      some (String.ofList (if before.getLast? = some '-' then '-' :: run else run)) := by
  split
  · next signed =>
    obtain ⟨lead, rfl⟩ := List.getLast?_eq_some_iff.1 signed
    have sign : String.utf8Len (lead ++ ['-']) = String.utf8Len lead + 1 := by
      rw [String.utf8Len_append]
      rfl
    have cut := slice?_append lead ('-' :: run) after
    rw [String.utf8Len_cons, ← Nat.add_assoc, Nat.add_right_comm] at cut
    rw [sign, Nat.add_sub_cancel, List.append_assoc, List.singleton_append, ← List.cons_append,
      ← List.append_assoc]
    exact cut
  · rw [← List.append_assoc]
    exact slice?_append before run after

theorem FirstRun.cutNumber?_eq {text : String} (first : FirstRun text.toList before run after) :
    cutNumber? text =
      some (readInt64 (if before.getLast? = some '-' then '-' :: run else run)).toOption := by
  have spelled : text = String.ofList (before ++ (run ++ after)) := by
    rw [← first.parts, String.ofList_toList]
  have found : offset? isDigit text.toList = some (String.utf8Len before) := by
    rw [first.parts]
    obtain ⟨digit, more, rfl⟩ := List.exists_cons_of_ne_nil first.digits.1
    exact offset?_append_cons first.early (isDigit_of_mem first.digits List.mem_cons_self) _
  have ending : text.rawEndPos = ⟨String.utf8Len before + String.utf8Len (run ++ after)⟩ := by
    rw [String.rawEndPos, spelled, String.utf8ByteSize_ofList, String.utf8Len_append]
  have rest : slice? text ⟨String.utf8Len before⟩ text.rawEndPos =
      some (String.ofList (run ++ after)) := by
    have cut := slice?_append before (run ++ after) []
    rwa [List.append_nil, ← spelled, ← ending] at cut
  have front : slice? text 0 ⟨String.utf8Len before⟩ = some (String.ofList before) := by
    have cut := slice?_append [] before (run ++ after)
    rwa [List.nil_append, ← spelled, String.utf8Len_nil, Nat.zero_add] at cut
  have stop := elim_offset?_run first.digits first.ends before
  have number := slice?_signed before run after
  rw [← spelled] at stop number
  unfold cutNumber?
  simp only [found, rest, front, Option.bind_eq_bind, Option.bind_some, String.toList_ofList, stop,
    number]
  rfl

/-- No cut goes through a character, and the bytes give the number that the characters give. -/
theorem cutNumber?_eq (text : String) : cutNumber? text = some (firstNumber? text.toList) := by
  rcases exists_firstRun_or_noDigit text.toList with ⟨before, run, after, first⟩ | noDigit
  · rw [first.cutNumber?_eq, first.firstNumber?_eq]
  · rw [firstNumber?_eq_none noDigit, cutNumber?, offset?_eq_none noDigit]

/-! ### The first number of any text -/

/-- A number of 64 bits with any number of zeros in front of its digits. -/
def zeroPadded (zeros : Nat) (number : Int64) : List Char :=
  (if number.toInt < 0 then ['-'] else []) ++
    (List.replicate zeros '0' ++ digits number.toInt.natAbs)

theorem firstNumber?_zeroPadded (zeros : Nat) (number : Int64) :
    firstNumber? (zeroPadded zeros number) = some number := by
  have zero : isDigit '0' = true := by decide
  have run : IsRun (List.replicate zeros '0' ++ digits number.toInt.natAbs) := by
    refine ⟨List.append_ne_nil_of_right_ne_nil _ (digits_ne_nil _), ?_⟩
    simp only [List.all_append, all_isDigit_digits, List.all_replicate, zero, ite_self,
      Bool.and_self]
  have first : FirstRun (zeroPadded zeros number) (if number.toInt < 0 then ['-'] else [])
      (List.replicate zeros '0' ++ digits number.toInt.natAbs) [] := {
    parts := by rw [List.append_nil, zeroPadded]
    early := by
      intro character member
      split at member
      · rw [List.mem_singleton.1 member]
        decide
      · cases member
    digits := run
    ends := beginsOutside_nil isDigit }
  have worth : signedRun (if number.toInt < 0 then ['-'] else [])
      (List.replicate zeros '0' ++ digits number.toInt.natAbs) = number.toInt := by
    unfold signedRun
    rw [valueOf_replicate_append, valueOf_digits]
    by_cases negative : number.toInt < 0
    · rw [if_pos negative, if_pos List.getLast?_singleton]
      omega
    · rw [if_neg negative, if_neg (by decide)]
      omega
  rw [first.firstNumber?_eq_ite, worth, if_pos (fitsInt64_toInt number), Int64.ofInt_toInt]

/-- The first number of a text is its first run of digits, negative where a minus sign stands
directly before it, if that fits 64 bits; so every number of 64 bits can be written, with any
number of zeros in front. A text without digits has no first number. And the number can be cut out
of the bytes of any text without cutting through a character. -/
theorem firstNumber?_reads_first_run :
    (∀ text before run after, FirstRun text before run after →
        firstNumber? text =
          if FitsInt64 (signedRun before run) then some (Int64.ofInt (signedRun before run))
          else none) ∧
      (∀ zeros number, firstNumber? (zeroPadded zeros number) = some number) ∧
      (∀ text, (∀ character ∈ text, isDigit character = false) → firstNumber? text = none) ∧
      ∀ text : String, cutNumber? text = some (firstNumber? text.toList) :=
  ⟨fun _ _ _ _ first => first.firstNumber?_eq_ite, firstNumber?_zeroPadded,
    fun _ => firstNumber?_eq_none, cutNumber?_eq⟩

/-- The least number fits behind characters of several bytes, the number above the greatest one
does not, and there are digits of other sorts that do not count. -/
theorem firstNumber?_reads_first_run_least :
    let least := "größe ½-0009223372036854775808°".toList
    let wide := "-½9223372036854775808".toList
    let other := "½-²".toList
    FirstRun least "größe ½-".toList "0009223372036854775808".toList ['°'] ∧
      firstNumber? least = some Int64.minValue ∧
      FirstRun wide ['-', '½'] "9223372036854775808".toList [] ∧ firstNumber? wide = none ∧
      (∀ character ∈ other, isDigit character = false) ∧ firstNumber? other = none := by
  intro least wide other
  obtain ⟨reads, _, without, _⟩ := firstNumber?_reads_first_run
  have leastRun : FirstRun least "größe ½-".toList "0009223372036854775808".toList ['°'] := {
    parts := by decide
    early := forall_isDigit_eq_false (by decide)
    digits := ⟨by decide, by decide⟩
    ends := beginsOutside_cons (by decide) [] }
  have wideRun : FirstRun wide ['-', '½'] "9223372036854775808".toList [] := {
    parts := by decide
    early := forall_isDigit_eq_false (by decide)
    digits := ⟨by decide, by decide⟩
    ends := beginsOutside_nil isDigit }
  have plain : ∀ character ∈ other, isDigit character = false :=
    forall_isDigit_eq_false (by decide)
  refine ⟨leastRun, ?_, wideRun, ?_, plain, without other plain⟩
  · rw [reads _ _ _ _ leastRun]
    decide +kernel
  · rw [reads _ _ _ _ wideRun]
    decide +kernel

end Rulebook
