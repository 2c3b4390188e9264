/-
This file proves how words are counted, and that the bounds on their number are inclusive.

A word is what stands between two spaces, or between a space and an end of the text, also if
nothing stands there. So the number of words is the number of pieces that the spaces cut a text
into. Runs of spaces are not taken together, spaces at the ends count, and blanks of other kinds
separate nothing. Two laws of counting follow: a space adds the words on its two sides, and texts
in a row, with one space between each two, are as many words as there are texts.

The rule compares this number with two bounds. It looks at nothing but the raw text of a value, so
that it has a meaning for values of every kind. The empty text, which other bounds leave alone, is
one word here.
-/
import Rulebook.Proofs.Enforcement.Bounds
import Rulebook.Proofs.Enforcement.Elision

namespace Rulebook

open Directive Number Text

/-! ### Counting -/

/-- Words are the pieces between spaces. -/
theorem countWords_eq_length_splitOn (text : List Char) :
    countWords text = (text.splitOn ' ').length :=
  (length_splitOn ' ' text).symm

/-- A space adds the words on its two sides. -/
theorem countWords_append_space (first second : List Char) :
    countWords (first ++ ' ' :: second) = countWords first + countWords second := by
  unfold countWords
  rw [List.count_append, List.count_cons_self]
  omega

/-- Texts without spaces are one word each, also if they are empty. -/
theorem countWords_intercalate {parts : List String} (nonempty : parts ≠ [])
    (unspaced : ∀ part ∈ parts, ' ' ∉ part.toList) :
    countWords (" ".intercalate parts).toList = parts.length := by
  have cut : (" ".intercalate parts).toList.splitOn ' ' = parts.map String.toList := by
    rw [String.toList_intercalate]
    exact List.splitOn_intercalate ' ' (List.forall_mem_map.2 unspaced) (by simpa using nonempty)
  rw [countWords_eq_length_splitOn, cut, List.length_map]

/-! ### Words and bounds -/

section Rule

variable {low high : Int64}

/-- Both bounds are allowed themselves. -/
theorem Directive.wordCount_eq_ite {directive : Directive}
    (given : directive.pair? = some (low, high)) (value : Value) :
    directive.wordCount value =
      if low.toInt ≤ countWords value.rawChars ∧ (countWords value.rawChars : Int) ≤ high.toInt
      then none else some (.wordsOutside low high) := by
  unfold wordCount
  rw [given]
  generalize countWords value.rawChars = words
  have outside : ((words : Int) < low.toInt || high.toInt < words) = true ↔
      ¬ (low.toInt ≤ words ∧ (words : Int) ≤ high.toInt) := by
    rw [Bool.or_eq_true, decide_eq_true_iff, decide_eq_true_iff]
    omega
  exact (if_congr outside rfl rfl).trans (ite_not _ _ _)

/-- A number that is quoted in a message holds no quotes. -/
theorem Violation.quote_notMem_numberText (number : Int64) :
    '\'' ∉ (numberText number).toList := by
  unfold numberText
  rw [String.toList_ofList]
  exact (signedText_signedDigits_iff.2 rfl).notMem (by decide)

/-- What is said of a single value with too few words or too many. -/
def wordsMessage (low high : Int64) : String :=
  "Field must be between " ++ Violation.numberText low ++ " and " ++ Violation.numberText high ++
    " words"

theorem withoutEmptyName_wordsOutside (low high : Int64) :
    withoutEmptyName ((Violation.wordsOutside low high).message "") = wordsMessage low high := by
  have unquoted : '\'' ∉ (" must be between " ++ (Violation.numberText low ++ (" and " ++
      (Violation.numberText high ++ " words")))).toList := by
    simp [Violation.quote_notMem_numberText]
  have opening : "Field" ++ " must be between " = "Field must be between " := rfl
  unfold wordsMessage Violation.message
  simp only [String.append_assoc]
  rw [withoutEmptyName_subject (not_hasPair_of_notMem unquoted), ← opening, String.append_assoc]

variable {first second : List Char}

/-- The messages about a value whose words are counted. -/
theorem enforceValue_wordCount (lowNumber : SignedText first low.toInt)
    (highNumber : SignedText second high.toInt) (value : Value) (settings : Settings)
    (roster : Option Roster) :
    enforceValue value ("wordCount:" ++ String.ofList (first ++ ',' :: second)) settings roster =
      if low.toInt ≤ countWords value.rawChars ∧ (countWords value.rawChars : Int) ≤ high.toInt
      then [] else [wordsMessage low high] := by
  have read : readRules ("wordCount:" ++ String.ofList (first ++ ',' :: second)) =
      [⟨"wordCount", some (String.ofList (first ++ ',' :: second))⟩] :=
    readRules_pair "wordCount" (by decide) lowNumber highNumber
  rw [enforceValue_of_readRules read]
  show (((⟨"wordCount", _⟩ : Directive).wordCount value).toList.map _) = _
  rw [wordCount_eq_ite (pair?_written lowNumber highNumber)]
  split
  · rfl
  · exact congrArg (fun message => [message]) (withoutEmptyName_wordsOutside low high)

end Rule

/-- Words add up over a space, and texts without spaces in them, with one space between each two,
are as many words as there are texts. Such a row has no message about the number of its words
exactly when this number lies between the bounds or is one of them, and one message otherwise. -/
theorem enforceValue_wordCount_eq_nil_iff :
    (∀ first second : String, countWords (first ++ " " ++ second).toList =
      countWords first.toList + countWords second.toList) ∧
    ∀ parts : List String, parts ≠ [] → (∀ part ∈ parts, ' ' ∉ part.toList) →
      countWords (" ".intercalate parts).toList = parts.length ∧
      ∀ (low high : Int64) (first second : List Char), SignedText first low.toInt →
        SignedText second high.toInt → ∀ (settings : Settings) (roster : Option Roster),
        let found := enforceValue (.text (" ".intercalate parts))
          ("wordCount:" ++ String.ofList (first ++ ',' :: second)) settings roster
        (found = [] ↔ low.toInt ≤ parts.length ∧ (parts.length : Int) ≤ high.toInt) ∧
          (found = [] ∨ found = [wordsMessage low high]) := by
  refine ⟨fun first second => ?sum, fun parts nonempty unspaced => ?row⟩
  case sum =>
    have laidOut : (first ++ " " ++ second).toList = first.toList ++ ' ' :: second.toList := by
      simp
    rw [laidOut, countWords_append_space]
  case row =>
    have counted := countWords_intercalate nonempty unspaced
    refine ⟨counted, fun low high first second lowNumber highNumber settings roster => ?_⟩
    intro found
    have foundEq : found = if low.toInt ≤ parts.length ∧ (parts.length : Int) ≤ high.toInt
        then [] else [wordsMessage low high] := by
      rw [← counted]
      exact enforceValue_wordCount lowNumber highNumber _ settings roster
    rw [foundEq]
    split
    · next within => exact ⟨iff_of_true rfl within, .inl rfl⟩
    · next outside => exact ⟨iff_of_false (List.cons_ne_nil _ _) outside, .inr rfl⟩

/-- Two spaces in a row, one at the end, a tabulator and a line break; the least bound there is,
with a bound that is met, and the greatest one, with a bound that is missed by one word. -/
theorem enforceValue_wordCount_eq_nil_iff_spaces :
    let parts := ["a\tb", "", "é\n", ""]
    let value := Value.text "a\tb  é\n "
    let least : Int64 := .minValue
    let greatest : Int64 := .maxValue
    parts ≠ [] ∧ (∀ part ∈ parts, ' ' ∉ part.toList) ∧
      SignedText "-9223372036854775808".toList least.toInt ∧
      SignedText "+04".toList (4 : Int64).toInt ∧ SignedText "5".toList (5 : Int64).toInt ∧
      SignedText "9223372036854775807".toList greatest.toInt ∧
      countWords "a\tb  é\n ".toList = 4 ∧
      enforceValue value "wordCount:-9223372036854775808,+04" .standard none = [] ∧
      enforceValue value "wordCount:5,9223372036854775807" .standard none =
        ["Field must be between 5 and 9223372036854775807 words"] := by
  intro parts value least greatest
  have lowest : SignedText "-9223372036854775808".toList least.toInt :=
    (readInt64_eq_ok_iff _ _).1 rfl
  have four : SignedText "+04".toList (4 : Int64).toInt := (readInt64_eq_ok_iff _ _).1 rfl
  have five : SignedText "5".toList (5 : Int64).toInt := (readInt64_eq_ok_iff _ _).1 rfl
  have highest : SignedText "9223372036854775807".toList greatest.toInt :=
    (readInt64_eq_ok_iff _ _).1 rfl
  have nonempty : parts ≠ [] := List.cons_ne_nil _ _
  have unspaced : ∀ part ∈ parts, ' ' ∉ part.toList := by decide
  obtain ⟨counted, bounded⟩ := enforceValue_wordCount_eq_nil_iff.2 parts nonempty unspaced
  have met := bounded least 4 _ _ lowest four .standard none
  have missed := bounded 5 greatest _ _ five highest .standard none
  refine ⟨nonempty, unspaced, lowest, four, five, highest, counted, met.1.2 (by decide), ?_⟩
  have worded : wordsMessage 5 .maxValue =
      "Field must be between 5 and 9223372036854775807 words" := by decide +kernel
  rw [← worded]
  exact missed.2.resolve_left fun silent => absurd (missed.1.1 silent) (by decide)

end Rulebook
