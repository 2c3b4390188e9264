/-
This file proves which texts are read as floating-point numbers.

The grammar stands first. A number is the name of an infinity or of what is not a number, in
any case of letters, or digits with at most one point and perhaps a power of ten; a sign may
stand in front of each. Every number of the grammar is read, whatever its size, since it is
rounded; and nothing else is read.
-/
import Rulebook.Number.Decimal
import Rulebook.Proofs.Number.Whole
import Rulebook.Proofs.Text.Span

namespace Rulebook.Number

open Text

/-! ### The grammar -/

/-- A power of ten as it may follow the digits of a decimal. -/
inductive PowerText : List Char → Prop where
  | absent : PowerText []
  | given {letter : Char} {text : List Char} {power : Int} (isE : letter = 'e' ∨ letter = 'E')
      (written : SignedText text power) : PowerText (letter :: text)

/-- Digits with at most one point, and at least one digit. -/
inductive MantissaText : List Char → Prop where
  | whole {run : List Char} (digits : IsRun run) : MantissaText run
  | pointed {whole fraction : List Char} (wholeDigits : whole.all isDigit = true)
      (fractionDigits : fraction.all isDigit = true) (some : whole ≠ [] ∨ fraction ≠ []) :
      MantissaText (whole ++ '.' :: fraction)

/-- A floating-point number without a sign. -/
inductive UnsignedDoubleText : List Char → Prop where
  | infinity {text : List Char} (named : isWord "inf" text = true ∨ isWord "infinity" text = true) :
      UnsignedDoubleText text
  | nan {text : List Char} (named : isWord "nan" text = true) : UnsignedDoubleText text
  | decimal {mantissa power : List Char} (digits : MantissaText mantissa)
      (scaled : PowerText power) : UnsignedDoubleText (mantissa ++ power)

/-- A floating-point number, a sign in front of it or not. -/
inductive DoubleText : List Char → Prop where
  | plain {text : List Char} (number : UnsignedDoubleText text) : DoubleText text
  | plus {text : List Char} (number : UnsignedDoubleText text) : DoubleText ('+' :: text)
  | minus {text : List Char} (number : UnsignedDoubleText text) : DoubleText ('-' :: text)

/-! ### Powers of ten -/

theorem ite_run_eq_some_iff {run : List Char} {read power : Int} :
    (if run.isEmpty || !run.all isDigit then none else some read) = some power ↔
      IsRun run ∧ read = power := by
  unfold IsRun
  cases run <;> simp

theorem readPower?_cons_eq_some_iff {letter : Char} {text : List Char} {power : Int} :
    readPower? (letter :: text) = some power ↔
      (letter = 'e' ∨ letter = 'E') ∧ SignedText text power := by
  unfold readPower?
  dsimp only
  by_cases isE : letter = 'e' ∨ letter = 'E'
  · rw [if_pos isE, and_iff_right isE]
    split
    · rw [ite_run_eq_some_iff, signedText_plus_iff]
      rfl
    · rw [ite_run_eq_some_iff, signedText_minus_iff]
      rfl
    · next noPlus noMinus =>
      rw [ite_run_eq_some_iff, signedText_iff noPlus noMinus]
      rfl
  · rw [if_neg isE]
    exact iff_of_false nofun fun given => isE given.1

theorem isSome_readPower?_iff {text : List Char} :
    (readPower? text).isSome = true ↔ PowerText text := by
  rw [Option.isSome_iff_exists]
  cases text with
  | nil => exact iff_of_true ⟨0, rfl⟩ .absent
  | cons letter rest =>
    simp only [readPower?_cons_eq_some_iff]
    constructor
    · rintro ⟨power, isE, written⟩
      exact .given isE written
    · intro scaled
      cases scaled with
      | given isE written => exact ⟨_, isE, written⟩

/-- Whether a character can belong to a mantissa. -/
def isMantissaChar (character : Char) : Bool :=
  isDigit character || character == '.'

theorem PowerText.beginsOutside {power : List Char} (scaled : PowerText power) :
    BeginsOutside isMantissaChar power := by
  cases scaled with
  | absent => exact beginsOutside_nil _
  | given isE _ =>
    rcases isE with rfl | rfl
    all_goals exact beginsOutside_cons (by decide) _

/-! ### Decimals -/

theorem beginsOutside_isDigit {text : List Char} (outside : BeginsOutside isMantissaChar text) :
    BeginsOutside isDigit text := by
  intro first member
  exact (Bool.or_eq_false_iff.1 (outside first member)).1

section Reading

variable {negative : Bool} {whole fraction rest : List Char}

/-- Digits, a point and digits are taken for a decimal, and what follows for its power. -/
theorem readUnsignedDecimal?_pointed (wholeDigits : whole.all isDigit = true)
    (fractionDigits : fraction.all isDigit = true) (outside : BeginsOutside isDigit rest) :
    readUnsignedDecimal? negative (whole ++ '.' :: (fraction ++ rest)) =
      if whole.isEmpty && fraction.isEmpty then none
      else (readPower? rest).map fun power => ⟨negative, whole, fraction, power⟩ := by
  have point : BeginsOutside isDigit ('.' :: (fraction ++ rest)) :=
    beginsOutside_cons (by decide) _
  unfold readUnsignedDecimal?
  rw [takeWhile_append_of_beginsOutside (List.all_eq_true.1 wholeDigits) point,
    dropWhile_append_of_beginsOutside (List.all_eq_true.1 wholeDigits) point]
  simp only [takeWhile_append_of_beginsOutside (List.all_eq_true.1 fractionDigits) outside,
    dropWhile_append_of_beginsOutside (List.all_eq_true.1 fractionDigits) outside]

/-- So are digits without a point. -/
theorem readUnsignedDecimal?_whole (wholeDigits : whole.all isDigit = true)
    (outside : BeginsOutside isMantissaChar rest) :
    readUnsignedDecimal? negative (whole ++ rest) =
      if whole.isEmpty then none
      else (readPower? rest).map fun power => ⟨negative, whole, [], power⟩ := by
  unfold readUnsignedDecimal?
  rw [takeWhile_append_of_beginsOutside (List.all_eq_true.1 wholeDigits)
      (beginsOutside_isDigit outside),
    dropWhile_append_of_beginsOutside (List.all_eq_true.1 wholeDigits)
      (beginsOutside_isDigit outside)]
  split
  next digits after parted =>
  split at parted
  · cases outside '.' rfl
  · cases parted
    simp

end Reading

/-- Every text is digits with at most one point, and then something else. -/
theorem exists_mantissa_append (text : List Char) :
    (∃ whole fraction rest, whole.all isDigit = true ∧ fraction.all isDigit = true ∧
        BeginsOutside isDigit rest ∧ text = whole ++ '.' :: (fraction ++ rest)) ∨
      ∃ whole rest, whole.all isDigit = true ∧ BeginsOutside isMantissaChar rest ∧
        text = whole ++ rest := by
  have parts : text.takeWhile isDigit ++ text.dropWhile isDigit = text :=
    List.takeWhile_append_dropWhile
  have outside := beginsOutside_dropWhile isDigit text
  generalize text.dropWhile isDigit = rest at parts outside
  by_cases point : rest.head? = some '.'
  · obtain ⟨after, rfl⟩ := List.head?_eq_some_iff.1 point
    exact .inl ⟨_, after.takeWhile isDigit, after.dropWhile isDigit, List.all_takeWhile,
      List.all_takeWhile, beginsOutside_dropWhile isDigit after, by
        rw [List.takeWhile_append_dropWhile, parts]⟩
  · refine .inr ⟨_, rest, List.all_takeWhile, fun first member => ?_, parts.symm⟩
    have other : first ≠ '.' := fun same => point (same ▸ member)
    simp [isMantissaChar, outside first member, other]

theorem isSome_readUnsignedDecimal?_iff {negative : Bool} {text : List Char} :
    (readUnsignedDecimal? negative text).isSome = true ↔
      ∃ mantissa power, text = mantissa ++ power ∧ MantissaText mantissa ∧ PowerText power := by
  constructor
  · intro read
    rcases exists_mantissa_append text with
      ⟨whole, fraction, rest, wholeDigits, fractionDigits, outside, rfl⟩ |
      ⟨whole, rest, wholeDigits, outside, rfl⟩
    · rw [readUnsignedDecimal?_pointed wholeDigits fractionDigits outside] at read
      split at read
      · cases read
      · next some =>
        rw [Option.isSome_map, isSome_readPower?_iff] at read
        refine ⟨whole ++ '.' :: fraction, rest, by simp, .pointed wholeDigits fractionDigits ?_,
          read⟩
        simpa [or_iff_not_imp_left] using some
    · rw [readUnsignedDecimal?_whole wholeDigits outside] at read
      split at read
      · cases read
      · next some =>
        rw [Option.isSome_map, isSome_readPower?_iff] at read
        exact ⟨whole, rest, rfl, .whole ⟨by simpa using some, wholeDigits⟩, read⟩
  · rintro ⟨mantissa, power, rfl, digits, scaled⟩
    cases digits with
    | whole digits =>
      rw [readUnsignedDecimal?_whole digits.2 scaled.beginsOutside,
        if_neg (by simpa using digits.1), Option.isSome_map, isSome_readPower?_iff]
      exact scaled
    | pointed wholeDigits fractionDigits some =>
      rw [List.append_assoc, List.cons_append, readUnsignedDecimal?_pointed wholeDigits
        fractionDigits (beginsOutside_isDigit scaled.beginsOutside),
        if_neg (by simpa [or_iff_not_imp_left] using some), Option.isSome_map,
        isSome_readPower?_iff]
      exact scaled

/-! ### Floating-point numbers -/

theorem MantissaText.exists_cons {mantissa : List Char} (digits : MantissaText mantissa) :
    ∃ first rest, mantissa = first :: rest ∧ isMantissaChar first = true := by
  have counts {first : Char} {run : List Char} (all : (first :: run).all isDigit = true) :
      isMantissaChar first = true := by
    rw [List.all_cons, Bool.and_eq_true] at all
    exact Bool.or_eq_true_iff.2 (.inl all.1)
  cases digits with
  | whole digits =>
    obtain ⟨first, rest, rfl⟩ := List.exists_cons_of_ne_nil digits.1
    exact ⟨first, rest, rfl, counts digits.2⟩
  | @pointed whole fraction wholeDigits _ _ =>
    cases whole with
    | nil => exact ⟨'.', fraction, rfl, rfl⟩
    | cons first more => exact ⟨first, more ++ '.' :: fraction, rfl, counts wholeDigits⟩

/-- No number without a sign begins with one. -/
theorem not_unsignedDoubleText_sign {sign : Char} (isSign : sign = '+' ∨ sign = '-')
    (rest : List Char) : ¬ UnsignedDoubleText (sign :: rest) := by
  have unnamed (word : String) (first : Char) (more : List Char)
      (spelled : word.toList = first :: more) (apart : sign.toLower ≠ first) :
      isWord word (sign :: rest) = false := by
    unfold isWord
    rw [spelled, List.map_cons]
    simp [apart]
  intro number
  generalize body : sign :: rest = text at number
  cases number with
  | infinity named =>
    subst body
    rcases isSign with rfl | rfl
    all_goals
      rw [unnamed "inf" 'i' ['n', 'f'] rfl (by decide),
        unnamed "infinity" 'i' ['n', 'f', 'i', 'n', 'i', 't', 'y'] rfl (by decide)] at named
      simp at named
  | nan named =>
    subst body
    rcases isSign with rfl | rfl
    all_goals
      rw [unnamed "nan" 'n' ['a', 'n'] rfl (by decide)] at named
      cases named
  | decimal digits scaled =>
    obtain ⟨first, more, rfl, counts⟩ := digits.exists_cons
    obtain rfl : sign = first := (List.cons.inj body).1
    rcases isSign with rfl | rfl
    all_goals exact absurd counts (by decide)

theorem isSome_readBody_iff (negative : Bool) (round : DecimalText → Double) (body : List Char) :
    (if isWord "inf" body || isWord "infinity" body then some (.infinite negative)
      else if isWord "nan" body then some .nan
      else (readUnsignedDecimal? negative body).map round).isSome = true ↔
      UnsignedDoubleText body := by
  split
  · next named => exact iff_of_true rfl (.infinity (Bool.or_eq_true_iff.1 named))
  · next notInfinity =>
    split
    · next named => exact iff_of_true rfl (.nan named)
    · next notNan =>
      rw [Option.isSome_map, isSome_readUnsignedDecimal?_iff]
      constructor
      · rintro ⟨mantissa, power, rfl, digits, scaled⟩
        exact .decimal digits scaled
      · intro number
        cases number with
        | infinity named => exact absurd (Bool.or_eq_true_iff.2 named) notInfinity
        | nan named => exact absurd named notNan
        | decimal digits scaled => exact ⟨_, _, rfl, digits, scaled⟩

/-- A text is read as a floating-point number exactly when it is written as one. -/
theorem isSome_readDouble?_iff {text : List Char} :
    (readDouble? text).isSome = true ↔ DoubleText text := by
  unfold readDouble? readRounded?
  split
  next negative body signed =>
  rw [isSome_readBody_iff]
  split at signed
  · cases signed
    constructor
    · exact .plus
    · intro number
      cases number with
      | plain number => exact absurd number (not_unsignedDoubleText_sign (.inl rfl) _)
      | plus number => exact number
  · cases signed
    constructor
    · exact .minus
    · intro number
      cases number with
      | plain number => exact absurd number (not_unsignedDoubleText_sign (.inr rfl) _)
      | minus number => exact number
  · next noPlus noMinus =>
    cases signed
    constructor
    · exact .plain
    · intro number
      cases number with
      | plain number => exact number
      | plus _ => exact absurd rfl (noPlus _)
      | minus _ => exact absurd rfl (noMinus _)

end Rulebook.Number
