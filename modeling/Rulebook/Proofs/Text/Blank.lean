/-
This file proves when trimming leaves a text as it is.
-/
import Rulebook.Proofs.Number.Digits
import Rulebook.Text.Blank

namespace Rulebook.Text

theorem trimStart_cons {first : Char} (visible : isBlank first = false) (rest : List Char) :
    trimStart (first :: rest) = first :: rest :=
  List.dropWhile_cons_of_neg (by simp [visible])

/-- A text whose first character is not blank has no leading blanks to lose. -/
theorem trimStart_eq_self {text : List Char} (visible : ∀ first ∈ text, isBlank first = false) :
    trimStart text = text := by
  cases text with
  | nil => rfl
  | cons first rest => exact trimStart_cons (visible first List.mem_cons_self) rest

/-- A text without blanks is trimmed already. -/
theorem trim_eq_self {text : List Char} (visible : ∀ character ∈ text, isBlank character = false) :
    trim text = text := by
  have reversed : trimStart text.reverse = text.reverse :=
    trimStart_eq_self fun character member => visible character (List.mem_reverse.1 member)
  unfold trim trimEnd
  rw [trimStart_eq_self visible]
  exact (congrArg List.reverse reversed).trans text.reverse_reverse

/-- A text is trimmed already if it neither begins nor ends with a blank. -/
theorem trim_append_eq_self {first : Char} {back : List Char} (visible : isBlank first = false)
    (middle : List Char) (filled : back ≠ [])
    (backVisible : ∀ character ∈ back, isBlank character = false) :
    trim (first :: middle ++ back) = first :: middle ++ back := by
  obtain ⟨last, front, reversed⟩ := List.exists_cons_of_ne_nil (List.reverse_ne_nil_iff.2 filled)
  have lastVisible : isBlank last = false :=
    backVisible last (List.mem_reverse.1 (reversed ▸ List.mem_cons_self))
  have kept : trimStart (first :: middle ++ back).reverse = (first :: middle ++ back).reverse := by
    rw [List.reverse_append, reversed]
    exact trimStart_cons lastVisible _
  unfold trim trimEnd
  rw [List.cons_append, trimStart_cons visible, ← List.cons_append]
  exact (congrArg List.reverse kept).trans (List.reverse_reverse _)

/-- Of a text with a visible character only what follows it can lose trailing blanks. -/
theorem trimEnd_append_cons {character : Char} (visible : isBlank character = false)
    (front rest : List Char) :
    trimEnd (front ++ character :: rest) = front ++ character :: trimEnd rest := by
  have reversed : (front ++ character :: rest).reverse =
      rest.reverse ++ character :: front.reverse := by
    simp only [List.reverse_append, List.reverse_cons, List.append_assoc, List.singleton_append]
  have stays : (character :: front.reverse).dropWhile isBlank = character :: front.reverse :=
    List.dropWhile_cons_of_neg (by simp [visible])
  unfold trimEnd
  rw [reversed, List.dropWhile_append, stays]
  split
  · next gone => simp [List.isEmpty_iff.1 gone]
  · simp

/-- A text is what trimming leaves of it at the end, and blanks. -/
theorem trimEnd_prefix (text : List Char) : trimEnd text <+: text := by
  have kept := List.reverse_prefix.2 (List.dropWhile_suffix isBlank (l := text.reverse))
  rwa [List.reverse_reverse] at kept

/-- A text with two visible characters, the first one in front, is trimmed only behind the second
one. -/
theorem trim_append_cons {first character : Char} (firstVisible : isBlank first = false)
    (visible : isBlank character = false) (front rest : List Char) :
    trim (first :: front ++ character :: rest) = first :: front ++ character :: trimEnd rest := by
  unfold trim
  rw [List.cons_append, trimStart_cons firstVisible, ← List.cons_append,
    trimEnd_append_cons visible]

/-- A digit is not blank. -/
theorem isBlank_of_isDigit {character : Char} (digit : Number.isDigit character = true) :
    isBlank character = false := by
  have bounds := Number.isDigit_bounds digit
  unfold isBlank
  simp only [Bool.or_eq_false_iff, Bool.and_eq_false_iff, decide_eq_false_iff_not, beq_eq_false_iff_ne]
  omega

end Rulebook.Text
