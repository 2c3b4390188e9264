/-
This file proves that a directive is read at any place of a rule text where no word is open.

What stands in front of a directive could swallow it: a quotation that is opened there ends at the
next quote that closes a word, and this may be one of the directive. `Closes` excludes just that. It
goes over a text as the reader of words does, and asks that every quote after a colon has its closing
quote within the text, and that a blank stands behind the last word. Such a text gives its own words,
and the rest of the rule text is read as if it stood alone.
-/
import Rulebook.Proofs.Rule.Spelling

namespace Rulebook

open Text

/-! ### Texts that leave no word open -/

/-- No word and no quotation is open at the end of the text, `current` being the part of a word that
stands in front of it. -/
inductive Closes : List Char → List Char → Prop where
  | nil : Closes [] []
  | quotation {current rest content after : List Char} (afterColon : current.getLast? = some ':')
      (quoted : quotation? rest = some (content, after)) (later : Closes (current ++ content) after) :
      Closes current ('\'' :: rest)
  | blank {current rest : List Char} {character : Char} (isGap : isBlank character = true)
      (later : Closes [] rest) : Closes current (character :: rest)
  | visible {current rest : List Char} {character : Char} (isVisible : isBlank character = false)
      (ordinary : character = '\'' → current.getLast? ≠ some ':')
      (later : Closes (current ++ [character]) rest) : Closes current (character :: rest)

/-- A quotation that is closed before the end of a text is closed there whatever follows. -/
theorem quotation?_append_of_ne_nil {text content after : List Char}
    (quoted : quotation? text = some (content, after)) (nonempty : after ≠ []) (rest : List Char) :
    quotation? (text ++ rest) = some (content, after ++ rest) := by
  induction text generalizing content with
  | nil => cases quoted
  | cons character more induction =>
    have sameEnd : more ≠ [] → endsWord (more ++ rest) = endsWord more := by
      intro filled
      obtain ⟨next, others, rfl⟩ := List.exists_cons_of_ne_nil filled
      rfl
    unfold quotation? at quoted
    split at quoted
    · next closes =>
      cases quoted
      rw [List.cons_append, quotation?, sameEnd nonempty, if_pos closes]
    · next goesOn =>
      obtain ⟨⟨inner, last⟩, found, same⟩ := Option.map_eq_some_iff.1 quoted
      cases same
      have filled : more ≠ [] := by
        rintro rfl
        cases found
      rw [List.cons_append, quotation?, sameEnd filled, if_neg goesOn, induction found]
      rfl

namespace Closes

variable {current text : List Char}

/-- Nothing is open where the text ends. -/
theorem eq_nil (closes : Closes current []) : current = [] := by
  cases closes
  rfl

theorem ne_nil_of_quotation {content after : List Char} (afterColon : current.getLast? = some ':')
    (later : Closes (current ++ content) after) : after ≠ [] := by
  rintro rfl
  obtain ⟨rfl, -⟩ := List.append_eq_nil_iff.1 later.eq_nil
  cases afterColon

/-- The text gives its own words, and what follows is read as if it stood alone. -/
theorem words_append (closes : Closes current text) (rest : List Char) :
    words current (text ++ rest) = words current text ++ words [] rest := by
  induction closes with
  | nil => simp [words]
  | quotation afterColon quoted later induction =>
    have nonempty := ne_nil_of_quotation afterColon later
    rw [List.cons_append, words_opening afterColon quoted,
      words_opening afterColon (quotation?_append_of_ne_nil quoted nonempty rest), induction]
  | blank isGap _ induction =>
    rw [List.cons_append, words_blank isGap, words_blank isGap, induction]
    split <;> rfl
  | visible isVisible ordinary _ induction =>
    rw [List.cons_append,
      words_visible isVisible fun isQuote afterColon => absurd afterColon (ordinary isQuote),
      words_visible isVisible fun isQuote afterColon => absurd afterColon (ordinary isQuote),
      induction]

/-- Two texts that leave nothing open make such a text. -/
theorem append {second : List Char} (closes : Closes current text)
    (secondCloses : Closes [] second) : Closes current (text ++ second) := by
  induction closes with
  | nil => exact secondCloses
  | quotation afterColon quoted later induction =>
    exact .quotation afterColon
      (quotation?_append_of_ne_nil quoted (ne_nil_of_quotation afterColon later) second) induction
  | blank isGap _ induction => exact .blank isGap induction
  | visible isVisible ordinary _ induction => exact .visible isVisible ordinary induction

end Closes

/-! ### Written directives leave nothing open -/

theorem closes_of_isBlankText {gap : List Char} (blank : isBlankText gap = true) :
    Closes [] gap := by
  induction gap with
  | nil => exact .nil
  | cons character rest induction =>
    obtain ⟨isGap, others⟩ := isBlankText_cons.1 blank
    exact .blank isGap (induction others)

/-- Blanks close every word. -/
theorem closes_of_blank {current gap : List Char} (blank : isBlankText gap = true)
    (nonempty : gap ≠ []) : Closes current gap := by
  obtain ⟨character, rest, rfl⟩ := List.exists_cons_of_ne_nil nonempty
  obtain ⟨isGap, others⟩ := isBlankText_cons.1 blank
  exact .blank isGap (closes_of_isBlankText others)

/-- A run without blanks in which no quote follows a colon opens nothing. -/
theorem closes_append_of_plain {current run rest : List Char} (visible : HasNoBlank run)
    (plain : ¬ [':', '\''] <:+: current ++ run) (later : Closes (current ++ run) rest) :
    Closes current (run ++ rest) := by
  induction run generalizing current with
  | nil => rwa [List.append_nil] at later
  | cons character more induction =>
    have assoc : current ++ character :: more = current ++ [character] ++ more := by simp
    refine .visible (visible character List.mem_cons_self) ?_ ?_
    · rintro rfl afterColon
      obtain ⟨front, rfl⟩ := List.getLast?_eq_some_iff.1 afterColon
      exact plain ⟨front, more, by simp⟩
    · rw [assoc] at plain later
      exact induction (fun other member => visible other (List.mem_cons_of_mem _ member)) plain later

/-- A written directive with blanks behind it leaves nothing open. -/
theorem Directive.Spelled.closes {directive : Directive} {spelling gap : List Char}
    (spelled : directive.Spelled spelling) (blank : isBlankText gap = true) (nonempty : gap ≠ []) :
    Closes [] (spelling ++ gap) := by
  cases spelled with
  | @plain name isName _ =>
    exact closes_append_of_plain isName.1 (not_infix_of_notMem isName.2)
      (closes_of_blank blank nonempty)
  | @bare name arguments isName visible unquoted ordinary =>
    exact closes_append_of_plain (isName.1.append (.cons (by decide) visible))
      (not_infix_of_bare isName.2 unquoted ordinary) (closes_of_blank blank nonempty)
  | @quoted name arguments isName unbroken =>
    have ends : endsWord gap = true := by
      obtain ⟨character, rest, rfl⟩ := List.exists_cons_of_ne_nil nonempty
      exact (isBlankText_cons.1 blank).1
    have opened : Closes (name.toList ++ [':']) ('\'' :: (arguments.toList ++ '\'' :: gap)) :=
      .quotation List.getLast?_concat (quotation?_append unbroken ends)
        (closes_of_blank blank nonempty)
    have whole : name.toList ++ ':' :: '\'' :: arguments.toList ++ ['\''] ++ gap =
        name.toList ++ [':'] ++ '\'' :: (arguments.toList ++ '\'' :: gap) := by simp
    rw [whole]
    refine closes_append_of_plain (isName.1.append (.cons (by decide) .nil)) ?_ opened
    exact not_infix_of_bare isName.2 (by simp) (by simp)

/-! ### Directives among others -/

/-- A written directive between two texts is read between their directives, if the first text leaves
nothing open and the second one does not go on with the directive. -/
theorem Directive.Spelled.readRules_append {directive : Directive} {spelling front back : String}
    (spelled : directive.Spelled spelling.toList) (closes : Closes [] front.toList)
    (ends : endsWord back.toList = true) :
    readRules (front ++ spelling ++ back) = readRules front ++ directive :: readRules back := by
  unfold readRules
  rw [String.toList_append, String.toList_append, List.append_assoc, closes.words_append,
    spelled.words_append ends, List.map_append, List.map_cons, Directive.ofWord_word spelled.isName]

end Rulebook
