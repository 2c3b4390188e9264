/-
This file proves how a rule text falls into words.

The reading of a text keeps the part of a word that it has read already. What follows it
is one of three things: a character that belongs to the word, a blank that ends it, or
a quote that opens a quotation. Each has its equation here, and from these come the
equations for a run of blanks, for the end of a word, and for a run of characters in
which no quotation opens.

A quote opens a quotation only after a colon, and only if some later quote stands where a
word can end. So a run without a colon directly before a quote belongs to the word as
it is, whatever follows the run, and a whole text of this sort is read by itself if a
blank follows it.
-/
import Rulebook.Rule.Directive
import Mathlib.Data.List.Basic

namespace Rulebook

open Text

/-- No character of the text is blank. -/
def HasNoBlank (text : List Char) : Prop :=
  ∀ character ∈ text, isBlank character = false

instance (text : List Char) : Decidable (HasNoBlank text) :=
  List.decidableBAll (fun character => isBlank character = false) text

theorem HasNoBlank.nil : HasNoBlank [] :=
  List.forall_mem_nil _

theorem HasNoBlank.cons {character : Char} {text : List Char}
    (visible : isBlank character = false) (others : HasNoBlank text) :
    HasNoBlank (character :: text) :=
  List.forall_mem_cons.2 ⟨visible, others⟩

theorem HasNoBlank.append {first second : List Char} (firstNone : HasNoBlank first)
    (secondNone : HasNoBlank second) : HasNoBlank (first ++ second) :=
  List.forall_mem_append.2 ⟨firstNone, secondNone⟩

/-! ### The quote that closes a quotation -/

/-- A quotation ends at the quote behind a content in which no quote stands before a blank. -/
theorem quotation?_append {content after : List Char}
    (unbroken : ∀ next, isBlank next = true → ¬ ['\'', next] <:+: content)
    (ends : endsWord after = true) :
    quotation? (content ++ '\'' :: after) = some (content, after) := by
  induction content with
  | nil => simp [quotation?, ends]
  | cons character rest induction =>
    have later := induction fun next blank within =>
      unbroken next blank (List.infix_cons within)
    have goesOn : ¬ (character = '\'' ∧ endsWord (rest ++ '\'' :: after) = true) := by
      rintro ⟨rfl, stops⟩
      cases rest with
      | nil => exact absurd (show isBlank '\'' = true from stops) (by decide)
      | cons next more => exact unbroken next stops ⟨[], more, rfl⟩
    rw [List.cons_append, quotation?, if_neg goesOn, later]
    rfl

/-- A quotation and the quote that closes it stand at the front of the text, and a word can end
behind them. -/
theorem split_of_quotation? {text content after : List Char}
    (quoted : quotation? text = some (content, after)) :
    text = content ++ '\'' :: after ∧ endsWord after = true := by
  induction text generalizing content with
  | nil => cases quoted
  | cons character rest induction =>
    unfold quotation? at quoted
    split at quoted
    · next closes =>
      cases quoted
      exact ⟨by rw [closes.1]; rfl, closes.2⟩
    · obtain ⟨⟨inner, last⟩, found, same⟩ := Option.map_eq_some_iff.1 quoted
      cases same
      obtain ⟨restEq, ends⟩ := induction found
      exact ⟨by rw [restEq]; rfl, ends⟩

/-- There is no quotation exactly when no quote stands where a word can end. -/
theorem quotation?_eq_none_iff {text : List Char} :
    quotation? text = none ↔
      ∀ content after, text = content ++ '\'' :: after → endsWord after = false := by
  induction text with
  | nil => simp [quotation?]
  | cons character rest induction =>
    unfold quotation?
    split
    · next closes =>
      refine iff_of_false (by simp) fun never => ?_
      have ends := never [] rest (by rw [closes.1]; rfl)
      rw [closes.2] at ends
      cases ends
    · next goesOn =>
      rw [Option.map_eq_none_iff, induction]
      constructor
      · intro never content after same
        cases content with
        | nil =>
          obtain ⟨rfl, rfl⟩ := List.cons.inj same
          exact Bool.eq_false_iff.2 fun ends => goesOn ⟨rfl, ends⟩
        | cons _ more => exact never more after (List.cons.inj same).2
      · intro never content after same
        exact never (character :: content) after (by rw [same]; rfl)

/-! ### One character -/

theorem words_opening {current rest content after : List Char}
    (afterColon : current.getLast? = some ':') (quoted : quotation? rest = some (content, after)) :
    words current ('\'' :: rest) = words (current ++ content) after := by
  rw [words, if_pos ⟨rfl, afterColon⟩]
  split
  · next found =>
    rw [quoted] at found
    cases found
    rfl
  · next missing =>
    rw [quoted] at missing
    cases missing

/-- A character that is no blank and opens no quotation belongs to the word. -/
theorem words_visible {current rest : List Char} {character : Char}
    (visible : isBlank character = false)
    (ordinary : character = '\'' → current.getLast? = some ':' → quotation? rest = none) :
    words current (character :: rest) = words (current ++ [character]) rest := by
  rw [words]
  split
  · next opening =>
    have unclosed := ordinary opening.1 opening.2
    split
    · next found =>
      rw [unclosed] at found
      cases found
    · rfl
  · rw [visible, if_neg Bool.false_ne_true]

theorem words_blank {current rest : List Char} {character : Char}
    (blank : isBlank character = true) :
    words current (character :: rest) =
      if current.isEmpty then words [] rest else current :: words [] rest := by
  have noQuote : ¬ (character = '\'' ∧ current.getLast? = some ':') := by
    rintro ⟨rfl, -⟩
    exact absurd blank (by decide)
  rw [words, if_neg noQuote, if_pos blank]

theorem flatten_words_nil (current : List Char) : (words current []).flatten = current := by
  rw [words]
  split
  · next empty => exact (List.isEmpty_iff.1 empty).symm
  · exact List.append_nil current

theorem flatten_words_blank {current rest : List Char} {character : Char}
    (blank : isBlank character = true) :
    (words current (character :: rest)).flatten = current ++ (words [] rest).flatten := by
  rw [words_blank blank]
  split
  · next empty => rw [List.isEmpty_iff.1 empty, List.nil_append]
  · rfl

/-- What holds of every state of the reading holds if it passes from what is left of the text to
the whole, over a quotation, over a blank and over a character that belongs to the word. -/
@[elab_as_elim]
theorem words_induction {motive : List Char → List Char → Prop}
    (nil : ∀ current, motive current [])
    (quotation : ∀ current rest content after, current.getLast? = some ':' →
      quotation? rest = some (content, after) → motive (current ++ content) after →
        motive current ('\'' :: rest))
    (blank : ∀ current character rest, isBlank character = true → motive [] rest →
      motive current (character :: rest))
    (visible : ∀ current character rest, isBlank character = false →
      (character = '\'' → current.getLast? = some ':' → quotation? rest = none) →
        motive (current ++ [character]) rest → motive current (character :: rest))
    (current text : List Char) : motive current text := by
  induction current, text using words.induct with
  | case1 current _ => exact nil current
  | case2 current _ => exact nil current
  | case3 current _ rest opening content after quoted later =>
    obtain ⟨rfl, afterColon⟩ := opening
    exact quotation current rest content after afterColon quoted later
  | case4 current _ rest opening unclosed later =>
    obtain ⟨rfl, afterColon⟩ := opening
    exact visible current _ rest (by decide) (fun _ _ => unclosed) later
  | case5 current character rest _ isGap _ later => exact blank current character rest isGap later
  | case6 current character rest _ isGap _ later => exact blank current character rest isGap later
  | case7 current character rest noQuote isVisible later =>
    exact visible current character rest (Bool.eq_false_iff.2 isVisible)
      (fun isQuote afterColon => absurd ⟨isQuote, afterColon⟩ noQuote) later

/-! ### Runs of characters -/

/-- Blanks in front of a text belong to no word. -/
theorem words_blanks {gap : List Char} (blank : isBlankText gap = true) (text : List Char) :
    words [] (gap ++ text) = words [] text := by
  induction gap with
  | nil => rfl
  | cons character rest induction =>
    obtain ⟨isGap, others⟩ := isBlankText_cons.1 blank
    rw [List.cons_append, words_blank isGap]
    exact induction others

/-- A word is done where a word can end. -/
theorem words_of_endsWord {current rest : List Char} (nonempty : current ≠ [])
    (ends : endsWord rest = true) : words current rest = current :: words [] rest := by
  have some : current.isEmpty = false := List.isEmpty_eq_false_iff.2 nonempty
  cases rest with
  | nil => rw [words, words, some]; rfl
  | cons next more =>
    have blank : isBlank next = true := ends
    rw [words_blank blank, words_blank blank, some]
    rfl

/-- A run without blanks in which no quotation opens belongs to the word. -/
theorem words_append {current run : List Char} (rest : List Char)
    (visible : HasNoBlank run)
    (ordinary : ∀ before after, run = before ++ '\'' :: after →
      (current ++ before).getLast? = some ':' → quotation? (after ++ rest) = none) :
    words current (run ++ rest) = words (current ++ run) rest := by
  induction run generalizing current with
  | nil => rw [List.append_nil, List.nil_append]
  | cons character more induction =>
    have first := ordinary [] more
    rw [List.append_nil] at first
    rw [List.cons_append, words_visible (visible character List.mem_cons_self)
      fun isQuote => first (congrArg (· :: more) isQuote)]
    rw [induction (fun other member => visible other (List.mem_cons_of_mem _ member)),
      List.append_assoc, List.singleton_append]
    intro before after same afterColon
    rw [List.append_assoc, List.singleton_append] at afterColon
    exact ordinary (character :: before) after (by rw [same]; rfl) afterColon

/-- A run without blanks in which no quote follows a colon belongs to the word, whatever comes
next. -/
theorem words_append_of_plain {current run : List Char} (rest : List Char)
    (visible : HasNoBlank run)
    (plain : ¬ [':', '\''] <:+: current ++ run) :
    words current (run ++ rest) = words (current ++ run) rest := by
  refine words_append rest visible fun before after same afterColon => ?_
  obtain ⟨front, frontEq⟩ := List.getLast?_eq_some_iff.1 afterColon
  refine absurd ⟨front, after, ?_⟩ plain
  rw [same, ← List.append_assoc, frontEq]
  simp

/-- A text in which no quote follows a colon is read by itself, if a blank stands behind it: what
comes after the blank belongs to other words. -/
theorem words_append_blank {current first : List Char} {character : Char} (rest : List Char)
    (plain : ¬ [':', '\''] <:+: current ++ first) (blank : isBlank character = true) :
    words current (first ++ character :: rest) = words current first ++ words [] rest := by
  induction first generalizing current with
  | nil =>
    rw [List.nil_append, words_blank blank, words]
    split <;> rfl
  | cons next more induction =>
    rw [List.cons_append]
    by_cases isGap : isBlank next = true
    · have later : words [] (more ++ character :: rest) = words [] more ++ words [] rest :=
        induction fun within => plain (within.trans ⟨current ++ [next], [], by simp⟩)
      rw [words_blank isGap, words_blank isGap, later]
      split <;> rfl
    · -- A quote after the colon would be one directly after a colon in the text.
      have ordinary : next = '\'' → current.getLast? ≠ some ':' := by
        rintro rfl afterColon
        obtain ⟨front, rfl⟩ := List.getLast?_eq_some_iff.1 afterColon
        exact plain ⟨front, more, by simp⟩
      have belongs : ∀ behind,
          words current (next :: behind) = words (current ++ [next]) behind := fun behind =>
        words_visible (Bool.eq_false_iff.2 isGap) fun isQuote afterColon =>
          absurd afterColon (ordinary isQuote)
      rw [belongs, belongs]
      exact induction (by rwa [List.append_assoc, List.singleton_append])

/-! ### Words set apart by blanks -/

/-- The text consists of the words in order, with blanks around them: some or none in front and
behind, and some between each two. -/
inductive Spaced : List (List Char) → List Char → Prop where
  | blanks {gap : List Char} (blank : isBlankText gap = true) : Spaced [] gap
  /-- The blanks between two words stand in front of the second one. -/
  | word {gap first rest : List Char} {others : List (List Char)}
      (blank : isBlankText gap = true) (apart : endsWord rest = true)
      (spaced : Spaced others rest) : Spaced (first :: others) (gap ++ first ++ rest)

/-! ### The directives of the words -/

/-- A word is what its directive is written as. -/
theorem Directive.word_ofWord (token : List Char) : (Directive.ofWord token).word = token := by
  unfold Directive.ofWord
  split
  · next cut => simp [word, eq_append_of_cutFirst cut]
  · simp [word]

/-- The directives of a text are written as the words of the text. -/
theorem map_word_readRules (text : String) :
    (readRules text).map Directive.word = words [] text.toList := by
  unfold readRules
  rw [List.map_map]
  exact (List.map_congr_left fun token _ => Directive.word_ofWord token).trans (List.map_id _)

end Rulebook
