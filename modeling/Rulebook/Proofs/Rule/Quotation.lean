/-
This file proves when the words of a rule text are the words that stand in it.

They are so exactly when no quotation opens in the text. A quotation opens at a quote
directly after a colon if some later quote stands where a word can end, be it the colon
that divides a name from its arguments or a later one. So a pattern that holds a colon
and a quote keeps its quotes only as long as none of the quotes behind ends a word.

That a quotation which opens is never without effect is seen by counting: no quote is
ever added to the words, and a quotation loses two.
-/
import Rulebook.Proofs.Rule.Words

namespace Rulebook

open Text

/-- In the text a quote stands directly after a colon, and a later quote where a word can end. -/
def OpensQuotation (text : List Char) : Prop :=
  ∃ before content after,
    text = before ++ ':' :: '\'' :: (content ++ '\'' :: after) ∧ endsWord after = true

theorem OpensQuotation.append_left {text : List Char} (opens : OpensQuotation text)
    (front : List Char) : OpensQuotation (front ++ text) := by
  obtain ⟨before, content, after, rfl, ends⟩ := opens
  exact ⟨front ++ before, content, after, by rw [List.append_assoc], ends⟩

/-- Where no quotation opens, nothing closes behind a quote after a colon. -/
theorem quotation?_eq_none_of_not_opens {before rest : List Char}
    (never : ¬ OpensQuotation (before ++ '\'' :: rest)) (afterColon : before.getLast? = some ':') :
    quotation? rest = none := by
  obtain ⟨front, rfl⟩ := List.getLast?_eq_some_iff.1 afterColon
  refine quotation?_eq_none_iff.2 fun content after same => Bool.eq_false_iff.2 fun ends => ?_
  exact never ⟨front, content, after, by simp [same], ends⟩

/-! ### Texts in which no quotation opens -/

/-- A word that stands in the text, without blanks in it. -/
def IsVisible (word : List Char) : Prop :=
  word ≠ [] ∧ HasNoBlank word

instance (word : List Char) : Decidable (IsVisible word) :=
  inferInstanceAs (Decidable (word ≠ [] ∧ HasNoBlank word))

/-- Where no quotation opens, the words are those that stand in the text. -/
theorem words_of_spaced {tokens : List (List Char)} {text : List Char}
    (spaced : Spaced tokens text) (visible : ∀ token ∈ tokens, IsVisible token)
    (never : ¬ OpensQuotation text) : words [] text = tokens := by
  induction spaced with
  | @blanks gap blank =>
    rw [← List.append_nil gap, words_blanks blank, words]
    rfl
  | @word gap first rest others blank apart _ induction =>
    obtain ⟨firstVisible, othersVisible⟩ := List.forall_mem_cons.1 visible
    have neverLater : ¬ OpensQuotation rest := fun opens => never (opens.append_left _)
    have read : words [] (first ++ rest) = words first rest := by
      refine words_append rest firstVisible.2 fun before after same afterColon => ?_
      refine quotation?_eq_none_of_not_opens (fun opens => never ?_) afterColon
      rw [List.append_assoc, same, List.append_assoc]
      exact opens.append_left gap
    rw [List.append_assoc, words_blanks blank, read, words_of_endsWord firstVisible.1 apart,
      induction othersVisible neverLater]

/-! ### Counting quotes -/

/-- The words hold no more quotes than the text. -/
theorem count_words_le (current text : List Char) :
    (words current text).flatten.count '\'' ≤ current.count '\'' + text.count '\'' := by
  induction current, text using words_induction with
  | nil current =>
    rw [flatten_words_nil]
    exact Nat.le_add_right _ _
  | quotation current rest content after afterColon quoted later =>
    rw [words_opening afterColon quoted]
    rw [(split_of_quotation? quoted).1]
    simp only [List.count_append, List.count_cons_self] at later ⊢
    omega
  | blank current character rest isGap later =>
    rw [flatten_words_blank isGap, List.count_append]
    have more := List.count_le_count_cons (a := '\'') (b := character) (l := rest)
    rw [List.count_nil, Nat.zero_add] at later
    omega
  | visible current character rest isVisible ordinary later =>
    rw [words_visible isVisible ordinary]
    rw [List.count_append, Nat.add_assoc, ← List.count_append] at later
    exact later

/-- They hold fewer when a quotation opens further on in the text. -/
theorem count_words_lt {current text before behind : List Char}
    (same : text = before ++ '\'' :: behind) (afterColon : (current ++ before).getLast? = some ':')
    (closes : quotation? behind ≠ none) :
    (words current text).flatten.count '\'' < current.count '\'' + text.count '\'' := by
  induction current, text using words_induction generalizing before with
  | nil current => simp at same
  | quotation current rest content after opening quoted _ =>
    -- This quotation loses two quotes, whichever one was meant.
    have most := count_words_le (current ++ content) after
    rw [words_opening opening quoted, (split_of_quotation? quoted).1]
    simp only [List.count_append, List.count_cons_self] at most ⊢
    omega
  | blank current character rest isGap later =>
    cases before with
    | nil =>
      obtain ⟨rfl, -⟩ := List.cons.inj same
      exact absurd isGap (by decide)
    | cons next more =>
      obtain ⟨rfl, sameRest⟩ := List.cons.inj same
      have afterColonRest : ([] ++ more).getLast? = some ':' := by
        cases more with
        | nil =>
          rw [List.getLast?_concat] at afterColon
          cases afterColon
          exact absurd isGap (by decide)
        | cons _ _ => simpa [List.getLast?_append] using afterColon
      have fewer := later sameRest afterColonRest
      have shorter := List.count_le_count_cons (a := '\'') (b := character) (l := rest)
      rw [flatten_words_blank isGap, List.count_append]
      rw [List.count_nil, Nat.zero_add] at fewer
      omega
  | visible current character rest isVisible ordinary later =>
    rw [words_visible isVisible ordinary]
    cases before with
    | nil =>
      obtain ⟨rfl, rfl⟩ := List.cons.inj same
      rw [List.append_nil] at afterColon
      exact absurd (ordinary rfl afterColon) closes
    | cons next more =>
      obtain ⟨rfl, sameRest⟩ := List.cons.inj same
      have fewer := later sameRest (by rwa [List.append_assoc, List.singleton_append])
      rw [List.count_append, Nat.add_assoc, ← List.count_append] at fewer
      exact fewer

theorem count_of_isBlankText {gap : List Char} (blank : isBlankText gap = true) :
    gap.count '\'' = 0 :=
  List.count_eq_zero.2 fun member => absurd (List.all_eq_true.1 blank _ member) (by decide)

/-- The blanks between words are no quotes. -/
theorem Spaced.count_flatten {tokens : List (List Char)} {text : List Char}
    (spaced : Spaced tokens text) : tokens.flatten.count '\'' = text.count '\'' := by
  induction spaced with
  | blanks blank => exact (count_of_isBlankText blank).symm
  | word blank _ _ induction =>
    simp only [List.flatten_cons, List.count_append, count_of_isBlankText blank, induction,
      Nat.zero_add]

/-! ### The exact condition -/

/-- The words of a text without blanks in them are each read as one directive, which is written as
that word, exactly when no quotation opens in the text. -/
theorem map_word_readRules_eq_iff {tokens : List (List Char)} {text : String}
    (spaced : Spaced tokens text.toList) (visible : ∀ token ∈ tokens, IsVisible token) :
    (readRules text).map Directive.word = tokens ↔ ¬ OpensQuotation text.toList := by
  rw [map_word_readRules]
  constructor
  · rintro same ⟨before, content, after, textEq, ends⟩
    have closes : quotation? (content ++ '\'' :: after) ≠ none := fun missing =>
      Bool.eq_false_iff.1 (quotation?_eq_none_iff.1 missing content after rfl) ends
    have split : text.toList = (before ++ [':']) ++ '\'' :: (content ++ '\'' :: after) := by
      rw [textEq, List.append_assoc, List.singleton_append]
    have afterColon : ([] ++ (before ++ [':'])).getLast? = some ':' := List.getLast?_concat
    have fewer := count_words_lt split afterColon closes
    rw [same, spaced.count_flatten, List.count_nil, Nat.zero_add] at fewer
    exact Nat.lt_irrefl _ fewer
  · exact words_of_spaced spaced visible

/-- A quote after a later colon is kept where no quote behind it ends a word. -/
theorem map_word_readRules_unclosed :
    let first := "match:^key:'[a-z]+$".toList
    let second := "enum:it's,ok".toList
    let tokens := [first, second]
    let text := "match:^key:'[a-z]+$\tenum:it's,ok "
    Spaced tokens text.toList ∧ (∀ token ∈ tokens, IsVisible token) ∧
      (readRules text).map Directive.word = tokens ∧ ¬ OpensQuotation text.toList := by
  intro first second tokens text
  have laidOut : text.toList = [] ++ first ++ ("\t".toList ++ second ++ " ".toList) := by decide
  have spaced : Spaced tokens text.toList := by
    rw [laidOut]
    exact .word (by decide) (by decide) (.word (by decide) (by decide) (.blanks (by decide)))
  have visible : ∀ token ∈ tokens, IsVisible token :=
    List.forall_mem_cons.2 ⟨by decide, List.forall_mem_singleton.2 (by decide)⟩
  have read : (readRules text).map Directive.word = tokens := by decide +kernel
  exact ⟨spaced, visible, read, (map_word_readRules_eq_iff spaced visible).1 read⟩

/-- A pattern with a quote after its second colon, whose arguments do not begin with a quote, loses
both of its quotes. -/
theorem readRules_drops_quotes :
    let text := "match:^key:'[a-z]+'"
    Spaced [text.toList] text.toList ∧ IsVisible text.toList ∧
      (Directive.ofWord text.toList).arguments.head? ≠ some '\'' ∧
      readRules text = [⟨"match", some "^key:[a-z]+"⟩] ∧
      (readRules text).map Directive.word ≠ [text.toList] := by
  intro text
  have spaced : Spaced [text.toList] ([] ++ text.toList ++ []) :=
    .word (by decide) (by decide) (.blanks (by decide))
  rw [List.nil_append, List.append_nil] at spaced
  exact ⟨spaced, by decide, by decide, by decide +kernel, by decide +kernel⟩

end Rulebook
