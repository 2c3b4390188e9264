/-
This file proves that the reading of a rule text loses nothing but blanks and the quotes of
quotations, and adds nothing.

Every word has a stretch of the text to itself. It stands there as it is, or with a
quotation at its end, whose two quotes the word does not have; a quotation is always the end
of its word. The stretches come in the order of the words, and only blanks are between
them. Whatever is to be known about the text as a whole is then a sum over the stretches:
the characters that are neither blanks nor quotes are those of the words, and each word
accounts for no missing quote or for two. Where no quote stands at the end of a stretch,
no quotation was closed, and the words are those that the blanks leave.
-/
import Rulebook.Proofs.Rule.Quotation

namespace Rulebook

open Text

/-! ### The stretch of a word -/

/-- How a word stands in the text. -/
inductive StandsAs : List Char → List Char → Prop where
  | plain {word : List Char} (visible : IsVisible word) : StandsAs word word
  /-- The word ends in a quotation, and its part before that ends in a colon. -/
  | quoted {front content : List Char} (visible : HasNoBlank front)
      (afterColon : front.getLast? = some ':') :
      StandsAs (front ++ content) (front ++ '\'' :: content ++ ['\''])

theorem StandsAs.ne_nil {token stretch : List Char} (stands : StandsAs token stretch) :
    token ≠ [] := by
  cases stands with
  | plain visible => exact visible.1
  | quoted _ afterColon =>
    rintro empty
    rw [(List.append_eq_nil_iff.1 empty).1] at afterColon
    cases afterColon

/-- The words stand in the text in this order, and there are only blanks besides. -/
def StandIn (tokens : List (List Char)) (text : List Char) : Prop :=
  ∃ stretches, Spaced stretches text ∧ List.Forall₂ StandsAs tokens stretches

theorem StandIn.nil : StandIn [] [] :=
  ⟨[], .blanks rfl, .nil⟩

theorem StandIn.word {token stretch rest : List Char} {tokens : List (List Char)}
    (stands : StandsAs token stretch) (ends : endsWord rest = true) (others : StandIn tokens rest) :
    StandIn (token :: tokens) (stretch ++ rest) := by
  obtain ⟨stretches, spaced, each⟩ := others
  have laidOut : Spaced (stretch :: stretches) ([] ++ stretch ++ rest) := .word rfl ends spaced
  exact ⟨stretch :: stretches, laidOut, .cons stands each⟩

/-- A blank in front belongs to no stretch. -/
theorem StandIn.blank {character : Char} {rest : List Char} {tokens : List (List Char)}
    (blank : isBlank character = true) (others : StandIn tokens rest) :
    StandIn tokens (character :: rest) := by
  obtain ⟨stretches, spaced, each⟩ := others
  refine ⟨stretches, ?_, each⟩
  cases spaced with
  | blanks gapBlank => exact .blanks (isBlankText_cons.2 ⟨blank, gapBlank⟩)
  | word gapBlank apart later => exact .word (isBlankText_cons.2 ⟨blank, gapBlank⟩) apart later

/-- A word that is done stands in front of the words that follow it. -/
theorem standIn_words_of_standsAs {current stretch rest : List Char}
    (stands : StandsAs current stretch) (ends : endsWord rest = true)
    (others : StandIn (words [] rest) rest) : StandIn (words current rest) (stretch ++ rest) := by
  rw [words_of_endsWord stands.ne_nil ends]
  exact .word stands ends others

/-- The words that are read stand in the text. What has been read of a word before stands in front
of the text as it is; behind a quotation, where a word can end, reading begins anew. -/
theorem standIn_words (current text : List Char) :
    (HasNoBlank current → StandIn (words current text) (current ++ text)) ∧
      (endsWord text = true → StandIn (words [] text) text) := by
  induction current, text using words_induction with
  | nil current =>
    have done : StandIn (words [] []) [] := by
      rw [words]
      exact .nil
    refine ⟨fun visible => ?_, fun _ => done⟩
    by_cases empty : current = []
    · rw [empty]
      exact done
    · exact standIn_words_of_standsAs (.plain ⟨empty, visible⟩) rfl done
  | quotation current rest content after afterColon quoted later =>
    refine ⟨fun visible => ?_, fun ends => absurd (show isBlank '\'' = true from ends) (by decide)⟩
    obtain ⟨split, ends⟩ := split_of_quotation? quoted
    have stands : StandsAs (current ++ content) (current ++ '\'' :: content ++ ['\'']) :=
      .quoted visible afterColon
    rw [words_opening afterColon quoted, split]
    simpa using standIn_words_of_standsAs stands ends (later.2 ends)
  | blank current character rest isGap later =>
    have behind : StandIn (words [] (character :: rest)) (character :: rest) := by
      rw [words_blank isGap]
      exact .blank isGap (later.1 .nil)
    refine ⟨fun visible => ?_, fun _ => behind⟩
    by_cases empty : current = []
    · rw [empty]
      exact behind
    · exact standIn_words_of_standsAs (.plain ⟨empty, visible⟩) isGap behind
  | visible current character rest isVisible ordinary later =>
    refine ⟨fun visible => ?_, fun ends => absurd ends (by simp [endsWord, isVisible])⟩
    have longer := later.1 (visible.append (.cons isVisible .nil))
    rw [words_visible isVisible ordinary]
    rwa [List.append_assoc, List.singleton_append] at longer

/-! ### Sums over the stretches -/

/-- Whether a character is neither a blank nor a quote. -/
def isSolid (character : Char) : Bool :=
  !isBlank character && character ≠ '\''

theorem filter_isSolid_of_isBlankText {gap : List Char} (blank : isBlankText gap = true) :
    gap.filter isSolid = [] := by
  refine List.filter_eq_nil_iff.2 fun character member => ?_
  simp [isSolid, List.all_eq_true.1 blank character member]

/-- The blanks between words are not solid. -/
theorem Spaced.filter_flatten {tokens : List (List Char)} {text : List Char}
    (spaced : Spaced tokens text) : tokens.flatten.filter isSolid = text.filter isSolid := by
  induction spaced with
  | blanks blank => exact (filter_isSolid_of_isBlankText blank).symm
  | word blank _ _ induction =>
    rw [List.flatten_cons, List.filter_append, List.filter_append, List.filter_append,
      filter_isSolid_of_isBlankText blank, induction, List.nil_append]

theorem StandsAs.filter_eq {token stretch : List Char} (stands : StandsAs token stretch) :
    token.filter isSolid = stretch.filter isSolid := by
  cases stands with
  | plain _ => rfl
  | quoted _ _ => simp [isSolid]

/-- A word lacks none of the quotes of its stretch, or two. -/
theorem StandsAs.count_eq {token stretch : List Char} (stands : StandsAs token stretch) :
    stretch.count '\'' = token.count '\'' ∨ stretch.count '\'' = token.count '\'' + 2 := by
  cases stands with
  | plain _ => exact .inl rfl
  | quoted _ _ =>
    refine .inr ?_
    simp only [List.count_append, List.count_cons_self, List.count_nil]
    omega

variable {tokens stretches : List (List Char)}

theorem ne_nil_of_standsAs (each : List.Forall₂ StandsAs tokens stretches) :
    ∀ token ∈ tokens, token ≠ [] := by
  induction each with
  | nil => exact List.forall_mem_nil _
  | cons stands _ induction => exact List.forall_mem_cons.2 ⟨stands.ne_nil, induction⟩

theorem filter_flatten_of_standsAs (each : List.Forall₂ StandsAs tokens stretches) :
    tokens.flatten.filter isSolid = stretches.flatten.filter isSolid := by
  induction each with
  | nil => rfl
  | cons stands _ induction =>
    rw [List.flatten_cons, List.flatten_cons, List.filter_append, List.filter_append,
      stands.filter_eq, induction]

theorem count_flatten_of_standsAs (each : List.Forall₂ StandsAs tokens stretches) :
    ∃ quotations ≤ tokens.length,
      stretches.flatten.count '\'' = tokens.flatten.count '\'' + 2 * quotations := by
  induction each with
  | nil => exact ⟨0, Nat.le_refl _, rfl⟩
  | cons stands _ induction =>
    obtain ⟨quotations, most, same⟩ := induction
    simp only [List.flatten_cons, List.count_append, List.length_cons, same]
    rcases stands.count_eq with equal | more
    · exact ⟨quotations, Nat.le_succ_of_le most, by omega⟩
    · exact ⟨quotations + 1, Nat.succ_le_succ most, by omega⟩

/-! ### Texts in which no quotation is closed -/

/-- What the blanks of a text leave: its longest stretches without a blank. -/
def visibleWords (text : List Char) : List (List Char) :=
  (text.splitOnP isBlank).filter fun piece => !piece.isEmpty

/-- A blank divides a text. -/
theorem visibleWords_append_blank (first rest : List Char) {character : Char}
    (blank : isBlank character = true) :
    visibleWords (first ++ character :: rest) = visibleWords first ++ visibleWords rest := by
  unfold visibleWords
  rw [List.splitOnP_append_cons first rest blank, List.filter_append]

theorem visibleWords_nil : visibleWords [] = [] :=
  rfl

theorem visibleWords_cons_blank (rest : List Char) {character : Char}
    (blank : isBlank character = true) : visibleWords (character :: rest) = visibleWords rest :=
  visibleWords_append_blank [] rest blank

theorem visibleWords_blanks {gap : List Char} (blank : isBlankText gap = true)
    (text : List Char) : visibleWords (gap ++ text) = visibleWords text := by
  induction gap with
  | nil => rfl
  | cons character rest induction =>
    obtain ⟨isGap, others⟩ := isBlankText_cons.1 blank
    rw [List.cons_append, visibleWords_cons_blank _ isGap]
    exact induction others

theorem visibleWords_of_isVisible {token : List Char} (visible : IsVisible token) :
    visibleWords token = [token] := by
  unfold visibleWords
  rw [List.splitOnP_eq_singleton visible.2]
  simp [visible.1]

/-- Words without blanks that are set apart by blanks are what the blanks leave. -/
theorem Spaced.visibleWords_eq {text : List Char} (spaced : Spaced tokens text)
    (visible : ∀ token ∈ tokens, IsVisible token) : visibleWords text = tokens := by
  induction spaced with
  | @blanks gap blank =>
    rw [← List.append_nil gap, visibleWords_blanks blank, visibleWords_nil]
  | @word gap first rest others blank apart _ induction =>
    obtain ⟨firstVisible, othersVisible⟩ := List.forall_mem_cons.1 visible
    rw [List.append_assoc, visibleWords_blanks blank, ← induction othersVisible]
    cases rest with
    | nil => rw [List.append_nil, visibleWords_of_isVisible firstVisible, visibleWords_nil]
    | cons next more =>
      rw [visibleWords_append_blank first more apart, visibleWords_cons_blank more apart,
        visibleWords_of_isVisible firstVisible]
      rfl

/-- No quote stands where a word can end. -/
def ClosesNowhere (text : List Char) : Prop :=
  ∀ before after, text = before ++ '\'' :: after → endsWord after = false

theorem ClosesNowhere.of_append {front text : List Char}
    (unclosed : ClosesNowhere (front ++ text)) : ClosesNowhere text := fun before after same =>
  unclosed (front ++ before) after (by rw [same, List.append_assoc])

/-- Where no quotation is closed, every word stands as it is. -/
theorem Spaced.eq_of_closesNowhere {text : List Char} (spaced : Spaced stretches text)
    (each : List.Forall₂ StandsAs tokens stretches) (unclosed : ClosesNowhere text) :
    tokens = stretches ∧ ∀ token ∈ tokens, IsVisible token := by
  induction spaced generalizing tokens with
  | blanks _ =>
    cases each
    exact ⟨rfl, List.forall_mem_nil _⟩
  | @word gap first rest others _ apart _ induction =>
    cases each with
    | cons stands later =>
      obtain ⟨rfl, othersVisible⟩ := induction later unclosed.of_append
      cases stands with
      | plain visible => exact ⟨rfl, List.forall_mem_cons.2 ⟨visible, othersVisible⟩⟩
      | @quoted front content _ _ =>
        have closing := unclosed (gap ++ (front ++ '\'' :: content)) rest (by simp)
        rw [apart] at closing
        cases closing

/-! ### The whole text -/

/-- The directives of a text account for the whole of it. Each is written as something, and stands
in the text as it is written, or with a quotation at its end that is dropped. Together they are
written with the solid characters of the text, in order, and the quotes that are missing come in
pairs, at most one for each directive. Where no quote stands before a blank or at the end, the
directives are written as the words that the blanks leave. -/
theorem readRules_accounts_for_text (text : String) :
    let written := (readRules text).map Directive.word
    (∀ word ∈ written, word ≠ []) ∧ StandIn written text.toList ∧
      written.flatten.filter isSolid = text.toList.filter isSolid ∧
      (∃ quotations ≤ (readRules text).length,
        text.toList.count '\'' = written.flatten.count '\'' + 2 * quotations) ∧
      (ClosesNowhere text.toList → written = visibleWords text.toList) := by
  intro written
  obtain ⟨stretches, spaced, each⟩ : StandIn written text.toList := by
    show StandIn ((readRules text).map Directive.word) text.toList
    rw [map_word_readRules]
    exact (standIn_words [] text.toList).1 .nil
  refine ⟨ne_nil_of_standsAs each, ⟨stretches, spaced, each⟩, ?solid, ?quotes, fun unclosed => ?_⟩
  case solid => rw [filter_flatten_of_standsAs each, spaced.filter_flatten]
  case quotes =>
    have counted := count_flatten_of_standsAs each
    rwa [spaced.count_flatten, List.length_map] at counted
  obtain ⟨same, visible⟩ := spaced.eq_of_closesNowhere each unclosed
  rw [← same] at spaced
  exact (spaced.visibleWords_eq visible).symm

/-- Quotes after colons, at the end of no word: they are all kept, and the blanks alone divide the
text. -/
theorem readRules_accounts_for_unclosed :
    let text := " enum:'x y'z\tmatch:'':b "
    ClosesNowhere text.toList ∧
      (readRules text).map Directive.word = visibleWords text.toList ∧
      visibleWords text.toList = ["enum:'x".toList, "y'z".toList, "match:'':b".toList] := by
  intro text
  have unclosed : ClosesNowhere text.toList := quotation?_eq_none_iff.1 (by decide)
  obtain ⟨_, _, _, _, divided⟩ := readRules_accounts_for_text text
  exact ⟨unclosed, divided unclosed, by decide⟩

end Rulebook
