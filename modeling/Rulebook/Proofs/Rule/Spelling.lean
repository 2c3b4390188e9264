/-
This file proves that directives are read back from every text that they can be written
as.

A directive without arguments is written as its name. Arguments stand bare after the
colon, if that is possible: they may hold no blank, may not begin with a quote, and may
hold no quote directly after a colon. Arguments in quotes may hold anything but a quote
directly before a blank; in particular blanks, colons and other quotes, also at the end.
Written words are set apart by blanks, and none of them reaches into the next one.
-/
import Rulebook.Proofs.Rule.Words

namespace Rulebook

open Text

/-- A name that a directive can be written with: without blanks and colons. -/
def IsName (name : String) : Prop :=
  HasNoBlank name.toList ∧ ':' ∉ name.toList

instance (name : String) : Decidable (IsName name) :=
  inferInstanceAs (Decidable (HasNoBlank name.toList ∧ ':' ∉ name.toList))

/-- The ways to write a directive. -/
inductive Directive.Spelled : Directive → List Char → Prop where
  | plain {name : String} (isName : IsName name) (nonempty : name ≠ "") :
      Spelled ⟨name, none⟩ name.toList
  | bare {name arguments : String} (isName : IsName name)
      (visible : HasNoBlank arguments.toList)
      (unquoted : arguments.toList.head? ≠ some '\'')
      (ordinary : ¬ [':', '\''] <:+: arguments.toList) :
      Spelled ⟨name, some arguments⟩ (name.toList ++ ':' :: arguments.toList)
  | quoted {name arguments : String} (isName : IsName name)
      (unbroken : ∀ next, isBlank next = true → ¬ ['\'', next] <:+: arguments.toList) :
      Spelled ⟨name, some arguments⟩ (name.toList ++ ':' :: '\'' :: arguments.toList ++ ['\''])

/-- Arguments without blanks and quotes can be written as they are. -/
theorem Directive.Spelled.bare_of_notMem {name arguments : String} (isName : IsName name)
    (visible : HasNoBlank arguments.toList) (unquoted : '\'' ∉ arguments.toList) :
    Spelled ⟨name, some arguments⟩ (name.toList ++ ':' :: arguments.toList) :=
  .bare isName visible (fun first => unquoted (List.mem_of_head? first))
    fun within => unquoted (within.subset (List.mem_cons_of_mem _ List.mem_cons_self))

/-- Arguments without quotes can be written in quotes. -/
theorem Directive.Spelled.quoted_of_notMem {name arguments : String} (isName : IsName name)
    (unquoted : '\'' ∉ arguments.toList) :
    Spelled ⟨name, some arguments⟩ (name.toList ++ ':' :: '\'' :: arguments.toList ++ ['\'']) :=
  .quoted isName fun _ _ within => unquoted (within.subset List.mem_cons_self)

/-! ### A word and its directive -/

/-- A directive whose name has no colon is the directive that its word is. -/
theorem Directive.ofWord_word {directive : Directive} (isName : IsName directive.name) :
    Directive.ofWord directive.word = directive := by
  obtain ⟨name, arguments?⟩ := directive
  have unmarked := isName.2
  cases arguments? with
  | none => simp [ofWord, word, cutFirst_eq_none unmarked]
  | some arguments => simp [ofWord, word, cutFirst_append unmarked]

theorem Directive.Spelled.isName {directive : Directive} {spelling : List Char}
    (spelled : directive.Spelled spelling) : IsName directive.name := by
  cases spelled with
  | plain isName _ => exact isName
  | bare isName _ _ _ => exact isName
  | quoted isName _ => exact isName

/-! ### One written word -/

/-- No quote follows a colon in a text without colons. -/
theorem not_infix_of_notMem {text : List Char} (unmarked : ':' ∉ text) :
    ¬ [':', '\''] <:+: text :=
  fun within => unmarked (within.subset List.mem_cons_self)

/-- A name and bare arguments hold no quote directly after a colon. -/
theorem not_infix_of_bare {name arguments : List Char} (unmarked : ':' ∉ name)
    (unquoted : arguments.head? ≠ some '\'') (ordinary : ¬ [':', '\''] <:+: arguments) :
    ¬ [':', '\''] <:+: name ++ ':' :: arguments := by
  induction name with
  | nil =>
    intro within
    rcases List.infix_cons_iff.1 within with atFront | later
    · obtain ⟨after, same⟩ := atFront
      refine unquoted ?_
      rw [← (List.cons.inj same).2]
      rfl
    · exact ordinary later
  | cons character rest induction =>
    obtain ⟨different, unmarkedRest⟩ := List.ne_and_not_mem_of_not_mem_cons unmarked
    intro within
    rcases List.infix_cons_iff.1 within with atFront | later
    · obtain ⟨after, same⟩ := atFront
      exact different (List.cons.inj same).1
    · exact induction unmarkedRest later

/-- A written directive is read as its word, and nothing behind it belongs to the word. -/
theorem Directive.Spelled.words_append {directive : Directive} {spelling rest : List Char}
    (spelled : directive.Spelled spelling) (ends : endsWord rest = true) :
    words [] (spelling ++ rest) = directive.word :: words [] rest := by
  cases spelled with
  | @plain name isName nonempty =>
    rw [words_append_of_plain rest isName.1 (not_infix_of_notMem isName.2)]
    refine words_of_endsWord ?_ ends
    simpa using nonempty
  | @bare name arguments isName visible unquoted ordinary =>
    have allVisible : HasNoBlank (name.toList ++ ':' :: arguments.toList) :=
      isName.1.append (.cons (by decide) visible)
    rw [words_append_of_plain rest allVisible (not_infix_of_bare isName.2 unquoted ordinary)]
    exact words_of_endsWord (by simp) ends
  | @quoted name arguments isName unbroken =>
    have opened : words [] (name.toList ++ [':'] ++ '\'' :: (arguments.toList ++ '\'' :: rest)) =
        words (name.toList ++ [':']) ('\'' :: (arguments.toList ++ '\'' :: rest)) := by
      refine words_append_of_plain _ (isName.1.append (.cons (by decide) .nil)) ?_
      exact not_infix_of_bare isName.2 (by simp) (by simp)
    have content : words (name.toList ++ [':']) ('\'' :: (arguments.toList ++ '\'' :: rest)) =
        words (name.toList ++ [':'] ++ arguments.toList) rest :=
      words_opening List.getLast?_concat (quotation?_append unbroken ends)
    calc words [] (name.toList ++ ':' :: '\'' :: arguments.toList ++ ['\''] ++ rest)
        = words [] (name.toList ++ [':'] ++ '\'' :: (arguments.toList ++ '\'' :: rest)) := by simp
      _ = words (name.toList ++ [':'] ++ arguments.toList) rest := opened.trans content
      _ = (name.toList ++ [':'] ++ arguments.toList) :: words [] rest :=
          words_of_endsWord (by simp) ends
      _ = _ := by simp [word]

/-! ### The whole text -/

/-- The words of written directives that are set apart by blanks make these directives. -/
theorem map_words_of_spelled {directives : List Directive} {spellings : List (List Char)}
    {text : List Char} (spaced : Spaced spellings text)
    (spelled : List.Forall₂ Directive.Spelled directives spellings) :
    (words [] text).map Directive.ofWord = directives := by
  induction spaced generalizing directives with
  | @blanks gap blank =>
    cases spelled
    rw [← List.append_nil gap, words_blanks blank, words]
    rfl
  | word blank apart _ induction =>
    cases spelled with
    | cons firstSpelled othersSpelled =>
      rw [List.append_assoc, words_blanks blank, firstSpelled.words_append apart, List.map_cons,
        Directive.ofWord_word firstSpelled.isName, induction othersSpelled]

/-- A text that is a written directive is read as this one directive. -/
theorem Directive.Spelled.readRules_eq {directive : Directive} {text : String}
    (spelled : directive.Spelled text.toList) : readRules text = [directive] := by
  have spaced : Spaced [text.toList] ([] ++ text.toList ++ []) := .word rfl rfl (.blanks rfl)
  rw [List.nil_append, List.append_nil] at spaced
  exact map_words_of_spelled spaced (.cons spelled .nil)

/-- Written directives that are set apart by blanks are read back, in order, each with its
arguments and with its name, which alone decides on its keyword. -/
theorem readRules_of_spelled {directives : List Directive} {spellings : List (List Char)}
    {text : String} (spelled : List.Forall₂ Directive.Spelled directives spellings)
    (spaced : Spaced spellings text.toList) : readRules text = directives :=
  map_words_of_spelled spaced spelled

/-- Bare arguments with a quote inside, quoted ones with blanks, colons and quotes, the last of
them at the end, and a name with a quote in front. -/
theorem readRules_of_spelled_list :
    let bare := "match:^it's$".toList
    let quoted := "enum:' a:'b, 'c''".toList
    let plain := "'tis".toList
    let directives : List Directive := [⟨"match", some "^it's$"⟩,
      ⟨"enum", some " a:'b, 'c'"⟩, ⟨"'tis", none⟩]
    let text := "\t match:^it's$\n enum:' a:'b, 'c'' 'tis "
    List.Forall₂ Directive.Spelled directives [bare, quoted, plain] ∧
      Spaced [bare, quoted, plain] text.toList ∧ readRules text = directives := by
  intro bare quoted plain directives text
  have spelled : List.Forall₂ Directive.Spelled directives [bare, quoted, plain] := by
    refine .cons ?bare (.cons ?quoted (.cons ?plain .nil))
    case bare => exact .bare (by decide) (by decide) (by decide) (not_infix_of_notMem (by decide))
    case quoted =>
      refine @Directive.Spelled.quoted "enum" " a:'b, 'c'" (by decide) fun next blank within => ?_
      have letter : next = 'b' ∨ next = 'c' := by
        simpa [List.infix_cons_iff] using within
      rcases letter with rfl | rfl <;> exact absurd blank (by decide)
    case plain => exact .plain (by decide) (by decide)
  have laidOut : text.toList =
      "\t ".toList ++ bare ++ ("\n ".toList ++ quoted ++ (" ".toList ++ plain ++ " ".toList)) := by
    decide
  have spaced : Spaced [bare, quoted, plain] text.toList := by
    rw [laidOut]
    exact .word (by decide) (by decide) (.word (by decide) (by decide)
      (.word (by decide) (by decide) (.blanks (by decide))))
  exact ⟨spelled, spaced, readRules_of_spelled spelled spaced⟩

end Rulebook
