/-
This file proves what the three words of the rule about looks stand for.

An address and a telephone number are patterns, and the search decides whether they occur in a text.
What they match can be said without patterns, since both are anchored at both ends and are made of
runs of characters: the text as a whole is cut into runs of the right length. Where an address is
cut is not fixed by this. Points and hyphens may stand on both sides of the last point, but it is
enough that there is some cut. The patterns that are read from what is written for the two words
match the same texts. A password is weak for the sorts of characters that it lacks.
-/
import Rulebook.Proofs.Enforcement.Single
import Rulebook.Proofs.Pattern.Search
import Rulebook.Proofs.Rule.Spelling

namespace Rulebook

/-! ### Runs and whole texts -/

namespace Pattern

variable {set : CharSet} {before stretch after : List Char} {least : Nat} {most : Option Nat}

theorem Rounds.of_one {count : Nat} (rounds : Rounds (.one set) count before stretch after) :
    stretch.length = count ∧ ∀ character ∈ stretch, set.contains character = true := by
  induction rounds with
  | none _ _ => exact ⟨rfl, List.forall_mem_nil _⟩
  | next one _ induction =>
    obtain ⟨character, rfl, member⟩ := matches_one_iff.1 one
    obtain ⟨rfl, all⟩ := induction
    exact ⟨rfl, List.forall_mem_cons.2 ⟨member, all⟩⟩

theorem rounds_one (all : ∀ character ∈ stretch, set.contains character = true)
    (before after : List Char) : Rounds (.one set) stretch.length before stretch after := by
  induction stretch generalizing before with
  | nil => exact .none before after
  | cons character stretch induction =>
    obtain ⟨member, others⟩ := List.forall_mem_cons.1 all
    exact .next (.one before _ member) (induction others (before ++ [character]))

/-- A run matches stretches of an admitted length that hold only characters of the set. -/
theorem matches_run_iff :
    Matches (run set least most) before stretch after ↔
      least ≤ stretch.length ∧ Admits most stretch.length ∧
        ∀ character ∈ stretch, set.contains character = true := by
  unfold run
  rw [matches_repeated_iff]
  constructor
  · rintro ⟨count, enough, admitted, rounds⟩
    obtain ⟨rfl, all⟩ := rounds.of_one
    exact ⟨enough, admitted, all⟩
  · rintro ⟨enough, admitted, all⟩
    exact ⟨_, enough, admitted, rounds_one all before after⟩

/-- A pattern that is anchored at both ends matches the whole text or nothing. -/
theorem occursIn_whole_iff {inner : Pattern} {text : List Char} :
    OccursIn (whole inner) text ↔ Matches inner [] text [] := by
  unfold OccursIn whole
  simp only [matches_sequence_iff, matches_look_iff]
  constructor
  · rintro ⟨before, _, after, rfl, _, _, rfl, ⟨rfl, first⟩, matched, _, rfl, one, rfl, last⟩
    obtain rfl : before = [] := List.getLast?_eq_none_iff.1 (Option.isNone_iff_eq_none.1 first)
    obtain rfl : after = [] := List.head?_eq_none_iff.1 (Option.isNone_iff_eq_none.1 last)
    simpa using one
  · intro matched
    exact ⟨[], text, [], by simp, [], text, rfl, ⟨rfl, rfl⟩, text, [], by simp, matched, rfl, rfl⟩

/-! ### Patterns in a row -/

/-- Patterns one after another, as they are read from a text. -/
def row (parts : List Pattern) : Pattern :=
  parts.foldr sequence empty

theorem matches_sequence_congr {first second other : Pattern}
    (same : ∀ before stretch after,
      Matches second before stretch after ↔ Matches other before stretch after) :
    Matches (.sequence first second) before stretch after ↔
      Matches (.sequence first other) before stretch after := by
  simp only [matches_sequence_iff, same]

theorem matches_row_singleton_iff {part : Pattern} :
    Matches (row [part]) before stretch after ↔ Matches part before stretch after := by
  show Matches (.sequence part .empty) before stretch after ↔ _
  rw [matches_sequence_iff]
  simp only [matches_empty_iff]
  constructor
  · rintro ⟨left, _, rfl, matched, rfl⟩
    simpa using matched
  · intro matched
    exact ⟨stretch, [], (List.append_nil stretch).symm, matched, rfl⟩

theorem matches_row_append_iff {first second : List Pattern} :
    Matches (row (first ++ second)) before stretch after ↔
      Matches (.sequence (row first) (row second)) before stretch after := by
  rw [matches_sequence_iff]
  induction first generalizing before stretch with
  | nil =>
    simp only [row, List.foldr_nil, matches_empty_iff]
    constructor
    · intro matched
      exact ⟨[], stretch, rfl, rfl, by rwa [List.append_nil]⟩
    · rintro ⟨_, right, rfl, rfl, matched⟩
      rwa [List.append_nil] at matched
  | cons part others induction =>
    show Matches (.sequence part (row (others ++ second))) before stretch after ↔
      ∃ left right, stretch = left ++ right ∧
        Matches (.sequence part (row others)) before left (right ++ after) ∧ _
    simp only [matches_sequence_iff, induction]
    constructor
    · rintro ⟨left, _, rfl, one, middle, right, rfl, two, three⟩
      exact ⟨left ++ middle, right, by simp, ⟨left, middle, rfl, by simpa using one, two⟩,
        by simpa using three⟩
    · rintro ⟨_, right, rfl, ⟨left, middle, rfl, one, two⟩, three⟩
      exact ⟨left, middle ++ right, by simp, by simpa using one, middle, right, rfl, two,
        by simpa using three⟩

/-- A row that is anchored at both ends matches the whole text or nothing. -/
theorem occursIn_row_iff {parts : List Pattern} {text : List Char} :
    OccursIn (row (.look .textStart :: (parts ++ [.look .textEnd]))) text ↔
      Matches (row parts) [] text [] := by
  rw [← occursIn_whole_iff]
  refine exists_congr fun before => exists_congr fun stretch => exists_congr fun after =>
    and_congr_right fun _ => matches_sequence_congr fun _ _ _ => ?_
  exact matches_row_append_iff.trans
    (matches_sequence_congr fun _ _ _ => matches_row_singleton_iff)

/-! ### Sets of characters -/

theorem contains_range_iff {first last character : Char} :
    (CharSet.range first last).contains character = true ↔
      first ≤ character ∧ character ≤ last := by
  simp [CharSet.contains]

theorem contains_single_iff {same character : Char} :
    (CharSet.single same).contains character = true ↔ character = same := by
  unfold CharSet.single
  rw [contains_range_iff]
  constructor
  · rintro ⟨le, ge⟩
    exact Char.le_antisymm ge le
  · rintro rfl
    exact ⟨Char.le_refl _, Char.le_refl _⟩

theorem contains_digits (character : Char) :
    (CharSet.range '0' '9').contains character = character.isDigit :=
  rfl

theorem contains_letters (character : Char) : letters.contains character = character.isAlpha := by
  have upper : character.isUpper = (decide ('A' ≤ character) && decide (character ≤ 'Z')) :=
    Bool.decide_and _ _
  show _ = (character.isUpper || character.isLower)
  rw [Bool.or_comm, upper]
  rfl

theorem contains_anyOf_iff {sets : List CharSet} {character : Char} :
    (CharSet.anyOf sets).contains character = true ↔
      ∃ set ∈ sets, set.contains character = true := by
  induction sets with
  | nil => exact iff_of_false Bool.false_ne_true (by simp)
  | cons first others induction =>
    rw [List.exists_mem_cons_iff, ← induction]
    exact Bool.or_eq_true_iff

theorem contains_anyOf_single_iff {characters : List Char} {character : Char} :
    (CharSet.anyOf (characters.map .single)).contains character = true ↔
      character ∈ characters := by
  simp only [contains_anyOf_iff, List.mem_map, exists_exists_and_eq_and, contains_single_iff,
    exists_eq_right']

theorem contains_lettersDigitsAnd_iff {further : List Char} {character : Char} :
    (lettersDigitsAnd further).contains character = true ↔
      character.isAlphanum = true ∨ character ∈ further := by
  rw [← contains_anyOf_single_iff, ← Bool.or_eq_true, Char.isAlphanum, ← contains_letters,
    ← contains_digits, Bool.or_assoc]
  rfl

/-- The sets of addresses as they are read from a text. -/
theorem contains_anyOf_letters (character : Char) :
    (CharSet.anyOf [.range 'a' 'z', .range 'A' 'Z']).contains character =
      letters.contains character :=
  congrArg ((CharSet.range 'a' 'z').contains character || ·) (Bool.or_false _)

theorem contains_anyOf_lettersDigitsAnd (further : List Char) (character : Char) :
    (CharSet.anyOf ([.range 'a' 'z', .range 'A' 'Z', .range '0' '9'] ++
        further.map .single)).contains character =
      (lettersDigitsAnd further).contains character :=
  (Bool.or_assoc _ _ _).symm

theorem contains_digits_or_hyphen_iff {character : Char} :
    ((CharSet.range '0' '9').either (.single '-')).contains character = true ↔
      character.isDigit = true ∨ character = '-' := by
  rw [← contains_single_iff, ← Bool.or_eq_true]
  rfl

end Pattern

/-! ### Addresses and telephone numbers -/

/-- The text is a name, the sign between, a host, a point and at least two letters. The name and
the host are not empty and hold letters, digits and some further characters of ASCII. -/
def IsAddress (text : List Char) : Prop :=
  ∃ name host ending, text = name ++ '@' :: (host ++ '.' :: ending) ∧
    (name ≠ [] ∧ ∀ character ∈ name,
      character.isAlphanum = true ∨ character ∈ ['.', '_', '%', '+', '-']) ∧
    (host ≠ [] ∧ ∀ character ∈ host, character.isAlphanum = true ∨ character ∈ ['.', '-']) ∧
    (2 ≤ ending.length ∧ ∀ character ∈ ending, character.isAlpha = true)

/-- The text is made of seven to twelve digits and hyphens. -/
def IsPhoneNumber (text : List Char) : Prop :=
  7 ≤ text.length ∧ text.length ≤ 12 ∧
    ∀ character ∈ text, character.isDigit = true ∨ character = '-'

namespace Pattern

theorem admits_none (count : Nat) : Admits none count :=
  nofun

/-- The parts of an address, given what its name, its host and its ending are made of. -/
def addressParts (names hosts endings : CharSet) : List Pattern :=
  [run names 1 none, .one (.single '@'), run hosts 1 none, .one (.single '.'), run endings 2 none]

theorem matches_addressParts_iff {names hosts endings : CharSet} (text : List Char)
    (namesEq : ∀ character, names.contains character = true ↔
      character.isAlphanum = true ∨ character ∈ ['.', '_', '%', '+', '-'])
    (hostsEq : ∀ character, hosts.contains character = true ↔
      character.isAlphanum = true ∨ character ∈ ['.', '-'])
    (endingsEq : ∀ character, endings.contains character = true ↔ character.isAlpha = true) :
    Matches (row (addressParts names hosts endings)) [] text [] ↔ IsAddress text := by
  unfold row addressParts IsAddress
  simp only [List.foldr_cons, List.foldr_nil, matches_sequence_iff, matches_run_iff,
    matches_one_iff, matches_empty_iff, contains_single_iff, namesEq, hostsEq, endingsEq,
    ← List.length_pos_iff]
  constructor
  · rintro ⟨name, _, rfl, ⟨named, _, nameAll⟩, _, _, rfl, ⟨_, rfl, rfl⟩, host, _, rfl,
      ⟨hosted, _, hostAll⟩, _, _, rfl, ⟨_, rfl, rfl⟩, ending, _, rfl, ⟨enough, _, endingAll⟩, rfl⟩
    exact ⟨name, host, ending, by simp, ⟨named, nameAll⟩, ⟨hosted, hostAll⟩, enough, endingAll⟩
  · rintro ⟨name, host, ending, rfl, ⟨named, nameAll⟩, ⟨hosted, hostAll⟩, enough, endingAll⟩
    exact ⟨name, _, rfl, ⟨named, admits_none _, nameAll⟩, ['@'], _, rfl, ⟨'@', rfl, rfl⟩, host, _,
      rfl, ⟨hosted, admits_none _, hostAll⟩, ['.'], ending, rfl, ⟨'.', rfl, rfl⟩, ending, [],
      (List.append_nil ending).symm, ⟨enough, admits_none _, endingAll⟩, rfl⟩

theorem occursIn_address_iff (text : List Char) :
    address.occursIn text = true ↔ IsAddress text := by
  have ordered : address.IsOrdered :=
    ⟨trivial, ⟨⟨trivial, admits_none 1⟩, trivial, ⟨trivial, admits_none 1⟩, trivial, trivial,
      admits_none 2⟩, trivial⟩
  have parted := matches_addressParts_iff text (fun _ => contains_lettersDigitsAnd_iff)
    (fun _ => contains_lettersDigitsAnd_iff) (fun character => by rw [contains_letters])
  rw [occursIn_iff ordered, ← parted]
  refine occursIn_whole_iff.trans (matches_sequence_congr fun _ _ _ => ?_)
  refine matches_sequence_congr fun _ _ _ => matches_sequence_congr fun _ _ _ => ?_
  exact matches_sequence_congr fun _ _ _ => matches_row_singleton_iff.symm

theorem occursIn_phoneNumber_iff (text : List Char) :
    phoneNumber.occursIn text = true ↔ IsPhoneNumber text := by
  have ordered : phoneNumber.IsOrdered := ⟨trivial, ⟨trivial, by simp [Admits]⟩, trivial⟩
  rw [occursIn_iff ordered]
  unfold phoneNumber IsPhoneNumber
  rw [occursIn_whole_iff, matches_run_iff]
  simp only [contains_digits_or_hyphen_iff, Admits, Option.some.injEq, forall_eq']

/-- The end of a text is not the end of a line: a line feed behind an address spoils it. -/
example : address.occursIn "a.b@c-.d.ef".toList = true ∧
    address.occursIn "a.b@c-.d.ef\n".toList = false :=
  ⟨rfl, rfl⟩

/-- What is written as a pattern for addresses matches addresses. -/
theorem exists_read?_address :
    ∃ pattern, read? 1048576 "^[a-zA-Z0-9._%+-]+@[a-zA-Z0-9.-]+\\.[a-zA-Z]\x7b2,\x7d$".toList =
      some pattern ∧ ∀ text, pattern.occursIn text = true ↔ IsAddress text := by
  let alphanumerics : List CharSet := [.range 'a' 'z', .range 'A' 'Z', .range '0' '9']
  let parts := addressParts (.anyOf (alphanumerics ++ ['.', '_', '%', '+', '-'].map .single))
    (.anyOf (alphanumerics ++ ['.', '-'].map .single))
    (.anyOf [.range 'a' 'z', .range 'A' 'Z'])
  have ordered : (row (.look .textStart :: (parts ++ [.look .textEnd]))).IsOrdered :=
    ⟨trivial, ⟨trivial, admits_none 1⟩, trivial, ⟨trivial, admits_none 1⟩, trivial,
      ⟨trivial, admits_none 2⟩, trivial, trivial⟩
  refine ⟨row (.look .textStart :: (parts ++ [.look .textEnd])), rfl, fun text => ?_⟩
  rw [occursIn_iff ordered, occursIn_row_iff]
  refine matches_addressParts_iff text (fun character => ?_) (fun character => ?_)
    fun character => ?_
  · rw [contains_anyOf_lettersDigitsAnd, contains_lettersDigitsAnd_iff]
  · rw [contains_anyOf_lettersDigitsAnd, contains_lettersDigitsAnd_iff]
  · rw [contains_anyOf_letters, contains_letters]

/-- What is written as a pattern for telephone numbers matches telephone numbers. -/
theorem exists_read?_phoneNumber :
    ∃ pattern, read? 1048576 "^[0-9\\-]\x7b7,12\x7d$".toList = some pattern ∧
      ∀ text, pattern.occursIn text = true ↔ IsPhoneNumber text := by
  let parts := [run (.anyOf [.range '0' '9', .single '-']) 7 (some 12)]
  have ordered : (row (.look .textStart :: (parts ++ [.look .textEnd]))).IsOrdered :=
    ⟨trivial, ⟨trivial, by simp [Admits]⟩, trivial, trivial⟩
  refine ⟨row (.look .textStart :: (parts ++ [.look .textEnd])), rfl, fun text => ?_⟩
  have sets (character : Char) :
      (CharSet.anyOf [.range '0' '9', .single '-']).contains character =
        ((CharSet.range '0' '9').either (.single '-')).contains character :=
    congrArg ((CharSet.range '0' '9').contains character || ·) (Bool.or_false _)
  rw [occursIn_iff ordered, occursIn_row_iff, matches_row_singleton_iff, matches_run_iff]
  simp only [sets, contains_digits_or_hyphen_iff, Admits, Option.some.injEq, forall_eq']
  rfl

end Pattern

/-! ### Passwords -/

namespace PasswordClass

theorem mem_missingIn_iff {sort : PasswordClass} {text : List Char} :
    sort ∈ missingIn text ↔ ∀ character ∈ text, sort.holds character = false := by
  have listed : sort ∈ all := by cases sort <;> decide
  unfold missingIn
  rw [List.mem_filter, and_iff_right listed, Bool.not_eq_true', List.any_eq_false]
  simp only [Bool.not_eq_true]

theorem holds_special_iff {character : Char} :
    special.holds character = true ↔
      character ∈ "!@#$%^&*()_+-=[]\x7b\x7d|;:'\",.<>/?".toList := by
  have spelled : specialCharacters = "!@#$%^&*()_+-=[]\x7b\x7d|;:'\",.<>/?".toList := by decide
  rw [← spelled]
  exact List.contains_iff_mem

/-- A text lacks nothing if it has a character of each sort. -/
theorem missingIn_eq_nil_iff {text : List Char} :
    missingIn text = [] ↔
      (∃ character ∈ text, character.isUpper = true) ∧
      (∃ character ∈ text, character.isLower = true) ∧
      (∃ character ∈ text, character.isDigit = true) ∧
      ∃ character ∈ text, character ∈ "!@#$%^&*()_+-=[]\x7b\x7d|;:'\",.<>/?".toList := by
  have each : missingIn text = [] ↔ ∀ sort : PasswordClass, ∃ character ∈ text,
      sort.holds character = true := by
    rw [List.eq_nil_iff_forall_not_mem]
    simp only [mem_missingIn_iff, not_forall, Bool.not_eq_false, exists_prop]
  simp only [each, ← holds_special_iff]
  constructor
  · intro held
    exact ⟨held .uppercase, held .lowercase, held .digit, held .special⟩
  · rintro ⟨upper, lower, digit, special⟩ sort
    cases sort with
    | uppercase => exact upper
    | lowercase => exact lower
    | digit => exact digit
    | special => exact special

/-- What is asked for is named sort by sort, in a fixed order. -/
theorem map_wanted_missingIn (text : List Char) :
    (missingIn text).map wanted =
      ([("one uppercase letter", Char.isUpper), ("one lowercase letter", Char.isLower),
          ("one digit", Char.isDigit),
          ("one special character", "!@#$%^&*()_+-=[]\x7b\x7d|;:'\",.<>/?".toList.contains)].filter
        fun sort => !text.any sort.2).map Prod.fst := by
  have spelled : specialCharacters = "!@#$%^&*()_+-=[]\x7b\x7d|;:'\",.<>/?".toList := by decide
  rw [← spelled]
  show _ = ((all.map fun sort => (sort.wanted, sort.holds)).filter
    fun sort => !text.any sort.2).map Prod.fst
  rw [List.filter_map, List.map_map]
  rfl

end PasswordClass

/-! ### Messages -/

theorem Violation.message_weakPassword (field : String) (lacking : List PasswordClass) :
    (weakPassword lacking).message field = "Field '" ++ field ++ "' must contain at least " ++
      ", ".intercalate (lacking.map PasswordClass.wanted) := by
  have joined : "'" ++ " must contain at least " = "' must contain at least " := rfl
  rw [← joined, ← String.append_assoc]
  rfl

theorem map_toList_reportUnless_eq_nil_iff {holds : Bool} {violation : Violation} (field : String) :
    (reportUnless holds violation).toList.map (Violation.message field) = [] ↔ holds = true := by
  unfold reportUnless
  split <;> simp [*]

/-- Addresses and telephone numbers pass as such, and nothing else does. A password passes if it has
a character of each of four sorts; otherwise the one message about it lists just the sorts that it
lacks, in a fixed order. The two words that stand for patterns stand for those that can be written
so. -/
theorem messages_match_eq_nil_iff (field content : String) (settings : Settings)
    (roster : Option Roster) :
    let text := content.toList
    let messages (rules : String) := (readRules rules).flatMap fun directive =>
      directive.messages field (.text content) settings roster
    let special := "!@#$%^&*()_+-=[]\x7b\x7d|;:'\",.<>/?".toList
    let sorts := [("one uppercase letter", Char.isUpper), ("one lowercase letter", Char.isLower),
      ("one digit", Char.isDigit), ("one special character", special.contains)]
    let lacking := (sorts.filter fun sort => !text.any sort.2).map Prod.fst
    (messages "match:email" = [] ↔ IsAddress text) ∧
      (messages "match:phone" = [] ↔ IsPhoneNumber text) ∧
      (messages "match:password" = [] ↔
        (∃ character ∈ text, character.isUpper = true) ∧
        (∃ character ∈ text, character.isLower = true) ∧
        (∃ character ∈ text, character.isDigit = true) ∧
        ∃ character ∈ text, character ∈ special) ∧
      (messages "match:password" = if lacking = [] then [] else
        ["Field '" ++ field ++ "' must contain at least " ++ ", ".intercalate lacking]) ∧
      (∃ pattern, Pattern.read? 1048576
          "^[a-zA-Z0-9._%+-]+@[a-zA-Z0-9.-]+\\.[a-zA-Z]\x7b2,\x7d$".toList = some pattern ∧
        (messages "match:email" = [] ↔ pattern.occursIn text = true)) ∧
      (∃ pattern, Pattern.read? 1048576 "^[0-9\\-]\x7b7,12\x7d$".toList = some pattern ∧
        (messages "match:phone" = [] ↔ pattern.occursIn text = true)) ∧
      ∀ rules, enforceValue (.text content) rules settings roster = [] ↔ messages rules = [] := by
  intro text messages special sorts lacking
  have ofSpelled {rules : String} {directive : Directive}
      (spelled : directive.Spelled rules.toList) :
      messages rules = directive.messages field (.text content) settings roster := by
    show (readRules rules).flatMap _ = _
    rw [spelled.readRules_eq, List.flatMap_singleton]
  have isName : IsName "match" := by decide
  have email : messages "match:email" =
      (reportUnless (Pattern.address.occursIn text) .noAddress).toList.map
        (Violation.message field) :=
    @ofSpelled "match:email" ⟨"match", some "email"⟩
      (.bare_of_notMem isName (by decide) (by decide))
  have phone : messages "match:phone" =
      (reportUnless (Pattern.phoneNumber.occursIn text) .noPhoneNumber).toList.map
        (Violation.message field) :=
    @ofSpelled "match:phone" ⟨"match", some "phone"⟩
      (.bare_of_notMem isName (by decide) (by decide))
  have password : messages "match:password" =
      (reportUnless (PasswordClass.missingIn text).isEmpty
        (.weakPassword (PasswordClass.missingIn text))).toList.map (Violation.message field) :=
    @ofSpelled "match:password" ⟨"match", some "password"⟩
      (.bare_of_notMem isName (by decide) (by decide))
  have emailIff : messages "match:email" = [] ↔ IsAddress text := by
    rw [email, map_toList_reportUnless_eq_nil_iff, Pattern.occursIn_address_iff]
  have phoneIff : messages "match:phone" = [] ↔ IsPhoneNumber text := by
    rw [phone, map_toList_reportUnless_eq_nil_iff, Pattern.occursIn_phoneNumber_iff]
  obtain ⟨addresses, readAddresses, addressesIff⟩ := Pattern.exists_read?_address
  obtain ⟨numbers, readNumbers, numbersIff⟩ := Pattern.exists_read?_phoneNumber
  have lackingEq : lacking = (PasswordClass.missingIn text).map PasswordClass.wanted :=
    (PasswordClass.map_wanted_missingIn text).symm
  refine ⟨emailIff, phoneIff, ?strong, ?weak,
    ⟨addresses, readAddresses, emailIff.trans (addressesIff text).symm⟩,
    ⟨numbers, readNumbers, phoneIff.trans (numbersIff text).symm⟩,
    fun rules => enforceValue_eq_nil_iff_messages _ _ field _ _⟩
  case strong =>
    rw [password, map_toList_reportUnless_eq_nil_iff, List.isEmpty_iff,
      PasswordClass.missingIn_eq_nil_iff]
  case weak =>
    rw [password, lackingEq, ← Violation.message_weakPassword]
    unfold reportUnless
    cases PasswordClass.missingIn text <;> rfl

/-- A word without digits and special characters is no password. -/
theorem messages_match_word :
    let word := "abcDEF"
    let messages (rules : String) := (readRules rules).flatMap fun directive =>
      directive.messages "code" (.text word) .standard none
    messages "match:password" =
        ["Field 'code' must contain at least one digit, one special character"] ∧
      messages "match:email" ≠ [] ∧ messages "match:phone" ≠ [] := by
  intro word messages
  obtain ⟨email, phone, -, password, -⟩ :=
    messages_match_eq_nil_iff "code" "abcDEF" .standard none
  refine ⟨password, fun silent => ?address, fun silent => ?number⟩
  case address =>
    obtain ⟨name, host, ending, parts, -⟩ := email.1 silent
    have marked : '@' ∈ "abcDEF".toList := parts ▸ (by simp)
    exact absurd marked (by decide)
  case number => exact absurd (phone.1 silent).1 (by decide)

end Rulebook
