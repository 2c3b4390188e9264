/-
This file proves that the search decides whether a pattern occurs in a text.

The search never has a stretch of text before it as a whole. It keeps the patterns that remain to be
matched after each character, so that the proof goes by characters as well: what a pattern matches
is either empty, and `canBeEmpty` tells when, or it has a first character, and `rest` tells what is
left then. A repetition is counted for this. Among the rounds of a repetition those before the first
character can all be empty, and where the body can be empty there, any number of such rounds can be
put in front; so of the rounds that are still owed none has to be kept.

Repetitions whose bounds contradict each other are left out: they match nothing, but the search
takes an empty body for enough.
-/
import Rulebook.Pattern.Search
import Mathlib.Data.List.Basic

namespace Rulebook.Pattern

/-- The limit, if there is one, admits the number. -/
def Admits (most : Option Nat) (count : Nat) : Prop :=
  ∀ limit, most = some limit → count ≤ limit

/-- No repetition asks for more than it admits. -/
def IsOrdered : Pattern → Prop
  | sequence first second => first.IsOrdered ∧ second.IsOrdered
  | either left right => left.IsOrdered ∧ right.IsOrdered
  | repeated body least most => body.IsOrdered ∧ Admits most least
  | _ => True

/-! ### What the patterns match -/

section Forms

variable {before stretch after : List Char}

theorem matches_empty_iff : Matches .empty before stretch after ↔ stretch = [] := by
  constructor
  · intro matched
    cases matched
    rfl
  · rintro rfl
    exact .empty before after

theorem matches_one_iff {set : CharSet} :
    Matches (.one set) before stretch after ↔
      ∃ character, stretch = [character] ∧ set.contains character = true := by
  constructor
  · intro matched
    cases matched with
    | @one _ character _ _ member => exact ⟨character, rfl, member⟩
  · rintro ⟨character, rfl, member⟩
    exact .one before after member

theorem matches_look_iff {condition : Look} :
    Matches (.look condition) before stretch after ↔
      stretch = [] ∧ condition.holds before.getLast? after.head? = true := by
  constructor
  · intro matched
    cases matched with
    | look holds => exact ⟨rfl, holds⟩
  · rintro ⟨rfl, holds⟩
    exact .look holds

theorem matches_sequence_iff {first second : Pattern} :
    Matches (.sequence first second) before stretch after ↔
      ∃ left right, stretch = left ++ right ∧ Matches first before left (right ++ after) ∧
        Matches second (before ++ left) right after := by
  constructor
  · intro matched
    cases matched with
    | @sequence _ _ _ left right _ one two => exact ⟨left, right, rfl, one, two⟩
  · rintro ⟨left, right, rfl, one, two⟩
    exact .sequence one two

theorem matches_either_iff {left right : Pattern} :
    Matches (.either left right) before stretch after ↔
      Matches left before stretch after ∨ Matches right before stretch after := by
  constructor
  · intro matched
    cases matched with
    | left one => exact .inl one
    | right one => exact .inr one
  · rintro (one | one)
    · exact .left one
    · exact .right one

end Forms

/-! ### Rounds of a repetition -/

/-- The body matches so many stretches in a row. -/
inductive Rounds (body : Pattern) : Nat → (before stretch after : List Char) → Prop where
  | none (before after : List Char) : Rounds body 0 before [] after
  | next {count : Nat} {before left right after : List Char}
      (one : Matches body before left (right ++ after))
      (more : Rounds body count (before ++ left) right after) :
      Rounds body (count + 1) before (left ++ right) after

theorem Admits.mono {most : Option Nat} {count fewer : Nat} (admits : Admits most count)
    (le : fewer ≤ count) : Admits most fewer :=
  fun limit given => Nat.le_trans le (admits limit given)

theorem admits_succ_iff {most : Option Nat} {count : Nat} :
    Admits most (count + 1) ↔ most ≠ some 0 ∧ Admits (most.map (· - 1)) count := by
  unfold Admits
  cases most with
  | none => simp
  | some limit =>
    simp only [Option.map_some, ne_eq, Option.some.injEq, forall_eq']
    omega

/-- After a round, the rounds that are still owed are admitted. -/
theorem admits_owed {most : Option Nat} {least : Nat} (admits : Admits most least)
    (isEmpty : Bool) :
    Admits (most.map (· - 1)) (if isEmpty then 0 else least - 1) := by
  have later : Admits (most.map (· - 1)) (least - 1) := by
    cases least with
    | zero => exact fun limit _ => Nat.zero_le limit
    | succ least => exact (admits_succ_iff.1 admits).2
  split
  · exact later.mono (Nat.zero_le _)
  · exact later

section Repetition

variable {body : Pattern} {least count : Nat} {most : Option Nat} {before stretch after : List Char}

theorem exists_rounds (matched : Matches (.repeated body least most) before stretch after) :
    ∃ count, least ≤ count ∧ Admits most count ∧ Rounds body count before stretch after := by
  generalize whole : Pattern.repeated body least most = pattern at matched
  induction matched generalizing least most with
  | done _ _ before after =>
    cases whole
    exact ⟨0, Nat.le_refl 0, fun limit _ => Nat.zero_le limit, .none before after⟩
  | again allowed one _ _ induction =>
    cases whole
    obtain ⟨count, enough, admitted, rounds⟩ := induction rfl
    exact ⟨count + 1, by omega, admits_succ_iff.2 ⟨allowed, admitted⟩, .next one rounds⟩
  | _ => cases whole

theorem Rounds.matches_repeated (rounds : Rounds body count before stretch after)
    (enough : least ≤ count) (admitted : Admits most count) :
    Matches (.repeated body least most) before stretch after := by
  induction rounds generalizing least most with
  | none before after =>
    obtain rfl : least = 0 := Nat.le_zero.1 enough
    exact .done body most before after
  | next one _ induction =>
    obtain ⟨allowed, admittedMore⟩ := admits_succ_iff.1 admitted
    exact .again allowed one (induction (by omega) admittedMore)

/-- A repetition matches what some admitted number of rounds matches. -/
theorem matches_repeated_iff :
    Matches (.repeated body least most) before stretch after ↔
      ∃ count, least ≤ count ∧ Admits most count ∧ Rounds body count before stretch after :=
  ⟨exists_rounds, fun ⟨_, enough, admitted, rounds⟩ => rounds.matches_repeated enough admitted⟩

theorem Rounds.exists_next (rounds : Rounds body (count + 1) before stretch after) :
    ∃ left right, stretch = left ++ right ∧ Matches body before left (right ++ after) ∧
      Rounds body count (before ++ left) right after := by
  cases rounds with
  | @next _ _ left right _ one more => exact ⟨left, right, rfl, one, more⟩

/-- Where the body can be empty, empty rounds can be put in front. -/
theorem Rounds.pad (empty : Matches body before [] (stretch ++ after))
    (rounds : Rounds body count before stretch after) (extra : Nat) :
    Rounds body (count + extra) before stretch after := by
  induction extra with
  | zero => exact rounds
  | succ extra induction =>
    rw [← List.append_nil before] at induction
    exact .next empty induction

/-- The first character belongs to some round, and the rounds before it are empty. -/
theorem Rounds.exists_first {character : Char}
    (rounds : Rounds body count before (character :: stretch) after) :
    ∃ extra later left right, count = later + 1 + extra ∧ stretch = left ++ right ∧
      (extra = 0 ∨ Matches body before [] (character :: stretch ++ after)) ∧
      Matches body before (character :: left) (right ++ after) ∧
      Rounds body later (before ++ character :: left) right after := by
  generalize whole : character :: stretch = text at rounds
  induction rounds with
  | none _ _ => cases whole
  | @next count before left right after one more induction =>
    cases left with
    | nil =>
      rw [List.nil_append] at whole
      obtain ⟨extra, later, left, right, counted, parts, _, first, others⟩ := induction whole
      rw [List.append_nil] at first others
      refine ⟨extra + 1, later, left, right, by omega, parts, .inr one, first, others⟩
    | cons next left =>
      cases whole
      exact ⟨0, count, left, right, rfl, rfl, .inl rfl, one, more⟩

end Repetition

/-! ### The empty stretch -/

/-- The pattern can be empty between two characters exactly when it matches the empty stretch
there. -/
theorem canBeEmpty_iff {pattern : Pattern} (ordered : pattern.IsOrdered)
    (before after : List Char) :
    pattern.canBeEmpty before.getLast? after.head? = true ↔ Matches pattern before [] after := by
  induction pattern with
  | empty => exact iff_of_true rfl (.empty before after)
  | one set =>
    rw [matches_one_iff]
    exact iff_of_false Bool.false_ne_true nofun
  | look condition => exact (matches_look_iff.trans (and_iff_right rfl)).symm
  | sequence first second firstHolds secondHolds =>
    rw [canBeEmpty, Bool.and_eq_true, firstHolds ordered.1, secondHolds ordered.2,
      matches_sequence_iff]
    constructor
    · rintro ⟨one, two⟩
      exact ⟨[], [], rfl, one, by rwa [List.append_nil]⟩
    · rintro ⟨left, right, parts, one, two⟩
      obtain ⟨rfl, rfl⟩ := List.append_eq_nil_iff.1 parts.symm
      rw [List.append_nil] at two
      exact ⟨one, two⟩
  | either left right leftHolds rightHolds =>
    rw [canBeEmpty, Bool.or_eq_true, leftHolds ordered.1, rightHolds ordered.2, matches_either_iff]
  | repeated body least most bodyHolds =>
    rw [canBeEmpty, Bool.or_eq_true, beq_iff_eq, bodyHolds ordered.1]
    constructor
    · rintro (rfl | empty)
      · exact .done body most before after
      · have rounds := (Rounds.none before after).pad empty least
        exact rounds.matches_repeated (by omega) (by rw [Nat.zero_add]; exact ordered.2)
    · intro matched
      obtain ⟨count, enough, _, rounds⟩ := exists_rounds matched
      cases count with
      | zero => exact .inl (Nat.le_zero.1 enough)
      | succ count =>
        obtain ⟨left, right, parts, one, _⟩ := rounds.exists_next
        obtain ⟨rfl, rfl⟩ := List.append_eq_nil_iff.1 parts.symm
        exact .inr one

/-! ### The first character -/

/-- One pattern after another matches what the two match in a row. -/
theorem matches_followedBy_iff {first second : Pattern} {before stretch after : List Char} :
    Matches (followedBy first second) before stretch after ↔
      Matches (.sequence first second) before stretch after := by
  unfold followedBy
  split
  · rw [matches_sequence_iff]
    simp only [matches_empty_iff]
    constructor
    · intro matched
      exact ⟨[], stretch, rfl, rfl, by rwa [List.append_nil]⟩
    · rintro ⟨_, right, rfl, rfl, matched⟩
      rwa [List.append_nil] at matched
  · exact Iff.rfl

/-- Where no further rounds are admitted, none are left. -/
theorem matches_repetitions_iff {body : Pattern} {least : Nat} {most : Option Nat}
    (admitted : Admits most least) {before stretch after : List Char} :
    Matches (repetitions body least most) before stretch after ↔
      Matches (.repeated body least most) before stretch after := by
  unfold repetitions
  split
  · obtain rfl : least = 0 := Nat.le_zero.1 (admitted 0 rfl)
    rw [matches_empty_iff, matches_repeated_iff]
    constructor
    · rintro rfl
      exact ⟨0, Nat.le_refl 0, admitted, .none before after⟩
    · rintro ⟨count, _, few, rounds⟩
      obtain rfl : count = 0 := Nat.le_zero.1 (few 0 rfl)
      cases rounds
      rfl
  · exact Iff.rfl

/-! ### What remains after a character -/

section Remaining

variable {before : Option Char} {character : Char} {remaining : Pattern}

theorem mem_rest_one_iff {set : CharSet} :
    remaining ∈ rest before character (.one set) ↔
      set.contains character = true ∧ remaining = empty := by
  unfold rest
  split <;> simp [*]

theorem mem_rest_sequence_iff {first second : Pattern} :
    remaining ∈ rest before character (.sequence first second) ↔
      remaining ∈ (rest before character first).map (followedBy · second) ∨
        first.canBeEmpty before (some character) = true ∧
          remaining ∈ rest before character second := by
  rw [rest]
  split <;> simp [*]

theorem mem_rest_either_iff {left right : Pattern} :
    remaining ∈ rest before character (.either left right) ↔
      remaining ∈ rest before character left ∨ remaining ∈ rest before character right :=
  List.mem_append

theorem mem_rest_repeated_iff {body : Pattern} {least : Nat} {most : Option Nat} :
    remaining ∈ rest before character (.repeated body least most) ↔
      most ≠ some 0 ∧ remaining ∈ (rest before character body).map
        (followedBy · (repetitions body
          (if body.canBeEmpty before (some character) then 0 else least - 1)
          (most.map (· - 1)))) := by
  match most with
  | none => simp [rest]
  | some 0 => simp [rest]
  | some (limit + 1) => simp [rest]

end Remaining

theorem isOrdered_followedBy {first second : Pattern} (firstOrdered : first.IsOrdered)
    (secondOrdered : second.IsOrdered) : (followedBy first second).IsOrdered := by
  unfold followedBy
  split
  · exact secondOrdered
  · exact ⟨firstOrdered, secondOrdered⟩

theorem isOrdered_repetitions {body : Pattern} {least : Nat} {most : Option Nat}
    (ordered : body.IsOrdered) (admits : Admits most least) :
    (repetitions body least most).IsOrdered := by
  unfold repetitions
  split
  · trivial
  · exact ⟨ordered, admits⟩

/-- What remains of a pattern asks for no more than it admits either. -/
theorem isOrdered_of_mem_rest {pattern remaining : Pattern} {before : Option Char}
    {character : Char} (ordered : pattern.IsOrdered)
    (member : remaining ∈ rest before character pattern) : remaining.IsOrdered := by
  induction pattern generalizing remaining with
  | empty => cases member
  | one set =>
    obtain ⟨_, rfl⟩ := mem_rest_one_iff.1 member
    trivial
  | look condition => cases member
  | sequence first second firstHolds secondHolds =>
    rcases mem_rest_sequence_iff.1 member with inFirst | ⟨_, inSecond⟩
    · obtain ⟨left, isRest, rfl⟩ := List.mem_map.1 inFirst
      exact isOrdered_followedBy (firstHolds ordered.1 isRest) ordered.2
    · exact secondHolds ordered.2 inSecond
  | either left right leftHolds rightHolds =>
    rcases mem_rest_either_iff.1 member with inLeft | inRight
    · exact leftHolds ordered.1 inLeft
    · exact rightHolds ordered.2 inRight
  | repeated body least most bodyHolds =>
    obtain ⟨left, isRest, rfl⟩ := List.mem_map.1 (mem_rest_repeated_iff.1 member).2
    exact isOrdered_followedBy (bodyHolds ordered.1 isRest)
      (isOrdered_repetitions ordered.1 (admits_owed ordered.2 _))

section Step

variable {first second : Pattern} {before stretch after : List Char} {character : Char}

/-- The first character of what a sequence matches belongs to the first part, or to the second one
if the first one is empty. -/
theorem matches_sequence_cons_iff :
    Matches (.sequence first second) before (character :: stretch) after ↔
      (∃ left right, stretch = left ++ right ∧
        Matches first before (character :: left) (right ++ after) ∧
        Matches second (before ++ character :: left) right after) ∨
      Matches first before [] (character :: stretch ++ after) ∧
        Matches second before (character :: stretch) after := by
  rw [matches_sequence_iff]
  constructor
  · rintro ⟨left, right, parts, one, two⟩
    cases left with
    | nil =>
      rw [List.nil_append] at parts
      rw [List.append_nil] at two
      exact .inr ⟨parts ▸ one, parts ▸ two⟩
    | cons next left =>
      cases parts
      exact .inl ⟨left, right, rfl, one, two⟩
  · rintro (⟨left, right, rfl, one, two⟩ | ⟨one, two⟩)
    · exact ⟨character :: left, right, rfl, one, two⟩
    · exact ⟨[], character :: stretch, rfl, one, by rwa [List.append_nil]⟩

/-- What remains of the first part, followed by the second one. -/
theorem exists_followedBy_iff
    (holds : ∀ stretch after, Matches first before (character :: stretch) after ↔
      ∃ left ∈ rest before.getLast? character first, Matches left (before ++ [character]) stretch
        after) :
    (∃ left ∈ (rest before.getLast? character first).map (followedBy · second),
        Matches left (before ++ [character]) stretch after) ↔
      ∃ left right, stretch = left ++ right ∧
        Matches first before (character :: left) (right ++ after) ∧
        Matches second (before ++ character :: left) right after := by
  constructor
  · rintro ⟨_, member, matched⟩
    obtain ⟨remaining, isRest, rfl⟩ := List.mem_map.1 member
    obtain ⟨left, right, parts, one, two⟩ :=
      matches_sequence_iff.1 (matches_followedBy_iff.1 matched)
    rw [List.append_assoc] at two
    exact ⟨left, right, parts, (holds _ _).2 ⟨remaining, isRest, one⟩, two⟩
  · rintro ⟨left, right, parts, one, two⟩
    obtain ⟨remaining, isRest, matched⟩ := (holds _ _).1 one
    refine ⟨remaining.followedBy second, List.mem_map_of_mem isRest,
      matches_followedBy_iff.2 (matches_sequence_iff.2 ⟨left, right, parts, matched, ?_⟩)⟩
    rwa [List.append_assoc]

/-- The first character of what a repetition matches belongs to a round of the body. So many rounds
are owed after it: none if the body can be empty before the character, one less otherwise. -/
theorem matches_repeated_cons_iff {body : Pattern} {least : Nat} {most : Option Nat}
    (ordered : (repeated body least most).IsOrdered) :
    Matches (.repeated body least most) before (character :: stretch) after ↔
      most ≠ some 0 ∧ ∃ left right, stretch = left ++ right ∧
        Matches body before (character :: left) (right ++ after) ∧
        Matches (.repeated body
          (if body.canBeEmpty before.getLast? (some character) then 0 else least - 1)
          (most.map (· - 1))) (before ++ character :: left) right after := by
  have empty := canBeEmpty_iff ordered.1 before (character :: stretch ++ after)
  rw [List.cons_append, List.head?_cons] at empty
  simp only [matches_repeated_iff]
  constructor
  · rintro ⟨count, enough, admitted, rounds⟩
    obtain ⟨extra, later, left, right, rfl, parts, skipped, one, more⟩ := rounds.exists_first
    obtain ⟨allowed, admittedLater⟩ :=
      admits_succ_iff.1 (admitted.mono (Nat.le_add_right (later + 1) extra))
    refine ⟨allowed, left, right, parts, one, later, ?_, admittedLater, more⟩
    split
    · exact Nat.zero_le later
    · next filled =>
      have none : extra = 0 := skipped.resolve_right fun matched => filled (empty.2 matched)
      omega
  · rintro ⟨allowed, left, right, rfl, one, later, owed, admitted, more⟩
    have rounds : Rounds body (later + 1) before (character :: left ++ right) after :=
      .next one more
    have admittedNext : Admits most (later + 1) := admits_succ_iff.2 ⟨allowed, admitted⟩
    split at owed
    · next canBeEmpty =>
      -- The rounds that are missing are empty ones in front.
      refine ⟨later + 1 + (least - (later + 1)), by omega, ?_,
        rounds.pad (empty.1 canBeEmpty) _⟩
      rcases Nat.le_total least (later + 1) with few | many
      · rwa [Nat.sub_eq_zero_of_le few]
      · rw [Nat.add_sub_of_le many]
        exact ordered.2
    · exact ⟨later + 1, by omega, admittedNext, rounds⟩

end Step

/-- What a pattern matches from a character on is what some of the patterns that remain after the
character match. -/
theorem matches_cons_iff {pattern : Pattern} (ordered : pattern.IsOrdered) (before : List Char)
    (character : Char) (stretch after : List Char) :
    Matches pattern before (character :: stretch) after ↔
      ∃ left ∈ rest before.getLast? character pattern,
        Matches left (before ++ [character]) stretch after := by
  induction pattern generalizing stretch after with
  | empty =>
    rw [matches_empty_iff]
    exact iff_of_false nofun nofun
  | one set =>
    simp only [matches_one_iff, mem_rest_one_iff]
    constructor
    · rintro ⟨_, same, member⟩
      cases same
      exact ⟨.empty, ⟨member, rfl⟩, .empty _ _⟩
    · rintro ⟨_, ⟨member, rfl⟩, matched⟩
      cases matched
      exact ⟨character, rfl, member⟩
  | look condition =>
    rw [matches_look_iff]
    exact iff_of_false nofun nofun
  | sequence first second firstHolds secondHolds =>
    have empty := canBeEmpty_iff ordered.1 before (character :: stretch ++ after)
    rw [List.cons_append, List.head?_cons] at empty
    rw [matches_sequence_cons_iff, ← exists_followedBy_iff (firstHolds ordered.1),
      secondHolds ordered.2, List.cons_append, ← empty]
    simp only [mem_rest_sequence_iff, or_and_right, exists_or, and_assoc, exists_and_left]
  | either left right leftHolds rightHolds =>
    rw [matches_either_iff, leftHolds ordered.1, rightHolds ordered.2]
    simp only [mem_rest_either_iff, or_and_right, exists_or]
  | repeated body least most bodyHolds =>
    rw [matches_repeated_cons_iff ordered]
    simp only [mem_rest_repeated_iff, and_assoc, exists_and_left,
      exists_followedBy_iff (bodyHolds ordered.1)]
    simp only [matches_repetitions_iff (admits_owed ordered.2 _)]

/-! ### The search -/

/-- A pattern matches a stretch at the front of a text. -/
def Begins (pattern : Pattern) (before text : List Char) : Prop :=
  ∃ stretch after, text = stretch ++ after ∧ Matches pattern before stretch after

/-- A pattern matches a stretch somewhere in a text. -/
def OccursFrom (pattern : Pattern) (before text : List Char) : Prop :=
  ∃ skipped later, text = skipped ++ later ∧ Begins pattern (before ++ skipped) later

section Search

variable {pattern : Pattern} {before text : List Char} {character : Char}

theorem begins_nil_iff (ordered : pattern.IsOrdered) :
    Begins pattern before [] ↔ pattern.canBeEmpty before.getLast? none = true := by
  refine Iff.trans ?_ (canBeEmpty_iff ordered before []).symm
  constructor
  · rintro ⟨stretch, after, parts, matched⟩
    obtain ⟨rfl, rfl⟩ := List.append_eq_nil_iff.1 parts.symm
    exact matched
  · intro matched
    exact ⟨[], [], rfl, matched⟩

theorem begins_cons_iff (ordered : pattern.IsOrdered) :
    Begins pattern before (character :: text) ↔
      pattern.canBeEmpty before.getLast? (some character) = true ∨
        ∃ left ∈ rest before.getLast? character pattern,
          Begins left (before ++ [character]) text := by
  have empty := canBeEmpty_iff ordered before (character :: text)
  rw [List.head?_cons] at empty
  rw [empty]
  constructor
  · rintro ⟨stretch, after, parts, matched⟩
    cases stretch with
    | nil => exact .inl (by rwa [parts])
    | cons next stretch =>
      cases parts
      obtain ⟨left, member, matched⟩ := (matches_cons_iff ordered _ _ _ _).1 matched
      exact .inr ⟨left, member, stretch, after, rfl, matched⟩
  · rintro (matched | ⟨left, member, stretch, after, rfl, matched⟩)
    · exact ⟨[], character :: text, rfl, matched⟩
    · exact ⟨character :: stretch, after, rfl,
        (matches_cons_iff ordered _ _ _ _).2 ⟨left, member, matched⟩⟩

theorem occursFrom_nil_iff : OccursFrom pattern before [] ↔ Begins pattern before [] := by
  constructor
  · rintro ⟨skipped, later, parts, begins⟩
    obtain ⟨rfl, rfl⟩ := List.append_eq_nil_iff.1 parts.symm
    rwa [List.append_nil] at begins
  · intro begins
    exact ⟨[], [], rfl, by rwa [List.append_nil]⟩

theorem occursFrom_cons_iff :
    OccursFrom pattern before (character :: text) ↔
      Begins pattern before (character :: text) ∨ OccursFrom pattern (before ++ [character]) text := by
  constructor
  · rintro ⟨skipped, later, parts, begins⟩
    cases skipped with
    | nil =>
      rw [List.append_nil] at begins
      exact .inl (parts ▸ begins)
    | cons next skipped =>
      cases parts
      exact .inr ⟨skipped, later, rfl, by rwa [List.append_assoc]⟩
  · rintro (begins | ⟨skipped, later, rfl, begins⟩)
    · exact ⟨[], _, rfl, by rwa [List.append_nil]⟩
    · exact ⟨character :: skipped, later, rfl, by rwa [List.append_assoc] at begins⟩

/-- The search finds out whether some remaining pattern matches from here on, or the whole pattern
does, here or later. -/
theorem searchFrom_iff (ordered : pattern.IsOrdered) (before : List Char) {remaining : List Pattern}
    (remainingOrdered : ∀ left ∈ remaining, left.IsOrdered) (text : List Char) :
    searchFrom pattern before.getLast? remaining text = true ↔
      (∃ left ∈ remaining, Begins left before text) ∨ OccursFrom pattern before text := by
  induction text generalizing before remaining with
  | nil =>
    unfold searchFrom
    rw [occursFrom_nil_iff, begins_nil_iff ordered, List.any_cons, Bool.or_eq_true,
      List.any_eq_true, or_comm]
    exact or_congr_left (exists_congr fun left => and_congr_right fun member =>
      (begins_nil_iff (remainingOrdered left member)).symm)
  | cons character text induction =>
    have hereOrdered : ∀ left ∈ pattern :: remaining, left.IsOrdered :=
      List.forall_mem_cons.2 ⟨ordered, remainingOrdered⟩
    have here : (∃ left ∈ remaining, Begins left before (character :: text)) ∨
          OccursFrom pattern before (character :: text) ↔
        (∃ left ∈ pattern :: remaining, Begins left before (character :: text)) ∨
          OccursFrom pattern (before ++ [character]) text := by
      rw [occursFrom_cons_iff, List.exists_mem_cons_iff, ← or_assoc]
      exact or_congr_left or_comm
    rw [here]
    unfold searchFrom
    dsimp only
    split
    · next isEmpty =>
      obtain ⟨left, member, empty⟩ := List.any_eq_true.1 isEmpty
      exact iff_of_true rfl
        (.inl ⟨left, member, (begins_cons_iff (hereOrdered left member)).2 (.inl empty)⟩)
    · next filled =>
      have remains {left : Pattern} :
          left ∈ ((pattern :: remaining).flatMap (rest before.getLast? character)).eraseDups ↔
            ∃ source ∈ pattern :: remaining, left ∈ rest before.getLast? character source := by
        rw [List.mem_eraseDups, List.mem_flatMap]
      have step := induction (before ++ [character]) fun left member => by
        obtain ⟨source, isHere, isRest⟩ := remains.1 member
        exact isOrdered_of_mem_rest (hereOrdered source isHere) isRest
      rw [List.getLast?_concat] at step
      rw [step]
      refine or_congr_left ⟨?_, ?_⟩
      · rintro ⟨left, member, begins⟩
        obtain ⟨source, isHere, isRest⟩ := remains.1 member
        exact ⟨source, isHere,
          (begins_cons_iff (hereOrdered source isHere)).2 (.inr ⟨left, isRest, begins⟩)⟩
      · rintro ⟨source, isHere, begins⟩
        rcases (begins_cons_iff (hereOrdered source isHere)).1 begins with empty | later
        · exact absurd (List.any_eq_true.2 ⟨source, isHere, empty⟩) filled
        · obtain ⟨left, isRest, begins⟩ := later
          exact ⟨left, remains.2 ⟨source, isHere, isRest⟩, begins⟩

end Search

/-- The search decides whether a pattern occurs in a text. -/
theorem occursIn_iff {pattern : Pattern} (ordered : pattern.IsOrdered) (text : List Char) :
    pattern.occursIn text = true ↔ pattern.OccursIn text := by
  have found : pattern.occursIn text = true ↔
      (∃ left ∈ [], Begins left [] text) ∨ OccursFrom pattern [] text :=
    searchFrom_iff ordered [] (List.forall_mem_nil _) text
  rw [found, or_iff_right (by simp)]
  constructor
  · rintro ⟨before, _, rfl, stretch, after, rfl, matched⟩
    exact ⟨before, stretch, after, (List.append_assoc ..).symm, matched⟩
  · rintro ⟨before, stretch, after, rfl, matched⟩
    exact ⟨before, _, List.append_assoc .., stretch, after, rfl, matched⟩

end Rulebook.Pattern
