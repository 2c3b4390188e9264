/-
This file says which value the default pass gives to a field, and why.

There are two reasons to write to a field. A prohibition resets a value that is
not the zero value of the declared kind. A default, where nothing prohibits it,
fills a field that reads as zero. `Injects` states the two reasons, and the
function that the pass calls gives a value exactly when one of them holds. The
value then has the declared kind, so that no write of the pass is refused.
`Spares` states in the same way why a field is left alone.
-/
import Rulebook.Default

namespace Rulebook

/-! ### Rules of a field -/

/-- Some directive of the field has the keyword. -/
def Field.HasRule (field : Field) (keyword : Keyword) : Prop :=
  ∃ directive ∈ field.directives, directive.keyword = keyword

theorem Field.hasRule_of_findKeyword? {field : Field} {keyword : Keyword} {directive : Directive}
    (found : findKeyword? field.directives keyword = some directive) : field.HasRule keyword :=
  ⟨directive, List.mem_of_find?_eq_some found, by simpa using List.find?_some found⟩

theorem Field.hasKeyword_iff (field : Field) (keyword : Keyword) :
    hasKeyword field.directives keyword = true ↔ field.HasRule keyword := by
  unfold hasKeyword findKeyword?
  rw [List.find?_isSome]
  simp only [decide_eq_true_eq, HasRule]

theorem Field.hasKeyword_eq_false_iff {field : Field} {keyword : Keyword} :
    hasKeyword field.directives keyword = false ↔ ¬ field.HasRule keyword := by
  rw [← field.hasKeyword_iff, Bool.not_eq_true]

theorem Field.isEmpty_directives_eq_false {field : Field} {keyword : Keyword}
    (ruled : field.HasRule keyword) : field.directives.isEmpty = false := by
  obtain ⟨directive, member, -⟩ := ruled
  exact List.isEmpty_eq_false_iff.2 (List.ne_nil_of_mem member)

/-! ### Reading as zero -/

/-- Brought in line with the declared kind, the value is zero. -/
def ReadsAsZero (declared : Kind) (value : Value) : Prop :=
  ∃ zero, reconcile declared value = .ok zero ∧ zero.isZero = true

theorem countsAsZero_iff (declared : Kind) (value : Value) :
    countsAsZero declared value = true ↔ ReadsAsZero declared value := by
  unfold countsAsZero ReadsAsZero
  cases reconcile declared value with
  | error mismatch => simp
  | ok zero => simp

/-- A time is not zero, and it is not made zero for another kind. -/
theorem not_readsAsZero_temporal (declared : Kind) (instant : Instant) :
    ¬ ReadsAsZero declared (.temporal (some instant)) := by
  rintro ⟨zero, reconciled, isZero⟩
  cases declared with
  | temporal =>
    cases reconciled
    cases isZero
  | _ => cases reconciled

/-! ### Why a field is written -/

/-- The pass gives a value to a field that holds another one. -/
inductive Injects (now : Instant) (field : Field) (held : Value) : Value → Prop where
  /-- A prohibited value is reset, unless it is a zero of the declared kind already. -/
  | reset (prohibited : field.HasRule .prohibit)
      (apart : held.isZero = false ∨ held.kind ≠ field.kind) :
      Injects now field held field.kind.zero
  /-- The first default fills a field that reads as zero. -/
  | fill {directive : Directive} {value : Value} (allowed : ¬ field.HasRule .prohibit)
      (first : findKeyword? field.directives .default = some directive)
      (zero : ReadsAsZero field.kind held)
      (read : readDefault field.kind now directive.arguments = .ok (some value)) :
      Injects now field held value

theorem Injects.isEmpty_directives {now : Instant} {field : Field} {held value : Value}
    (injects : Injects now field held value) : field.directives.isEmpty = false := by
  cases injects with
  | reset prohibited _ => exact Field.isEmpty_directives_eq_false prohibited
  | fill _ first _ _ => exact Field.isEmpty_directives_eq_false (Field.hasRule_of_findKeyword? first)

/-- A prohibited field that holds a zero of its kind is left alone. -/
theorem not_injects_of_isZero {now : Instant} {field : Field} {held : Value}
    (prohibited : field.HasRule .prohibit) (zero : held.isZero = true)
    (same : held.kind = field.kind) (value : Value) : ¬ Injects now field held value := by
  intro injects
  cases injects with
  | reset _ apart =>
    rcases apart with nonzero | different
    · rw [zero] at nonzero
      cases nonzero
    · exact different same
  | fill allowed => exact allowed prohibited

/-- A field is given a value exactly for one of the two reasons. -/
theorem injected_eq_some_iff (now : Instant) (field : Field) (held value : Value) :
    injected field.kind field.directives now held = .ok (some value) ↔
      Injects now field held value := by
  unfold injected
  by_cases prohibited : field.HasRule .prohibit
  · rw [if_pos ((field.hasKeyword_iff _).2 prohibited)]
    constructor
    · intro given
      split at given
      · cases given
      · next apart =>
        cases given
        refine .reset prohibited ?_
        by_cases zero : held.isZero = true
        · exact .inr fun same => apart ⟨zero, same⟩
        · exact .inl (Bool.eq_false_iff.2 zero)
    · intro injects
      rw [if_neg fun held => not_injects_of_isZero prohibited held.1 held.2 value injects]
      cases injects with
      | reset _ _ => rfl
      | fill allowed => exact absurd prohibited allowed
  · rw [Field.hasKeyword_eq_false_iff.2 prohibited, if_neg Bool.false_ne_true]
    constructor
    · intro given
      split at given
      · cases given
      · next directive first =>
        split at given
        · next zero => exact .fill prohibited first ((countsAsZero_iff _ _).1 zero) given
        · cases given
    · intro injects
      cases injects with
      | reset refused => exact absurd refused prohibited
      | fill _ first zero read =>
        rw [first]
        simp only [(countsAsZero_iff _ _).2 zero, if_true]
        exact read

/-! ### Why a field is left alone -/

/-- The pass gives no value to a field; the present moment does not matter. -/
inductive Spares (field : Field) (held : Value) : Prop where
  /-- A prohibited field holds a zero of its kind already. -/
  | reset (prohibited : field.HasRule .prohibit) (zero : held.isZero = true)
      (same : held.kind = field.kind)
  | noDefault (allowed : ¬ field.HasRule .prohibit)
      (missing : findKeyword? field.directives .default = none)
  /-- A field with a default does not read as zero. -/
  | filled {directive : Directive} (allowed : ¬ field.HasRule .prohibit)
      (first : findKeyword? field.directives .default = some directive)
      (apart : ¬ ReadsAsZero field.kind held)
  | nested {directive : Directive} (allowed : ¬ field.HasRule .prohibit)
      (first : findKeyword? field.directives .default = some directive)
      (isNested : field.kind = .nested)

/-- The nested kind alone has no defaults. -/
theorem readDefault_eq_none_iff {kind : Kind} {now : Instant} {text : List Char} :
    readDefault kind now text = .ok none ↔ kind = .nested := by
  cases kind with
  | text => simp [readDefault]
  | nested => simp [readDefault]
  | _ =>
    simp only [readDefault, reduceCtorEq, iff_false]
    split <;> simp

/-- A field is left alone exactly for one of these reasons. -/
theorem injected_eq_none_iff (now : Instant) (field : Field) (held : Value) :
    injected field.kind field.directives now held = .ok none ↔ Spares field held := by
  unfold injected
  by_cases prohibited : field.HasRule .prohibit
  · rw [if_pos ((field.hasKeyword_iff _).2 prohibited)]
    constructor
    · intro left
      split at left
      · next zero => exact .reset prohibited zero.1 zero.2
      · cases left
    · intro spares
      cases spares with
      | reset _ zero same => exact if_pos ⟨zero, same⟩
      | noDefault allowed _ => exact absurd prohibited allowed
      | filled allowed _ _ => exact absurd prohibited allowed
      | nested allowed _ _ => exact absurd prohibited allowed
  · rw [Field.hasKeyword_eq_false_iff.2 prohibited, if_neg Bool.false_ne_true]
    constructor
    · intro left
      split at left
      · next missing => exact .noDefault prohibited missing
      · next directive first =>
        split at left
        · exact .nested prohibited first (readDefault_eq_none_iff.1 left)
        · next apart =>
          exact .filled prohibited first fun zero => apart ((countsAsZero_iff _ _).2 zero)
    · intro spares
      cases spares with
      | reset refused _ _ => exact absurd refused prohibited
      | noDefault _ missing => rw [missing]
      | filled _ first apart =>
        rw [first]
        exact if_neg fun zero => apart ((countsAsZero_iff _ _).1 zero)
      | nested _ first isNested =>
        rw [first]
        dsimp only
        rw [readDefault_eq_none_iff.2 isNested, ite_self]

/-! ### The kind of what is written -/

theorem kind_of_readDefault {kind : Kind} {now : Instant} {text : List Char} {value : Value}
    (read : readDefault kind now text = .ok (some value)) : value.kind = kind := by
  cases kind
  case text =>
    cases read
    rfl
  case nested => cases read
  all_goals
    simp only [readDefault] at read
    split at read
    · cases read
      rfl
    · cases read

/-- What is given to a field has the declared kind. -/
theorem Injects.kind_eq {now : Instant} {field : Field} {held value : Value}
    (injects : Injects now field held value) : value.kind = field.kind := by
  cases injects with
  | reset _ _ => exact field.kind.kind_zero
  | fill _ _ _ read => exact kind_of_readDefault read

end Rulebook
