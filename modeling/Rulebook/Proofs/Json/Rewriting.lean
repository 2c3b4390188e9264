/-
This file proves that reading JSON is stable: what was read, written back and read again, is the same
value.

Reading loses what a field has no kind for. Booleans and arrays become their texts, and null becomes
the empty text or the zero value. The loss happens once, however, since the value that comes out is
written as JSON of its own shape. Times are the exception. A text may be read as a time that no stamp
can hold, and the text that this time is written as is not read again.

Trees of objects, strings and numbers lose nothing. They are exactly the JSON values that come back
as they were.
-/
import Rulebook.Proofs.Json.Field
import Rulebook.Proofs.Number.Rounding

namespace Rulebook

/-! ### Numbers -/

/-- A whole number is taken in the signed kind, or in the unsigned one if it is too large. -/
theorem JsonNumber.toValue_whole {value : Int} (fits : -2 ^ 63 ≤ value ∧ value < 2 ^ 64) :
    (∃ number : Int64, (whole value fits).toValue = .integer number ∧ number.toInt = value) ∨
      ∃ number : UInt64, (whole value fits).toValue = .unsigned number ∧
        (number.toNat : Int) = value := by
  by_cases small : value < 2 ^ 63
  · exact .inl ⟨.ofInt value, if_pos small, Int64.toInt_ofInt_of_le fits.1 small⟩
  · refine .inr ⟨.ofNat value.toNat, if_neg small, ?_⟩
    rw [UInt64.toNat_ofNat_of_lt' (show value.toNat < 2 ^ 64 by omega)]
    omega

/-- The kind that a number is taken in holds it. -/
theorem JsonNumber.toJson_toValue (number : JsonNumber) :
    number.toValue.toJson = .number number := by
  cases number with
  | whole value fits =>
    rcases toValue_whole fits with ⟨number, taken, rfl⟩ | ⟨number, taken, rfl⟩
    · rw [taken]
      rfl
    · rw [taken]
      rfl
  | double value finite => exact Value.toJson_float_of_finite finite

/-- A JSON number is finite as a floating-point number, whole or not. -/
theorem JsonNumber.isFinite_toDouble (number : JsonNumber) : number.toDouble.isFinite = true := by
  cases number with
  | whole value fits => exact Double.isFinite_ofInt (by omega)
  | double value finite => exact finite

/-! ### Values taken as they are -/

mutual

/-- A value taken from JSON as it is by itself is taken again from the JSON that it is written as. -/
theorem Json.toValue_toJson_toValue : (json : Json) → json.toValue.toJson.toValue = json.toValue
  | .null => rfl
  | .bool _ => rfl
  | .number value => congrArg Json.toValue value.toJson_toValue
  | .string _ => rfl
  | .array _ => rfl
  | .object members => congrArg Value.nested (Json.toEntries_toMembers_toEntries members)

theorem Json.toEntries_toMembers_toEntries : (members : List (String × Json)) →
    Json.toEntries (Value.toMembers (Json.toEntries members)) = Json.toEntries members
  | [] => rfl
  | (name, item) :: rest => by
    have first := Json.toValue_toJson_toValue item
    have others := Json.toEntries_toMembers_toEntries rest
    simp only [Json.toEntries, Value.toMembers, first, others]

end

/-- A tree of objects with strings and numbers at its leaves. -/
inductive Json.IsTree : Json → Prop where
  | number (value : JsonNumber) : IsTree (.number value)
  | string (content : String) : IsTree (.string content)
  | object {members : List (String × Json)} (trees : ∀ member ∈ members, member.2.IsTree) :
      IsTree (.object members)

theorem Json.isTree_object_iff {members : List (String × Json)} :
    (Json.object members).IsTree ↔ ∀ member ∈ members, member.2.IsTree := by
  constructor
  · rintro (_ | _ | trees)
    exact trees
  · exact .object

mutual

/-- The JSON values that come back as they were are the trees. -/
theorem Json.toJson_toValue_eq_iff : (json : Json) → (json.toValue.toJson = json ↔ json.IsTree)
  | .null => iff_of_false nofun nofun
  | .bool _ => iff_of_false nofun nofun
  | .number value => iff_of_true value.toJson_toValue (.number value)
  | .string content => iff_of_true rfl (.string content)
  | .array _ => iff_of_false nofun nofun
  | .object members => by
    rw [Json.isTree_object_iff, ← Json.toMembers_toEntries_eq_iff members]
    exact Json.object.injEq _ _ ▸ Iff.rfl

theorem Json.toMembers_toEntries_eq_iff : (members : List (String × Json)) →
    (Value.toMembers (Json.toEntries members) = members ↔ ∀ member ∈ members, member.2.IsTree)
  | [] => iff_of_true rfl nofun
  | (name, item) :: rest => by
    rw [List.forall_mem_cons, ← Json.toJson_toValue_eq_iff item,
      ← Json.toMembers_toEntries_eq_iff rest]
    simp only [Json.toEntries, Value.toMembers, List.cons.injEq, Prod.mk.injEq, true_and]

end

/-! ### Values read as a field -/

namespace Value

/-- A number is read as the declared kind, or else it is taken as it is. -/
theorem ofJson_number_cases (kind : Kind) (number : JsonNumber) :
    (∃ value, ofJson kind (some (.number number)) = value ∧ value.kind = kind ∧ value.FitsJson) ∨
      ofJson kind (some (.number number)) = number.toValue := by
  cases kind with
  | integer =>
    cases number with
    | whole value fits =>
      by_cases small : value < 2 ^ 63
      · exact .inl ⟨.integer (.ofInt value), if_pos small, rfl, trivial⟩
      · exact .inr (if_neg small)
    | double value finite => exact .inr rfl
  | unsigned =>
    cases number with
    | whole value fits =>
      by_cases natural : 0 ≤ value
      · exact .inl ⟨.unsigned (.ofNat value.toNat), if_pos natural, rfl, trivial⟩
      · exact .inr (if_neg natural)
    | double value finite => exact .inr rfl
  | float => exact .inl ⟨.float number.toDouble, rfl, rfl, number.isFinite_toDouble⟩
  | _ => cases number <;> exact .inr rfl

/-- All other JSON values than null and numbers are taken as they are by a kind other than that of
times. -/
theorem ofJson_of_not_number {kind : Kind} (notTime : kind ≠ .temporal) {json : Json}
    (present : json ≠ .null) (other : ∀ number, json ≠ .number number) :
    ofJson kind (some json) = json.toValue := by
  cases json with
  | null => exact absurd rfl present
  | number number => exact absurd rfl (other number)
  | string content =>
    cases kind with
    | temporal => exact absurd rfl notTime
    | _ => rfl
  | _ => cases kind <;> rfl

/-- Neither null nor a number is written for what is taken from such a value. -/
theorem toJson_toValue_of_not_number {json : Json} (present : json ≠ .null)
    (other : ∀ number, json ≠ .number number) :
    json.toValue.toJson ≠ .null ∧ ∀ number, json.toValue.toJson ≠ .number number := by
  cases json with
  | null => exact absurd rfl present
  | number number => exact absurd rfl (other number)
  | _ => exact ⟨Json.noConfusion, fun _ => Json.noConfusion⟩

/-- What a field of a kind other than that of times reads, it reads again from the JSON that this is
written as. -/
theorem ofJson_toJson_ofJson {kind : Kind} (notTime : kind ≠ .temporal) (json : Option Json) :
    ofJson kind (some (ofJson kind json).toJson) = ofJson kind json := by
  have zero : ofJson kind (some kind.zero.toJson) = kind.zero := by
    simpa using ofJson_toJson (fitsJson_zero kind)
  cases json with
  | none => exact zero
  | some json =>
    by_cases absent : json = .null
    · subst absent
      exact zero
    by_cases isNumber : ∃ number, json = .number number
    · obtain ⟨number, rfl⟩ := isNumber
      rcases ofJson_number_cases kind number with ⟨value, read, rfl, fits⟩ | taken
      · rw [read, ofJson_toJson fits]
      · rw [taken, number.toJson_toValue, taken]
    · have other := not_exists.1 isNumber
      obtain ⟨againPresent, againOther⟩ := toJson_toValue_of_not_number absent other
      rw [ofJson_of_not_number notTime absent other,
        ofJson_of_not_number notTime againPresent againOther]
      exact json.toValue_toJson_toValue

/-- A field of nested values takes every JSON value but null as it is. -/
theorem ofJson_nested {json : Json} (present : json ≠ .null) :
    ofJson .nested (some json) = json.toValue := by
  cases json with
  | null => exact absurd rfl present
  | number number => cases number <;> rfl
  | _ => rfl

/-- Reading is stable under rewriting, for all kinds but that of times, and a field of nested values
gives back the JSON value itself exactly if this is a tree. -/
theorem ofJson_rewritten :
    (∀ kind (json : Option Json), kind ≠ .temporal →
        ofJson kind (some (ofJson kind json).toJson) = ofJson kind json) ∧
      ∀ json, (ofJson .nested (some json)).toJson = json ↔ json.IsTree := by
  refine ⟨fun kind json notTime => ofJson_toJson_ofJson notTime json, fun json => ?_⟩
  by_cases present : json = .null
  · subst present
    exact iff_of_false nofun nofun
  · rw [ofJson_nested present]
    exact json.toJson_toValue_eq_iff

/-- An array inside an object becomes a text once, and what is written then is a tree. -/
theorem ofJson_rewritten_flags :
    let size : JsonNumber := .whole (2 ^ 64 - 1) (by decide)
    let json : Json := .object [("flags", .array [.null, .bool true]), ("size", .number size)]
    let tree : Json := .object [("flags", .string "[null,true]"), ("size", .number size)]
    Kind.nested ≠ .temporal ∧
      (ofJson .nested (some json)).toJson = tree ∧
      ofJson .nested (some tree) = ofJson .nested (some json) ∧
      tree.IsTree ∧
      (ofJson .nested (some tree)).toJson = tree := by
  intro size json tree
  have notTime : Kind.nested ≠ .temporal := Kind.noConfusion
  have written : (ofJson .nested (some json)).toJson = tree := by cbv
  have again := ofJson_rewritten.1 .nested (some json) notTime
  rw [written] at again
  have isTree : tree.IsTree :=
    .object (List.forall_mem_cons.2 ⟨.string _, List.forall_mem_singleton.2 (.number _)⟩)
  exact ⟨notTime, written, again, isTree, (ofJson_rewritten.2 tree).2 isTree⟩

end Value

end Rulebook
