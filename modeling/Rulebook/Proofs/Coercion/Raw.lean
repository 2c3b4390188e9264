/-
This file proves the contract of coercion, and that coercion undoes the writing of raw texts.

Coercion gives a value of the declared kind, and this value is in line; or it hands the value back
that it was given. The raw text of a value is brought back to the value by its own kind, as long as
the kind can read what it writes. Times are read where a stamp can hold them; of the others some are
written like another time and read as that. Texts of nested values are not read at all.
-/
import Rulebook.Proofs.Calendar.Instant
import Rulebook.Proofs.Coercion.Text
import Rulebook.Proofs.Coercion.Whole

namespace Rulebook

open Number

/-! ### Raw texts that are read back -/

namespace Value

/-- The kind of the value reads its raw text. -/
inductive IsReadable : Value → Prop where
  | text (content : String) : IsReadable (.text content)
  | integer (number : Int64) : IsReadable (.integer number)
  | unsigned (number : UInt64) : IsReadable (.unsigned number)
  | zeroTime : IsReadable (.temporal none)
  | time {instant : Instant} (fits : instant.FitsStamp) : IsReadable (.temporal (some instant))

theorem raw_text (content : String) : (text content).raw = content :=
  String.ofList_toList

/-- The raw text of an unsigned number is that of a number without a sign. -/
theorem raw_unsigned (number : UInt64) :
    (unsigned number).raw = String.ofList (signedDigits (number.toNat : Int)) :=
  congrArg String.ofList (if_neg (Int.not_lt.2 (Int.natCast_nonneg _))).symm

theorem raw_time_ne_empty (instant : Instant) : (temporal (some instant)).raw ≠ "" :=
  fun empty => instant.text_ne_nil (String.ofList_injective empty)

end Value

/-- The raw text of a value is read as the value. -/
theorem Value.IsReadable.reconcile_raw {value : Value} (readable : value.IsReadable) :
    reconcile value.kind (.text value.raw) = .ok value := by
  cases readable with
  | text content =>
    rw [raw_text]
    exact reconcile_of_kind rfl
  | integer number => exact (reconcile_text_eq_ok_iff (.inl rfl)).2 ⟨rfl, rfl⟩
  | unsigned number =>
    rw [raw_unsigned]
    exact (reconcile_text_eq_ok_iff (.inr rfl)).2 ⟨rfl, rfl⟩
  | zeroTime => rfl
  | @time instant fits =>
    have read : Instant.read? (temporal (some instant)).raw.toList = some instant := by
      rw [← instant.read?_text_eq_some_iff] at fits
      rwa [raw, String.toList_ofList]
    exact (reconcile_temporal_text (raw_time_ne_empty instant)).trans (by rw [read])

/-! ### The contract -/

/-- Coercion ends with a value of the declared kind, which it then leaves alone, or with the value
that it was given; and it brings the raw text of a value back to the value. -/
theorem reconcile_contract (declared : Kind) (value : Value) :
    ((∃ given, reconcile declared value = .ok given ∧ given.kind = declared ∧
          reconcile declared given = .ok given) ∨
        reconcile declared value = .error value) ∧
      (value.IsReadable → reconcile value.kind (.text value.raw) = .ok value) := by
  refine ⟨?_, Value.IsReadable.reconcile_raw⟩
  cases outcome : reconcile declared value with
  | ok given =>
    have same := kind_of_reconcile outcome
    exact .inl ⟨given, rfl, same, reconcile_of_kind same⟩
  | error mismatch =>
    exact .inr (congrArg Except.error (eq_of_reconcile_eq_error outcome))

/-- A leap second at an offset is read back from its raw text. -/
theorem reconcile_raw_leap_second :
    let value : Value := .temporal (some ⟨1483223399, 1250000000, 5400, by decide⟩)
    value.IsReadable ∧ value.raw = "2016-12-31T23:59:60.250+01:30" ∧
      reconcile .temporal (.text "2016-12-31T23:59:60.250+01:30") = .ok value := by
  intro value
  have readable : value.IsReadable := .time (by decide +kernel)
  have raw : value.raw = "2016-12-31T23:59:60.250+01:30" := by decide +kernel
  have read := (reconcile_contract .temporal value).2 readable
  rw [raw] at read
  exact ⟨readable, raw, read⟩

/-- A leap second within a minute has the raw text of the second after it, and the text is read as
that second. -/
theorem raw_within_minute_not_read_back :
    let instant : Instant := ⟨1704078245, 1500000000, 0, by decide⟩
    let after : Instant := ⟨1704078246, 500000000, 0, by decide⟩
    let value : Value := .temporal (some instant)
    instant.date = ⟨2024, 1, 1⟩ ∧ instant.offset = 0 ∧ instant.inLeapSecond = true ∧
      value.raw = "2024-01-01T03:04:06.500+00:00" ∧
      reconcile value.kind (.text value.raw) = .ok (.temporal (some after)) ∧
      reconcile value.kind (.text value.raw) ≠ .ok value := by
  intro instant after value
  have leaps : instant.LeapsTo after := ⟨by decide, by decide, by decide, by decide, by decide⟩
  have sameRaw : value.raw = (Value.temporal (some after)).raw :=
    congrArg String.ofList leaps.text_eq
  have read : reconcile value.kind (.text value.raw) = .ok (.temporal (some after)) := by
    rw [sameRaw]
    exact (Value.IsReadable.time (by decide +kernel)).reconcile_raw
  refine ⟨by decide +kernel, rfl, rfl, by decide +kernel, read, fun same => leaps.ne ?_⟩
  exact Option.some.inj (Value.temporal.inj (Except.ok.inj (read.symm.trans same)))

end Rulebook
