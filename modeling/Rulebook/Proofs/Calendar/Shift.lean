/-
This file proves where a shift by a number of seconds leads.

Outside of a leap second nothing but the count of seconds changes, and the shift fails exactly when
the new count leaves the calendar. A shift out of a leap second changes the nanoseconds as well, but
in every case a shift forward leads forward and a shift back leads back.
-/
import Rulebook.Calendar.Instant

namespace Rulebook

open Calendar

namespace Instant

variable {now other : Instant} {amount : Int}

/-! ### Distance -/

/-- The other instant is a number of seconds later, at the same fraction of the second and seen from
the same offset to UTC. -/
def IsAway (now other : Instant) (amount : Int) : Prop :=
  other.seconds = now.seconds + amount ∧ other.nanos = now.nanos ∧ other.offset = now.offset

theorem IsAway.symm (away : IsAway now other amount) : IsAway other now (-amount) := by
  obtain ⟨seconds, nanos, offset⟩ := away
  exact ⟨by omega, nanos.symm, offset.symm⟩

/-- Instants at a distance are both in a leap second or both outside. -/
theorem IsAway.inLeapSecond_eq (away : IsAway now other amount) :
    other.inLeapSecond = now.inLeapSecond := by
  unfold inLeapSecond
  rw [away.2.1]

theorem of?_eq_some_iff {seconds : Int} {nanos : Nat} {offset : Int} :
    of? seconds nanos offset = some other ↔
      other.seconds = seconds ∧ other.nanos = nanos ∧ other.offset = offset := by
  unfold of?
  constructor
  · intro made
    split at made
    · obtain rfl := Option.some.inj made
      exact ⟨rfl, rfl, rfl⟩
    · cases made
  · rintro ⟨rfl, rfl, rfl⟩
    exact dif_pos other.isInstant

/-- Outside of a leap second a shift leads to the instant at just its distance. -/
theorem shift?_eq_some_iff (plain : now.inLeapSecond = false) :
    now.shift? amount = some other ↔ now.IsAway other amount := by
  unfold shift?
  rw [if_pos (.inr plain), of?_eq_some_iff, IsAway]

/-- There is an instant at a distance whenever its second lies in the calendar. -/
theorem exists_isAway_iff :
    (∃ other, now.IsAway other amount) ↔
      firstSecond ≤ now.seconds + amount ∧ now.seconds + amount ≤ lastSecond := by
  constructor
  · rintro ⟨other, seconds, -, -⟩
    exact seconds ▸ ⟨other.isInstant.1, other.isInstant.2.1⟩
  · rintro ⟨low, high⟩
    obtain ⟨-, -, west, east, nanosLt⟩ := now.isInstant
    exact ⟨⟨now.seconds + amount, now.nanos, now.offset, low, high, west, east, nanosLt⟩,
      rfl, rfl, rfl⟩

/-! ### Order -/

/-- Instants are ordered by their time in UTC. A leap second comes after all of the second that it
is written as. -/
instance : LE Instant :=
  ⟨fun first second => first.seconds < second.seconds ∨
    first.seconds = second.seconds ∧ first.nanos ≤ second.nanos⟩

theorem le_iff {first second : Instant} :
    first ≤ second ↔ first.seconds < second.seconds ∨
      first.seconds = second.seconds ∧ first.nanos ≤ second.nanos := Iff.rfl

instance (first second : Instant) : Decidable (first ≤ second) :=
  decidable_of_iff _ le_iff.symm

/-- What a shift does: the seconds move by its amount, unless a leap second ends on the way. -/
theorem seconds_of_shift? (shifted : now.shift? amount = some other) :
    other.seconds = now.seconds + amount ∧ other.nanos = now.nanos ∨
    0 < amount ∧ other.seconds = now.seconds + amount ∨
    amount < 0 ∧ other.seconds = now.seconds + 1 + amount ∧ other.nanos < now.nanos := by
  unfold shift? at shifted
  split at shifted
  · obtain ⟨seconds, nanos, -⟩ := of?_eq_some_iff.1 shifted
    exact .inl ⟨seconds, nanos⟩
  · next leaping =>
    obtain ⟨moving, leap⟩ := not_or.1 leaping
    have reached : nanosPerSecond ≤ now.nanos := by simpa [inLeapSecond] using leap
    obtain ⟨seconds, nanos, -⟩ := of?_eq_some_iff.1 shifted
    unfold nanosPerSecond at reached nanos
    split at seconds
    · next forward => exact .inr (.inl ⟨forward, seconds⟩)
    · exact .inr (.inr ⟨by omega, seconds, by omega⟩)

/-- A shift leads to no earlier instant exactly when its amount is not negative. -/
theorem le_of_shift?_iff (shifted : now.shift? amount = some other) : now ≤ other ↔ 0 ≤ amount := by
  have moved := seconds_of_shift? shifted
  rw [le_iff]
  omega

/-- A shift leads to no later instant exactly when its amount is not positive. -/
theorem ge_of_shift?_iff (shifted : now.shift? amount = some other) : other ≤ now ↔ amount ≤ 0 := by
  have moved := seconds_of_shift? shifted
  rw [le_iff]
  omega

end Instant

end Rulebook
