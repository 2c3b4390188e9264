/-
This file defines instants: points in time seen from a fixed offset to UTC.

An instant counts seconds of UTC since the start of 1970, and nanoseconds within
the second. A leap second is written as the second before it with a thousand
million nanoseconds more. A text has one only where a minute ends, but any second
can be counted so. Instants are kept between the years -262143 and 262142 of UTC,
and every operation that would leave that range yields nothing.
-/
import Rulebook.Calendar.Day

namespace Rulebook

namespace Calendar

/-- Seconds in a day. -/
def secondsPerDay : Int := 86400

/-- Nanoseconds in a second. -/
def nanosPerSecond : Nat := 1000000000

/-- The first second of the range, at the start of the year -262143. -/
def firstSecond : Int := (⟨-262143, 1, 1⟩ : Date).toDays * secondsPerDay

/-- The last second of the range, at the end of the year 262142. -/
def lastSecond : Int := (⟨262142, 12, 31⟩ : Date).toDays * secondsPerDay + 86399

/-- What holds of the parts of an instant: the range of UTC, an offset of less than a day, and
room for a leap second in the nanoseconds. -/
def IsInstant (seconds : Int) (nanos : Nat) (offset : Int) : Prop :=
  firstSecond ≤ seconds ∧ seconds ≤ lastSecond ∧ -86400 < offset ∧ offset < 86400 ∧
    nanos < 2 * nanosPerSecond

instance (seconds : Int) (nanos : Nat) (offset : Int) :
    Decidable (IsInstant seconds nanos offset) := by
  unfold IsInstant
  infer_instance

end Calendar

open Calendar

/-- A point in time with an offset to UTC. -/
structure Instant where
  /-- Seconds of UTC since the start of 1970. -/
  seconds : Int
  /-- Nanoseconds within the second, a thousand million more in a leap second. -/
  nanos : Nat
  /-- Seconds that local time is ahead of UTC. -/
  offset : Int
  isInstant : IsInstant seconds nanos offset
deriving DecidableEq

namespace Instant

/-- The instant with these parts, if they make one. -/
def of? (seconds : Int) (nanos : Nat) (offset : Int) : Option Instant :=
  if isInstant : IsInstant seconds nanos offset then some ⟨seconds, nanos, offset, isInstant⟩
  else none

/-- The start of 1970 in UTC. -/
def epoch : Instant :=
  ⟨0, 0, 0, by decide⟩

/-- Seconds of local time since the start of 1970. -/
def localSeconds (instant : Instant) : Int :=
  instant.seconds + instant.offset

/-- The local date. -/
def date (instant : Instant) : Date :=
  .ofDays (instant.localSeconds / secondsPerDay)

/-- The second of the local day. -/
def secondOfDay (instant : Instant) : Nat :=
  (instant.localSeconds % secondsPerDay).toNat

/-- Whether the instant lies in a leap second. -/
def inLeapSecond (instant : Instant) : Bool :=
  nanosPerSecond ≤ instant.nanos

/-- The instant a number of seconds later, earlier when it is negative. A shift out of a leap
second ends it: going forward it counts as the second before it, going back as the second after
it. -/
def shift? (instant : Instant) (amount : Int) : Option Instant :=
  if amount = 0 ∨ instant.inLeapSecond = false then
    of? (instant.seconds + amount) instant.nanos instant.offset
  else
    let base := if 0 < amount then instant.seconds else instant.seconds + 1
    of? (base + amount) (instant.nanos - nanosPerSecond) instant.offset

/-- The instant with local date, time of day and offset, if there is one. A second of 60 is a leap
second. -/
def ofLocal? (date : Date) (hour minute second nanos : Nat) (offset : Int) : Option Instant :=
  if date.IsValid ∧ hour < 24 ∧ minute < 60 ∧ second ≤ 60 ∧ nanos < nanosPerSecond ∧
      -262143 ≤ date.year ∧ date.year ≤ 262142 then
    let (second, nanos) := if second = 60 then (59, nanos + nanosPerSecond) else (second, nanos)
    of? (date.toDays * secondsPerDay + (hour * 3600 + minute * 60 + second : Nat) - offset) nanos offset
  else none

end Instant

end Rulebook
