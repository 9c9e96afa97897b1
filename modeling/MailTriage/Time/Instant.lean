import MailTriage.Time.Calendar

/-! # Instants

An instant is a point of time to the nanosecond: a whole second counted from 1970-01-01T00:00:00Z,
and the nanoseconds into it.  A leap second shares the number of the second before it and carries on
its nanoseconds from 10⁹, so that instants stay in order.  Instants reach from the start of the year
−262143 to the end of the year 262142.
-/
namespace MailTriage

/-- The first second of the earliest year that instants reach. -/
def earliestSecond : Int := 86400 * Calendar.dayNumber ⟨-262143, 1, 1⟩

/-- The last second of the latest year that instants reach. -/
def latestSecond : Int := 86400 * Calendar.dayNumber ⟨262143, 1, 1⟩ - 1

/-- A point of time to the nanosecond. -/
structure Instant where
  /-- Whole seconds since 1970-01-01T00:00:00Z; leap seconds are not counted. -/
  second : Int
  /-- Nanoseconds into the second; from 10⁹ on they lie in the leap second that follows it. -/
  nano : Nat
  nano_lt : nano < 2000000000
  leap_at_minute_end : 1000000000 ≤ nano → second % 60 = 59
  earliest_le : earliestSecond ≤ second
  le_latest : second ≤ latestSecond
deriving DecidableEq

namespace Instant

/-- The instant with these seconds and nanoseconds, if there is one. -/
def of? (second : Int) (nano : Nat) : Option Instant :=
  if h : nano < 2000000000 ∧ (1000000000 ≤ nano → second % 60 = 59) ∧ earliestSecond ≤ second
      ∧ second ≤ latestSecond then
    some ⟨second, nano, h.1, h.2.1, h.2.2.1, h.2.2.2⟩
  else none

/-- 1970-01-01T00:00:00Z. -/
def epoch : Instant :=
  ⟨0, 0, by decide, by decide, by decide, by decide⟩

/-- The earliest instant there is. -/
def earliest : Instant :=
  ⟨earliestSecond, 0, by decide, by decide, by decide, by decide⟩

instance : Inhabited Instant := ⟨epoch⟩

/-- Earlier than or the same as: seconds first, then nanoseconds. -/
instance : LE Instant :=
  ⟨fun t u => t.second < u.second ∨ t.second = u.second ∧ t.nano ≤ u.nano⟩

instance (t u : Instant) : Decidable (t ≤ u) :=
  inferInstanceAs (Decidable (_ ∨ _))

/-- The day of an instant, counted from 1970-01-01. -/
def day (t : Instant) : Int := t.second / 86400

/-- The second of the day of an instant. -/
def secondOfDay (t : Instant) : Nat := (t.second % 86400).toNat

/-- The instant cut off after the milliseconds. -/
def truncateToMillis (t : Instant) : Instant :=
  { t with
    nano := t.nano / 1000000 * 1000000
    nano_lt := by have := t.nano_lt; omega
    leap_at_minute_end := fun h => t.leap_at_minute_end (by omega) }

/-- The instant a number of days earlier, if there is one.  Leaving a leap second backwards counts
it as the first second of the next minute. -/
def minusDays? (t : Instant) (days : Nat) : Option Instant :=
  if days = 0 then some t
  else if t.nano < 1000000000 then of? (t.second - 86400 * days) t.nano
  else of? (t.second + 1 - 86400 * days) (t.nano - 1000000000)

theorem of?_eq_some {second : Int} {nano : Nat} {t : Instant} (h : of? second nano = some t) :
    t.second = second ∧ t.nano = nano := by
  unfold of? at h
  split at h
  · cases h; exact ⟨rfl, rfl⟩
  · cases h

end Instant
end MailTriage
