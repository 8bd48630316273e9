import Mathlib.Data.Rat.Floor

/-!
# Instants, local time and the runtime's locale data

Persisted instants are JavaScript `Date` values, counted here in milliseconds
since the epoch.  A local date `YYYY-MM-DD` is held as its day number and a
local time `HH:MM` as its two numbers; both conversions go through the time-zone
offsets of the runtime, which stay a parameter.
-/

namespace Sokar

/-- Row identifiers are UUID strings. -/
abbrev Id := String

/-- `Date.getTime()`: milliseconds since the epoch. -/
abbrev Instant := Int

/-- A local date, as the number of its day since the epoch. -/
abbrev LocalDate := Int

def msPerMinute : Int := 60000

def msPerDay : Int := 24 * 60 * msPerMinute

/-- What the runtime takes from its ICU data: the collation behind
`localeCompare`, which is a total preorder, and the UTC offset of a zone at an
instant, in milliseconds. -/
class Icu where
  localeCompare : String → String → Ordering
  collation : Std.TransCmp localeCompare
  utcOffset : (timeZone : String) → Instant → Int

attribute [instance] Icu.collation

/-- Code-point collation with every zone at UTC. -/
@[reducible] def Icu.utc : Icu where
  localeCompare := compare
  collation := inferInstance
  utcOffset _ _ := 0

/-- `new Date(ms)`: a fractional count of milliseconds is truncated. -/
def dateOf (ms : ℚ) : Instant :=
  if 0 ≤ ms then ms.floor else ms.ceil

/-- `new Date(start.getTime() + minutes * 60_000)`. -/
def addMinutes (start : Instant) (minutes : ℚ) : Instant :=
  dateOf (start + minutes * msPerMinute)

/-- A wall-clock time `HH:MM`. -/
structure ClockTime where
  hour : Nat
  minute : Nat
  deriving DecidableEq

/-- Milliseconds from midnight to a wall-clock time. -/
def ClockTime.ms (time : ClockTime) : Int :=
  (time.hour * 60 + time.minute) * msPerMinute

def DEFAULT_RESTAURANT_TIMEZONE : String := "Europe/Paris"

section

variable [Icu]

/-- The UTC instant of a local date and time.  The offset applied is the one in
force at the local time read as if it were UTC, rendered to the minute. -/
def zonedTimeToUtc (date : LocalDate) (time : ClockTime) (timeZone : String) : Instant :=
  let naive := date * msPerDay + time.ms
  let localAsUtc := (naive + Icu.utcOffset timeZone naive) / msPerMinute * msPerMinute
  let offsetMs := localAsUtc - naive
  naive - offsetMs

/-- The local date and time a restaurant shows for an instant. -/
structure ZonedParts where
  date : LocalDate
  time : ClockTime
  deriving DecidableEq

def utcToZonedParts (instant : Instant) (timeZone : String) : ZonedParts :=
  let localMs := instant + Icu.utcOffset timeZone instant
  let minutes := (localMs % msPerDay / msPerMinute).toNat
  { date := localMs / msPerDay
    time := { hour := minutes / 60, minute := minutes % 60 } }

end

def isSlotStartPast (slotStart now : Instant) : Bool :=
  decide (slotStart ≤ now)

def isSlotTooSoon (slotStart : Instant) (minLeadTimeMinutes : Int) (now : Instant) : Bool :=
  isSlotStartPast slotStart now ||
    decide (slotStart < now + max 0 minLeadTimeMinutes * msPerMinute)

end Sokar
