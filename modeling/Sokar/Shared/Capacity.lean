import Sokar.Store.Rows

/-!
# Capacity contract

The overlap tests and the set of active states every reader of reservations
shares.
-/

namespace Sokar

def ACTIVE_RESERVATION_STATES : List ReservationState := [.PENDING, .CONFIRMED, .SEATED]

def isActiveReservationState (state : ReservationState) : Bool :=
  ACTIVE_RESERVATION_STATES.contains state

def intervalsOverlap (aStart aEnd bStart bEnd : Instant) : Bool :=
  decide (aStart < bEnd) && decide (bStart < aEnd)

/-- A comparison with a `NULL` column is not true. -/
def columnHolds (column : Option Instant) (test : Instant → Bool) : Bool :=
  column.any test

/-- The `OR` filter that selects the reservations meeting a window, with a
missing end filled in by the service duration. -/
def reservationOverlapWhere (startsAt endsAt : Instant) (durationMinutes : ℚ)
    (row : Reservation) : Bool :=
  let earliest := addMinutes startsAt (-durationMinutes)
  (columnHolds row.startsAt (· < endsAt) && columnHolds row.endsAt (startsAt < ·)) ||
  (columnHolds row.startsAt (fun start => decide (earliest < start) && decide (start < endsAt)) &&
    row.endsAt.isNone) ||
  (row.startsAt.isNone && decide (row.reservedAt < endsAt) &&
    columnHolds row.endsAt (startsAt < ·)) ||
  (row.startsAt.isNone && (decide (earliest < row.reservedAt) && decide (row.reservedAt < endsAt)) &&
    row.endsAt.isNone)

def DEFAULT_SERVICE_DURATION_MINUTES : ℚ := 120

/-- A strictly positive numeric property of the capacity settings. -/
def positiveField? (specials : Json) (name : String) : Option ℚ :=
  match specials.field? name with
  | some (.num value) => if 0 < value then some value else none
  | _ => none

/-- The service duration in minutes: the explicit setting, then the default
setting, then two hours. -/
def resolveServiceDurationMinutes (specials : Option Json) : ℚ :=
  match specials with
  | some (.obj fields) =>
    (positiveField? (.obj fields) "serviceDurationMinutes").getD <|
      (positiveField? (.obj fields) "defaultServiceDurationMinutes").getD
        DEFAULT_SERVICE_DURATION_MINUTES
  | _ => DEFAULT_SERVICE_DURATION_MINUTES

end Sokar
