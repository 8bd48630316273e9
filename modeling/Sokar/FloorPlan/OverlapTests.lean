import Sokar.FloorPlan.TableAllocation

/-!
# Three tests of one overlap

Whether a reservation meets a window is asked in a query filter, on the interval of the row, and
in SQL.  The three agree on rows whose interval is not empty, when the end that a service duration
fills in falls on a whole millisecond.
-/

namespace Sokar

theorem sqlServiceDurationMinutes_eq (specials : Option Json) :
    sqlServiceDurationMinutes specials = resolveServiceDurationMinutes specials := by
  cases specials with
  | none => rfl
  | some json =>
    cases json with
    | obj fields => rfl
    | _ => rfl

/-- The interval of a row: its start, and its end or the service duration. -/
def Reservation.interval (row : Reservation) (durationMinutes : ℚ) : Interval :=
  (reservationArrival durationMinutes row).item.interval

theorem dateOf_intCast (ms : Int) : dateOf (ms : ℚ) = ms := by
  unfold dateOf
  split
  · exact Rat.floor_intCast ms
  · exact Rat.ceil_intCast ms

section

variable {minutes : ℚ} {ms : Int} (whole : minutes * msPerMinute = ms) (start : Instant)
include whole

theorem addMinutes_of_whole : addMinutes start minutes = start + ms := by
  have sum : (start : ℚ) + minutes * msPerMinute = ((start + ms : Int) : ℚ) := by
    rw [whole, Int.cast_add]
  rw [addMinutes, sum, dateOf_intCast]

theorem addMinutes_neg_of_whole : addMinutes start (-minutes) = start - ms := by
  have negative : -minutes * msPerMinute = ((-ms : Int) : ℚ) := by
    rw [neg_mul, whole, Int.cast_neg]
  rw [addMinutes_of_whole negative, sub_eq_add_neg]

end

section

variable {row : Reservation} {durationMinutes : ℚ}

/-- The service duration of the row, if it needs one, is a whole number of milliseconds. -/
def WholeDuration (row : Reservation) (durationMinutes : ℚ) : Prop :=
  row.endsAt = none → ∃ ms : Int, durationMinutes * msPerMinute = ms

theorem reservationOverlapWhere_iff (whole : WholeDuration row durationMinutes)
    (startsAt endsAt : Instant) :
    reservationOverlapWhere startsAt endsAt durationMinutes row = true ↔
      intervalsOverlap startsAt endsAt (row.interval durationMinutes).start
        (row.interval durationMinutes).finish = true := by
  cases isEnd : row.endsAt with
  | some finish =>
    cases isStart : row.startsAt <;>
      simp [reservationOverlapWhere, columnHolds, intervalsOverlap, Reservation.interval,
        SeatingItem.interval, reservationArrival, isEnd, isStart, and_comm]
  | none =>
    obtain ⟨ms, isWhole⟩ := whole isEnd
    cases isStart : row.startsAt <;>
      simp [reservationOverlapWhere, columnHolds, intervalsOverlap, Reservation.interval,
        SeatingItem.interval, reservationArrival, isEnd, isStart, addMinutes_of_whole isWhole,
        addMinutes_neg_of_whole isWhole, sub_lt_iff_lt_add]

/-- The row takes part in the conflict query of a table. -/
structure OccupiesTable (row : Reservation) (check : TableAvailabilityCheck) : Prop where
  table : row.tableId = some check.tableId
  real : row.isTest = false
  active : isActiveReservationState row.state = true
  kept : notExcluded check.excludeReservationId row.id = true

theorem hasConflictingReservation_iff {db : Database} {check : TableAvailabilityCheck}
    (isDuration : durationMinutes = resolveServiceDurationMinutes (db.capacitySpecials? row.restaurantId))
    (whole : WholeDuration row durationMinutes) (occupies : OccupiesTable row check)
    (window : check.startsAt < check.endsAt)
    (proper : (row.interval durationMinutes).start < (row.interval durationMinutes).finish) :
    hasConflictingReservation { db with reservations := [row] } check = true ↔
      intervalsOverlap check.startsAt check.endsAt (row.interval durationMinutes).start
        (row.interval durationMinutes).finish = true := by
  have specials : { db with reservations := [row] }.capacitySpecials? row.restaurantId =
      db.capacitySpecials? row.restaurantId := rfl
  have tests : hasConflictingReservation { db with reservations := [row] } check =
      tsrangesOverlap (row.interval durationMinutes).start (row.interval durationMinutes).finish
        check.startsAt check.endsAt := by
    simp only [hasConflictingReservation, List.any_cons, List.any_nil, Bool.or_false, specials,
      sqlServiceDurationMinutes_eq, ← isDuration, occupies.table, occupies.real, occupies.active,
      occupies.kept, beq_self_eq_true, Bool.not_false, Bool.and_true, Bool.true_and]
    cases isEnd : row.endsAt with
    | some finish => simp [Reservation.interval, SeatingItem.interval, reservationArrival, isEnd]
    | none =>
      obtain ⟨ms, isWhole⟩ := whole isEnd
      simp [Reservation.interval, SeatingItem.interval, reservationArrival, isEnd, isWhole,
        addMinutes_of_whole isWhole]
  rw [tests]
  simp only [tsrangesOverlap, intervalsOverlap, Bool.and_eq_true, decide_eq_true_eq, Int.cast_lt]
  constructor
  · rintro ⟨⟨_, before⟩, after⟩
    exact ⟨after, before⟩
  · rintro ⟨after, before⟩
    exact ⟨⟨⟨proper, window⟩, before⟩, after⟩

/-- The query filter, the interval test and the SQL test agree on a reservation with a proper
interval. -/
theorem overlap_tests_agree (db : Database) (check : TableAvailabilityCheck) (row : Reservation)
    (durationMinutes : ℚ)
    (isDuration : durationMinutes = resolveServiceDurationMinutes (db.capacitySpecials? row.restaurantId))
    (whole : WholeDuration row durationMinutes) (occupies : OccupiesTable row check)
    (window : check.startsAt < check.endsAt)
    (proper : (row.interval durationMinutes).start < (row.interval durationMinutes).finish) :
    (reservationOverlapWhere check.startsAt check.endsAt durationMinutes row = true ↔
      intervalsOverlap check.startsAt check.endsAt (row.interval durationMinutes).start
        (row.interval durationMinutes).finish = true) ∧
    (reservationOverlapWhere check.startsAt check.endsAt durationMinutes row = true ↔
      hasConflictingReservation { db with reservations := [row] } check = true) := by
  have filter := reservationOverlapWhere_iff whole check.startsAt check.endsAt
  have sql := hasConflictingReservation_iff isDuration whole occupies window proper
  exact ⟨filter, filter.trans sql.symm⟩

end

/-- A restaurant whose service lasts a hundred minutes and fifteen sixteenths of a second. -/
def oddService : Database where
  restaurants := []
  exposureSettings := [⟨"r", .obj [("serviceDurationMinutes", .num (6401 / 64))]⟩]
  floorPlans := []
  tables := []
  reservations := []
  agenticHolds := []

def seatedFrom (startsAt : Instant) (endsAt : Option Instant) : Reservation :=
  ⟨"a", "r", false, .CONFIRMED, 2, some "t", none, endsAt, startsAt, 1, none⟩

def checkOf (startsAt endsAt : Instant) : TableAvailabilityCheck :=
  ⟨"t", startsAt, endsAt, none, none⟩

/-- Two that stay for an hour are met by a window that begins within it. -/
theorem overlap_tests_agree_hour :
    (reservationOverlapWhere 88000000 90000000 (6401 / 64) (seatedFrom 86400000 (some 90000000)) =
        true ↔ intervalsOverlap 88000000 90000000 86400000 90000000 = true) ∧
    (reservationOverlapWhere 88000000 90000000 (6401 / 64) (seatedFrom 86400000 (some 90000000)) =
        true ↔ hasConflictingReservation
          { oddService with reservations := [seatedFrom 86400000 (some 90000000)] }
          (checkOf 88000000 90000000) = true) :=
  overlap_tests_agree oddService (checkOf 88000000 90000000) (seatedFrom 86400000 (some 90000000))
    (6401 / 64) (by decide +kernel) (fun isOpen => by cases isOpen)
    ⟨rfl, rfl, by decide, by decide⟩ (by decide) (by decide +kernel)

/-- An empty interval is met by a window around it, except in SQL; half a millisecond of the service
duration is lost in the interval only. -/
theorem overlap_tests_differ : (let row := seatedFrom 86400000 (some 86400000);
      reservationOverlapWhere 86300000 86500000 (6401 / 64) row = true ∧
        intervalsOverlap 86300000 86500000 (row.interval (6401 / 64)).start
          (row.interval (6401 / 64)).finish = true ∧
        hasConflictingReservation { oddService with reservations := [row] }
          (checkOf 86300000 86500000) = false) ∧
    (let row := seatedFrom 86400000 none;
      resolveServiceDurationMinutes (oddService.capacitySpecials? row.restaurantId) = 6401 / 64 ∧
        reservationOverlapWhere 92400937 92500000 (6401 / 64) row = true ∧
        intervalsOverlap 92400937 92500000 (row.interval (6401 / 64)).start
          (row.interval (6401 / 64)).finish = false ∧
        hasConflictingReservation { oddService with reservations := [row] }
          (checkOf 92400937 92500000) = true) := by
  decide +kernel

end Sokar
