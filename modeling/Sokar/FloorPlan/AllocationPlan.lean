import Sokar.FloorPlan.TableAllocation

/-!
# Allocation and the groups without a table

`allocate` asks whether the party could be placed last, then takes the first
candidate without a physical conflict.  The groups without a table occupy nothing
physically, so the choice can strand one of them.
-/

namespace Sokar

open Process Transaction

variable (input : AllocateTableInput)

section

variable [Icu]

/-- The items of the day of a request, as `allocate` loads them. -/
def AllocateTableInput.items (db : Database) (now : Instant) : List SeatingItem :=
  loadSeatingItems db (conflictLoadArgs db (input.seatingRequest none now))

/-- The item of a reservation on a table for the requested window. -/
def AllocateTableInput.fixedOn (table : Table) : SeatingItem :=
  { partySize := input.partySize, start := input.startsAt, finish := input.endsAt
    tableId := some table.id }

/-- No reservation or hold conflicts with the request on the table. -/
def PhysicallyFree (db : Database) (transactionStart : Instant) (input : AllocateTableInput)
    (table : Table) : Prop :=
  hasConflictingReservation db (input.check table) = false ∧
    hasConflictingHold db transactionStart (input.check table) = false

omit [Icu] in
theorem run_isTableAvailable (transactionStart : Instant) (check : TableAvailabilityCheck)
    (store : BookingStore) :
    (isTableAvailable id transactionStart check).run store =
      some (!hasConflictingReservation store.data check &&
        !hasConflictingHold store.data transactionStart check, store) := rfl

omit [Icu] in
theorem tryCandidates_run {session : SessionId} {transactionStart : Instant}
    {input : AllocateTableInput} {candidates : List Table} {store store' : BookingStore}
    {table : Table}
    (returned : (tryCandidates session transactionStart input candidates).run store =
      some (some table, store')) :
    table ∈ candidates ∧ PhysicallyFree store.data transactionStart input table := by
  induction candidates generalizing store with
  | nil => cases returned
  | cons candidate rest ih =>
    simp only [tryCandidates, Prog.run_bind, run_tryAcquire, Option.bind_some] at returned
    cases isFree : store.isFreeFor session (.table candidate.id) with
    | false =>
      simp only [isFree, Bool.not_false, if_true, Bool.false_eq_true, if_false] at returned
      obtain ⟨member, free⟩ := ih returned
      exact ⟨List.mem_cons_of_mem _ member, free⟩
    | true =>
      simp only [isFree, Bool.not_true, if_true, Bool.false_eq_true, if_false,
        Prog.run_bind, run_isTableAvailable, Option.bind_some] at returned
      split at returned
      next available =>
        cases returned
        simp only [Bool.and_eq_true, Bool.not_eq_true'] at available
        exact ⟨List.mem_cons_self, available⟩
      next =>
        obtain ⟨member, free⟩ := ih returned
        exact ⟨List.mem_cons_of_mem _ member, free⟩

theorem run_hasGlobalCapacityConflict (tableId : Option Id) (store : BookingStore) :
    (hasGlobalCapacityConflict input tableId).run store =
      some ((findUnassignedSeatingConflict store.data
        (input.seatingRequest tableId store.now)).conflict, store) := rfl

variable [Postgres]

/-- A table that `allocate` returns is a physically free candidate. -/
theorem allocate_run {session : SessionId} {transactionStart : Instant}
    {input : AllocateTableInput} {store store' : BookingStore} {table : Table}
    (returned : (allocate session transactionStart input).run store = some (some table, store')) :
    table ∈ findCandidateTables store.data input ∧
      PhysicallyFree store.data transactionStart input table := by
  simp only [allocate, lockRestaurantCapacity, Prog.run_bind, Option.bind_eq_some_iff] at returned
  obtain ⟨⟨_, locked⟩, acquired, verdict, asked, returned⟩ := returned
  obtain rfl := run_acquire acquired
  cases asked
  split at returned
  next => cases returned
  next =>
    have chosen := tryCandidates_run returned
    exact chosen

end

section

attribute [local instance] Icu.utc Postgres.c

def twoTables (reservations : List Reservation) : Database where
  restaurants := [⟨"r", "UTC", []⟩]
  exposureSettings := []
  floorPlans := [⟨"p", "r", true, true⟩]
  tables := [⟨"t-2", "p", none, "2", 2, 1, true⟩, ⟨"t-4", "p", none, "4", 4, 2, true⟩]
  reservations
  agenticHolds := []

def idleStore (data : Database) : BookingStore :=
  { data, now := 0, owner := fun _ => none }

/-- A guest alone from 19:00 to 21:00, without a table. -/
def loneGuest : Reservation :=
  ⟨"a", "r", false, .CONFIRMED, 1, none, some 68400000, some 75600000, 68400000, 1, none⟩

def tableForTwo : AllocateTableInput := ⟨"r", 2, 68400000, 75600000, none, [], none⟩

def loosePair : Reservation :=
  ⟨"b", "r", false, .CONFIRMED, 2, none, some 68400000, some 75600000, 68400000, 1, none⟩

end

end Sokar
