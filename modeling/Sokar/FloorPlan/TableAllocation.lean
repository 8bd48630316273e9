import Sokar.Library.Transaction
import Sokar.FloorPlan.SeatingAdmission

/-!
# Allocation of a physical table

`TableAllocationService`: the candidate tables of a request, the conflict queries
on one table, and the allocation that locks the candidates one by one inside a
transaction.
-/

namespace Sokar

open Process Transaction

/-- The session that runs a transaction. -/
abbrev SessionId := Nat

/-- The advisory lock on the capacity of a restaurant, and the row locks. -/
inductive BookingLock where
  | capacity (restaurantId : Id)
  | table (tableId : Id)
  | reservation (reservationId : Id)
  | hold (holdId : Id)
  deriving DecidableEq

abbrev BookingStore := Store Database BookingLock SessionId

abbrev BookingProg := Prog BookingStore

/-- The collation of the database, behind `ORDER BY name`. -/
class Postgres where
  collate : String → String → Ordering

/-- Code-point collation. -/
@[reducible] def Postgres.c : Postgres where
  collate := compare

structure AllocateTableInput where
  restaurantId : Id
  partySize : Int
  startsAt : Instant
  endsAt : Instant
  preferredSectionId : Option Id
  excludeTableIds : List Id
  excludeReservationId : Option Id
  deriving DecidableEq

structure TableAvailabilityCheck where
  tableId : Id
  startsAt : Instant
  endsAt : Instant
  excludeReservationId : Option Id
  excludeHoldId : Option Id
  deriving DecidableEq

variable (db : Database)

variable (input : AllocateTableInput)

section

variable [Postgres]

/-- `ORDER BY capacity, min_capacity, name`. -/
def compareCandidates (left right : Table) : Ordering :=
  (compare left.capacity right.capacity).then <|
    (compare left.minCapacity right.minCapacity).then <|
      Postgres.collate left.name right.name

def orderCandidates (tables : List Table) : List Table :=
  tables.insertionSort fun left right => (compareCandidates left right).isLE = true

/-- `isActive` and the capacity bounds, with the excluded tables left out. -/
def capacityFilter (table : Table) : Bool :=
  table.isActive && decide (input.partySize ≤ table.capacity) &&
    decide (table.minCapacity ≤ input.partySize) && !input.excludeTableIds.contains table.id

def onActivePlan (restaurantId : Id) (table : Table) : Bool :=
  (db.floorPlanOf? table).any fun plan => plan.restaurantId == restaurantId && plan.isActive

def defaultFloorPlan? (restaurantId : Id) : Option FloorPlan :=
  db.floorPlans.find? fun plan =>
    plan.restaurantId == restaurantId && plan.isActive && plan.isDefault

/-- The candidate tables, best fit first; with a preferred section its tables come
first, then those of the default plan. -/
def findCandidateTables (input : AllocateTableInput) : List Table :=
  match truthy input.preferredSectionId with
  | some sectionId =>
    let preferred := orderCandidates <| db.tables.filter fun table =>
      table.sectionId == some sectionId && onActivePlan db input.restaurantId table &&
        capacityFilter input table
    match defaultFloorPlan? db input.restaurantId with
    | none => preferred
    | some plan =>
      let fallback := orderCandidates <| db.tables.filter fun table =>
        table.floorPlanId == plan.id && capacityFilter input table &&
          !(preferred.map (·.id)).contains table.id
      preferred ++ fallback
  | none =>
    match defaultFloorPlan? db input.restaurantId with
    | none => []
    | some plan =>
      orderCandidates <| db.tables.filter fun table =>
        table.floorPlanId == plan.id && capacityFilter input table

end

/-- `tsrange(a, b) && tsrange(c, d)` on half-open ranges; an empty range overlaps
nothing.  A reversed range makes the statement fail, so it also counts as empty. -/
def tsrangesOverlap (aStart aEnd bStart bEnd : ℚ) : Bool :=
  decide (aStart < aEnd) && decide (bStart < bEnd) && decide (aStart < bEnd) &&
    decide (bStart < aEnd)

/-- The service duration as the conflict query resolves it. -/
def sqlServiceDurationMinutes (specials : Option Json) : ℚ :=
  let field := fun name => specials.bind fun json => positiveField? json name
  (field "serviceDurationMinutes").getD <|
    (field "defaultServiceDurationMinutes").getD DEFAULT_SERVICE_DURATION_MINUTES

/-- An active reservation that is not a test occupies the table on the window.  A
missing start or end is filled in as the seating items fill it in. -/
def hasConflictingReservation (check : TableAvailabilityCheck) : Bool :=
  db.reservations.any fun row =>
    let start : ℚ := row.startsAt.getD row.reservedAt
    let finish : ℚ := match row.endsAt with
      | some endsAt => endsAt
      | none => start + sqlServiceDurationMinutes (db.capacitySpecials? row.restaurantId) * msPerMinute
    row.tableId == some check.tableId && !row.isTest && isActiveReservationState row.state &&
      tsrangesOverlap start finish check.startsAt check.endsAt &&
      notExcluded check.excludeReservationId row.id

/-- A live hold covers the table on the window.  `NOW()` reads the instant at which
the transaction began. -/
def hasConflictingHold (transactionStart : Instant) (check : TableAvailabilityCheck) : Bool :=
  db.agenticHolds.any fun row =>
    row.tableId == some check.tableId && row.status == .ACTIVE &&
      decide (transactionStart < row.expiresAt) &&
      tsrangesOverlap row.slotStart row.slotEnd check.startsAt check.endsAt &&
      notExcluded check.excludeHoldId row.id

variable (session : SessionId)

def lockRestaurantCapacity (restaurantId : Id) : BookingProg Unit :=
  acquire session (.capacity restaurantId)

/-- `SELECT … FOR UPDATE` on a table row; false when there is no such row. -/
def lockTable (tableId : Id) : BookingProg Bool := do
  acquire session (.table tableId)
  query fun db _ => db.tables.any fun table => table.id == tableId

/-- `own` applies the writes the transaction has made and not yet committed. -/
def isTableAvailable (own : Database → Database) (transactionStart : Instant)
    (check : TableAvailabilityCheck) : BookingProg Bool := do
  let hasReservationConflict ← query fun db _ => hasConflictingReservation (own db) check
  let hasHoldConflict ← query fun db _ => hasConflictingHold (own db) transactionStart check
  pure (!hasReservationConflict && !hasHoldConflict)

section

variable [Icu] [Postgres]

/-- The seating verdict, with its reads one statement at a time. -/
def seatingConflict (request : Instant → SeatingRequest) : BookingProg SeatingVerdict := do
  let now ← query fun _ now => now
  let settings ← query fun db _ => db
  let reservations ← query fun db _ => db.reservations
  let agenticHolds ← query fun db _ => db.agenticHolds
  pure (findUnassignedSeatingConflict { settings with reservations, agenticHolds } (request now))

def AllocateTableInput.seatingRequest (tableId : Option Id) (now : Instant) : SeatingRequest :=
  { restaurantId := input.restaurantId
    partySize := input.partySize
    startsAt := input.startsAt
    endsAt := input.endsAt
    tableId
    now
    excludeReservationId := input.excludeReservationId
    excludeHoldId := none }

def hasGlobalCapacityConflict (tableId : Option Id) : BookingProg Bool := do
  let verdict ← seatingConflict (input.seatingRequest tableId)
  pure verdict.conflict

def AllocateTableInput.check (table : Table) : TableAvailabilityCheck :=
  { tableId := table.id
    startsAt := input.startsAt
    endsAt := input.endsAt
    excludeReservationId := input.excludeReservationId
    excludeHoldId := none }

/-- The first candidate whose row can be locked at once and that has no conflict. -/
def tryCandidates (session : SessionId) (transactionStart : Instant)
    (input : AllocateTableInput) : List Table → BookingProg (Option Table)
  | [] => pure none
  | table :: rest => do
      let locked ← tryAcquire session (.table table.id)
      if !locked then
        tryCandidates session transactionStart input rest
      else
        let available ← isTableAvailable id transactionStart (input.check table)
        if available then pure (some table)
        else tryCandidates session transactionStart input rest

/-- `allocate` inside a transaction. -/
def allocate (transactionStart : Instant) (input : AllocateTableInput) :
    BookingProg (Option Table) := do
  lockRestaurantCapacity session input.restaurantId
  let conflict ← hasGlobalCapacityConflict input none
  if conflict then
    pure none
  else
    let candidates ← query fun db _ => findCandidateTables db input
    tryCandidates session transactionStart input candidates

end

section

variable [Postgres]

variable {table : Table}

theorem mem_orderCandidates {tables : List Table} :
    table ∈ orderCandidates tables ↔ table ∈ tables :=
  List.mem_insertionSort _

structure Qualifies (db : Database) (restaurantId : Id) (partySize : Int) (table : Table) :
    Prop where
  row : table ∈ db.tables
  active : table.isActive = true
  fits : table.minCapacity ≤ partySize ∧ partySize ≤ table.capacity
  plan : ∃ plan ∈ db.floorPlans, plan.id = table.floorPlanId ∧
    plan.restaurantId = restaurantId ∧ plan.isActive = true

variable {db : Database}

section

omit [Postgres]

theorem onActivePlan_iff {restaurantId : Id} (onPlan : onActivePlan db restaurantId table = true) :
    ∃ plan ∈ db.floorPlans, plan.id = table.floorPlanId ∧
      plan.restaurantId = restaurantId ∧ plan.isActive = true := by
  simp only [onActivePlan, Option.any_eq_true, Bool.and_eq_true, beq_iff_eq] at onPlan
  obtain ⟨plan, found, sameRestaurant, active⟩ := onPlan
  have sameId := List.find?_some found
  rw [beq_iff_eq] at sameId
  exact ⟨plan, List.mem_of_find?_eq_some found, sameId, sameRestaurant, active⟩

theorem Qualifies.of_filter {input : AllocateTableInput} (row : table ∈ db.tables)
    (passes : capacityFilter input table = true)
    (plan : ∃ plan ∈ db.floorPlans, plan.id = table.floorPlanId ∧
      plan.restaurantId = input.restaurantId ∧ plan.isActive = true) :
    Qualifies db input.restaurantId input.partySize table := by
  simp only [capacityFilter, Bool.and_eq_true, decide_eq_true_eq] at passes
  obtain ⟨⟨⟨active, atMost⟩, atLeast⟩, -⟩ := passes
  exact ⟨row, active, ⟨atLeast, atMost⟩, plan⟩

theorem defaultFloorPlan?_some {restaurantId : Id} {plan : FloorPlan}
    (found : defaultFloorPlan? db restaurantId = some plan) (onPlan : table.floorPlanId = plan.id) :
    ∃ plan ∈ db.floorPlans, plan.id = table.floorPlanId ∧
      plan.restaurantId = restaurantId ∧ plan.isActive = true := by
  have accepted := List.find?_some found
  simp only [Bool.and_eq_true, beq_iff_eq] at accepted
  exact ⟨plan, List.mem_of_find?_eq_some found, onPlan.symm, accepted.1⟩

end

/-- Every candidate is active, stands on an active plan of the restaurant and fits the
party. -/
theorem qualifies_of_candidate {input : AllocateTableInput}
    (candidate : table ∈ findCandidateTables db input) :
    Qualifies db input.restaurantId input.partySize table := by
  unfold findCandidateTables at candidate
  split at candidate
  next sectionId _ =>
    have preferred : ∀ table ∈ orderCandidates (db.tables.filter fun table =>
        table.sectionId == some sectionId && onActivePlan db input.restaurantId table &&
          capacityFilter input table),
        Qualifies db input.restaurantId input.partySize table := by
      intro table member
      simp only [mem_orderCandidates, List.mem_filter, Bool.and_eq_true] at member
      exact .of_filter member.1 member.2.2 (onActivePlan_iff member.2.1.2)
    split at candidate
    next => exact preferred table candidate
    next plan found =>
      rcases List.mem_append.1 candidate with first | fallback
      · exact preferred table first
      · simp only [mem_orderCandidates, List.mem_filter, Bool.and_eq_true, beq_iff_eq] at fallback
        exact .of_filter fallback.1 fallback.2.1.2 (defaultFloorPlan?_some found fallback.2.1.1)
  next =>
    split at candidate
    next => cases candidate
    next plan found =>
      simp only [mem_orderCandidates, List.mem_filter, Bool.and_eq_true, beq_iff_eq] at candidate
      exact .of_filter candidate.1 candidate.2.2 (defaultFloorPlan?_some found candidate.2.1)

end

end Sokar
