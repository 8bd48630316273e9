import Mathlib.Data.List.Sort
import Sokar.Library.FirstFit
import Sokar.Shared.Capacity

/-!
# Virtual placement of reservations and holds without a table

A reservation or hold without a table virtually occupies the smallest free table
that fits it, in order of arrival.  It blocks its interval for everyone only when
no table can absorb it.  Availability, creation, modification and allocation all
go through these functions.
-/

namespace Sokar

structure SeatingTable where
  id : Id
  sectionId : Option Id
  capacity : Int
  minCapacity : Int
  deriving DecidableEq

/-- A reservation or hold: a `tableId` fixes its table, none leaves it to the
virtual placement. -/
structure SeatingItem where
  partySize : Int
  start : Instant
  finish : Instant
  tableId : Option Id
  deriving DecidableEq

structure Interval where
  start : Instant
  finish : Instant
  deriving DecidableEq

def SeatingItem.interval (item : SeatingItem) : Interval :=
  { start := item.start, finish := item.finish }

/-- The intervals of each table (a missing map entry reads as the empty list),
and those that no table absorbs. -/
structure SeatingPlan where
  busyByTable : Id → List Interval
  blocked : List Interval

structure SeatingCandidate where
  start : Instant
  finish : Instant
  partySize : Int
  sectionId : Option Id

/-- A nullable identifier as a condition: null and the empty string are falsy. -/
def truthy (value : Option Id) : Option Id :=
  value.filter (· ≠ "")

def fitsParty (table : SeatingTable) (partySize : Int) : Bool :=
  decide (partySize ≤ table.capacity) && decide (table.minCapacity ≤ partySize)

def isFree (busy : List Interval) (start finish : Instant) : Bool :=
  !busy.any fun interval => intervalsOverlap interval.start interval.finish start finish

variable (busyByTable : Id → List Interval)

/-- `occupy`: append an interval to a table's list. -/
def occupy (tableId : Id) (interval : Interval) : Id → List Interval :=
  Function.update busyByTable tableId (busyByTable tableId ++ [interval])

/-- First loop: an item with a table occupies it. -/
def occupyFixed (item : SeatingItem) : Id → List Interval :=
  match truthy item.tableId with
  | some tableId => occupy busyByTable tableId item.interval
  | none => busyByTable

variable (tables : List SeatingTable)

section

variable [Icu]

/-- Comparator of the size order: capacity, minimum capacity, identifier. -/
def compareBySize (left right : SeatingTable) : Ordering :=
  (compare left.capacity right.capacity).then <|
    (compare left.minCapacity right.minCapacity).then <|
      Icu.localeCompare left.id right.id

def bySize : List SeatingTable :=
  tables.insertionSort fun left right => (compareBySize left right).isLE = true

/-- Second loop: an item without a table goes to the first free table that fits. -/
def placeUnassigned (ordered : List SeatingTable) (plan : SeatingPlan) (item : SeatingItem) :
    SeatingPlan :=
  if (truthy item.tableId).isSome then plan
  else
    match ordered.find? fun table =>
        fitsParty table item.partySize &&
          isFree (plan.busyByTable table.id) item.start item.finish with
    | some table => { plan with busyByTable := occupy plan.busyByTable table.id item.interval }
    | none => { plan with blocked := plan.blocked ++ [item.interval] }

def planUnassignedSeating (items : List SeatingItem) : SeatingPlan :=
  let busyByTable := items.foldl occupyFixed fun _ => []
  items.foldl (placeUnassigned (bySize tables)) { busyByTable, blocked := [] }

end

/-- The window touches an item that no table absorbs. -/
def isWindowBlocked (plan : SeatingPlan) (start finish : Instant) : Bool :=
  plan.blocked.any fun interval => intervalsOverlap interval.start interval.finish start finish

/-- A table that fits (in the requested section, when one is given) is free on
the window. -/
def hasSeatFor (plan : SeatingPlan) (tables : List SeatingTable)
    (candidate : SeatingCandidate) : Bool :=
  tables.any fun table =>
    ((truthy candidate.sectionId).isNone || table.sectionId == candidate.sectionId) &&
      fitsParty table candidate.partySize &&
      isFree (plan.busyByTable table.id) candidate.start candidate.finish

variable (db : Database)

variable (restaurantId : Id)

def loadSeatingTables (defaultFloorOnly : Bool) : List SeatingTable :=
  (db.tables.filter fun table =>
    table.isActive &&
      (db.floorPlanOf? table).any fun plan =>
        plan.restaurantId == restaurantId && plan.isActive &&
          (!defaultFloorOnly || plan.isDefault)).map
    fun table =>
      { id := table.id, sectionId := table.sectionId, capacity := table.capacity
        minCapacity := table.minCapacity }

structure LoadSeatingArgs where
  restaurantId : Id
  date : LocalDate
  timeZone : String
  serviceDurationMinutes : ℚ
  now : Instant
  excludeReservationId : Option Id
  excludeHoldId : Option Id

/-- A loaded row before its key is dropped: its arrival instant, its identifier
and the seating item it stands for. -/
structure Arrival where
  id : Id
  createdAt : Instant
  item : SeatingItem
  deriving DecidableEq

/-- The half-open span of instants that `loadSeatingItems` covers: the local day
and the one after it. -/
structure LoadSpan where
  lower : Instant
  upper : Instant

/-- `id: { not: excluded }`, present only for a truthy identifier. -/
def notExcluded (excluded : Option Id) (id : Id) : Bool :=
  (truthy excluded).all fun other => id != other

/-- The `where` clause on reservations, apart from the window. -/
def seatsRestaurant (excludeReservationId : Option Id) (row : Reservation) : Bool :=
  row.restaurantId == restaurantId && !row.isTest && isActiveReservationState row.state &&
    notExcluded excludeReservationId row.id

/-- The `where` clause on holds, apart from the window. -/
def holdsRestaurant (now : Instant) (excludeHoldId : Option Id) (row : AgenticHold) : Bool :=
  row.restaurantId == restaurantId && row.type == .HOLD && row.status == .ACTIVE &&
    decide (now < row.expiresAt) && notExcluded excludeHoldId row.id

def reservationArrival (serviceDurationMinutes : ℚ) (row : Reservation) : Arrival :=
  let start := row.startsAt.getD row.reservedAt
  { id := row.id
    createdAt := row.createdAt
    item :=
      { partySize := row.partySize
        start
        finish := row.endsAt.getD (addMinutes start serviceDurationMinutes)
        tableId := row.tableId } }

def holdArrival (row : AgenticHold) : Arrival :=
  { id := row.id
    createdAt := row.createdAt
    item :=
      { partySize := row.partySize, start := row.slotStart, finish := row.slotEnd
        tableId := row.tableId } }

variable (request : SeatingRequest)

section

variable [Icu]

def compareArrival (left right : Arrival) : Ordering :=
  (compare left.createdAt right.createdAt).then (Icu.localeCompare left.id right.id)

def arrivalOrder (arrived : List Arrival) : List Arrival :=
  arrived.insertionSort fun left right => (compareArrival left right).isLE = true

/-- From local midnight to one day after the end of the day.  The end is asked
for as `23:59:59.999`, of which the conversion reads `23:59`. -/
def loadSpan (date : LocalDate) (timeZone : String) : LoadSpan :=
  let dayStart := zonedTimeToUtc date { hour := 0, minute := 0 } timeZone
  let dayEnd := zonedTimeToUtc date { hour := 23, minute := 59 } timeZone + 1
  { lower := dayStart, upper := dayEnd + 24 * 60 * 60 * 1000 }

def loadSeatingItems (args : LoadSeatingArgs) : List SeatingItem :=
  let span := loadSpan args.date args.timeZone
  let reservations := db.reservations.filter fun row =>
    seatsRestaurant args.restaurantId args.excludeReservationId row &&
      reservationOverlapWhere span.lower span.upper args.serviceDurationMinutes row
  let holds := db.agenticHolds.filter fun row =>
    holdsRestaurant args.restaurantId args.now args.excludeHoldId row &&
      decide (row.slotStart < span.upper) && decide (span.lower < row.slotEnd)
  let arrived :=
    reservations.map (reservationArrival args.serviceDurationMinutes) ++ holds.map holdArrival
  (arrivalOrder arrived).map (·.item)

structure SeatingVerdict where
  conflict : Bool
  hasTables : Bool
  deriving DecidableEq

structure SeatingRequest where
  restaurantId : Id
  partySize : Int
  startsAt : Instant
  endsAt : Instant
  tableId : Option Id
  now : Instant
  excludeReservationId : Option Id
  excludeHoldId : Option Id
  deriving DecidableEq

/-- The fixed item a request with a table stands for. -/
def SeatingRequest.fixed : SeatingItem :=
  { partySize := request.partySize, start := request.startsAt, finish := request.endsAt
    tableId := request.tableId }

/-- The verdict on loaded tables and items: a request with a table is fixed on it,
one without is placed last. -/
def seatingVerdict (items : List SeatingItem) (request : SeatingRequest) : SeatingVerdict :=
  let hasTables := !tables.isEmpty
  if (truthy request.tableId).isSome then
    let plan := planUnassignedSeating tables (items ++ [request.fixed])
    { conflict := isWindowBlocked plan request.startsAt request.endsAt, hasTables }
  else
    let plan := planUnassignedSeating tables items
    let candidate : SeatingCandidate :=
      { start := request.startsAt, finish := request.endsAt, partySize := request.partySize
        sectionId := none }
    { conflict :=
        isWindowBlocked plan request.startsAt request.endsAt ||
          (hasTables && !hasSeatFor plan tables candidate)
      hasTables }

def restaurantTimeZone : String :=
  ((db.restaurant? restaurantId).map (·.timezone)).getD DEFAULT_RESTAURANT_TIMEZONE

/-- The arguments `findUnassignedSeatingConflict` loads its items with: the local
day on which the window starts. -/
def conflictLoadArgs : LoadSeatingArgs :=
  let timeZone := restaurantTimeZone db request.restaurantId
  { restaurantId := request.restaurantId
    date := (utcToZonedParts request.startsAt timeZone).date
    timeZone
    serviceDurationMinutes :=
      resolveServiceDurationMinutes (db.capacitySpecials? request.restaurantId)
    now := request.now
    excludeReservationId := request.excludeReservationId
    excludeHoldId := request.excludeHoldId }

def findUnassignedSeatingConflict : SeatingVerdict :=
  seatingVerdict (loadSeatingTables db request.restaurantId false)
    (loadSeatingItems db (conflictLoadArgs db request)) request

end

end Sokar
