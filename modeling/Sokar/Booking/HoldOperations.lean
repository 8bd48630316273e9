import Sokar.Booking.TableClaims

/-!
# The operations on holds

`HoldService`, statement by statement: a hold is created on a checked or an
allocated table, then released, consumed or expired.  Audit entries and cache
invalidations are left out.
-/

namespace Sokar

open Process Transaction

inductive TableAllocationErrorCode where
  | RESERVATION_NOT_FOUND | TABLE_NOT_FOUND | TABLE_RESTAURANT_MISMATCH | TABLE_NOT_ACTIVE
  | TABLE_CAPACITY_TOO_SMALL | TABLE_MIN_CAPACITY_TOO_HIGH | RESERVATION_TIMES_MISSING
  | TABLE_NOT_AVAILABLE
  deriving DecidableEq

inductive PolicyErrorCode where
  | INVALID_PARTY_SIZE | PARTY_SIZE_EXCEEDS_MAX | INSUFFICIENT_LEAD_TIME
  deriving DecidableEq

inductive BookingError where
  | tableAllocation (code : TableAllocationErrorCode)
  | HoldConflict
  | HoldNotFound
  | HoldAlreadyConsumed
  | ReservationSlotUnavailable
  | ReservationNotFound
  | policyValidation (code : PolicyErrorCode)
  | InvalidStateTransition (fromState toState : ReservationState)
  | InvalidStateInvariant (message : String)
  | alreadyInState (state : ReservationState)
  | RecordNotFound
  | constraint (violation : ConstraintViolation)
  deriving DecidableEq

inductive BookingValue where
  | table (table : Option Table)
  | hold (holdId : Id)
  | reservation (reservationId : Id)
  | unit
  deriving DecidableEq

abbrev BookingResult := Except BookingError BookingValue

/-- `new Date()`, and `NOW()` when it is the first statement of a transaction. -/
def clock : BookingProg Instant :=
  query fun _ now => now

variable (session : SessionId)

/-- Commit unless a constraint fails, which undoes the transaction. -/
def commitChecked {α : Type} (value : α) (change : Database → Instant → Database) :
    BookingProg (Except BookingError α) :=
  commit session
    (fun db now => match violation? (change db now) with
      | none => .ok value
      | some violation => .error (.constraint violation))
    fun db now => if (violation? (change db now)).isNone then change db now else db

/-- The writes a transaction makes, applied when it commits. -/
abbrev Writes := Database → Instant → Database

/-- `$transaction`: the body decides on a plan, whose writes are made when the
transaction commits, or throws and undoes it. -/
def transaction {α β : Type} (body : BookingProg (Except BookingError α)) (value : α → β)
    (writes : α → Writes) : BookingProg (Except BookingError β) := do
  let result ← body
  match result with
  | .error error => rollback session (.error error)
  | .ok plan => commitChecked session (value plan) (writes plan)

/-- Take the row locks of some holds, one after the other. -/
def acquireHolds (session : SessionId) : List Id → BookingProg Unit
  | [] => pure ()
  | holdId :: rest => do
      acquire session (.hold holdId)
      acquireHolds session rest

variable (db : Database)

namespace Database

def insertReservation (row : Reservation) : Database :=
  { db with reservations := db.reservations ++ [row] }

def insertHold (row : AgenticHold) : Database :=
  { db with agenticHolds := db.agenticHolds ++ [row] }

def updateReservation (reservationId : Id) (update : Reservation → Reservation) : Database :=
  { db with
    reservations := db.reservations.map fun row =>
      if row.id = reservationId then update row else row }

def updateHolds (selected : AgenticHold → Bool) (update : AgenticHold → AgenticHold) : Database :=
  { db with
    agenticHolds := db.agenticHolds.map fun row => if selected row then update row else row }

/-- `updateMany` of listed holds that are still active and past their expiry. -/
def expireListed (holdIds : List Id) (now : Instant) : Database :=
  db.updateHolds
    (fun row => holdIds.contains row.id && row.status == .ACTIVE && decide (row.expiresAt < now))
    fun row => { row with status := .EXPIRED }

end Database

variable (args : CreateHoldArgs)

section

/-- The overdue holds of a selection are read, then expired in one transaction. -/
def expireOverdueWhere (selected : AgenticHold → Bool) :
    BookingProg (Except BookingError Unit) := do
  let now ← clock
  let overdue ← query fun db _ =>
    (db.agenticHolds.filter fun row =>
      selected row && row.status == .ACTIVE && decide (row.expiresAt < now)).map (·.id)
  acquireHolds session overdue
  commitChecked session () fun db _ => db.expireListed overdue now

def expireOverdue : BookingProg (Except BookingError Unit) :=
  expireOverdueWhere session fun _ => true

def expireOne (holdId : Id) (expectedType : Option HoldType) :
    BookingProg (Except BookingError Unit) :=
  expireOverdueWhere session fun row =>
    row.id == holdId && expectedType.all fun type => row.type == type

def expireOverdueForSlot (restaurantId : Id) (slotStart : Instant) :
    BookingProg (Except BookingError Unit) :=
  expireOverdueWhere session fun row =>
    row.restaurantId == restaurantId && row.slotStart == slotStart && row.type == .HOLD

/-- The update by identifier does not look at the status again. -/
def releaseHold (holdId : Id) : BookingProg (Except BookingError Unit) := do
  let hold ← query fun db _ => db.agenticHolds.find? fun row => row.id == holdId
  if hold.any fun row => row.status == .ACTIVE then
    acquire session (.hold holdId)
    commitChecked session () fun db _ =>
      db.updateHolds (fun row => row.id == holdId) fun row => { row with status := .RELEASED }
  else rollback session (.ok ())

def consumeHold (holdId reservationId : Id) : BookingProg (Except BookingError Unit) := do
  let hold ← query fun db _ => db.agenticHolds.find? fun row => row.id == holdId
  let now ← clock
  match hold with
  | none => rollback session (.error .HoldNotFound)
  | some hold =>
    if hold.status = .CONSUMED then rollback session (.error .HoldAlreadyConsumed)
    else if hold.type ≠ .HOLD ∨ hold.status = .EXPIRED ∨ hold.expiresAt < now then
      -- the forced expiry is undone with the transaction
      rollback session (.error .HoldNotFound)
    else
      acquire session (.hold holdId)
      let later ← clock
      let latest ← query fun db _ => db.agenticHolds.find? fun row => row.id == holdId
      if latest.any fun row =>
          row.type == .HOLD && row.status == .ACTIVE && decide (later < row.expiresAt) then
        commitChecked session () fun db _ =>
          db.updateHolds (fun row => row.id == holdId) fun row =>
            { row with status := .CONSUMED, reservationId := some reservationId }
      else if latest.any fun row => row.status == .CONSUMED then
        rollback session (.error .HoldAlreadyConsumed)
      else rollback session (.error .HoldNotFound)

structure CreateHoldArgs where
  restaurantId : Id
  partySize : Int
  slotStart : Instant
  slotEnd : Instant
  tableId : Option Id
  preferredSectionId : Option Id
  holdTtlSeconds : Int
  /-- The identifier and the token generated at each attempt. -/
  newId : Nat → Id
  newToken : Nat → String

inductive HoldAttempt where
  | created (holdId : Id)
  | refused (error : BookingError)
  | taken (tableId : Id)

def CreateHoldArgs.row (attempt : Nat) (tableId : Id) (expiresAt createdAt : Instant) :
    AgenticHold :=
  { id := args.newId attempt
    restaurantId := args.restaurantId
    type := .HOLD
    status := .ACTIVE
    partySize := args.partySize
    tableId := some tableId
    slotStart := args.slotStart
    slotEnd := args.slotEnd
    expiresAt
    createdAt
    holdToken := some (args.newToken attempt)
    reservationId := none }

/-- An active hold of the same slot on the table, whatever its expiry. -/
def CreateHoldArgs.sameSlot (tableId : Id) (row : AgenticHold) : Bool :=
  row.restaurantId == args.restaurantId && row.slotStart == args.slotStart &&
    row.type == .HOLD && row.status == .ACTIVE && row.tableId == some tableId

end

section

variable [Icu] [Postgres]

structure SeatingArgs where
  restaurantId : Id
  tableId : Id
  partySize : Int
  startsAt : Instant
  endsAt : Instant
  excludeReservationId : Option Id

def SeatingArgs.allocation (args : SeatingArgs) : AllocateTableInput :=
  { restaurantId := args.restaurantId
    partySize := args.partySize
    startsAt := args.startsAt
    endsAt := args.endsAt
    preferredSectionId := none
    excludeTableIds := []
    excludeReservationId := args.excludeReservationId }

def SeatingArgs.check (args : SeatingArgs) : TableAvailabilityCheck :=
  { tableId := args.tableId
    startsAt := args.startsAt
    endsAt := args.endsAt
    excludeReservationId := args.excludeReservationId
    excludeHoldId := none }

/-- The table a seating is checked against: of the restaurant, active or not. -/
def findSeatingTable (restaurantId tableId : Id) : Option Table :=
  db.tables.find? fun table =>
    table.id == tableId &&
      (db.floorPlanOf? table).any fun plan => plan.restaurantId == restaurantId

/-- The checks on the table row, in the order they are made. -/
def seatingTableError? (table : Table) (partySize : Int) : Option TableAllocationErrorCode :=
  if !table.isActive then some .TABLE_NOT_ACTIVE
  else if table.capacity < partySize then some .TABLE_CAPACITY_TOO_SMALL
  else if partySize < table.minCapacity then some .TABLE_MIN_CAPACITY_TOO_HIGH
  else none

/-- Lock the row of a table, then look for a conflict on it. -/
def lockFreeTable (own : Database → Database) (transactionStart : Instant)
    (check : TableAvailabilityCheck) : BookingProg Bool := do
  let locked ← lockTable session check.tableId
  if !locked then pure false
  else isTableAvailable own transactionStart check

def assertTableAvailableForSeating (transactionStart : Instant) (args : SeatingArgs) :
    BookingProg (Except TableAllocationErrorCode Unit) := do
  lockRestaurantCapacity session args.restaurantId
  let conflict ← hasGlobalCapacityConflict args.allocation (some args.tableId)
  if conflict then pure (.error .TABLE_NOT_AVAILABLE)
  else
    let table ← query fun db _ => findSeatingTable db args.restaurantId args.tableId
    match table with
    | none => pure (.error .TABLE_NOT_FOUND)
    | some table =>
      match seatingTableError? table args.partySize with
      | some code => pure (.error code)
      | none =>
        let available ← lockFreeTable session id transactionStart args.check
        pure (if available then .ok () else .error .TABLE_NOT_AVAILABLE)

def holdTable (transactionStart : Instant) (args : CreateHoldArgs) : BookingProg (Option Id) := do
  match truthy args.tableId with
  | none =>
    let table ← allocate session transactionStart
      { restaurantId := args.restaurantId
        partySize := args.partySize
        startsAt := args.slotStart
        endsAt := args.slotEnd
        preferredSectionId := args.preferredSectionId
        excludeTableIds := []
        excludeReservationId := none }
    pure (table.map (·.id))
  | some tableId =>
    let checked ← assertTableAvailableForSeating session transactionStart
      { restaurantId := args.restaurantId
        tableId
        partySize := args.partySize
        startsAt := args.slotStart
        endsAt := args.slotEnd
        excludeReservationId := none }
    pure (match checked with
      | .ok () => some tableId
      | .error _ => none)

/-- One transaction of `createHold`. -/
def createHoldAttempt (expiresAt : Instant) (attempt : Nat) : BookingProg HoldAttempt := do
  let transactionStart ← clock
  let table ← holdTable session transactionStart args
  match table with
  | none => rollback session (.refused .HoldConflict)
  | some tableId =>
    let existingHold ← query fun db _ => db.agenticHolds.any (args.sameSlot tableId)
    if existingHold then rollback session (.refused .HoldConflict)
    else
      let created ← commitChecked session (args.newId attempt) fun db now =>
        db.insertHold (args.row attempt tableId expiresAt now)
      pure (match created with
        | .ok holdId => .created holdId
        | .error (.constraint .unique) => .taken tableId
        | .error error => .refused error)

/-- The attempts of `createHold`: a unique violation is retried once an overdue hold is
expired, and in any case when the table was allocated, as long as attempts remain. -/
def createHoldLoop (session : SessionId) (args : CreateHoldArgs) (expiresAt : Instant) :
    Nat → Nat → BookingProg BookingResult
  | 0, _ => pure (.error .HoldConflict)
  | remaining + 1, attempt => do
      let outcome ← createHoldAttempt session args expiresAt attempt
      match outcome with
      | .created holdId => pure (.ok (.hold holdId))
      | .refused error => pure (.error error)
      | .taken tableId =>
        let expiredConflict ← query fun db now =>
          db.agenticHolds.any fun row =>
            args.sameSlot tableId row && decide (row.expiresAt < now)
        if expiredConflict then
          let expired ← expireOverdueForSlot session args.restaurantId args.slotStart
          match expired with
          | .error error => pure (.error error)
          | .ok () => createHoldLoop session args expiresAt remaining (attempt + 1)
        else if (truthy args.tableId).isNone && decide (0 < remaining) then
          createHoldLoop session args expiresAt remaining (attempt + 1)
        else pure (.error .HoldConflict)

def createHold : BookingProg BookingResult := do
  let now ← clock
  let expiresAt := now + args.holdTtlSeconds * 1000
  let maxAttempts := if (truthy args.tableId).isSome then 2 else 4
  createHoldLoop session args expiresAt maxAttempts 0

end

end Sokar
