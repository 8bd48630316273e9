import Sokar.Booking.HoldOperations

/-!
# The operations on reservations

Creations, moves to another table, walk-ins and the changes of state, statement by
statement.  Idempotency records, customers, audit entries, notifications and cache
invalidations are left out.
-/

namespace Sokar

open Process Transaction

structure PolicySnapshot where
  maxPartySize : Int
  minLeadTimeMinutes : Int
  holdTtlSeconds : Int
  requireManualValidation : Bool
  deriving DecidableEq

def validateReservationAgainstPolicy (policy : PolicySnapshot) (partySize : Int)
    (startsAt now : Instant) : Except PolicyErrorCode Unit :=
  if partySize < 1 then .error .INVALID_PARTY_SIZE
  else if policy.maxPartySize < partySize then .error .PARTY_SIZE_EXCEEDS_MAX
  else if isSlotTooSoon startsAt policy.minLeadTimeMinutes now then
    .error .INSUFFICIENT_LEAD_TIME
  else .ok ()

def VALID_TRANSITIONS : ReservationState → List ReservationState
  | .PENDING => [.CONFIRMED, .CANCELLED, .EXPIRED, .FAILED]
  | .CONFIRMED => [.SEATED, .CANCELLED, .NO_SHOW, .EXPIRED, .FAILED]
  | .SEATED => [.HONORED, .NO_SHOW]
  | .HONORED | .CANCELLED | .NO_SHOW | .FAILED | .EXPIRED => []

def canTransition (fromState toState : ReservationState) : Bool :=
  (VALID_TRANSITIONS fromState).contains toState

def SEATED_REQUIRES_TABLE : BookingError :=
  .InvalidStateInvariant "SEATED requires a tableId"

/-- `assertCanTransition`, with the table and the start of the reservation. -/
def assertCanTransition (row : Reservation) (toState : ReservationState) (now : Instant) :
    Except BookingError Unit :=
  if !canTransition row.state toState then .error (.InvalidStateTransition row.state toState)
  else if toState = .SEATED ∧ (truthy row.tableId).isNone then .error SEATED_REQUIRES_TABLE
  else if toState = .HONORED ∧ now < row.startsAt.getD row.reservedAt then
    .error (.InvalidStateInvariant "HONORED requires a startsAt in the past")
  else if toState = .NO_SHOW ∧ now < row.startsAt.getD row.reservedAt then
    .error (.InvalidStateInvariant "NO_SHOW requires a startsAt in the past")
  else .ok ()

variable (input : CreateReservationInput)

variable (session : SessionId)

variable (now : Instant)

variable (transactionStart : Instant)

variable (args : WalkInArgs)

section

variable [Icu] [Postgres]

inductive ReservationChannel where
  | PHONE | WEB | MCP | OPENAI_RESERVE | ADMIN | API
  deriving DecidableEq

structure CreateReservationInput where
  restaurantId : Id
  partySize : Int
  startsAt : Instant
  endsAt : Instant
  holdToken : Option String
  tableId : Option Id
  allowOverbook : Bool
  isTest : Bool
  channel : ReservationChannel
  actor : String
  policy : PolicySnapshot
  /-- The identifiers and the token generated for the rows inserted. -/
  newReservationId : Id
  newHoldId : Id
  newHoldToken : String

namespace CreateReservationInput

variable (input : CreateReservationInput)

def matchesHold (hold : AgenticHold) : Bool :=
  hold.restaurantId == input.restaurantId && hold.partySize == input.partySize &&
    hold.slotStart == input.startsAt && hold.slotEnd == input.endsAt

def seatingRequest (tableId holdId : Option Id) (now : Instant) : SeatingRequest :=
  { restaurantId := input.restaurantId
    partySize := input.partySize
    startsAt := input.startsAt
    endsAt := input.endsAt
    tableId
    now
    excludeReservationId := none
    excludeHoldId := holdId }

def allocation : AllocateTableInput :=
  { restaurantId := input.restaurantId
    partySize := input.partySize
    startsAt := input.startsAt
    endsAt := input.endsAt
    preferredSectionId := none
    excludeTableIds := []
    excludeReservationId := none }

/-- The hold inserted to take the slot when no hold is consumed; it names no table. -/
def syntheticHold (status : HoldStatus) (reservationId : Option Id) (now : Instant) : AgenticHold :=
  { id := input.newHoldId
    restaurantId := input.restaurantId
    type := .HOLD
    status
    partySize := input.partySize
    tableId := none
    slotStart := input.startsAt
    slotEnd := input.endsAt
    expiresAt := now + input.policy.holdTtlSeconds * 1000
    createdAt := now
    holdToken := some input.newHoldToken
    reservationId }

def initialState : ReservationState :=
  if input.policy.requireManualValidation && !input.isTest then .PENDING else .CONFIRMED

def row (tableId consumedHoldId : Option Id) (createdAt : Instant) : Reservation :=
  { id := input.newReservationId
    restaurantId := input.restaurantId
    isTest := input.isTest
    state := input.initialState
    partySize := input.partySize
    tableId
    startsAt := some input.startsAt
    endsAt := some input.endsAt
    reservedAt := input.startsAt
    createdAt
    consumedHoldId }

end CreateReservationInput

inductive Consumption where
  | nothing
  | hold (holdId : Id)
  | synthetic (overdue : List Id)
  deriving DecidableEq

def Consumption.consumedHoldId : Consumption → Option Id
  | .nothing => none
  | .hold holdId => some holdId
  | .synthetic _ => some input.newHoldId

def Consumption.pending (db : Database) : Consumption → Database
  | .nothing => db
  | .hold holdId =>
    db.updateHolds (fun row => row.id == holdId) fun row => { row with status := .CONSUMED }
  | .synthetic overdue =>
    (db.expireListed overdue now).insertHold (input.syntheticHold .ACTIVE none now)

/-- What it has written on holds when it commits. -/
def Consumption.final (db : Database) : Consumption → Database
  | .nothing => db
  | .hold holdId =>
    db.updateHolds (fun row => row.id == holdId) fun row =>
      { row with status := .CONSUMED, reservationId := some input.newReservationId }
  | .synthetic overdue =>
    (db.expireListed overdue now).insertHold
      (input.syntheticHold .CONSUMED (some input.newReservationId) now)

def staffTable (input : CreateReservationInput) (tableId : Option Id) :
    BookingProg (Except BookingError (Option Id)) := do
  if input.channel = .ADMIN ∧ input.actor.startsWith "staff:" ∧ !input.allowOverbook then
    let hasTables ← query fun db _ =>
      db.tables.any fun table => table.isActive && onActivePlan db input.restaurantId table
    if hasTables then
      let table ← allocate session transactionStart input.allocation
      match table with
      | none => pure (.error .ReservationSlotUnavailable)
      | some table => pure (.ok (some table.id))
    else pure (.ok tableId)
  else pure (.ok tableId)

/-- The hold of the token, read again, checked and locked. -/
def consumeGivenHold (input : CreateReservationInput) (now : Instant) (holdId : Id) :
    BookingProg (Except BookingError Consumption) := do
  let hold ← query fun db _ => db.agenticHolds.find? fun row => row.id == holdId
  match hold with
  | none => pure (.error .HoldNotFound)
  | some hold =>
    if hold.type ≠ .HOLD then pure (.error .HoldNotFound)
    else if hold.status = .CONSUMED then pure (.error .HoldAlreadyConsumed)
    else if hold.status ≠ .ACTIVE ∨ hold.expiresAt ≤ now ∨ !input.matchesHold hold then
      pure (.error .HoldNotFound)
    else
      acquire session (.hold holdId)
      let locked ← query fun db _ => db.agenticHolds.any fun row =>
        row.id == holdId && row.status == .ACTIVE && row.type == .HOLD &&
          decide (now < row.expiresAt)
      pure (if locked then .ok (.hold holdId) else .error .HoldAlreadyConsumed)

def insertSyntheticHold (input : CreateReservationInput) (now : Instant) :
    BookingProg (Except BookingError Consumption) := do
  let overdue ← query fun db _ =>
    (db.agenticHolds.filter fun row =>
      row.restaurantId == input.restaurantId && row.partySize == input.partySize &&
        row.slotStart == input.startsAt && row.type == .HOLD && row.status == .ACTIVE &&
        decide (row.expiresAt < now)).map (·.id)
  acquireHolds session overdue
  let violation ← query fun db _ =>
    violation? ((Consumption.synthetic overdue).pending input now db)
  pure (match violation with
    | none => .ok (.synthetic overdue)
    | some .unique => .error .HoldConflict
    | some violation => .error (.constraint violation))

def takeSlot (input : CreateReservationInput) (now : Instant) (holdId : Option Id) :
    BookingProg (Except BookingError Consumption) :=
  match truthy holdId with
  | some holdId => consumeGivenHold session input now holdId
  | none =>
    if input.allowOverbook then pure (.ok .nothing)
    else insertSyntheticHold session input now

def recheckTable (transactionStart now : Instant) (input : CreateReservationInput)
    (consumption : Consumption) (tableId : Id) :
    BookingProg (Except BookingError Unit) := do
  let belongsToRestaurant ← query fun db _ => db.tables.any fun table =>
    table.id == tableId && capacityFilter input.allocation table &&
      onActivePlan db input.restaurantId table
  if !belongsToRestaurant then pure (.error .ReservationSlotUnavailable)
  else
    let stillAvailable ← lockFreeTable session (fun db => consumption.pending input now db)
      transactionStart
      { tableId
        startsAt := input.startsAt
        endsAt := input.endsAt
        excludeReservationId := none
        excludeHoldId := consumption.consumedHoldId input }
    pure (if stillAvailable then .ok () else .error .ReservationSlotUnavailable)

/-- `findBlockingReservation`. -/
def findBlockingReservation (db : Database) (restaurantId : Id) (startsAt endsAt : Instant) :
    Bool :=
  db.reservations.any fun row =>
    row.restaurantId == restaurantId && !row.isTest && isActiveReservationState row.state &&
      reservationOverlapWhere startsAt endsAt
        (resolveServiceDurationMinutes (db.capacitySpecials? restaurantId)) row

/-- Without a floor plan, any reservation or hold of the restaurant blocks the window. -/
def checkWholeRestaurant (consumption : Consumption) : BookingProg (Except BookingError Unit) := do
  let blockingReservation ← query fun db _ =>
    findBlockingReservation db input.restaurantId input.startsAt input.endsAt
  if blockingReservation then pure (.error .ReservationSlotUnavailable)
  else
    let blockingHold ← query fun db _ =>
      (consumption.pending input now db).agenticHolds.any fun row =>
        row.restaurantId == input.restaurantId && row.type == .HOLD && row.status == .ACTIVE &&
          decide (now < row.expiresAt) && notExcluded (consumption.consumedHoldId input) row.id &&
          decide (row.slotStart < input.endsAt) && decide (input.startsAt < row.slotEnd)
    pure (if blockingHold then .error .ReservationSlotUnavailable else .ok ())

/-- The check on the table taken, or on the whole restaurant when there is none. -/
def recheckSlot (transactionStart now : Instant) (input : CreateReservationInput)
    (consumption : Consumption) (hasTables : Bool) (tableId : Option Id) :
    BookingProg (Except BookingError Unit) :=
  match truthy tableId with
  | some tableId => recheckTable session transactionStart now input consumption tableId
  | none =>
    if input.allowOverbook || hasTables then pure (.ok ())
    else checkWholeRestaurant input now consumption

/-- The verdict on the placement, skipped for an overbooking. -/
def creationSeating (tableId holdId : Option Id) (now : Instant) :
    BookingProg (Except BookingError Bool) := do
  if input.allowOverbook then pure (.ok false)
  else
    let seating ← seatingConflict fun _ => input.seatingRequest tableId holdId now
    pure (if seating.conflict then .error .ReservationSlotUnavailable else .ok seating.hasTables)

/-- The synthetic hold must still be live when it is consumed. -/
def syntheticIsLive (consumption : Consumption) : BookingProg (Except BookingError Unit) :=
  match consumption with
  | .synthetic _ =>
    pure (if now < (input.syntheticHold .ACTIVE none now).expiresAt then .ok ()
      else .error .HoldAlreadyConsumed)
  | _ => pure (.ok ())

structure CreationPlan where
  now : Instant
  tableId : Option Id
  consumption : Consumption
  deriving DecidableEq

def CreationPlan.writes (plan : CreationPlan) : Writes :=
  fun db later =>
    (plan.consumption.final input plan.now db).insertReservation
      (input.row plan.tableId (plan.consumption.consumedHoldId input) later)

/-- The checks of the transaction of `createReservation`, in order. -/
def planCreation (input : CreateReservationInput) (tableId holdId : Option Id) :
    BookingProg (Except BookingError CreationPlan) := do
  let transactionStart ← clock
  let now ← clock
  lockRestaurantCapacity session input.restaurantId
  (creationSeating input tableId holdId now).andThen fun hasTables =>
    (staffTable session transactionStart input tableId).andThen fun tableId =>
      (takeSlot session input now holdId).andThen fun consumption =>
        (recheckSlot session transactionStart now input consumption hasTables tableId).andThen
          fun _ =>
            (syntheticIsLive input now consumption).andThen fun _ =>
              pure (.ok { now, tableId, consumption })

def createReservationTransaction (input : CreateReservationInput) (tableId holdId : Option Id) :
    BookingProg BookingResult :=
  transaction session (planCreation session input tableId holdId)
    (fun _ => .reservation input.newReservationId) fun plan => plan.writes input

/-- The hold of a token, active and not past its expiry. -/
def findActiveByToken (db : Database) (token : String) (now : Instant) : Option AgenticHold :=
  db.agenticHolds.find? fun row =>
    row.holdToken == some token && row.status == .ACTIVE && decide (now < row.expiresAt)

def createReservation (input : CreateReservationInput) : BookingProg BookingResult := do
  let now ← clock
  match validateReservationAgainstPolicy input.policy input.partySize input.startsAt now with
  | .error code => pure (.error (.policyValidation code))
  | .ok () =>
    let tableId := if input.allowOverbook then none else input.tableId
    match truthy input.holdToken with
    | none =>
      createReservationTransaction session input tableId none
    | some token =>
      let hold ← query fun db now => findActiveByToken db token now
      match hold with
      | none => pure (.error .HoldNotFound)
      | some hold =>
        if !input.matchesHold hold || hold.type != .HOLD then
          pure (.error .HoldNotFound)
        else
          createReservationTransaction session input (tableId.or hold.tableId)
            (some hold.id)

structure ReallocateArgs where
  restaurantId : Id
  reservationId : Id
  newTableId : Id
  deriving DecidableEq

/-- The seating a reservation asks of a table over its own window. -/
def Reservation.seating (row : Reservation) (tableId : Id) (startsAt endsAt : Instant) :
    SeatingArgs :=
  { restaurantId := row.restaurantId
    tableId
    partySize := row.partySize
    startsAt
    endsAt
    excludeReservationId := some row.id }

/-- The checks of the transaction of `reallocate`, on the row read before it. -/
def checkMove (args : ReallocateArgs) (seating : SeatingArgs) :
    BookingProg (Except BookingError Unit) := do
  let unavailable := BookingError.tableAllocation .TABLE_NOT_AVAILABLE
  let transactionStart ← clock
  lockRestaurantCapacity session seating.restaurantId
  let conflict ← hasGlobalCapacityConflict seating.allocation (some args.newTableId)
  if conflict then pure (.error unavailable)
  else
    let available ← lockFreeTable session id transactionStart seating.check
    if !available then pure (.error unavailable)
    else
      acquire session (.reservation args.reservationId)
      pure (.ok ())

def ReallocateArgs.writes (args : ReallocateArgs) : Writes :=
  fun db _ => db.updateReservation args.reservationId fun row =>
    { row with tableId := some args.newTableId }

/-- The reservation and the table are read and checked outside the transaction. -/
def reallocate (args : ReallocateArgs) : BookingProg BookingResult := do
  let reservation ← query fun db _ => db.reservations.find? fun row => row.id == args.reservationId
  match reservation with
  | none => pure (.error .RecordNotFound)
  | some reservation =>
    if reservation.restaurantId ≠ args.restaurantId then
      pure (.error (.tableAllocation .RESERVATION_NOT_FOUND))
    else
      let table ← query fun db _ =>
        (db.tables.find? fun table => table.id == args.newTableId).bind fun table =>
          (db.floorPlanOf? table).map fun plan => (table, plan)
      match table with
      | none => pure (.error .RecordNotFound)
      | some (table, plan) =>
        if plan.restaurantId ≠ args.restaurantId then
          pure (.error (.tableAllocation .TABLE_NOT_FOUND))
        else if plan.restaurantId ≠ reservation.restaurantId then
          pure (.error (.tableAllocation .TABLE_RESTAURANT_MISMATCH))
        else
          match seatingTableError? table reservation.partySize with
          | some code => pure (.error (.tableAllocation code))
          | none =>
            match reservation.startsAt, reservation.endsAt with
            | some startsAt, some endsAt =>
              transaction session
                (checkMove session args
                  (reservation.seating args.newTableId startsAt endsAt))
                (fun _ => .reservation args.reservationId) fun _ => args.writes
            | _, _ => pure (.error (.tableAllocation .RESERVATION_TIMES_MISSING))

/-- `releaseTable`: the row is locked by its update. -/
def releaseTable (reservationId : Id) : BookingProg BookingResult := do
  let reservation ← query fun db _ => db.reservations.find? fun row => row.id == reservationId
  match reservation with
  | none => rollback session (.error .RecordNotFound)
  | some reservation =>
    if (truthy reservation.tableId).isNone then rollback session (.ok .unit)
    else
      acquire session (.reservation reservationId)
      commitChecked session .unit fun db _ =>
        db.updateReservation reservationId fun row => { row with tableId := none }

structure WalkInArgs where
  restaurantId : Id
  tableId : Id
  partySize : Int
  /-- The identifier generated for the reservation. -/
  newId : Id
  deriving DecidableEq

def WalkInArgs.row (startsAt endsAt createdAt : Instant) : Reservation :=
  { id := args.newId
    restaurantId := args.restaurantId
    isTest := false
    state := .SEATED
    partySize := args.partySize
    tableId := some args.tableId
    startsAt := some startsAt
    endsAt := some endsAt
    reservedAt := startsAt
    createdAt
    consumedHoldId := none }

/-- The table is checked and locked, or the transaction throws. -/
def seatOn (args : SeatingArgs) : BookingProg (Except BookingError Unit) := do
  let checked ← assertTableAvailableForSeating session transactionStart args
  pure (checked.mapError .tableAllocation)

def WalkInArgs.seating (startsAt endsAt : Instant) : SeatingArgs :=
  { restaurantId := args.restaurantId
    tableId := args.tableId
    partySize := args.partySize
    startsAt
    endsAt
    excludeReservationId := none }

def checkWalkIn (now endsAt : Instant) : BookingProg (Except BookingError Unit) := do
  let transactionStart ← clock
  seatOn session transactionStart (args.seating now endsAt)

def createWalkIn : BookingProg BookingResult := do
  let now ← clock
  let specials ← query fun db _ => db.capacitySpecials? args.restaurantId
  let endsAt := addMinutes now (resolveServiceDurationMinutes specials)
  transaction session (checkWalkIn session args now endsAt) (fun _ => .reservation args.newId)
    fun _ db later => db.insertReservation (args.row now endsAt later)

structure TransitionArgs where
  reservationId : Id
  restaurantId : Id
  toState : ReservationState
  onlyIfFromState : Option ReservationState
  allowAlreadyInTarget : Bool
  deriving DecidableEq

/-- What a change of state checks on the table when the guests sit down. -/
def checkSeated (args : TransitionArgs) (previous : Reservation) :
    BookingProg (Except BookingError Unit) := do
  if args.toState ≠ .SEATED then pure (.ok ())
  else
    match truthy previous.tableId with
    | none => pure (.error SEATED_REQUIRES_TABLE)
    | some tableId =>
      let now ← clock
      if previous.endsAt.any fun endsAt => decide (endsAt ≤ now) then
        pure (.error (.InvalidStateInvariant "Cannot seat a reservation that has already ended"))
      else
        seatOn session transactionStart
          { restaurantId := args.restaurantId
            tableId
            partySize := previous.partySize
            startsAt := now
            endsAt := previous.endsAt.getD (now + 2 * 60 * 60 * 1000)
            excludeReservationId := some previous.id }

/-- The checks of `transitionInTransaction`, for a change of state that writes no other
field: the state the row leaves, or nothing when it stays as it is. -/
def planTransition (args : TransitionArgs) :
    BookingProg (Except BookingError (Option ReservationState)) := do
  let transactionStart ← clock
  acquire session (.reservation args.reservationId)
  let previous ← query fun db _ => db.reservations.find? fun row =>
    row.id == args.reservationId && row.restaurantId == args.restaurantId
  match previous with
  | none => pure (.error .ReservationNotFound)
  | some previous =>
    if args.onlyIfFromState.any fun fromState => previous.state != fromState then pure (.ok none)
    else if previous.state = args.toState then
      pure (if args.allowAlreadyInTarget then .ok none else .error (.alreadyInState args.toState))
    else
      let now ← clock
      match assertCanTransition previous args.toState now with
      | .error error => pure (.error error)
      | .ok () =>
        (checkSeated session transactionStart args previous).andThen fun _ =>
          pure (.ok (some previous.state))

def TransitionArgs.writes (args : TransitionArgs) (fromState : Option ReservationState) : Writes :=
  fun db _ =>
    if fromState.isSome then
      db.updateReservation args.reservationId fun row => { row with state := args.toState }
    else db

def transition (args : TransitionArgs) : BookingProg BookingResult :=
  transaction session (planTransition session args) (fun _ => .unit) args.writes

inductive BookingCall where
  | allocate (input : AllocateTableInput)
  | assertTableAvailableForSeating (args : SeatingArgs)
  | createHold (args : CreateHoldArgs)
  | createReservation (input : CreateReservationInput)
  | reallocate (args : ReallocateArgs)
  | releaseTable (reservationId : Id)
  | createWalkIn (args : WalkInArgs)
  | transition (args : TransitionArgs)
  | releaseHold (holdId : Id)
  | consumeHold (holdId reservationId : Id)
  | expireOverdue
  | expireOne (holdId : Id) (expectedType : Option HoldType)
  | expireOverdueForSlot (restaurantId : Id) (slotStart : Instant)

def unitResult (result : Except BookingError Unit) : BookingResult :=
  result.map fun _ => .unit

def BookingCall.prog : BookingCall → BookingProg BookingResult
  | .allocate input => do
      let transactionStart ← clock
      let table ← Sokar.allocate session transactionStart input
      rollback session (.ok (.table table))
  | .assertTableAvailableForSeating args => do
      let transactionStart ← clock
      let seated ← seatOn session transactionStart args
      rollback session (unitResult seated)
  | .createHold args => Sokar.createHold session args
  | .createReservation input => Sokar.createReservation session input
  | .reallocate args => Sokar.reallocate session args
  | .releaseTable reservationId => Sokar.releaseTable session reservationId
  | .createWalkIn args => Sokar.createWalkIn session args
  | .transition args => Sokar.transition session args
  | .releaseHold holdId => do
      let result ← Sokar.releaseHold session holdId
      pure (unitResult result)
  | .consumeHold holdId reservationId => do
      let result ← Sokar.consumeHold session holdId reservationId
      pure (unitResult result)
  | .expireOverdue => do
      let result ← Sokar.expireOverdue session
      pure (unitResult result)
  | .expireOne holdId expectedType => do
      let result ← Sokar.expireOne session holdId expectedType
      pure (unitResult result)
  | .expireOverdueForSlot restaurantId slotStart => do
      let result ← Sokar.expireOverdueForSlot session restaurantId slotStart
      pure (unitResult result)

end

end Sokar
