import Sokar.Library.GuardedData
import Sokar.Library.KeyedRows
import Sokar.Shared.CustomerLinks
import Sokar.Shared.Inputs

/-!
# Events and their tickets

`event.service`, statement by statement: an order takes seats of a session and issues a
ticket for each, and is cancelled or refunded; tickets are checked in at the door; the
session itself may be changed.  Invoices, the waiting list of an event and the names shown
with an order are left out.
-/

namespace Sokar

open Process Transaction

inductive EventStatus where
  | DRAFT | ACTIVE | ARCHIVED
  deriving DecidableEq

inductive EventSessionStatus where
  | OPEN | CLOSED | CANCELLED
  deriving DecidableEq

inductive EventTicketTypeStatus where
  | ACTIVE | INACTIVE
  deriving DecidableEq

inductive EventOrderStatus where
  | CONFIRMED | CANCELLED | REFUND_PENDING | REFUNDED
  deriving DecidableEq

inductive EventTicketStatus where
  | ISSUED | CHECKED_IN | CANCELLED | REFUNDED
  deriving DecidableEq

structure Event where
  id : Id
  restaurantId : Id
  status : EventStatus
  deriving DecidableEq

structure EventSession where
  id : Id
  restaurantId : Id
  eventId : Id
  startsAt : Instant
  endsAt : Instant
  capacity : Nat
  status : EventSessionStatus
  deriving DecidableEq

structure EventTicketType where
  id : Id
  restaurantId : Id
  eventId : Id
  priceCents : Nat
  currency : String
  maxPerOrder : Nat
  status : EventTicketTypeStatus
  deriving DecidableEq

structure EventOrder where
  id : Id
  restaurantId : Id
  eventId : Id
  sessionId : Id
  ticketTypeId : Id
  customerId : Option Id
  reservationId : Option Id
  idempotencyKey : Option String
  quantity : Nat
  unitPriceCents : Nat
  totalPriceCents : Nat
  currency : String
  status : EventOrderStatus
  refundIdempotencyKey : Option String
  refundReason : Option String
  refundedAt : Option Instant
  cancelledAt : Option Instant
  createdByHash : String
  deriving DecidableEq

structure EventTicket where
  id : Id
  restaurantId : Id
  eventId : Id
  sessionId : Id
  orderId : Id
  ticketTypeId : Id
  codeHash : String
  codeLast4 : String
  status : EventTicketStatus
  checkedInAt : Option Instant
  checkedInByHash : Option String
  deriving DecidableEq

structure EventData where
  events : List Event
  sessions : List EventSession
  ticketTypes : List EventTicketType
  orders : List EventOrder
  tickets : List EventTicket
  links : CustomerLinks
  deriving DecidableEq

inductive EventLock where
  | session (restaurantId sessionId : Id)
  deriving DecidableEq

inductive EventInputCode where
  | EVENT_SESSION_TIME_INVALID | EVENT_SESSION_CAPACITY_INVALID | EVENT_QUANTITY_INVALID
  | EVENT_IDEMPOTENCY_INVALID | EVENT_TICKET_CODE_INVALID | EVENT_REFUND_REASON_INVALID
  deriving DecidableEq

inductive EventConflictCode where
  | EVENT_SESSION_CONFLICT | EVENT_CAPACITY_EXCEEDED | EVENT_SESSION_CLOSED
  | EVENT_SESSION_IN_PAST | EVENT_NOT_ACTIVE | EVENT_TICKET_TYPE_INACTIVE
  | EVENT_IDEMPOTENCY_CONFLICT | EVENT_RESERVATION_INVALID
  deriving DecidableEq

inductive EventOrderStateCode where
  | EVENT_ORDER_CANCELLED | EVENT_ORDER_REFUNDED | EVENT_ORDER_REFUND_CONFLICT
  deriving DecidableEq

inductive EventTicketStateCode where
  | EVENT_TICKET_UNAVAILABLE
  deriving DecidableEq

/-- The errors of the service, and those of the constraints of the tables. -/
inductive EventFailure where
  | EventInputError (code : EventInputCode) (message : String)
  | EventSessionNotFoundError
  | EventTicketTypeNotFoundError
  | EventOrderNotFoundError
  | EventTicketNotFoundError
  | EventCustomerNotFoundError
  | EventConflictError (code : EventConflictCode)
  | EventOrderStateError (code : EventOrderStateCode)
  | EventTicketStateError (code : EventTicketStateCode)
  | P2002
  | checkViolation
  deriving DecidableEq

abbrev EventCallId := Nat

abbrev EventStore := Store EventData EventLock EventCallId

abbrev EventProg := Prog EventStore

namespace EventTicket

variable (ticket : EventTicket)

/-- Still to be admitted, or admitted. -/
def isLive : Bool :=
  ticket.status == .ISSUED || ticket.status == .CHECKED_IN

def cancelled : EventTicket :=
  { ticket with status := .CANCELLED }

def refunded : EventTicket :=
  { ticket with status := .REFUNDED }

def checkedIn (now : Instant) (actorHash : String) : EventTicket :=
  { ticket with status := .CHECKED_IN, checkedInAt := some now, checkedInByHash := some actorHash }

end EventTicket

namespace EventOrder

variable (order : EventOrder)

def cancelled (now : Instant) : EventOrder :=
  { order with status := .CANCELLED, cancelledAt := some now }

/-- An undefined reason leaves the column as it is. -/
def refunded (refundKey : String) (reason : Option (Option String)) (now : Instant) : EventOrder :=
  { order with
    status := .REFUNDED
    refundIdempotencyKey := some refundKey
    refundReason := reason.getD order.refundReason
    refundedAt := some now }

def checks : Bool :=
  decide (1 ≤ order.quantity ∧ order.quantity ≤ 100 ∧ order.unitPriceCents ≤ 1000000 ∧
    order.totalPriceCents ≤ 100000000) && order.currency == "EUR" &&
      order.refundReason.all fun reason => decide (reason.length ≤ 1000)

end EventOrder

def EventSession.checks (session : EventSession) : Bool :=
  decide (session.startsAt < session.endsAt ∧ 1 ≤ session.capacity ∧ session.capacity ≤ 10000)

namespace EventData

variable (data : EventData)

def event? (eventId : Id) : Option Event :=
  KeyedRows.lookup (·.id) data.events eventId

def session? (sessionId : Id) : Option EventSession :=
  KeyedRows.lookup (·.id) data.sessions sessionId

variable (restaurantId sessionId : Id)

def sessionOf? (eventId : Option Id) : Option EventSession :=
  (data.session? sessionId).filter fun session =>
    session.restaurantId == restaurantId && eventId.all fun eventId => session.eventId == eventId

def ticketTypeOf? (restaurantId ticketTypeId eventId : Id) : Option EventTicketType :=
  (KeyedRows.lookup (·.id) data.ticketTypes ticketTypeId).filter fun row =>
    row.restaurantId == restaurantId && row.eventId == eventId

def order? (orderId : Id) : Option EventOrder :=
  KeyedRows.lookup (·.id) data.orders orderId

def orderOf? (restaurantId orderId : Id) : Option EventOrder :=
  (data.order? orderId).filter fun order => order.restaurantId == restaurantId

/-- `findOrderByIdempotency`. -/
def orderByIdempotency? (idempotencyKey : Option String) : Option EventOrder :=
  match idempotencyKey with
  | none => none
  | some key => data.orders.find? fun order => order.idempotencyKey == some key

def orderByRefund? (refundKey : String) : Option EventOrder :=
  data.orders.find? fun order => order.refundIdempotencyKey == some refundKey

def ticketByCode? (restaurantId : Id) (ticketId : Option Id) (codeHash : String) :
    Option EventTicket :=
  data.tickets.find? fun ticket =>
    ticket.restaurantId == restaurantId && (ticketId.all fun ticketId => ticket.id == ticketId) &&
      ticket.codeHash == codeHash

def ticketOf? (restaurantId ticketId : Id) : Option EventTicket :=
  (KeyedRows.lookup (·.id) data.tickets ticketId).filter fun ticket =>
    ticket.restaurantId == restaurantId

def confirmedOrders : List EventOrder :=
  data.orders.filter fun order =>
    order.sessionId == sessionId && order.restaurantId == restaurantId && order.status == .CONFIRMED

def usedSeats : Nat :=
  ((data.confirmedOrders restaurantId sessionId).map (·.quantity)).sum

def updateSession (sessionId : Id) (change : EventSession → EventSession) : EventData :=
  { data with
    sessions := KeyedRows.update (fun session => session.id == sessionId) change data.sessions }

def updateOrders (selected : EventOrder → Bool) (change : EventOrder → EventOrder) : EventData :=
  { data with orders := KeyedRows.update selected change data.orders }

def updateTickets (selected : EventTicket → Bool) (change : EventTicket → EventTicket) : EventData :=
  { data with tickets := KeyedRows.update selected change data.tickets }

def insertOrder (order : EventOrder) (tickets : List EventTicket) : EventData :=
  { data with orders := data.orders ++ [order], tickets := data.tickets ++ tickets }

def keysUnique : Bool :=
  decide (data.sessions.map (·.id)).Nodup &&
    decide (data.sessions.map fun session => (session.eventId, session.startsAt)).Nodup &&
    decide (data.orders.map (·.id)).Nodup &&
    decide (data.orders.filterMap (·.idempotencyKey)).Nodup &&
    decide (data.orders.filterMap (·.refundIdempotencyKey)).Nodup &&
    decide (data.tickets.map (·.id)).Nodup &&
    decide (data.tickets.map (·.codeHash)).Nodup

def violation? : Option EventFailure :=
  if !data.keysUnique then some .P2002
  else if !(data.sessions.all (·.checks) && data.orders.all (·.checks)) then some .checkViolation
  else none

end EventData

section

variable [Sha256]

def hashActor (actor : String) : String :=
  Sha256.sha256 ("sokar:event-actor:" ++ actor)

def hashWithPrefix (start restaurantId value : String) : String :=
  Sha256.sha256 (start ++ restaurantId ++ ":" ++ value)

def hashTicketCode (code : String) : String :=
  Sha256.sha256 ("sokar:event-ticket:" ++ code)

end

def normalizeEventIdempotencyKey (value : Option String) : Except EventFailure (Option String) :=
  normalizeIdempotencyKey value (.EventInputError .EVENT_IDEMPOTENCY_INVALID)

def normalizeSessionSeats (value : ℚ) : Except EventFailure Nat :=
  normalizeCount value 10000 <| .EventInputError .EVENT_SESSION_CAPACITY_INVALID
    "La jauge doit être comprise entre 1 et 10 000 personnes."

def normalizeQuantity (value : ℚ) : Except EventFailure Nat :=
  normalizeCount value 100 <| .EventInputError .EVENT_QUANTITY_INVALID
    "La quantité doit être comprise entre 1 et 100 billets."

def normalizeEventDate (value : Option Instant) : Except EventFailure Instant :=
  match value with
  | none => .error (.EventInputError .EVENT_SESSION_TIME_INVALID "La date de session est invalide.")
  | some instant => .ok instant

/-- The reason may be left undefined or null. -/
def normalizeReason (value : Option (Option String)) :
    Except EventFailure (Option (Option String)) :=
  match value with
  | some (some value) =>
    let reason := collapseSpaces value
    if reason.isEmpty || 1000 < utf16Length reason || hasControlChar reason then
      .error (.EventInputError .EVENT_REFUND_REASON_INVALID
        "Le motif doit contenir entre 1 et 1 000 caractères sûrs.")
    else .ok (some (some reason))
  | _ => .ok value

/-- `/^[A-F0-9]{12}$/`. -/
def isTicketCode (code : String) : Bool :=
  code.length == 12 && code.toList.all fun char =>
    char.isDigit || ('A' ≤ char && char ≤ 'F')

/-- `input.now ?? new Date()`. -/
def eventNow (given : Option Instant) : EventProg Instant :=
  match given with
  | some now => pure now
  | none => query fun _ now => now

/-- The view of an order, with the codes of its tickets when it was just made. -/
structure EventOrderMutationResult where
  order : EventOrder
  ticketCodes : Option (List String)
  replayed : Bool
  deriving DecidableEq

structure CreateEventOrderInput where
  restaurantId : Id
  eventId : Id
  sessionId : Id
  ticketTypeId : Id
  customerId : Option Id
  reservationId : Option Id
  quantity : ℚ
  idempotencyKey : Option String
  actor : String
  now : Option Instant
  /-- The identifier of the order, and the identifier and the code of each ticket. -/
  newOrderId : Id
  newTicketId : Nat → Id
  ticketCode : Nat → String

namespace CreateEventOrderInput

variable (input : CreateEventOrderInput)

/-- `assertOrderReplayMatches`, and the answer to a replay. -/
def replay (row : EventOrder) : Except EventFailure EventOrderMutationResult :=
  if row.eventId != input.eventId || row.sessionId != input.sessionId ||
      row.ticketTypeId != input.ticketTypeId || (row.quantity : ℚ) != input.quantity then
    .error (.EventConflictError .EVENT_IDEMPOTENCY_CONFLICT)
  else .ok { order := row, ticketCodes := none, replayed := true }

/-- The session and the tariff of the order; they are checked before the transaction and
again inside it. -/
def orderable (now : Instant) (quantity : Nat) :
    EventProg (Except EventFailure (EventSession × EventTicketType)) := do
  let found ← query fun data _ =>
    (data.sessionOf? input.restaurantId input.sessionId (some input.eventId)).map fun session =>
      (session, (data.event? session.eventId).map (·.status))
  match found with
  | none => pure (.error .EventSessionNotFoundError)
  | some (session, eventStatus) =>
    if session.status ≠ .OPEN then pure (.error (.EventConflictError .EVENT_SESSION_CLOSED))
    else if session.startsAt ≤ now then
      pure (.error (.EventConflictError .EVENT_SESSION_IN_PAST))
    else if eventStatus ≠ some .ACTIVE then
      pure (.error (.EventConflictError .EVENT_NOT_ACTIVE))
    else do
      let ticketType ← query fun data _ =>
        data.ticketTypeOf? input.restaurantId input.ticketTypeId input.eventId
      match ticketType with
      | none => pure (.error .EventTicketTypeNotFoundError)
      | some ticketType =>
        if ticketType.status ≠ .ACTIVE then
          pure (.error (.EventConflictError .EVENT_TICKET_TYPE_INACTIVE))
        else if ticketType.maxPerOrder < quantity then
          pure (.error (.EventInputError .EVENT_QUANTITY_INVALID
            "La quantité dépasse la limite de ce tarif."))
        else pure (.ok (session, ticketType))

/-- `assertCustomer`, then `assertReservation`. -/
def assertLinks : EventProg (Except EventFailure Unit) := do
  let customer ← query fun data _ =>
    input.customerId.all fun customerId => data.links.hasCustomer input.restaurantId customerId
  if !customer then pure (.error .EventCustomerNotFoundError)
  else do
    let reservation ← query fun data _ => input.reservationId.all fun reservationId =>
      data.links.hasReservation input.restaurantId reservationId input.customerId
    if !reservation then pure (.error (.EventConflictError .EVENT_RESERVATION_INVALID))
    else pure (.ok ())

variable (call : EventCallId)

/-- The tariff, once the session has seats left under its lock. -/
def seated (now : Instant) (quantity : Nat) : EventProg (Except EventFailure EventTicketType) := do
  acquire call (.session input.restaurantId input.sessionId)
  (input.orderable now quantity).andThen fun (session, ticketType) => do
    let used ← query fun data _ => data.usedSeats input.restaurantId input.sessionId
    if session.capacity < used + quantity then
      pure (.error (.EventConflictError .EVENT_CAPACITY_EXCEEDED))
    else pure (.ok ticketType)

variable [Sha256]

def order (idempotencyKey : Option String) (quantity : Nat) (ticketType : EventTicketType) :
    EventOrder where
  id := input.newOrderId
  restaurantId := input.restaurantId
  eventId := input.eventId
  sessionId := input.sessionId
  ticketTypeId := input.ticketTypeId
  customerId := input.customerId
  reservationId := input.reservationId
  idempotencyKey
  quantity
  unitPriceCents := ticketType.priceCents
  totalPriceCents := ticketType.priceCents * quantity
  currency := ticketType.currency
  status := .CONFIRMED
  refundIdempotencyKey := none
  refundReason := none
  refundedAt := none
  cancelledAt := none
  createdByHash := hashActor input.actor

def ticket (index : Nat) : EventTicket where
  id := input.newTicketId index
  restaurantId := input.restaurantId
  eventId := input.eventId
  sessionId := input.sessionId
  orderId := input.newOrderId
  ticketTypeId := input.ticketTypeId
  codeHash := hashTicketCode (input.ticketCode index)
  codeLast4 := String.ofList ((input.ticketCode index).toList.drop
    ((input.ticketCode index).length - 4))
  status := .ISSUED
  checkedInAt := none
  checkedInByHash := none

/-- The transaction; a replay that won the race answers for an order refused as a
duplicate. -/
def create (now : Instant) (quantity : Nat) (idempotencyKey : Option String) :
    EventProg (Except EventFailure EventOrderMutationResult) := do
  let created ← transact call (input.seated call now quantity) EventData.violation?
    (fun ticketType _ _ =>
      { order := input.order idempotencyKey quantity ticketType
        ticketCodes := some ((List.range quantity).map input.ticketCode)
        replayed := false : EventOrderMutationResult })
    fun ticketType data _ => data.insertOrder (input.order idempotencyKey quantity ticketType)
      ((List.range quantity).map input.ticket)
  match created, idempotencyKey with
  | .error .P2002, some key => do
      let raced ← query fun data _ => data.orderByIdempotency? (some key)
      pure (match raced with
        | some row => input.replay row
        | none => created)
  | _, _ => pure created

def createEventOrder : EventProg (Except EventFailure EventOrderMutationResult) := do
  let now ← eventNow input.now
  match normalizeQuantity input.quantity, normalizeEventIdempotencyKey input.idempotencyKey with
  | .error failure, _ => pure (.error failure)
  | .ok _, .error failure => pure (.error failure)
  | .ok quantity, .ok rawKey => do
      let idempotencyKey :=
        rawKey.map (hashWithPrefix "sokar:event-idempotency:" input.restaurantId)
      let replayed ← query fun data _ => data.orderByIdempotency? idempotencyKey
      match replayed with
      | some row => pure (input.replay row)
      | none =>
        (input.orderable now quantity).andThen fun _ =>
          input.assertLinks.andThen fun _ => input.create call now quantity idempotencyKey

end CreateEventOrderInput

/-! ## Cancelling and refunding an order -/

structure CancelEventOrderInput where
  restaurantId : Id
  orderId : Id
  now : Option Instant

namespace CancelEventOrderInput

variable (input : CancelEventOrderInput)

def cancels (order : EventOrder) : Bool :=
  order.id == input.orderId && order.restaurantId == input.restaurantId &&
    order.status == .CONFIRMED

def refusal : Option EventOrder → Except EventFailure EventOrderMutationResult
  | none => .error .EventOrderNotFoundError
  | some current =>
    if current.status = .CANCELLED then
      .ok { order := current, ticketCodes := none, replayed := true }
    else if current.status = .REFUNDED then
      .error (.EventOrderStateError .EVENT_ORDER_REFUNDED)
    else .error (.EventOrderStateError .EVENT_ORDER_CANCELLED)

/-- The order and its tickets are cancelled by statements of their own. -/
def cancelEventOrder (call : EventCallId) :
    EventProg (Except EventFailure EventOrderMutationResult) := do
  let now ← eventNow input.now
  let updated ← commit call (fun data _ => data.orders.any input.cancels)
    fun data _ => data.updateOrders input.cancels (·.cancelled now)
  if !updated then do
    let current ← query fun data _ => data.orderOf? input.restaurantId input.orderId
    pure (refusal current)
  else do
    commit call (fun _ _ => ()) fun data _ => data.updateTickets
      (fun ticket => ticket.orderId == input.orderId && ticket.status == .ISSUED) (·.cancelled)
    let row ← query fun data _ => data.orderOf? input.restaurantId input.orderId
    pure (match row with
      | none => .error .EventOrderNotFoundError
      | some row => .ok { order := row, ticketCodes := none, replayed := false })

end CancelEventOrderInput

structure RefundEventOrderInput where
  restaurantId : Id
  orderId : Id
  idempotencyKey : String
  reason : Option (Option String)
  now : Option Instant

namespace RefundEventOrderInput

/-- The order found is refunded whatever it has become, then its tickets. -/
def refund (call : EventCallId) (current : EventOrder) (refundKey : String)
    (reason : Option (Option String)) (now : Instant) :
    EventProg (Except EventFailure EventOrderMutationResult) :=
  let selected := fun order : EventOrder => order.id == current.id
  (commitUnless call EventData.violation? (fun data _ =>
      (data.order? current.id).map (·.refunded refundKey reason now))
    fun data _ => data.updateOrders selected (·.refunded refundKey reason now)).andThen fun row => do
      commit call (fun _ _ => ()) fun data _ => data.updateTickets
        (fun ticket => ticket.orderId == current.id &&
          (ticket.status == .ISSUED || ticket.status == .CANCELLED)) (·.refunded)
      pure (match row with
        | none => .error .EventOrderNotFoundError
        | some row => .ok { order := row, ticketCodes := none, replayed := false })

variable [Sha256] (input : RefundEventOrderInput)

def refundEventOrder (call : EventCallId) :
    EventProg (Except EventFailure EventOrderMutationResult) := do
  let now ← eventNow input.now
  match normalizeEventIdempotencyKey (some input.idempotencyKey), normalizeReason input.reason with
  | .error failure, _ => pure (.error failure)
  | .ok _, .error failure => pure (.error failure)
  | .ok none, .ok _ =>
    pure (.error (.EventInputError .EVENT_IDEMPOTENCY_INVALID
      "Une clé d'idempotence est requise pour un remboursement."))
  | .ok (some rawKey), .ok reason => do
      let refundKey := hashWithPrefix "sokar:event-refund-idempotency:" input.restaurantId rawKey
      let current ← query fun data _ => data.orderOf? input.restaurantId input.orderId
      match current with
      | none => pure (.error .EventOrderNotFoundError)
      | some current => do
          let existing ← query fun data _ => data.orderByRefund? refundKey
          match existing with
          | some existing =>
            if existing.id != current.id then
              pure (.error (.EventOrderStateError .EVENT_ORDER_REFUND_CONFLICT))
            else pure (.ok { order := existing, ticketCodes := none, replayed := true })
          | none =>
            if current.status = .REFUNDED then
              pure (.error (.EventOrderStateError .EVENT_ORDER_REFUNDED))
            else if current.status ≠ .CONFIRMED ∧ current.status ≠ .CANCELLED ∧
                current.status ≠ .REFUND_PENDING then
              pure (.error (.EventOrderStateError .EVENT_ORDER_CANCELLED))
            else refund call current refundKey reason now

end RefundEventOrderInput

structure CheckInEventTicketInput where
  restaurantId : Id
  ticketId : Option Id
  code : String
  actor : String
  now : Option Instant

structure EventTicketMutationResult where
  ticket : EventTicket
  replayed : Bool
  deriving DecidableEq

namespace CheckInEventTicketInput

variable [Sha256] (input : CheckInEventTicketInput)

/-- The ticket found is admitted if it is still issued. -/
def checkInIssued (call : EventCallId) (current : EventTicket) (now : Instant) :
    EventProg (Except EventFailure EventTicketMutationResult) := do
  let admits := fun ticket : EventTicket => ticket.id == current.id && ticket.status == .ISSUED
  let updated ← commit call (fun data _ => data.tickets.any admits)
    fun data _ => data.updateTickets admits (·.checkedIn now (hashActor input.actor))
  let row ← query fun data _ => data.ticketOf? input.restaurantId current.id
  if !updated then
    pure (match row with
      | some raced =>
        if raced.status = .CHECKED_IN then .ok { ticket := raced, replayed := true }
        else .error (.EventTicketStateError .EVENT_TICKET_UNAVAILABLE)
      | none => .error (.EventTicketStateError .EVENT_TICKET_UNAVAILABLE))
  else
    pure (match row with
      | none => .error .EventTicketNotFoundError
      | some row => .ok { ticket := row, replayed := false })

def checkInEventTicket [UnicodeCase] (call : EventCallId) :
    EventProg (Except EventFailure EventTicketMutationResult) :=
  let code := UnicodeCase.toUpperCase (trim input.code)
  if !isTicketCode code then
    pure (.error (.EventInputError .EVENT_TICKET_CODE_INVALID "Le code billet est invalide."))
  else do
    let current ← query fun data _ =>
      data.ticketByCode? input.restaurantId input.ticketId (hashTicketCode code)
    match current with
    | none => pure (.error .EventTicketNotFoundError)
    | some current =>
      if current.status = .CHECKED_IN then pure (.ok { ticket := current, replayed := true })
      else if current.status ≠ .ISSUED then
        pure (.error (.EventTicketStateError .EVENT_TICKET_UNAVAILABLE))
      else do
        let now ← eventNow input.now
        input.checkInIssued call current now

end CheckInEventTicketInput

structure UpdateEventSessionInput where
  restaurantId : Id
  eventId : Option Id
  sessionId : Id
  startsAt : Option (Option Instant)
  endsAt : Option (Option Instant)
  capacity : Option ℚ
  status : Option EventSessionStatus

structure EventSessionUpdate where
  startsAt : Option Instant
  endsAt : Option Instant
  capacity : Option Nat
  status : Option EventSessionStatus
  deriving DecidableEq

def EventSessionUpdate.set (update : EventSessionUpdate) (session : EventSession) : EventSession :=
  { session with
    startsAt := update.startsAt.getD session.startsAt
    endsAt := update.endsAt.getD session.endsAt
    capacity := update.capacity.getD session.capacity
    status := update.status.getD session.status }

namespace UpdateEventSessionInput

variable (input : UpdateEventSessionInput)

def update (current : EventSession) : Except EventFailure EventSessionUpdate := do
  let startsAt ← input.startsAt.mapM normalizeEventDate
  let endsAt ← input.endsAt.mapM normalizeEventDate
  if endsAt.getD current.endsAt ≤ startsAt.getD current.startsAt then
    throw (.EventInputError .EVENT_SESSION_TIME_INVALID
      "La fin de session doit être postérieure au début.")
  let capacity ← input.capacity.mapM normalizeSessionSeats
  return { startsAt, endsAt, capacity, status := input.status }

def updateEventSession (call : EventCallId) : EventProg (Except EventFailure EventSession) := do
  let current ← query fun data _ => data.sessionOf? input.restaurantId input.sessionId input.eventId
  match current with
  | none => pure (.error .EventSessionNotFoundError)
  | some current =>
    match input.update current with
    | .error failure => pure (.error failure)
    | .ok update =>
      if update = ⟨none, none, none, none⟩ then pure (.ok current)
      else do
        let updated ← commitUnless call EventData.violation?
          (fun data _ => (data.session? current.id).map update.set)
          fun data _ => data.updateSession current.id update.set
        pure (match updated with
          | .ok (some row) => .ok row
          | .ok none => .error .EventSessionNotFoundError
          | .error .P2002 => .error (.EventConflictError .EVENT_SESSION_CONFLICT)
          | .error failure => .error failure)

end UpdateEventSessionInput

end Sokar
