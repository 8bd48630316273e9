import Mathlib.Data.List.Sort
import Sokar.Events.SessionCapacity

/-!
# The waiting list of an event

`event.service`, statement by statement: an entry waits for seats of a session until it is
promoted, cancelled, or expires with its session.  A promotion orders the seats under a key
made of the identity of the entry, and then marks the entry if it still waits.
-/

namespace Sokar

open Process Transaction

inductive EventWaitlistStatus where
  | WAITING | PROMOTED | CANCELLED | EXPIRED
  deriving DecidableEq

structure EventWaitlistEntry where
  id : Id
  restaurantId : Id
  eventId : Id
  sessionId : Id
  customerId : Option Id
  quantity : Nat
  idempotencyKey : Option String
  status : EventWaitlistStatus
  promotedAt : Option Instant
  createdByHash : String
  deriving DecidableEq

/-- The tables of events, and the waiting list. -/
structure EventWaitlistData where
  events : EventData
  entries : List EventWaitlistEntry
  deriving DecidableEq

inductive EventWaitlistConflictCode where
  | EVENT_WAITLIST_CLOSED | EVENT_WAITLIST_ALREADY_PROMOTED
  deriving DecidableEq

/-- The errors of the waiting list, and those of the orders it asks for. -/
inductive EventWaitlistFailure where
  | EventWaitlistNotFoundError
  | EventConflictError (code : EventWaitlistConflictCode)
  | event (failure : EventFailure)
  deriving DecidableEq

abbrev EventWaitlistStore := Store EventWaitlistData EventLock EventCallId

abbrev EventWaitlistProg := Prog EventWaitlistStore

namespace EventWaitlistEntry

variable (entry : EventWaitlistEntry)

def cancelled : EventWaitlistEntry :=
  { entry with status := .CANCELLED }

def expired : EventWaitlistEntry :=
  { entry with status := .EXPIRED }

def promoted (promotedAt : Instant) : EventWaitlistEntry :=
  { entry with status := .PROMOTED, promotedAt := some promotedAt }

end EventWaitlistEntry

namespace EventWaitlistData

variable (data : EventWaitlistData)

def entryById? (entryId : Id) : Option EventWaitlistEntry :=
  KeyedRows.lookup (·.id) data.entries entryId

def entryOf? (restaurantId entryId : Id) : Option EventWaitlistEntry :=
  (data.entryById? entryId).filter fun entry => entry.restaurantId == restaurantId

/-- `findWaitlistByIdempotency`. -/
def entryByIdempotency? (idempotencyKey : Option String) : Option EventWaitlistEntry :=
  match idempotencyKey with
  | none => none
  | some key => data.entries.find? fun entry => entry.idempotencyKey == some key

def updateEntries (selected : EventWaitlistEntry → Bool)
    (change : EventWaitlistEntry → EventWaitlistEntry) : EventWaitlistData :=
  { data with entries := KeyedRows.update selected change data.entries }

def insertEntry (entry : EventWaitlistEntry) : EventWaitlistData :=
  { data with entries := data.entries ++ [entry] }

def violation? : Option EventWaitlistFailure :=
  if !(decide (data.entries.map (·.id)).Nodup &&
      decide (data.entries.filterMap (·.idempotencyKey)).Nodup) then some (.event .P2002)
  else if !(data.entries.all fun entry => decide (1 ≤ entry.quantity ∧ entry.quantity ≤ 100)) then
    some (.event .checkViolation)
  else none

end EventWaitlistData

def eventPortion : Portion EventWaitlistData EventLock EventData EventLock where
  get := (·.events)
  put events data := { data with events }
  lock := id
  unlock := some
  put_get _ := rfl
  lock_of_unlock same := (Option.some.inj same).symm

def waitlistNow (given : Option Instant) : EventWaitlistProg Instant :=
  match given with
  | some now => pure now
  | none => query fun _ now => now

structure EventWaitlistMutationResult where
  entry : EventWaitlistEntry
  replayed : Bool
  deriving DecidableEq

structure JoinEventWaitlistInput where
  restaurantId : Id
  eventId : Id
  sessionId : Id
  customerId : Option Id
  phoneCustomerId : Option Id
  quantity : ℚ
  idempotencyKey : Option String
  actor : String
  now : Option Instant
  newEntryId : Id

namespace JoinEventWaitlistInput

variable (input : JoinEventWaitlistInput)

def joinable (now : Instant) : EventWaitlistProg (Except EventWaitlistFailure Unit) := do
  let found ← query fun data _ =>
    (data.events.sessionOf? input.restaurantId input.sessionId (some input.eventId)).map
      fun session => (session, (data.events.event? session.eventId).map (·.status))
  match found with
  | none => pure (.error (.event .EventSessionNotFoundError))
  | some (session, eventStatus) =>
    if session.status ≠ .OPEN ∨ session.startsAt ≤ now then
      pure (.error (.EventConflictError .EVENT_WAITLIST_CLOSED))
    else if eventStatus ≠ some .ACTIVE then
      pure (.error (.event (.EventConflictError .EVENT_NOT_ACTIVE)))
    else do
      let customer ← query fun data _ => input.customerId.all fun customerId =>
        data.events.links.hasCustomer input.restaurantId customerId
      pure (if customer then .ok () else .error (.event .EventCustomerNotFoundError))

variable [Sha256]

def entry (idempotencyKey : Option String) (quantity : Nat) : EventWaitlistEntry where
  id := input.newEntryId
  restaurantId := input.restaurantId
  eventId := input.eventId
  sessionId := input.sessionId
  customerId := input.customerId.or input.phoneCustomerId
  quantity
  idempotencyKey
  status := .WAITING
  promotedAt := none
  createdByHash := hashActor input.actor

/-- The insertion; a replay that won the race answers for an entry refused as a duplicate. -/
def insert (call : EventCallId) (idempotencyKey : Option String) (quantity : Nat) :
    EventWaitlistProg (Except EventWaitlistFailure EventWaitlistMutationResult) := do
  let created ← commitUnless call EventWaitlistData.violation?
    (fun _ _ => { entry := input.entry idempotencyKey quantity, replayed := false :
      EventWaitlistMutationResult })
    fun data _ => data.insertEntry (input.entry idempotencyKey quantity)
  match created, idempotencyKey with
  | .error (.event .P2002), some key => do
      let raced ← query fun data _ => data.entryByIdempotency? (some key)
      pure (match raced with
        | some entry => .ok { entry, replayed := true }
        | none => created)
  | _, _ => pure created

def joinEventWaitlist (call : EventCallId) :
    EventWaitlistProg (Except EventWaitlistFailure EventWaitlistMutationResult) := do
  let now ← waitlistNow input.now
  match normalizeQuantity input.quantity, normalizeEventIdempotencyKey input.idempotencyKey with
  | .error failure, _ => pure (.error (.event failure))
  | .ok _, .error failure => pure (.error (.event failure))
  | .ok quantity, .ok rawKey => do
      let idempotencyKey :=
        rawKey.map (hashWithPrefix "sokar:event-waitlist-idempotency:" input.restaurantId)
      let replay ← query fun data _ => data.entryByIdempotency? idempotencyKey
      match replay with
      | some entry => pure (.ok { entry, replayed := true })
      | none => (input.joinable now).andThen fun _ => input.insert call idempotencyKey quantity

end JoinEventWaitlistInput

structure CancelEventWaitlistInput where
  restaurantId : Id
  entryId : Id

namespace CancelEventWaitlistInput

variable (input : CancelEventWaitlistInput)

def cancels (entry : EventWaitlistEntry) : Bool :=
  entry.id == input.entryId && entry.restaurantId == input.restaurantId && entry.status == .WAITING

def cancelEventWaitlist (call : EventCallId) :
    EventWaitlistProg (Except EventWaitlistFailure EventWaitlistMutationResult) := do
  let updated ← commit call (fun data _ => data.entries.any input.cancels)
    fun data _ => data.updateEntries input.cancels (·.cancelled)
  let row ← query fun data _ => data.entryOf? input.restaurantId input.entryId
  pure (match row with
    | none => .error .EventWaitlistNotFoundError
    | some entry => .ok { entry, replayed := !updated && entry.status == .CANCELLED })

end CancelEventWaitlistInput

structure PromoteEventWaitlistInput where
  restaurantId : Id
  entryId : Id
  ticketTypeId : Id
  actor : String
  now : Option Instant
  /-- The identifier of the order, and the identifier and the code of each ticket. -/
  newOrderId : Id
  newTicketId : Nat → Id
  ticketCode : Nat → String

namespace PromoteEventWaitlistInput

variable (input : PromoteEventWaitlistInput)

def orderInput (entry : EventWaitlistEntry) : CreateEventOrderInput where
  restaurantId := input.restaurantId
  eventId := entry.eventId
  sessionId := entry.sessionId
  ticketTypeId := input.ticketTypeId
  customerId := entry.customerId
  reservationId := none
  quantity := entry.quantity
  idempotencyKey := some ("waitlist-" ++ entry.id)
  actor := input.actor
  now := input.now
  newOrderId := input.newOrderId
  newTicketId := input.newTicketId
  ticketCode := input.ticketCode

def promotes (found entry : EventWaitlistEntry) : Bool :=
  entry.id == found.id && entry.restaurantId == input.restaurantId && entry.status == .WAITING

/-- The entry is marked once its seats are ordered. -/
def mark (call : EventCallId) (found : EventWaitlistEntry) : EventWaitlistProg Unit := do
  let promotedAt ← waitlistNow input.now
  commit call (fun _ _ => ()) fun data _ =>
    data.updateEntries (input.promotes found) (·.promoted promotedAt)

variable [Sha256]

def promoteEventWaitlist (call : EventCallId) :
    EventWaitlistProg (Except EventWaitlistFailure EventOrderMutationResult) := do
  let entry ← query fun data _ => data.entryOf? input.restaurantId input.entryId
  match entry with
  | none => pure (.error .EventWaitlistNotFoundError)
  | some entry =>
    if entry.status = .PROMOTED then
      pure (.error (.EventConflictError .EVENT_WAITLIST_ALREADY_PROMOTED))
    else if entry.status ≠ .WAITING then
      pure (.error (.EventConflictError .EVENT_WAITLIST_CLOSED))
    else do
      let ordered ← eventPortion.within ((input.orderInput entry).createEventOrder call)
      match ordered with
      | .error failure => pure (.error (.event failure))
      | .ok result => do
          input.mark call entry
          pure (.ok result)

end PromoteEventWaitlistInput

structure ExpireEventSessionsInput where
  now : Option Instant
  limit : Option Int

/-- `Math.min(Math.max(limit ?? 1_000, 1), 1_000)`. -/
def expiryScan (limit : Option Int) : Nat :=
  (min (max (limit.getD 1000) 1) 1000).toNat

/-- The open sessions that have ended, the first to end first. -/
def EventData.endedSessions (data : EventData) (now : Instant) (limit : Nat) : List EventSession :=
  let ended := data.sessions.filter fun session =>
    session.status == .OPEN && decide (session.endsAt ≤ now)
  (ended.insertionSort fun first second => first.endsAt ≤ second.endsAt).take limit

def EventSession.closed (session : EventSession) : EventSession :=
  { session with status := .CLOSED }

def ExpireEventSessionsInput.expireEventSessions (input : ExpireEventSessionsInput)
    (call : EventCallId) : EventWaitlistProg (Except EventWaitlistFailure Nat) := do
  let now ← waitlistNow input.now
  let rows ← query fun data _ => data.events.endedSessions now (expiryScan input.limit)
  if rows.isEmpty then pure (.ok 0)
  else do
    let closes := fun session : EventSession =>
      (rows.any fun row => row.id == session.id) && session.status == .OPEN
    let expires := fun entry : EventWaitlistEntry =>
      (rows.any fun row => row.id == entry.sessionId) && entry.status == .WAITING
    let count ← commit call (fun data _ => data.events.sessions.countP closes) fun data _ =>
      { data with events := { data.events with
          sessions := KeyedRows.update closes (·.closed) data.events.sessions } }
    commit call (fun _ _ => ()) fun data _ => data.updateEntries expires (·.expired)
    pure (.ok count)

inductive EventWaitlistCall where
  | event (call : EventCall)
  | join (input : JoinEventWaitlistInput)
  | cancel (input : CancelEventWaitlistInput)
  | promote (input : PromoteEventWaitlistInput)
  | expire (input : ExpireEventSessionsInput)

inductive EventWaitlistAnswer where
  | event (answer : Except EventFailure EventAnswer)
  | listed (result : EventWaitlistMutationResult)
  | promoted (result : EventOrderMutationResult)
  | expired (count : Nat)
  deriving DecidableEq

section

variable [Sha256] [UnicodeCase]

def EventWaitlistCall.prog (call : EventCallId) :
    EventWaitlistCall → EventWaitlistProg (Except EventWaitlistFailure EventWaitlistAnswer)
  | .event request => do
      let answer ← eventPortion.within (request.prog call)
      pure (.ok (.event answer))
  | .join input =>
    (input.joinEventWaitlist call).andThen fun result => pure (.ok (.listed result))
  | .cancel input =>
    (input.cancelEventWaitlist call).andThen fun result => pure (.ok (.listed result))
  | .promote input =>
    (input.promoteEventWaitlist call).andThen fun result => pure (.ok (.promoted result))
  | .expire input =>
    (input.expireEventSessions call).andThen fun count => pure (.ok (.expired count))

def eventWaitlistSystem (calls : EventCallId → EventWaitlistCall) :
    System EventCallId EventWaitlistStore (Except EventWaitlistFailure EventWaitlistAnswer) :=
  system fun call => (calls call).prog call

end

end Sokar
