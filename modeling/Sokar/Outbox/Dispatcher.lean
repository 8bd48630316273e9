import Mathlib.Data.List.Sort
import Sokar.Library.KeyedRows
import Sokar.Library.Transaction
import Sokar.Shared.Text

/-!
# The outbox and its dispatchers

`outbox.service` and the job of `outbox-dispatcher.worker`, statement by statement: an event
that waits is claimed for five minutes, handed to the delivery queue and marked as dispatched,
or released to be tried again; a claim whose time is up is taken back.  What the event is about,
and the failed jobs that are tried again once an hour, are left out.
-/

namespace Sokar

open Process Transaction

inductive OutboxStatus where
  | PENDING | DISPATCHING | DISPATCHED | FAILED
  deriving DecidableEq

/-- The columns of `outbox_events` that its delivery depends on. -/
structure OutboxEvent where
  id : Id
  status : OutboxStatus
  attempts : Nat
  availableAt : Instant
  lockedAt : Option Instant
  dispatchedAt : Option Instant
  lastErrorCode : Option String
  createdAt : Instant
  deriving DecidableEq

abbrev OutboxCallId := Nat

/-- A request that the delivery queue has accepted, with the dispatcher that made it; the
queue drops one for which it has a job. -/
structure OutboxDelivery where
  caller : OutboxCallId
  outboxEventId : Id
  deriving DecidableEq

structure OutboxData where
  events : List OutboxEvent
  deliveries : List OutboxDelivery
  deriving DecidableEq

/-- No advisory locks are taken. -/
abbrev OutboxStore := Store OutboxData Empty OutboxCallId

abbrev OutboxProg := Prog OutboxStore

inductive OutboxFailure where
  | textLength (field : String) (maxLength : Nat)
  | notDispatched (failed : Nat)
  | P2002
  deriving DecidableEq

def LEASE_MS : Int := 5 * 60 * 1000

def MAX_BATCH_SIZE : Int := 100

def requireText (value field : String) (maxLength : Nat) : Except OutboxFailure String :=
  let normalized := trim value
  if normalized.isEmpty || maxLength < utf16Length normalized then
    .error (.textLength field maxLength)
  else .ok normalized

namespace OutboxEvent

variable (event : OutboxEvent)

def claimed (now : Instant) : OutboxEvent :=
  { event with status := .DISPATCHING, lockedAt := some now, attempts := event.attempts + 1 }

def dispatched (dispatchedAt : Instant) : OutboxEvent :=
  { event with
    status := .DISPATCHED
    lockedAt := none
    dispatchedAt := some dispatchedAt
    lastErrorCode := none }

def released (errorCode : String) (availableAt : Instant) : OutboxEvent :=
  { event with
    status := .PENDING
    availableAt
    lockedAt := none
    lastErrorCode := some errorCode }

/-- The lease was taken before the instant. -/
def isLapsed (cutoff : Instant) : Bool :=
  event.status == .DISPATCHING && event.lockedAt.any fun lockedAt => decide (lockedAt < cutoff)

def recovered (now : Instant) : OutboxEvent :=
  event.released "LEASE_EXPIRED" now

def isClaimable (now : Instant) : Bool :=
  event.status == .PENDING && decide (event.availableAt ≤ now)

end OutboxEvent

namespace OutboxData

variable (data : OutboxData)

def event? (eventId : Id) : Option OutboxEvent :=
  KeyedRows.lookup (·.id) data.events eventId

def updateEvents (selected : OutboxEvent → Bool) (change : OutboxEvent → OutboxEvent) :
    OutboxData :=
  { data with events := KeyedRows.update selected change data.events }

def updateDispatching (eventId : Id) (change : OutboxEvent → OutboxEvent) : OutboxData :=
  data.updateEvents (fun event => event.id == eventId && event.status == .DISPATCHING) change

/-- The oldest of the events that are due, without those other transactions hold locked. -/
def candidates (locked : Id → Bool) (limit : Nat) (now : Instant) : List OutboxEvent :=
  let due := data.events.filter fun event => event.isClaimable now && !locked event.id
  (due.insertionSort fun first second => first.createdAt ≤ second.createdAt).take limit

def claim (claimed : List OutboxEvent) (now : Instant) : OutboxData :=
  data.updateEvents (fun event => claimed.any fun row => row.id == event.id) (·.claimed now)

def eventsIn (ids : List Id) : List OutboxEvent :=
  (data.events.filter fun event => ids.contains event.id).insertionSort
    fun first second => first.createdAt ≤ second.createdAt

def recoverExpired (now : Instant) : OutboxData :=
  data.updateEvents (·.isLapsed (now - LEASE_MS)) (·.recovered now)

def addDelivery (delivery : OutboxDelivery) : OutboxData :=
  { data with deliveries := data.deliveries ++ [delivery] }

/-- The statement of `enqueue` that creates an event. -/
def create (eventId : Id) (availableAt createdAt : Instant) : OutboxData :=
  { data with
    events := data.events ++
      [{ id := eventId
         status := .PENDING
         attempts := 0
         availableAt
         lockedAt := none
         dispatchedAt := none
         lastErrorCode := none
         createdAt }] }

end OutboxData

/-- `new Date()`. -/
def outboxNow : OutboxProg Instant :=
  query fun _ now => now

variable (call : OutboxCallId)

/-- Returns how many leases had run out. -/
def recoverExpiredLeases : OutboxProg Nat := do
  let now ← outboxNow
  commit call (fun data _ => data.events.countP (·.isLapsed (now - LEASE_MS)))
    fun data _ => data.recoverExpired now

inductive StatementOutcome where
  | returns
  /-- An error of this name, if it is one, came back, though the statement may have been
  carried out. -/
  | throws (name : Option String) (applied : Bool)
  deriving DecidableEq

def StatementOutcome.applied : StatementOutcome → Bool
  | .returns => true
  | .throws _ applied => applied

/-- Nothing is written when the statement fails. -/
def markDispatched (eventId : Id) (outcome : StatementOutcome) : OutboxProg Unit := do
  let dispatchedAt ← outboxNow
  commit call (fun _ _ => ()) fun data _ =>
    if outcome.applied then data.updateDispatching eventId (·.dispatched dispatchedAt) else data

def releaseForRetry (eventId : Id) (errorCode : String) :
    OutboxProg (Except OutboxFailure Unit) := do
  let now ← outboxNow
  match requireText errorCode "errorCode" 128 with
  | .error failure => pure (.error failure)
  | .ok code =>
    commit call (fun _ _ => .ok ()) fun data _ =>
      data.updateDispatching eventId (·.released code (now + 30000))

/-- A run of the dispatch job, with what the database and the queue do in it.  Where the job
would stop at an error of theirs, it may as well crash. -/
structure DispatchInput where
  /-- Nothing when it is not given, or not finite. -/
  limit : Option ℚ
  /-- The events other transactions hold locked when some are claimed. -/
  locked : Id → Bool
  queueAdd : Id → StatementOutcome
  mark : Id → StatementOutcome

namespace DispatchInput

variable (input : DispatchInput) (call : OutboxCallId)

/-- `Math.max(1, Math.min(requestedLimit, MAX_BATCH_SIZE))`. -/
def boundedLimit : Nat :=
  (max 1 (min ((input.limit.map fun limit => limit.floor).getD MAX_BATCH_SIZE)
    MAX_BATCH_SIZE)).toNat

/-- The transaction; the events are read again once they are claimed. -/
def claimPending : OutboxProg (List OutboxEvent) := do
  let now ← outboxNow
  commit call
    (fun data _ =>
      let claimed := data.candidates input.locked input.boundedLimit now
      (data.claim claimed now).eventsIn (claimed.map (·.id)))
    fun data _ => data.claim (data.candidates input.locked input.boundedLimit now) now

variable (event : OutboxEvent)

/-- `queues.outboxDelivery.add`. -/
def deliver : OutboxProg Unit :=
  commit call (fun _ _ => ()) fun data _ =>
    if (input.queueAdd event.id).applied then data.addDelivery ⟨call, event.id⟩ else data

/-- The event is counted when it could not be dispatched. -/
def retryLater (name : Option String) : OutboxProg (Except OutboxFailure Nat) :=
  (releaseForRetry call event.id (name.getD "QUEUE_ERROR")).andThen fun _ => pure (.ok 1)

def dispatch : OutboxProg (Except OutboxFailure Nat) := do
  input.deliver call event
  match input.queueAdd event.id with
  | .throws name _ => retryLater call event name
  | .returns => do
      markDispatched call event.id (input.mark event.id)
      match input.mark event.id with
      | .throws name _ => retryLater call event name
      | .returns => pure (.ok 0)

def dispatchAll : List OutboxEvent → OutboxProg (Except OutboxFailure Nat)
  | [] => pure (.ok 0)
  | event :: rest =>
    (input.dispatch call event).andThen fun failed =>
      (dispatchAll rest).andThen fun more => pure (.ok (failed + more))

/-- Returns how many events were claimed. -/
def processOutboxDispatchJob : OutboxProg (Except OutboxFailure Nat) := do
  let _ ← recoverExpiredLeases call
  let events ← input.claimPending call
  (input.dispatchAll call events).andThen fun failed =>
    pure (if 0 < failed then .error (.notDispatched failed) else .ok events.length)

end DispatchInput

/-- An event that a caller's transaction creates. -/
structure CreateOutboxEventInput where
  eventId : Id
  availableAt : Option Instant

/-- `input.availableAt ?? new Date()`. -/
def normalizeAvailableAt (availableAt : Option Instant) : OutboxProg Instant :=
  match availableAt with
  | some availableAt => pure availableAt
  | none => outboxNow

def CreateOutboxEventInput.create (input : CreateOutboxEventInput) (call : OutboxCallId) :
    OutboxProg (Except OutboxFailure Nat) := do
  let availableAt ← normalizeAvailableAt input.availableAt
  commit call
    (fun data _ => if (data.event? input.eventId).isSome then .error .P2002 else .ok 1)
    fun data now =>
      if (data.event? input.eventId).isSome then data
      else data.create input.eventId availableAt now

inductive OutboxCall where
  | dispatch (input : DispatchInput)
  | create (input : CreateOutboxEventInput)

def OutboxCall.prog : OutboxCall → OutboxProg (Except OutboxFailure Nat)
  | .dispatch input => input.processOutboxDispatchJob call
  | .create input => input.create call

def outboxSystem (calls : OutboxCallId → OutboxCall) :
    System OutboxCallId OutboxStore (Except OutboxFailure Nat) :=
  system fun call => (calls call).prog call

end Sokar
