import Sokar.Library.Process
import Sokar.Shared.Time

/-!
# Idempotent creation of a reservation

`IdempotencyService` over its Postgres store and optional cache, and the parts of
`createReservation` that use it.  Every database statement is one atomic step; the
creation transaction is the step at which it commits.
-/

namespace Sokar

open Process

abbrev CallerId := Nat

/-- The composite primary key of an idempotency record. -/
structure ScopeKey where
  scope : String
  key : String
  deriving DecidableEq

inductive IdempotencyStatus where
  | pending | completed | failed
  deriving DecidableEq

structure IdempotencyRecord where
  scopeKey : ScopeKey
  payloadHash : String
  status : IdempotencyStatus
  reservationId : Option Id
  expiresAt : Instant
  deriving DecidableEq

structure KeyedReservation where
  id : Id
  scopeKey : ScopeKey
  payloadHash : String
  deriving DecidableEq

structure CachedAnswer where
  scopeKey : ScopeKey
  reservationId : Id
  payloadHash : String
  deriving DecidableEq

/-- A caller to whom `reserve` answers `reserved`, with the record it inserted. -/
structure Answer where
  caller : CallerId
  record : IdempotencyRecord
  deriving DecidableEq

structure KeyStore where
  now : Instant
  records : List IdempotencyRecord
  reservations : List KeyedReservation
  cacheUp : Bool
  cache : List CachedAnswer
  /-- History: the answers `reserved`, first to last. -/
  answers : List Answer

abbrev KeyProg := Prog KeyStore

namespace KeyStore

variable (store : KeyStore)

variable (scopeKey : ScopeKey)

def record? : Option IdempotencyRecord :=
  store.records.find? fun record => record.scopeKey == scopeKey

def cached? : Option CachedAnswer :=
  if store.cacheUp then store.cache.find? fun entry => entry.scopeKey == scopeKey else none

/-- Time passes, and the cache may drop entries, fail or come back. -/
structure Ticks (store store' : KeyStore) : Prop where
  now : store.now ≤ store'.now
  records : store'.records = store.records
  reservations : store'.reservations = store.reservations
  answers : store'.answers = store.answers
  cache : store'.cache ⊆ store.cache

def insertRecord (caller : CallerId) (record : IdempotencyRecord) : KeyStore :=
  if (store.record? record.scopeKey).isNone then
    { store with
      records := store.records ++ [record]
      answers := store.answers ++ [{ caller, record }] }
  else store

def deleteExpired (now : Instant) : KeyStore :=
  { store with records := store.records.filter fun record => !decide (record.expiresAt < now) }

def putCache (entry : CachedAnswer) : KeyStore :=
  if store.cacheUp then
    { store with
      cache := entry :: store.cache.filter fun other => other.scopeKey != entry.scopeKey }
  else store

def updateRecord (update : IdempotencyRecord → IdempotencyRecord) : KeyStore :=
  { store with
    records := store.records.map fun record =>
      if record.scopeKey = scopeKey then update record else record }

end KeyStore

def currentTime : KeyProg Instant :=
  .read (·.now)

variable (scopeKey : ScopeKey)

def getRecord : KeyProg (Option IdempotencyRecord) :=
  .read fun store => store.record? scopeKey

def pendingRecord (payloadHash : String) (expiresAt : Instant) : IdempotencyRecord :=
  { scopeKey, payloadHash, status := .pending, reservationId := none, expiresAt }

/-- False on a violation of the primary key. -/
def insertPending (caller : CallerId) (scopeKey : ScopeKey) (payloadHash : String)
    (expiresAt : Instant) : KeyProg Bool :=
  .update (fun store => (store.record? scopeKey).isNone) fun store =>
    store.insertRecord caller (pendingRecord scopeKey payloadHash expiresAt)

/-- False when there is no record. -/
def markCompleted (reservationId : Id) : KeyProg Bool :=
  .update (fun store => (store.record? scopeKey).isSome) fun store =>
    store.updateRecord scopeKey fun record =>
      { record with status := .completed, reservationId := some reservationId }

def failedRecord (now : Instant) : IdempotencyRecord :=
  { scopeKey
    payloadHash := "unknown"
    status := .failed
    reservationId := none
    expiresAt := now + 24 * 60 * 60 * 1000 }

/-- An upsert: a missing record is inserted as failed. -/
def markFailed : KeyProg Unit := do
  let now ← currentTime
  .update (fun _ => ()) fun store =>
    if (store.record? scopeKey).isNone then
      { store with records := store.records ++ [failedRecord scopeKey now] }
    else store.updateRecord scopeKey fun record => { record with status := .failed }

def purgeExpired : KeyProg Unit := do
  let now ← currentTime
  .update (fun _ => ()) fun store => store.deleteExpired now

def setCache (entry : CachedAnswer) : KeyProg Unit :=
  .update (fun _ => ()) fun store => store.putCache entry

inductive IdempotencyLookupResult where
  | miss
  | hit (reservationId : Id)
  | conflict
  deriving DecidableEq

/-- The record of a key, checked for expiry and for its payload. -/
def lookupRecord (payloadHash : String) : KeyProg IdempotencyLookupResult := do
  let existing ← getRecord scopeKey
  match existing with
  | none => pure .miss
  | some existing =>
    let now ← currentTime
    if existing.expiresAt ≤ now then pure .miss
    else if existing.payloadHash ≠ payloadHash then pure .conflict
    else
      match existing.reservationId with
      | none => pure .miss
      | some reservationId => pure (.hit reservationId)

def lookup (hasCache : Bool) (scopeKey : ScopeKey) (payloadHash : String) :
    KeyProg IdempotencyLookupResult := do
  let cached ← Prog.read fun store => if hasCache then store.cached? scopeKey else none
  match cached with
  | some entry =>
    if entry.payloadHash ≠ payloadHash then pure .conflict else pure (.hit entry.reservationId)
  | none => lookupRecord scopeKey payloadHash

inductive ReserveAnswer where
  | reserved | reused
  deriving DecidableEq

inductive CreationError where
  | IdempotencyConflict
  | IdempotencyPending
  | ReservationAlreadyExists
  | uniqueViolation
  | recordNotFound
  /-- A check or the creation transaction refused. -/
  | refused
  deriving DecidableEq

/-- What a caller passes to `createReservation`, with how the code around the key
behaves for it. -/
structure CreationCall where
  scopeKey : ScopeKey
  payloadHash : String
  ttlSeconds : Int
  hasHoldToken : Bool
  hasCache : Bool
  /-- Whether the checks made before the key is reserved accept. -/
  accepts : KeyStore → Bool
  /-- Whether the creation transaction reaches its commit. -/
  commits : KeyStore → Bool
  /-- Whether its commit is acknowledged. -/
  acknowledged : KeyStore → Bool
  newReservationId : Id

namespace CreationCall

variable (call : CreationCall)

variable (caller : CallerId)

def reserveConcurrent (expiresAt : Instant) : KeyProg (Except CreationError ReserveAnswer) := do
  let concurrent ← getRecord call.scopeKey
  let now ← currentTime
  match concurrent.filter fun record => decide (now < record.expiresAt) with
  | none =>
    purgeExpired
    let inserted ← insertPending caller call.scopeKey call.payloadHash expiresAt
    pure (if inserted then .ok .reserved else .error .uniqueViolation)
  | some concurrent =>
    if concurrent.payloadHash ≠ call.payloadHash then pure (.error .IdempotencyConflict)
    else if concurrent.status = .failed then pure (.error .IdempotencyConflict)
    else pure (.ok .reused)

def reserve : KeyProg (Except CreationError ReserveAnswer) := do
  let existing ← lookup call.hasCache call.scopeKey call.payloadHash
  match existing with
  | .hit _ => pure (.ok .reused)
  | .conflict => pure (.error .IdempotencyConflict)
  | .miss =>
    let now ← currentTime
    let expiresAt := now + call.ttlSeconds * 1000
    purgeExpired
    let inserted ← insertPending caller call.scopeKey call.payloadHash expiresAt
    if inserted then pure (.ok .reserved) else call.reserveConcurrent caller expiresAt

def complete (reservationId : Id) : KeyProg (Except CreationError Unit) := do
  let marked ← markCompleted call.scopeKey reservationId
  if !marked then pure (.error .recordNotFound)
  else if call.hasCache then
    setCache { scopeKey := call.scopeKey, reservationId, payloadHash := call.payloadHash }
    pure (.ok ())
  else pure (.ok ())

structure CreateReservationResult where
  reservationId : Id
  reused : Bool
  deriving DecidableEq

def waitForCompletedIdempotency :
    Nat → KeyProg (Except CreationError (Option CreateReservationResult))
  | 0 => pure (.ok none)
  | attempts + 1 => do
      let existing ← lookup call.hasCache call.scopeKey call.payloadHash
      match existing with
      | .conflict => pure (.error .ReservationAlreadyExists)
      | .miss => waitForCompletedIdempotency attempts
      | .hit reservationId =>
        let found ← Prog.read fun store => store.reservations.any fun row => row.id == reservationId
        if found then pure (.ok (some { reservationId, reused := true }))
        else waitForCompletedIdempotency attempts

def IDEMPOTENCY_MAX_WAIT_ATTEMPTS : Nat := 20

/-- The answer of the call that holds the key. -/
def awaitReservation : KeyProg (Except CreationError CreateReservationResult) := do
  let existing ← call.waitForCompletedIdempotency IDEMPOTENCY_MAX_WAIT_ATTEMPTS
  pure (match existing with
    | .error error => .error error
    | .ok none => .error .IdempotencyPending
    | .ok (some result) => .ok result)

def row : KeyedReservation :=
  { id := call.newReservationId, scopeKey := call.scopeKey, payloadHash := call.payloadHash }

/-- The commit passes the primary key and the unique index on the key. -/
def insertable (store : KeyStore) : Bool :=
  call.commits store && store.reservations.all fun other =>
    other.id != call.newReservationId && other.scopeKey != call.scopeKey

def insertRow (store : KeyStore) : KeyStore :=
  if call.insertable store then { store with reservations := store.reservations ++ [call.row] }
  else store

/-- The creation transaction.  It throws when it does not commit, and may throw after it
has committed. -/
def createRow : KeyProg (Except CreationError Id) :=
  .update
    (fun store =>
      if call.insertable store && call.acknowledged store then .ok call.newReservationId
      else .error .refused)
    call.insertRow

/-- `createReservation` once the key is reserved. -/
def createReserved : KeyProg (Except CreationError CreateReservationResult) := do
  let created ← call.createRow
  match created with
  | .error error =>
    markFailed call.scopeKey
    pure (.error error)
  | .ok reservationId =>
    let completed ← call.complete reservationId
    pure (completed.map fun _ => { reservationId, reused := false })

/-- `createReservation` from its checks on. -/
def createChecked : KeyProg (Except CreationError CreateReservationResult) := do
  let accepted ← Prog.read call.accepts
  if !accepted then pure (.error .refused)
  else
    let answer ← call.reserve caller
    match answer with
    | .error error => pure (.error error)
    | .ok .reused => call.awaitReservation
    | .ok .reserved => call.createReserved

def createReservation : KeyProg (Except CreationError CreateReservationResult) := do
  if call.hasHoldToken then
    let existing ← lookup call.hasCache call.scopeKey call.payloadHash
    match existing with
    | .conflict => pure (.error .IdempotencyConflict)
    | .hit _ => call.awaitReservation
    | .miss => call.createChecked caller
  else call.createChecked caller

end CreationCall

/-- Callers run `createReservation`; a crash loses the caller only. -/
def creationSystem (calls : CallerId → CreationCall) :
    System CallerId KeyStore (Except CreationError CreationCall.CreateReservationResult) where
  code caller := (calls caller).createReservation caller
  crash _ store := store
  tick := KeyStore.Ticks

end Sokar
