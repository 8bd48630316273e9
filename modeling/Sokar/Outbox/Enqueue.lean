import Mathlib.Data.Char
import Mathlib.Data.List.Lex
import Sokar.Library.OrderedData
import Sokar.Outbox.Dispatcher
import Sokar.Shared.JsonText

/-!
# Events that are put into the outbox

`enqueue` of `outbox.service`, with all that an event is about.  An event is looked up under its
idempotency key before it is inserted, and again when the insertion was refused; a stored event
answers a request that is for the same event, its payload compared as JSON text.

The database stores a payload as `jsonb`, which gives it back as the same data with the keys of
its objects in an order of its own.
-/

namespace Sokar

open Process OrderedData

/-- The characters of a number as `JSON.stringify` writes it. -/
def isNumberChar (char : Char) : Bool :=
  char.isDigit || ['-', '+', '.', 'e'].contains char

structure JsonNumber where
  text : String
  nonempty : text.toList ≠ []
  isNumber : text.toList.all isNumberChar
  deriving DecidableEq

inductive JsonScalar where
  | null
  | bool (value : Bool)
  | number (value : JsonNumber)
  | string (value : String)
  deriving DecidableEq

/-- JSON data, the keys of each object in the order in which JavaScript lists them. -/
abbrev JsonData := OrderedData.Data JsonScalar String

def JsonScalar.text : JsonScalar → List Char
  | .null => ['n', 'u', 'l', 'l']
  | .bool true => ['t', 'r', 'u', 'e']
  | .bool false => ['f', 'a', 'l', 's', 'e']
  | .number value => value.text.toList
  | .string value => stringText value

/-- `JSON.stringify`. -/
def jsonScript : Script JsonScalar String Char where
  scalar := JsonScalar.text
  key := stringText
  openArray := '['
  closeArray := ']'
  openObject := '{'
  closeObject := '}'
  comma := ','
  colon := ':'

/-- What a `jsonb` column gives back. -/
class Jsonb where
  readBack : JsonData → JsonData
  same_readBack : ∀ data, Same data (readBack data)

/-- `jsonb` puts shorter keys first. -/
def jsonbOrder (first second : String) : Bool :=
  first.utf8ByteSize < second.utf8ByteSize ||
    (first.utf8ByteSize == second.utf8ByteSize && decide (first.toList ≤ second.toList))

/-- The order of `jsonb`, for keys that are no array indices. -/
@[reducible] def Jsonb.sorted : Jsonb where
  readBack data := data.sorted fun first second => jsonbOrder first second = true
  same_readBack data := data.same_sorted _

def payloadEquals (first second : JsonData) : Prop :=
  jsonScript.text first = jsonScript.text second

instance (first second : JsonData) : Decidable (payloadEquals first second) :=
  inferInstanceAs (Decidable (jsonScript.text first = jsonScript.text second))

structure OutboxEventInput where
  restaurantId : Option Id
  topic : String
  aggregateType : String
  aggregateId : String
  eventType : String
  schemaVersion : Option Int
  payload : JsonData
  idempotencyKey : String
  availableAt : Option Instant

/-- The columns of `outbox_events` that say what the event is. -/
structure EventFacts where
  restaurantId : Option Id
  topic : String
  aggregateType : String
  aggregateId : String
  eventType : String
  schemaVersion : Int
  payload : JsonData
  idempotencyKey : String

inductive EnqueueError where
  | forbiddenField (key : String)
  | textLength (field : String) (maxLength : Nat)
  | keyConflict (idempotencyKey : String)

def EnqueueError.message : EnqueueError → String
  | .forbiddenField key => "outbox payload contains forbidden field: " ++ key
  | .textLength field maxLength =>
    field ++ " must contain between 1 and " ++ toString maxLength ++ " characters"
  | .keyConflict idempotencyKey => "Outbox idempotency key conflict: " ++ idempotencyKey

/-- The letters a pattern without case takes for an ASCII letter. -/
def foldChar (char : Char) : Char :=
  if char.toNat = 0x17F then 's' else if char.toNat = 0x212A then 'k' else char.toLower

def forbiddenWords : List String :=
  ["phone", "email", "customername", "fullname", "transcript", "messagebody", "secret", "token"]

/-- The pattern finds one of the words in the key. -/
def isForbidden (key : String) : Bool :=
  forbiddenWords.any fun word => (key.toList.map foldChar).tails.any word.toList.isPrefixOf

/-- Visits the keys of the payload, each before the keys of its value; the indices of an array
are keys too, but none is forbidden. -/
def assertPiiFreePayload (payload : JsonData) : Except EnqueueError Unit :=
  match payload.keys.find? isForbidden with
  | some key => .error (.forbiddenField key)
  | none => .ok ()

def requireColumn (value field : String) (maxLength : Nat) : Except EnqueueError String :=
  match requireText value field maxLength with
  | .error _ => .error (.textLength field maxLength)
  | .ok normalized => .ok normalized

/-- `availableAt` is normalised where the event is created. -/
def OutboxEventInput.normalizeInput (input : OutboxEventInput) :
    Except EnqueueError EventFacts := do
  assertPiiFreePayload input.payload
  let topic ← requireColumn input.topic "topic" 64
  let aggregateType ← requireColumn input.aggregateType "aggregateType" 64
  let aggregateId ← requireColumn input.aggregateId "aggregateId" 191
  let eventType ← requireColumn input.eventType "eventType" 128
  let idempotencyKey ← requireColumn input.idempotencyKey "idempotencyKey" 255
  return {
    restaurantId := input.restaurantId
    topic
    aggregateType
    aggregateId
    eventType
    schemaVersion := input.schemaVersion.getD 1
    payload := input.payload
    idempotencyKey }

/-- A row of `outbox_events`: what its delivery depends on, and what it is about. -/
structure OutboxRow where
  event : OutboxEvent
  facts : EventFacts

abbrev OutboxTable := List OutboxRow

/-- `findUnique` by the idempotency key. -/
def OutboxTable.row? (table : OutboxTable) (idempotencyKey : String) : Option OutboxRow :=
  table.find? fun row => row.facts.idempotencyKey == idempotencyKey

def EventFacts.SameEvent (existing input : EventFacts) : Prop :=
  existing.restaurantId = input.restaurantId ∧ existing.topic = input.topic ∧
    existing.aggregateType = input.aggregateType ∧ existing.aggregateId = input.aggregateId ∧
    existing.eventType = input.eventType ∧ existing.schemaVersion = input.schemaVersion ∧
    payloadEquals existing.payload input.payload

instance (existing input : EventFacts) : Decidable (existing.SameEvent input) :=
  inferInstanceAs (Decidable (_ ∧ _))

/-- What `enqueue` returns. -/
structure Enqueued where
  event : OutboxRow
  created : Bool

/-- A call of `enqueue`, with the id its row would have and the times it reads. -/
structure EnqueueCall where
  input : OutboxEventInput
  eventId : Id
  now : Instant
  createdAt : Instant

namespace EnqueueCall

section

variable [Jsonb] (call : EnqueueCall)

variable (normalized : EventFacts)

/-- The row `create` inserts, as it is read back. -/
def row : OutboxRow where
  event := {
    id := call.eventId
    status := .PENDING
    attempts := 0
    availableAt := call.input.availableAt.getD call.now
    lockedAt := none
    dispatchedAt := none
    lastErrorCode := none
    createdAt := call.createdAt }
  facts := { normalized with payload := Jsonb.readBack normalized.payload }

/-- An id and an idempotency key are used once. -/
def isRefused (table : OutboxTable) : Bool :=
  (table.row? normalized.idempotencyKey).isSome || table.any (·.event.id == call.eventId)

/-- Nothing when it is refused with P2002. -/
def create : Prog OutboxTable (Option OutboxRow) :=
  .update
    (fun table =>
      if call.isRefused normalized table then none else some (call.row normalized))
    fun table =>
      if call.isRefused normalized table then table else table ++ [call.row normalized]

/-- The answer of a stored event. -/
def answer (existing : OutboxRow) : Except EnqueueError Enqueued :=
  if existing.facts.SameEvent normalized then .ok { event := existing, created := false }
  else .error (.keyConflict normalized.idempotencyKey)

def recover : Prog OutboxTable (Except EnqueueError Enqueued) := do
  let raced ← .read fun table => table.row? normalized.idempotencyKey
  match raced with
  | some raced => pure (answer normalized raced)
  | none => pure (.error (.keyConflict normalized.idempotencyKey))

def insert : Prog OutboxTable (Except EnqueueError Enqueued) := do
  match ← call.create normalized with
  | some event => pure (.ok { event, created := true })
  | none => recover normalized

def enqueue : Prog OutboxTable (Except EnqueueError Enqueued) :=
  match call.input.normalizeInput with
  | .error error => pure (.error error)
  | .ok normalized => do
      match ← .read fun table => table.row? normalized.idempotencyKey with
      | some existing => pure (answer normalized existing)
      | none => call.insert normalized

end

end EnqueueCall

abbrev EnqueueCallId := Nat

/-- Dispatchers change what the delivery of events depends on. -/
def Dispatched (before after : OutboxTable) : Prop :=
  ∃ change : OutboxEvent → OutboxEvent, (∀ event, (change event).id = event.id) ∧
    after = before.map fun row => { row with event := change row.event }

/-- Any number of calls, while dispatchers run. -/
def enqueueSystem [Jsonb] (calls : EnqueueCallId → EnqueueCall) :
    System EnqueueCallId OutboxTable (Except EnqueueError Enqueued) where
  code call := (calls call).enqueue
  crash _ table := table
  tick := Dispatched

end Sokar
