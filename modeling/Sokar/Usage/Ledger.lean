import Sokar.Library.KeyedRows
import Sokar.Store.Rows
import Sokar.Usage.Tariffs

/-!
# The ledger of usage events

`recordPricedUsageEvent` prices a quantity with the tariff in effect and appends one event under
its source key.  Quantities and costs are stored as `DECIMAL(18,6)` values, which round on write.
-/

namespace Sokar.UsageLedger

open UsageTariff (DecimalInput ExistingUsageTariff UsageTariffResolution)

structure RecordPricedUsageInput where
  restaurantId : Id
  accountId : Option Id
  category : UsageCategory
  provider : String
  quantity : DecimalInput
  unit : String
  sourceType : String
  sourceId : String
  sourceEventKey : String
  /-- None where the date is invalid. -/
  occurredAt : Option Instant
  «metadata» : List (String × Json)

structure RecordUsageInput extends RecordPricedUsageInput where
  estimatedCostEur : DecimalInput

/-- A row of the ledger, with its amounts in millionths. -/
structure UsageEvent where
  id : Id
  restaurantId : Id
  accountId : Option Id
  category : UsageCategory
  provider : String
  quantity : Nat
  unit : String
  estimatedCost : Nat
  currency : String
  sourceType : String
  sourceId : String
  sourceEventKey : String
  occurredAt : Instant
  «metadata» : Json

inductive UsageError where
  | UsageInputError (message : String)
  | UsageEventConflictError (sourceEventKey : String)
  /-- An error of the tariff lookup or of the database. -/
  | Error (message : String)
  deriving DecidableEq

abbrev Recorded (α : Type) := Except UsageError α

def decimal (value : DecimalInput) (field : String) : Recorded ℚ :=
  match value with
  | .unreadable => .error (.UsageInputError (field ++ " must be a decimal value"))
  | .notFinite => .error (.UsageInputError (field ++ " must be finite and non-negative"))
  | .finite parsed =>
    if parsed < 0 then .error (.UsageInputError (field ++ " must be finite and non-negative"))
    else .ok parsed

def validateText (value field : String) (maxLength : Nat) : Recorded String :=
  if trim value = "" ∨ maxLength < utf16Length (trim value) then
    .error (.UsageInputError (field ++ s!" must contain between 1 and {maxLength} characters"))
  else .ok (trim value)

/-- A `DECIMAL(18,6)` value. -/
def amountOf (millionths : Nat) : ℚ :=
  millionths / 1000000

def sameReplay (existing : UsageEvent) (input : RecordUsageInput) (quantity estimatedCost : ℚ) :
    Bool :=
  existing.restaurantId == input.restaurantId &&
    existing.accountId == input.accountId &&
    existing.category == input.category &&
    existing.provider == trim input.provider &&
    amountOf existing.quantity == quantity &&
    existing.unit == trim input.unit &&
    amountOf existing.estimatedCost == estimatedCost &&
    existing.currency == "EUR" &&
    existing.sourceType == trim input.sourceType &&
    existing.sourceId == trim input.sourceId

/-- `usageEvent.findUnique({ where: { sourceEventKey } })`. -/
def findEvent (events : List UsageEvent) (sourceEventKey : String) : Option UsageEvent :=
  KeyedRows.lookup UsageEvent.sourceEventKey events sourceEventKey

/-- The result of a recorder and the ledger it leaves. -/
structure Outcome where
  event : UsageEvent
  created : Bool
  events : List UsageEvent

/-- The event that is there already, if it is of the same usage. -/
def replay (existing : UsageEvent) (input : RecordUsageInput) (quantity estimatedCost : ℚ)
    (events : List UsageEvent) : Recorded Outcome :=
  if sameReplay existing input quantity estimatedCost then .ok ⟨existing, false, events⟩
  else .error (.UsageEventConflictError input.sourceEventKey)

variable (input : RecordUsageInput)

/-- The create statement, which rounds the amounts to six decimals. -/
def createEvent (quantity estimatedCost : ℚ) (occurredAt : Instant) (id : Id)
    (events : List UsageEvent) : Recorded Outcome :=
  let quantity := UsageReconciliation.toMillionths quantity
  let estimatedCost := UsageReconciliation.toMillionths estimatedCost
  if 10 ^ 18 ≤ quantity ∨ 10 ^ 18 ≤ estimatedCost then .error (.Error "numeric field overflow")
  else
    let event : UsageEvent := {
      id
      restaurantId := input.restaurantId
      accountId := input.accountId
      category := input.category
      provider := input.provider
      quantity
      unit := input.unit
      estimatedCost
      currency := "EUR"
      sourceType := input.sourceType
      sourceId := input.sourceId
      sourceEventKey := input.sourceEventKey
      occurredAt
      «metadata» := .obj input.metadata }
    .ok ⟨event, true, events ++ [event]⟩

/-- Both lookups and the create statement; `seen` is the ledger of the first lookup and `events`
the one the create statement meets, which refuses a key that has come in between. -/
def appendEvent (quantity estimatedCost : ℚ) (occurredAt : Instant) (seen events : List UsageEvent)
    (id : Id) : Recorded Outcome :=
  match findEvent seen input.sourceEventKey with
  | some existing => replay existing input quantity estimatedCost events
  | none =>
    match findEvent events input.sourceEventKey with
    | some raced => replay raced input quantity estimatedCost events
    | none => createEvent input quantity estimatedCost occurredAt id events

def recordUsageEvent (seen events : List UsageEvent) (id : Id) : Recorded Outcome := do
  let quantity ← decimal input.quantity "quantity"
  let estimatedCost ← decimal input.estimatedCostEur "estimatedCostEur"
  let provider ← validateText input.provider "provider" 64
  let unit ← validateText input.unit "unit" 32
  let sourceType ← validateText input.sourceType "sourceType" 64
  let sourceId ← validateText input.sourceId "sourceId" 191
  let sourceEventKey ← validateText input.sourceEventKey "sourceEventKey" 255
  match input.occurredAt with
  | none => .error (.UsageInputError "occurredAt must be a valid date")
  | some occurredAt =>
    let normalizedInput : RecordUsageInput :=
      { input with provider, unit, sourceType, sourceId, sourceEventKey }
    appendEvent normalizedInput quantity estimatedCost occurredAt seen events id

/-- `{ ...fields, [name]: value }`. -/
def withField (fields : List (String × Json)) (name : String) (value : Json) :
    List (String × Json) :=
  if fields.any fun field => field.1 == name then
    fields.map fun field => if field.1 == name then (name, value) else field
  else fields ++ [(name, value)]

def pricedMetadata (fields : List (String × Json)) (resolution : UsageTariffResolution) :
    List (String × Json) :=
  let fields := withField fields "costStatus" (.str (match resolution.costStatus with
    | .PRICED => "PRICED"
    | .UNPRICED => "UNPRICED"))
  match resolution.tariff with
  | none => fields
  | some tariff =>
    let fields := if tariff.tariffId = "" then fields
      else withField fields "tariffId" (.str tariff.tariffId)
    let fields := withField fields "tariffVersion" (.num tariff.tariffVersion)
    if tariff.tariffSource = "" then fields
    else withField fields "tariffSource" (.str tariff.tariffSource)

variable [UnicodeLetters]

def RecordPricedUsageInput.lookup (input : RecordPricedUsageInput) :
    UsageTariff.ResolveUsageTariffInput where
  category := input.category
  provider := UsageTariff.normalizeDimension input.provider
  unit := UsageTariff.normalizeDimension input.unit
  occurredAt := input.occurredAt
  quantity := input.quantity

/-- The input of the recorder once the price is known. -/
def RecordPricedUsageInput.priced (input : RecordPricedUsageInput)
    (resolution : UsageTariffResolution) : RecordUsageInput :=
  { input with
    provider := UsageTariff.normalizeDimension input.provider
    unit := UsageTariff.normalizeDimension input.unit
    estimatedCostEur := .finite (amountOf resolution.estimatedCostEur)
    «metadata» := pricedMetadata input.metadata resolution }

def recordPricedUsageEvent (tariffs : List ExistingUsageTariff) (input : RecordPricedUsageInput)
    (seen events : List UsageEvent) (id : Id) : Recorded Outcome :=
  match UsageTariff.resolveUsageTariff tariffs input.lookup with
  | .error message => .error (.Error message)
  | .ok resolution => recordUsageEvent (input.priced resolution) seen events id

end Sokar.UsageLedger
