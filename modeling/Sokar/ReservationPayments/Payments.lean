import Sokar.Library.GuardedData
import Sokar.Library.KeyedRows
import Sokar.Shared.ReservationStates
import Sokar.Shared.Text

/-!
# Reservation payments

The rows and the transition table of `reservation-payment.service`, with
`prepareReservationPayment`, `transitionReservationPayment`,
`applyReservationPaymentProviderEvent` and `expireReservationPayments`, statement by
statement.  Amounts in decimal columns are counted in cents; the policy snapshot, the
outbox and the audit entries are left out.
-/

namespace Sokar

open Process Transaction

inductive ReservationPaymentStatus where
  | REQUIRES_PAYMENT_METHOD | REQUIRES_ACTION | AUTHORIZED | CAPTURED | PARTIALLY_REFUNDED
  | REFUNDED | FAILED | CANCELLED | EXPIRED
  deriving DecidableEq

namespace ReservationPaymentStatus

/-- `PAYMENT_STATUS_TRANSITIONS`. -/
def successors : ReservationPaymentStatus → List ReservationPaymentStatus
  | .REQUIRES_PAYMENT_METHOD =>
    [.REQUIRES_ACTION, .AUTHORIZED, .CAPTURED, .FAILED, .CANCELLED, .EXPIRED]
  | .REQUIRES_ACTION => [.AUTHORIZED, .CAPTURED, .FAILED, .CANCELLED, .EXPIRED]
  | .AUTHORIZED => [.CAPTURED, .PARTIALLY_REFUNDED, .REFUNDED, .CANCELLED]
  | .CAPTURED => [.PARTIALLY_REFUNDED, .REFUNDED]
  | .PARTIALLY_REFUNDED => [.REFUNDED]
  | .REFUNDED => []
  | .FAILED => [.REQUIRES_PAYMENT_METHOD, .CANCELLED]
  | .CANCELLED => []
  | .EXPIRED => []

end ReservationPaymentStatus

def canTransitionReservationPayment (source target : ReservationPaymentStatus) : Bool :=
  source == target || source.successors.contains target

def reservationPaymentStatusForProviderEvent (eventType : String) :
    Option ReservationPaymentStatus :=
  match eventType with
  | "setup_intent.succeeded" => some .AUTHORIZED
  | "payment_intent.requires_action" => some .REQUIRES_ACTION
  | "payment_intent.succeeded" => some .CAPTURED
  | "payment_intent.payment_failed" => some .FAILED
  | "payment_intent.canceled" => some .CANCELLED
  | "payment_intent.expired" => some .EXPIRED
  | "charge.refunded" => some .REFUNDED
  | _ => none

inductive ReservationPaymentAmountMode where
  | FIXED | PER_PERSON
  deriving DecidableEq

structure ReservationPaymentPolicy where
  id : Id
  restaurantId : Id
  version : Int
  amountMode : ReservationPaymentAmountMode
  amount : Int
  minPartySize : Option Int
  activeFrom : Instant
  activeUntil : Option Instant
  deriving DecidableEq

structure ReservationPayment where
  id : Id
  restaurantId : Id
  reservationId : Id
  policyId : Id
  status : ReservationPaymentStatus
  amount : Int
  currency : String
  stripeAccountId : Option String
  stripeSetupIntentId : Option String
  stripePaymentIntentId : Option String
  idempotencyKey : String
  expiresAt : Option Instant
  failureCode : Option String
  lastProviderEventAt : Option Instant
  deriving DecidableEq

structure ReservationPaymentEvent where
  id : Id
  restaurantId : Id
  paymentId : Id
  providerEventId : String
  eventType : String
  resultingStatus : Option ReservationPaymentStatus
  payloadHash : String
  occurredAt : Instant
  deriving DecidableEq

/-- The columns of a reservation that its payments use. -/
structure PaidReservation where
  id : Id
  restaurantId : Id
  partySize : Int
  state : ReservationState
  status : ReservationStatus
  deriving DecidableEq

structure PaymentData where
  policies : List ReservationPaymentPolicy
  reservations : List PaidReservation
  payments : List ReservationPayment
  events : List ReservationPaymentEvent
  deriving DecidableEq

inductive PaymentLock where
  | payment (paymentId : Id)
  | reservation (reservationId : Id)
  deriving DecidableEq

inductive PaymentFailure where
  | ReservationPaymentInputError (code message : String)
  | ReservationPaymentNotFoundError
  | ReservationPaymentPolicyNotFoundError
  | ReservationPaymentReservationNotFoundError
  | ReservationPaymentStateError (code : String)
  | ReservationNotFoundError (id : Id)
  | uniqueViolation
  deriving DecidableEq

abbrev PaymentCallId := Nat

abbrev PaymentStore := Store PaymentData PaymentLock PaymentCallId

abbrev PaymentProg := Prog PaymentStore

namespace PaymentData

variable (data : PaymentData)

def payment? (paymentId : Id) : Option ReservationPayment :=
  KeyedRows.lookup (·.id) data.payments paymentId

/-- `where: { id, restaurantId }`. -/
def paymentOf? (paymentId restaurantId : Id) : Option ReservationPayment :=
  (data.payment? paymentId).filter fun row => row.restaurantId == restaurantId

def paymentByKey? (idempotencyKey : String) : Option ReservationPayment :=
  KeyedRows.lookup (·.idempotencyKey) data.payments idempotencyKey

def event? (providerEventId : String) : Option ReservationPaymentEvent :=
  KeyedRows.lookup (·.providerEventId) data.events providerEventId

def reservation? (reservationId : Id) : Option PaidReservation :=
  KeyedRows.lookup (·.id) data.reservations reservationId

def reservationOf? (reservationId restaurantId : Id) : Option PaidReservation :=
  (data.reservation? reservationId).filter fun row => row.restaurantId == restaurantId

def insertPayment (row : ReservationPayment) : PaymentData :=
  { data with payments := data.payments ++ [row] }

def updatePayment (paymentId : Id) (change : ReservationPayment → ReservationPayment) :
    PaymentData :=
  { data with payments := KeyedRows.update (fun row => row.id == paymentId) change data.payments }

def insertEvent (row : ReservationPaymentEvent) : PaymentData :=
  { data with events := data.events ++ [row] }

def updateReservation (reservationId : Id) (change : PaidReservation → PaidReservation) :
    PaymentData :=
  { data with
    reservations := KeyedRows.update (fun row => row.id == reservationId) change data.reservations }

/-- The primary keys and unique indexes; nulls are never equal. -/
def keysUnique : Bool :=
  decide (data.payments.map (·.id)).Nodup && decide (data.payments.map (·.idempotencyKey)).Nodup &&
  decide (data.payments.filterMap (·.stripeSetupIntentId)).Nodup &&
  decide (data.payments.filterMap (·.stripePaymentIntentId)).Nodup &&
  decide (data.reservations.map (·.id)).Nodup && decide (data.events.map (·.id)).Nodup &&
  decide (data.events.map (·.providerEventId)).Nodup

def violation? : Option PaymentFailure :=
  if data.keysUnique then none else some .uniqueViolation

end PaymentData

/-- `new Date()`. -/
def paymentClock : PaymentProg Instant :=
  query fun _ now => now

/-- `/[\u0000-\u001f\u007f]/`. -/
def hasControlCharacter (text : String) : Bool :=
  text.toList.any fun char => decide (char.toNat < 0x20) || char.toNat == 0x7f

/-- A positive amount below 100 000 euros with at most two decimals, in cents. -/
def normalizeMoney (value : ℚ) : Except PaymentFailure Int :=
  let cents := value * 100
  if cents.den ≠ 1 ∨ value < 0 then
    .error (.ReservationPaymentInputError "PAYMENT_AMOUNT_INVALID"
      "Le montant doit être positif et contenir au plus deux décimales.")
  else if value = 0 ∨ 100000 ≤ value then
    .error (.ReservationPaymentInputError "PAYMENT_AMOUNT_INVALID"
      "Le montant doit être compris entre 0 et 100 000 euros.")
  else .ok cents.num

def normalizePaymentKey (value : String) : Except PaymentFailure String :=
  let key := trim value
  if utf16Length key < 8 ∨ 200 < utf16Length key ∨ hasControlCharacter key then
    .error (.ReservationPaymentInputError "PAYMENT_IDEMPOTENCY_INVALID"
      "La clé d’idempotence doit contenir entre 8 et 200 caractères sûrs.")
  else .ok key

def normalizeProviderId (value field : String) : Except PaymentFailure String :=
  let id := trim value
  if id = "" ∨ 256 < utf16Length id ∨ hasControlCharacter id then
    .error (.ReservationPaymentInputError "PAYMENT_EVENT_INVALID" (field ++ " est invalide."))
  else .ok id

def normalizePayloadHash (value : String) : Except PaymentFailure String :=
  let hash := asciiLowerCase (trim value)
  if hash.length = 64 ∧ hash.toList.all fun char => char.isDigit || ('a' ≤ char && char ≤ 'f') then
    .ok hash
  else
    .error (.ReservationPaymentInputError "PAYMENT_EVENT_INVALID" "payloadHash est invalide.")

def normalizeCurrency [UnicodeCase] (value : Option String) : Except PaymentFailure String :=
  let currency := UnicodeCase.toUpperCase (trim (value.getD "EUR"))
  if currency.length = 3 ∧ currency.toList.all fun char => 'A' ≤ char && char ≤ 'Z' then
    .ok currency
  else
    .error (.ReservationPaymentInputError "PAYMENT_POLICY_INVALID"
      "La devise doit être un code ISO 4217.")

def computeReservationPaymentAmount (policy : ReservationPaymentPolicy) (partySize : Int) :
    Except PaymentFailure Int :=
  if partySize < 1 ∨ 100 < partySize then
    .error (.ReservationPaymentInputError "PAYMENT_POLICY_INVALID"
      "Le nombre de couverts doit être compris entre 1 et 100.")
  else
    let amount := if policy.amountMode = .PER_PERSON then policy.amount * partySize else policy.amount
    if amount ≤ 0 ∨ 10000000 ≤ amount then
      .error (.ReservationPaymentInputError "PAYMENT_AMOUNT_INVALID"
        "Le montant calculé est hors limites.")
    else .ok amount

structure PreparePaymentInput where
  restaurantId : Id
  reservationId : Id
  policyId : Option Id
  idempotencyKey : String
  currency : Option String
  expiresAt : Option Instant
  /-- `dryRun: false`. -/
  forReal : Bool
  newId : Id

structure ReservationPaymentPreparation where
  reservationId : Id
  policyId : Id
  amount : Int
  currency : String
  idempotencyKey : String
  expiresAt : Instant
  deriving DecidableEq

/-- The policy that is named, or the latest one in force. -/
def findPolicy (restaurantId : Id) (policyId : Option Id) (at_ : Instant) (data : PaymentData) :
    Option ReservationPaymentPolicy :=
  match policyId.filter fun id => id != "" with
  | some id => data.policies.find? fun row => row.id == id && row.restaurantId == restaurantId
  | none =>
    (data.policies.filter fun row =>
      row.restaurantId == restaurantId && decide (row.activeFrom ≤ at_) &&
        row.activeUntil.all fun activeUntil => decide (at_ < activeUntil)).foldl
      (fun best row => match best with
        | none => some row
        | some latest => if latest.version < row.version then some row else some latest)
      none

namespace PreparePaymentInput

variable (input : PreparePaymentInput)

variable (prepared : ReservationPaymentPreparation)

def row : ReservationPayment where
  id := input.newId
  restaurantId := input.restaurantId
  reservationId := prepared.reservationId
  policyId := prepared.policyId
  status := .REQUIRES_PAYMENT_METHOD
  amount := prepared.amount
  currency := prepared.currency
  stripeAccountId := none
  stripeSetupIntentId := none
  stripePaymentIntentId := none
  idempotencyKey := prepared.idempotencyKey
  expiresAt := some prepared.expiresAt
  failureCode := none
  lastProviderEventAt := none

/-- A payment under the same key must be for the same thing. -/
def reuse (existing : ReservationPayment) :
    Except PaymentFailure (ReservationPaymentPreparation ⊕ ReservationPayment) :=
  if existing.restaurantId ≠ input.restaurantId ∨ existing.reservationId ≠ prepared.reservationId ∨
      existing.policyId ≠ prepared.policyId ∨ existing.amount ≠ prepared.amount ∨
      existing.currency ≠ prepared.currency then
    .error (.ReservationPaymentStateError "PAYMENT_IDEMPOTENCY_CONFLICT")
  else .ok (.inr existing)

section

variable [UnicodeCase]

/-- The amount, the currency and the expiry of a payment. -/
def plan (reservation : PaidReservation) (policy : ReservationPaymentPolicy)
    (idempotencyKey : String) (now : Instant) :
    Except PaymentFailure ReservationPaymentPreparation :=
  if policy.minPartySize.any fun minPartySize => decide (reservation.partySize < minPartySize) then
    .error (.ReservationPaymentStateError "PAYMENT_TRANSITION_INVALID")
  else do
    let amount ← computeReservationPaymentAmount policy reservation.partySize
    let currency ← normalizeCurrency input.currency
    let expiresAt := input.expiresAt.getD (now + 30 * msPerMinute)
    if expiresAt ≤ now ∨ now + msPerDay < expiresAt then
      .error (.ReservationPaymentInputError "PAYMENT_EXPIRY_INVALID"
        "expiresAt doit être dans les prochaines 24 heures.")
    else
      .ok
        { reservationId := reservation.id
          policyId := policy.id
          amount
          currency
          idempotencyKey
          expiresAt }

/-- A unique violation is answered with the payment that was there first. -/
def create (call : PaymentCallId) (prepared : ReservationPaymentPreparation) :
    PaymentProg (Except PaymentFailure (ReservationPaymentPreparation ⊕ ReservationPayment)) := do
  let created ← commitUnless call PaymentData.violation? (fun _ _ => input.row prepared)
    fun data _ => data.insertPayment (input.row prepared)
  match created with
  | .ok row => pure (.ok (.inr row))
  | .error failure =>
    let replay ← query fun data _ => data.paymentByKey? prepared.idempotencyKey
    pure (match replay with
      | some existing => input.reuse prepared existing
      | none => .error failure)

def prepareReservationPayment (call : PaymentCallId) :
    PaymentProg (Except PaymentFailure (ReservationPaymentPreparation ⊕ ReservationPayment)) :=
  match normalizePaymentKey input.idempotencyKey with
  | .error failure => pure (.error failure)
  | .ok idempotencyKey => do
      let now ← paymentClock
      let reservation ← query fun data _ =>
        data.reservationOf? input.reservationId input.restaurantId
      match reservation with
      | none => pure (.error .ReservationPaymentReservationNotFoundError)
      | some reservation =>
        if reservation.status = .CANCELLED ∨ reservation.status = .NO_SHOW then
          pure (.error (.ReservationPaymentStateError "PAYMENT_TRANSITION_INVALID"))
        else
          let policy ← query fun data _ => findPolicy input.restaurantId input.policyId now data
          match policy with
          | none => pure (.error .ReservationPaymentPolicyNotFoundError)
          | some policy =>
            match input.plan reservation policy idempotencyKey now with
            | .error failure => pure (.error failure)
            | .ok prepared =>
              if !input.forReal then pure (.ok (.inl prepared))
              else
                let existing ← query fun data _ => data.paymentByKey? idempotencyKey
                match existing with
                | some existing => pure (input.reuse prepared existing)
                | none => input.create call prepared

end

end PreparePaymentInput

structure PaymentTransitionInput where
  restaurantId : Id
  paymentId : Id
  target : ReservationPaymentStatus
  failureCode : Option String

def PaymentTransitionInput.transitioned (input : PaymentTransitionInput)
    (row : ReservationPayment) : ReservationPayment :=
  { row with status := input.target, failureCode := input.failureCode }

/-- The status is checked when it is read; the update by identifier does not look at it
again. -/
def transitionReservationPayment (call : PaymentCallId) (input : PaymentTransitionInput) :
    PaymentProg (Except PaymentFailure ReservationPayment) := do
  let current ← query fun data _ => data.paymentOf? input.paymentId input.restaurantId
  match current with
  | none => pure (.error .ReservationPaymentNotFoundError)
  | some current =>
    if !canTransitionReservationPayment current.status input.target then
      pure (.error (.ReservationPaymentStateError "PAYMENT_TRANSITION_INVALID"))
    else if current.status = input.target then pure (.ok current)
    else
      acquire call (.payment current.id)
      commitUnless call PaymentData.violation?
        (fun data _ => (data.payment? current.id).elim current input.transitioned)
        fun data _ => data.updatePayment current.id input.transitioned

/-- Payments that no method was given for in time. -/
def ReservationPayment.overdue (row : ReservationPayment) (now : Instant) : Bool :=
  (row.status == .REQUIRES_PAYMENT_METHOD || row.status == .REQUIRES_ACTION) &&
    row.expiresAt.any fun expiresAt => decide (expiresAt ≤ now)

def ReservationPayment.expiring (found : List Id) (now : Instant) (row : ReservationPayment) :
    Bool :=
  found.contains row.id && row.overdue now

def ReservationPayment.expired (row : ReservationPayment) : ReservationPayment :=
  { row with status := .EXPIRED }

/-- `updateMany`: the rows found are locked, then updated where they still match. -/
def expireReservationPayments (call : PaymentCallId) : PaymentProg (Except PaymentFailure Nat) := do
  let now ← paymentClock
  let found ← query fun data _ =>
    (data.payments.filter fun row => row.overdue now).map (·.id)
  acquireAll call (found.map .payment)
  commitUnless call PaymentData.violation?
    (fun data _ => (data.payments.filter (ReservationPayment.expiring found now)).length)
    fun data _ =>
      { data with
        payments :=
          KeyedRows.update (ReservationPayment.expiring found now)
            ReservationPayment.expired data.payments }

structure ProviderEventInput where
  restaurantId : Id
  paymentId : Id
  providerEventId : String
  eventType : String
  occurredAt : Instant
  payloadHash : String
  amount : Option ℚ
  currency : Option String
  stripeSetupIntentId : Option String
  stripePaymentIntentId : Option String
  stripeAccountId : Option String
  refundedAmount : Option ℚ
  failureCode : Option String
  newId : Id

structure ProviderEventResult where
  eventId : Id
  paymentId : Id
  resultingStatus : Option ReservationPaymentStatus
  changed : Bool
  duplicate : Bool
  stale : Bool
  reservationConfirmed : Bool
  deriving DecidableEq

/-- The identifiers of an event, checked. -/
structure ProviderEventKey where
  providerEventId : String
  eventType : String
  payloadHash : String
  deriving DecidableEq

/-- What an event does: nothing when it is a duplicate, otherwise it is recorded, and it
may be applied and confirm the reservation. -/
inductive ProviderEventPlan where
  | duplicate (event : ReservationPaymentEvent)
  | ignore (payment : ReservationPayment) (stale : Bool)
  | apply (payment : ReservationPayment) (status : ReservationPaymentStatus)
      (confirmed : Option PaidReservation)

def PaidReservation.confirmed (row : PaidReservation) : PaidReservation :=
  { row with
    state := .CONFIRMED
    status := ReservationState.transitionProjection .CONFIRMED row.status }

namespace ProviderEventInput

variable (input : ProviderEventInput)

def key : Except PaymentFailure ProviderEventKey := do
  let providerEventId ← normalizeProviderId input.providerEventId "providerEventId"
  let eventType ← normalizeProviderId input.eventType "eventType"
  let payloadHash ← normalizePayloadHash input.payloadHash
  return { providerEventId, eventType, payloadHash }

/-- The account and the intent of the event are not those of the payment. -/
def mismatches (eventType : String) (payment : ReservationPayment) : Bool :=
  input.stripeAccountId != payment.stripeAccountId ||
    ((hasStart eventType "payment_intent." || eventType == "charge.refunded") &&
      ((input.stripePaymentIntentId.getD "" == "") ||
        input.stripePaymentIntentId != payment.stripePaymentIntentId)) ||
    (hasStart eventType "setup_intent." &&
      ((input.stripeSetupIntentId.getD "" == "") ||
        input.stripeSetupIntentId != payment.stripeSetupIntentId))

variable (payment : ReservationPayment)

/-- A refund is partial or total. -/
def refundStatus : Except PaymentFailure ReservationPaymentStatus :=
  match input.refundedAmount with
  | none =>
    .error (.ReservationPaymentInputError "PAYMENT_EVENT_INVALID"
      "Le montant remboursé est requis.")
  | some refundedAmount => do
      let refunded ← normalizeMoney refundedAmount
      if refunded ≤ 0 ∨ payment.amount < refunded then
        .error (.ReservationPaymentInputError "PAYMENT_AMOUNT_MISMATCH"
          "Le remboursement ne correspond pas au paiement.")
      else .ok (if refunded = payment.amount then .REFUNDED else .PARTIALLY_REFUNDED)

section

variable [UnicodeCase]

def checkCurrency : Except PaymentFailure Unit :=
  match input.currency.filter fun currency => currency != "" with
  | none => .ok ()
  | some currency => do
      let normalized ← normalizeCurrency (some currency)
      if normalized ≠ payment.currency then
        .error (.ReservationPaymentInputError "PAYMENT_CURRENCY_MISMATCH"
          "La devise du provider ne correspond pas au paiement.")
      else .ok ()

omit [UnicodeCase] in
def checkAmount : Except PaymentFailure Unit :=
  match input.amount with
  | none => .ok ()
  | some amount => do
      let cents ← normalizeMoney amount
      if cents ≠ payment.amount then
        .error (.ReservationPaymentInputError "PAYMENT_AMOUNT_MISMATCH"
          "Le montant du provider ne correspond pas au paiement.")
      else .ok ()

/-- The status an event leads to, once what it says was compared with the payment. -/
def resultingStatus (eventType : String) (payment : ReservationPayment) :
    Except PaymentFailure (Option ReservationPaymentStatus) := do
  if input.mismatches eventType payment then
    .error (.ReservationPaymentInputError "PAYMENT_PROVIDER_MISMATCH"
      "Le paiement Stripe ne correspond pas au paiement enregistré.")
  else
    let status ← if eventType = "charge.refunded" then (input.refundStatus payment).map some
      else .ok (reservationPaymentStatusForProviderEvent eventType)
    if status.isSome then
      input.checkCurrency payment
      input.checkAmount payment
    return status

end

/-- An event older than the last one that was applied. -/
def stale : Bool :=
  payment.lastProviderEventAt.any fun last => decide (input.occurredAt < last)

def event (key : ProviderEventKey) (paymentId : Id)
    (resultingStatus : Option ReservationPaymentStatus) : ReservationPaymentEvent where
  id := input.newId
  restaurantId := input.restaurantId
  paymentId
  providerEventId := key.providerEventId
  eventType := key.eventType
  resultingStatus
  payloadHash := key.payloadHash
  occurredAt := input.occurredAt

/-- `failureCode.slice(0, 120)`, when there is one. -/
def applied (status : ReservationPaymentStatus) (row : ReservationPayment) : ReservationPayment :=
  { row with
    status
    lastProviderEventAt := some input.occurredAt
    failureCode := match input.failureCode.filter fun code => code != "" with
      | some code => some (String.ofList (code.toList.take 120))
      | none => row.failureCode }

def writes (key : ProviderEventKey) : ProviderEventPlan → PaymentData → Instant → PaymentData
  | .duplicate _, data, _ => data
  | .ignore payment stale, data, _ =>
    data.insertEvent (input.event key payment.id (if stale then some payment.status else none))
  | .apply payment status confirmed, data, _ =>
    let recorded := (data.updatePayment payment.id (input.applied status)).insertEvent
      (input.event key payment.id (some status))
    match confirmed with
    | none => recorded
    | some reservation => recorded.updateReservation reservation.id PaidReservation.confirmed

def result : ProviderEventPlan → ProviderEventResult
  | .duplicate event =>
    { eventId := event.id
      paymentId := event.paymentId
      resultingStatus := event.resultingStatus
      changed := false
      duplicate := true
      stale := false
      reservationConfirmed := false }
  | .ignore payment stale =>
    { eventId := input.newId
      paymentId := payment.id
      resultingStatus := if stale then some payment.status else none
      changed := false
      duplicate := false
      stale
      reservationConfirmed := false }
  | .apply payment status confirmed =>
    { eventId := input.newId
      paymentId := payment.id
      resultingStatus := some status
      changed := payment.status != status
      duplicate := false
      stale := false
      reservationConfirmed := confirmed.isSome }

variable (call : PaymentCallId)

/-- `transitionInTransaction` towards `CONFIRMED`, only from `PENDING`. -/
def confirmReservation (input : ProviderEventInput) (reservationId : Id) :
    PaymentProg (Except PaymentFailure (Option PaidReservation)) := do
  acquire call (.reservation reservationId)
  let previous ← query fun data _ => data.reservationOf? reservationId input.restaurantId
  pure (match previous with
    | none => .error (.ReservationNotFoundError reservationId)
    | some previous => .ok (if previous.state = .PENDING then some previous else none))

section

variable [UnicodeCase]

def planProviderEvent (input : ProviderEventInput) (key : ProviderEventKey) :
    PaymentProg (Except PaymentFailure ProviderEventPlan) := do
  acquire call (.payment input.paymentId)
  let existingEvent ← query fun data _ => data.event? key.providerEventId
  match existingEvent with
  | some event => pure (.ok (.duplicate event))
  | none =>
    let payment ← query fun data _ => data.paymentOf? input.paymentId input.restaurantId
    match payment with
    | none => pure (.error .ReservationPaymentNotFoundError)
    | some payment =>
      match input.resultingStatus key.eventType payment with
      | .error failure => pure (.error failure)
      | .ok none => pure (.ok (.ignore payment false))
      | .ok (some status) =>
        if input.stale payment then pure (.ok (.ignore payment true))
        else if !canTransitionReservationPayment payment.status status then
          pure (.error (.ReservationPaymentStateError "PAYMENT_TRANSITION_INVALID"))
        else if status = .AUTHORIZED ∨ status = .CAPTURED then
          (confirmReservation call input payment.reservationId).andThen fun confirmed =>
            pure (.ok (.apply payment status confirmed))
        else pure (.ok (.apply payment status none))

def applyReservationPaymentProviderEvent (input : ProviderEventInput) :
    PaymentProg (Except PaymentFailure ProviderEventResult) :=
  match input.key with
  | .error failure => pure (.error failure)
  | .ok key =>
    transact call (planProviderEvent call input key) PaymentData.violation?
      (fun plan _ _ => input.result plan) fun plan data now => input.writes key plan data now

end

end ProviderEventInput

end Sokar
