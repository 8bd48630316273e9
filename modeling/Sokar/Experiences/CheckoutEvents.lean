import Sokar.Experiences.Bookings

/-!
# What Stripe reports about experience checkouts

`handleExperienceCheckoutStripeEvent`, `handleExperienceRefundStripeEvent`,
`refundPaidExperienceReservation` and `cancelExperienceReservation`, statement by statement.
The customer found or created from the phone of the guest is left out.
-/

namespace Sokar

open Process Transaction

structure StripeRefund where
  id : String
  status : String
  deriving DecidableEq

def StripeRefund.checkoutStatus (refund : StripeRefund) : ExperienceCheckoutStatus :=
  if refund.status = "succeeded" then .REFUNDED
  else if refund.status = "failed" ∨ refund.status = "canceled" then .REFUND_FAILED
  else .REFUND_PENDING

namespace ExperienceCheckout

variable (checkout : ExperienceCheckout)

/-- Neither refunded nor refused a refund. -/
def awaitsRefund : Bool :=
  checkout.status != .REFUNDED && checkout.status != .REFUND_FAILED

def refunding (refund : StripeRefund) (occurredAt : Instant) : ExperienceCheckout :=
  { checkout with
    status := refund.checkoutStatus
    stripeRefundId := some refund.id
    refundedAt := if refund.checkoutStatus = .REFUNDED then some occurredAt else none }

/-- A checkout that cannot be booked any more. -/
def refused (paymentIntentId : Option String) : ExperienceCheckout :=
  { checkout with
    status := if checkout.totalPriceCents = 0 then .EXPIRED else .REFUND_PENDING
    stripePaymentIntentId := paymentIntentId.or checkout.stripePaymentIntentId }

def booked (paymentIntentId : Option String) (reservationId : Id) : ExperienceCheckout :=
  { checkout with
    status := if checkout.totalPriceCents = 0 then .FREE else .PAID
    stripePaymentIntentId := paymentIntentId.or checkout.stripePaymentIntentId
    reservationId := some reservationId }

end ExperienceCheckout

/-- The row of a checkout, whatever its status. -/
def isCheckout (restaurantId checkoutId : Id) (row : ExperienceCheckout) : Bool :=
  row.id == checkoutId && row.restaurantId == restaurantId

/-- The refund is stored unless one has ended; the status stored is read back. -/
def persistExperienceRefund (call : ExperienceCallId) (restaurantId checkoutId : Id)
    (refund : StripeRefund) : ExperienceProg (Except ExperienceFailure ExperienceCheckoutStatus) := do
  let stored ← commitUnless call ExperienceData.violation? (fun _ _ => ()) fun data now =>
    data.updateCheckouts (fun row => isCheckout restaurantId checkoutId row && row.awaitsRefund)
      (·.refunding refund now)
  match stored with
  | .error failure => pure (.error failure)
  | .ok () => do
      let row ← query fun data _ => data.checkoutOf? restaurantId checkoutId
      pure (match row with
        | none => .error .P2025
        | some row => .ok row.status)

inductive RefundOutcome where
  | pending | refunded | notRequired
  deriving DecidableEq

structure CancelExperienceReservationInput where
  restaurantId : Id
  reservationId : Id
  actor : String
  /-- The refund the provider makes, if it answers. -/
  refund : Option StripeRefund

namespace CancelExperienceReservationInput

variable (input : CancelExperienceReservationInput)

def refundPaidExperienceReservation (call : ExperienceCallId) :
    ExperienceProg (Except ExperienceFailure RefundOutcome) := do
  let found ← query fun data _ => data.checkouts.find? fun row =>
    row.restaurantId == input.restaurantId && row.reservationId == some input.reservationId
  match found with
  | none => pure (.ok .notRequired)
  | some checkout =>
    match checkout.status with
    | .EXPIRED | .OPEN | .FREE => pure (.ok .notRequired)
    | .REFUNDED => pure (.ok .refunded)
    | .REFUND_FAILED => checkoutError .EXPERIENCE_REFUND_FAILED 409
    | .PAID | .REFUND_PENDING =>
      match checkout.stripePaymentIntentId, input.refund with
      | none, _ => checkoutError .EXPERIENCE_REFUND_FAILED 409
      | some _, none => pure (.error .provider)
      | some _, some refund =>
        (persistExperienceRefund call checkout.restaurantId checkout.id refund).andThen
          fun stored =>
            if stored = .REFUND_FAILED then checkoutError .EXPERIENCE_REFUND_FAILED 409
            else pure (.ok (if stored = .REFUNDED then .refunded else .pending))

variable [Sha256]

/-- The payment is refunded first, then the reservation is cancelled. -/
def cancelExperienceReservation (call : ExperienceCallId) : ExperienceProg
    (Except ExperienceFailure (ExperienceReservationMutationResult × RefundOutcome)) := do
  let now ← experienceClock
  (input.refundPaidExperienceReservation call).andThen fun refundStatus => do
    let cancels := fun row : ExperienceReservation =>
      row.id == input.reservationId && row.restaurantId == input.restaurantId &&
        row.status == .CONFIRMED
    let cancelled ← commit call (fun data _ => data.reservations.any cancels) fun data _ =>
      data.updateReservations cancels fun row =>
        { row with
          status := .CANCELLED
          cancelledAt := some now
          cancelledByHash := some (Sha256.sha256 ("sokar:experience-actor:" ++ input.actor)) }
    let row ← query fun data _ => data.reservationOf? input.restaurantId input.reservationId
    pure (match row with
      | none => .error .ExperienceReservationNotFoundError
      | some row =>
        if cancelled then .ok ({ reservation := row, replayed := false }, refundStatus)
        else if row.status = .CANCELLED then .ok ({ reservation := row, replayed := true }, refundStatus)
        else .error .ExperienceReservationStateError)

end CancelExperienceReservationInput

inductive ExperienceEventResult where
  | unhandled
  | replayed
  | handled
  | bookingUnavailable
  | refunded
  | reserved (reservationId : Id)
  deriving DecidableEq

structure ExperienceEventKey where
  eventId : String
  eventType : String
  occurredAt : Instant
  payloadHash : String
  accountId : Option String
  deriving DecidableEq

namespace ExperienceEventKey

variable (event : ExperienceEventKey)

def row (restaurantId checkoutId : Id) : ExperiencePaymentEvent where
  restaurantId
  checkoutId
  providerEventId := event.eventId
  eventType := event.eventType
  payloadHash := event.payloadHash
  occurredAt := event.occurredAt

def seen (restaurantId : Id) (data : ExperienceData) : Bool :=
  data.events.any fun row =>
    row.providerEventId == event.eventId && row.restaurantId == restaurantId

/-- The transaction of an event: what it changes and the record of the event, unless the
event is recorded already. -/
def recordOnce (call : ExperienceCallId) (restaurantId checkoutId : Id)
    (answer : ExperienceEventResult) (change : ExperienceData → Instant → ExperienceData) :
    ExperienceProg (Except ExperienceFailure ExperienceEventResult) :=
  transact call
    (do
      let seen ← query fun data _ => event.seen restaurantId data
      pure (Except.ok seen : Except ExperienceFailure Bool))
    ExperienceData.violation? (fun seen _ _ => if seen then .replayed else answer)
    fun seen data now =>
      if seen then data else (change data now).insertEvent (event.row restaurantId checkoutId)

end ExperienceEventKey

structure ExperienceRefundEvent where
  event : ExperienceEventKey
  paymentIntentId : Option String
  refund : StripeRefund

def ExperienceRefundEvent.handleExperienceRefundStripeEvent (input : ExperienceRefundEvent)
    (call : ExperienceCallId) : ExperienceProg (Except ExperienceFailure ExperienceEventResult) :=
  match input.paymentIntentId with
  | none => pure (.ok .unhandled)
  | some paymentIntentId => do
      let found ← query fun data _ =>
        data.checkouts.find? fun row => row.stripePaymentIntentId == some paymentIntentId
      match found with
      | none => pure (.ok .unhandled)
      | some checkout =>
        if some checkout.stripeAccountId ≠ input.event.accountId then
          checkoutError .EXPERIENCE_PAYMENT_EVENT_INVALID 400
        else
          input.event.recordOnce call checkout.restaurantId checkout.id .handled fun data _ =>
            if !checkout.awaitsRefund then data
            else data.updateCheckouts (fun row =>
              isCheckout checkout.restaurantId checkout.id row && row.awaitsRefund)
                (·.refunding input.refund input.event.occurredAt)

structure ExperienceCheckoutEvent where
  event : ExperienceEventKey
  sessionId : String
  metadataType : Option String
  restaurantId : Option Id
  experienceCheckoutId : Option Id
  paymentIntentId : Option String
  paymentStatus : String
  amountTotal : Option Int
  currency : Option String
  newReservationId : Id
  /-- The refund the provider makes of a payment that comes too late, if it answers. -/
  refund : Option StripeRefund

abbrev CheckoutOffer := ExperienceCheckout × ExperienceSession × Experience

def ExperienceData.checkoutOffer? (data : ExperienceData) (restaurantId checkoutId : Id) :
    Option CheckoutOffer := do
  let checkout ← data.checkoutOf? restaurantId checkoutId
  let session ← data.session? checkout.sessionId
  let experience ← data.experience? checkout.experienceId
  return (checkout, session, experience)

namespace ExperienceCheckoutEvent

variable (input : ExperienceCheckoutEvent)

/-- Nothing can be booked for the checkout any more when the event occurs. -/
def tooLate (offer : CheckoutOffer) : Bool :=
  offer.1.status != .OPEN || decide (offer.1.expiresAt ≤ input.event.occurredAt) ||
    offer.2.1.status != .OPEN || decide (offer.2.1.startsAt ≤ input.event.occurredAt) ||
    offer.2.2.status != .ACTIVE

/-- The payment is the one the checkout asks for. -/
def paysFor [UnicodeCase] (checkout : ExperienceCheckout) : Bool :=
  (input.paymentStatus == "paid" ||
    (checkout.totalPriceCents == 0 && input.paymentStatus == "no_payment_required")) &&
    (checkout.totalPriceCents == 0 || input.paymentIntentId.isSome) &&
    input.amountTotal == some (checkout.totalPriceCents : Int) &&
    input.currency.map UnicodeCase.toUpperCase == some checkout.currency

/-- What was decided before is only recorded. -/
def isSettled (checkout : ExperienceCheckout) : Bool :=
  checkout.status == .PAID || checkout.status == .FREE || checkout.status == .REFUNDED ||
    checkout.status == .REFUND_FAILED ||
    (checkout.status == .REFUND_PENDING && checkout.stripeRefundId.isSome)

/-- What the last transaction of a payment does. -/
inductive Plan where
  | replay
  | record
  | refuse (checkout : ExperienceCheckout)
  | book (checkout : ExperienceCheckout)

variable (call : ExperienceCallId)

variable (restaurantId : Id)

/-- The checkout is read again under the lock of its session. -/
def plan (checkout : ExperienceCheckout) : ExperienceProg (Except ExperienceFailure Plan) := do
  acquire call (.session restaurantId checkout.sessionId)
  let seen ← query fun data _ => input.event.seen restaurantId data
  if seen then pure (.ok .replay)
  else do
    let found ← query fun data _ => data.checkoutOffer? restaurantId checkout.id
    match found with
    | none => checkoutError .EXPERIENCE_CHECKOUT_NOT_FOUND 404
    | some (current, session, experience) =>
      if current.status = .PAID then pure (.ok .record)
      else if input.tooLate (current, session, experience) then pure (.ok (.refuse current))
      else do
        let now ← experienceClock
        let used ← countSeats restaurantId current.sessionId (some current.id) now
        if effectiveCapacity session experience < used + current.quantity then
          pure (.ok (.refuse current))
        else pure (.ok (.book current))

variable [Sha256]

def reservation (checkout : ExperienceCheckout) : ExperienceReservation where
  id := input.newReservationId
  restaurantId
  experienceId := checkout.experienceId
  sessionId := checkout.sessionId
  customerId := none
  reservationId := none
  idempotencyKey := some ("stripe-experience:" ++ checkout.id)
  quantity := checkout.quantity
  unitPriceCents := checkout.unitPriceCents
  totalPriceCents := checkout.totalPriceCents
  currency := checkout.currency
  status := .CONFIRMED
  createdByHash := Sha256.sha256 ("experience-public:" ++ checkout.id)
  cancelledByHash := none
  cancelledAt := none

def writes : Plan → ExperienceData → ExperienceData
  | .replay, data => data
  | .record, data => data
  | .refuse checkout, data =>
    data.updateCheckouts (isCheckout restaurantId checkout.id) (·.refused input.paymentIntentId)
  | .book checkout, data =>
    (data.insertReservation (input.reservation restaurantId checkout)).updateCheckouts
      (isCheckout restaurantId checkout.id)
      (·.booked input.paymentIntentId input.newReservationId)

def carryOut (restaurantId checkoutId : Id) (plan : Plan) (data : ExperienceData) : ExperienceData :=
  match plan with
  | .replay => data
  | plan => (input.writes restaurantId plan data).insertEvent
      (input.event.row restaurantId checkoutId)

def finalizeCheckout (checkout : ExperienceCheckout) :
    ExperienceProg (Except ExperienceFailure ExperienceEventResult) := do
  let done ← transact call (input.plan call restaurantId checkout) ExperienceData.violation?
    (fun plan _ _ => plan) fun plan data _ => input.carryOut restaurantId checkout.id plan data
  match done with
  | .error failure => pure (.error failure)
  | .ok .replay => pure (.ok .replayed)
  | .ok .record => pure (.ok .replayed)
  | .ok (.book _) => pure (.ok (.reserved input.newReservationId))
  | .ok (.refuse current) =>
    if current.totalPriceCents = 0 then pure (.ok .handled)
    else
      match input.paymentIntentId, input.refund with
      | none, _ => checkoutError .EXPERIENCE_PAYMENT_EVENT_INVALID 400
      | some _, none => pure (.error .provider)
      | some _, some refund =>
        (persistExperienceRefund call checkout.restaurantId checkout.id refund).andThen
          fun _ => pure (.ok .refunded)

/-- A payment that comes too late is given back. -/
def giveBack (checkout : ExperienceCheckout) :
    ExperienceProg (Except ExperienceFailure ExperienceEventResult) :=
  match input.paymentIntentId, input.refund with
  | none, _ => checkoutError .EXPERIENCE_PAYMENT_EVENT_INVALID 400
  | some _, none => pure (.error .provider)
  | some paymentIntentId, some refund =>
    input.event.recordOnce call restaurantId checkout.id .refunded fun data now =>
      data.updateCheckouts
        (fun row => isCheckout restaurantId checkout.id row && row.awaitsRefund) fun row =>
          { row.refunding refund now with stripePaymentIntentId := some paymentIntentId }

variable [UnicodeCase]

/-- What is done for the checkout that was found. -/
def respond (offer : CheckoutOffer) :
    ExperienceProg (Except ExperienceFailure ExperienceEventResult) :=
  let checkout := offer.1
  if some checkout.stripeAccountId ≠ input.event.accountId ∨
      checkout.stripeCheckoutSessionId.any (· != input.sessionId) then
    checkoutError .EXPERIENCE_PAYMENT_EVENT_INVALID 400
  else if input.event.eventType = "checkout.session.expired" then
    input.event.recordOnce call restaurantId checkout.id .handled fun data _ =>
      data.updateCheckouts (fun row =>
        isCheckout restaurantId checkout.id row && row.status == .OPEN) (·.expired)
  else if input.event.eventType ≠ "checkout.session.completed" ∧
      input.event.eventType ≠ "checkout.session.async_payment_succeeded" then
    pure (.ok .unhandled)
  else if !input.paysFor checkout then
    checkoutError .EXPERIENCE_PAYMENT_EVENT_INVALID 400
  else if isSettled checkout then
    input.event.recordOnce call restaurantId checkout.id .replayed fun data _ => data
  else if !input.tooLate offer then input.finalizeCheckout call restaurantId checkout
  else if checkout.totalPriceCents = 0 then
    input.event.recordOnce call restaurantId checkout.id .bookingUnavailable
      fun data _ => data.updateCheckouts (isCheckout restaurantId checkout.id) (·.expired)
  else input.giveBack call restaurantId checkout

def handleExperienceCheckoutStripeEvent :
    ExperienceProg (Except ExperienceFailure ExperienceEventResult) :=
  if input.metadataType ≠ some "experience_checkout" then pure (.ok .unhandled)
  else
    match input.restaurantId, input.experienceCheckoutId with
    | some restaurantId, some checkoutId => do
        let found ← query fun data _ => data.checkoutOffer? restaurantId checkoutId
        match found with
        | none => checkoutError .EXPERIENCE_PAYMENT_EVENT_INVALID 400
        | some offer => input.respond call restaurantId offer
    | _, _ => checkoutError .EXPERIENCE_PAYMENT_EVENT_INVALID 400

end ExperienceCheckoutEvent

end Sokar
