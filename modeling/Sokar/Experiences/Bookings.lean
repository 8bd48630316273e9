import Mathlib.Data.List.Sort
import Sokar.Library.GuardedData
import Sokar.Library.KeyedRows
import Sokar.Shared.CustomerLinks
import Sokar.Shared.Inputs

/-!
# Experiences and their sessions

The rows of `experience.service` and `experience-payment.service`, with
`reserveExperience`, `createPublicExperienceCheckout` and the ways a checkout expires,
statement by statement.  The dates are those of the clock: no caller passes its own.  The
names and contact details of the guests and the URLs handed to the provider are left out.
-/

namespace Sokar

open Process Transaction

inductive ExperienceStatus where
  | DRAFT | ACTIVE | ARCHIVED
  deriving DecidableEq

inductive ExperienceSessionStatus where
  | OPEN | CLOSED | CANCELLED
  deriving DecidableEq

inductive ExperienceReservationStatus where
  | CONFIRMED | CANCELLED
  deriving DecidableEq

inductive ExperienceCheckoutStatus where
  | OPEN | PAID | FREE | EXPIRED | REFUND_PENDING | REFUNDED | REFUND_FAILED
  deriving DecidableEq

structure Experience where
  id : Id
  restaurantId : Id
  priceCents : Nat
  currency : String
  capacity : Nat
  status : ExperienceStatus
  deriving DecidableEq

structure ExperienceSession where
  id : Id
  restaurantId : Id
  experienceId : Id
  startsAt : Instant
  capacityOverride : Option Nat
  status : ExperienceSessionStatus
  deriving DecidableEq

structure ExperienceReservation where
  id : Id
  restaurantId : Id
  experienceId : Id
  sessionId : Id
  customerId : Option Id
  reservationId : Option Id
  idempotencyKey : Option String
  quantity : Nat
  unitPriceCents : Nat
  totalPriceCents : Nat
  currency : String
  status : ExperienceReservationStatus
  createdByHash : String
  cancelledByHash : Option String
  cancelledAt : Option Instant
  deriving DecidableEq

structure ExperienceCheckout where
  id : Id
  restaurantId : Id
  experienceId : Id
  sessionId : Id
  reservationId : Option Id
  quantity : Nat
  unitPriceCents : Nat
  totalPriceCents : Nat
  sokarFeeCents : Nat
  currency : String
  status : ExperienceCheckoutStatus
  stripeAccountId : String
  stripeCheckoutSessionId : Option String
  stripePaymentIntentId : Option String
  stripeRefundId : Option String
  idempotencyKey : String
  expiresAt : Instant
  refundedAt : Option Instant
  deriving DecidableEq

structure ExperiencePaymentEvent where
  restaurantId : Id
  checkoutId : Id
  providerEventId : String
  eventType : String
  payloadHash : String
  occurredAt : Instant
  deriving DecidableEq

/-- The columns of a restaurant that a public checkout reads. -/
structure ExperienceRestaurant where
  id : Id
  slug : String
  publishedAt : Option Instant
  connectPublished : Bool
  experienceStripeAccountId : Option String
  giftCardStripeAccountId : Option String
  experienceCommissionRate : Option ℚ
  deriving DecidableEq

structure ExperienceData where
  restaurants : List ExperienceRestaurant
  experiences : List Experience
  sessions : List ExperienceSession
  reservations : List ExperienceReservation
  checkouts : List ExperienceCheckout
  events : List ExperiencePaymentEvent
  links : CustomerLinks
  deriving DecidableEq

inductive ExperienceLock where
  | session (restaurantId sessionId : Id)
  deriving DecidableEq

inductive ExperienceInputCode where
  | EXPERIENCE_QUANTITY_INVALID | EXPERIENCE_IDEMPOTENCY_INVALID
  deriving DecidableEq

inductive ExperienceConflictCode where
  | EXPERIENCE_SESSION_CLOSED | EXPERIENCE_SESSION_IN_PAST | EXPERIENCE_NOT_ACTIVE
  | EXPERIENCE_CAPACITY_EXCEEDED | EXPERIENCE_IDEMPOTENCY_CONFLICT
  | EXPERIENCE_RESERVATION_INVALID
  deriving DecidableEq

inductive ExperienceCheckoutCode where
  | EXPERIENCE_NOT_FOUND | EXPERIENCE_SESSION_NOT_FOUND | EXPERIENCE_CAPACITY_EXCEEDED
  | EXPERIENCE_CHECKOUT_IDEMPOTENCY_CONFLICT | EXPERIENCE_PAYMENT_NOT_CONFIGURED
  | EXPERIENCE_STRIPE_NOT_READY | EXPERIENCE_CHECKOUT_NOT_FOUND | EXPERIENCE_REFUND_FAILED
  | EXPERIENCE_PAYMENT_EVENT_INVALID
  deriving DecidableEq

/-- The errors of the two services, of the provider, of a missing setting and of the
constraints of the tables. -/
inductive ExperienceFailure where
  | ExperienceInputError (code : ExperienceInputCode) (message : String)
  | ExperienceSessionNotFoundError
  | ExperienceCustomerNotFoundError
  | ExperienceReservationNotFoundError
  | ExperienceConflictError (code : ExperienceConflictCode)
  | ExperienceReservationStateError
  | ExperienceCheckoutError (code : ExperienceCheckoutCode) (statusCode : Nat)
  | provider
  | originMissing
  | P2002
  | P2025
  | checkViolation
  deriving DecidableEq

abbrev ExperienceCallId := Nat

abbrev ExperienceStore := Store ExperienceData ExperienceLock ExperienceCallId

abbrev ExperienceProg := Prog ExperienceStore

/-- `capacityOverride ?? experience.capacity`. -/
def effectiveCapacity (session : ExperienceSession) (experience : Experience) : Nat :=
  session.capacityOverride.getD experience.capacity

namespace ExperienceReservation

variable (reservation : ExperienceReservation)

def checks : Bool :=
  (reservation.idempotencyKey.all fun key => key.length == 64) &&
    decide (1 ≤ reservation.quantity ∧ reservation.quantity ≤ 1000 ∧
      reservation.unitPriceCents ≤ 1000000 ∧ reservation.totalPriceCents ≤ 1000000000) &&
    reservation.currency == "EUR"

end ExperienceReservation

namespace ExperienceCheckout

variable (checkout : ExperienceCheckout)

/-- Held for a guest who has not paid yet. -/
def isHeld (now : Instant) : Bool :=
  checkout.status == .OPEN && decide (now < checkout.expiresAt)

def expired : ExperienceCheckout :=
  { checkout with status := .EXPIRED }

def checks : Bool :=
  decide (1 ≤ checkout.quantity ∧ checkout.quantity ≤ 1000 ∧ checkout.unitPriceCents ≤ 1000000 ∧
    checkout.totalPriceCents = checkout.unitPriceCents * checkout.quantity ∧
    checkout.sokarFeeCents ≤ checkout.totalPriceCents) && checkout.currency == "EUR"

end ExperienceCheckout

namespace ExperienceData

variable (data : ExperienceData)

def experience? (experienceId : Id) : Option Experience :=
  KeyedRows.lookup (·.id) data.experiences experienceId

def session? (sessionId : Id) : Option ExperienceSession :=
  KeyedRows.lookup (·.id) data.sessions sessionId

def offer? (sessionId : Id) : Option (ExperienceSession × Experience) := do
  let session ← data.session? sessionId
  let experience ← data.experience? session.experienceId
  return (session, experience)

def offerOf? (restaurantId sessionId experienceId : Id) : Option (ExperienceSession × Experience) :=
  (data.offer? sessionId).filter fun offer =>
    offer.1.restaurantId == restaurantId && offer.1.experienceId == experienceId

def reservation? (reservationId : Id) : Option ExperienceReservation :=
  KeyedRows.lookup (·.id) data.reservations reservationId

def reservationOf? (restaurantId reservationId : Id) : Option ExperienceReservation :=
  (data.reservation? reservationId).filter fun row => row.restaurantId == restaurantId

/-- `findReservationByIdempotency`. -/
def reservationByKey? (idempotencyKey : Option String) : Option ExperienceReservation :=
  match idempotencyKey with
  | none => none
  | some key => data.reservations.find? fun row => row.idempotencyKey == some key

def checkout? (checkoutId : Id) : Option ExperienceCheckout :=
  KeyedRows.lookup (·.id) data.checkouts checkoutId

def checkoutOf? (restaurantId checkoutId : Id) : Option ExperienceCheckout :=
  (data.checkout? checkoutId).filter fun row => row.restaurantId == restaurantId

def checkoutByKey? (restaurantId : Id) (idempotencyKey : String) : Option ExperienceCheckout :=
  data.checkouts.find? fun row =>
    row.idempotencyKey == idempotencyKey && row.restaurantId == restaurantId

/-- `experienceRestaurantBySlug`. -/
def restaurantBySlug? (slug : String) : Option ExperienceRestaurant :=
  data.restaurants.find? fun row => row.slug == slug

/-- `publicRestaurant`. -/
def publicRestaurant? (slug : String) : Option ExperienceRestaurant :=
  (data.restaurantBySlug? slug).filter fun row => row.publishedAt.isSome && row.connectPublished

/-- The seats of the confirmed reservations of a session. -/
def bookedSeats (restaurantId sessionId : Id) : Nat :=
  ((data.reservations.filter fun row => row.sessionId == sessionId &&
    row.restaurantId == restaurantId && row.status == .CONFIRMED).map (·.quantity)).sum

/-- The seats of the checkouts that hold some at an instant, except one of them. -/
def heldSeats (restaurantId sessionId : Id) (except : Option Id) (now : Instant) : Nat :=
  ((data.checkouts.filter fun row => row.sessionId == sessionId &&
    row.restaurantId == restaurantId && except != some row.id && row.isHeld now).map
      (·.quantity)).sum

def insertReservation (row : ExperienceReservation) : ExperienceData :=
  { data with reservations := data.reservations ++ [row] }

def updateReservations (selected : ExperienceReservation → Bool)
    (change : ExperienceReservation → ExperienceReservation) : ExperienceData :=
  { data with reservations := KeyedRows.update selected change data.reservations }

def insertCheckout (row : ExperienceCheckout) : ExperienceData :=
  { data with checkouts := data.checkouts ++ [row] }

def updateCheckouts (selected : ExperienceCheckout → Bool)
    (change : ExperienceCheckout → ExperienceCheckout) : ExperienceData :=
  { data with checkouts := KeyedRows.update selected change data.checkouts }

def insertEvent (event : ExperiencePaymentEvent) : ExperienceData :=
  { data with events := data.events ++ [event] }

def keysUnique : Bool :=
  decide (data.reservations.map (·.id)).Nodup &&
    decide (data.reservations.filterMap (·.idempotencyKey)).Nodup &&
    decide (data.checkouts.map (·.id)).Nodup &&
    decide (data.checkouts.map (·.idempotencyKey)).Nodup &&
    decide (data.checkouts.filterMap (·.reservationId)).Nodup &&
    decide (data.checkouts.filterMap (·.stripeCheckoutSessionId)).Nodup &&
    decide (data.checkouts.filterMap (·.stripePaymentIntentId)).Nodup &&
    decide (data.checkouts.filterMap (·.stripeRefundId)).Nodup &&
    decide (data.events.map (·.providerEventId)).Nodup

def violation? : Option ExperienceFailure :=
  if !data.keysUnique then some .P2002
  else if !(data.reservations.all (·.checks) && data.checkouts.all (·.checks)) then
    some .checkViolation
  else none

end ExperienceData

/-- `new Date()`. -/
def experienceClock : ExperienceProg Instant :=
  query fun _ now => now

def countSeats (restaurantId sessionId : Id) (except : Option Id) (now : Instant) :
    ExperienceProg Nat := do
  let booked ← query fun data _ => data.bookedSeats restaurantId sessionId
  let held ← query fun data _ => data.heldSeats restaurantId sessionId except now
  pure (booked + held)

structure ExperienceReservationMutationResult where
  reservation : ExperienceReservation
  replayed : Bool
  deriving DecidableEq

structure ReserveExperienceInput where
  restaurantId : Id
  experienceId : Id
  sessionId : Id
  customerId : Option Id
  reservationId : Option Id
  quantity : ℚ
  idempotencyKey : Option String
  actor : String
  newId : Id

namespace ReserveExperienceInput

variable (input : ReserveExperienceInput)

/-- `assertReplayMatches`, and the answer to a replay. -/
def replay (row : ExperienceReservation) :
    Except ExperienceFailure ExperienceReservationMutationResult :=
  if row.experienceId != input.experienceId || row.sessionId != input.sessionId ||
      (row.quantity : ℚ) != input.quantity then
    .error (.ExperienceConflictError .EXPERIENCE_IDEMPOTENCY_CONFLICT)
  else .ok { reservation := row, replayed := true }

def bookable (now : Instant) : ExperienceProg (Except ExperienceFailure Unit) := do
  let found ← query fun data _ =>
    data.offerOf? input.restaurantId input.sessionId input.experienceId
  match found with
  | none => pure (.error .ExperienceSessionNotFoundError)
  | some (session, experience) =>
    if session.status ≠ .OPEN then
      pure (.error (.ExperienceConflictError .EXPERIENCE_SESSION_CLOSED))
    else if session.startsAt ≤ now then
      pure (.error (.ExperienceConflictError .EXPERIENCE_SESSION_IN_PAST))
    else do
      let customer ← query fun data _ => input.customerId.all fun customerId =>
        data.links.hasCustomer input.restaurantId customerId
      if !customer then pure (.error .ExperienceCustomerNotFoundError)
      else do
        let reservation ← query fun data _ => input.reservationId.all fun reservationId =>
          data.links.hasReservation input.restaurantId reservationId input.customerId
        if !reservation then
          pure (.error (.ExperienceConflictError .EXPERIENCE_RESERVATION_INVALID))
        else if experience.status ≠ .ACTIVE then
          pure (.error (.ExperienceConflictError .EXPERIENCE_NOT_ACTIVE))
        else pure (.ok ())

variable (call : ExperienceCallId)

/-- The experience, once the session has seats left under its lock. -/
def seated (now : Instant) (quantity : Nat) :
    ExperienceProg (Except ExperienceFailure Experience) := do
  acquire call (.session input.restaurantId input.sessionId)
  let found ← query fun data _ =>
    data.offerOf? input.restaurantId input.sessionId input.experienceId
  match found with
  | none => pure (.error .ExperienceSessionNotFoundError)
  | some (session, experience) =>
    if session.status ≠ .OPEN then
      pure (.error (.ExperienceConflictError .EXPERIENCE_SESSION_CLOSED))
    else if experience.status ≠ .ACTIVE then
      pure (.error (.ExperienceConflictError .EXPERIENCE_NOT_ACTIVE))
    else if session.startsAt ≤ now then
      pure (.error (.ExperienceConflictError .EXPERIENCE_SESSION_IN_PAST))
    else do
      let used ← countSeats input.restaurantId input.sessionId none now
      if effectiveCapacity session experience < used + quantity then
        pure (.error (.ExperienceConflictError .EXPERIENCE_CAPACITY_EXCEEDED))
      else pure (.ok experience)

variable [Sha256]

def row (idempotencyKey : Option String) (quantity : Nat) (experience : Experience) :
    ExperienceReservation where
  id := input.newId
  restaurantId := input.restaurantId
  experienceId := input.experienceId
  sessionId := input.sessionId
  customerId := input.customerId
  reservationId := input.reservationId
  idempotencyKey
  quantity
  unitPriceCents := experience.priceCents
  totalPriceCents := experience.priceCents * quantity
  currency := experience.currency
  status := .CONFIRMED
  createdByHash := Sha256.sha256 ("sokar:experience-actor:" ++ input.actor)
  cancelledByHash := none
  cancelledAt := none

/-- The transaction; a replay that won the race answers for a reservation refused as a
duplicate. -/
def create (now : Instant) (quantity : Nat) (idempotencyKey : Option String) :
    ExperienceProg (Except ExperienceFailure ExperienceReservationMutationResult) := do
  let created ← transact call (input.seated call now quantity) ExperienceData.violation?
    (fun experience _ _ => { reservation := input.row idempotencyKey quantity experience
                             replayed := false : ExperienceReservationMutationResult })
    fun experience data _ => data.insertReservation (input.row idempotencyKey quantity experience)
  match created, idempotencyKey with
  | .error .P2002, some key => do
      let raced ← query fun data _ => data.reservationByKey? (some key)
      pure (match raced with
        | some row => input.replay row
        | none => created)
  | _, _ => pure created

def reserveExperience :
    ExperienceProg (Except ExperienceFailure ExperienceReservationMutationResult) := do
  let now ← experienceClock
  let quantity := normalizeCount input.quantity 1000 <|
    ExperienceFailure.ExperienceInputError .EXPERIENCE_QUANTITY_INVALID
      "La quantité doit être comprise entre 1 et 1 000 personnes."
  let rawKey := normalizeIdempotencyKey input.idempotencyKey <|
    .ExperienceInputError .EXPERIENCE_IDEMPOTENCY_INVALID
  match quantity, rawKey with
  | .error failure, _ => pure (.error failure)
  | .ok _, .error failure => pure (.error failure)
  | .ok quantity, .ok rawKey => do
      let idempotencyKey := rawKey.map fun key =>
        Sha256.sha256 ("sokar:experience-idempotency:" ++ input.restaurantId ++ ":" ++ key)
      let replayed ← query fun data _ => data.reservationByKey? idempotencyKey
      match replayed with
      | some row => pure (input.replay row)
      | none => (input.bookable now).andThen fun _ => input.create call now quantity idempotencyKey

end ReserveExperienceInput

def CHECKOUT_HOLD_MS : Int := 35 * 60 * 1000

/-- What the provider tells about the account of the restaurant. -/
structure ConnectedAccount where
  chargesEnabled : Bool
  payoutsEnabled : Bool
  deriving DecidableEq

structure StripeCheckoutSession where
  id : String
  paymentIntentId : Option String
  url : String
  deriving DecidableEq

structure PublicCheckout where
  checkoutId : Id
  url : String
  expiresAt : Instant
  deriving DecidableEq

structure PublicCheckoutInput where
  slug : String
  experienceId : Id
  sessionId : Id
  quantity : Nat
  idempotencyKey : String
  newId : Id
  /-- `CONNECT_URL` or `SITE_URL` is set. -/
  hasOrigin : Bool
  account : Option ConnectedAccount
  stripeSession : Option StripeCheckoutSession

/-- `Math.round`. -/
def roundCents (amount : ℚ) : Nat :=
  (amount + 1 / 2).floor.toNat

/-- The account and the commission a restaurant sells with. -/
def ExperienceRestaurant.paymentTerms? (restaurant : ExperienceRestaurant) : Option (String × ℚ) :=
  match restaurant.experienceStripeAccountId.or restaurant.giftCardStripeAccountId,
      restaurant.experienceCommissionRate with
  | some account, some rate => if rate < 0 ∨ 1 < rate then none else some (account, rate)
  | _, _ => none

/-- The answer to a checkout that cannot go on. -/
def checkoutError {α : Type} (code : ExperienceCheckoutCode) (statusCode : Nat) :
    ExperienceProg (Except ExperienceFailure α) :=
  pure (.error (.ExperienceCheckoutError code statusCode))

namespace PublicCheckoutInput

variable (input : PublicCheckoutInput)

variable (call : ExperienceCallId)

variable (restaurantId : Id)

/-- The open session with its experience, once it has seats left under its lock. -/
def seated (now : Instant) : ExperienceProg (Except ExperienceFailure Experience) := do
  acquire call (.session restaurantId input.sessionId)
  let found ← query fun data _ =>
    (data.offerOf? restaurantId input.sessionId input.experienceId).filter fun offer =>
      offer.1.status == .OPEN && decide (now < offer.1.startsAt) && offer.2.status == .ACTIVE
  match found with
  | none => checkoutError .EXPERIENCE_SESSION_NOT_FOUND 404
  | some (session, experience) => do
      let used ← countSeats restaurantId input.sessionId none now
      if effectiveCapacity session experience < used + input.quantity then
        checkoutError .EXPERIENCE_CAPACITY_EXCEEDED 409
      else pure (.ok experience)

def row (account : String) (rate : ℚ) (key : String) (now : Instant) (experience : Experience) :
    ExperienceCheckout where
  id := input.newId
  restaurantId
  experienceId := input.experienceId
  sessionId := input.sessionId
  reservationId := none
  quantity := input.quantity
  unitPriceCents := experience.priceCents
  totalPriceCents := experience.priceCents * input.quantity
  sokarFeeCents := roundCents ((experience.priceCents * input.quantity : Nat) * rate)
  currency := experience.currency
  status := .OPEN
  stripeAccountId := account
  stripeCheckoutSessionId := none
  stripePaymentIntentId := none
  stripeRefundId := none
  idempotencyKey := key
  expiresAt := now + CHECKOUT_HOLD_MS
  refundedAt := none

/-- A checkout found under the key is taken up again while it is held. -/
def resume (now : Instant) (checkout : ExperienceCheckout) :
    ExperienceProg (Except ExperienceFailure ExperienceCheckout) :=
  if checkout.restaurantId != restaurantId || checkout.experienceId != input.experienceId ||
      checkout.sessionId != input.sessionId || checkout.quantity != input.quantity then
    checkoutError .EXPERIENCE_CHECKOUT_IDEMPOTENCY_CONFLICT 409
  else if checkout.status ≠ .OPEN ∨ checkout.expiresAt ≤ now then
    checkoutError .EXPERIENCE_CHECKOUT_IDEMPOTENCY_CONFLICT 410
  else do
    let sessionData ← query fun data _ =>
      (data.offer? checkout.sessionId).filter fun offer => offer.1.restaurantId == restaurantId
    if sessionData.isNone then checkoutError .EXPERIENCE_SESSION_NOT_FOUND 404
    else pure (.ok checkout)

/-- The checkout gets the session of the provider. -/
def attach (checkout : ExperienceCheckout) :
    ExperienceProg (Except ExperienceFailure PublicCheckout) :=
  if !input.hasOrigin then pure (.error .originMissing)
  else
    match input.stripeSession with
    | none => pure (.error .provider)
    | some stripeSession =>
      commitUnless call ExperienceData.violation?
        (fun _ _ => { checkoutId := checkout.id, url := stripeSession.url
                      expiresAt := checkout.expiresAt : PublicCheckout })
        fun data _ => data.updateCheckouts
          (fun row => row.id == checkout.id && row.restaurantId == restaurantId) fun row =>
            { row with
              stripeCheckoutSessionId := some stripeSession.id
              stripePaymentIntentId := stripeSession.paymentIntentId }

variable [Sha256]

def createPublicExperienceCheckout : ExperienceProg (Except ExperienceFailure PublicCheckout) := do
  let now ← experienceClock
  let found ← query fun data _ => data.publicRestaurant? input.slug
  match found with
  | none => checkoutError .EXPERIENCE_NOT_FOUND 404
  | some restaurant =>
    match restaurant.paymentTerms?, input.account with
    | none, _ => checkoutError .EXPERIENCE_PAYMENT_NOT_CONFIGURED 503
    | some _, none => pure (.error .provider)
    | some (account, rate), some connected =>
      if !connected.chargesEnabled || !connected.payoutsEnabled then
        checkoutError .EXPERIENCE_STRIPE_NOT_READY 503
      else do
        let key := Sha256.sha256
          ("experience-checkout:" ++ restaurant.id ++ ":" ++ input.idempotencyKey)
        let existing ← query fun data _ => data.checkoutByKey? restaurant.id key
        let checkout ← match existing with
          | some checkout => input.resume restaurant.id now checkout
          | none =>
            transact call (input.seated call restaurant.id now) ExperienceData.violation?
              (fun experience _ _ => input.row restaurant.id account rate key now experience)
              fun experience data _ => data.insertCheckout
                (input.row restaurant.id account rate key now experience)
        match checkout with
        | .error failure => pure (.error failure)
        | .ok checkout => input.attach call restaurant.id checkout

end PublicCheckoutInput

structure CancelCheckoutInput where
  slug : String
  checkoutId : Id
  stripeSessionId : String
  /-- The status of the session once the provider was asked to expire it, if it answers. -/
  stripeStatus : Option String

namespace CancelCheckoutInput

variable (input : CancelCheckoutInput)

def cancelPublicExperienceCheckout (call : ExperienceCallId) :
    ExperienceProg (Except ExperienceFailure ExperienceCheckoutStatus) := do
  let found ← query fun data _ => data.restaurantBySlug? input.slug
  match found with
  | none => checkoutError .EXPERIENCE_CHECKOUT_NOT_FOUND 404
  | some restaurant => do
      let checkout ← query fun data _ =>
        (data.checkoutOf? restaurant.id input.checkoutId).filter fun row =>
          row.stripeCheckoutSessionId == some input.stripeSessionId
      match checkout with
      | none => checkoutError .EXPERIENCE_CHECKOUT_NOT_FOUND 404
      | some checkout =>
        if checkout.status ≠ .OPEN then pure (.ok checkout.status)
        else
          match input.stripeStatus with
          | none => pure (.error .provider)
          | some "expired" => do
              commit call (fun _ _ => ()) fun data _ => data.updateCheckouts
                (fun row => row.id == checkout.id && row.restaurantId == restaurant.id &&
                  row.status == .OPEN) (·.expired)
              pure (.ok .EXPIRED)
          | some _ => pure (.ok checkout.status)

end CancelCheckoutInput

/-- `Math.min(Math.max(limit ?? 500, 1), 1_000)`. -/
def expiryLimit (limit : Option Int) : Nat :=
  (min (max (limit.getD 500) 1) 1000).toNat

/-- The checkouts whose hold has run out, the first to expire first. -/
def ExperienceData.overdueCheckouts (data : ExperienceData) (now : Instant) (limit : Nat) :
    List ExperienceCheckout :=
  let overdue := data.checkouts.filter fun row =>
    row.status == .OPEN && decide (row.expiresAt ≤ now)
  (overdue.insertionSort fun first second => first.expiresAt ≤ second.expiresAt).take limit

def expireExperienceCheckouts (call : ExperienceCallId) (limit : Option Int) :
    ExperienceProg (Except ExperienceFailure Nat) := do
  let now ← experienceClock
  let rows ← query fun data _ => data.overdueCheckouts now (expiryLimit limit)
  if rows.isEmpty then pure (.ok 0)
  else do
    let expires := fun row : ExperienceCheckout =>
      (rows.any fun found => found.id == row.id && found.restaurantId == row.restaurantId) &&
        row.status == .OPEN
    let count ← commit call (fun data _ => data.checkouts.countP expires)
      fun data _ => data.updateCheckouts expires (·.expired)
    pure (.ok count)

end Sokar
