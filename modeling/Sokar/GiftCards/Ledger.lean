import Sokar.Library.GuardedData
import Sokar.Library.KeyedRows
import Sokar.Shared.ReservationStates

/-!
# The gift-card ledger

The rows of the gift-card tables, the locks the gift-card services take, and the
statements they are built from.  Amounts in decimal columns are counted in cents.
-/

namespace Sokar

open Process Transaction

inductive GiftCardStatus where
  | ACTIVE | REDEEMED | EXPIRED | CANCELLED | REFUND_PENDING | REFUND_FAILED | REFUND_REVIEW
  | PAYMENT_REVIEW
  deriving DecidableEq

inductive GiftCardType where
  | SINGLE | CROWDFUNDED
  deriving DecidableEq

inductive StripePaymentStatus where
  | pending | succeeded | partially_refunded | refunded | disputed | failed | canceled
  deriving DecidableEq

structure GiftCard where
  id : Id
  restaurantId : Id
  code : String
  shortCode : Option String
  amount : Int
  remainingAmount : Int
  currency : String
  status : GiftCardStatus
  expiresAt : Option Instant
  validityMonths : Int
  stripePaymentIntentId : Option String
  stripePaymentStatus : Option StripePaymentStatus
  sokarCommissionAmount : Int
  type : GiftCardType
  crowdfundedUntil : Option Instant
  closedAt : Option Instant
  deriving DecidableEq

/-- The operational columns are null in a redemption made by `applyToReservation`. -/
structure GiftCardRedemption where
  id : Id
  giftCardId : Id
  reservationId : Option Id
  amount : Int
  redeemedAt : Instant
  operationKey : Option String
  restaurantId : Option Id
  ticketReference : Option String
  billAmount : Option Int
  balanceAfter : Option Int
  complementAmount : Option Int
  deriving DecidableEq

/-- `gift_card_operational_receipt_check`. -/
def GiftCardRedemption.receiptValid (row : GiftCardRedemption) : Bool :=
  row.operationKey.isNone ||
    (row.restaurantId.isSome && row.ticketReference.any (fun reference => reference != "") &&
      match row.billAmount, row.balanceAfter, row.complementAmount with
      | some bill, some balance, some complement =>
        decide (0 < bill ∧ 0 < row.amount ∧ 0 ≤ balance ∧ 0 ≤ complement ∧
          bill = row.amount + complement)
      | _, _, _ => false)

structure GiftCardContribution where
  id : Id
  giftCardId : Id
  amount : Int
  stripePaymentIntentId : Option String
  deriving DecidableEq

inductive PaymentKind where
  | PURCHASE | CONTRIBUTION
  deriving DecidableEq

structure GiftCardPaymentEntry where
  paymentIntentId : String
  restaurantId : Id
  giftCardId : Id
  contributionId : Option Id
  kind : PaymentKind
  amountCents : Int
  pendingRefund : Bool
  refundedAmountCents : Int
  currency : String
  stripeAccountId : Option String
  deriving DecidableEq

/-- Stripe's statuses of a refund, after the one a request starts in. -/
inductive RefundStatus where
  | REQUESTED | pending | requires_action | succeeded | failed | canceled
  deriving DecidableEq

inductive RefundReason where
  | CANCELLATION | REJECTED_CONTRIBUTION
  deriving DecidableEq

structure GiftCardRefundRequest where
  id : Id
  giftCardId : Id
  paymentIntentId : String
  stripeAccountId : Option String
  amountCents : Int
  idempotencyKey : String
  stripeRefundId : Option String
  status : RefundStatus
  actor : String
  reason : RefundReason
  deriving DecidableEq

inductive CheckoutStatus where
  | OPEN | PAYMENT_REVIEW | FULFILLED | REFUND_PENDING | REFUNDED | REFUND_FAILED | CANCELLED
  | RECOVERY_REQUIRED
  deriving DecidableEq

/-- The fields of a contribution that are checked against its payment. -/
structure ContributeInput where
  code : String
  amount : ℚ
  deriving DecidableEq

structure GiftCardCheckout where
  id : Id
  restaurantId : Id
  kind : PaymentKind
  status : CheckoutStatus
  giftCardId : Option Id
  amountCents : Int
  commissionRate : ℚ
  stripeAccountId : String
  payload : ContributeInput
  accessTokenHash : String
  stripePaymentIntentId : Option String
  deriving DecidableEq

inductive GiftCardApplicationPaymentStatus where
  | FULLY_COVERED | PARTIAL | COMPLEMENT_REQUIRED | ASSOCIATED
  deriving DecidableEq

structure GiftCardApplicationResult where
  reservationId : Id
  giftCardId : Id
  appliedAmount : Int
  remainingAmount : Int
  paymentStatus : GiftCardApplicationPaymentStatus
  complementAmount : Int
  deriving DecidableEq

/-- `giftCardRedemptionSnap`: an application, with the amount that was asked for. -/
structure RedemptionSnapshot extends GiftCardApplicationResult where
  requestedAmount : Option ℚ
  deriving DecidableEq

/-- The columns of a reservation that the gift-card services use. -/
structure GiftedReservation where
  id : Id
  restaurantId : Id
  status : ReservationStatus
  giftCardRedemptionSnap : Option RedemptionSnapshot
  giftCardComplementAmount : Option Int
  deriving DecidableEq

structure GiftCardRestaurant where
  id : Id
  giftCardCommissionRate : ℚ
  giftCardMinimumAmount : Option Int
  deriving DecidableEq

structure GiftCardPack where
  id : Id
  restaurantId : Id
  amount : Int
  deriving DecidableEq

structure GiftCardData where
  restaurants : List GiftCardRestaurant
  packs : List GiftCardPack
  reservations : List GiftedReservation
  giftCards : List GiftCard
  redemptions : List GiftCardRedemption
  contributions : List GiftCardContribution
  paymentEntries : List GiftCardPaymentEntry
  refundRequests : List GiftCardRefundRequest
  checkouts : List GiftCardCheckout

/-- Row locks, and the advisory locks on an operation key, a ticket and a payment. -/
inductive LedgerLock where
  | card (giftCardId : Id)
  | reservation (reservationId : Id)
  | operation (operationKey : String)
  | ticket (restaurantId : Id) (ticketReference : String)
  | payment (paymentIntentId : String)
  deriving DecidableEq

inductive GiftCardFailure where
  | GiftCardOperationError (message : String) (statusCode : Nat)
  | GiftCardError (message : String)
  | CrowdfundingError (message : String)
  | GiftCardPaymentError (message : String)
  | Error (message : String)
  | uniqueViolation
  | checkViolation
  | recordNotFound
  | providerError
  deriving DecidableEq

abbrev CallId := Nat

abbrev LedgerStore := Store GiftCardData LedgerLock CallId

abbrev LedgerProg := Prog LedgerStore

namespace GiftCardData

variable (data : GiftCardData)

variable (giftCardId : Id)

def card? : Option GiftCard :=
  KeyedRows.lookup (·.id) data.giftCards giftCardId

/-- `where: { id, restaurantId }`. -/
def cardOf? (giftCardId restaurantId : Id) : Option GiftCard :=
  (data.card? giftCardId).filter fun card => card.restaurantId == restaurantId

def reservation? (reservationId : Id) : Option GiftedReservation :=
  KeyedRows.lookup (·.id) data.reservations reservationId

def reservationOf? (reservationId restaurantId : Id) : Option GiftedReservation :=
  (data.reservation? reservationId).filter fun row => row.restaurantId == restaurantId

def redemptionsOf : List GiftCardRedemption :=
  data.redemptions.filter fun row => row.giftCardId == giftCardId

/-- What the redemptions of a card add up to. -/
def redeemed : Int :=
  ((data.redemptionsOf giftCardId).map (·.amount)).sum

def contributionsOf : List GiftCardContribution :=
  data.contributions.filter fun row => row.giftCardId == giftCardId

variable (paymentIntentId : String)

def contribution? : Option GiftCardContribution :=
  data.contributions.find? fun row => row.stripePaymentIntentId == some paymentIntentId

def cardPaidBy? : Option GiftCard :=
  data.giftCards.find? fun row => row.stripePaymentIntentId == some paymentIntentId

def entryByPayment? : Option GiftCardPaymentEntry :=
  KeyedRows.lookup (·.paymentIntentId) data.paymentEntries paymentIntentId

def entriesOf (giftCardId restaurantId : Id) : List GiftCardPaymentEntry :=
  data.paymentEntries.filter fun row =>
    row.giftCardId == giftCardId && row.restaurantId == restaurantId

def request? (requestId : Id) : Option GiftCardRefundRequest :=
  KeyedRows.lookup (·.id) data.refundRequests requestId

def cancellationRequests : List GiftCardRefundRequest :=
  data.refundRequests.filter fun row =>
    row.giftCardId == giftCardId && row.reason == .CANCELLATION

def checkout? (checkoutId : Id) : Option GiftCardCheckout :=
  KeyedRows.lookup (·.id) data.checkouts checkoutId

def updateCard (change : GiftCard → GiftCard) : GiftCardData :=
  { data with
    giftCards := KeyedRows.update (fun row => row.id == giftCardId) change data.giftCards }

def updateReservation (reservationId : Id) (change : GiftedReservation → GiftedReservation) :
    GiftCardData :=
  { data with
    reservations := KeyedRows.update (fun row => row.id == reservationId) change data.reservations }

def insertCard (row : GiftCard) : GiftCardData :=
  { data with giftCards := data.giftCards ++ [row] }

def insertRedemption (row : GiftCardRedemption) : GiftCardData :=
  { data with redemptions := data.redemptions ++ [row] }

def insertEntry (row : GiftCardPaymentEntry) : GiftCardData :=
  { data with paymentEntries := data.paymentEntries ++ [row] }

def updateEntry (change : GiftCardPaymentEntry → GiftCardPaymentEntry) : GiftCardData :=
  { data with
    paymentEntries :=
      KeyedRows.update (fun row => row.paymentIntentId == paymentIntentId) change
        data.paymentEntries }

def updateRequest (requestId : Id) (change : GiftCardRefundRequest → GiftCardRefundRequest) :
    GiftCardData :=
  { data with
    refundRequests := KeyedRows.update (fun row => row.id == requestId) change data.refundRequests }

def updateCheckouts (selected : GiftCardCheckout → Bool) (status : CheckoutStatus) : GiftCardData :=
  { data with
    checkouts :=
      KeyedRows.update selected (fun row => { row with status }) data.checkouts }

/-- The primary keys and unique indexes; nulls are never equal. -/
def keysUnique : Bool :=
  decide (data.giftCards.map (·.id)).Nodup && decide (data.reservations.map (·.id)).Nodup &&
  decide (data.redemptions.map (·.id)).Nodup &&
  decide (data.redemptions.filterMap (·.operationKey)).Nodup &&
  decide (data.redemptions.filterMap fun row =>
    row.restaurantId.bind fun restaurantId =>
      row.ticketReference.map fun reference => (restaurantId, reference)).Nodup &&
  decide (data.paymentEntries.map (·.paymentIntentId)).Nodup &&
  decide (data.refundRequests.map (·.id)).Nodup &&
  decide (data.refundRequests.map (·.idempotencyKey)).Nodup &&
  decide (data.refundRequests.filterMap (·.stripeRefundId)).Nodup

/-- `gift_card_payment_amounts_valid` and `gift_card_refund_amount_positive`, with the
check on receipts. -/
def amountsValid : Bool :=
  data.redemptions.all (·.receiptValid) &&
  (data.paymentEntries.all fun row =>
    decide (0 < row.amountCents ∧ 0 ≤ row.refundedAmountCents ∧
      row.refundedAmountCents ≤ row.amountCents)) &&
  data.refundRequests.all fun row => decide (0 < row.amountCents)

def violation? : Option GiftCardFailure :=
  if !data.keysUnique then some .uniqueViolation
  else if !data.amountsValid then some .checkViolation
  else none

end GiftCardData

def ledgerTransaction {α β : Type} (call : CallId)
    (body : LedgerProg (Except GiftCardFailure α)) (view : α → Instant → β)
    (change : α → GiftCardData → Instant → GiftCardData) :
    LedgerProg (Except GiftCardFailure β) :=
  transact call body GiftCardData.violation? (fun plan _ now => view plan now) change

/-- `new Date()`. -/
def today : LedgerProg Instant :=
  query fun _ now => now

/-- The amount in cents, when it is positive, has at most two decimals and is below a
million euros. -/
def giftCardAmountCents (amount : ℚ) : Except GiftCardFailure Int :=
  let cents := amount * 100
  if cents.den ≠ 1 ∨ cents ≤ 0 ∨ 99999999 < cents then
    .error (.Error "Le montant doit être positif, inférieur à 1 000 000 € et avoir deux décimales au maximum.")
  else .ok cents.num

def lockGiftCard (call : CallId) (giftCardId : Id) : LedgerProg Unit :=
  acquire call (.card giftCardId)

def lockGiftCardPayment (call : CallId) (paymentIntentId : String) : LedgerProg Unit :=
  acquire call (.payment paymentIntentId)

end Sokar
