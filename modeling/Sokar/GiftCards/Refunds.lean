import Sokar.GiftCards.Redemptions

/-!
# Cancelling, refunding and reconciling gift cards

`GiftCardRefundService`, statement by statement.  What the payment provider answers is
an input of a call.  Audit entries and deliveries are left out.
-/

namespace Sokar

open Process Transaction

/-! ## The payment provider -/

inductive PaymentIntentStatus where
  | requires_payment_method | requires_confirmation | requires_action | processing
  | requires_capture | canceled | succeeded
  deriving DecidableEq

structure PaymentMetadata where
  type : Option String
  checkoutId : Option Id
  restaurantId : Option Id
  giftCardCode : Option String
  amount : Option ℚ
  packId : Option Id
  deriving DecidableEq

/-- What `retrievePaymentIntent` returns. -/
structure PaymentIntent where
  status : PaymentIntentStatus
  amount : Int
  amountReceived : Int
  currency : String
  refundedAmount : Int
  disputed : Bool
  pendingRefund : Bool
  metadata : PaymentMetadata
  deriving DecidableEq

structure Refund where
  id : String
  amount : Int
  status : RefundStatus
  deriving DecidableEq

/-- How the provider answers when a request is created or looked up; nothing when the
call fails. -/
abbrev RefundAnswers := GiftCardRefundRequest → Option Refund

def RefundStatus.isFinal (status : RefundStatus) : Bool :=
  status == .succeeded || status == .failed || status == .canceled

def GiftCardRefundRequest.settled (refund : Refund) (request : GiftCardRefundRequest) :
    GiftCardRefundRequest :=
  { request with stripeRefundId := some refund.id, status := refund.status }

/-- What the requests of a cancellation say together. -/
inductive CancellationVerdict where
  | failed | refunded | waiting
  deriving DecidableEq

def cancellationVerdict (all : List GiftCardRefundRequest) : CancellationVerdict :=
  if all.any fun row => row.status == .failed || row.status == .canceled then .failed
  else if !all.isEmpty && all.all fun row => row.status == .succeeded then .refunded
  else .waiting

inductive ProcessPlan where
  | alreadySettled
  | otherReason (request : GiftCardRefundRequest) (refund : Refund)
  | cancellation (request : GiftCardRefundRequest) (refund : Refund)
      (verdict : CancellationVerdict)

def GiftCard.afterVerdict (card : GiftCard) : CancellationVerdict → GiftCard
  | .failed => { card with status := .REFUND_FAILED }
  | .refunded =>
    { card with
      status := .CANCELLED
      remainingAmount := 0
      stripePaymentStatus := some .refunded }
  | .waiting => card

def ProcessPlan.writes : ProcessPlan → GiftCardData → Instant → GiftCardData
  | .alreadySettled, data, _ => data
  | .otherReason request refund, data, _ =>
    let settled := data.updateRequest request.id (·.settled refund)
    if refund.status.isFinal then
      settled.updateCheckouts
        (fun row => row.stripePaymentIntentId == some request.paymentIntentId)
        (if refund.status = .succeeded then .REFUNDED else .REFUND_FAILED)
    else settled
  | .cancellation request refund verdict, data, _ =>
    (data.updateRequest request.id (·.settled refund)).updateCard request.giftCardId
      (·.afterVerdict verdict)

variable (call : CallId)

def planProcess (request : GiftCardRefundRequest) (refund : Refund) :
    LedgerProg (Except GiftCardFailure ProcessPlan) := do
  lockGiftCard call request.giftCardId
  let current ← query fun data _ => data.request? request.id
  match current with
  | none => pure (.error .recordNotFound)
  | some current =>
    if current.status.isFinal then pure (.ok .alreadySettled)
    else if request.reason ≠ .CANCELLATION then pure (.ok (.otherReason request refund))
    else
      let verdict ← query fun data _ =>
        cancellationVerdict
          ((data.updateRequest request.id (·.settled refund)).cancellationRequests
            request.giftCardId)
      let card ← query fun data _ => data.card? request.giftCardId
      if verdict ≠ .waiting ∧ card.isNone then pure (.error .recordNotFound)
      else pure (.ok (.cancellation request refund verdict))

def process (answers : RefundAnswers) (requestId : Id) :
    LedgerProg (Except GiftCardFailure Unit) := do
  let request ← query fun data _ => data.request? requestId
  match request with
  | none => pure (.error .recordNotFound)
  | some request =>
    if request.status.isFinal then pure (.ok ())
    else
      match answers request with
      | none => pure (.error .providerError)
      | some refund =>
        if refund.amount ≠ request.amountCents then
          pure (.error (.Error "Montant du remboursement incohérent"))
        else
          ledgerTransaction call (planProcess call request refund) (fun _ _ => ())
            ProcessPlan.writes

/-- Process some requests, one after the other, up to the first that fails. -/
def processAll (call : CallId) (answers : RefundAnswers) :
    List GiftCardRefundRequest → LedgerProg (Except GiftCardFailure Unit)
  | [] => pure (.ok ())
  | request :: rest =>
    (process call answers request.id).andThen fun _ => processAll call answers rest

def GiftCardRefundRequest.isOpen (request : GiftCardRefundRequest) : Bool :=
  request.status == .REQUESTED || request.status == .pending || request.status == .requires_action

namespace CancelPlan

end CancelPlan

namespace CancelInput

variable (input : CancelInput)

end CancelInput

structure ReconcileInput where
  paymentIntentId : String
  stripeAccountId : Option String
  /-- The provider's answers before the transaction and inside it. -/
  initial : Option PaymentIntent
  reported : String → Option PaymentIntent
  answers : RefundAnswers

/-- The entry of a payment, found or made for a legacy payment, with the state of the
payment that goes into it. -/
structure EntryUpdate where
  entry : GiftCardPaymentEntry
  isNew : Bool
  payment : PaymentIntent

def EntryUpdate.writes (update : EntryUpdate) (data : GiftCardData) : GiftCardData :=
  (if update.isNew then data.insertEntry update.entry else data).updateEntry
    update.entry.paymentIntentId fun row =>
      { row with
        refundedAmountCents := max update.payment.refundedAmount update.entry.refundedAmountCents
        pendingRefund := update.payment.pendingRefund }

def EntryUpdate.delta (update : EntryUpdate) : Int :=
  max 0 (update.payment.refundedAmount - update.entry.refundedAmountCents)

/-- The card once a payment behind it was reconciled. -/
def GiftCard.reconciled (card : GiftCard) (payment : PaymentIntent) (delta : Int)
    (otherPaymentNeedsReview anyPending : Bool) : GiftCard :=
  let remainingAmount := max 0 (card.remainingAmount - delta)
  let underReview := payment.disputed || otherPaymentNeedsReview
  { card with
    remainingAmount
    status :=
      if underReview then .PAYMENT_REVIEW
      else if anyPending then .REFUND_REVIEW
      else if remainingAmount ≤ 0 ∧ 0 < delta ∧ card.isCollecting = false then .CANCELLED
      else if card.status = .REFUND_REVIEW ∨ card.status = .PAYMENT_REVIEW then
        if 0 < remainingAmount ∨ card.isCollecting = true then .ACTIVE else .REDEEMED
      else card.status
    stripePaymentStatus :=
      if underReview then some .disputed
      else if payment.amountReceived ≤ payment.refundedAmount then some .refunded
      else if 0 < payment.refundedAmount then some .partially_refunded
      else if card.stripePaymentStatus = some .disputed then some .succeeded
      else card.stripePaymentStatus }

inductive ReconcilePlan where
  | nothing
  /-- A connected payment that is not recorded yet may hold its checkout back. -/
  | checkout (checkoutId : Id) (stripeAccountId : String) (payment : PaymentIntent)
  | entryOnly (update : EntryUpdate)
  | entryAndCard (update : EntryUpdate) (card : GiftCard) (otherPaymentNeedsReview anyPending : Bool)

def ReconcilePlan.writes : ReconcilePlan → GiftCardData → Instant → GiftCardData
  | .nothing, data, _ => data
  | .checkout checkoutId stripeAccountId payment, data, _ =>
    data.updateCheckouts
      (fun row => row.id == checkoutId && row.stripeAccountId == stripeAccountId &&
        (payment.metadata.restaurantId.all fun restaurantId => row.restaurantId == restaurantId) &&
        (row.status == .OPEN || row.status == .PAYMENT_REVIEW))
      (if 0 < payment.refundedAmount ∨ payment.pendingRefund ∨ payment.disputed then
        .PAYMENT_REVIEW else .OPEN)
  | .entryOnly update, data, _ => update.writes data
  | .entryAndCard update card otherPaymentNeedsReview anyPending, data, _ =>
    let reconciled := card.reconciled update.payment update.delta otherPaymentNeedsReview anyPending
    (update.writes data).updateCard card.id fun current =>
      { current with
        remainingAmount := reconciled.remainingAmount
        status := reconciled.status
        stripePaymentStatus := reconciled.stripePaymentStatus }

variable (input : ReconcileInput)

namespace ReconcileInput

/-- The entry of a platform payment made before entries existed. -/
def legacyEntry (payment : PaymentIntent) (card : Option GiftCard)
    (contribution : Option GiftCardContribution) (giftCardId restaurantId : Id) :
    GiftCardPaymentEntry where
  paymentIntentId := input.paymentIntentId
  restaurantId
  giftCardId
  contributionId := contribution.map (·.id)
  kind := if card.isSome then .PURCHASE else .CONTRIBUTION
  amountCents := payment.amountReceived
  pendingRefund := false
  refundedAmountCents := 0
  currency := payment.currency
  stripeAccountId := none

/-- A platform payment identifies its card, or the contribution it made. -/
def findLegacy (payment : PaymentIntent) :
    LedgerProg (Except GiftCardFailure (Option GiftCardPaymentEntry)) := do
  let card ← query fun data _ => data.cardPaidBy? input.paymentIntentId
  match card with
  | some card =>
    pure (.ok (some (input.legacyEntry payment (some card) none card.id card.restaurantId)))
  | none =>
    let contribution ← query fun data _ => data.contribution? input.paymentIntentId
    match contribution with
    | none => pure (.ok none)
    | some contribution =>
      let owner ← query fun data _ => data.card? contribution.giftCardId
      pure (match owner with
        | none => .error .recordNotFound
        | some owner =>
          .ok (some (input.legacyEntry payment none (some contribution)
            contribution.giftCardId owner.restaurantId)))

/-- Whether another payment of a card under review is still contested, pending or refunded
beyond its entry; nothing when the provider does not answer for one of them. -/
def otherNeedsReview (others : List GiftCardPaymentEntry) : Option Bool :=
  (others.mapM fun other => (input.reported other.paymentIntentId).map fun state =>
    state.disputed || state.pendingRefund ||
      decide (other.refundedAmountCents < state.refundedAmount)).map fun flags => flags.any id

def planEntry (input : ReconcileInput) (entry : GiftCardPaymentEntry) (isNew : Bool) :
    LedgerProg (Except GiftCardFailure ReconcilePlan) := do
  lockGiftCard call entry.giftCardId
  match input.reported input.paymentIntentId with
  | none => pure (.error .providerError)
  | some payment =>
    let update : EntryUpdate := { entry, isNew, payment }
    let card ← query fun data _ => data.cardOf? entry.giftCardId entry.restaurantId
    match card with
    | none => pure (.error .recordNotFound)
    | some card =>
      if card.status = .REFUND_PENDING ∨ card.status = .REFUND_FAILED ∨
          card.status = .CANCELLED then
        pure (.ok (.entryOnly update))
      else
        let others ← query fun data _ =>
          if (card.status = .PAYMENT_REVIEW ∨ card.status = .REFUND_REVIEW) ∧
              payment.disputed = false then
            ((update.writes data).entriesOf card.id card.restaurantId).filter fun row =>
              row.paymentIntentId != input.paymentIntentId
          else []
        let anyPending ← query fun data _ =>
          ((update.writes data).entriesOf card.id card.restaurantId).any (·.pendingRefund)
        pure (match input.otherNeedsReview others with
          | none => .error .providerError
          | some otherPaymentNeedsReview =>
            .ok (.entryAndCard update card otherPaymentNeedsReview anyPending))

def planReconcile (input : ReconcileInput) (payment : PaymentIntent) :
    LedgerProg (Except GiftCardFailure ReconcilePlan) := do
  lockGiftCardPayment call input.paymentIntentId
  let entry ← query fun data _ => data.entryByPayment? input.paymentIntentId
  match entry with
  | some entry =>
    if entry.stripeAccountId ≠ input.stripeAccountId then
      pure (.error (.Error "Compte marchand incorrect"))
    else planEntry call input entry false
  | none =>
    match input.stripeAccountId with
    | some stripeAccountId =>
      pure (.ok (match payment.metadata.checkoutId with
        | none => .nothing
        | some checkoutId => .checkout checkoutId stripeAccountId payment))
    | none =>
      (input.findLegacy payment).andThen fun entry =>
        match entry with
        | none => pure (.ok .nothing)
        | some entry => planEntry call input entry true

def reconcilePayment (input : ReconcileInput) : LedgerProg (Except GiftCardFailure Unit) :=
  match input.initial with
  | none => pure (.error .providerError)
  | some payment =>
    (ledgerTransaction call (planReconcile call input payment) (fun _ _ => ())
      ReconcilePlan.writes).andThen fun _ => do
        let requests ← query fun data _ => data.refundRequests.filter fun row =>
          row.paymentIntentId == input.paymentIntentId && row.isOpen
        processAll call input.answers requests

end ReconcileInput

end Sokar
