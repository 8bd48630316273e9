import Sokar.GiftCards.Crowdfunding

/-!
# Buying a gift card

`purchaseWithPayment` and `handlePaymentFailed` of `GiftCardPaymentService`, statement by
statement.  The gift message and the deliveries are left out.
-/

namespace Sokar

open Process Transaction

/-- `Math.round`. -/
def mathRound (value : ℚ) : Int :=
  (value + 1 / 2).floor

structure PurchaseCall where
  restaurantId : Id
  paymentIntentId : String
  checkoutId : Option Id
  /-- `giftCardHash` of the access token. -/
  accessTokenHash : String
  amount : Option ℚ
  packId : Option Id
  webhook : Option (Option String)
  /-- The payment as the provider reports it, when it answers. -/
  payment : Option PaymentIntent
  newId : Id
  newCode : String
  newShortCode : String
  addMonths : Instant → Int → Instant

structure CheckedPurchase where
  checkout : Option GiftCardCheckout
  restaurantId : Id
  cents : Int
  commissionCents : Int

inductive PurchasePlan where
  | existing (card : GiftCard)
  | create

def paymentConflict : GiftCardFailure :=
  .GiftCardPaymentError "Ce paiement a déjà été utilisé pour une carte cadeau"

namespace PurchaseCall

variable (args : PurchaseCall)

def findCheckout (data : GiftCardData) : Option GiftCardCheckout :=
  match args.checkoutId with
  | some checkoutId => data.checkout? checkoutId
  | none => data.checkouts.find? fun row => row.stripePaymentIntentId == some args.paymentIntentId

def refusesAccess (checkout : GiftCardCheckout) : Bool :=
  checkout.kind != .PURCHASE || checkout.restaurantId != args.restaurantId ||
    checkout.stripePaymentIntentId.any (fun paymentIntentId =>
      paymentIntentId != args.paymentIntentId) ||
    match args.webhook with
    | some stripeAccountId => some checkout.stripeAccountId != stripeAccountId
    | none => args.accessTokenHash != checkout.accessTokenHash

variable (checkout : Option GiftCardCheckout)

variable (payment : PaymentIntent)

/-- The payment was captured, is not contested and was made for this purchase. -/
def checkPayment : Except GiftCardFailure Unit :=
  if payment.status ≠ .succeeded ∨ payment.disputed ∨ payment.pendingRefund ∨
      0 < payment.refundedAmount then
    .error (.GiftCardPaymentError "Le paiement ne peut pas activer une carte cadeau.")
  else if payment.metadata.type = some "crowdfunding_contribution" ∨
      checkout.any fun checkout => payment.metadata.checkoutId != some checkout.id then
    .error (.GiftCardPaymentError "Le paiement ne correspond pas à cet achat.")
  else
    match payment.metadata.restaurantId with
    | none => .error (.GiftCardPaymentError "Les informations du paiement sont incomplètes.")
    | some restaurantId =>
      if args.restaurantId ≠ restaurantId then
        .error (.GiftCardPaymentError "Le restaurant ne correspond pas au paiement.")
      else .ok ()

/-- Without a checkout the metadata of the payment name the pack or the amount. -/
def checkLegacy : Except GiftCardFailure Unit :=
  if payment.metadata.packId.isNone ∧ payment.metadata.amount.all fun amount => decide (amount ≤ 0) then
    .error (.GiftCardPaymentError "Les informations du montant sont incomplètes.")
  else if args.packId.any fun packId => some packId != payment.metadata.packId then
    .error (.GiftCardPaymentError "Le pack ne correspond pas au paiement.")
  else if args.amount.any fun amount => some amount != payment.metadata.amount then
    .error (.GiftCardPaymentError "Le montant ne correspond pas au paiement.")
  else .ok ()

def findAmount : LedgerProg (Except GiftCardFailure ℚ) :=
  match checkout with
  | some checkout => pure (.ok (checkout.amountCents / 100))
  | none =>
    match args.checkLegacy payment with
    | .error failure => pure (.error failure)
    | .ok _ =>
      match payment.metadata.packId with
      | none => pure (.ok (payment.metadata.amount.getD 0))
      | some packId => do
          let pack ← query fun data _ => data.packs.find? fun row =>
            row.id == packId && row.restaurantId == args.restaurantId
          pure (match pack with
            | none => .error (.GiftCardPaymentError "Pack cadeau introuvable")
            | some pack => .ok (pack.amount / 100))

/-- The amount was paid, in euros, and is not below the restaurant's minimum. -/
def checkAmount (restaurant : GiftCardRestaurant) (amount : ℚ) :
    Except GiftCardFailure CheckedPurchase :=
  let cents := mathRound (amount * 100)
  if asciiLowerCase payment.currency ≠ "eur" then
    .error (.GiftCardPaymentError "La devise du paiement n’est pas acceptée.")
  else if payment.amount ≠ cents ∨ payment.amountReceived ≠ cents then
    .error (.GiftCardPaymentError "Le montant du paiement ne correspond pas à la commande.")
  else if checkout.isNone ∧ amount < restaurant.giftCardMinimumAmount.getD 10 then
    .error (.GiftCardPaymentError
      ("Le montant minimum est de " ++ toString (restaurant.giftCardMinimumAmount.getD 10) ++ "€"))
  else
    let commissionRate := (checkout.map (·.commissionRate)).getD restaurant.giftCardCommissionRate
    .ok
      { checkout
        restaurantId := args.restaurantId
        cents
        commissionCents := mathRound (amount * commissionRate * 100) }

def check (args : PurchaseCall) : LedgerProg (Except GiftCardFailure CheckedPurchase) := do
  let checkout ← query fun data _ => args.findCheckout data
  if checkout.any args.refusesAccess then
    pure (.error (.GiftCardPaymentError "Accès à la commande refusé."))
  else if checkout.isNone ∧ (args.webhook.bind id).isSome then
    pure (.error (.GiftCardPaymentError "Commande du compte connecté introuvable."))
  else
    match args.payment with
    | none => pure (.error .providerError)
    | some payment =>
      match args.checkPayment checkout payment with
      | .error failure => pure (.error failure)
      | .ok _ =>
        (args.findAmount checkout payment).andThen fun amount => do
          let restaurant ← query fun data _ =>
            data.restaurants.find? fun row => row.id == args.restaurantId
          pure (match restaurant with
            | none => .error (.GiftCardPaymentError "Restaurant introuvable")
            | some restaurant => args.checkAmount checkout payment restaurant amount)

end PurchaseCall

namespace CheckedPurchase

variable (checked : CheckedPurchase)

variable (args : PurchaseCall)

/-- `GiftCardService.create`: the card is worth what was paid for twelve months. -/
def card (now : Instant) : GiftCard where
  id := args.newId
  restaurantId := checked.restaurantId
  code := args.newCode
  shortCode := some args.newShortCode
  amount := checked.cents
  remainingAmount := checked.cents
  currency := "EUR"
  status := .ACTIVE
  expiresAt := some (args.addMonths now 12)
  validityMonths := 12
  stripePaymentIntentId := some args.paymentIntentId
  stripePaymentStatus := some .succeeded
  sokarCommissionAmount := checked.commissionCents
  type := .SINGLE
  crowdfundedUntil := none
  closedAt := none

def entry : GiftCardPaymentEntry where
  paymentIntentId := args.paymentIntentId
  restaurantId := checked.restaurantId
  giftCardId := args.newId
  contributionId := none
  kind := .PURCHASE
  amountCents := checked.cents
  pendingRefund := false
  refundedAmountCents := 0
  currency := "eur"
  stripeAccountId := checked.checkout.map (·.stripeAccountId)

def fulfilled (data : GiftCardData) : GiftCardData :=
  match checked.checkout with
  | none => data
  | some checkout =>
    data.updateCheckouts
      (fun row => row.id == checkout.id && row.restaurantId == checkout.restaurantId) .FULFILLED

def writes : PurchasePlan → GiftCardData → Instant → GiftCardData
  | .existing _, data, _ => checked.fulfilled data
  | .create, data, now =>
    checked.fulfilled ((data.insertCard (checked.card args now)).insertEntry (checked.entry args))

def answer : PurchasePlan → Instant → GiftCard
  | .existing card, _ => card
  | .create, now => checked.card args now

/-- The checkout is open, or fulfilled already. -/
def checkCheckout : LedgerProg (Except GiftCardFailure Unit) :=
  match checked.checkout with
  | none => pure (.ok ())
  | some checkout => do
      let current ← query fun data _ =>
        (data.checkout? checkout.id).filter fun row => row.restaurantId == checkout.restaurantId
      pure (match current with
        | none => .error .recordNotFound
        | some current =>
          if current.status ≠ .OPEN ∧ current.status ≠ .FULFILLED then
            .error (.GiftCardPaymentError
              "Cette commande nécessite une vérification du paiement.")
          else .ok ())

def planPurchase (call : CallId) (args : PurchaseCall) (checked : CheckedPurchase) :
    LedgerProg (Except GiftCardFailure PurchasePlan) := do
  lockGiftCardPayment call args.paymentIntentId
  checked.checkCheckout.andThen fun _ => do
    let entry ← query fun data _ => data.entryByPayment? args.paymentIntentId
    if entry.any fun row => row.kind != .PURCHASE || row.restaurantId != checked.restaurantId then
      pure (.error paymentConflict)
    else
      let existing ← query fun data _ => data.cardPaidBy? args.paymentIntentId
      match existing with
      | some existing =>
        if existing.restaurantId ≠ checked.restaurantId ∨
            (checked.checkout.isNone ∧ args.webhook.isNone) then
          pure (.error paymentConflict)
        else pure (.ok (.existing existing))
      | none =>
        let contributed ← query fun data _ => data.contribution? args.paymentIntentId
        if entry.isSome ∨ contributed.isSome then pure (.error paymentConflict)
        else pure (.ok .create)

end CheckedPurchase

def purchaseWithPayment (call : CallId) (args : PurchaseCall) :
    LedgerProg (Except GiftCardFailure GiftCard) :=
  args.check.andThen fun checked =>
    ledgerTransaction call (checked.planPurchase call args) (checked.answer args)
      (checked.writes args)

/-- The payment statuses that a failure event does not touch. -/
def terminalStatuses : List StripePaymentStatus :=
  [.succeeded, .failed, .canceled]

/-- Whether a failure event leaves a card alone. -/
def GiftCard.ignoresFailure (card : GiftCard) : Bool :=
  card.stripePaymentStatus.any fun status => terminalStatuses.contains status

def GiftCard.paymentFailed (card : GiftCard) : GiftCard :=
  { card with stripePaymentStatus := some .failed }

/-- The card is read, then updated by its identifier. -/
def handlePaymentFailed (call : CallId) (paymentIntentId : String) :
    LedgerProg (Except GiftCardFailure Unit) := do
  let existing ← query fun data _ => data.cardPaidBy? paymentIntentId
  match existing with
  | none => pure (.ok ())
  | some existing =>
    if existing.ignoresFailure then pure (.ok ())
    else
      ledgerTransaction call
        (do
          acquire call (.card existing.id)
          pure (.ok ()))
        (fun _ _ => ())
        fun _ data _ => data.updateCard existing.id (·.paymentFailed)

end Sokar
