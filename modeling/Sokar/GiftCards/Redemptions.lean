import Sokar.GiftCards.Ledger
import Sokar.Shared.Text

/-!
# Spending a gift card

`GiftCardOperationsService.debit`, and `associateToReservation` and
`applyToReservation` of `GiftCardService`, statement by statement.  Audit entries and
timeline events are left out.
-/

namespace Sokar

open Process Transaction

namespace GiftCard

variable (card : GiftCard)

/-- The payment behind the card, if there is one, has not failed. -/
def paymentAccepted : Bool :=
  card.stripePaymentIntentId.isNone ||
    card.stripePaymentStatus == some .succeeded ||
    card.stripePaymentStatus == some .partially_refunded

def isCollecting : Bool :=
  card.type == .CROWDFUNDED && card.closedAt.isNone

/-- The conditions under which `debit` accepts a card. -/
def debitable (now : Instant) : Bool :=
  !(asciiUpperCase card.currency != "EUR" || card.status != .ACTIVE || decide (card.remainingAmount ≤ 0) ||
    card.expiresAt.any (fun expiresAt => decide (expiresAt ≤ now)) || card.isCollecting ||
    !card.paymentAccepted)

/-- The conditions under which a reservation may use a card, once it is locked. -/
def usable (now : Instant) : Bool :=
  !(card.status != .ACTIVE || decide (card.remainingAmount ≤ 0) ||
    card.expiresAt.any fun expiresAt => decide (expiresAt < now))

def charged (balanceAfter : Int) : GiftCard :=
  { card with
    remainingAmount := balanceAfter
    status := if 0 < balanceAfter then .ACTIVE else .REDEEMED }

end GiftCard

def paymentStatusAfter (balanceAfter complementAmount : Int) : GiftCardApplicationPaymentStatus :=
  if 0 < complementAmount then .COMPLEMENT_REQUIRED
  else if 0 < balanceAfter then .PARTIAL
  else .FULLY_COVERED

structure GiftCardDebitInput where
  restaurantId : Id
  giftCardId : Id
  billAmount : ℚ
  ticketReference : String
  reservationId : Option Id
  idempotencyKey : String
  /-- The identifier generated for the redemption. -/
  newId : Id
  deriving DecidableEq

/-- The amounts are never null in a row with an operation key. -/
structure GiftCardReceipt where
  id : Id
  giftCardId : Id
  reservationId : Option Id
  ticketReference : Option String
  billAmount : Option Int
  appliedAmount : Int
  remainingAmount : Option Int
  complementAmount : Option Int
  redeemedAt : Instant
  deriving DecidableEq

def GiftCardRedemption.receipt (row : GiftCardRedemption) : GiftCardReceipt where
  id := row.id
  giftCardId := row.giftCardId
  reservationId := row.reservationId
  ticketReference := row.ticketReference
  billAmount := row.billAmount
  appliedAmount := row.amount
  remainingAmount := row.balanceAfter
  complementAmount := row.complementAmount
  redeemedAt := row.redeemedAt

/-- A debit that passed its checks: a replay, or a charge to the locked card. -/
inductive DebitPlan where
  | replay (existing : GiftCardRedemption)
  | charge (card : GiftCard) (cents : Int)

namespace GiftCardDebitInput

section

variable [UnicodeCase] (input : GiftCardDebitInput)

omit [UnicodeCase] in
def operationKey : String :=
  "gift-card-debit:" ++ input.restaurantId ++ ":" ++ input.idempotencyKey

def reference : String :=
  UnicodeCase.toUpperCase (trim input.ticketReference)

/-- A redemption under the operation key, or of the ticket. -/
def matching (row : GiftCardRedemption) : Bool :=
  row.operationKey == some input.operationKey ||
    (row.restaurantId == some input.restaurantId && row.ticketReference == some input.reference)

/-- A replay repeats the information that was registered. -/
def repeats (cents : Int) (existing : GiftCardRedemption) : Bool :=
  existing.giftCardId == input.giftCardId && existing.billAmount == some cents &&
    existing.reservationId == input.reservationId &&
    existing.ticketReference == some input.reference

def redemption (card : GiftCard) (cents : Int) (now : Instant) : GiftCardRedemption :=
  let amount := min card.remainingAmount cents
  { id := input.newId
    giftCardId := card.id
    reservationId := input.reservationId
    amount
    redeemedAt := now
    operationKey := some input.operationKey
    restaurantId := some input.restaurantId
    ticketReference := some input.reference
    billAmount := some cents
    balanceAfter := some (card.remainingAmount - amount)
    complementAmount := some (cents - amount) }

omit [UnicodeCase] in
def snapshot (reservationId : Id) (card : GiftCard) (cents : Int) : RedemptionSnapshot :=
  let amount := min card.remainingAmount cents
  let balanceAfter := card.remainingAmount - amount
  let complementAmount := cents - amount
  { reservationId
    giftCardId := card.id
    requestedAmount := some input.billAmount
    appliedAmount := amount
    remainingAmount := balanceAfter
    complementAmount
    paymentStatus := paymentStatusAfter balanceAfter complementAmount }

def writes : DebitPlan → GiftCardData → Instant → GiftCardData
  | .replay _, data, _ => data
  | .charge card cents, data, now =>
    let amount := min card.remainingAmount cents
    let charged := (data.insertRedemption (input.redemption card cents now)).updateCard card.id
      fun current => current.charged (card.remainingAmount - amount)
    match input.reservationId with
    | none => charged
    | some reservationId => charged.updateReservation reservationId fun booking =>
      { booking with
        giftCardComplementAmount := some (cents - amount)
        giftCardRedemptionSnap := some (input.snapshot reservationId card cents) }

def receipt : DebitPlan → Instant → GiftCardReceipt
  | .replay existing, _ => existing.receipt
  | .charge card cents, now => (input.redemption card cents now).receipt

end

variable (call : CallId)

variable (input : GiftCardDebitInput)

/-- The reservation named in a debit is of the restaurant, not cancelled, free of other
cards and not debited yet. -/
def checkReservation (card : GiftCard) : LedgerProg (Except GiftCardFailure Unit) :=
  match input.reservationId with
  | none => pure (.ok ())
  | some reservationId => do
      acquire call (.reservation reservationId)
      let booking ← query fun data _ => data.reservationOf? reservationId input.restaurantId
      match booking with
      | none =>
        pure (.error (.GiftCardOperationError
          "Réservation introuvable pour cet établissement." 404))
      | some booking =>
        if booking.status ≠ .CONFIRMED ∧ booking.status ≠ .SEATED then
          pure (.error (.GiftCardOperationError
            "Cette réservation est annulée ou marquée absente." 409))
        else if booking.giftCardRedemptionSnap.any fun snap => snap.giftCardId != card.id then
          pure (.error (.GiftCardOperationError
            "Une autre carte est associée à cette réservation." 409))
        else
          let prior ← query fun data _ => data.redemptions.find? fun row =>
            row.reservationId == some booking.id && row.restaurantId == some input.restaurantId
          if prior.isSome then
            pure (.error (.GiftCardOperationError
              "Un débit a déjà été enregistré pour cette réservation." 409))
          else pure (.ok ())

section

variable [UnicodeCase]

def planCharge (cents : Int) : LedgerProg (Except GiftCardFailure DebitPlan) := do
  lockGiftCard call input.giftCardId
  let card ← query fun data _ => data.cardOf? input.giftCardId input.restaurantId
  match card with
  | none => pure (.error (.GiftCardOperationError "Carte cadeau introuvable." 404))
  | some card =>
    let now ← today
    if !card.debitable now then
      pure (.error (.GiftCardOperationError
        "Cette carte ne peut pas être débitée : vérifiez son statut, son solde et sa validité."
        409))
    else
      (checkReservation call input card).andThen fun _ => pure (.ok (.charge card cents))

/-- A request under its operation key and its ticket is either a replay or new. -/
def planDebit (cents : Int) : LedgerProg (Except GiftCardFailure DebitPlan) := do
  acquire call (.operation input.operationKey)
  acquire call (.ticket input.restaurantId input.reference)
  let existing ← query fun data _ => data.redemptions.find? input.matching
  match existing with
  | some existing =>
    if input.repeats cents existing then pure (.ok (.replay existing))
    else
      pure (.error (.GiftCardOperationError
        "Ce ticket ou cette demande a déjà été enregistré avec des informations différentes."
        409))
  | none => planCharge call input cents

def debit : LedgerProg (Except GiftCardFailure GiftCardReceipt) :=
  if input.reference = "" ∨ 64 < utf16Length input.reference then
    pure (.error (.GiftCardOperationError "Référence du ticket invalide." 400))
  else
    match giftCardAmountCents input.billAmount with
    | .error failure => pure (.error failure)
    | .ok cents =>
      ledgerTransaction call (planDebit call input cents) input.receipt input.writes

end

end GiftCardDebitInput

/-- Text that starts as a short code is looked up as one first. -/
def findByCodeOrShortCode (identifier : String) : LedgerProg (Option GiftCard) := do
  let byShortCode ← query fun data _ =>
    if hasStart identifier "SKR-" then
      data.giftCards.find? fun card => card.shortCode == some identifier
    else none
  match byShortCode with
  | some card => pure (some card)
  | none => query fun data _ => data.giftCards.find? fun card => card.code == identifier

inductive InvalidReason where
  | NOT_FOUND | WRONG_RESTAURANT | EXPIRED | FULLY_REDEEMED | CANCELLED
  deriving DecidableEq

def InvalidReason.text : InvalidReason → String
  | .NOT_FOUND => "NOT_FOUND"
  | .WRONG_RESTAURANT => "WRONG_RESTAURANT"
  | .EXPIRED => "EXPIRED"
  | .FULLY_REDEEMED => "FULLY_REDEEMED"
  | .CANCELLED => "CANCELLED"

def GiftCard.validity (card : GiftCard) (restaurantId : Id) (now : Instant) :
    Except InvalidReason GiftCard :=
  if card.restaurantId ≠ restaurantId then .error .WRONG_RESTAURANT
  else if card.status ≠ .ACTIVE ∨ card.paymentAccepted = false then
    .error (if card.status = .EXPIRED then .EXPIRED
      else if card.status = .REDEEMED then .FULLY_REDEEMED
      else .CANCELLED)
  else if card.remainingAmount ≤ 0 then .error .FULLY_REDEEMED
  else if card.expiresAt.any fun expiresAt => decide (expiresAt < now) then .error .EXPIRED
  else .ok card

def validateCode (code : String) (restaurantId : Id) :
    LedgerProg (Except InvalidReason GiftCard) := do
  let card ← findByCodeOrShortCode code
  let now ← today
  pure (match card with
    | none => .error .NOT_FOUND
    | some card => card.validity restaurantId now)

structure ApplyGiftCardInput where
  code : String
  restaurantId : Id
  reservationId : Id
  reservationAmount : ℚ
  newId : Id
  deriving DecidableEq

/-- The checks of an association and of an application, then a transaction on the
card. -/
def withValidCard {α : Type} (code : String) (restaurantId : Id)
    (use : GiftCard → LedgerProg (Except GiftCardFailure α)) :
    LedgerProg (Except GiftCardFailure α) := do
  let validation ← validateCode code restaurantId
  match validation with
  | .error reason =>
    pure (.error (.GiftCardError ("Carte cadeau invalide : " ++ reason.text)))
  | .ok card => use card

namespace AssociateGiftCardInput

end AssociateGiftCardInput

/-- An application that passed its checks: a replay with what it answers, or a charge to
the locked card. -/
inductive ApplicationPlan where
  | replay (answer : GiftCardApplicationResult)
  | charge (card : GiftCard) (cents : Int)

namespace ApplyGiftCardInput

variable (input : ApplyGiftCardInput)

variable (card : GiftCard)

def redemption (cents : Int) (now : Instant) : GiftCardRedemption where
  id := input.newId
  giftCardId := card.id
  reservationId := some input.reservationId
  amount := min card.remainingAmount cents
  redeemedAt := now
  operationKey := none
  restaurantId := some input.restaurantId
  ticketReference := none
  billAmount := none
  balanceAfter := none
  complementAmount := none

def result (cents : Int) : GiftCardApplicationResult :=
  let appliedAmount := min card.remainingAmount cents
  let remainingAmount := card.remainingAmount - appliedAmount
  let complementAmount := cents - appliedAmount
  { reservationId := input.reservationId
    giftCardId := card.id
    appliedAmount
    remainingAmount
    paymentStatus := paymentStatusAfter remainingAmount complementAmount
    complementAmount }

def snapshot (cents : Int) : RedemptionSnapshot :=
  { input.result card cents with requestedAmount := some input.reservationAmount }

/-- The snapshot of an application of the card with the same amount. -/
def answeredBy (giftCardId : Id) (snap : RedemptionSnapshot) : Bool :=
  snap.giftCardId == giftCardId && snap.requestedAmount == some input.reservationAmount

/-- The replay of an application reports the balance of the card as it is now. -/
def replayed (snap : RedemptionSnapshot) : GiftCardApplicationResult :=
  { snap.toGiftCardApplicationResult with
    reservationId := input.reservationId
    giftCardId := card.id
    remainingAmount := card.remainingAmount }

def planLocked (input : ApplyGiftCardInput) (locked : GiftCard) (cents : Int)
    (booking : GiftedReservation) : LedgerProg (Except GiftCardFailure ApplicationPlan) := do
  let prior ← query fun data _ => data.redemptions.find? fun row =>
    row.giftCardId == locked.id && row.reservationId == some input.reservationId &&
      row.restaurantId == some input.restaurantId
  match prior with
  | some _ =>
    match booking.giftCardRedemptionSnap.filter (input.answeredBy locked.id) with
    | none =>
      pure (.error (.GiftCardError "Débit déjà enregistré avec un montant différent"))
    | some snap => pure (.ok (.replay (input.replayed locked snap)))
  | none =>
    let now ← today
    if !locked.usable now then
      pure (.error (.GiftCardError "Carte cadeau invalide : FULLY_REDEEMED"))
    else pure (.ok (.charge locked cents))

def planApplication (call : CallId) (input : ApplyGiftCardInput) (giftCardId : Id)
    (cents : Int) : LedgerProg (Except GiftCardFailure ApplicationPlan) := do
  lockGiftCard call giftCardId
  let locked ← query fun data _ => data.card? giftCardId
  acquire call (.reservation input.reservationId)
  let booking ← query fun data _ => data.reservationOf? input.reservationId input.restaurantId
  match booking with
  | none => pure (.error (.GiftCardError "Réservation introuvable pour ce restaurant"))
  | some booking =>
    if booking.giftCardRedemptionSnap.any fun snap => snap.giftCardId != giftCardId then
      pure (.error (.GiftCardError "Une autre carte est déjà associée."))
    else
      match locked with
      | none => pure (.error (.GiftCardError "Carte cadeau invalide : FULLY_REDEEMED"))
      | some locked => input.planLocked locked cents booking

def writes : ApplicationPlan → GiftCardData → Instant → GiftCardData
  | .replay _, data, _ => data
  | .charge card cents, data, now =>
    let amount := min card.remainingAmount cents
    let charged := (data.insertRedemption (input.redemption card cents now)).updateCard card.id
      fun current => current.charged (card.remainingAmount - amount)
    charged.updateReservation input.reservationId fun booking =>
      { booking with
        giftCardComplementAmount := some (cents - amount)
        giftCardRedemptionSnap := some (input.snapshot card cents) }

def answer : ApplicationPlan → GiftCardApplicationResult
  | .replay answer => answer
  | .charge card cents => input.result card cents

/-- A snapshot of the same application answers a repeated call, before the card is
validated. -/
def applyToReservation (call : CallId) (input : ApplyGiftCardInput) :
    LedgerProg (Except GiftCardFailure GiftCardApplicationResult) :=
  match giftCardAmountCents input.reservationAmount with
  | .error failure => pure (.error failure)
  | .ok cents => do
      let candidate ← findByCodeOrShortCode input.code
      match candidate.filter fun card => card.restaurantId == input.restaurantId with
      | none => pure (.error (.GiftCardError "Carte cadeau introuvable"))
      | some candidate =>
        let replay ← query fun data _ =>
          (data.reservationOf? input.reservationId input.restaurantId).bind
            (·.giftCardRedemptionSnap)
        match replay.filter (input.answeredBy candidate.id) with
        | some snap => pure (.ok snap.toGiftCardApplicationResult)
        | none =>
          withValidCard input.code input.restaurantId fun card =>
            ledgerTransaction call (planApplication call input card.id cents)
              (fun plan _ => input.answer plan) input.writes

end ApplyGiftCardInput

end Sokar
