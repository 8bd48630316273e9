import Sokar.GiftCards.Refunds

/-!
# Crowdfunded gift cards

`contribute` and `closeCrowdfunding` of `GiftCardCrowdfundingService`, with
`refundRejectedContribution`, statement by statement.  The names and messages of a
contribution and the deliveries are left out.
-/

namespace Sokar

open Process Transaction

/-- `toDecimalPlaces(0)`: halves are rounded away from zero. -/
def roundHalfUp (value : ℚ) : Int :=
  if 0 ≤ value then (value + 1 / 2).floor else -(-value + 1 / 2).floor

variable (contribution : GiftCardContribution)

/-- What is left of a contribution after refunds, in cents. -/
def GiftCardContribution.retained (entries : List GiftCardPaymentEntry) : Int :=
  let entry := entries.find? fun row => some row.paymentIntentId == contribution.stripePaymentIntentId
  max 0 (contribution.amount - (entry.map (·.refundedAmountCents)).getD 0)

/-- The fee taken on a contribution: at the rate of its checkout, or of the restaurant. -/
def GiftCardContribution.fee (checkouts : List GiftCardCheckout) (commissionRate : ℚ) : Int :=
  match checkouts.find? fun row =>
      row.stripePaymentIntentId == contribution.stripePaymentIntentId with
  | some checkout => roundHalfUp (checkout.amountCents * checkout.commissionRate)
  | none => roundHalfUp (contribution.amount * commissionRate)

variable (contributions : List GiftCardContribution)

def collectedTotal (entries : List GiftCardPaymentEntry) : Int :=
  (contributions.map fun contribution => contribution.retained entries).sum

/-- Each fee counts for the part of its contribution that is retained. -/
def collectedCommission (entries : List GiftCardPaymentEntry) (checkouts : List GiftCardCheckout)
    (commissionRate : ℚ) : Int :=
  roundHalfUp (contributions.map fun contribution =>
    if 0 < contribution.amount then
      (contribution.fee checkouts commissionRate * contribution.retained entries : ℚ) /
        contribution.amount
    else 0).sum

structure CloseCrowdfundingInput where
  giftCardId : Id
  restaurantId : Id
  /-- `Date.setMonth` in the time zone of the server. -/
  addMonths : Instant → Int → Instant

inductive ClosePlan where
  | keep (card : GiftCard)
  | close (card : GiftCard) (total commission : Int)

def GiftCard.closed (card : GiftCard) (total commission : Int) (expiresAt closedAt : Instant) :
    GiftCard :=
  { card with
    status := .ACTIVE
    amount := total
    remainingAmount := total
    sokarCommissionAmount := commission
    closedAt := some closedAt
    expiresAt := some expiresAt }

namespace CloseCrowdfundingInput

def planClose (call : CallId) (input : CloseCrowdfundingInput)
    (restaurant : GiftCardRestaurant) : LedgerProg (Except GiftCardFailure ClosePlan) := do
  lockGiftCard call input.giftCardId
  let card ← query fun data _ => data.cardOf? input.giftCardId input.restaurantId
  let contributions ← query fun data _ => data.contributionsOf input.giftCardId
  match card.filter fun card => card.type == .CROWDFUNDED with
  | none => pure (.error (.CrowdfundingError "Cagnotte introuvable"))
  | some card =>
    if card.closedAt.isSome then pure (.ok (.keep card))
    else if card.status ≠ .ACTIVE then
      pure (.error (.CrowdfundingError "Cette cagnotte n'est plus active"))
    else
      let entries ← query fun data _ => data.entriesOf input.giftCardId card.restaurantId
      let total := collectedTotal contributions entries
      if total ≤ 0 then
        pure (.error (.CrowdfundingError "Aucune contribution encaissée à clôturer."))
      else
        let checkouts ← query fun data _ => data.checkouts.filter fun row =>
          row.giftCardId == some input.giftCardId && row.restaurantId == card.restaurantId &&
            row.kind == .CONTRIBUTION
        pure (.ok (.close card total
          (collectedCommission contributions entries checkouts
            restaurant.giftCardCommissionRate)))

variable (input : CloseCrowdfundingInput)

def card : ClosePlan → Instant → GiftCard
  | .keep card, _ => card
  | .close card total commission, now =>
    card.closed total commission (input.addMonths now card.validityMonths) now

def writes : ClosePlan → GiftCardData → Instant → GiftCardData
  | .keep _, data, _ => data
  | .close card total commission, data, now =>
    data.updateCard card.id fun current =>
      current.closed total commission (input.addMonths now card.validityMonths) now

def closeCrowdfunding (call : CallId) (input : CloseCrowdfundingInput) :
    LedgerProg (Except GiftCardFailure GiftCard) := do
  let restaurant ← query fun data _ =>
    data.restaurants.find? fun row => row.id == input.restaurantId
  match restaurant with
  | none => pure (.error (.CrowdfundingError "Restaurant introuvable"))
  | some restaurant =>
    ledgerTransaction call (planClose call input restaurant) input.card input.writes

end CloseCrowdfundingInput

namespace ContributionCall

variable (args : ContributionCall)

end ContributionCall

namespace CheckedContribution

variable (checked : CheckedContribution)

end CheckedContribution

end Sokar
