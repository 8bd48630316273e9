import Mathlib.Algebra.BigOperators.Ring.Finset
import Sokar.GiftCards.LedgerChecks

/-!
# Crowdfunding, settled exactly

A closed card holds what is retained of its contributions, the commission is a part of it, and
closing again changes nothing.
-/

namespace Sokar

open Process Transaction

theorem roundHalfUp_nonneg {value : ℚ} (nonneg : 0 ≤ value) : 0 ≤ roundHalfUp value := by
  rw [roundHalfUp, if_pos nonneg]
  exact Rat.le_floor_iff.2 (by linarith)

theorem roundHalfUp_le {value : ℚ} {bound : Int} (nonneg : 0 ≤ value) (below : value ≤ bound) :
    roundHalfUp value ≤ bound := by
  rw [roundHalfUp, if_pos nonneg]
  refine Int.lt_add_one_iff.1 (Rat.floor_lt_iff.2 ?_)
  push_cast
  linarith

theorem roundHalfUp_intCast (value : Int) (nonneg : 0 ≤ value) : roundHalfUp value = value := by
  have isNonneg : (0 : ℚ) ≤ value := Int.cast_nonneg nonneg
  refine le_antisymm (roundHalfUp_le isNonneg le_rfl) ?_
  rw [roundHalfUp, if_pos isNonneg]
  refine Rat.le_floor_iff.2 ?_
  linarith

namespace GiftCardContribution

variable (contribution : GiftCardContribution)

/-- What was refunded of a contribution, in cents. -/
def refunded (entries : List GiftCardPaymentEntry) : Int :=
  ((entries.find? fun row =>
    some row.paymentIntentId == contribution.stripePaymentIntentId).map
      (·.refundedAmountCents)).getD 0

/-- The part of the fee that goes with what is retained. -/
def share (entries : List GiftCardPaymentEntry) (checkouts : List GiftCardCheckout)
    (commissionRate : ℚ) : ℚ :=
  if 0 < contribution.amount then
    (contribution.fee checkouts commissionRate * contribution.retained entries : ℚ) /
      contribution.amount
  else 0

end GiftCardContribution

structure FairFees (contributions : List GiftCardContribution) (checkouts : List GiftCardCheckout)
    (commissionRate : ℚ) : Prop where
  amounts : ∀ contribution ∈ contributions, 0 ≤ contribution.amount
  rate : 0 ≤ commissionRate ∧ commissionRate ≤ 1
  checkouts : ∀ contribution ∈ contributions, ∀ checkout ∈ checkouts,
    checkout.stripePaymentIntentId = contribution.stripePaymentIntentId →
      checkout.amountCents = contribution.amount ∧
        0 ≤ checkout.commissionRate ∧ checkout.commissionRate ≤ 1

theorem roundHalfUp_mul_bounds {amount : Int} {rate : ℚ} (nonneg : 0 ≤ amount)
    (isRate : 0 ≤ rate ∧ rate ≤ 1) :
    0 ≤ roundHalfUp (amount * rate) ∧ roundHalfUp (amount * rate) ≤ amount := by
  have isNonneg : (0 : ℚ) ≤ amount := Int.cast_nonneg nonneg
  have product : 0 ≤ (amount : ℚ) * rate := mul_nonneg isNonneg isRate.1
  exact ⟨roundHalfUp_nonneg product,
    roundHalfUp_le product (mul_le_of_le_one_right isNonneg isRate.2)⟩

section

variable {contributions : List GiftCardContribution} {entries : List GiftCardPaymentEntry}
  {checkouts : List GiftCardCheckout} {commissionRate : ℚ} {contribution : GiftCardContribution}

theorem FairFees.fee_bounds (fair : FairFees contributions checkouts commissionRate)
    (isContribution : contribution ∈ contributions) :
    0 ≤ contribution.fee checkouts commissionRate ∧
      contribution.fee checkouts commissionRate ≤ contribution.amount := by
  have nonneg := fair.amounts contribution isContribution
  unfold GiftCardContribution.fee
  split
  next checkout found =>
    obtain ⟨sameAmount, isRate⟩ := fair.checkouts contribution isContribution checkout
      (List.mem_of_find?_eq_some found) (beq_iff_eq.1 (List.find?_some found :))
    rw [sameAmount]
    exact roundHalfUp_mul_bounds nonneg isRate
  next => exact roundHalfUp_mul_bounds nonneg fair.rate

theorem retained_nonneg : 0 ≤ contribution.retained entries :=
  le_max_left _ _

section

variable (fair : FairFees contributions checkouts commissionRate)
variable (isContribution : contribution ∈ contributions)
include fair isContribution

theorem FairFees.share_bounds : 0 ≤ contribution.share entries checkouts commissionRate ∧
      contribution.share entries checkouts commissionRate ≤ contribution.retained entries := by
  obtain ⟨feeNonneg, feeLe⟩ := fair.fee_bounds isContribution
  have isPart : (contribution.fee checkouts commissionRate : ℚ) ≤ contribution.amount :=
    Int.cast_le.2 feeLe
  have isRetained : (0 : ℚ) ≤ contribution.retained entries := Int.cast_nonneg retained_nonneg
  unfold GiftCardContribution.share
  split
  next positive =>
    have isPositive : (0 : ℚ) < contribution.amount := Int.cast_pos.2 positive
    constructor
    · positivity
    · rw [div_le_iff₀ isPositive, mul_comm]
      exact mul_le_mul_of_nonneg_left isPart isRetained
  next => exact ⟨le_rfl, isRetained⟩

theorem FairFees.share_of_unrefunded (unrefunded : contribution.refunded entries = 0) :
    contribution.share entries checkouts commissionRate =
      contribution.fee checkouts commissionRate := by
  have nonneg := fair.amounts contribution isContribution
  have whole : contribution.retained entries = contribution.amount := by
    change max 0 (contribution.amount - contribution.refunded entries) = _
    rw [unrefunded, sub_zero, max_eq_right nonneg]
  unfold GiftCardContribution.share
  split
  next positive =>
    have isPositive : (0 : ℚ) < contribution.amount := Int.cast_pos.2 positive
    rw [whole, mul_div_assoc, div_self isPositive.ne', mul_one]
  next nonpositive =>
    obtain ⟨feeNonneg, feeLe⟩ := fair.fee_bounds isContribution
    have nothing : contribution.fee checkouts commissionRate = 0 := by omega
    rw [nothing, Int.cast_zero]

end

theorem collectedCommission_eq : collectedCommission contributions entries checkouts commissionRate =
    roundHalfUp (contributions.map fun contribution =>
      contribution.share entries checkouts commissionRate).sum := rfl

theorem collectedCommission_bounds (fair : FairFees contributions checkouts commissionRate) :
    0 ≤ collectedCommission contributions entries checkouts commissionRate ∧
      collectedCommission contributions entries checkouts commissionRate ≤
        collectedTotal contributions entries := by
  have nonneg : 0 ≤ (contributions.map fun contribution =>
      contribution.share entries checkouts commissionRate).sum := by
    refine List.sum_nonneg fun share isShare => ?_
    obtain ⟨contribution, isContribution, rfl⟩ := List.mem_map.1 isShare
    exact (fair.share_bounds isContribution).1
  have below : (contributions.map fun contribution =>
      contribution.share entries checkouts commissionRate).sum ≤
        (collectedTotal contributions entries : ℚ) := by
    rw [collectedTotal, Int.cast_list_sum, List.map_map]
    exact List.sum_le_sum fun contribution isContribution =>
      (fair.share_bounds isContribution).2
  exact ⟨roundHalfUp_nonneg nonneg, roundHalfUp_le nonneg below⟩

theorem collectedCommission_of_unrefunded (fair : FairFees contributions checkouts commissionRate)
    (unrefunded : ∀ contribution ∈ contributions, contribution.refunded entries = 0) :
    collectedCommission contributions entries checkouts commissionRate =
      (contributions.map fun contribution => contribution.fee checkouts commissionRate).sum := by
  have shares : (contributions.map fun contribution =>
      contribution.share entries checkouts commissionRate).sum =
        (((contributions.map fun contribution =>
          contribution.fee checkouts commissionRate).sum : Int) : ℚ) := by
    rw [Int.cast_list_sum, List.map_map]
    exact congrArg List.sum (List.map_congr_left fun contribution isContribution =>
      fair.share_of_unrefunded isContribution (unrefunded contribution isContribution))
  rw [collectedCommission_eq, shares]
  refine roundHalfUp_intCast _ (List.sum_nonneg fun fee isFee => ?_)
  obtain ⟨contribution, isContribution, rfl⟩ := List.mem_map.1 isFee
  exact (fair.fee_bounds isContribution).1

end

namespace CloseCrowdfundingInput

variable {call : CallId} {input : CloseCrowdfundingInput} {store store' : LedgerStore}
  {card : GiftCard} {restaurant : GiftCardRestaurant}

/-- The contributions of the card, the payments and the checkouts they are looked up in. -/
def contributions (input : CloseCrowdfundingInput) (data : GiftCardData) :
    List GiftCardContribution :=
  data.contributionsOf input.giftCardId

def entries (input : CloseCrowdfundingInput) (data : GiftCardData) : List GiftCardPaymentEntry :=
  data.entriesOf input.giftCardId input.restaurantId

def checkouts (input : CloseCrowdfundingInput) (data : GiftCardData) : List GiftCardCheckout :=
  data.checkouts.filter fun row =>
    row.giftCardId == some input.giftCardId && row.restaurantId == input.restaurantId &&
      row.kind == .CONTRIBUTION

def total (input : CloseCrowdfundingInput) (data : GiftCardData) : Int :=
  collectedTotal (input.contributions data) (input.entries data)

def commission (input : CloseCrowdfundingInput) (data : GiftCardData)
    (restaurant : GiftCardRestaurant) : Int :=
  collectedCommission (input.contributions data) (input.entries data) (input.checkouts data)
    restaurant.giftCardCommissionRate

theorem planClose_open {plan : ClosePlan}
    (isOpen : ∀ row, store.data.cardOf? input.giftCardId input.restaurantId = some row →
      row.closedAt = none)
    (ran : (planClose call input restaurant).run store = some (.ok plan, store')) :
    store' = store.take call (.card input.giftCardId) ∧
      ∃ card, store.data.cardOf? input.giftCardId input.restaurantId = some card ∧
        card.type = .CROWDFUNDED ∧
          plan = .close card (input.total store.data) (input.commission store.data restaurant) := by
  rw [planClose, Prog.run_bind] at ran
  obtain ⟨⟨_, locked⟩, acquired, ran⟩ := Option.bind_eq_some_iff.1 ran
  obtain rfl := run_acquire acquired
  simp only [Prog.run_bind, run_query, Option.bind_some] at ran
  have sameData : (store.take call (.card input.giftCardId)).data = store.data := rfl
  split at ran
  next => cases ran
  next card isCard =>
    obtain ⟨found, isCrowdfunded⟩ := Option.filter_eq_some_iff.1 isCard
    have sameRestaurant := (card_of_cardOf? found).2.1
    rw [if_neg (by rw [isOpen card found]; exact Bool.false_ne_true)] at ran
    split at ran
    next => cases ran
    next =>
      simp only [Prog.run_bind, run_query, Option.bind_some, sameData, sameRestaurant] at ran
      split at ran
      next => cases ran
      next =>
        cases ran
        exact ⟨rfl, card, found, eq_of_beq isCrowdfunded, rfl⟩

theorem run_planClose_closed (found : store.data.cardOf? input.giftCardId input.restaurantId = some card)
    (isCrowdfunded : card.type = .CROWDFUNDED) (closed : card.closedAt.isSome = true)
    (free : store.isFreeFor call (.card input.giftCardId) = true) :
    (planClose call input restaurant).run store =
      some (.ok (.keep card), store.take call (.card input.giftCardId)) := by
  have sameData : (store.take call (.card input.giftCardId)).data = store.data := rfl
  have filtered : (some card).filter (fun card => card.type == .CROWDFUNDED) = some card := by
    simp [isCrowdfunded]
  simp only [planClose, lockGiftCard, Prog.run_bind, run_acquire_of_free free, run_query,
    Option.bind_some, sameData, found, filtered, closed, if_true]
  rfl

theorem card?_updateCard {data : GiftCardData} (giftCardId : Id) {change : GiftCard → GiftCard}
    (keepsId : ∀ card, (change card).id = card.id) {wanted : Id} :
    (data.updateCard giftCardId change).card? wanted =
      if wanted = giftCardId then (data.card? wanted).map change else data.card? wanted :=
  KeyedRows.lookup_update_key giftCardId keepsId

theorem cardOf?_writes_close {data : GiftCardData} {now : Instant} {total commission : Int}
    (found : data.cardOf? input.giftCardId input.restaurantId = some card) :
    (input.writes (.close card total commission) data now).cardOf? input.giftCardId
      input.restaurantId = some (input.card (.close card total commission) now) := by
  obtain ⟨sameId, sameRestaurant, isCard⟩ := card_of_cardOf? found
  have updated : (input.writes (.close card total commission) data now).card? input.giftCardId =
      some (input.card (.close card total commission) now) := by
    have keepsId : ∀ current : GiftCard, (current.closed total commission
        (input.addMonths now card.validityMonths) now).id = current.id := fun _ => rfl
    rw [writes, card?_updateCard card.id keepsId, if_pos sameId.symm, isCard]
    rfl
  rw [GiftCardData.cardOf?, updated]
  exact Option.filter_eq_some_iff.2 ⟨rfl, beq_iff_eq.2 sameRestaurant⟩

theorem closeCrowdfunding_open
    (isRestaurant : store.data.restaurants.find? (fun row => row.id == input.restaurantId) =
      some restaurant)
    (isOpen : ∀ row, store.data.cardOf? input.giftCardId input.restaurantId = some row →
      row.closedAt = none)
    (ran : (closeCrowdfunding call input).run store = some (.ok card, store')) :
    card.amount = input.total store.data ∧ card.remainingAmount = input.total store.data ∧
      card.sokarCommissionAmount = input.commission store.data restaurant ∧
        card.type = .CROWDFUNDED ∧ card.closedAt.isSome = true ∧
          store'.data.cardOf? input.giftCardId input.restaurantId = some card := by
  simp only [closeCrowdfunding, Prog.run_bind, run_query, Option.bind_some, isRestaurant] at ran
  obtain ⟨plan, middle, planned, -, rfl, rfl⟩ := ok_of_run_transact ran
  obtain ⟨rfl, row, found, isCrowdfunded, rfl⟩ := planClose_open isOpen planned
  exact ⟨rfl, rfl, rfl, isCrowdfunded, rfl, cardOf?_writes_close found⟩

theorem closeCrowdfunding_closed {spent : GiftCard}
    (isRestaurant : store.data.restaurants.find? (fun row => row.id == input.restaurantId) =
      some restaurant)
    (found : store.data.cardOf? input.giftCardId input.restaurantId = some spent)
    (isCrowdfunded : spent.type = .CROWDFUNDED) (closed : spent.closedAt.isSome = true)
    (valid : store.data.violation? = none)
    (free : store.isFreeFor call (.card input.giftCardId) = true) :
    ∃ owner, (closeCrowdfunding call input).run store = some (.ok spent, { store with owner }) := by
  have kept : (ledgerTransaction call (planClose call input restaurant) input.card input.writes).run
      store = some (.ok spent, Store.release call (store.take call (.card input.giftCardId))) :=
    run_transact_ok (run_planClose_closed found isCrowdfunded closed free) valid
  simp only [closeCrowdfunding, Prog.run_bind, run_query, Option.bind_some, isRestaurant]
  exact ⟨_, kept⟩

end CloseCrowdfundingInput

open CloseCrowdfundingInput in
/-- Closing sets the amount to what is retained of the contributions; the commission is a part of
it, and all the fees when nothing was refunded; closing again, whatever was spent since, changes
nothing. -/
theorem closeCrowdfunding_settles (call : CallId) (input : CloseCrowdfundingInput)
    (store store' : LedgerStore) (restaurant : GiftCardRestaurant) (card : GiftCard)
    (isRestaurant : store.data.restaurants.find? (fun row => row.id == input.restaurantId) =
      some restaurant)
    (isOpen : ∀ row, store.data.cardOf? input.giftCardId input.restaurantId = some row →
      row.closedAt = none)
    (fair : FairFees (input.contributions store.data) (input.checkouts store.data)
      restaurant.giftCardCommissionRate)
    (ran : (closeCrowdfunding call input).run store = some (.ok card, store')) :
    card.amount = ((input.contributions store.data).map fun contribution =>
        max 0 (contribution.amount - contribution.refunded (input.entries store.data))).sum ∧
    card.remainingAmount = card.amount ∧
    (0 ≤ card.sokarCommissionAmount ∧ card.sokarCommissionAmount ≤ card.amount) ∧
    ((∀ contribution ∈ input.contributions store.data,
        contribution.refunded (input.entries store.data) = 0) →
      card.sokarCommissionAmount = ((input.contributions store.data).map fun contribution =>
        contribution.fee (input.checkouts store.data) restaurant.giftCardCommissionRate).sum) ∧
    store'.data.cardOf? input.giftCardId input.restaurantId = some card ∧
    ∀ again later spent, later.data.restaurants = store.data.restaurants →
      later.data.cardOf? input.giftCardId input.restaurantId = some spent →
        spent.type = card.type → spent.closedAt = card.closedAt → later.data.violation? = none →
          later.isFreeFor again (.card input.giftCardId) = true →
            ∃ owner, (closeCrowdfunding again input).run later =
              some (.ok spent, { later with owner }) := by
  obtain ⟨isAmount, isRemaining, isCommission, isCrowdfunded, isClosed, isCard⟩ :=
    closeCrowdfunding_open isRestaurant isOpen ran
  have bounds : 0 ≤ input.commission store.data restaurant ∧
      input.commission store.data restaurant ≤ input.total store.data :=
    collectedCommission_bounds fair
  refine ⟨isAmount, isRemaining.trans isAmount.symm, ?_, ?_, isCard, ?_⟩
  · rwa [isCommission, isAmount]
  · exact fun unrefunded => isCommission.trans (collectedCommission_of_unrefunded fair unrefunded)
  · intro again later spent sameRestaurants found sameType sameClosing valid free
    have stillThere : later.data.restaurants.find? (fun row => row.id == input.restaurantId) =
        some restaurant := sameRestaurants ▸ isRestaurant
    have stillClosed : spent.closedAt.isSome = true := sameClosing ▸ isClosed
    exact closeCrowdfunding_closed stillThere found (sameType.trans isCrowdfunded) stillClosed valid
      free

/-- A fund of 10 € and of 25.50 €, of which 5.50 € went back; the first was paid through a
checkout. -/
def fundStore : LedgerStore where
  data :=
    { restaurants := [⟨"r", 1 / 20, none⟩]
      packs := []
      reservations := []
      giftCards := [⟨"g", "r", "C", none, 0, 0, "eur", .ACTIVE, none, 12, none, none, 0, .CROWDFUNDED,
        none, none⟩]
      redemptions := []
      contributions := [⟨"c", "g", 1000, some "pi-1"⟩, ⟨"d", "g", 2550, some "pi-2"⟩]
      paymentEntries := [⟨"pi-2", "r", "g", some "d", .CONTRIBUTION, 2550, false, 550, "eur", none⟩]
      refundRequests := []
      checkouts := [⟨"o", "r", .CONTRIBUTION, .FULFILLED, some "g", 1000, 3 / 100, "acct", ⟨"C", 10⟩,
        "t", some "pi-1"⟩] }
  now := 0
  owner _ := none

def fundClosing : CloseCrowdfundingInput where
  giftCardId := "g"
  restaurantId := "r"
  addMonths now _ := now

/-- 30 € are kept, 1.30 € of them as the commission. -/
theorem closeCrowdfunding_settles_fund : ∃ card store',
    (fundClosing.closeCrowdfunding 0).run fundStore = some (.ok card, store') ∧
      card.amount = 3000 ∧ card.sokarCommissionAmount = 130 ∧
        card.sokarCommissionAmount ≤ card.amount ∧
          store'.data.cardOf? "g" "r" = some card := by
  have closes : ((fundClosing.closeCrowdfunding 0).run fundStore).bind (fun closed =>
      closed.1.toOption.map fun card => card.sokarCommissionAmount) = some 130 := by
    decide +kernel
  obtain ⟨⟨result, store'⟩, ran, isCommission⟩ := Option.bind_eq_some_iff.1 closes
  cases result with
  | error failure => cases isCommission
  | ok card =>
    have fair : FairFees (fundClosing.contributions fundStore.data)
        (fundClosing.checkouts fundStore.data) (1 / 20) :=
      ⟨by decide, by decide +kernel, by decide +kernel⟩
    have settles := closeCrowdfunding_settles 0 fundClosing fundStore store' ⟨"r", 1 / 20, none⟩ card
      rfl (by decide +kernel) fair ran
    exact ⟨card, store', ran, settles.1.trans (by decide +kernel), Option.some.inj isCommission,
      settles.2.2.1.2, settles.2.2.2.2.1⟩

end Sokar
