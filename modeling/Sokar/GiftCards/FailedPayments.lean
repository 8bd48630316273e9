import Sokar.GiftCards.Purchases

/-!
# Failures that come late

A failure event leaves a card alone whose payment it finds succeeded.  It knows nothing of payments
that were refunded or contested since.
-/

namespace Sokar

open Process Transaction

section

variable {call : CallId} {paymentIntentId : String}

/-- What a delivery does with the card that it has read. -/
def afterFailureRead (call : CallId) : Option GiftCard → LedgerProg (Except GiftCardFailure Unit)
  | none => pure (.ok ())
  | some existing =>
    if existing.ignoresFailure then pure (.ok ())
    else
      ledgerTransaction call
        (do
          acquire call (.card existing.id)
          pure (.ok ()))
        (fun _ _ => ())
        fun _ data _ => data.updateCard existing.id (·.paymentFailed)

theorem handlePaymentFailed_eq : handlePaymentFailed call paymentIntentId =
    .step (fun _ => true) id fun store =>
      afterFailureRead call (store.data.cardPaidBy? paymentIntentId) := by
  refine congrArg (Prog.step (fun _ => true) id) (funext fun store => ?_)
  change (match store.data.cardPaidBy? paymentIntentId with | none => _ | some existing => _) = _
  cases store.data.cardPaidBy? paymentIntentId <;> rfl

/-- The event finds the payment settled: no card was paid by it, or the payment of the card has
succeeded, failed or been canceled. -/
def FindsSettled (paymentIntentId : String) (data : GiftCardData) : Prop :=
  ∀ card, data.cardPaidBy? paymentIntentId = some card → card.ignoresFailure = true

theorem afterFailureRead_of_settled {data : GiftCardData}
    (settled : FindsSettled paymentIntentId data) :
    afterFailureRead call (data.cardPaidBy? paymentIntentId) = .done (.ok ()) := by
  cases found : data.cardPaidBy? paymentIntentId with
  | none => rfl
  | some card =>
    rw [afterFailureRead, if_pos (settled card found)]
    rfl

theorem violation?_updateCard {data : GiftCardData} {giftCardId : Id}
    {change : GiftCard → GiftCard} (keeps : ∀ card, (change card).id = card.id) :
    (data.updateCard giftCardId change).violation? = data.violation? := by
  have sameIds : (data.updateCard giftCardId change).giftCards.map (·.id) =
      data.giftCards.map (·.id) :=
    KeyedRows.map_update GiftCard.id _ keeps
  unfold GiftCardData.violation? GiftCardData.keysUnique
  rw [sameIds]
  rfl

/-- A delivery that nothing comes between leaves the cards as they are exactly when it finds the
payment settled. -/
theorem handlePaymentFailed_keeps_iff {store : LedgerStore} {card : GiftCard}
    (valid : store.data.violation? = none)
    (isFree : store.isFreeFor call (.card card.id) = true)
    (paid : store.data.cardPaidBy? paymentIntentId = some card)
    (recorded : card.stripePaymentStatus ≠ some .failed) :
    ∃ store', (handlePaymentFailed call paymentIntentId).run store = some (.ok (), store') ∧
      (store'.data.giftCards = store.data.giftCards ↔ FindsSettled paymentIntentId store.data) := by
  by_cases settled : FindsSettled paymentIntentId store.data
  · refine ⟨store, ?_, fun _ => settled, fun _ => rfl⟩
    change (afterFailureRead call (store.data.cardPaidBy? paymentIntentId)).run store = _
    rw [afterFailureRead_of_settled settled]
    rfl
  · have touched : card.ignoresFailure = false := by
      refine Bool.eq_false_of_not_eq_true fun ignores => settled fun row isRow => ?_
      rw [paid, Option.some.injEq] at isRow
      exact isRow ▸ ignores
    have waits : (acquire call (.card card.id) >>= fun _ =>
        (pure (.ok ()) : LedgerProg (Except GiftCardFailure Unit))).run store =
          some (.ok (), store.take call (.card card.id)) := by
      rw [Prog.run_bind, run_acquire_of_free isFree]
      rfl
    have keeps : ∀ row : GiftCard, row.paymentFailed.id = row.id := fun _ => rfl
    have accepted : (store.data.updateCard card.id (·.paymentFailed)).violation? = none := by
      rw [violation?_updateCard keeps]
      exact valid
    refine ⟨Store.release call
      { store.take call (.card card.id) with
        data := store.data.updateCard card.id (·.paymentFailed) },
      ?_, fun same => absurd ?_ recorded, fun isSettled => absurd isSettled settled⟩
    · change (afterFailureRead call (store.data.cardPaidBy? paymentIntentId)).run store = _
      rw [paid, afterFailureRead, if_neg (Bool.eq_false_iff.1 touched)]
      exact run_transact_ok waits accepted
    · have isCard : card ∈ store.data.giftCards := List.mem_of_find?_eq_some paid
      have kept := List.map_inj_left.1 (same.trans (List.map_id _).symm) card isCard
      rw [if_pos (beq_self_eq_true card.id)] at kept
      exact congrArg GiftCard.stripePaymentStatus kept.symm

end

section

variable {failed : CallId → Option String}
variable {others : CallId → LedgerProg (Except GiftCardFailure Unit)}

/-- Some sessions deliver the failure of a payment; what the others do is left open. -/
def withFailures (failed : CallId → Option String)
    (others : CallId → LedgerProg (Except GiftCardFailure Unit)) (call : CallId) :
    LedgerProg (Except GiftCardFailure Unit) :=
  match failed call with
  | some paymentIntentId => handlePaymentFailed call paymentIntentId
  | none => others call

/-- A delivery that has not begun, has not read the card yet, or is over. -/
def Untouched (call : CallId) (paymentIntentId : String)
    (proc : Option (LedgerProg (Except GiftCardFailure Unit))) : Prop :=
  proc = none ∨ proc = some (handlePaymentFailed call paymentIntentId) ∨
    ∃ result, proc = some (.done result)

variable {first c : Config CallId LedgerStore (Except GiftCardFailure Unit)}
variable {moves : List (Move CallId LedgerStore)}

theorem Untouched.act {call : CallId} {paymentIntentId : String}
    {ready : LedgerStore → Bool} {change : LedgerStore → LedgerStore}
    {next : LedgerStore → LedgerProg (Except GiftCardFailure Unit)} {store : LedgerStore}
    (untouched : Untouched call paymentIntentId (some (.step ready change next)))
    (settled : FindsSettled paymentIntentId store.data) :
    change store = store ∧ Untouched call paymentIntentId (some (next store)) := by
  rcases untouched with isNone | isStart | ⟨result, isDone⟩
  · cases isNone
  · cases isStart
    exact ⟨rfl, Or.inr (Or.inr ⟨_, congrArg some (afterFailureRead_of_settled settled)⟩)⟩
  · cases isDone

/-- No delivery has read what it writes about. -/
def AllUntouched (failed : CallId → Option String)
    (procs : CallId → Option (LedgerProg (Except GiftCardFailure Unit))) : Prop :=
  ∀ call paymentIntentId, failed call = some paymentIntentId →
    Untouched call paymentIntentId (procs call)

theorem AllUntouched.update {procs : CallId → Option (LedgerProg (Except GiftCardFailure Unit))}
    {proc : Option (LedgerProg (Except GiftCardFailure Unit))} (all : AllUntouched failed procs)
    (i : CallId)
    (untouched : ∀ paymentIntentId, failed i = some paymentIntentId →
      Untouched i paymentIntentId proc) :
    AllUntouched failed (Function.update procs i proc) := by
  intro call paymentIntentId fails
  by_cases same : call = i
  · subst same
    rw [Function.update_self]
    exact untouched paymentIntentId fails
  · rw [Function.update_of_ne same]
    exact all call paymentIntentId fails

theorem untouched_of_run (run : (system (withFailures failed others)).Run first moves c)
    (idle : AllUntouched failed first.procs)
    (settled : ∀ move ∈ moves, ∀ paymentIntentId, failed move.session = some paymentIntentId →
      FindsSettled paymentIntentId move.before.data) :
    AllUntouched failed c.procs ∧
      ∀ move ∈ moves, (failed move.session).isSome = true → move.after.data = move.before.data := by
  induction run with
  | nil => exact ⟨idle, fun _ isMove => absurd isMove List.not_mem_nil⟩
  | start i _ _ ih =>
    obtain ⟨untouched, unwritten⟩ := ih settled
    refine ⟨untouched.update i fun paymentIntentId fails => Or.inr (Or.inl ?_), unwritten⟩
    change some (withFailures failed others i) = _
    rw [withFailures, fails]
  | @act moves c i ready change next run atStep isReady ih =>
    obtain ⟨untouched, unwritten⟩ :=
      ih fun move isMove => settled move (List.mem_append_left _ isMove)
    have step : ∀ paymentIntentId, failed i = some paymentIntentId →
        change c.shared = c.shared ∧ Untouched i paymentIntentId (some (next c.shared)) :=
      fun paymentIntentId fails =>
        Untouched.act (atStep ▸ untouched i paymentIntentId fails)
          (settled _ (List.mem_append_right _ (List.mem_singleton_self _)) _ fails)
    refine ⟨untouched.update i fun paymentIntentId fails => (step paymentIntentId fails).2, ?_⟩
    intro move isMove fails
    rcases List.mem_append.1 isMove with before | last
    · exact unwritten move before fails
    · cases List.mem_singleton.1 last
      obtain ⟨paymentIntentId, isFailed⟩ := Option.isSome_iff_exists.1 fails
      exact congrArg Store.data (step paymentIntentId isFailed).1
  | crash i _ _ ih =>
    obtain ⟨untouched, unwritten⟩ := ih settled
    exact ⟨untouched.update i fun _ _ => Or.inl rfl, unwritten⟩
  | tick _ _ ih => exact ih settled

/-- Failure events that find their payments settled change no card, in whatever order and however
often they come. -/
theorem failures_harmless (run : (system (withFailures failed others)).Run first moves c)
    (idle : ∀ call, (failed call).isSome = true → first.procs call = none)
    (settled : ∀ move ∈ moves, ∀ paymentIntentId, failed move.session = some paymentIntentId →
      FindsSettled paymentIntentId move.before.data) :
    ∀ move ∈ moves, (failed move.session).isSome = true →
      move.after.data.giftCards = move.before.data.giftCards :=
  have untouched : AllUntouched failed first.procs := fun call _ fails =>
    Or.inl (idle call (Option.isSome_iff_exists.2 ⟨_, fails⟩))
  fun move isMove fails =>
    congrArg GiftCardData.giftCards ((untouched_of_run run untouched settled).2 move isMove fails)

end

section

/-- A payment of 50 €, of which some was given back. -/
def giftPayment (refundedAmount : Int) : PaymentIntent where
  status := .succeeded
  amount := 5000
  amountReceived := 5000
  currency := "eur"
  refundedAmount := refundedAmount
  disputed := false
  pendingRefund := false
  metadata := ⟨none, none, some "r", none, some 50, none⟩

def giftPurchase : PurchaseCall where
  restaurantId := "r"
  paymentIntentId := "pi"
  checkoutId := none
  accessTokenHash := ""
  amount := some 50
  packId := none
  webhook := some none
  payment := some (giftPayment 0)
  newId := "g"
  newCode := "C"
  newShortCode := "SKR-C"
  addMonths now months := now + months

def giftRefund : ReconcileInput where
  paymentIntentId := "pi"
  stripeAccountId := none
  initial := some (giftPayment 1000)
  reported _ := some (giftPayment 1000)
  answers _ := none

def giftShop : LedgerStore where
  data :=
    { restaurants := [⟨"r", 1 / 20, none⟩]
      packs := []
      reservations := []
      giftCards := []
      redemptions := []
      contributions := []
      paymentEntries := []
      refundRequests := []
      checkouts := [] }
  now := 0
  owner _ := none

/-- The card is bought, 10 € are given back, and then the failure of an earlier attempt arrives: the
card before that event and after it. -/
def giftHistory : Option (GiftCard × GiftCard) := do
  let (_, bought) ← (purchaseWithPayment 0 giftPurchase).run giftShop
  let (_, refunded) ← (giftRefund.reconcilePayment 1).run bought
  let (_, failed) ← (handlePaymentFailed 2 "pi").run refunded
  let card ← refunded.data.card? "g"
  let card' ← failed.data.card? "g"
  pure (card, card')

/-- The card, which could be spent, no longer can. -/
theorem failure_after_refund_blocks :
    giftHistory.map (fun history => (history.1.stripePaymentStatus, history.1.debitable 0,
      history.2.stripePaymentStatus, history.2.debitable 0)) =
        some (some .partially_refunded, true, some .failed, false) := by
  decide +kernel

def paidGift : GiftCard where
  id := "g"
  restaurantId := "r"
  code := "C"
  shortCode := some "SKR-C"
  amount := 5000
  remainingAmount := 5000
  currency := "EUR"
  status := .ACTIVE
  expiresAt := none
  validityMonths := 12
  stripePaymentIntentId := some "pi"
  stripePaymentStatus := some .succeeded
  sokarCommissionAmount := 250
  type := .SINGLE
  crowdfundedUntil := none
  closedAt := none

def paidStore : LedgerStore :=
  { giftShop with data := { giftShop.data with giftCards := [paidGift] } }

/-- Only failures of the payment are delivered. -/
def giftFailures : CallId → LedgerProg (Except GiftCardFailure Unit) :=
  withFailures (fun _ => some "pi") fun _ => pure (.ok ())

/-- The failure arrives before anything is given back. -/
theorem failures_harmless_paid :
    ∃ moves c, (system giftFailures).Run ⟨paidStore, fun _ => none⟩ moves c ∧ moves.length = 2 ∧
      ∀ move ∈ moves, move.after.data.giftCards = move.before.data.giftCards := by
  obtain ⟨moves, c, run, length, paid⟩ := (system giftFailures).exists_run_of_schedule [0, 1, 0, 1]
    ⟨paidStore, fun _ => none⟩ (fun moves _ => moves.length = 2 ∧
      ∀ move ∈ moves, move.before.data.giftCards = [paidGift]) (by decide +kernel)
  refine ⟨moves, c, run, length, fun move isMove => ?_⟩
  refine failures_harmless run (fun _ _ => rfl) (fun move isMove payment isPayment => ?_) move isMove
    rfl
  cases isPayment
  intro card isCard
  rw [GiftCardData.cardPaidBy?, paid move isMove] at isCard
  cases isCard
  rfl

end

end Sokar
