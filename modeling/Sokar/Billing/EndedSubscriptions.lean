import Sokar.Billing.Deliveries

/-!
# Late events of an ended subscription

No handler compares the subscription of an event with the one an account already has: only the
order of the events decides.  A late event of a subscription that has ended, newer than the
checkpoint, takes the projection of its successor over.
-/

namespace Sokar.Billing

/-- When the provider created each subscription, and when it recorded its end. -/
structure Lifetimes where
  created : String → Option Int
  ended : String → Option Int

/-- The end of one subscription was recorded before the other one was created. -/
def Lifetimes.EndedBefore (lifetimes : Lifetimes) (first second : String) : Prop :=
  ∃ ended created, lifetimes.ended first = some ended ∧ lifetimes.created second = some created ∧
    ended < created

/-- The statuses of a subscription that has not ended. -/
def SubscriptionStatus.live (status : SubscriptionStatus) : Prop :=
  status ≠ .canceled ∧ status ≠ .incomplete_expired

/-- The subscription and the customer that a subscription event or an invoice carries. -/
def carriedSubscription (event : StripeEvent) : Option (String × Option String) :=
  match event.data with
  | .checkoutCompleted _ => none
  | .subscription _ subscription => some (subscription.id, subscription.customer)
  | .invoice _ invoice =>
    invoice.subscription.map fun subscriptionId => (subscriptionId, invoice.customer)

/-- An event of a subscription that ended before its successor was created, while the account
points to the live successor. -/
structure Late (lifetimes : Lifetimes) (accountId : Id) (db : Database) (event : StripeEvent)
    (first second : String) : Prop where
  points : (db.accountRow accountId).stripeSubscriptionId = some second
  live : ∃ status, (db.accountRow accountId).subscriptionStatus = some status ∧ status.live
  other : first ≠ second
  carries : carriedSubscription event = some (first, (db.accountRow accountId).stripeCustomerId)
  ended : lifetimes.EndedBefore first second

/-- A subscription is retrieved under its own id. -/
def Answers (live : Live) : Prop :=
  ∀ id subscription, live id = .ok subscription → subscription.id = id

section

variable [BillingConfig] {db after : Database} {accountId anchorId : Id} {live : Live}
  {event : StripeEvent}

omit [BillingConfig] in
theorem eventSubscription_carried {subscriptionId : String} {customerId : Option String}
    (carries : carriedSubscription event = some (subscriptionId, customerId)) (db : Database) :
    eventSubscription db event = some subscriptionId := by
  unfold carriedSubscription at carries
  unfold eventSubscription
  cases about : event.data with
  | checkoutCompleted _ =>
    simp only [about] at carries
    cases carries
  | subscription _ _ =>
    simp only [about] at carries
    cases carries
    rfl
  | invoice _ _ =>
    simp only [about] at carries
    obtain ⟨_, isSubscription, named⟩ := Option.map_eq_some_iff.mp carries
    cases named
    simp [invoiceData, isSubscription]

theorem EventWrite.subscription_carried {write : Write} {subscriptionId : String}
    {customerId : Option String} (answers : Answers live)
    (carries : carriedSubscription event = some (subscriptionId, customerId))
    (planned : EventWrite live event db anchorId write) :
    write.data.stripeSubscriptionId = some subscriptionId := by
  cases planned with
  | snapshot about newer =>
    rw [carriedSubscription, about] at carries
    cases carries
    rfl
  | retrieved tie about answer =>
    rw [eventSubscription_carried carries db] at about
    cases about
    exact congrArg some (answers _ _ answer)
  | checkout about ordered newer =>
    rw [carriedSubscription, about] at carries
    cases carries
  | invoice about fresh =>
    have subscription := eventSubscription_carried carries db
    rw [eventSubscription, about] at subscription
    exact subscription

theorem AccountStep.undisturbed_iff {lifetimes : Lifetimes} {first second : String}
    (step : AccountStep accountId anchorId live event db after) (answers : Answers live)
    (late : Late lifetimes accountId db event first second) :
    projection after accountId anchorId = projection db accountId anchorId ↔
      ¬Reaches db anchorId event := by
  cases step with
  | missed missed same => exact iff_of_true same missed
  | @wrote write reaches planned changed =>
    refine iff_of_false (fun same => ?_) (not_not_intro reaches)
    have sameAccount : after.account accountId = db.account accountId := (Prod.mk.inj same).1
    have sameRow : RestaurantAccountBilling.projected write.data (db.accountRow accountId) =
        db.accountRow accountId := by
      rw [changed.account] at sameAccount
      conv_rhs => rw [Database.accountRow, ← sameAccount]
      rfl
    have points := congrArg RestaurantAccountBilling.stripeSubscriptionId sameRow
    rw [late.points] at points
    have carried := planned.subscription_carried answers late.carries
    simp only [RestaurantAccountBilling.projected, carried, given, Option.some_or,
      Option.some.injEq] at points
    exact late.other points

/-- In a run, the late events leave the projection of the successor alone exactly where none of them
reaches the anchor. -/
theorem ended_undisturbing_iff {start : Database} {history : List Delivered}
    (lifetimes : Lifetimes) (anchored : Anchored start accountId anchorId)
    (run : Deliveries start history db) (answers : ∀ step ∈ history, Answers step.live) :
    (∀ step ∈ history, ∀ first second,
      Late lifetimes accountId step.before step.event first second →
        projection step.after accountId anchorId = projection step.before accountId anchorId) ↔
    ∀ step ∈ history, ∀ first second, Late lifetimes accountId step.before step.event first second →
        ¬Reaches step.before anchorId step.event := by
  induction run with
  | start => simp
  | @next history before after live event handled run ok ih =>
    simp only [List.forall_mem_append, List.forall_mem_singleton] at answers ⊢
    rw [ih answers.1]
    have step := handleBillingWebhook_step (run.anchored anchored) ok
    have last : (∀ first second, Late lifetimes accountId before event first second →
        projection after accountId anchorId = projection before accountId anchorId) ↔
        ∀ first second, Late lifetimes accountId before event first second →
          ¬Reaches before anchorId event := by
      refine forall_congr' fun first => forall_congr' fun second => forall_congr' fun late => ?_
      exact step.undisturbed_iff answers.2 late
    rw [last]

end

section

attribute [local instance] namedPrices

/-- The successor is bought at the second 200, long after the first subscription ended. -/
def secondCheckout : StripeEvent :=
  ⟨"evt_second", 200, .checkoutCompleted (proCheckout "sub_2")⟩

def firstDeleted : StripeEvent :=
  ⟨"evt_deleted", 150, .subscription .deleted (proSubscription "sub_1" .canceled 5000)⟩

/-- The last invoice of the first subscription, which is retried after its end. -/
def firstInvoice : StripeEvent :=
  ⟨"evt_invoice", 300, .invoice .payment_failed
    { subscription := some "sub_1", customer := some "customer", billing_reason := none,
      amount_paid := 0, period_end := none, lines := [], «metadata» := {} }⟩

def samplePeriods : Lifetimes where
  created id := if id = "sub_1" then some 100 else some 200
  ended id := if id = "sub_1" then some 150 else none

theorem unanswered_answers : Answers unanswered :=
  fun _ _ answer => nomatch answer

theorem samplePeriods_endedBefore : samplePeriods.EndedBefore "sub_1" "sub_2" :=
  ⟨150, 200, rfl, rfl, by decide⟩

theorem bothHistory_answers (first second : StripeEvent) (db : Database) :
    ∀ step ∈ bothHistory first second db, Answers step.live := by
  simp only [bothHistory, List.forall_mem_cons]
  exact ⟨unanswered_answers, unanswered_answers, fun _ none => nomatch none⟩

/-- The deletion of the first subscription is delivered after the checkout of the second one. -/
theorem ended_undisturbing_deleted :
    projection (bothDelivered secondCheckout firstDeleted oneSite) "account" "site" =
      projection (delivered unanswered secondCheckout oneSite) "account" "site" := by
  have run : Deliveries oneSite (bothHistory secondCheckout firstDeleted oneSite) _ :=
    bothHistory_run (by decide +kernel) (by decide +kernel)
  have late : Late samplePeriods "account" (delivered unanswered secondCheckout oneSite)
      firstDeleted "sub_1" "sub_2" := by
    refine ⟨by decide +kernel, ⟨.active, by decide +kernel, ?_⟩, by decide, by decide +kernel,
      samplePeriods_endedBefore⟩
    simp [SubscriptionStatus.live]
  refine (ended_undisturbing_iff samplePeriods oneSite_anchored run
    (bothHistory_answers _ _ _)).mpr ?_ _ (List.mem_cons_of_mem _ List.mem_cons_self) _ _ late
  simp only [bothHistory, List.forall_mem_cons]
  refine ⟨fun _ _ unpointed => (nomatch unpointed.points), fun _ _ _ reaches => ?_,
    fun _ none => nomatch none⟩
  exact reaches.2.2 (by decide +kernel)

/-- A failed invoice of the first subscription takes the projection of the second one over. -/
theorem ended_invoice_disturbs :
    ¬∀ history db, Deliveries oneSite history db → (∀ step ∈ history, Answers step.live) →
      ∀ step ∈ history, ∀ first second,
        Late samplePeriods "account" step.before step.event first second →
          projection step.after "account" "site" = projection step.before "account" "site" := by
  intro undisturbed
  have run : Deliveries oneSite (bothHistory secondCheckout firstInvoice oneSite) _ :=
    bothHistory_run (by decide +kernel) (by decide +kernel)
  have late : Late samplePeriods "account" (delivered unanswered secondCheckout oneSite)
      firstInvoice "sub_1" "sub_2" := by
    refine ⟨by decide +kernel, ⟨.active, by decide +kernel, ?_⟩, by decide, by decide +kernel,
      samplePeriods_endedBefore⟩
    simp [SubscriptionStatus.live]
  have same := undisturbed _ _ run (bothHistory_answers _ _ _) _
    (List.mem_cons_of_mem _ List.mem_cons_self) _ _ late
  have sameAccount := congrArg Prod.fst same
  revert sameAccount
  decide +kernel

end

end Sokar.Billing
