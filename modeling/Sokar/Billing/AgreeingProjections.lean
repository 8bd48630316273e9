import Sokar.Billing.Deliveries

/-!
# The two rows of a subscription

The account row and the billing row of the anchor are written by the same handlers, each with its
own list of fields.  A snapshot leaves them in agreement.  A completed checkout clears the period
end, the cancel flag and a missing price on one of them only, and an invoice without a period end
clears that of the account row.
-/

namespace Sokar.Billing

/-- Both rows say the same, and every site of the account has one plan, the anchor among them. -/
structure Agree (db : Database) (accountId anchorId : Id) : Prop where
  rows : (db.accountRow accountId).view = (db.billingRow anchorId).view
  plan : ∃ plan, ∀ site ∈ sitePlans db accountId, site = plan

section

variable [BillingConfig]

/-- A newer checkout finds no period end and no cancellation on the row of the anchor, and orders a
price that is configured unless the row has none. -/
def Cleared (session : CheckoutSession) (row : RestaurantBilling) : Prop :=
  row.subscriptionCurrentPeriodEnd = none ∧ row.subscriptionCancelAtPeriodEnd = false ∧
    ∀ plan, session.metadata.plan.bind publicPlan? = some plan →
      (checkoutPrice session plan).isSome ∨ row.subscriptionPriceId = none

/-- An invoice has a period end, by itself or from the row that was found for it, unless the row of
the anchor has none. -/
def Dated (invoice : InvoiceObject) (found : Option RestaurantBilling) (row : RestaurantBilling) :
    Prop :=
  (invoicePeriodEnd invoice).isSome ∨
    (found.bind RestaurantBilling.subscriptionCurrentPeriodEnd).isSome ∨
      row.subscriptionCurrentPeriodEnd = none

/-- The events that keep the two rows in agreement. -/
def Agreeable (db : Database) (anchorId : Id) (event : StripeEvent) : Prop :=
  match event.data with
  | .checkoutCompleted session =>
    compareStripeEvent db anchorId event = .newer → Cleared session (db.billingRow anchorId)
  | .subscription _ _ => True
  | .invoice _ invoice =>
    compareStripeEvent db anchorId event = .newer ∨ eventSubscription db event = none →
      Dated invoice (billingForInvoice invoice db) (db.billingRow anchorId)

section

variable {account : RestaurantAccountBilling} {billing : RestaurantBilling}

section

variable (agree : account.view = billing.view)
include agree

theorem snapshotWrite_view (subscription : SubscriptionObject) (deleted : Bool)
    (checkpoint : Checkpoint) :
    (RestaurantAccountBilling.projected (snapshotWrite subscription deleted checkpoint).data
      account).view = ((snapshotWrite subscription deleted checkpoint).change billing).view := by
  have price : account.subscriptionPriceId = billing.subscriptionPriceId :=
    congrArg SubscriptionView.priceId agree
  simp [RestaurantAccountBilling.view, RestaurantBilling.view, RestaurantAccountBilling.projected,
    snapshotWrite, RestaurantBilling.snapshot, given, price]

theorem checkoutWrite_view (session : CheckoutSession) {plan : PublicBillingPlan}
    (ordered : session.metadata.plan.bind publicPlan? = some plan) (checkpoint : Checkpoint) :
    (RestaurantAccountBilling.projected (checkoutWrite session plan checkpoint).data account).view =
        ((checkoutWrite session plan checkpoint).change billing).view ↔
      Cleared session billing := by
  have price : account.subscriptionPriceId = billing.subscriptionPriceId :=
    congrArg SubscriptionView.priceId agree
  have subscription : account.stripeSubscriptionId = billing.stripeSubscriptionId :=
    congrArg SubscriptionView.subscriptionId agree
  have prices : given (checkoutPrice session plan) billing.subscriptionPriceId =
      checkoutPrice session plan ↔
        (checkoutPrice session plan).isSome ∨ billing.subscriptionPriceId = none := by
    cases checkoutPrice session plan <;> simp [given]
  simp only [Cleared, ordered, Option.some.injEq, forall_eq']
  simp only [RestaurantAccountBilling.view, RestaurantBilling.view,
    RestaurantAccountBilling.projected, checkoutWrite, RestaurantBilling.checkedOut,
    SubscriptionView.mk.injEq, price, subscription, prices, true_and]
  constructor
  · rintro ⟨priced, ended, uncancelled⟩
    exact ⟨ended.symm, uncancelled.symm, priced⟩
  · rintro ⟨ended, uncancelled, priced⟩
    exact ⟨priced, ended.symm, uncancelled.symm⟩

theorem invoiceWrite_view (kind : InvoiceEvent) (invoice : InvoiceObject)
    (found : Option RestaurantBilling) (stored : Option RestaurantAccountBilling)
    (checkpoint : Checkpoint) :
    (RestaurantAccountBilling.projected
      (invoiceWrite kind invoice found stored checkpoint).data account).view =
        ((invoiceWrite kind invoice found stored checkpoint).change billing).view ↔
      Dated invoice found billing := by
  have price : account.subscriptionPriceId = billing.subscriptionPriceId :=
    congrArg SubscriptionView.priceId agree
  have subscription : account.stripeSubscriptionId = billing.stripeSubscriptionId :=
    congrArg SubscriptionView.subscriptionId agree
  simp only [RestaurantAccountBilling.view, RestaurantBilling.view,
    RestaurantAccountBilling.projected, invoiceWrite, RestaurantBilling.invoiced,
    SubscriptionView.mk.injEq, price, subscription, true_and, and_true, Dated, invoiceData]
  cases invoicePeriodEnd invoice with
  | some ends => simp [given]
  | none =>
    cases found.bind RestaurantBilling.subscriptionCurrentPeriodEnd with
    | some ends => simp [given]
    | none => simp [given, eq_comm]

end

end

section

variable {db after : Database} {accountId anchorId : Id} {live : Live} {event : StripeEvent}

/-- An event that does not say what clears a row is in agreement by itself. -/
theorem EventWrite.view_iff {write : Write} {account : RestaurantAccountBilling}
    (planned : EventWrite live event db anchorId write)
    (agree : account.view = (db.billingRow anchorId).view) :
    (RestaurantAccountBilling.projected write.data account).view =
        (write.change (db.billingRow anchorId)).view ↔ Agreeable db anchorId event := by
  cases planned with
  | snapshot about newer =>
    simp only [Agreeable, about, iff_true]
    exact snapshotWrite_view agree _ _ _
  | retrieved tie about answer =>
    have agreeable : Agreeable db anchorId event := by
      unfold Agreeable
      split
      next => simp [tie]
      next => trivial
      next =>
        rw [tie, about]
        rintro (newer | unsubscribed)
        · cases newer
        · cases unsubscribed
    simp only [agreeable, iff_true]
    exact snapshotWrite_view agree _ _ _
  | checkout about ordered newer =>
    simp only [Agreeable, about, newer, forall_const]
    exact checkoutWrite_view agree _ ordered _
  | invoice about fresh =>
    have open_ : compareStripeEvent db anchorId event = .newer ∨
        eventSubscription db event = none := fresh.imp_right And.right
    simp only [Agreeable, about, open_, forall_const]
    exact invoiceWrite_view agree _ _ _ _ _

omit [BillingConfig] in
section

variable {write : Write} (changed : Changed db after accountId anchorId write)
include changed

theorem Changed.rows : (after.accountRow accountId).view = (after.billingRow anchorId).view ↔
      (RestaurantAccountBilling.projected write.data (db.accountRow accountId)).view =
        (write.change (db.billingRow anchorId)).view := by
  rw [Database.accountRow, Database.billingRow, changed.account, changed.billing]
  rfl

omit [BillingConfig] in
theorem Changed.plan (one : ∃ plan, ∀ site ∈ sitePlans db accountId, site = plan) :
    ∃ plan, ∀ site ∈ sitePlans after accountId, site = plan := by
  obtain ⟨plan, same⟩ := one
  refine ⟨write.data.plan.getD plan, fun site isSite => ?_⟩
  rw [changed.plans] at isSite
  obtain ⟨stored, isStored, rfl⟩ := List.mem_map.mp isSite
  rw [same stored isStored]

end

/-- One delivery keeps the agreement exactly where it does not reach the anchor or is agreeable. -/
theorem AccountStep.agree_iff (step : AccountStep accountId anchorId live event db after)
    (agree : Agree db accountId anchorId) :
    Agree after accountId anchorId ↔ (Reaches db anchorId event → Agreeable db anchorId event) := by
  cases step with
  | missed missed same =>
    obtain ⟨sameAccount, sameRows⟩ := Prod.mk.inj same
    obtain ⟨sameBilling, samePlans⟩ := Prod.mk.inj sameRows
    have still : Agree after accountId anchorId := by
      constructor
      · rw [Database.accountRow, Database.billingRow, sameAccount, sameBilling]
        exact agree.rows
      · rw [samePlans]
        exact agree.plan
    simp [still, missed]
  | wrote reaches planned changed =>
    rw [← planned.view_iff agree.rows, ← changed.rows]
    constructor
    · intro still _
      exact still.rows
    · intro rows
      exact ⟨rows reaches, changed.plan agree.plan⟩

end

section

variable {start db : Database} {accountId anchorId : Id} {history : List Delivered}

theorem Deliveries.last (run : Deliveries start history db) (agree : Agree start accountId anchorId)
    (always : ∀ step ∈ history, Agree step.after accountId anchorId) :
    Agree db accountId anchorId := by
  cases run with
  | start => exact agree
  | next run ok => exact always _ (List.mem_append_right _ List.mem_cons_self)

/-- The two rows agree all along a run exactly where every event that reaches the anchor is
agreeable. -/
theorem projections_agree_iff (anchored : Anchored start accountId anchorId)
    (agree : Agree start accountId anchorId) (run : Deliveries start history db) :
    (∀ step ∈ history, Agree step.after accountId anchorId) ↔
      ∀ step ∈ history, Reaches step.before anchorId step.event →
        Agreeable step.before anchorId step.event := by
  induction run with
  | start => simp
  | @next history before after live event handled run ok ih =>
    have step := handleBillingWebhook_step (run.anchored anchored) ok
    simp only [List.forall_mem_append, List.forall_mem_singleton]
    rw [← ih]
    constructor
    · rintro ⟨earlier, last⟩
      exact ⟨earlier, (step.agree_iff (run.last agree earlier)).mp last⟩
    · rintro ⟨earlier, last⟩
      exact ⟨earlier, (step.agree_iff (run.last agree earlier)).mpr last⟩

end

end

section

attribute [local instance] namedPrices

def createdAt100 : StripeEvent :=
  ⟨"evt_created", 100, .subscription .created (proSubscription "sub_1" .active 5000)⟩

def checkedOutAt50 : StripeEvent :=
  ⟨"evt_checkout", 50, .checkoutCompleted (proCheckout "sub_1")⟩

def checkedOutAt101 : StripeEvent :=
  ⟨"evt_checkout", 101, .checkoutCompleted (proCheckout "sub_1")⟩

theorem oneSite_agree : Agree oneSite "account" "site" :=
  ⟨rfl, .STARTER, fun _ isSite => List.mem_singleton.mp isSite⟩

/-- The checkout that precedes the snapshot of its subscription. -/
theorem projections_agree_checkout_created :
    Agree (bothDelivered checkedOutAt50 createdAt100 oneSite) "account" "site" := by
  have run : Deliveries oneSite (bothHistory checkedOutAt50 createdAt100 oneSite) _ :=
    bothHistory_run (by decide +kernel) (by decide +kernel)
  refine (projections_agree_iff oneSite_anchored oneSite_agree run).mpr ?_ _
    (List.mem_cons_of_mem _ List.mem_cons_self)
  simp only [bothHistory, List.forall_mem_cons]
  refine ⟨fun _ _ => ⟨rfl, rfl, fun _ ordered => ?_⟩, fun _ => trivial, fun _ none => nomatch none⟩
  exact .inl rfl

/-- A checkout in the second after the snapshot of its subscription clears the period end of the
account row and leaves that of the anchor. -/
theorem checkout_clears_one_row : ¬∀ history db, Deliveries oneSite history db →
      ∀ step ∈ history, Agree step.after "account" "site" := by
  intro always
  have run : Deliveries oneSite (bothHistory createdAt100 checkedOutAt101 oneSite) _ :=
    bothHistory_run (by decide +kernel) (by decide +kernel)
  have agree := always _ _ run _ (List.mem_cons_of_mem _ List.mem_cons_self)
  have ends := congrArg SubscriptionView.periodEnd agree.rows
  revert ends
  decide +kernel

end

end Sokar.Billing
