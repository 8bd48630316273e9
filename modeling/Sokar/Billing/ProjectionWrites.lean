import Sokar.Billing.Projections

/-!
# What a billing event writes

Every handler plans one write: a change of the billing row of the anchor and the values it projects
onto the account row.  The claims about runs of events rest on which write each event plans.
-/

namespace Sokar.Billing

variable (db : Database)

variable (restaurantId : Id)

/-- The billing row of a restaurant; a missing one reads like an empty one. -/
def Database.billingRow : RestaurantBilling :=
  (db.billing restaurantId).getD { restaurantId }

def Database.accountRow (accountId : Id) : RestaurantAccountBilling :=
  (db.account accountId).getD { accountId }

structure SubscriptionView where
  subscriptionId : Option String
  status : Option SubscriptionStatus
  priceId : Option String
  periodEnd : Option Instant
  cancelAtPeriodEnd : Bool
  deriving DecidableEq

def RestaurantAccountBilling.view (row : RestaurantAccountBilling) : SubscriptionView where
  subscriptionId := row.stripeSubscriptionId
  status := row.subscriptionStatus
  priceId := row.subscriptionPriceId
  periodEnd := row.subscriptionCurrentPeriodEnd
  cancelAtPeriodEnd := row.subscriptionCancelAtPeriodEnd

def RestaurantBilling.view (row : RestaurantBilling) : SubscriptionView where
  subscriptionId := row.stripeSubscriptionId
  status := row.subscriptionStatus
  priceId := row.subscriptionPriceId
  periodEnd := row.subscriptionCurrentPeriodEnd
  cancelAtPeriodEnd := row.subscriptionCancelAtPeriodEnd

structure Write where
  data : AccountData
  change : RestaurantBilling → RestaurantBilling
  keeps : ∀ row, (change row).restaurantId = row.restaurantId

/-- The three statements that all handlers end with. -/
def project (write : Write) (db : Database) : Handled Database := do
  let db ← updatePlan restaurantId write.data.plan db
  let db ← projectAccountBilling restaurantId write.data db
  upsertBilling restaurantId (write.change { restaurantId }) write.change db

section

def plannedSites (restaurant : Restaurant) : Bool :=
  restaurant.id == restaurantId ||
    (restaurant.accountId.isSome && restaurant.accountId == db.accountOf restaurantId)

structure Projected (db after : Database) (restaurantId : Id) (write : Write) : Prop where
  billing : ∀ id, after.billing id =
    if id = restaurantId then some (write.change (db.billingRow restaurantId)) else db.billing id
  account : ∀ id, after.account id =
    if db.accountOf restaurantId = some id then
      some (RestaurantAccountBilling.projected write.data (db.accountRow id))
    else db.account id
  restaurants : after.restaurants =
    (setPlan (plannedSites db restaurantId) write.data.plan db).restaurants
  processed : after.processed = db.processed

theorem uniqueOr_ok {Row : Type} {columns : List (Row → Option String)} {rows result : List Row}
    (unique : uniqueOr columns rows = .ok result) : result = rows := by
  rw [uniqueOr] at unique
  split at unique
  · exact (Except.ok.inj unique).symm
  · cases unique

theorem accountOf_setPlan (selected : Restaurant → Bool) (plan : Option Plan) (db : Database)
    (id : Id) : (setPlan selected plan db).accountOf id = db.accountOf id := by
  cases plan with
  | none => rfl
  | some plan =>
    have found : KeyedRows.lookup Restaurant.id (setPlan selected (some plan) db).restaurants id =
        (KeyedRows.lookup Restaurant.id db.restaurants id).map fun restaurant =>
          if selected restaurant then { restaurant with plan } else restaurant :=
      KeyedRows.lookup_update selected fun _ => rfl
    rw [Database.accountOf, found, Database.accountOf]
    cases KeyedRows.lookup Restaurant.id db.restaurants id with
    | none => rfl
    | some restaurant =>
      simp only [Option.map_some, Option.bind_some]
      split <;> rfl

theorem setPlan_setPlan (first second : Restaurant → Bool) (plan : Option Plan) (db : Database)
    (apart : ∀ restaurant plan, second { restaurant with plan } = second restaurant) :
    (setPlan second plan (setPlan first plan db)).restaurants =
      (setPlan (fun restaurant => first restaurant || second restaurant) plan db).restaurants := by
  cases plan with
  | none => rfl
  | some plan =>
    simp only [setPlan, KeyedRows.update, List.map_map]
    apply List.map_congr_left
    intro restaurant _
    by_cases one : first restaurant = true <;> by_cases two : second restaurant = true <;>
      simp [one, two, apart]

variable {db after : Database} {restaurantId : Id}

theorem updatePlan_ok {plan : Option Plan} (updated : updatePlan restaurantId plan db = .ok after) :
    after = setPlan (fun restaurant => restaurant.id == restaurantId) plan db := by
  rw [updatePlan] at updated
  split at updated
  · exact (Except.ok.inj updated).symm
  · cases updated

theorem projectAccountBilling_ok {data : AccountData}
    (projected : projectAccountBilling restaurantId data db = .ok after) :
    (∀ id, after.account id = if db.accountOf restaurantId = some id then
        some (RestaurantAccountBilling.projected data (db.accountRow id))
      else db.account id) ∧
    after.restaurantBilling = db.restaurantBilling ∧ after.processed = db.processed ∧
    after.restaurants = (setPlan (fun restaurant => restaurant.accountId.isSome &&
      restaurant.accountId == db.accountOf restaurantId) data.plan db).restaurants := by
  unfold projectAccountBilling at projected
  split at projected
  next accountless =>
    cases projected
    have none : (fun restaurant : Restaurant => restaurant.accountId.isSome &&
        restaurant.accountId == db.accountOf restaurantId) = fun _ => false := by
      funext restaurant
      rw [accountless]
      cases restaurant.accountId <;> rfl
    refine ⟨fun id => by simp [accountless], rfl, rfl, ?_⟩
    rw [none]
    cases data.plan <;> simp [setPlan, KeyedRows.update]
  next accountId found =>
    obtain ⟨rows, unique, projected⟩ := ok_of_bind projected
    cases uniqueOr_ok unique
    cases projected
    have sites : (fun restaurant : Restaurant => restaurant.accountId.isSome &&
        restaurant.accountId == db.accountOf restaurantId) =
          fun restaurant => restaurant.accountId == some accountId := by
      funext restaurant
      rw [found]
      cases restaurant.accountId <;> rfl
    refine ⟨fun id => ?_, rfl, rfl, by rw [sites]⟩
    have keeps : ∀ row, (RestaurantAccountBilling.projected data row).accountId = row.accountId :=
      fun _ => rfl
    have created : (RestaurantAccountBilling.projected data { accountId }).accountId =
        accountId := rfl
    refine (KeyedRows.lookup_upsert keeps created).trans ?_
    rw [found]
    by_cases same : id = accountId
    · subst same
      rw [if_pos rfl, if_pos rfl, Database.accountRow, Database.account]
      have table : (setPlan (fun restaurant => restaurant.accountId == some id) data.plan
          db).accountBilling = db.accountBilling := rfl
      rw [table]
      cases KeyedRows.lookup RestaurantAccountBilling.accountId db.accountBilling id <;> rfl
    · rw [if_neg same, if_neg fun other => same (Option.some.inj other).symm]
      rfl

theorem upsertBilling_ok {change : RestaurantBilling → RestaurantBilling}
    (keeps : ∀ row, (change row).restaurantId = row.restaurantId)
    (upserted : upsertBilling restaurantId (change { restaurantId }) change db = .ok after) :
    (∀ id, after.billing id =
      if id = restaurantId then some (change (db.billingRow restaurantId)) else db.billing id) ∧
    after.restaurants = db.restaurants ∧ after.accountBilling = db.accountBilling ∧
    after.processed = db.processed := by
  obtain ⟨rows, unique, upserted⟩ := ok_of_bind upserted
  cases uniqueOr_ok unique
  cases upserted
  refine ⟨fun id => ?_, rfl, rfl, rfl⟩
  have created : (change { restaurantId }).restaurantId = restaurantId := keeps _
  refine (KeyedRows.lookup_upsert keeps created).trans ?_
  rw [Database.billingRow, Database.billing]
  split
  · cases KeyedRows.lookup RestaurantBilling.restaurantId db.restaurantBilling restaurantId <;> rfl
  · rfl

theorem project_ok {write : Write} (projected : project restaurantId write db = .ok after) :
    Projected db after restaurantId write := by
  obtain ⟨planned, setsPlan, projected⟩ := ok_of_bind projected
  rw [updatePlan_ok setsPlan] at projected
  obtain ⟨middle, projectsAccount, upserted⟩ := ok_of_bind projected
  obtain ⟨account, billingTable, processed, restaurants⟩ := projectAccountBilling_ok projectsAccount
  obtain ⟨billing, sameRestaurants, sameAccounts, sameProcessed⟩ :=
    upsertBilling_ok write.keeps upserted
  have billingSame : ∀ id, middle.billing id = db.billing id := by
    intro id
    rw [Database.billing, billingTable]
    rfl
  exact {
    billing := by
      intro id
      rw [billing, Database.billingRow, Database.billingRow, billingSame, billingSame]
    account := by
      intro id
      have table : after.account id = middle.account id := by
        rw [Database.account, sameAccounts]
        rfl
      rw [table, account, accountOf_setPlan]
      rfl
    restaurants := by
      rw [sameRestaurants, restaurants, accountOf_setPlan, setPlan_setPlan _ _ _ _ fun _ _ => rfl]
      rfl
    processed := sameProcessed.trans processed }

end

variable (session : CheckoutSession)

variable (event : StripeEvent)

section

/-- A snapshot of a subscription, with its plan and its site count. -/
def snapshotWrite [BillingConfig] (subscription : SubscriptionObject) (deleted : Bool)
    (checkpoint : Checkpoint) : Write where
  data := {
    stripeCustomerId := (subscriptionUpdateData subscription deleted).stripeCustomerId
    stripeSubscriptionId := some (subscriptionUpdateData subscription deleted).stripeSubscriptionId
    subscriptionStatus := (subscriptionUpdateData subscription deleted).subscriptionStatus
    subscriptionPriceId := (subscriptionUpdateData subscription deleted).subscriptionPriceId
    subscriptionBillingInterval :=
      (subscriptionUpdateData subscription deleted).subscriptionBillingInterval
    plan := (subscriptionPlan subscription).map fun plan =>
      if deleted then .STARTER else PLAN_TO_DATABASE plan
    entitledSiteCount := if deleted then 1 else metadataSiteCount subscription.metadata
    subscriptionCurrentPeriodEnd :=
      (subscriptionUpdateData subscription deleted).subscriptionCurrentPeriodEnd
    subscriptionCancelAtPeriodEnd :=
      (subscriptionUpdateData subscription deleted).subscriptionCancelAtPeriodEnd
    lastStripeEvent := checkpoint }
  change := RestaurantBilling.snapshot (subscriptionUpdateData subscription deleted) checkpoint
  keeps _ := rfl

/-- What a checkout orders: interval, status and price. -/
def checkoutInterval : BillingInterval :=
  (session.metadata.billing.bind billingInterval?).getD .monthly

def checkoutStatus : SubscriptionStatus :=
  if session.metadata.trial = some "true" then .trialing else .active

variable [BillingConfig]

def checkoutPrice (plan : PublicBillingPlan) : Option String :=
  BillingConfig.resolvePriceId plan (checkoutInterval session)

def checkoutWrite (plan : PublicBillingPlan) (checkpoint : Checkpoint) : Write where
  data := {
    stripeCustomerId := session.customer
    stripeSubscriptionId := session.subscription
    subscriptionStatus := checkoutStatus session
    subscriptionPriceId := checkoutPrice session plan
    subscriptionBillingInterval := some (checkoutInterval session)
    plan := some (PLAN_TO_DATABASE plan)
    entitledSiteCount := metadataSiteCount session.metadata
    subscriptionCurrentPeriodEnd := none
    subscriptionCancelAtPeriodEnd := false
    lastStripeEvent := checkpoint }
  change := RestaurantBilling.checkedOut session.customer session.subscription
    (checkoutStatus session) (checkoutPrice session plan) (checkoutInterval session) checkpoint
  keeps _ := rfl

def invoicePlan (kind : InvoiceEvent) (invoice : InvoiceObject)
    (billing : Option RestaurantBilling) : Option Plan :=
  if kind ≠ .payment_failed then
    ((invoice.metadata.plan.bind publicPlan?).or
      ((invoiceData kind invoice billing).priceId.bind getPublicPlanFromPriceId)).map
        PLAN_TO_DATABASE
  else none

def invoiceSites (invoice : InvoiceObject) (account : Option RestaurantAccountBilling) : Nat :=
  ((metadataSiteCountOrUndefined invoice.metadata).or
    (account.map RestaurantAccountBilling.entitledSiteCount)).getD 1

def invoiceWrite (kind : InvoiceEvent) (invoice : InvoiceObject)
    (billing : Option RestaurantBilling) (account : Option RestaurantAccountBilling)
    (checkpoint : Checkpoint) : Write where
  data := {
    stripeCustomerId := (invoiceData kind invoice billing).customerId
    stripeSubscriptionId := (invoiceData kind invoice billing).subscriptionId
    subscriptionStatus := (invoiceData kind invoice billing).status
    subscriptionPriceId := (invoiceData kind invoice billing).priceId
    subscriptionBillingInterval := (invoiceData kind invoice billing).interval
    plan := invoicePlan kind invoice billing
    entitledSiteCount := invoiceSites invoice account
    subscriptionCurrentPeriodEnd := (invoiceData kind invoice billing).periodEnd
    subscriptionCancelAtPeriodEnd := (invoiceData kind invoice billing).cancelAtPeriodEnd
    lastStripeEvent := checkpoint }
  change := RestaurantBilling.invoiced (invoiceData kind invoice billing) checkpoint
  keeps _ := rfl

/-- The restaurant a completed checkout names. -/
def checkoutRestaurant : Option Id :=
  (session.metadata.restaurantId.or session.client_reference_id).filter fun id => id ≠ ""

/-- The restaurant an event concerns; none where a handler ignores it. -/
def eventRestaurant : Option Id :=
  match event.data with
  | .checkoutCompleted session =>
    if session.mode = .subscription ∧ (session.metadata.plan.bind publicPlan?).isSome then
      checkoutRestaurant session
    else none
  | .subscription kind subscription =>
    if kind = .trial_will_end then none else subscriptionRestaurant subscription db
  | .invoice _ invoice => (findBillingForInvoice invoice db).map Prod.snd

def eventAnchor : Option Id :=
  (eventRestaurant db event).map (billingAnchorId db)

/-- The subscription that an event is about; an invoice without one concerns that of its row. -/
def eventSubscription : Option String :=
  match event.data with
  | .checkoutCompleted session => session.subscription
  | .subscription _ subscription => some subscription.id
  | .invoice kind invoice => (invoiceData kind invoice (billingForInvoice invoice db)).subscriptionId

/-- The write an event plans on its anchor: the snapshot of a subscription, or what a newer
checkout or invoice says. -/
inductive EventWrite (live : Live) (event : StripeEvent) (db : Database) (anchor : Id) :
    Write → Prop where
  | snapshot {kind : SubscriptionEvent} {subscription : SubscriptionObject}
      (about : event.data = .subscription kind subscription)
      (newer : compareStripeEvent db anchor event = .newer) :
      EventWrite live event db anchor (snapshotWrite subscription
        (kind = .deleted ∨ subscription.status = .canceled) (eventCheckpoint event))
  | retrieved {subscriptionId : String} {current : SubscriptionObject} {deleted : Bool}
      (tie : compareStripeEvent db anchor event = .tie)
      (about : eventSubscription db event = some subscriptionId)
      (answer : live subscriptionId = .ok current) :
      EventWrite live event db anchor (snapshotWrite current deleted (eventCheckpoint event))
  | checkout {session : CheckoutSession} {plan : PublicBillingPlan}
      (about : event.data = .checkoutCompleted session)
      (ordered : session.metadata.plan.bind publicPlan? = some plan)
      (newer : compareStripeEvent db anchor event = .newer) :
      EventWrite live event db anchor (checkoutWrite session plan (eventCheckpoint event))
  | invoice {kind : InvoiceEvent} {invoice : InvoiceObject}
      (about : event.data = .invoice kind invoice)
      (fresh : compareStripeEvent db anchor event = .newer ∨
        compareStripeEvent db anchor event = .tie ∧ eventSubscription db event = none) :
      EventWrite live event db anchor (invoiceWrite kind invoice (billingForInvoice invoice db)
        ((db.accountOf anchor).bind db.account) (eventCheckpoint event))

/-- An event that concerns no restaurant, or that is older than the checkpoint. -/
def Passed : Prop :=
  ∀ anchor, eventAnchor db event = some anchor → compareStripeEvent db anchor event = .stale

variable {live : Live} {event : StripeEvent} {db after : Database} {handled : Bool}

/-- The outcome of an event: it is passed over, or its write is projected onto its anchor. -/
inductive Outcome (live : Live) (event : StripeEvent) (db : Database) : Database → Prop where
  | passed (passed : Passed db event) : Outcome live event db db
  | wrote {anchor : Id} {write : Write} {after : Database}
      (concerns : eventAnchor db event = some anchor)
      (planned : EventWrite live event db anchor write)
      (projected : Projected db after anchor write) : Outcome live event db after

theorem handleCheckoutCompleted_outcome {session : CheckoutSession}
    (about : event.data = .checkoutCompleted session)
    (ok : handleCheckoutCompleted live event session db = .ok (handled, after)) :
    Outcome live event db after := by
  have restaurant : eventRestaurant db event =
      if session.mode = .subscription ∧ (session.metadata.plan.bind publicPlan?).isSome then
        checkoutRestaurant session else none := by
    rw [eventRestaurant, about]
  unfold handleCheckoutCompleted at ok
  split at ok
  next other =>
    cases ok
    refine .passed fun anchor concerns => ?_
    rw [eventAnchor, restaurant, if_neg fun both => other both.1] at concerns
    cases concerns
  next mode =>
    split at ok
    next eventRestaurantId plan named ordered =>
      split at ok
      next blank =>
        cases ok
        refine .passed fun anchor concerns => ?_
        rw [eventAnchor, restaurant, checkoutRestaurant, named, blank] at concerns
        simp at concerns
      next present =>
        have concerns : eventAnchor db event = some (billingAnchorId db eventRestaurantId) := by
          rw [eventAnchor, restaurant, checkoutRestaurant, named, ordered]
          simp [not_not.mp mode, present]
        cases order : compareStripeEvent db (billingAnchorId db eventRestaurantId) event with
        | stale =>
          simp only [order] at ok
          cases ok
          refine .passed fun anchor other => ?_
          rw [concerns] at other
          cases other
          exact order
        | tie =>
          simp only [order] at ok
          split at ok
          · cases ok
          next subscriptionId subscribed =>
            obtain ⟨current, answer, ok⟩ := ok_of_bind ok
            obtain ⟨written, projects, ok⟩ := ok_of_bind ok
            cases ok
            have about : eventSubscription db event = some subscriptionId := by
              rw [eventSubscription, about]
              exact subscribed
            exact .wrote concerns (.retrieved order about answer) (project_ok projects)
        | newer =>
          simp only [order] at ok
          obtain ⟨written, projects, ok⟩ := ok_of_bind ok
          cases ok
          exact .wrote concerns (.checkout about ordered order) (project_ok projects)
    next incomplete =>
      cases ok
      refine .passed fun anchor concerns => ?_
      rw [eventAnchor, restaurant, checkoutRestaurant] at concerns
      split at concerns
      next both =>
        obtain ⟨plan, ordered⟩ := Option.isSome_iff_exists.mp both.2
        cases named : session.metadata.restaurantId.or session.client_reference_id with
        | none => simp [named] at concerns
        | some eventRestaurantId => exact absurd ordered (incomplete _ _ named)
      next => cases concerns

theorem handleSubscriptionEvent_outcome {kind : SubscriptionEvent}
    {subscription : SubscriptionObject} (about : event.data = .subscription kind subscription)
    (ok : handleSubscriptionEvent live event kind subscription db = .ok (handled, after)) :
    Outcome live event db after := by
  have restaurant : eventRestaurant db event =
      if kind = .trial_will_end then none else subscriptionRestaurant subscription db := by
    rw [eventRestaurant, about]
  unfold handleSubscriptionEvent at ok
  split at ok
  next unnamed =>
    cases ok
    refine .passed fun anchor concerns => ?_
    rw [eventAnchor, restaurant, unnamed, ite_self] at concerns
    cases concerns
  next named found =>
    split at ok
    next reminder =>
      cases ok
      refine .passed fun anchor concerns => ?_
      rw [eventAnchor, restaurant, if_pos reminder] at concerns
      cases concerns
    next change =>
      have concerns : eventAnchor db event = some (billingAnchorId db named) := by
        rw [eventAnchor, restaurant, if_neg change, found]
        rfl
      cases order : compareStripeEvent db (billingAnchorId db named) event with
      | stale =>
        simp only [order] at ok
        cases ok
        refine .passed fun anchor other => ?_
        rw [concerns] at other
        cases other
        exact order
      | tie =>
        simp only [order, if_true] at ok
        obtain ⟨current, answer, ok⟩ := ok_of_bind ok
        obtain ⟨written, projects, ok⟩ := ok_of_bind ok
        cases ok
        have about : eventSubscription db event = some subscription.id := by
          rw [eventSubscription, about]
        exact .wrote concerns (.retrieved order about answer) (project_ok projects)
      | newer =>
        simp only [order, reduceCtorEq, if_false] at ok
        obtain ⟨current, same, ok⟩ := ok_of_bind ok
        cases same
        obtain ⟨written, projects, ok⟩ := ok_of_bind ok
        cases ok
        exact .wrote concerns (.snapshot about order) (project_ok projects)

omit [BillingConfig] in
theorem findBillingForInvoice_some {invoice : InvoiceObject} {billing : Option RestaurantBilling}
    {named : Id} (found : findBillingForInvoice invoice db = some (billing, named)) :
    billing = billingForInvoice invoice db := by
  rw [findBillingForInvoice] at found
  split at found
  · cases found
  · split at found
    · cases found
    · exact (Prod.ext_iff.mp (Option.some.inj found)).1.symm

theorem handleInvoiceEvent_outcome {kind : InvoiceEvent} {invoice : InvoiceObject}
    (about : event.data = .invoice kind invoice)
    (ok : handleInvoiceEvent live event kind invoice db = .ok (handled, after)) :
    Outcome live event db after := by
  have restaurant : eventRestaurant db event = (findBillingForInvoice invoice db).map Prod.snd := by
    rw [eventRestaurant, about]
  unfold handleInvoiceEvent at ok
  split at ok
  next unfound =>
    cases ok
    refine .passed fun anchor concerns => ?_
    rw [eventAnchor, restaurant, unfound] at concerns
    cases concerns
  next billing named found =>
    cases findBillingForInvoice_some found
    have subscribed : eventSubscription db event =
        (invoiceData kind invoice (billingForInvoice invoice db)).subscriptionId := by
      rw [eventSubscription, about]
    have concerns : eventAnchor db event = some (billingAnchorId db named) := by
      rw [eventAnchor, restaurant, found]
      rfl
    simp only at ok
    split at ok
    next stale =>
      cases ok
      refine .passed fun anchor other => ?_
      rw [concerns] at other
      cases other
      exact stale
    next subscriptionId tie subscription =>
      obtain ⟨current, answer, ok⟩ := ok_of_bind ok
      obtain ⟨written, projects, ok⟩ := ok_of_bind ok
      cases ok
      exact .wrote concerns (.retrieved tie (subscribed.trans subscription) answer)
        (project_ok projects)
    next present untied =>
      obtain ⟨written, projects, ok⟩ := ok_of_bind ok
      cases ok
      have fresh : compareStripeEvent db (billingAnchorId db named) event = .newer ∨
          compareStripeEvent db (billingAnchorId db named) event = .tie ∧
            eventSubscription db event = none := by
        cases order : compareStripeEvent db (billingAnchorId db named) event with
        | stale => exact absurd order present
        | newer => exact .inl rfl
        | tie =>
          cases subscription : eventSubscription db event with
          | none => exact .inr ⟨rfl, rfl⟩
          | some subscriptionId => exact absurd (subscribed ▸ subscription) (untied _ order)
      exact .wrote concerns (.invoice about fresh) (project_ok projects)

theorem handleEvent_outcome (ok : handleEvent live event db = .ok (handled, after)) :
    Outcome live event db after := by
  unfold handleEvent at ok
  split at ok
  next session about => exact handleCheckoutCompleted_outcome about ok
  next kind subscription about => exact handleSubscriptionEvent_outcome about ok
  next kind invoice about => exact handleInvoiceEvent_outcome about ok

end

end Sokar.Billing
