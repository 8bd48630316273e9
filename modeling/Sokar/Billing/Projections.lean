import Sokar.Library.KeyedRows
import Sokar.Shared.Inputs

/-!
# Projections of a subscription

The webhooks of the payment provider project a subscription onto two rows: the billing row of the
restaurant that anchors an account, and the billing row of the account.  Seconds of the provider
become instants in milliseconds.
-/

namespace Sokar.Billing

inductive Plan where
  | ESSENTIAL | STARTER | PRO | PREMIUM
  deriving DecidableEq

inductive PublicBillingPlan where
  | essential | pro | multiSite
  deriving DecidableEq

def PublicBillingPlan.name : PublicBillingPlan → String
  | .essential => "essential"
  | .pro => "pro"
  | .multiSite => "multi-site"

def PUBLIC_BILLING_PLANS : List PublicBillingPlan :=
  [.essential, .pro, .multiSite]

inductive BillingInterval where
  | monthly | annual
  deriving DecidableEq

def BillingInterval.name : BillingInterval → String
  | .monthly => "monthly"
  | .annual => "annual"

def BILLING_INTERVALS : List BillingInterval :=
  [.monthly, .annual]

def PLAN_TO_DATABASE : PublicBillingPlan → Plan
  | .essential => .STARTER
  | .pro => .PRO
  | .multiSite => .PREMIUM

def publicPlan? (value : String) : Option PublicBillingPlan :=
  PUBLIC_BILLING_PLANS.find? fun plan => plan.name == value

def billingInterval? (value : String) : Option BillingInterval :=
  BILLING_INTERVALS.find? fun interval => interval.name == value

inductive SubscriptionStatus where
  | incomplete | incomplete_expired | trialing | active | past_due | canceled | unpaid | paused
  deriving DecidableEq

/-- The prices of the environment, and how the runtime reads a number. -/
class BillingConfig where
  resolvePriceId : PublicBillingPlan → BillingInterval → Option String
  /-- `Number(text)`; none where that is not a number. -/
  number : String → Option ℚ

variable (db : Database)

variable (restaurantId : Id)

section

structure Restaurant where
  id : Id
  accountId : Option Id
  isPrimary : Bool
  archived : Bool
  plan : Plan
  deriving DecidableEq

/-- The last event that a row has taken. -/
structure Checkpoint where
  created : Int
  eventId : String
  deriving DecidableEq

/-- A checkout or a trial that has been started and not been confirmed. -/
structure CheckoutAttempt where
  idempotencyKey : String
  sessionId : Option String
  sessionUrl : Option String
  plan : PublicBillingPlan
  interval : BillingInterval
  siteCount : Nat
  createdAt : Instant
  deriving DecidableEq

structure RestaurantBilling where
  restaurantId : Id
  stripeCustomerId : Option String := none
  stripeSubscriptionId : Option String := none
  subscriptionStatus : Option SubscriptionStatus := none
  subscriptionPriceId : Option String := none
  subscriptionBillingInterval : Option BillingInterval := none
  subscriptionCurrentPeriodEnd : Option Instant := none
  subscriptionCancelAtPeriodEnd : Bool := false
  checkout : Option CheckoutAttempt := none
  lastStripeEvent : Option Checkpoint := none
  deriving DecidableEq

structure RestaurantAccountBilling where
  accountId : Id
  stripeCustomerId : Option String := none
  stripeSubscriptionId : Option String := none
  subscriptionStatus : Option SubscriptionStatus := none
  subscriptionPriceId : Option String := none
  subscriptionBillingInterval : Option BillingInterval := none
  entitledSiteCount : Nat := 1
  entitlementSource : Option String := none
  subscriptionCurrentPeriodEnd : Option Instant := none
  subscriptionCancelAtPeriodEnd : Bool := false
  lastStripeEvent : Option Checkpoint := none
  deriving DecidableEq

structure Database where
  restaurants : List Restaurant
  restaurantBilling : List RestaurantBilling
  accountBilling : List RestaurantAccountBilling
  processed : List String
  deriving DecidableEq

def Database.billing : Option RestaurantBilling :=
  KeyedRows.lookup RestaurantBilling.restaurantId db.restaurantBilling restaurantId

def Database.account (accountId : Id) : Option RestaurantAccountBilling :=
  KeyedRows.lookup RestaurantAccountBilling.accountId db.accountBilling accountId

def Database.accountOf : Option Id :=
  (KeyedRows.lookup Restaurant.id db.restaurants restaurantId).bind Restaurant.accountId

def Database.billingBy (column : RestaurantBilling → Option String) (value : String) :
    Option RestaurantBilling :=
  db.restaurantBilling.find? fun row => column row == some value

def billingAnchorId : Id :=
  match db.accountOf restaurantId with
  | none => restaurantId
  | some accountId =>
    ((db.restaurants.find? fun restaurant =>
      restaurant.accountId == some accountId && restaurant.isPrimary &&
        !restaurant.archived).map Restaurant.id).getD restaurantId

end

section

structure BillingMetadata where
  restaurantId : Option String := none
  plan : Option String := none
  billing : Option String := none
  siteCount : Option String := none
  trial : Option String := none

structure Price where
  id : String
  /-- `recurring.interval`. -/
  interval : Option String

structure SubscriptionItem where
  price : Option Price
  current_period_end : Option Int

structure SubscriptionObject where
  id : String
  customer : Option String
  status : SubscriptionStatus
  trial_end : Option Int
  current_period_end : Option Int
  cancel_at_period_end : Bool
  items : List SubscriptionItem
  «metadata» : BillingMetadata

inductive SessionMode where
  | payment | setup | subscription
  deriving DecidableEq

structure CheckoutSession where
  mode : SessionMode
  client_reference_id : Option String
  customer : Option String
  subscription : Option String
  «metadata» : BillingMetadata

structure InvoiceLine where
  price : Option Price
  periodEnd : Option Int

structure InvoiceObject where
  subscription : Option String
  customer : Option String
  billing_reason : Option String
  amount_paid : Int
  period_end : Option Int
  lines : List InvoiceLine
  «metadata» : BillingMetadata

inductive InvoiceEvent where
  | paid | payment_failed | payment_succeeded
  deriving DecidableEq

inductive SubscriptionEvent where
  | created | updated | deleted | trial_will_end
  deriving DecidableEq

/-- The supported events, with the objects they carry. -/
inductive EventData where
  | checkoutCompleted (session : CheckoutSession)
  | subscription (kind : SubscriptionEvent) (subscription : SubscriptionObject)
  | invoice (kind : InvoiceEvent) (invoice : InvoiceObject)

structure StripeEvent where
  id : String
  created : Int
  data : EventData

def eventCheckpoint (event : StripeEvent) : Checkpoint :=
  ⟨event.created, event.id⟩

inductive BillingError where
  | BillingCheckoutError
  /-- The row that an update names is not there. -/
  | RecordNotFound
  | UniqueViolation
  | StripeError
  deriving DecidableEq

abbrev Handled (α : Type) := Except BillingError α

end

variable (invoice : InvoiceObject)

variable (subscription : SubscriptionObject)

section

def stripeDate (seconds : Int) : Instant :=
  seconds * 1000

def billingIntervalFromStripePrice (price : Option Price) : Option BillingInterval :=
  match price.bind Price.interval with
  | some "month" => some .monthly
  | some "year" => some .annual
  | _ => none

/-- The first item of a subscription has the price. -/
def SubscriptionObject.price (subscription : SubscriptionObject) : Option Price :=
  subscription.items.head?.bind SubscriptionItem.price

def subscriptionPeriodEnd : Option Instant :=
  let seconds := ((subscription.current_period_end).or
    (subscription.items.head?.bind SubscriptionItem.current_period_end)).or
      (if subscription.status = .trialing then subscription.trial_end else none)
  (seconds.filter fun seconds => 0 < seconds).map stripeDate

def invoicePrice : Option Price :=
  invoice.lines.head?.bind InvoiceLine.price

def invoicePeriodEnd : Option Instant :=
  let ends := (invoice.lines.filterMap InvoiceLine.periodEnd).filter fun seconds => 0 < seconds
  let seconds := (ends.max?).or invoice.period_end
  (seconds.filter fun seconds => 0 < seconds).map stripeDate

variable [BillingConfig]

/-- The plan a price belongs to, monthly or annual. -/
def getPublicPlanFromPriceId (priceId : String) : Option PublicBillingPlan :=
  PUBLIC_BILLING_PLANS.find? fun plan =>
    BILLING_INTERVALS.any fun interval => BillingConfig.resolvePriceId plan interval == some priceId

/-- A whole number of sites from one to a hundred. -/
def metadataSiteCountOrUndefined (metadata : BillingMetadata) : Option Nat :=
  (metadata.siteCount.bind BillingConfig.number).bind fun parsed =>
    if parsed.den = 1 ∧ 1 ≤ parsed ∧ parsed ≤ 100 then some parsed.num.toNat else none

def metadataSiteCount (metadata : BillingMetadata) : Nat :=
  (metadataSiteCountOrUndefined metadata).getD 1

end

variable (restaurantId : Id)

section

/-- What the handlers project onto the account row; missing values are left alone, except for the
period end, which becomes null. -/
structure AccountData where
  stripeCustomerId : Option String
  stripeSubscriptionId : Option String
  subscriptionStatus : SubscriptionStatus
  subscriptionPriceId : Option String
  subscriptionBillingInterval : Option BillingInterval
  plan : Option Plan
  entitledSiteCount : Nat
  subscriptionCurrentPeriodEnd : Option Instant
  subscriptionCancelAtPeriodEnd : Bool
  lastStripeEvent : Checkpoint

/-- A value that replaces a stored one unless it is missing: `value ?? undefined`. -/
def given {α : Type} (value stored : Option α) : Option α :=
  value.or stored

def RestaurantAccountBilling.projected (data : AccountData) (row : RestaurantAccountBilling) :
    RestaurantAccountBilling :=
  { row with
    stripeCustomerId := given data.stripeCustomerId row.stripeCustomerId
    stripeSubscriptionId := given data.stripeSubscriptionId row.stripeSubscriptionId
    subscriptionStatus := some data.subscriptionStatus
    subscriptionPriceId := given data.subscriptionPriceId row.subscriptionPriceId
    subscriptionBillingInterval :=
      given data.subscriptionBillingInterval row.subscriptionBillingInterval
    entitledSiteCount := data.entitledSiteCount
    entitlementSource := some "STRIPE"
    subscriptionCurrentPeriodEnd := data.subscriptionCurrentPeriodEnd
    subscriptionCancelAtPeriodEnd := data.subscriptionCancelAtPeriodEnd
    lastStripeEvent := some data.lastStripeEvent }

def setPlan (selected : Restaurant → Bool) (plan : Option Plan) (db : Database) : Database :=
  { db with restaurants :=
      match plan with
      | none => db.restaurants
      | some plan =>
        KeyedRows.update selected (fun restaurant => { restaurant with plan }) db.restaurants }

/-- `restaurant.update`, which fails where the restaurant is missing. -/
def updatePlan (plan : Option Plan) (db : Database) : Handled Database :=
  if plan.isNone || db.restaurants.any fun restaurant => restaurant.id == restaurantId then
    .ok (setPlan (fun restaurant => restaurant.id == restaurantId) plan db)
  else .error .RecordNotFound

/-- The unique columns of a table hold each value once. -/
def uniqueOr {Row : Type} (columns : List (Row → Option String)) (rows : List Row) :
    Handled (List Row) :=
  if columns.all fun column => (rows.filterMap column).Nodup then .ok rows
  else .error .UniqueViolation

def projectAccountBilling (data : AccountData) (db : Database) : Handled Database :=
  match db.accountOf restaurantId with
  | none => .ok db
  | some accountId => do
      let db := setPlan (fun restaurant => restaurant.accountId == some accountId) data.plan db
      let rows := KeyedRows.upsert RestaurantAccountBilling.accountId accountId
        (RestaurantAccountBilling.projected data { accountId })
        (RestaurantAccountBilling.projected data) db.accountBilling
      let accountBilling ← uniqueOr [RestaurantAccountBilling.stripeCustomerId,
        RestaurantAccountBilling.stripeSubscriptionId] rows
      return { db with accountBilling }

/-- `restaurantBilling.upsert`: the row is created with the values of the change. -/
def upsertBilling (create : RestaurantBilling) (change : RestaurantBilling → RestaurantBilling)
    (db : Database) : Handled Database := do
  let rows := KeyedRows.upsert RestaurantBilling.restaurantId restaurantId create change
    db.restaurantBilling
  let restaurantBilling ← uniqueOr [RestaurantBilling.stripeCustomerId,
    RestaurantBilling.stripeSubscriptionId] rows
  return { db with restaurantBilling }

end

inductive StripeEventOrder where
  | stale | tie | newer
  deriving DecidableEq

def lastCreated (restaurantId : Id) : Option Int :=
  let current := (db.billing restaurantId).bind RestaurantBilling.lastStripeEvent
  let account := ((db.accountOf restaurantId).bind db.account).bind
    RestaurantAccountBilling.lastStripeEvent
  ([current, account].filterMap fun checkpoint => checkpoint.map Checkpoint.created).max?

def compareStripeEvent (restaurantId : Id) (event : StripeEvent) : StripeEventOrder :=
  match lastCreated db restaurantId with
  | none => .newer
  | some last =>
    if event.created < last then .stale else if event.created = last then .tie else .newer

variable (live : Live)

section

variable [BillingConfig]

/-- What a snapshot of a subscription says, without its site count and plan. -/
structure SubscriptionData where
  stripeCustomerId : Option String
  stripeSubscriptionId : String
  subscriptionStatus : SubscriptionStatus
  subscriptionPriceId : Option String
  subscriptionBillingInterval : Option BillingInterval
  subscriptionCurrentPeriodEnd : Option Instant
  subscriptionCancelAtPeriodEnd : Bool

omit [BillingConfig] in
def subscriptionUpdateData (deleted : Bool) : SubscriptionData where
  stripeCustomerId := subscription.customer
  stripeSubscriptionId := subscription.id
  subscriptionStatus := if deleted then .canceled else subscription.status
  subscriptionPriceId := subscription.price.map Price.id
  subscriptionBillingInterval := billingIntervalFromStripePrice subscription.price
  subscriptionCurrentPeriodEnd := subscriptionPeriodEnd subscription
  subscriptionCancelAtPeriodEnd := if deleted then false else subscription.cancel_at_period_end

def RestaurantBilling.snapshot (data : SubscriptionData) (checkpoint : Checkpoint)
    (row : RestaurantBilling) : RestaurantBilling :=
  { row with
    stripeCustomerId := data.stripeCustomerId
    stripeSubscriptionId := some data.stripeSubscriptionId
    subscriptionStatus := some data.subscriptionStatus
    subscriptionPriceId := given data.subscriptionPriceId row.subscriptionPriceId
    subscriptionBillingInterval :=
      given data.subscriptionBillingInterval row.subscriptionBillingInterval
    subscriptionCurrentPeriodEnd := data.subscriptionCurrentPeriodEnd
    subscriptionCancelAtPeriodEnd := data.subscriptionCancelAtPeriodEnd
    checkout := none
    lastStripeEvent := some checkpoint }

/-- The plan of a subscription: that of its price, else that of its metadata. -/
def subscriptionPlan : Option PublicBillingPlan :=
  ((subscription.price.map Price.id).bind getPublicPlanFromPriceId).or
    (subscription.metadata.plan.bind publicPlan?)

def applySubscriptionSnapshot (subscription : SubscriptionObject) (deleted : Bool)
    (checkpoint : Checkpoint) (db : Database) : Handled Database := do
  let plan := (subscriptionPlan subscription).map fun plan =>
    if deleted then .STARTER else PLAN_TO_DATABASE plan
  let billingData := subscriptionUpdateData subscription deleted
  let siteCount := if deleted then 1 else metadataSiteCount subscription.metadata
  let db ← updatePlan restaurantId plan db
  let db ← projectAccountBilling restaurantId {
      stripeCustomerId := billingData.stripeCustomerId
      stripeSubscriptionId := some billingData.stripeSubscriptionId
      subscriptionStatus := billingData.subscriptionStatus
      subscriptionPriceId := billingData.subscriptionPriceId
      subscriptionBillingInterval := billingData.subscriptionBillingInterval
      plan
      entitledSiteCount := siteCount
      subscriptionCurrentPeriodEnd := billingData.subscriptionCurrentPeriodEnd
      subscriptionCancelAtPeriodEnd := billingData.subscriptionCancelAtPeriodEnd
      lastStripeEvent := checkpoint } db
  upsertBilling restaurantId (RestaurantBilling.snapshot billingData checkpoint { restaurantId })
    (RestaurantBilling.snapshot billingData checkpoint) db

/-- `subscriptions.retrieve` as the provider answers it. -/
abbrev Live := String → Handled SubscriptionObject

/-- The billing row after a completed checkout. -/
def RestaurantBilling.checkedOut (customerId subscriptionId : Option String)
    (status : SubscriptionStatus) (priceId : Option String) (interval : BillingInterval)
    (checkpoint : Checkpoint) (row : RestaurantBilling) : RestaurantBilling :=
  { row with
    stripeCustomerId := given customerId row.stripeCustomerId
    stripeSubscriptionId := given subscriptionId row.stripeSubscriptionId
    subscriptionStatus := some status
    subscriptionPriceId := priceId
    subscriptionBillingInterval := some interval
    checkout := none
    lastStripeEvent := some checkpoint }

/-- The branch of a checkout that is newer than the checkpoint. -/
def projectCheckout (session : CheckoutSession) (plan : PublicBillingPlan) (checkpoint : Checkpoint)
    (db : Database) : Handled Database := do
  let billingInterval := (session.metadata.billing.bind billingInterval?).getD .monthly
  let status : SubscriptionStatus :=
    if session.metadata.trial = some "true" then .trialing else .active
  let priceId := BillingConfig.resolvePriceId plan billingInterval
  let db ← updatePlan restaurantId (some (PLAN_TO_DATABASE plan)) db
  let db ← projectAccountBilling restaurantId {
      stripeCustomerId := session.customer
      stripeSubscriptionId := session.subscription
      subscriptionStatus := status
      subscriptionPriceId := priceId
      subscriptionBillingInterval := some billingInterval
      plan := some (PLAN_TO_DATABASE plan)
      entitledSiteCount := metadataSiteCount session.metadata
      subscriptionCurrentPeriodEnd := none
      subscriptionCancelAtPeriodEnd := false
      lastStripeEvent := checkpoint } db
  let checkedOut := RestaurantBilling.checkedOut session.customer session.subscription status
    priceId billingInterval checkpoint
  upsertBilling restaurantId (checkedOut { restaurantId }) checkedOut db

/-- The result of a handler: whether the event concerned billing, and the database it leaves. -/
abbrev Result := Bool × Database

variable (event : StripeEvent)

def handleCheckoutCompleted (session : CheckoutSession) (db : Database) : Handled Result :=
  if session.mode ≠ .subscription then .ok (false, db)
  else
    match session.metadata.restaurantId.or session.client_reference_id,
      session.metadata.plan.bind publicPlan? with
    | some eventRestaurantId, some plan =>
      if eventRestaurantId = "" then .ok (false, db)
      else
        let restaurantId := billingAnchorId db eventRestaurantId
        match compareStripeEvent db restaurantId event with
        | .stale => .ok (true, db)
        | .tie =>
          match session.subscription with
          | none => .error .BillingCheckoutError
          | some subscriptionId => do
              let current ← live subscriptionId
              let db ← applySubscriptionSnapshot restaurantId current
                (current.status = .canceled) (eventCheckpoint event) db
              return (true, db)
        | .newer => do
            let db ← projectCheckout restaurantId session plan (eventCheckpoint event) db
            return (true, db)
    | _, _ => .ok (false, db)

/-- The restaurant a subscription names, else the one whose row has it. -/
def subscriptionRestaurant (db : Database) : Option Id :=
  match subscription.metadata.restaurantId with
  | some restaurantId =>
    if restaurantId = "" then
      (db.billingBy RestaurantBilling.stripeSubscriptionId subscription.id).map
        RestaurantBilling.restaurantId
    else some restaurantId
  | none =>
    (db.billingBy RestaurantBilling.stripeSubscriptionId subscription.id).map
      RestaurantBilling.restaurantId

def handleSubscriptionEvent (kind : SubscriptionEvent) (subscription : SubscriptionObject)
    (db : Database) : Handled Result :=
  match subscriptionRestaurant subscription db with
  | none => .ok (false, db)
  | some named =>
    let restaurantId := billingAnchorId db named
    -- the trial reminder only schedules an e-mail
    if kind = .trial_will_end then .ok (true, db)
    else do
      match compareStripeEvent db restaurantId event with
      | .stale => return (true, db)
      | order =>
        let current ← if order = .tie then live subscription.id else pure subscription
        let deleted := kind = .deleted ∨ current.status = .canceled
        let db ← applySubscriptionSnapshot restaurantId current deleted
          (eventCheckpoint event) db
        return (true, db)

/-- The row of an invoice, by its subscription and else by its customer. -/
def billingForInvoice (db : Database) : Option RestaurantBilling :=
  (invoice.subscription.bind (db.billingBy RestaurantBilling.stripeSubscriptionId)).or
    (invoice.customer.bind (db.billingBy RestaurantBilling.stripeCustomerId))

def findBillingForInvoice (db : Database) : Option (Option RestaurantBilling × Id) :=
  let billing := billingForInvoice invoice db
  match (billing.map RestaurantBilling.restaurantId).or invoice.metadata.restaurantId with
  | none => none
  | some restaurantId => if restaurantId = "" then none else some (billing, restaurantId)

/-- What an invoice says together with the row that was found for it. -/
structure InvoiceData where
  customerId : Option String
  subscriptionId : Option String
  priceId : Option String
  interval : Option BillingInterval
  status : SubscriptionStatus
  periodEnd : Option Instant
  cancelAtPeriodEnd : Bool

omit [BillingConfig] in
def invoiceData (kind : InvoiceEvent) (invoice : InvoiceObject)
    (billing : Option RestaurantBilling) : InvoiceData where
  customerId := invoice.customer.or (billing.bind RestaurantBilling.stripeCustomerId)
  subscriptionId := invoice.subscription.or (billing.bind RestaurantBilling.stripeSubscriptionId)
  priceId := ((invoicePrice invoice).map Price.id).or
    (billing.bind RestaurantBilling.subscriptionPriceId)
  interval := (billingIntervalFromStripePrice (invoicePrice invoice)).or
    (billing.bind RestaurantBilling.subscriptionBillingInterval)
  status :=
    -- a trial opens with a zero invoice marked paid
    if kind ≠ .payment_failed ∧ invoice.billing_reason = some "subscription_create" ∧
      invoice.amount_paid = 0 then .trialing
    else if kind ≠ .payment_failed then .active
    else .past_due
  periodEnd := (invoicePeriodEnd invoice).or
    (billing.bind RestaurantBilling.subscriptionCurrentPeriodEnd)
  cancelAtPeriodEnd := (billing.map RestaurantBilling.subscriptionCancelAtPeriodEnd).getD false

def RestaurantBilling.invoiced (data : InvoiceData) (checkpoint : Checkpoint)
    (row : RestaurantBilling) : RestaurantBilling :=
  { row with
    stripeCustomerId := given data.customerId row.stripeCustomerId
    stripeSubscriptionId := given data.subscriptionId row.stripeSubscriptionId
    subscriptionStatus := some data.status
    subscriptionPriceId := given data.priceId row.subscriptionPriceId
    subscriptionBillingInterval := given data.interval row.subscriptionBillingInterval
    subscriptionCurrentPeriodEnd := given data.periodEnd row.subscriptionCurrentPeriodEnd
    subscriptionCancelAtPeriodEnd := data.cancelAtPeriodEnd
    checkout := none
    lastStripeEvent := some checkpoint }

/-- The branch of an invoice that is newer than the checkpoint. -/
def projectInvoice (kind : InvoiceEvent) (invoice : InvoiceObject)
    (billing : Option RestaurantBilling) (checkpoint : Checkpoint) (db : Database) :
    Handled Database := do
  let data := invoiceData kind invoice billing
  let plan := (invoice.metadata.plan.bind publicPlan?).or
    (data.priceId.bind getPublicPlanFromPriceId)
  let account := (db.accountOf restaurantId).bind db.account
  let siteCount := ((metadataSiteCountOrUndefined invoice.metadata).or
    (account.map RestaurantAccountBilling.entitledSiteCount)).getD 1
  let entitled := if kind ≠ .payment_failed then plan.map PLAN_TO_DATABASE else none
  let db ← updatePlan restaurantId entitled db
  let db ← projectAccountBilling restaurantId {
      stripeCustomerId := data.customerId
      stripeSubscriptionId := data.subscriptionId
      subscriptionStatus := data.status
      subscriptionPriceId := data.priceId
      subscriptionBillingInterval := data.interval
      plan := entitled
      entitledSiteCount := siteCount
      subscriptionCurrentPeriodEnd := data.periodEnd
      subscriptionCancelAtPeriodEnd := data.cancelAtPeriodEnd
      lastStripeEvent := checkpoint } db
  upsertBilling restaurantId (RestaurantBilling.invoiced data checkpoint { restaurantId })
    (RestaurantBilling.invoiced data checkpoint) db

def handleInvoiceEvent (kind : InvoiceEvent) (invoice : InvoiceObject) (db : Database) :
    Handled Result :=
  match findBillingForInvoice invoice db with
  | none => .ok (false, db)
  | some (billing, named) =>
    let restaurantId := billingAnchorId db named
    let subscriptionId := (invoiceData kind invoice billing).subscriptionId
    match compareStripeEvent db restaurantId event, subscriptionId with
    | .stale, _ => .ok (true, db)
    | .tie, some subscriptionId => do
        let current ← live subscriptionId
        let db ← applySubscriptionSnapshot restaurantId current (current.status = .canceled)
          (eventCheckpoint event) db
        return (true, db)
    | _, _ => do
        let db ← projectInvoice restaurantId kind invoice billing (eventCheckpoint event) db
        return (true, db)

def handleEvent (db : Database) : Handled Result :=
  match event.data with
  | .checkoutCompleted session => handleCheckoutCompleted live event session db
  | .subscription kind subscription => handleSubscriptionEvent live event kind subscription db
  | .invoice kind invoice => handleInvoiceEvent live event kind invoice db

/-- A delivery that is handled to its end; an event that has been processed is acknowledged. -/
def handleBillingWebhook (db : Database) : Handled Result :=
  if event.id ∈ db.processed then .ok (true, db)
  else do
    let (handled, db) ← handleEvent live event db
    return (handled, { db with processed := db.processed ++ [event.id] })

end

end Sokar.Billing
