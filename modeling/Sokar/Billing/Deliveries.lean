import Sokar.Billing.ProjectionWrites

/-!
# Runs of webhook deliveries

The provider delivers events late, out of order and more than once.  A run lists the deliveries that
were handled to their end, each with the database before and after it.  An event of another account
leaves the projection of an account alone.
-/

namespace Sokar.Billing

/-- A delivery that has been handled, with what the provider answered while it was. -/
structure Delivered where
  live : Live
  event : StripeEvent
  before : Database
  after : Database

inductive Deliveries [BillingConfig] (start : Database) : List Delivered → Database → Prop where
  | start : Deliveries start [] start
  | next {history : List Delivered} {before after : Database} {live : Live} {event : StripeEvent}
      {handled : Bool} (run : Deliveries start history before)
      (ok : handleBillingWebhook live event before = .ok (handled, after)) :
      Deliveries start (history ++ [⟨live, event, before, after⟩]) after

section

variable [BillingConfig]

/-- The database after a delivery, unless its transaction is rolled back. -/
def delivered (live : Live) (event : StripeEvent) (db : Database) : Database :=
  match handleBillingWebhook live event db with
  | .ok (_, after) => after
  | .error _ => db

theorem Deliveries.deliver {start db : Database} {history : List Delivered}
    (run : Deliveries start history db) (live : Live) (event : StripeEvent)
    (handled : (handleBillingWebhook live event db).toBool = true) :
    Deliveries start (history ++ [⟨live, event, db, delivered live event db⟩])
      (delivered live event db) := by
  cases result : handleBillingWebhook live event db with
  | error failure =>
    rw [result] at handled
    cases handled
  | ok answer =>
    have after : delivered live event db = answer.2 := by
      rw [delivered, result]
    rw [after]
    exact run.next result

end

section

def primarySite (accountId : Id) (restaurant : Restaurant) : Bool :=
  restaurant.accountId == some accountId && restaurant.isPrimary && !restaurant.archived

/-- A restaurant is the primary site of its account, and restaurants have their ids alone. -/
structure Anchored (db : Database) (accountId anchorId : Id) : Prop where
  primary : (db.restaurants.find? (primarySite accountId)).map Restaurant.id = some anchorId
  unique : (db.restaurants.map Restaurant.id).Nodup

theorem billingAnchorId_eq (db : Database) (restaurantId : Id) : billingAnchorId db restaurantId =
      match db.accountOf restaurantId with
      | none => restaurantId
      | some accountId =>
        ((db.restaurants.find? (primarySite accountId)).map Restaurant.id).getD restaurantId :=
  rfl

section

variable {db : Database} (unique : (db.restaurants.map Restaurant.id).Nodup)
include unique

theorem accountOf_of_mem {restaurant : Restaurant} (isSite : restaurant ∈ db.restaurants) :
    db.accountOf restaurant.id = restaurant.accountId := by
  rw [Database.accountOf, KeyedRows.lookup_of_mem unique isSite]
  rfl

theorem accountOf_primary {accountId : Id} {restaurant : Restaurant}
    (found : db.restaurants.find? (primarySite accountId) = some restaurant) :
    db.accountOf restaurant.id = some accountId := by
  rw [accountOf_of_mem unique (List.mem_of_find?_eq_some found)]
  have isPrimary : primarySite accountId restaurant = true := List.find?_some found
  rw [primarySite, Bool.and_eq_true, Bool.and_eq_true] at isPrimary
  exact beq_iff_eq.mp isPrimary.1.1

theorem accountOf_billingAnchorId (restaurantId : Id) :
    db.accountOf (billingAnchorId db restaurantId) = db.accountOf restaurantId := by
  rw [billingAnchorId_eq]
  cases account : db.accountOf restaurantId with
  | none => exact account
  | some accountId =>
    cases found : db.restaurants.find? (primarySite accountId) with
    | none => simpa [found] using account
    | some restaurant => simpa [found] using accountOf_primary unique found

end

namespace Anchored

variable {db after : Database} {accountId anchorId : Id}

theorem account (anchored : Anchored db accountId anchorId) :
    db.accountOf anchorId = some accountId := by
  obtain ⟨restaurant, found, named⟩ := Option.map_eq_some_iff.mp anchored.primary
  rw [← named]
  exact accountOf_primary anchored.unique found

theorem anchorOf (anchored : Anchored db accountId anchorId) {restaurantId : Id}
    (member : db.accountOf restaurantId = some accountId) :
    billingAnchorId db restaurantId = anchorId := by
  simp [billingAnchorId_eq, member, anchored.primary]

theorem anchor_or_elsewhere (anchored : Anchored db accountId anchorId) {event : StripeEvent}
    {concerned : Id} (concerns : eventAnchor db event = some concerned) :
    concerned = anchorId ∨ db.accountOf concerned ≠ some accountId := by
  obtain ⟨restaurantId, _, anchor⟩ := Option.map_eq_some_iff.mp concerns
  by_cases member : db.accountOf restaurantId = some accountId
  · exact .inl (anchor.symm.trans (anchored.anchorOf member))
  · refine .inr ?_
    rw [← anchor, accountOf_billingAnchorId anchored.unique]
    exact member

theorem setPlan (anchored : Anchored db accountId anchorId) (selected : Restaurant → Bool)
    (plan : Option Plan) : Anchored (setPlan selected plan db) accountId anchorId := by
  cases plan with
  | none => exact anchored
  | some plan =>
    constructor
    · have same : (primarySite accountId ∘ fun restaurant : Restaurant =>
          if selected restaurant then { restaurant with plan } else restaurant) =
            primarySite accountId := by
        funext restaurant
        simp only [Function.comp_apply]
        split <;> rfl
      have sameId : (Restaurant.id ∘ fun restaurant : Restaurant =>
          if selected restaurant then { restaurant with plan } else restaurant) =
            Restaurant.id := by
        funext restaurant
        simp only [Function.comp_apply]
        split <;> rfl
      rw [Billing.setPlan, KeyedRows.update, List.find?_map, same, Option.map_map, sameId]
      exact anchored.primary
    · have sameIds : (KeyedRows.update selected (fun restaurant => { restaurant with plan })
          db.restaurants).map Restaurant.id = db.restaurants.map Restaurant.id :=
        KeyedRows.map_update Restaurant.id selected fun _ => rfl
      exact sameIds ▸ anchored.unique

theorem of_restaurants (anchored : Anchored db accountId anchorId)
    (same : after.restaurants = db.restaurants) : Anchored after accountId anchorId := by
  constructor
  · rw [same]
    exact anchored.primary
  · rw [same]
    exact anchored.unique

end Anchored

end

section

def sitePlans (db : Database) (accountId : Id) : List Plan :=
  (db.restaurants.filter fun restaurant => restaurant.accountId == some accountId).map
    Restaurant.plan

/-- All that the database keeps about the subscription of an account. -/
def projection (db : Database) (accountId anchorId : Id) :
    Option RestaurantAccountBilling × Option RestaurantBilling × List Plan :=
  (db.account accountId, db.billing anchorId, sitePlans db accountId)

/-- What a write makes of the projection of the account it is about. -/
structure Changed (db after : Database) (accountId anchorId : Id) (write : Write) : Prop where
  account : after.account accountId =
    some (RestaurantAccountBilling.projected write.data (db.accountRow accountId))
  billing : after.billing anchorId = some (write.change (db.billingRow anchorId))
  plans : sitePlans after accountId =
    (sitePlans db accountId).map fun plan => write.data.plan.getD plan

variable {db after : Database} {accountId anchorId : Id}

theorem sitePlans_setPlan (selected : Restaurant → Bool) (plan : Option Plan) (db : Database)
    (accountId : Id) {chosen : Bool}
    (whole : ∀ restaurant ∈ db.restaurants, restaurant.accountId = some accountId →
      selected restaurant = chosen) :
    sitePlans (setPlan selected plan db) accountId =
      if chosen then (sitePlans db accountId).map fun stored => plan.getD stored
      else sitePlans db accountId := by
  cases plan with
  | none => simp [setPlan, sitePlans]
  | some plan =>
    have sameSites : ((fun restaurant : Restaurant => restaurant.accountId == some accountId) ∘
        fun restaurant => if selected restaurant then { restaurant with plan } else restaurant) =
          fun restaurant => restaurant.accountId == some accountId := by
      funext restaurant
      simp only [Function.comp_apply]
      split <;> rfl
    have plans : sitePlans (setPlan selected (some plan) db) accountId =
        (sitePlans db accountId).map fun stored => if chosen then plan else stored := by
      simp only [sitePlans, setPlan, KeyedRows.update, List.filter_map, sameSites, List.map_map]
      apply List.map_congr_left
      intro restaurant isSite
      have member := List.mem_filter.mp isSite
      simp only [Function.comp_apply, whole restaurant member.1 (beq_iff_eq.mp member.2)]
      split <;> rfl
    rw [plans]
    cases chosen <;> simp

variable {write : Write}

theorem Projected.changed (anchored : Anchored db accountId anchorId)
    (projected : Projected db after anchorId write) :
    Changed db after accountId anchorId write := by
  constructor
  · rw [projected.account, anchored.account, if_pos rfl]
  · rw [projected.billing, if_pos rfl]
  · have whole : ∀ restaurant ∈ db.restaurants, restaurant.accountId = some accountId →
        plannedSites db anchorId restaurant = true := by
      intro restaurant _ member
      simp [plannedSites, member, anchored.account]
    rw [sitePlans, projected.restaurants]
    exact sitePlans_setPlan _ _ _ _ whole

theorem Projected.elsewhere (anchored : Anchored db accountId anchorId) {concerned : Id}
    (projected : Projected db after concerned write)
    (other : db.accountOf concerned ≠ some accountId) :
    projection after accountId anchorId = projection db accountId anchorId := by
  have apart : anchorId ≠ concerned := by
    rintro rfl
    exact other anchored.account
  have whole : ∀ restaurant ∈ db.restaurants, restaurant.accountId = some accountId →
      plannedSites db concerned restaurant = false := by
    intro restaurant isSite member
    have outside : restaurant.id ≠ concerned := by
      rintro rfl
      exact other (accountOf_of_mem anchored.unique isSite ▸ member)
    simp [plannedSites, member, outside, Ne.symm other]
  have plans : sitePlans after accountId = sitePlans db accountId := by
    rw [sitePlans, projected.restaurants]
    exact sitePlans_setPlan _ _ _ _ whole
  rw [projection, projection, projected.account, projected.billing, if_neg other, if_neg apart,
    plans]

theorem Projected.anchored (anchored : Anchored db accountId anchorId) {concerned : Id}
    (projected : Projected db after concerned write) :
    Anchored after accountId anchorId :=
  (anchored.setPlan _ _).of_restaurants projected.restaurants

variable [BillingConfig]

/-- A delivery that reaches the anchor: it has not been processed, it concerns the anchor, and it is
not older than the checkpoint. -/
def Reaches (db : Database) (anchorId : Id) (event : StripeEvent) : Prop :=
  event.id ∉ db.processed ∧ eventAnchor db event = some anchorId ∧
    compareStripeEvent db anchorId event ≠ .stale

variable {event : StripeEvent} {live : Live}

theorem EventWrite.not_stale (planned : EventWrite live event db anchorId write) :
    compareStripeEvent db anchorId event ≠ .stale := by
  cases planned with
  | snapshot _ newer => simp [newer]
  | retrieved tie => simp [tie]
  | checkout _ _ newer => simp [newer]
  | invoice _ fresh =>
    cases fresh with
    | inl newer => simp [newer]
    | inr tie => simp [tie.1]

/-- The deliveries that a run knows about an account: one that does not reach the anchor leaves the
projection as it was, any other makes its write. -/
inductive AccountStep (accountId anchorId : Id) (live : Live) (event : StripeEvent)
    (db after : Database) : Prop where
  | missed (missed : ¬Reaches db anchorId event)
      (same : projection after accountId anchorId = projection db accountId anchorId)
  | wrote {write : Write} (reaches : Reaches db anchorId event)
      (planned : EventWrite live event db anchorId write)
      (changed : Changed db after accountId anchorId write)

theorem handleBillingWebhook_cases {handled : Bool}
    (ok : handleBillingWebhook live event db = .ok (handled, after)) :
    event.id ∈ db.processed ∧ after = db ∨
    event.id ∉ db.processed ∧ ∃ middle, Outcome live event db middle ∧
      after = { middle with processed := middle.processed ++ [event.id] } := by
  unfold handleBillingWebhook at ok
  split at ok
  next processed =>
    cases ok
    exact .inl ⟨processed, rfl⟩
  next pending =>
    obtain ⟨⟨concerned, middle⟩, handles, ok⟩ := ok_of_bind ok
    cases ok
    exact .inr ⟨pending, middle, handleEvent_outcome handles, rfl⟩

theorem Outcome.anchored (anchored : Anchored db accountId anchorId)
    (outcome : Outcome live event db after) :
    Anchored after accountId anchorId := by
  cases outcome with
  | passed => exact anchored
  | wrote _ _ projected => exact projected.anchored anchored

theorem Outcome.processed (outcome : Outcome live event db after) :
    after.processed = db.processed := by
  cases outcome with
  | passed => rfl
  | wrote _ _ projected => exact projected.processed

theorem handleBillingWebhook_anchored {handled : Bool} (anchored : Anchored db accountId anchorId)
    (ok : handleBillingWebhook live event db = .ok (handled, after)) :
    Anchored after accountId anchorId := by
  obtain ⟨_, rfl⟩ | ⟨_, middle, outcome, rfl⟩ := handleBillingWebhook_cases ok
  · exact anchored
  · exact (outcome.anchored anchored).of_restaurants rfl

theorem handleBillingWebhook_step {handled : Bool} (anchored : Anchored db accountId anchorId)
    (ok : handleBillingWebhook live event db = .ok (handled, after)) :
    AccountStep accountId anchorId live event db after := by
  obtain ⟨processed, rfl⟩ | ⟨pending, middle, outcome, rfl⟩ := handleBillingWebhook_cases ok
  · exact .missed (fun reaches => reaches.1 processed) rfl
  · cases outcome with
    | passed passed => exact .missed (fun reaches => reaches.2.2 (passed _ reaches.2.1)) rfl
    | wrote concerns planned projected =>
      cases anchored.anchor_or_elsewhere concerns with
      | inl atAnchor =>
        subst atAnchor
        have changed := projected.changed anchored
        exact .wrote ⟨pending, concerns, planned.not_stale⟩ planned
          ⟨changed.account, changed.billing, changed.plans⟩
      | inr elsewhere =>
        have same : projection middle accountId anchorId = projection db accountId anchorId :=
          projected.elsewhere anchored elsewhere
        refine .missed (fun reaches => ?_) same
        have atAnchor := Option.some.inj (concerns.symm.trans reaches.2.1)
        exact elsewhere (atAnchor ▸ anchored.account)

theorem Deliveries.anchored {start : Database} {history : List Delivered}
    (run : Deliveries start history db) (anchored : Anchored start accountId anchorId) :
    Anchored db accountId anchorId := by
  induction run with
  | start => exact anchored
  | next _ ok ih => exact handleBillingWebhook_anchored ih ok

end

section

@[reducible] def namedPrices : BillingConfig where
  resolvePriceId plan interval := some ("price_" ++ plan.name ++ "_" ++ interval.name)
  number text := text.toNat?.map fun sites => (sites : ℚ)

/-- An account with one site, before its first event. -/
def oneSite : Database where
  restaurants := [⟨"site", some "account", true, false, .STARTER⟩]
  restaurantBilling := []
  accountBilling := []
  processed := []

theorem oneSite_anchored : Anchored oneSite "account" "site" :=
  ⟨rfl, List.nodup_singleton _⟩

/-- A subscription of the site to the monthly plan for professionals. -/
def proSubscription (id : String) (status : SubscriptionStatus) (periodEnd : Int) :
    SubscriptionObject where
  id
  customer := some "customer"
  status
  trial_end := none
  current_period_end := some periodEnd
  cancel_at_period_end := false
  items := [⟨some ⟨"price_pro_monthly", some "month"⟩, some periodEnd⟩]
  «metadata» := { restaurantId := some "site", plan := some "pro", billing := some "monthly" }

def proCheckout (subscriptionId : String) : CheckoutSession where
  mode := .subscription
  client_reference_id := some "site"
  customer := some "customer"
  subscription := some subscriptionId
  «metadata» := { restaurantId := some "site", plan := some "pro", billing := some "monthly" }

def unanswered : Live :=
  fun _ => .error .StripeError

/-- Two events in a row, without a provider to ask. -/
def bothDelivered [BillingConfig] (first second : StripeEvent) (db : Database) : Database :=
  delivered unanswered second (delivered unanswered first db)

def bothHistory [BillingConfig] (first second : StripeEvent) (db : Database) : List Delivered :=
  [⟨unanswered, first, db, delivered unanswered first db⟩,
    ⟨unanswered, second, delivered unanswered first db, bothDelivered first second db⟩]

theorem bothHistory_run [BillingConfig] {first second : StripeEvent} {db : Database}
    (firstHandled : (handleBillingWebhook unanswered first db).toBool = true)
    (secondHandled : (handleBillingWebhook unanswered second
      (delivered unanswered first db)).toBool = true) :
    Deliveries db (bothHistory first second db) (bothDelivered first second db) := by
  have fresh : Deliveries db [] db := .start
  exact (fresh.deliver unanswered first firstHandled).deliver unanswered second secondHandled

end

end Sokar.Billing
