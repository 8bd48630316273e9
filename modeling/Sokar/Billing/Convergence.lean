import Sokar.Billing.Deliveries

/-!
# Convergence of the account projection

The newest event of a set decides the account projection wherever it says all of it: every later
delivery is older than its checkpoint.  An invoice takes the site count and the cancel flag from
what earlier events have left, so the order of delivery shows.
-/

namespace Sokar.Billing

/-- The account projection: the subscription, the site count and the plans of the sites. -/
def accountProjection (db : Database) (accountId : Id) : SubscriptionView × Nat × List Plan :=
  ((db.accountRow accountId).view, (db.accountRow accountId).entitledSiteCount,
    sitePlans db accountId)

variable {accountId anchorId : Id} {db after : Database}

theorem accountProjection_eq
    (same : projection after accountId anchorId = projection db accountId anchorId) :
    accountProjection after accountId = accountProjection db accountId := by
  obtain ⟨account, rest⟩ := Prod.mk.inj same
  have plans : sitePlans after accountId = sitePlans db accountId := (Prod.mk.inj rest).2
  rw [accountProjection, accountProjection, Database.accountRow, Database.accountRow, account,
    plans]

/-- The values of a write that leave nothing of the row to what it held. -/
structure AccountData.Complete (data : AccountData) : Prop where
  subscription : data.stripeSubscriptionId.isSome
  price : data.subscriptionPriceId.isSome
  plan : data.plan.isSome

/-- What complete values make of an account with a number of sites. -/
def AccountData.said (data : AccountData) (sites : Nat) : SubscriptionView × Nat × List Plan :=
  ({ subscriptionId := data.stripeSubscriptionId
     status := some data.subscriptionStatus
     priceId := data.subscriptionPriceId
     periodEnd := data.subscriptionCurrentPeriodEnd
     cancelAtPeriodEnd := data.subscriptionCancelAtPeriodEnd },
    data.entitledSiteCount, List.replicate sites (data.plan.getD .ESSENTIAL))

section

variable {write : Write} (changed : Changed db after accountId anchorId write)
include changed

theorem Changed.said (complete : write.data.Complete) :
    accountProjection after accountId = write.data.said (sitePlans db accountId).length := by
  obtain ⟨subscriptionId, isSubscription⟩ := Option.isSome_iff_exists.mp complete.subscription
  obtain ⟨priceId, isPrice⟩ := Option.isSome_iff_exists.mp complete.price
  obtain ⟨plan, isPlan⟩ := Option.isSome_iff_exists.mp complete.plan
  have account : after.accountRow accountId =
      RestaurantAccountBilling.projected write.data (db.accountRow accountId) := by
    rw [Database.accountRow, changed.account]
    rfl
  have plans : sitePlans after accountId =
      List.replicate (sitePlans db accountId).length (write.data.plan.getD .ESSENTIAL) := by
    simp only [changed.plans, isPlan, Option.getD_some, List.map_const']
  simp only [accountProjection, AccountData.said, account, plans]
  simp [RestaurantAccountBilling.view, RestaurantAccountBilling.projected, isSubscription, isPrice,
    given]

theorem Changed.sites : (sitePlans after accountId).length = (sitePlans db accountId).length := by
  rw [changed.plans, List.length_map]

end

section

variable [BillingConfig] {db after : Database} {accountId anchorId : Id} {live : Live}
  {event : StripeEvent}

/-- An event that names a site of the account and says the whole account projection: a checkout of
a plan with a configured price, or a subscription with a price and a known plan. -/
def Full (db : Database) (accountId : Id) (event : StripeEvent) : Prop :=
  match event.data with
  | .checkoutCompleted session =>
    session.mode = .subscription ∧ session.subscription.isSome ∧
    (∃ plan, session.metadata.plan.bind publicPlan? = some plan ∧
      (checkoutPrice session plan).isSome) ∧
    ∃ site, checkoutRestaurant session = some site ∧ db.accountOf site = some accountId
  | .subscription kind subscription =>
    kind ≠ .trial_will_end ∧ subscription.price.isSome ∧ (subscriptionPlan subscription).isSome ∧
    ∃ site, subscription.metadata.restaurantId = some site ∧ site ≠ "" ∧
      db.accountOf site = some accountId
  | .invoice _ _ => False

theorem Full.concerns (anchored : Anchored db accountId anchorId)
    (full : Full db accountId event) : eventAnchor db event = some anchorId := by
  unfold Full at full
  split at full
  next session about =>
    obtain ⟨mode, _, ⟨plan, ordered, _⟩, site, named, member⟩ := full
    simp [eventAnchor, eventRestaurant, about, mode, ordered, named, anchored.anchorOf member]
  next kind subscription about =>
    obtain ⟨change, _, _, site, named, present, member⟩ := full
    simp [eventAnchor, eventRestaurant, about, change, subscriptionRestaurant, named, present,
      anchored.anchorOf member]
  next => cases full

/-- The values that a newer checkout or subscription event projects onto the account. -/
def statedData (event : StripeEvent) : Option AccountData :=
  match event.data with
  | .checkoutCompleted session =>
    (session.metadata.plan.bind publicPlan?).map fun plan =>
      (checkoutWrite session plan (eventCheckpoint event)).data
  | .subscription kind subscription =>
    some (snapshotWrite subscription (kind = .deleted ∨ subscription.status = .canceled)
      (eventCheckpoint event)).data
  | .invoice _ _ => none

theorem Full.stated (full : Full db accountId event) :
    ∃ data, statedData event = some data ∧ data.Complete := by
  unfold Full at full
  unfold statedData
  split at full
  next session about =>
    obtain ⟨_, subscribed, ⟨plan, ordered, priced⟩, _⟩ := full
    refine ⟨(checkoutWrite session plan (eventCheckpoint event)).data, ?_, subscribed, priced, rfl⟩
    rw [ordered]
    rfl
  next kind subscription about =>
    obtain ⟨_, priced, planned, _⟩ := full
    refine ⟨_, rfl, rfl, ?_, ?_⟩
    · simpa [snapshotWrite, subscriptionUpdateData] using priced
    · simpa [snapshotWrite] using planned
  next => cases full

theorem EventWrite.stated {write : Write} {data : AccountData}
    (planned : EventWrite live event db anchorId write)
    (newer : compareStripeEvent db anchorId event = .newer)
    (stated : statedData event = some data) : write.data = data := by
  unfold statedData at stated
  cases planned with
  | snapshot about _ =>
    rw [about] at stated
    exact Option.some.inj stated
  | retrieved tie _ _ => simp [newer] at tie
  | checkout about ordered _ =>
    simp only [about, ordered, Option.map_some, Option.some.injEq] at stated
    exact stated
  | invoice about _ =>
    rw [about] at stated
    cases stated

end

section

variable {db after : Database} {accountId anchorId : Id}

theorem lastCreated_eq (anchored : Anchored db accountId anchorId) : lastCreated db anchorId =
      ([(db.billing anchorId).bind RestaurantBilling.lastStripeEvent,
        (db.account accountId).bind RestaurantAccountBilling.lastStripeEvent].filterMap
          fun checkpoint => checkpoint.map Checkpoint.created).max? := by
  rw [lastCreated, anchored.account]
  rfl

theorem lastCreated_of_projection (anchored : Anchored db accountId anchorId)
    (anchoredAfter : Anchored after accountId anchorId)
    (same : projection after accountId anchorId = projection db accountId anchorId) :
    lastCreated after anchorId = lastCreated db anchorId := by
  obtain ⟨account, rest⟩ := Prod.mk.inj same
  rw [lastCreated_eq anchored, lastCreated_eq anchoredAfter, account, (Prod.mk.inj rest).1]

variable [BillingConfig] {live : Live} {event : StripeEvent}

theorem EventWrite.checkpoint {write : Write} (planned : EventWrite live event db anchorId write) :
    write.data.lastStripeEvent = eventCheckpoint event ∧
      ∀ row, (write.change row).lastStripeEvent = some (eventCheckpoint event) := by
  cases planned <;> exact ⟨rfl, fun _ => rfl⟩

theorem EventWrite.lastCreated {write : Write} (planned : EventWrite live event db anchorId write)
    (changed : Changed db after accountId anchorId write)
    (anchored : Anchored after accountId anchorId) :
    lastCreated after anchorId = some event.created := by
  rw [lastCreated_eq anchored, changed.account, changed.billing]
  simp [RestaurantAccountBilling.projected, planned.checkpoint, eventCheckpoint]

omit [BillingConfig] in
theorem compareStripeEvent_stale {last : Int} (checkpoint : Billing.lastCreated db anchorId = some last)
    (older : event.created < last) : compareStripeEvent db anchorId event = .stale := by
  simp [compareStripeEvent, checkpoint, older]

omit [BillingConfig] in
theorem compareStripeEvent_newer
    (newer : ∀ last, Billing.lastCreated db anchorId = some last → last < event.created) :
    compareStripeEvent db anchorId event = .newer := by
  unfold compareStripeEvent
  split
  · rfl
  next last checkpoint =>
    have later := newer last checkpoint
    rw [if_neg (by omega), if_neg (by omega)]

end

section

variable {db after : Database} {accountId anchorId : Id}

theorem Projected.accountOf {restaurantId : Id} {write : Write}
    (projected : Projected db after restaurantId write) (id : Id) :
    after.accountOf id = db.accountOf id := by
  rw [← accountOf_setPlan (plannedSites db restaurantId) write.data.plan db, Database.accountOf,
    projected.restaurants]
  rfl

variable [BillingConfig]

variable {event : StripeEvent}

theorem handleBillingWebhook_accountOf {live : Live} {handled : Bool}
    (ok : handleBillingWebhook live event db = .ok (handled, after)) (id : Id) :
    after.accountOf id = db.accountOf id := by
  obtain ⟨_, rfl⟩ | ⟨_, middle, outcome, rfl⟩ := handleBillingWebhook_cases ok
  · rfl
  · cases outcome with
    | passed => rfl
    | wrote _ _ projected => exact projected.accountOf id

theorem Full.of_accountOf (full : Full db accountId event)
    (same : ∀ id, after.accountOf id = db.accountOf id) : Full after accountId event := by
  unfold Full at full ⊢
  split at full
  · simpa only [same] using full
  · simpa only [same] using full
  · cases full

theorem handleBillingWebhook_processed {live : Live} {handled : Bool}
    (ok : handleBillingWebhook live event db = .ok (handled, after)) (id : String) :
    id ∈ after.processed ↔ id ∈ db.processed ∨ id = event.id := by
  obtain ⟨processed, rfl⟩ | ⟨_, middle, outcome, rfl⟩ := handleBillingWebhook_cases ok
  · constructor
    · exact .inl
    · rintro (before | rfl)
      · exact before
      · exact processed
  · simp [outcome.processed]

theorem AccountStep.sites {live : Live}
    (step : AccountStep accountId anchorId live event db after) :
    (sitePlans after accountId).length = (sitePlans db accountId).length := by
  cases step with
  | missed _ same =>
    obtain ⟨_, rest⟩ := Prod.mk.inj same
    rw [(Prod.mk.inj rest).2]
  | wrote _ _ changed => exact changed.sites

end

section

variable [BillingConfig] {start db after : Database} {accountId anchorId : Id}
  {newest : StripeEvent}

/-- Before its delivery the newest event is still to be processed, and newer than the checkpoint. -/
structure Awaiting (db : Database) (anchorId : Id) (newest : StripeEvent) : Prop where
  pending : newest.id ∉ db.processed
  newer : ∀ last, lastCreated db anchorId = some last → last < newest.created

structure Settled (db : Database) (accountId anchorId : Id) (newest : StripeEvent)
    (said : SubscriptionView × Nat × List Plan) : Prop where
  processed : newest.id ∈ db.processed
  checkpoint : lastCreated db anchorId = some newest.created
  said : accountProjection db accountId = said

variable {live : Live} {event : StripeEvent} {said : SubscriptionView × Nat × List Plan}

theorem Awaiting.reaches (awaiting : Awaiting db anchorId newest)
    (anchored : Anchored db accountId anchorId) (full : Full db accountId newest) :
    Reaches db anchorId newest := by
  refine ⟨awaiting.pending, full.concerns anchored, ?_⟩
  rw [compareStripeEvent_newer awaiting.newer]
  simp

theorem Awaiting.settle {handled : Bool} {data : AccountData}
    (awaiting : Awaiting db anchorId newest) (anchored : Anchored db accountId anchorId)
    (full : Full db accountId newest) (stated : statedData newest = some data)
    (complete : data.Complete)
    (ok : handleBillingWebhook live newest db = .ok (handled, after)) :
    Settled after accountId anchorId newest (data.said (sitePlans db accountId).length) := by
  have anchoredAfter := handleBillingWebhook_anchored anchored ok
  cases handleBillingWebhook_step anchored ok with
  | missed missed _ => exact absurd (awaiting.reaches anchored full) missed
  | wrote reaches planned changed =>
    have data_eq := planned.stated (compareStripeEvent_newer awaiting.newer) stated
    constructor
    · exact (handleBillingWebhook_processed ok _).mpr (.inr rfl)
    · exact planned.lastCreated changed anchoredAfter
    · rw [← data_eq] at complete ⊢
      exact changed.said complete

theorem Awaiting.step {handled : Bool} (awaiting : Awaiting db anchorId newest)
    (anchored : Anchored db accountId anchorId) (other : event.id ≠ newest.id)
    (older : event.created < newest.created)
    (ok : handleBillingWebhook live event db = .ok (handled, after)) :
    Awaiting after anchorId newest := by
  have anchoredAfter := handleBillingWebhook_anchored anchored ok
  constructor
  · intro processed
    cases (handleBillingWebhook_processed ok _).mp processed with
    | inl before => exact awaiting.pending before
    | inr same => exact other same.symm
  · intro last checkpoint
    cases handleBillingWebhook_step anchored ok with
    | missed _ same =>
      rw [lastCreated_of_projection anchored anchoredAfter same] at checkpoint
      exact awaiting.newer last checkpoint
    | wrote _ planned changed =>
      rw [planned.lastCreated changed anchoredAfter, Option.some.injEq] at checkpoint
      exact checkpoint ▸ older

/-- Nothing reaches a settled projection: the newest event has been processed, and any other one is
older than the checkpoint. -/
theorem Settled.step {handled : Bool} (settled : Settled db accountId anchorId newest said)
    (anchored : Anchored db accountId anchorId)
    (among : event = newest ∨ event.created < newest.created)
    (ok : handleBillingWebhook live event db = .ok (handled, after)) :
    Settled after accountId anchorId newest said := by
  have anchoredAfter := handleBillingWebhook_anchored anchored ok
  have unreached : ¬Reaches db anchorId event := by
    rintro ⟨pending, _, fresh⟩
    cases among with
    | inl same => exact pending (same ▸ settled.processed)
    | inr older => exact fresh (compareStripeEvent_stale settled.checkpoint older)
  cases handleBillingWebhook_step anchored ok with
  | wrote reaches => exact absurd reaches unreached
  | missed _ same =>
    constructor
    · exact (handleBillingWebhook_processed ok _).mpr (.inl settled.processed)
    · rw [lastCreated_of_projection anchored anchoredAfter same]
      exact settled.checkpoint
    · rw [accountProjection_eq same]
      exact settled.said

variable {history : List Delivered}

theorem Deliveries.accountOf (run : Deliveries start history db) (id : Id) :
    db.accountOf id = start.accountOf id := by
  induction run with
  | start => rfl
  | next _ ok ih => exact (handleBillingWebhook_accountOf ok id).trans ih

theorem Deliveries.sites (run : Deliveries start history db)
    (anchored : Anchored start accountId anchorId) :
    (sitePlans db accountId).length = (sitePlans start accountId).length := by
  induction run with
  | start => rfl
  | next run ok ih =>
    exact (handleBillingWebhook_step (run.anchored anchored) ok).sites.trans ih

theorem Deliveries.settled {data : AccountData} (run : Deliveries start history db)
    (anchored : Anchored start accountId anchorId) (awaiting : Awaiting start anchorId newest)
    (full : Full start accountId newest) (stated : statedData newest = some data)
    (complete : data.Complete) (among : ∀ step ∈ history, step.event = newest ∨
      step.event.id ≠ newest.id ∧ step.event.created < newest.created) :
    (∀ step ∈ history, step.event ≠ newest) ∧ Awaiting db anchorId newest ∨
      Settled db accountId anchorId newest (data.said (sitePlans start accountId).length) := by
  induction run with
  | start => exact .inl ⟨fun _ none => (nomatch none), awaiting⟩
  | @next history before after live event handled run ok ih =>
    simp only [List.forall_mem_append, List.forall_mem_singleton] at among ⊢
    have anchoredBefore := run.anchored anchored
    cases ih among.1 with
    | inr settled =>
      exact .inr (settled.step anchoredBefore (among.2.imp_right And.right) ok)
    | inl undelivered =>
      cases among.2 with
      | inr older =>
        refine .inl ⟨⟨undelivered.1, ?_⟩, undelivered.2.step anchoredBefore older.1 older.2 ok⟩
        rintro rfl
        exact older.1 rfl
      | inl isNewest =>
        subst isNewest
        have fullBefore := full.of_accountOf run.accountOf
        refine .inr ?_
        rw [← run.sites anchored]
        exact undelivered.2.settle anchoredBefore fullBefore stated complete ok

theorem Deliveries.stale {last : Int} (run : Deliveries start history db)
    (anchored : Anchored start accountId anchorId)
    (checkpoint : lastCreated start anchorId = some last)
    (older : ∀ step ∈ history, step.event.created < last) :
    projection db accountId anchorId = projection start accountId anchorId := by
  induction run with
  | start => rfl
  | @next history before after live event handled run ok ih =>
    simp only [List.forall_mem_append, List.forall_mem_singleton] at older
    have same := ih older.1
    have anchoredBefore := run.anchored anchored
    have stored := (lastCreated_of_projection anchored anchoredBefore same).trans checkpoint
    cases handleBillingWebhook_step anchoredBefore ok with
    | missed _ still => exact still.trans same
    | wrote reaches =>
      exact absurd (compareStripeEvent_stale stored older.2) reaches.2.2

theorem EventWrite.unique {live' : Live} {write write' : Write}
    (planned : EventWrite live event db anchorId write)
    (planned' : EventWrite live' event db anchorId write')
    (newer : compareStripeEvent db anchorId event = .newer) : write = write' := by
  cases planned with
  | retrieved tie _ _ => simp [newer] at tie
  | snapshot about _ =>
    cases planned' with
    | retrieved tie _ _ => simp [newer] at tie
    | snapshot about' _ =>
      cases about.symm.trans about'
      rfl
    | checkout about' _ _ => cases about.symm.trans about'
    | invoice about' _ => cases about.symm.trans about'
  | checkout about ordered _ =>
    cases planned' with
    | retrieved tie _ _ => simp [newer] at tie
    | snapshot about' _ => cases about.symm.trans about'
    | checkout about' ordered' _ =>
      cases about.symm.trans about'
      cases ordered.symm.trans ordered'
      rfl
    | invoice about' _ => cases about.symm.trans about'
  | invoice about _ =>
    cases planned' with
    | retrieved tie _ _ => simp [newer] at tie
    | snapshot about' _ => cases about.symm.trans about'
    | checkout about' _ _ => cases about.symm.trans about'
    | invoice about' _ =>
      cases about.symm.trans about'
      rfl

theorem AccountStep.unique {live' : Live} {after' : Database}
    (step : AccountStep accountId anchorId live event db after)
    (step' : AccountStep accountId anchorId live' event db after')
    (newer : compareStripeEvent db anchorId event = .newer) :
    projection after accountId anchorId = projection after' accountId anchorId := by
  cases step with
  | missed missed same =>
    cases step' with
    | missed _ same' => exact same.trans same'.symm
    | wrote reaches => exact absurd reaches missed
  | wrote reaches planned changed =>
    cases step' with
    | missed missed => exact absurd reaches missed
    | wrote _ planned' changed' =>
      cases planned.unique planned' newer
      rw [projection, projection, changed.account, changed'.account, changed.billing,
        changed'.billing, changed.plans, changed'.plans]

/-- In a run of one event its first delivery decides. -/
theorem Deliveries.alone (run : Deliveries start history db)
    (anchored : Anchored start accountId anchorId) (alone : ∀ step ∈ history, step.event = newest) :
    history = [] ∧ db = start ∨ newest.id ∈ db.processed ∧ ∃ live after,
      AccountStep accountId anchorId live newest start after ∧
        projection db accountId anchorId = projection after accountId anchorId := by
  induction run with
  | start => exact .inl ⟨rfl, rfl⟩
  | @next history before after live event handled run ok ih =>
    simp only [List.forall_mem_append, List.forall_mem_singleton] at alone
    cases alone.2
    have step := handleBillingWebhook_step (run.anchored anchored) ok
    have processed : newest.id ∈ after.processed :=
      (handleBillingWebhook_processed ok _).mpr (.inr rfl)
    refine .inr ⟨processed, ?_⟩
    cases ih alone.1 with
    | inl first =>
      cases first.2
      exact ⟨live, after, step, rfl⟩
    | inr repeated =>
      obtain ⟨already, firstLive, firstAfter, first, same⟩ := repeated
      cases step with
      | missed _ still => exact ⟨firstLive, firstAfter, first, still.trans same⟩
      | wrote reaches => exact absurd already reaches.1

/-- The deliveries of a run are those of a set of events, in any order and any number. -/
def Covers (history : List Delivered) (events : List StripeEvent) : Prop :=
  ∀ event, event ∈ history.map Delivered.event ↔ event ∈ events

omit [BillingConfig] in
theorem Covers.mem {events : List StripeEvent} (covers : Covers history events) {step : Delivered}
    (isStep : step ∈ history) :
    step.event ∈ events :=
  (covers _).mp (List.mem_map_of_mem isStep)

/-- The newest event of a set decides the projection: the whole set is older than the checkpoint, or
the newest event is newer and says the whole projection or is the only one. -/
def Decided (start : Database) (accountId anchorId : Id) (events : List StripeEvent)
    (newest : StripeEvent) : Prop :=
  (∃ last, lastCreated start anchorId = some last ∧ newest.created < last) ∨
    Awaiting start anchorId newest ∧
      (Full start accountId newest ∨ ∀ event ∈ events, event = newest)

/-- Two orders of delivery of one set of events, with any duplicates, end with one account
projection where the newest event decides it. -/
theorem accountProjection_converges {events : List StripeEvent}
    {history history' : List Delivered} {db' : Database}
    (anchored : Anchored start accountId anchorId)
    (seconds : (events.map StripeEvent.created).Nodup) (ids : (events.map StripeEvent.id).Nodup)
    (isNewest : newest ∈ events) (latest : ∀ event ∈ events, event.created ≤ newest.created)
    (decided : Decided start accountId anchorId events newest)
    (run : Deliveries start history db) (run' : Deliveries start history' db')
    (covers : Covers history events) (covers' : Covers history' events) :
    accountProjection db accountId = accountProjection db' accountId := by
  obtain ⟨last, checkpoint, stale⟩ | ⟨awaiting, full | alone⟩ := decided
  · have older : ∀ {history}, Covers history events →
        ∀ step ∈ history, step.event.created < last :=
      fun covers step isStep => (latest _ (covers.mem isStep)).trans_lt stale
    exact (accountProjection_eq (run.stale anchored checkpoint (older covers))).trans
      (accountProjection_eq (run'.stale anchored checkpoint (older covers'))).symm
  · obtain ⟨data, stated, complete⟩ := full.stated
    have said : ∀ {history db}, Deliveries start history db → Covers history events →
        accountProjection db accountId = data.said (sitePlans start accountId).length := by
      intro history db run covers
      have among : ∀ step ∈ history, step.event = newest ∨
          step.event.id ≠ newest.id ∧ step.event.created < newest.created := by
        intro step isStep
        have isEvent := covers.mem isStep
        by_cases same : step.event = newest
        · exact .inl same
        · refine .inr ⟨fun sameId => same ?_, lt_of_le_of_ne (latest _ isEvent) fun sameSecond =>
            same ?_⟩
          · exact List.inj_on_of_nodup_map ids isEvent isNewest sameId
          · exact List.inj_on_of_nodup_map seconds isEvent isNewest sameSecond
      cases run.settled anchored awaiting full stated complete among with
      | inr settled => exact settled.said
      | inl undelivered =>
        obtain ⟨step, isStep, same⟩ := List.mem_map.mp ((covers newest).mpr isNewest)
        exact absurd same (undelivered.1 step isStep)
    exact (said run covers).trans (said run' covers').symm
  · have first : ∀ {history db}, Deliveries start history db → Covers history events →
        ∃ live after, AccountStep accountId anchorId live newest start after ∧
          projection db accountId anchorId = projection after accountId anchorId := by
      intro history db run covers
      have same : ∀ step ∈ history, step.event = newest :=
        fun step isStep => alone _ (covers.mem isStep)
      cases run.alone anchored same with
      | inr first => exact first.2
      | inl undelivered =>
        have none := (covers newest).mpr isNewest
        rw [undelivered.1] at none
        cases none
    obtain ⟨live, after, step, decides⟩ := first run covers
    obtain ⟨live', after', step', decides'⟩ := first run' covers'
    have newer := compareStripeEvent_newer awaiting.newer
    exact accountProjection_eq (decides.trans ((step.unique step' newer).trans decides'.symm))

end

section

attribute [local instance] namedPrices

def boughtAt50 : StripeEvent :=
  ⟨"evt_bought", 50, .checkoutCompleted (proCheckout "sub_1")⟩

def renewedAt100 : StripeEvent :=
  ⟨"evt_renewed", 100, .subscription .updated (proSubscription "sub_1" .active 5000)⟩

def paidAt60 : StripeEvent :=
  ⟨"evt_paid", 60, .invoice .paid
    { subscription := some "sub_1", customer := some "customer", billing_reason := none,
      amount_paid := 4900, period_end := some 5000, lines := [], «metadata» := {} }⟩

theorem bothHistory_covers [BillingConfig] (first second : StripeEvent) (db : Database)
    {events : List StripeEvent} (same : ∀ event, event = first ∨ event = second ↔ event ∈ events) :
    Covers (bothHistory first second db) events := by
  intro event
  rw [← same]
  simp [bothHistory]

/-- A checkout and a later snapshot, in both orders. -/
theorem accountProjection_converges_renewed :
    accountProjection (bothDelivered boughtAt50 renewedAt100 oneSite) "account" =
      accountProjection (bothDelivered renewedAt100 boughtAt50 oneSite) "account" := by
  have run : Deliveries oneSite (bothHistory boughtAt50 renewedAt100 oneSite) _ :=
    bothHistory_run (by decide +kernel) (by decide +kernel)
  have run' : Deliveries oneSite (bothHistory renewedAt100 boughtAt50 oneSite) _ :=
    bothHistory_run (by decide +kernel) (by decide +kernel)
  have awaiting : Awaiting oneSite "site" renewedAt100 :=
    ⟨by decide, fun _ checkpoint => (nomatch checkpoint)⟩
  have full : Full oneSite "account" renewedAt100 :=
    ⟨by decide, rfl, by decide +kernel, "site", rfl, by decide, by decide +kernel⟩
  have isNewest : renewedAt100 ∈ [boughtAt50, renewedAt100] :=
    List.mem_cons_of_mem _ List.mem_cons_self
  have latest : ∀ event ∈ [boughtAt50, renewedAt100], event.created ≤ renewedAt100.created := by
    simp [boughtAt50, renewedAt100]
  refine accountProjection_converges oneSite_anchored (by decide) (by decide) isNewest latest
    (.inr ⟨awaiting, .inl full⟩) run run' ?_ ?_
  · exact bothHistory_covers _ _ _ fun event => by simp
  · exact bothHistory_covers _ _ _ fun event => by simp [or_comm]

/-- An invoice that is delivered before the account has a row is lost, and its period end with
it. -/
theorem accountProjection_diverges : ¬∀ (events : List StripeEvent) history history' db db',
      (events.map StripeEvent.created).Nodup → (events.map StripeEvent.id).Nodup →
      Deliveries oneSite history db → Deliveries oneSite history' db' →
      Covers history events → Covers history' events →
        accountProjection db "account" = accountProjection db' "account" := by
  intro converges
  have run : Deliveries oneSite (bothHistory boughtAt50 paidAt60 oneSite) _ :=
    bothHistory_run (by decide +kernel) (by decide +kernel)
  have run' : Deliveries oneSite (bothHistory paidAt60 boughtAt50 oneSite) _ :=
    bothHistory_run (by decide +kernel) (by decide +kernel)
  have same := converges [boughtAt50, paidAt60] _ _ _ _ (by decide) (by decide) run run'
    (bothHistory_covers _ _ _ fun event => by simp)
    (bothHistory_covers _ _ _ fun event => by simp [or_comm])
  have sameView := congrArg (fun projected => projected.1.periodEnd) same
  revert sameView
  decide +kernel

end

end Sokar.Billing
