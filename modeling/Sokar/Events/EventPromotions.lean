import Sokar.Events.EventWaitlist

/-!
# Promotions from the waiting list of an event

An entry is marked once its seats are ordered, so that in between, and after a crash there,
the order exists and the entry still waits; the key of the order makes a retry find it and
mark the entry.  Orders stay and are one for each key, and what ends an entry is never undone:
a promotion that starts afterwards writes nothing.
-/

namespace Sokar

open Process Transaction Transaction.Access

/-! ## Orders and their keys -/

/-- What never changes about an order. -/
def EventOrder.placed (order : EventOrder) : Option String × Id × Id × Id × Nat :=
  (order.idempotencyKey, order.eventId, order.sessionId, order.ticketTypeId, order.quantity)

/-- Every order is still there, as it was placed. -/
def OrdersStay (data data' : EventData) : Prop :=
  ∀ order ∈ data.orders, ∃ order' ∈ data'.orders, order'.placed = order.placed

def OneOrderPerKey (data : EventData) : Prop :=
  (data.orders.filterMap (·.idempotencyKey)).Nodup

def EventData.HasOrder (data : EventData) (key : String) (eventId sessionId : Id) (quantity : ℚ) :
    Prop :=
  ∃ order ∈ data.orders, order.idempotencyKey = some key ∧ order.eventId = eventId ∧
    order.sessionId = sessionId ∧ (order.quantity : ℚ) = quantity

section

variable {data data' data'' : EventData}

theorem OrdersStay.refl (data : EventData) : OrdersStay data data :=
  fun order isOrder => ⟨order, isOrder, rfl⟩

theorem OrdersStay.trans (first : OrdersStay data data') (second : OrdersStay data' data'') :
    OrdersStay data data'' := by
  intro order isOrder
  obtain ⟨order', isOrder', same⟩ := first order isOrder
  obtain ⟨order'', isOrder'', same'⟩ := second order' isOrder'
  exact ⟨order'', isOrder'', same'.trans same⟩

theorem OrdersStay.of_same (same : data'.orders = data.orders) : OrdersStay data data' :=
  fun order isOrder => ⟨order, same ▸ isOrder, rfl⟩

theorem OrdersStay.updateOrders {selected : EventOrder → Bool} {change : EventOrder → EventOrder}
    (keeps : ∀ order, (change order).placed = order.placed) :
    OrdersStay data (data.updateOrders selected change) := by
  intro order isOrder
  refine ⟨_, List.mem_map_of_mem isOrder, ?_⟩
  split
  · exact keeps order
  · rfl

theorem OrdersStay.hasOrder (stay : OrdersStay data data') {key : String} {eventId sessionId : Id}
    {quantity : ℚ} (has : data.HasOrder key eventId sessionId quantity) :
    data'.HasOrder key eventId sessionId quantity := by
  obtain ⟨order, isOrder, isKey, ofEvent, ofSession, count⟩ := has
  obtain ⟨order', isOrder', same⟩ := stay order isOrder
  simp only [EventOrder.placed, Prod.mk.injEq] at same
  obtain ⟨sameKey, sameEvent, sameSession, -, sameCount⟩ := same
  refine ⟨order', isOrder', sameKey.trans isKey, sameEvent.trans ofEvent,
    sameSession.trans ofSession, ?_⟩
  rw [sameCount]
  exact count

theorem OneOrderPerKey.of_accepted (accepted : data.violation? = none) : OneOrderPerKey data := by
  have unique : data.keysUnique = true := by
    unfold EventData.violation? at accepted
    split at accepted
    · cases accepted
    · simp_all
  simp only [EventData.keysUnique, Bool.and_eq_true, decide_eq_true_eq] at unique
  exact unique.1.1.1.2

theorem OneOrderPerKey.countP_le (unique : OneOrderPerKey data) (key : String) :
    (data.orders.countP fun order => order.idempotencyKey == some key) ≤ 1 := by
  rw [← List.count_filterMap]
  exact List.nodup_iff_count_le_one.1 unique key

variable [Sha256] {event : EventCall}

theorem EventWrite.ordersStay (write : EventWrite event data data') : OrdersStay data data' := by
  cases write with
  | insertOrder =>
    exact fun order isOrder => ⟨order, List.mem_append_left _ isOrder, rfl⟩
  | cancelOrder => exact .updateOrders fun order => rfl
  | refundOrder => exact .updateOrders fun order => rfl
  | cancelTickets => exact .of_same rfl
  | refundTickets => exact .of_same rfl
  | checkIn => exact .of_same rfl
  | updateSession => exact .of_same rfl

theorem EventWrite.oneOrderPerKey (write : EventWrite event data data')
    (unique : OneOrderPerKey data) : OneOrderPerKey data' := by
  cases write with
  | insertOrder input ticketType _ _ accepted => exact .of_accepted accepted
  | refundOrder input reason now _ accepted => exact .of_accepted accepted
  | cancelOrder input data now =>
    change ((KeyedRows.update input.cancels _ data.orders).filterMap _).Nodup
    rw [KeyedRows.filterMap_update]
    · exact unique
    · exact fun order => rfl
  | cancelTickets => exact unique
  | refundTickets => exact unique
  | checkIn => exact unique
  | updateSession => exact unique

end

/-- Orders stay, one for each key. -/
def orderAccess : Access EventData EventLock EventCallId where
  inv := fun data _ => OneOrderPerKey data
  writes := fun _ => OrdersStay
  inv_later := fun _ unique => unique
  writes_refl := fun _ => OrdersStay.refl
  writes_mono := fun _ stay => stay

section

variable {call : EventCallId}

variable (call) in
theorem EventCall.prog_orders [Sha256] [UnicodeCase] (event : EventCall) :
    orderAccess.Serves call (event.prog call) :=
  event.prog_acts.runs fun _ _ _ _ unique write _ => ⟨write.oneOrderPerKey unique, write.ordersStay⟩

namespace CreateEventOrderInput

variable [Sha256] (input : CreateEventOrderInput)

/-- The key the order is stored under. -/
def orderKey : Option String :=
  match normalizeEventIdempotencyKey input.idempotencyKey with
  | .ok (some rawKey) => some (hashWithPrefix "sokar:event-idempotency:" input.restaurantId rawKey)
  | _ => none

variable (key : String)

/-- The order asked for is placed. -/
def Placed (_ : EventOrderMutationResult) (data : EventData) (_ : Instant) : Prop :=
  data.HasOrder key input.eventId input.sessionId input.quantity

/-- An order found under the key. -/
def Stored (found : Option EventOrder) (data : EventData) (_ : Instant) : Prop :=
  ∀ row, found = some row → row.idempotencyKey = some key ∧
    ∃ order ∈ data.orders, order.placed = row.placed

section

omit [Sha256]

theorem protects_placed (result : EventOrderMutationResult) :
    orderAccess.Protects ∅ (input.Placed key result) where
  writes _ _ stay placed := OrdersStay.hasOrder stay placed
  clock _ placed := placed

theorem protects_stored (found : Option EventOrder) :
    orderAccess.Protects ∅ (Stored key found) where
  writes _ _ stay stored row isRow := by
    obtain ⟨isKey, order, isOrder, same⟩ := stored row isRow
    obtain ⟨order', isOrder', same'⟩ := stay order isOrder
    exact ⟨isKey, order', isOrder', same'.trans same⟩
  clock _ stored := stored

theorem orderByIdempotency_runs : orderAccess.Runs call ∅ (fun _ _ => True)
      (query fun data _ => data.orderByIdempotency? (some key)) ∅ (Stored key) := by
  have reads : orderAccess.Runs call ∅ (fun _ _ => True)
      (query fun data _ => data.orderByIdempotency? (some key)) ∅
      fun found data now => True ∧ Stored key found data now := by
    apply Runs.read (protects_const True) (protects_stored key)
    intro data _ _ _ row found
    exact ⟨beq_iff_eq.1 (List.find?_some found :), row, List.mem_of_find?_eq_some found, rfl⟩
  exact reads.weaken subset_rfl subset_rfl (fun _ _ _ _ => trivial) fun _ _ _ both => both.2

theorem placed_of_replay {key : String} {row : EventOrder} {result : EventOrderMutationResult}
    (answered : input.replay row = .ok result) {data : EventData} {now : Instant}
    (stored : Stored key (some row) data now) : input.Placed key result data now := by
  unfold replay at answered
  split at answered
  · cases answered
  next matching =>
    obtain ⟨isKey, order, isOrder, same⟩ := stored row rfl
    simp only [EventOrder.placed, Prod.mk.injEq] at same
    obtain ⟨sameKey, sameEvent, sameSession, -, sameCount⟩ := same
    simp only [Bool.or_eq_true, bne_iff_ne, not_or, not_not] at matching
    refine ⟨order, isOrder, sameKey.trans isKey, sameEvent.trans matching.1.1.1,
      sameSession.trans matching.1.1.2, ?_⟩
    rw [sameCount]
    exact matching.2

theorem replay_runs (row : EventOrder) :
    orderAccess.Runs call ∅ (Stored key (some row)) (pure (input.replay row)) ∅
      (OnOk (input.Placed key)) := by
  cases answered : input.replay row with
  | error failure => exact Runs.error _ subset_rfl
  | ok result =>
    apply Runs.pure (Protects.onOk (input.protects_placed key) _)
    exact fun _ _ _ stored => input.placed_of_replay answered stored

end

theorem create_places (now : Instant) {quantity : Nat} {key : String}
    (isQuantity : normalizeQuantity input.quantity = .ok quantity) :
    orderAccess.Runs call ∅ (fun _ _ => True) (input.create call now quantity (some key)) ∅
      (OnOk (input.Placed key)) := by
  have decides : orderAccess.Decides call ∅ (fun _ _ => True) (input.seated call now quantity)
      (fun _ => ∅) fun _ _ _ => True :=
    Discipline.Triple.weaken ((input.quiet_seated now quantity).runs (protects_const True))
      (fun _ _ => id) fun _ _ knows _ _ => knows
  have places : orderAccess.Runs call ∅ (fun _ _ => True)
      (transact call (input.seated call now quantity) EventData.violation? (fun ticketType _ _ =>
          { order := input.order (some key) quantity ticketType
            ticketCodes := some ((List.range quantity).map input.ticketCode)
            replayed := false : EventOrderMutationResult })
        fun ticketType data _ => data.insertOrder (input.order (some key) quantity ticketType)
          ((List.range quantity).map input.ticket)) ∅ (OnOk (input.Placed key)) := by
    apply Runs.transact decides (fun _ => protects_const True) (input.protects_placed key)
    intro ticketType data _ _ _ accepted _
    refine ⟨.of_accepted accepted, ?_, ?_⟩
    · exact fun order isOrder => ⟨order, List.mem_append_left _ isOrder, rfl⟩
    · refine ⟨_, List.mem_append_right _ (List.mem_singleton_self _), rfl, rfl, rfl, ?_⟩
      exact normalizeCount_ok isQuantity
  apply Runs.bind places
  intro created
  cases created with
  | ok result => exact Runs.pure (Protects.onOk (input.protects_placed key) _) fun _ _ _ => id
  | error failure =>
    apply Runs.knowing fun _ _ _ _ => trivial
    cases failure
    case P2002 =>
      apply Runs.bind (orderByIdempotency_runs key)
      intro raced
      cases raced with
      | none => exact Runs.error _ subset_rfl
      | some row => exact input.replay_runs key row
    all_goals exact Runs.error _ subset_rfl

variable (call) in
theorem createEventOrder_places {key : String} (isKey : input.orderKey = some key) :
    orderAccess.Runs call ∅ (fun _ _ => True) (input.createEventOrder call) ∅
      (OnOk (input.Placed key)) := by
  apply Runs.bind ((quiet_eventNow input.now).runs (protects_const True))
  intro now
  split
  · exact Runs.error _ subset_rfl
  · exact Runs.error _ subset_rfl
  next quantity rawKey isQuantity isRaw =>
    unfold orderKey at isKey
    rw [isRaw] at isKey
    cases rawKey with
    | none => cases isKey
    | some rawKey =>
      cases isKey
      apply Runs.bind (orderByIdempotency_runs _)
      intro replayed
      cases replayed with
      | some row => exact input.replay_runs _ row
      | none =>
        apply Runs.knowing fun _ _ _ _ => trivial
        apply Runs.bind ((input.quiet_orderable now quantity).runs (protects_const True))
        intro found
        cases found with
        | error failure => exact Runs.error _ subset_rfl
        | ok found =>
          apply Runs.bind (input.quiet_assertLinks.runs (protects_const True))
          intro links
          cases links with
          | error failure => exact Runs.error _ subset_rfl
          | ok links => exact input.create_places now isQuantity

variable (call) in
theorem createEventOrder_refused {value : String} (given : input.idempotencyKey = some value)
    (noKey : input.orderKey = none) :
    orderAccess.Runs call ∅ (fun _ _ => True) (input.createEventOrder call) ∅
      (OnOk fun _ _ _ => False) := by
  have refused : ∃ failure, normalizeEventIdempotencyKey input.idempotencyKey = .error failure := by
    cases isKey : normalizeEventIdempotencyKey input.idempotencyKey with
    | error failure => exact ⟨failure, rfl⟩
    | ok rawKey =>
      cases rawKey with
      | none =>
        simp only [given, normalizeEventIdempotencyKey, normalizeIdempotencyKey] at isKey
        split at isKey
        · cases isKey
        · cases isKey
      | some rawKey =>
        simp only [orderKey, isKey] at noKey
        cases noKey
  obtain ⟨failure, isRefused⟩ := refused
  apply Runs.bind ((quiet_eventNow input.now).runs (protects_const True))
  intro now
  rw [isRefused]
  cases normalizeQuantity input.quantity with
  | error _ => exact Runs.error _ subset_rfl
  | ok quantity => exact Runs.error _ subset_rfl

end CreateEventOrderInput

end

variable (entry : EventWaitlistEntry)

namespace EventWaitlistEntry

/-- What may become of an entry: only one that waits changes, and only in its status. -/
def Follows (entry entry' : EventWaitlistEntry) : Prop :=
  entry' = entry ∨ entry.status = .WAITING ∧
    ∃ status promotedAt, entry' = { entry with status, promotedAt }

theorem Follows.trans {entry entry' entry'' : EventWaitlistEntry} (first : entry.Follows entry')
    (second : entry'.Follows entry'') : entry.Follows entry'' := by
  rcases first with same | ⟨waits, status, promotedAt, same⟩
  · exact same ▸ second
  · rcases second with same' | ⟨-, status', promotedAt', same'⟩
    · exact .inr ⟨waits, status, promotedAt, same'.trans same⟩
    · subst same
      exact .inr ⟨waits, status', promotedAt', same'⟩

variable [Sha256]

/-- The key under which the seats of the entry are ordered. -/
def orderKey : Option String :=
  match normalizeEventIdempotencyKey (some ("waitlist-" ++ entry.id)) with
  | .ok (some rawKey) => some (hashWithPrefix "sokar:event-idempotency:" entry.restaurantId rawKey)
  | _ => none

/-- The seats of the entry are ordered. -/
def Ordered (data : EventData) : Prop :=
  ∃ key, entry.orderKey = some key ∧
    data.HasOrder key entry.eventId entry.sessionId entry.quantity

variable {entry entry' : EventWaitlistEntry}

theorem orderKey_congr (sameId : entry'.id = entry.id)
    (sameRestaurant : entry'.restaurantId = entry.restaurantId) :
    entry'.orderKey = entry.orderKey := by
  unfold orderKey
  rw [sameId, sameRestaurant]

theorem Follows.ordered (follows : entry.Follows entry') {data : EventData} :
    entry'.Ordered data ↔ entry.Ordered data := by
  rcases follows with same | ⟨-, status, promotedAt, same⟩
  · rw [same]
  · subst same
    have sameKey : { entry with status, promotedAt }.orderKey = entry.orderKey :=
      orderKey_congr rfl rfl
    unfold Ordered
    rw [sameKey]

end EventWaitlistEntry

/-- Orders are one for each key, entries within the bounds of their table, and the seats of a
promoted entry are ordered. -/
structure WaitlistSound [Sha256] (data : EventWaitlistData) : Prop where
  orders : OneOrderPerKey data.events
  ids : (data.entries.map (·.id)).Nodup
  quantities : ∀ entry ∈ data.entries, 1 ≤ entry.quantity ∧ entry.quantity ≤ 100
  promoted : ∀ entry ∈ data.entries, entry.status = .PROMOTED → entry.Ordered data.events

structure WaitlistFollows (data data' : EventWaitlistData) : Prop where
  orders : OrdersStay data.events data'.events
  entries : ∀ entryId entry, data.entryById? entryId = some entry →
    ∃ entry', data'.entryById? entryId = some entry' ∧ entry.Follows entry'

section

variable {data data' data'' : EventWaitlistData}

theorem WaitlistFollows.refl (data : EventWaitlistData) : WaitlistFollows data data where
  orders := .refl _
  entries _ entry found := ⟨entry, found, .inl rfl⟩

theorem WaitlistFollows.trans (first : WaitlistFollows data data')
    (second : WaitlistFollows data' data'') : WaitlistFollows data data'' where
  orders := first.orders.trans second.orders
  entries entryId entry found := by
    obtain ⟨entry', found', follows⟩ := first.entries entryId entry found
    obtain ⟨entry'', found'', follows'⟩ := second.entries entryId entry' found'
    exact ⟨entry'', found'', follows.trans follows'⟩

theorem WaitlistFollows.ended (follows : WaitlistFollows data data') {entryId : Id}
    {entry : EventWaitlistEntry} (found : data.entryById? entryId = some entry)
    (ended : entry.status ≠ .WAITING) : data'.entryById? entryId = some entry := by
  obtain ⟨entry', found', same | ⟨waits, -⟩⟩ := follows.entries entryId entry found
  · exact same ▸ found'
  · exact absurd waits ended

variable {change : EventWaitlistEntry → EventWaitlistEntry} {selected : EventWaitlistEntry → Bool}

theorem waitlistFollows_updateEntries (sameId : ∀ entry, (change entry).id = entry.id)
    (changes : ∀ entry, selected entry = true → entry.Follows (change entry)) :
    WaitlistFollows data (data.updateEntries selected change) where
  orders := .refl _
  entries entryId entry found := by
    refine ⟨if selected entry then change entry else entry, ?_, ?_⟩
    · change KeyedRows.lookup (·.id) (KeyedRows.update selected change data.entries) entryId = _
      rw [KeyedRows.lookup_update selected sameId]
      exact congrArg (Option.map _) found
    · split
      next isSelected => exact changes entry isSelected
      next => exact .inl rfl

variable [Sha256]

theorem WaitlistSound.updateEntries (sound : WaitlistSound data)
    (sameId : ∀ entry, (change entry).id = entry.id)
    (changes : ∀ entry, selected entry = true → entry.Follows (change entry))
    (promoted : ∀ entry ∈ data.entries, selected entry = true →
      (change entry).status = .PROMOTED → entry.Ordered data.events) :
    WaitlistSound (data.updateEntries selected change) where
  orders := sound.orders
  ids := by
    change ((KeyedRows.update selected change data.entries).map _).Nodup
    rw [KeyedRows.map_update _ selected sameId]
    exact sound.ids
  quantities entry isEntry := by
    obtain ⟨before, isBefore, same⟩ := List.mem_map.1 isEntry
    subst same
    split
    next isSelected =>
      rcases changes before isSelected with same | ⟨-, status, promotedAt, same⟩
      · rw [same]
        exact sound.quantities before isBefore
      · rw [same]
        exact sound.quantities before isBefore
    next => exact sound.quantities before isBefore
  promoted entry isEntry isPromoted := by
    obtain ⟨before, isBefore, same⟩ := List.mem_map.1 isEntry
    subst same
    by_cases isSelected : selected before = true
    · simp only [if_pos isSelected] at isPromoted ⊢
      exact (changes before isSelected).ordered.2 (promoted before isBefore isSelected isPromoted)
    · simp only [if_neg isSelected] at isPromoted ⊢
      exact sound.promoted before isBefore isPromoted

theorem WaitlistSound.events (sound : WaitlistSound data) {events : EventData}
    (unique : OneOrderPerKey events) (stay : OrdersStay data.events events) :
    WaitlistSound { data with events } where
  orders := unique
  ids := sound.ids
  quantities := sound.quantities
  promoted entry isEntry isPromoted := by
    obtain ⟨key, isKey, has⟩ := sound.promoted entry isEntry isPromoted
    exact ⟨key, isKey, stay.hasOrder has⟩

omit [Sha256] in
theorem WaitlistFollows.events {events : EventData} (stay : OrdersStay data.events events) :
    WaitlistFollows data { data with events } where
  orders := stay
  entries _ entry found := ⟨entry, found, .inl rfl⟩

theorem WaitlistSound.insert (sound : WaitlistSound data) (entry : EventWaitlistEntry)
    (waits : entry.status = .WAITING)
    (accepted : (data.insertEntry entry).violation? = none) :
    WaitlistSound (data.insertEntry entry) ∧ WaitlistFollows data (data.insertEntry entry) := by
  have constraints : (((data.entries ++ [entry]).map (·.id)).Nodup) ∧
      ∀ other ∈ data.entries ++ [entry], 1 ≤ other.quantity ∧ other.quantity ≤ 100 := by
    unfold EventWaitlistData.violation? at accepted
    split at accepted
    · cases accepted
    next unique =>
      split at accepted
      · cases accepted
      next checked =>
        simp only [Bool.not_eq_true, Bool.not_eq_false', Bool.and_eq_true, decide_eq_true_eq] at unique
        simp only [Bool.not_eq_true, Bool.not_eq_false', List.all_eq_true, decide_eq_true_eq] at checked
        exact ⟨unique.1, checked⟩
  constructor
  · constructor
    · exact sound.orders
    · exact constraints.1
    · exact constraints.2
    · intro other isOther isPromoted
      rcases List.mem_append.1 isOther with before | new
      · exact sound.promoted other before isPromoted
      · rw [List.mem_singleton.1 new, waits] at isPromoted
        cases isPromoted
  · constructor
    · exact .refl _
    · intro entryId other found
      refine ⟨other, ?_, .inl rfl⟩
      change KeyedRows.lookup (·.id) (data.entries ++ [entry]) entryId = _
      rw [KeyedRows.lookup_append, Option.or_eq_some_iff]
      exact .inl found

end

def waitlistAccess [Sha256] : Access EventWaitlistData EventLock EventCallId where
  inv := fun data _ => WaitlistSound data
  writes := fun _ => WaitlistFollows
  inv_later := fun _ sound => sound
  writes_refl := fun _ => WaitlistFollows.refl
  writes_mono := fun _ follows => follows

/-- Programs about events run over the waiting list too. -/
theorem eventPortion_refines [Sha256] : eventPortion.Refines waitlistAccess orderAccess where
  get_put _ _ := rfl
  unlock_lock _ := rfl
  inv sound := WaitlistSound.orders sound
  writes _ _ follows := WaitlistFollows.orders follows
  acts sound unique stay := ⟨WaitlistSound.events sound unique stay, .events stay⟩
  meets _ := trivial

section

variable {call : EventCallId}

theorem quiet_waitlistNow (given : Option Instant) : Quiet call (waitlistNow given) := by
  cases given with
  | none => exact Quiet.query fun _ now => now
  | some now => exact Quiet.pure _

variable [Sha256]

theorem waitlist_commit {α : Type} {view : EventWaitlistData → Instant → α}
    {change : EventWaitlistData → Instant → EventWaitlistData}
    (keeps : ∀ data now, WaitlistSound data →
      WaitlistSound (change data now) ∧ WaitlistFollows data (change data now)) :
    waitlistAccess.Runs call ∅ (fun _ _ => True) (commit call view change) ∅ fun _ _ _ => True :=
  Runs.commit (protects_const True) (fun _ => protects_const True)
    (fun data now sound _ => keeps data now sound) fun _ _ _ _ => trivial

namespace JoinEventWaitlistInput

variable (input : JoinEventWaitlistInput)

omit [Sha256] in
theorem quiet_joinable (now : Instant) : Quiet call (input.joinable now) := by
  refine Quiet.found (Quiet.pure _) fun found => ?_
  dsimp only
  split
  · exact Quiet.pure _
  split
  · exact Quiet.pure _
  apply Quiet.bind (Quiet.query _)
  exact fun customer => Quiet.pure _

theorem insert_runs (key : Option String) (quantity : Nat) :
    waitlistAccess.Serves call (input.insert call key quantity) := by
  apply Runs.bind
  · apply Runs.commitUnless (protects_const True) fun _ => protects_const True
    intro data _ sound _ accepted _
    obtain ⟨sound', follows⟩ := sound.insert (input.entry key quantity) rfl accepted
    exact ⟨sound', follows, trivial⟩
  intro created
  apply Runs.knowing fun _ _ _ _ => trivial
  split
  · apply Runs.glance (protects_const True)
    exact fun raced => ends_pure _
  · exact ends_pure _

theorem joinEventWaitlist_runs : waitlistAccess.Serves call (input.joinEventWaitlist call) := by
  apply Runs.bind ((quiet_waitlistNow input.now).runs (protects_const True))
  intro now
  split
  · exact ends_pure _
  · exact ends_pure _
  refine Runs.found (protects_const True) ?_ fun _ => ends_pure _
  apply Runs.bind ((input.quiet_joinable now).runs (protects_const True))
  intro joinable
  cases joinable with
  | error failure => exact ends_pure _
  | ok _ => exact input.insert_runs _ _

end JoinEventWaitlistInput

theorem CancelEventWaitlistInput.cancelEventWaitlist_runs (input : CancelEventWaitlistInput) :
    waitlistAccess.Serves call (input.cancelEventWaitlist call) := by
  have changes : ∀ entry, input.cancels entry = true → entry.Follows entry.cancelled := by
    intro entry isCancelled
    simp only [cancels, Bool.and_eq_true, beq_iff_eq] at isCancelled
    exact .inr ⟨isCancelled.2, .CANCELLED, entry.promotedAt, rfl⟩
  apply Runs.bind
  · apply waitlist_commit
    intro data _ sound
    constructor
    · exact sound.updateEntries (fun _ => rfl) changes fun _ _ _ impossible => nomatch impossible
    · exact waitlistFollows_updateEntries (fun _ => rfl) changes
  exact fun updated => Runs.glance (protects_const True) fun row => ends_pure _

theorem ExpireEventSessionsInput.expireEventSessions_runs (input : ExpireEventSessionsInput) :
    waitlistAccess.Serves call (input.expireEventSessions call) := by
  apply Runs.bind ((quiet_waitlistNow input.now).runs (protects_const True))
  intro now
  apply Runs.glance (protects_const True)
  intro rows
  split
  · exact ends_pure _
  apply Runs.bind
  · apply waitlist_commit
    exact fun data _ sound =>
      ⟨sound.events sound.orders (.of_same rfl), .events (.of_same rfl)⟩
  intro count
  have changes : ∀ entry : EventWaitlistEntry,
      ((rows.any fun row => row.id == entry.sessionId) && entry.status == .WAITING) = true →
        entry.Follows entry.expired := by
    intro entry isExpired
    simp only [Bool.and_eq_true, beq_iff_eq] at isExpired
    exact .inr ⟨isExpired.2, .EXPIRED, entry.promotedAt, rfl⟩
  apply Runs.bind
  · apply waitlist_commit
    intro data _ sound
    constructor
    · exact sound.updateEntries (fun _ => rfl) changes fun _ _ _ impossible => nomatch impossible
    · exact waitlistFollows_updateEntries (fun _ => rfl) changes
  exact fun _ => ends_pure _

namespace PromoteEventWaitlistInput

variable (input : PromoteEventWaitlistInput)

/-- The entry that was read, as it has become. -/
def Found (data : EventWaitlistData) (_ : Instant) : Prop :=
  ∃ entry', data.entryById? entry.id = some entry' ∧ entry.Follows entry'

variable {entry : EventWaitlistEntry}

omit [Sha256] in
theorem Found.follows {data data' : EventWaitlistData} {now : Instant}
    (found : Found entry data now) (follows : WaitlistFollows data data') :
    Found entry data' now := by
  obtain ⟨entry', isEntry, became⟩ := found
  obtain ⟨entry'', isEntry', became'⟩ := follows.entries _ _ isEntry
  exact ⟨entry'', isEntry', became.trans became'⟩

theorem protects_found (entry : EventWaitlistEntry) : waitlistAccess.Protects ∅ (Found entry) where
  writes _ _ follows found := Found.follows found follows
  clock _ found := found

/-- The entry that was read, its seats ordered. -/
def FoundOrdered (entry : EventWaitlistEntry) (data : EventWaitlistData) (now : Instant) : Prop :=
  entry.Ordered data.events ∧ Found entry data now

theorem protects_foundOrdered (entry : EventWaitlistEntry) :
    waitlistAccess.Protects ∅ (FoundOrdered entry) := by
  apply Protects.and _ (protects_found entry)
  constructor
  · intro _ _ _ _ _ follows ordered
    obtain ⟨key, isKey, has⟩ := ordered
    exact ⟨key, isKey, (WaitlistFollows.orders follows).hasOrder has⟩
  · exact fun _ ordered => ordered

theorem mark_runs (entry : EventWaitlistEntry) :
    waitlistAccess.Runs call ∅ (FoundOrdered entry) (input.mark call entry) ∅ fun _ _ _ => True := by
  apply Runs.bind ((quiet_waitlistNow input.now).runs (protects_foundOrdered entry))
  intro promotedAt
  have changes : ∀ other, input.promotes entry other = true →
      other.Follows (other.promoted promotedAt) := by
    intro other isPromoted
    simp only [promotes, Bool.and_eq_true, beq_iff_eq] at isPromoted
    exact .inr ⟨isPromoted.2, .PROMOTED, some promotedAt, rfl⟩
  apply Runs.commit (protects_foundOrdered entry) fun _ => protects_const True
  · intro data _ sound known
    obtain ⟨ordered, entry', found, follows⟩ := known
    refine ⟨WaitlistSound.updateEntries sound (fun _ => rfl) changes ?_,
      waitlistFollows_updateEntries (fun _ => rfl) changes⟩
    intro other isOther isPromoted _
    simp only [promotes, Bool.and_eq_true, beq_iff_eq] at isPromoted
    have same : other = entry' := by
      apply List.inj_on_of_nodup_map (WaitlistSound.ids sound) isOther (KeyedRows.mem_of_lookup found)
      exact isPromoted.1.1.trans (KeyedRows.key_of_lookup found).symm
    rw [same]
    exact follows.ordered.2 ordered
  · exact fun _ _ _ _ => trivial

section

variable (ofRestaurant : entry.restaurantId = input.restaurantId)
include ofRestaurant

theorem orderKey_orderInput : (input.orderInput entry).orderKey = entry.orderKey := by
  have sameKey : (input.orderInput entry).idempotencyKey = some ("waitlist-" ++ entry.id) := rfl
  have sameRestaurant : (input.orderInput entry).restaurantId = input.restaurantId := rfl
  unfold CreateEventOrderInput.orderKey EventWaitlistEntry.orderKey
  rw [sameKey, sameRestaurant, ofRestaurant]

theorem ordering_places : waitlistAccess.Runs call ∅ (fun _ _ => True)
      (eventPortion.within ((input.orderInput entry).createEventOrder call)) ∅
      (OnOk fun _ data _ => entry.Ordered data.events) := by
  have sameKey := input.orderKey_orderInput ofRestaurant
  cases isKey : entry.orderKey with
  | none =>
    have refused := eventPortion_refines.runs_within_free
      ((input.orderInput entry).createEventOrder_refused call rfl (sameKey.trans isKey))
    apply refused.weaken subset_rfl subset_rfl (fun _ _ _ => id)
    intro ordered data now holds
    cases ordered with
    | error failure => trivial
    | ok result => exact holds.elim
  | some key =>
    have places := eventPortion_refines.runs_within_free
      ((input.orderInput entry).createEventOrder_places call (sameKey.trans isKey))
    apply places.weaken subset_rfl subset_rfl (fun _ _ _ => id)
    intro ordered data now holds
    cases ordered with
    | error failure => trivial
    | ok result => exact ⟨key, isKey, holds⟩

theorem ordering_runs : waitlistAccess.Runs call ∅ (Found entry)
      (eventPortion.within ((input.orderInput entry).createEventOrder call)) ∅
      (OnOk fun _ => FoundOrdered entry) := by
  have framed : waitlistAccess.Runs call ∅ (fun data now => True ∧ Found entry data now)
      (eventPortion.within ((input.orderInput entry).createEventOrder call)) ∅
      fun ordered data now =>
        OnOk (fun _ data _ => entry.Ordered data.events) ordered data now ∧ Found entry data now :=
    (input.ordering_places ofRestaurant).frame
      (fun _ _ _ _ follows found => found.follows follows) fun _ _ _ _ found => found
  apply framed.weaken subset_rfl subset_rfl (fun _ _ _ found => ⟨trivial, found⟩)
  intro ordered data now both
  cases ordered with
  | error failure => trivial
  | ok result => exact both

end

theorem promoteEventWaitlist_runs :
    waitlistAccess.Serves call (input.promoteEventWaitlist call) := by
  have learns : ∀ found : Option EventWaitlistEntry, waitlistAccess.Protects ∅
      fun data now => ∀ entry, found = some entry →
        entry.restaurantId = input.restaurantId ∧ Found entry data now :=
    fun found => Protects.all fun entry =>
      Protects.when ((protects_const _).and (protects_found entry))
  apply Runs.bind (Runs.read (protects_const True) learns _)
  · intro found
    cases found with
    | none => exact ends_pure _
    | some entry =>
      apply Runs.assuming fun _ _ _ known => (known.2 entry rfl).1
      intro ofRestaurant
      apply Runs.knowing fun _ _ _ known => (known.2 entry rfl).2
      dsimp only
      split
      · exact ends_pure _
      split
      · exact ends_pure _
      apply Runs.bind (input.ordering_runs ofRestaurant)
      intro ordered
      cases ordered with
      | error failure => exact ends_pure _
      | ok result =>
        exact Runs.bind (input.mark_runs entry) fun _ => ends_pure _
  · intro data now _ _ entry found
    obtain ⟨isEntry, ofRestaurant⟩ := Option.filter_eq_some_iff.1 found
    refine ⟨beq_iff_eq.1 ofRestaurant, entry, ?_, .inl rfl⟩
    rw [KeyedRows.key_of_lookup isEntry]
    exact isEntry

end PromoteEventWaitlistInput

variable (call) in
theorem EventWaitlistCall.prog_runs [UnicodeCase] (request : EventWaitlistCall) :
    waitlistAccess.Serves call (request.prog call) := by
  cases request with
  | event event =>
    have runs := eventPortion_refines.runs_within_free (event.prog_orders call)
    apply Runs.bind runs
    intro answer
    exact (ends_pure _).knowing fun _ _ _ _ => trivial
  | join input => exact ends_map input.joinEventWaitlist_runs
  | cancel input => exact ends_map input.cancelEventWaitlist_runs
  | promote input => exact ends_map input.promoteEventWaitlist_runs
  | expire input => exact ends_map input.expireEventSessions_runs

end

/-! ## Promotions that come late, or again -/

/-- The entry no longer waits. -/
def EventWaitlistData.isEnded (data : EventWaitlistData) (entryId : Id) : Bool :=
  (data.entryById? entryId).any fun entry => entry.status != .WAITING

def EventWaitlistCall.promotes (entryId : Id) : EventWaitlistCall → Bool
  | .promote input => input.entryId == entryId
  | _ => false

section

variable [Sha256] {call : EventCallId}

/-- Once the entry has ended, a promotion of it writes nothing. -/
theorem PromoteEventWaitlistInput.promoteEventWaitlist_late (input : PromoteEventWaitlistInput) :
    ActsWhile call (fun data _ => data.isEnded input.entryId = true) (fun _ _ _ => False)
      (input.promoteEventWaitlist call) := by
  apply ActsWhile.query
  intro data now ended
  cases found : data.entryOf? input.restaurantId input.entryId with
  | none => exact ActsWhile.of_acts (Acts.pure _)
  | some entry =>
    obtain ⟨isEntry, -⟩ := Option.filter_eq_some_iff.1 found
    have notWaiting : entry.status ≠ .WAITING := by
      simpa [EventWaitlistData.isEnded, isEntry] using ended
    dsimp only
    split
    · exact ActsWhile.of_acts (Acts.pure _)
    · exact ActsWhile.of_acts (Acts.pure _)

theorem EventWaitlistCall.prog_late [UnicodeCase] {request : EventWaitlistCall} {entryId : Id}
    (isPromotion : request.promotes entryId = true) :
    ActsWhile call (fun data _ => data.isEnded entryId = true) (fun _ _ _ => False)
      (request.prog call) := by
  cases request with
  | promote input =>
    have sameId : input.entryId = entryId := beq_iff_eq.1 isPromotion
    subst sameId
    apply input.promoteEventWaitlist_late.bind
    intro result
    cases result with
    | error failure => exact ActsWhile.of_acts (Acts.pure _)
    | ok result => exact ActsWhile.of_acts (Acts.pure _)
  | event => cases isPromotion
  | join => cases isPromotion
  | cancel => cases isPromotion
  | expire => cases isPromotion

end

section

variable [Sha256] {call : EventCallId} {store : EventWaitlistStore} {order : EventOrder}
variable {entry : EventWaitlistEntry}

structure HoldsSeats (entry : EventWaitlistEntry) (order : EventOrder) : Prop where
  ofKey : ∃ key, entry.orderKey = some key ∧ order.idempotencyKey = some key
  ofEvent : order.eventId = entry.eventId
  ofSession : order.sessionId = entry.sessionId
  count : order.quantity = entry.quantity

namespace PromoteEventWaitlistInput

variable {input : PromoteEventWaitlistInput}

omit [Sha256] in
variable (store) in
theorem run_within_eventNow (given : Option Instant) :
    ∃ now, (eventPortion.within (eventNow given)).run store = some (now, store) := by
  cases given with
  | none =>
    have reads : (eventPortion.within (query fun (_ : EventData) now => now)).run store =
        some (store.now, store) :=
      Portion.run_within_query _ store
    exact ⟨store.now, reads⟩
  | some now => exact ⟨now, rfl⟩

variable (call) in
theorem run_ordering (unique : OneOrderPerKey store.data.events)
    (isOrder : order ∈ store.data.events.orders) (holds : HoldsSeats entry order)
    (ofRestaurant : entry.restaurantId = input.restaurantId)
    (ofTicketType : order.ticketTypeId = input.ticketTypeId)
    (bounds : 1 ≤ entry.quantity ∧ entry.quantity ≤ 100) :
    (eventPortion.within ((input.orderInput entry).createEventOrder call)).run store =
      some (.ok { order, ticketCodes := none, replayed := true }, store) := by
  obtain ⟨key, isKey, hasKey⟩ := holds.ofKey
  have found : store.data.events.orderByIdempotency? (some key) = some order :=
    KeyedRows.find_of_column unique isOrder hasKey
  have isQuantity : normalizeQuantity (input.orderInput entry).quantity = .ok entry.quantity :=
    normalizeCount_natCast bounds.1 bounds.2 _
  have matching : (input.orderInput entry).replay order =
      .ok { order, ticketCodes := none, replayed := true } := by
    simp [CreateEventOrderInput.replay, orderInput, holds.ofEvent, holds.ofSession, holds.count,
      ofTicketType]
  rw [← input.orderKey_orderInput ofRestaurant] at isKey
  unfold CreateEventOrderInput.orderKey at isKey
  split at isKey
  next rawKey isRaw =>
    cases isKey
    obtain ⟨now, ran⟩ := run_within_eventNow store (input.orderInput entry).now
    have replays : eventPortion.get store.data = store.data.events := rfl
    unfold CreateEventOrderInput.createEventOrder
    rw [isQuantity, isRaw, Portion.within_bind, Prog.run_bind, ran]
    simp only [Option.bind_some, Option.map_some, Portion.within_bind, Prog.run_bind,
      Portion.run_within_query, replays, found]
    rw [matching]
    rfl
  next => cases isKey

omit [Sha256] in
variable (call) in
theorem run_mark (found : store.data.entryById? entry.id = some entry)
    (ofRestaurant : entry.restaurantId = input.restaurantId) (waits : entry.status = .WAITING) :
    ∃ store' promotedAt, (input.mark call entry).run store = some ((), store') ∧
      store'.data.events = store.data.events ∧
        store'.data.entryById? entry.id = some (entry.promoted promotedAt) := by
  have marked : ∀ promotedAt, (store.data.updateEntries (input.promotes entry)
      (·.promoted promotedAt)).entryById? entry.id = some (entry.promoted promotedAt) := by
    intro promotedAt
    have keeps : ∀ other : EventWaitlistEntry, (other.promoted promotedAt).id = other.id :=
      fun _ => rfl
    have isSelected : input.promotes entry entry = true := by
      simp [promotes, ofRestaurant, waits]
    change KeyedRows.lookup (·.id) (KeyedRows.update _ _ store.data.entries) entry.id = _
    rw [KeyedRows.lookup_update _ keeps]
    refine Option.map_eq_some_iff.2 ⟨entry, found, if_pos isSelected⟩
  unfold mark waitlistNow
  cases input.now with
  | none => exact ⟨_, store.now, rfl, rfl, marked store.now⟩
  | some now => exact ⟨_, now, rfl, rfl, marked now⟩

/-- A promotion that finds the seats of the entry ordered answers with the order, and marks the
entry. -/
theorem run_promoteEventWaitlist (sound : WaitlistSound store.data)
    (found : store.data.entryById? input.entryId = some entry)
    (ofRestaurant : entry.restaurantId = input.restaurantId) (waits : entry.status = .WAITING)
    (isOrder : order ∈ store.data.events.orders) (holds : HoldsSeats entry order)
    (ofTicketType : order.ticketTypeId = input.ticketTypeId) :
    ∃ store' promotedAt, (input.promoteEventWaitlist call).run store =
      some (.ok { order, ticketCodes := none, replayed := true }, store') ∧
        store'.data.events = store.data.events ∧
          store'.data.entryById? input.entryId = some (entry.promoted promotedAt) := by
  have sameId : entry.id = input.entryId := KeyedRows.key_of_lookup found
  have isEntry : store.data.entryOf? input.restaurantId input.entryId = some entry := by
    simp [EventWaitlistData.entryOf?, found, ofRestaurant]
  have bounds := sound.quantities entry (KeyedRows.mem_of_lookup found)
  have ordered := run_ordering call sound.orders isOrder holds ofRestaurant ofTicketType bounds
  obtain ⟨store', promotedAt, ran, sameEvents, marked⟩ :=
    run_mark call (sameId ▸ found) ofRestaurant waits
  refine ⟨store', promotedAt, ?_, sameEvents, sameId ▸ marked⟩
  simp [promoteEventWaitlist, isEntry, waits, ordered, ran]

end PromoteEventWaitlistInput

end

section

variable [Sha256] [UnicodeCase] {calls : EventCallId → EventWaitlistCall}
variable {store : EventWaitlistStore} {moves : List (Move EventCallId EventWaitlistStore)}
variable {c : Config EventCallId EventWaitlistStore (Except EventWaitlistFailure EventWaitlistAnswer)}

/-- What holds of promotions along a run and from its end on. -/
structure PromotionsKept (calls : EventCallId → EventWaitlistCall) (start : EventWaitlistData)
    (moves : List (Move EventCallId EventWaitlistStore))
    (c : Config EventCallId EventWaitlistStore
      (Except EventWaitlistFailure EventWaitlistAnswer)) : Prop where
  ordered : ∀ entry ∈ c.shared.data.entries, entry.status = .PROMOTED →
    ∃ order ∈ c.shared.data.events.orders, HoldsSeats entry order
  /-- No two orders hold the seats of an entry. -/
  once : ∀ key, (c.shared.data.events.orders.countP fun order =>
    order.idempotencyKey == some key) ≤ 1
  ended : (history start moves).Pairwise fun earlier later => ∀ entryId entry,
    earlier.entryById? entryId = some entry → entry.status ≠ .WAITING →
      later.entryById? entryId = some entry
  /-- Once the entry has ended and no promotion of it is under way, none writes anything. -/
  late : ∀ entryId, c.shared.data.isEnded entryId = true →
    (∀ call, (calls call).promotes entryId = true → ∀ prog, c.procs call = some prog →
      ∃ answer, prog = .done answer) →
        ∀ more c', (eventWaitlistSystem calls).Run c more c' → ∀ move ∈ more,
          (calls move.session).promotes entryId = true → move.after.data = move.before.data
  /-- A retry finds the order that was made before the entry could be marked, and marks it. -/
  retried : ∀ entryId entry, c.shared.data.entryById? entryId = some entry → entry.status = .WAITING →
    ∀ order ∈ c.shared.data.events.orders, HoldsSeats entry order →
      ∀ (call : EventCallId) (retry : PromoteEventWaitlistInput), retry.entryId = entryId →
        retry.restaurantId = entry.restaurantId → retry.ticketTypeId = order.ticketTypeId →
          ∃ store' promotedAt, (retry.promoteEventWaitlist call).run c.shared =
            some (.ok { order, ticketCodes := none, replayed := true }, store') ∧
              store'.data.events = c.shared.data.events ∧
                store'.data.entryById? entryId = some (entry.promoted promotedAt)

omit [UnicodeCase] in
theorem EventWaitlistEntry.Ordered.exists_order {entry : EventWaitlistEntry} {data : EventData}
    (ordered : entry.Ordered data) : ∃ order ∈ data.orders, HoldsSeats entry order := by
  obtain ⟨key, isKey, order, isOrder, hasKey, ofEvent, ofSession, count⟩ := ordered
  exact ⟨order, isOrder, ⟨key, isKey, hasKey⟩, ofEvent, ofSession, by exact_mod_cast count⟩

omit [Sha256] [UnicodeCase] in
theorem WaitlistFollows.isEnded {data data' : EventWaitlistData}
    (follows : WaitlistFollows data data') {entryId : Id} (ended : data.isEnded entryId = true) :
    data'.isEnded entryId = true := by
  simp only [EventWaitlistData.isEnded, Option.any_eq_true, bne_iff_ne] at ended ⊢
  obtain ⟨entry, found, notWaiting⟩ := ended
  exact ⟨entry, follows.ended found notWaiting, notWaiting⟩

theorem promotions_late (sound : waitlistAccess.Sound (fun _ => Ends) c) {entryId : Id}
    (ended : c.shared.data.isEnded entryId = true)
    (idle : ∀ call, (calls call).promotes entryId = true → ∀ prog, c.procs call = some prog →
      ∃ answer, prog = .done answer)
    {more : List (Move EventCallId EventWaitlistStore)}
    {c' : Config EventCallId EventWaitlistStore (Except EventWaitlistFailure EventWaitlistAnswer)}
    (rest : (eventWaitlistSystem calls).Run c more c') :
    ∀ move ∈ more, (calls move.session).promotes entryId = true →
      move.after.data = move.before.data := by
  have written := (run_sound (fun call => (calls call).prog_runs call) sound rest fun _ _ => trivial).2
  have related : MovesRelated WaitlistFollows c.shared.data c'.shared.data more :=
    moves_related WaitlistFollows.refl (fun first second => first.trans second) rest
      fun move isMove => (written move isMove).writes
  have codes : ∀ call, (calls call).promotes entryId = true →
      ActsWhile call (fun data _ => data.isEnded entryId = true) (fun _ _ _ => False)
        ((calls call).prog call) :=
    fun call isPromotion => EventWaitlistCall.prog_late isPromotion
  have running : ∀ call prog, (calls call).promotes entryId = true → c.procs call = some prog →
      ActsWhile call (fun data _ => data.isEnded entryId = true) (fun _ _ _ => False) prog := by
    intro call prog isPromotion isRunning
    obtain ⟨answer, isDone⟩ := idle call isPromotion prog isRunning
    subst isDone
    trivial
  have steps := actSteps_while codes running rest fun move isMove _ =>
    (related.ofStart move isMove).isEnded ended
  exact fun move isMove isPromotion => (steps move isMove isPromotion).data.resolve_right id

theorem promotions_kept (sound : WaitlistSound store.data)
    (run : (eventWaitlistSystem calls).Run (.initial store) moves c) :
    PromotionsKept calls store.data moves c := by
  have runs := fun call => (calls call).prog_runs call
  have soundEnd := run_sound runs (sound_initial sound) run fun _ _ => trivial
  constructor
  · intro entry isEntry isPromoted
    exact (soundEnd.1.inv.promoted entry isEntry isPromoted).exists_order
  · exact fun key => soundEnd.1.inv.orders.countP_le key
  · have follows : (history store.data moves).Pairwise WaitlistFollows :=
      history_pairwise (fun first second => first.trans second) run
        fun move isMove => (soundEnd.2 move isMove).writes
    apply follows.imp
    intro earlier later follows entryId entry found notWaiting
    exact follows.ended found notWaiting
  · exact fun entryId ended idle more c' rest => promotions_late soundEnd.1 ended idle rest
  · intro entryId entry found waits order isOrder holds call retry sameId ofRestaurant ofTicketType
    subst sameId
    exact retry.run_promoteEventWaitlist soundEnd.1.inv found ofRestaurant.symm waits isOrder holds
      ofTicketType.symm

end

section

attribute [local instance] UnicodeCase.ascii Sha256.plain

instance (entry : EventWaitlistEntry) (order : EventOrder) : Decidable (HoldsSeats entry order) :=
  decidable_of_iff (entry.orderKey.isSome ∧ order.idempotencyKey = entry.orderKey ∧
      order.eventId = entry.eventId ∧ order.sessionId = entry.sessionId ∧
        order.quantity = entry.quantity) <| by
    constructor
    · intro ⟨hasKey, sameKey, ofEvent, ofSession, count⟩
      obtain ⟨key, isKey⟩ := Option.isSome_iff_exists.1 hasKey
      exact ⟨⟨key, isKey, sameKey.trans isKey⟩, ofEvent, ofSession, count⟩
    · intro holds
      obtain ⟨key, isKey, hasKey⟩ := holds.ofKey
      exact ⟨by simp [isKey], hasKey.trans isKey.symm, holds.ofEvent, holds.ofSession, holds.count⟩

def waitingGuest : EventWaitlistStore where
  data := ⟨smallHall.data, [⟨"w", "r", "e", "s", none, 1, none, .WAITING, none, "staff"⟩]⟩
  now := 0
  owner _ := none

def promoteGuest : EventWaitlistCall :=
  .promote
    { restaurantId := "r", entryId := "w", ticketTypeId := "t", actor := "staff", now := some 0
      newOrderId := "o", newTicketId := fun _ => "o", ticketCode := fun _ => "00000000ABCD" }

theorem waitingGuest_sound : WaitlistSound waitingGuest.data := by
  constructor
  · exact List.nodup_nil
  · decide
  · decide
  · intro entry isEntry isPromoted
    rw [List.mem_singleton.1 isEntry] at isPromoted
    cases isPromoted

/-- A promotion that runs to its end. -/
theorem promotions_kept_guest :
    ∃ moves c, (eventWaitlistSystem fun _ => promoteGuest).Run (.initial waitingGuest) moves c ∧
      c.shared.data.entries.map (·.status) = [.PROMOTED] ∧
        PromotionsKept (fun _ => promoteGuest) waitingGuest.data moves c := by
  obtain ⟨moves, c, run, promoted⟩ :=
    (eventWaitlistSystem fun _ => promoteGuest).exists_run_of_schedule (List.replicate 13 0)
      (.initial waitingGuest) (fun _ c => c.shared.data.entries.map (·.status) = [.PROMOTED])
      (by decide +kernel)
  exact ⟨moves, c, run, promoted, promotions_kept waitingGuest_sound run⟩

/-- A promotion that stops before it marks the entry leaves the order of an entry that waits. -/
theorem ordered_while_waiting :
    ¬ ∀ (calls : EventCallId → EventWaitlistCall) (store : EventWaitlistStore),
      WaitlistSound store.data → ∀ c moves, (eventWaitlistSystem calls).Run (.initial store) moves c →
        ∀ entry ∈ c.shared.data.entries, entry.status = .PROMOTED ↔
          ∃ order ∈ c.shared.data.events.orders, HoldsSeats entry order := by
  intro claim
  obtain ⟨moves, c, run, running, entry, isEntry, waits, ordered⟩ :=
    (eventWaitlistSystem fun _ => promoteGuest).exists_run_of_schedule (List.replicate 12 0)
      (.initial waitingGuest) (fun _ c => (c.procs 0).isSome ∧
        ∃ entry ∈ c.shared.data.entries, entry.status = .WAITING ∧
          ∃ order ∈ c.shared.data.events.orders, HoldsSeats entry order) (by decide +kernel)
  obtain ⟨prog, isRunning⟩ := Option.isSome_iff_exists.1 running
  have promoted := (claim _ _ waitingGuest_sound _ _ (run.crash 0 isRunning) entry isEntry).2 ordered
  cases waits.symm.trans promoted

end

end Sokar
