import Sokar.Events.SessionCapacity

/-!
# Refunds of event orders

A refund reads the order, looks its key up and then updates the order by its identity,
whatever has become of it.  A call whose update finds the order refunded by another call
writes a second refund over the first.  In a run in which no refund is overtaken this way,
an order is refunded once, under the key of the call that did it, and the key answers with
that refund from then on.
-/

namespace Sokar

open Process Transaction Transaction.Access

namespace EventData

variable (data : EventData) (orderId : Id)

def isRefunded : Bool :=
  (data.order? orderId).any fun order => order.status == .REFUNDED

structure RefundsKeyed : Prop where
  ids : (data.orders.map (·.id)).Nodup
  keys : (data.orders.filterMap (·.refundIdempotencyKey)).Nodup
  refunded : ∀ order ∈ data.orders, order.refundIdempotencyKey ≠ none → order.status = .REFUNDED

end EventData

variable (orderId : Id)

def KeepsRefund (data data' : EventData) : Prop :=
  ∀ order, data.order? orderId = some order → order.status = .REFUNDED →
    data'.order? orderId = some order

structure OrderChanges (orderId : Id) (refundKey : Option String) (data data' : EventData) :
    Prop where
  keyed : data.RefundsKeyed → data'.RefundsKeyed
  stays : data.isRefunded orderId = true → data'.isRefunded orderId = true
  refunds : ∀ order, data'.order? orderId = some order → order.status = .REFUNDED →
    data.order? orderId = some order ∨
      ∃ key, refundKey = some key ∧ order.refundIdempotencyKey = some key

section

variable {data data' data'' : EventData} {orderId : Id} {refundKey : Option String}

theorem isRefunded_iff : data.isRefunded orderId = true ↔
      ∃ order, data.order? orderId = some order ∧ order.status = .REFUNDED := by
  simp only [EventData.isRefunded, Option.any_eq_true, beq_iff_eq]

theorem KeepsRefund.refl (orderId : Id) (data : EventData) : KeepsRefund orderId data data :=
  fun _ found _ => found

theorem KeepsRefund.trans (first : KeepsRefund orderId data data')
    (second : KeepsRefund orderId data' data'') : KeepsRefund orderId data data'' :=
  fun order found refunded => second order (first order found refunded) refunded

theorem EventData.RefundsKeyed.of_same (keyed : data.RefundsKeyed)
    (same : data'.orders = data.orders) : data'.RefundsKeyed :=
  ⟨same ▸ keyed.ids, same ▸ keyed.keys, same ▸ keyed.refunded⟩

theorem OrderChanges.of_same (same : data'.orders = data.orders) :
    OrderChanges orderId refundKey data data' := by
  constructor
  · exact fun keyed => keyed.of_same same
  · simp [EventData.isRefunded, EventData.order?, same]
  · intro order found _
    left
    rwa [EventData.order?, same] at found

theorem KeepsRefund.of_same (same : data'.orders = data.orders) :
    KeepsRefund orderId data data' := by
  intro order found _
  rwa [EventData.order?, same]

theorem refundKeys_nodup (accepted : data.violation? = none) :
    (data.orders.filterMap (·.refundIdempotencyKey)).Nodup := by
  have unique : data.keysUnique = true := by
    unfold EventData.violation? at accepted
    split at accepted
    · cases accepted
    · simp_all
  simp only [EventData.keysUnique, Bool.and_eq_true, decide_eq_true_eq] at unique
  exact unique.1.1.2

theorem EventData.RefundsKeyed.of_accepted (accepted : data.violation? = none)
    (refunded : ∀ order ∈ data.orders, order.refundIdempotencyKey ≠ none →
      order.status = .REFUNDED) : data.RefundsKeyed :=
  ⟨orders_nodup accepted, refundKeys_nodup accepted, refunded⟩

theorem OrderChanges.insertOrder {order : EventOrder} {tickets : List EventTicket}
    (accepted : (data.insertOrder order tickets).violation? = none)
    (confirmed : order.status = .CONFIRMED) (noKey : order.refundIdempotencyKey = none) :
    OrderChanges orderId refundKey data (data.insertOrder order tickets) := by
  constructor
  · intro keyed
    apply EventData.RefundsKeyed.of_accepted accepted
    intro other isOther hasKey
    rcases List.mem_append.1 isOther with before | new
    · exact keyed.refunded other before hasKey
    · cases List.mem_singleton.1 new
      exact absurd noKey hasKey
  · rw [isRefunded_iff, isRefunded_iff]
    rintro ⟨other, found, refunded⟩
    refine ⟨other, ?_, refunded⟩
    change KeyedRows.lookup (·.id) (data.orders ++ [order]) orderId = some other
    rw [KeyedRows.lookup_append, Option.or_eq_some_iff]
    exact .inl found
  · intro other found refunded
    left
    change KeyedRows.lookup (·.id) (data.orders ++ [order]) orderId = some other at found
    rw [KeyedRows.lookup_append, Option.or_eq_some_iff] at found
    rcases found with before | ⟨-, new⟩
    · exact before
    · split at new
      · cases new
        rw [confirmed] at refunded
        cases refunded
      · cases new

theorem OrderChanges.cancelled {selected : EventOrder → Bool} (now : Instant)
    (confirmed : ∀ order, selected order = true → order.status = .CONFIRMED) :
    OrderChanges orderId refundKey data (data.updateOrders selected (·.cancelled now)) := by
  have keeps : ∀ order : EventOrder, (order.cancelled now).id = order.id := fun _ => rfl
  constructor
  · intro keyed
    constructor
    · change ((KeyedRows.update selected _ data.orders).map _).Nodup
      rw [KeyedRows.map_update]
      · exact keyed.ids
      · exact fun order => rfl
    · change ((KeyedRows.update selected _ data.orders).filterMap _).Nodup
      rw [KeyedRows.filterMap_update]
      · exact keyed.keys
      · exact fun order => rfl
    · intro order isOrder hasKey
      obtain ⟨before, isBefore, same⟩ := List.mem_map.1 isOrder
      subst same
      split at hasKey
      next isSelected =>
        have isRefunded := keyed.refunded before isBefore hasKey
        rw [confirmed before isSelected] at isRefunded
        cases isRefunded
      next unselected =>
        rw [if_neg unselected]
        exact keyed.refunded before isBefore hasKey
  · rw [isRefunded_iff, isRefunded_iff]
    rintro ⟨order, found, refunded⟩
    refine ⟨order, ?_, refunded⟩
    change KeyedRows.lookup (·.id) (KeyedRows.update selected _ data.orders) orderId = _
    rw [KeyedRows.lookup_update _ keeps]
    refine Option.map_eq_some_iff.2 ⟨order, found, if_neg fun isSelected => ?_⟩
    rw [confirmed order isSelected] at refunded
    cases refunded
  · intro order found refunded
    left
    change KeyedRows.lookup (·.id) (KeyedRows.update selected _ data.orders) orderId = _ at found
    rw [KeyedRows.lookup_update _ keeps] at found
    obtain ⟨before, isBefore, same⟩ := Option.map_eq_some_iff.1 found
    split at same
    · subst same
      cases refunded
    · subst same
      exact isBefore

theorem OrderChanges.refunded {currentId : Id} {key : String} (reason : Option (Option String))
    (now : Instant) (ofCall : currentId = orderId → refundKey = some key)
    (accepted : (data.updateOrders (fun order => order.id == currentId)
      (·.refunded key reason now)).violation? = none) :
    OrderChanges orderId refundKey data (data.updateOrders (fun order => order.id == currentId)
      (·.refunded key reason now)) := by
  have keeps : ∀ order : EventOrder, (order.refunded key reason now).id = order.id := fun _ => rfl
  constructor
  · intro keyed
    apply EventData.RefundsKeyed.of_accepted accepted
    intro order isOrder hasKey
    obtain ⟨before, isBefore, same⟩ := List.mem_map.1 isOrder
    subst same
    split
    · rfl
    next unselected =>
      rw [if_neg unselected] at hasKey
      exact keyed.refunded before isBefore hasKey
  · rw [isRefunded_iff, isRefunded_iff]
    rintro ⟨order, found, refunded⟩
    change ∃ order', KeyedRows.lookup (·.id) (KeyedRows.update _ _ data.orders) orderId =
      some order' ∧ _
    rw [KeyedRows.lookup_update_key currentId keeps]
    split
    · exact ⟨order.refunded key reason now, congrArg (Option.map _) found, rfl⟩
    · exact ⟨order, found, refunded⟩
  · intro order found _
    change KeyedRows.lookup (·.id) (KeyedRows.update _ _ data.orders) orderId = _ at found
    rw [KeyedRows.lookup_update_key currentId keeps] at found
    split at found
    next isThis =>
      obtain ⟨before, -, same⟩ := Option.map_eq_some_iff.1 found
      subst same
      exact .inr ⟨key, ofCall isThis.symm, rfl⟩
    next => exact .inl found

end

def EventCall.refundKeyFor [Sha256] : EventCall → Option String
  | .refundEventOrder input => if input.orderId = orderId then input.refundKey else none
  | _ => none

theorem EventWrite.orderChanges [Sha256] {event : EventCall} {data data' : EventData}
    (write : EventWrite event data data') (orderId : Id) :
    OrderChanges orderId (event.refundKeyFor orderId) data data' := by
  cases write with
  | insertOrder input ticketType _ _ accepted => exact .insertOrder accepted rfl rfl
  | cancelOrder input _ now =>
    apply OrderChanges.cancelled
    intro order isCancelled
    simp only [CancelEventOrderInput.cancels, Bool.and_eq_true, beq_iff_eq] at isCancelled
    exact isCancelled.2
  | refundOrder input reason now isKey accepted =>
    apply OrderChanges.refunded reason now _ accepted
    intro isThis
    simp only [EventCall.refundKeyFor, if_pos isThis, isKey]
  | cancelTickets => exact .of_same rfl
  | refundTickets => exact .of_same rfl
  | checkIn => exact .of_same rfl
  | updateSession => exact .of_same rfl

/-! ## Runs without overtaken refunds -/

def ShowsRefund (store : EventStore) : Prop :=
  store.data.isRefunded orderId = true

variable (move : Move EventCallId EventStore)

def Refunds : Prop :=
  move.after.data.isRefunded orderId = true ∧
    move.after.data.order? orderId ≠ move.before.data.order? orderId

/-- The move writes over the refund of the order. -/
def RewritesRefund : Prop :=
  move.before.data.isRefunded orderId = true ∧
    move.after.data.order? orderId ≠ move.before.data.order? orderId

/-- A call that writes over a refund found the order refunded before. -/
def RefundNotOvertaken (earlier later : Move EventCallId EventStore) : Prop :=
  earlier.session = later.session → RewritesRefund orderId later →
    earlier.before.data.isRefunded orderId = true

section

variable (orderId : Id) (finds : EventCallId → Prop)

/-- Some calls find the order refunded at each step; the others leave its refund as it is. -/
structure RefundSeen (call : EventCallId) (data data' : EventData) : Prop where
  settled : finds call → data.isRefunded orderId = true
  found : ¬KeepsRefund orderId data data' → finds call

def refundAccess : Access EventData EventLock EventCallId where
  inv := fun data _ => data.RefundsKeyed
  writes := fun _ => KeepsRefund orderId
  meets := fun call _ _ => RefundSeen orderId finds call
  inv_later := fun _ keyed => keyed
  writes_refl := fun _ => KeepsRefund.refl orderId
  writes_mono := fun _ keeps => keeps

variable (key : String)

/-- The row of the order, refunded under the key. -/
def RefundStored (order : EventOrder) (data : EventData) (_ : Instant) : Prop :=
  data.order? orderId = some order ∧ order.status = .REFUNDED ∧
    order.refundIdempotencyKey = some key

variable {orderId} {finds} {call : EventCallId}

theorem protects_stored (order : EventOrder) :
    (refundAccess orderId finds).Protects ∅ (RefundStored orderId key order) where
  writes _ _ keeps stored := ⟨keeps _ stored.1 stored.2.1, stored.2⟩
  clock _ stored := stored

namespace RefundEventOrderInput

def Returned (orderId : Id) (key : String) (row : Option EventOrder) (data : EventData)
    (now : Instant) : Prop :=
  ∀ order, row = some order → RefundStored orderId key order data now

def FoundByKey (orderId : Id) (key : String) (row : Option EventOrder) (data : EventData)
    (now : Instant) : Prop :=
  ∀ order, row = some order → order.id = orderId → RefundStored orderId key order data now

def Answered (orderId : Id) (key : String) (result : EventOrderMutationResult) :
    EventData → Instant → Prop :=
  RefundStored orderId key result.order

theorem protects_answered (result : Except EventFailure EventOrderMutationResult) :
    (refundAccess orderId finds).Protects ∅ (OnOk (Answered orderId key) result) :=
  Protects.onOk (fun result => protects_stored key result.order) result

theorem protects_returned (row : Option EventOrder) :
    (refundAccess orderId finds).Protects ∅ (Returned orderId key row) :=
  Protects.all fun order => (protects_stored key order).when

theorem protects_foundByKey (row : Option EventOrder) :
    (refundAccess orderId finds).Protects ∅ (FoundByKey orderId key row) :=
  Protects.all fun order => Protects.when (protects_stored key order).when

section

variable {current : EventOrder} (key : String) (reason : Option (Option String)) (now : Instant)
variable (isThis : current.id = orderId) (notSeen : ¬finds call)
include isThis notSeen

theorem update_answers : (refundAccess orderId finds).Runs call ∅ (fun _ _ => True)
      (commitUnless call EventData.violation? (fun data _ =>
        (data.order? current.id).map (·.refunded key reason now)) fun data _ =>
          data.updateOrders (fun order => order.id == current.id) (·.refunded key reason now))
      ∅ (OnOk (Returned orderId key)) := by
  subst isThis
  apply Runs.commitUnless (protects_const True) (protects_returned key)
  intro data _ keyed _ accepted meets
  obtain ⟨free, seen⟩ := meets
  have changes : OrderChanges current.id (some key) data _ :=
    .refunded reason now (fun _ => rfl) accepted
  refine ⟨changes.keyed keyed, ?_, ?_⟩
  · by_contra rewrites
    exact notSeen (seen.found rewrites)
  · intro order isRow
    obtain ⟨before, found, same⟩ := Option.map_eq_some_iff.1 isRow
    subst same
    have keeps : ∀ order : EventOrder, (order.refunded key reason now).id = order.id :=
      fun _ => rfl
    refine ⟨?_, rfl, rfl⟩
    change KeyedRows.lookup (·.id) (KeyedRows.update _ _ data.orders) current.id = _
    rw [KeyedRows.lookup_update_key current.id keeps, if_pos rfl]
    exact congrArg (Option.map _) found

theorem refund_answers : (refundAccess orderId finds).Runs call ∅ (fun _ _ => True)
      (refund call current key reason now) ∅ (OnOk (Answered orderId key)) := by
  apply Runs.andThen (update_answers key reason now isThis notSeen) subset_rfl
  intro row
  have tickets : (refundAccess orderId finds).Runs call ∅ (Returned orderId key row)
      (commit call (fun _ _ => ()) fun data _ => data.updateTickets
        (fun ticket => ticket.orderId == current.id &&
          (ticket.status == .ISSUED || ticket.status == .CANCELLED)) (·.refunded))
      ∅ fun _ => Returned orderId key row := by
    apply Runs.commit (protects_returned key row) fun _ => protects_returned key row
    · exact fun data _ keyed _ => ⟨keyed.of_same rfl, .of_same rfl⟩
    · exact fun _ _ _ stored => stored
  apply Runs.bind tickets
  intro _
  cases row with
  | none => exact Runs.error _ subset_rfl
  | some row =>
    apply Runs.pure (protects_answered key _)
    exact fun _ _ _ stored => stored row rfl

end

theorem found_by_key {key : String} {data : EventData} (keyed : data.RefundsKeyed) (now : Instant) :
    FoundByKey orderId key (data.orderByRefund? key) data now := by
  intro order found isThis
  have isOrder : order ∈ data.orders := List.mem_of_find?_eq_some found
  have hasKey : order.refundIdempotencyKey = some key := beq_iff_eq.1 (List.find?_some found :)
  refine ⟨?_, keyed.refunded order isOrder (by simp [hasKey]), hasKey⟩
  rw [← isThis]
  exact KeyedRows.lookup_of_mem keyed.ids isOrder

theorem orderByRefund_runs : (refundAccess orderId finds).Runs call ∅ (fun _ _ => True)
      (query fun data _ => data.orderByRefund? key) ∅ (FoundByKey orderId key) := by
  have reads : (refundAccess orderId finds).Runs call ∅ (fun _ _ => True)
      (query fun data _ => data.orderByRefund? key) ∅
      fun row data now => True ∧ FoundByKey orderId key row data now :=
    Runs.read (protects_const True) (protects_foundByKey key) fun _ now keyed _ => found_by_key keyed now
  exact reads.weaken subset_rfl subset_rfl (fun _ _ _ _ => trivial) fun _ _ _ both => both.2

variable [Sha256] (input : RefundEventOrderInput)

theorem refundEventOrder_answers {key : String} (isThis : input.orderId = orderId)
    (isKey : input.refundKey = some key) :
    (refundAccess orderId finds).Runs call ∅ (fun _ _ => True) (input.refundEventOrder call) ∅
      (OnOk (Answered orderId key)) := by
  subst isThis
  apply Runs.bind ((quiet_eventNow input.now).runs (protects_const True))
  intro now
  split
  · exact Runs.error _ subset_rfl
  · exact Runs.error _ subset_rfl
  · exact Runs.error _ subset_rfl
  next rawKey reason isRaw _ =>
    simp only [refundKey, isRaw, Option.some.injEq] at isKey
    subst isKey
    have learnsOrder : ∀ current : Option EventOrder,
        (refundAccess input.orderId finds).Protects ∅ fun _ _ => ∀ order, current = some order →
          order.id = input.orderId ∧ (finds call → order.status = .REFUNDED) :=
      fun current => protects_const _
    apply Runs.bind (Runs.readWhen (protects_const True) learnsOrder _)
    · intro current
      cases current with
      | none => exact Runs.error _ subset_rfl
      | some current =>
        apply Runs.assuming fun _ _ _ learned => learned.2 current rfl
        rintro ⟨sameId, seen⟩
        apply Runs.knowing fun _ _ _ _ => trivial
        apply Runs.bind (orderByRefund_runs _)
        intro existing
        cases existing with
        | some existing =>
          dsimp only
          split
          · exact Runs.error _ subset_rfl
          next same =>
            have isThis : existing.id = current.id := by simpa using same
            apply Runs.pure (protects_answered _ _)
            exact fun _ _ _ stored => stored existing rfl (isThis.trans sameId)
        | none =>
          dsimp only
          split
          · exact Runs.error _ subset_rfl
          next notRefunded =>
            split
            · exact Runs.error _ subset_rfl
            · apply Runs.knowing fun _ _ _ _ => trivial
              exact refund_answers _ _ _ sameId fun isSeen => notRefunded (seen isSeen)
    · intro _ data now keyed _ learns order found
      obtain ⟨isOrder, -⟩ := order?_of_orderOf? found
      refine ⟨KeyedRows.key_of_lookup isOrder, fun isSeen => ?_⟩
      obtain ⟨other, isOther, refunded⟩ := isRefunded_iff.1 (learns.settled isSeen)
      cases isOrder.symm.trans isOther
      exact refunded

end RefundEventOrderInput

/-- A call that refunds under no key leaves a refund as it is. -/
theorem OrderChanges.keepsRefund {data data' : EventData}
    (changes : OrderChanges orderId none data data') : KeepsRefund orderId data data' := by
  intro order found refunded
  obtain ⟨after, isAfter, stays⟩ := isRefunded_iff.1
    (changes.stays (isRefunded_iff.2 ⟨order, found, refunded⟩))
  rcases changes.refunds after isAfter stays with before | ⟨key, impossible, -⟩
  · cases found.symm.trans before
    exact isAfter
  · cases impossible

variable [Sha256]

/-- What a finished call shows: an order it answered with is stored refunded under its key. -/
def RefundShown (orderId : Id) (event : EventCall) (answer : Except EventFailure EventAnswer)
    (data : EventData) (now : Instant) : Prop :=
  ∀ key, event.refundKeyFor orderId = some key → ∀ result, answer = .ok (.ordered result) →
    RefundStored orderId key result.order data now

theorem protects_shown (event : EventCall) (answer : Except EventFailure EventAnswer) :
    (refundAccess orderId finds).Protects ∅ (RefundShown orderId event answer) :=
  Protects.all fun key => Protects.when (Protects.all fun result =>
    Protects.when (protects_stored key result.order))

theorem EventCall.prog_keepsRefund [UnicodeCase] (event : EventCall) :
    (refundAccess orderId finds).Runs call ∅ (fun _ _ => True) (event.prog call) ∅
      (RefundShown orderId event) := by
  have others : event.refundKeyFor orderId = none →
      (refundAccess orderId finds).Runs call ∅ (fun _ _ => True) (event.prog call) ∅
        (RefundShown orderId event) := by
    intro noKey
    have runs : (refundAccess orderId finds).Serves call (event.prog call) := by
      apply event.prog_acts.runs
      intro _ data _ data' keyed write _
      have changes := write.orderChanges orderId
      rw [noKey] at changes
      exact ⟨changes.keyed keyed, changes.keepsRefund⟩
    apply runs.weaken subset_rfl subset_rfl fun _ _ _ _ => trivial
    intro _ _ _ _ key impossible
    cases noKey.symm.trans impossible
  cases isKey : event.refundKeyFor orderId with
  | none => exact others isKey
  | some key =>
    cases event with
    | refundEventOrder input =>
      have ofInput : input.orderId = orderId ∧ input.refundKey = some key := by
        simpa [refundKeyFor] using isKey
      apply Runs.bind (input.refundEventOrder_answers ofInput.1 ofInput.2)
      intro answer
      cases answer with
      | error failure =>
        apply Runs.pure (protects_shown _ _)
        exact fun _ _ _ _ _ _ _ impossible => nomatch impossible
      | ok result =>
        apply Runs.pure (protects_shown _ _)
        intro data now _ stored other isOther answered isAnswer
        cases isAnswer
        cases isKey.symm.trans isOther
        exact stored
    | createEventOrder input => cases isKey
    | cancelEventOrder input => cases isKey
    | checkInEventTicket input => cases isKey
    | updateEventSession input => cases isKey

end

section

variable [Sha256] [UnicodeCase] {calls : EventCallId → EventCall} {orderId : Id}
variable {finds : EventCallId → Prop} {store : EventStore}
variable {c : Config EventCallId EventStore (Except EventFailure EventAnswer)}
variable {moves : List (Move EventCallId EventStore)}

omit [Sha256] [UnicodeCase] in
theorem rewritesRefund_of_not_keeps {move : Move EventCallId EventStore}
    (rewrites : ¬KeepsRefund orderId move.before.data move.after.data) :
    RewritesRefund orderId move := by
  simp only [KeepsRefund, not_forall] at rewrites
  obtain ⟨order, found, refunded, changed⟩ := rewrites
  exact ⟨isRefunded_iff.2 ⟨order, found, refunded⟩, found ▸ changed⟩

theorem keepsRefund_of_seen (keyed : store.data.RefundsKeyed)
    (run : (eventSystem calls).Run (.initial store) moves c)
    (seen : ∀ move ∈ moves, RefundSeen orderId finds move.session move.before.data
      move.after.data) :
    (refundAccess orderId finds).Sound (fun call => RefundShown orderId (calls call)) c ∧
      ∀ move ∈ moves, KeepsRefund orderId move.before.data move.after.data := by
  have sound := run_sound (fun call => (calls call).prog_keepsRefund) (sound_initial keyed) run seen
  exact ⟨sound.1, fun move isMove => (sound.2 move isMove).writes⟩

theorem keepsRefund_of_run (keyed : store.data.RefundsKeyed)
    (run : (eventSystem calls).Run (.initial store) moves c)
    (notOvertaken : moves.Pairwise (RefundNotOvertaken orderId)) :
    (refundAccess orderId fun _ => False).Sound (fun call => RefundShown orderId (calls call)) c ∧
      ∀ move ∈ moves, KeepsRefund orderId move.before.data move.after.data := by
  have unharmed : ∀ move ∈ moves, ¬¬KeepsRefund orderId move.before.data move.after.data := by
    have isSettled : ∀ move : Move EventCallId EventStore,
        ¬KeepsRefund orderId move.before.data move.after.data →
          ShowsRefund orderId move.before :=
      fun move rewrites => (rewritesRefund_of_not_keeps rewrites).1
    have foundBefore : moves.Pairwise fun earlier later => earlier.session = later.session →
        ¬KeepsRefund orderId later.before.data later.after.data →
          ShowsRefund orderId earlier.before :=
      notOvertaken.imp fun found same rewrites => found same (rewritesRefund_of_not_keeps rewrites)
    have isFair : ∀ move ∈ moves, True := fun _ _ => trivial
    apply System.Run.unharmed _ isSettled run isFair foundBefore
    intro finds moves c run _ meets move isMove rewrites
    apply rewrites
    exact (keepsRefund_of_seen keyed run fun move isMove =>
      { settled := (meets move isMove).1, found := (meets move isMove).2 }).2 move isMove
  exact keepsRefund_of_seen keyed run fun move isMove =>
    { settled := False.elim, found := fun rewrites => unharmed move isMove rewrites }

omit [Sha256] [UnicodeCase] in
variable (store) in
theorem run_eventNow (given : Option Instant) : ∃ now, (eventNow given).run store = some (now, store) := by
  cases given with
  | none => exact ⟨store.now, rfl⟩
  | some now => exact ⟨now, rfl⟩

omit [UnicodeCase] in
theorem RefundEventOrderInput.replay_refundEventOrder {input : RefundEventOrderInput}
    {call : EventCallId} {order : EventOrder} {key : String} {reason : Option (Option String)}
    (keyed : store.data.RefundsKeyed) (found : store.data.order? input.orderId = some order)
    (ofRestaurant : order.restaurantId = input.restaurantId)
    (hasKey : order.refundIdempotencyKey = some key) (isKey : input.refundKey = some key)
    (isReason : normalizeReason input.reason = .ok reason) :
    (input.refundEventOrder call).run store =
      some (.ok { order, ticketCodes := none, replayed := true }, store) := by
  have isRow : store.data.orderOf? input.restaurantId input.orderId = some order := by
    simp [EventData.orderOf?, found, ofRestaurant]
  have isExisting : store.data.orderByRefund? key = some order :=
    KeyedRows.find_of_column keyed.keys (KeyedRows.mem_of_lookup found) hasKey
  obtain ⟨now, readsClock⟩ := run_eventNow store input.now
  unfold refundKey at isKey
  split at isKey
  next rawKey isRaw =>
    cases isKey
    simp [refundEventOrder, readsClock, isRaw, isReason, isRow, isExisting]
  next => cases isKey

structure RefundedOnce (calls : EventCallId → EventCall) (orderId : Id)
    (moves : List (Move EventCallId EventStore))
    (c : Config EventCallId EventStore (Except EventFailure EventAnswer)) : Prop where
  once : moves.Pairwise fun earlier later => Refunds orderId earlier → ¬Refunds orderId later
  keyOfCall : ∀ move ∈ moves, Refunds orderId move → ∃ key order,
    (calls move.session).refundKeyFor orderId = some key ∧
      RefundStored orderId key order c.shared.data c.shared.now
  answered : ∀ call key result, (calls call).refundKeyFor orderId = some key →
    c.procs call = some (.done (.ok (.ordered result))) →
      RefundStored orderId key result.order c.shared.data c.shared.now
  replayed : ∀ key order, RefundStored orderId key order c.shared.data c.shared.now →
    ∀ (call : EventCallId) (replay : RefundEventOrderInput) reason, replay.orderId = orderId →
      replay.restaurantId = order.restaurantId → replay.refundKey = some key →
        normalizeReason replay.reason = .ok reason →
          (replay.refundEventOrder call).run c.shared =
            some (.ok { order, ticketCodes := none, replayed := true }, c.shared)

/-- In a run in which no refund of the order is overtaken, it is refunded once. -/
theorem order_refundedOnce (keyed : store.data.RefundsKeyed) (orderId : Id)
    (run : (eventSystem calls).Run (.initial store) moves c)
    (notOvertaken : moves.Pairwise (RefundNotOvertaken orderId)) :
    RefundedOnce calls orderId moves c := by
  obtain ⟨sound, keeps⟩ := keepsRefund_of_run keyed run notOvertaken
  have related : MovesRelated (KeepsRefund orderId) store.data c.shared.data moves :=
    moves_related (KeepsRefund.refl orderId) (fun first second => first.trans second) run keeps
  constructor
  · apply related.between.imp_of_mem
    intro earlier later _ isLater kept first second
    obtain ⟨order, found, refunded⟩ := isRefunded_iff.1 first.1
    have before := kept order found refunded
    exact second.2 ((keeps later isLater order before refunded).trans before.symm)
  · intro move isMove refunds
    obtain ⟨order, found, refunded⟩ := isRefunded_iff.1 refunds.1
    have stored := related.toEnd move isMove order found refunded
    have step := actSteps_of_run (fun call => (calls call).prog_acts) run move isMove
    rcases step.data with unchanged | write
    · exact absurd (congrArg (EventData.order? · orderId) unchanged) refunds.2
    · rcases (write.orderChanges orderId).refunds order found refunded with before | ⟨key, isKey, hasKey⟩
      · exact absurd (found.trans before.symm) refunds.2
      · exact ⟨key, order, isKey, stored, refunded, hasKey⟩
  · exact fun call key result isKey finished => sound.outcome finished key isKey result rfl
  · intro key order stored call replay reason isThis ofRestaurant isKey isReason
    subst isThis
    exact replay.replay_refundEventOrder sound.inv stored.1 ofRestaurant.symm stored.2.2 isKey
      isReason

end

section

attribute [local instance] UnicodeCase.ascii Sha256.plain

instance (orderId : Id) (move : Move EventCallId EventStore) : Decidable (Refunds orderId move) :=
  inferInstanceAs (Decidable (_ ∧ _))

instance (orderId : Id) (move : Move EventCallId EventStore) :
    Decidable (RewritesRefund orderId move) :=
  inferInstanceAs (Decidable (_ ∧ _))

instance (orderId : Id) (earlier later : Move EventCallId EventStore) :
    Decidable (RefundNotOvertaken orderId earlier later) :=
  inferInstanceAs (Decidable (_ = _ → _ → _ = _))

def paidSeat : EventStore where
  data :=
    { smallHall.data with
      orders := [⟨"o", "r", "e", "s", "t", none, none, none, 1, 1500, 1500, "EUR", .CONFIRMED, none,
        none, none, none, "staff"⟩] }
  now := 10
  owner _ := none

/-- Two refunds of the order, each under a key of its own. -/
def refundedTwice (call : EventCallId) : EventCall :=
  match call with
  | 0 => .refundEventOrder ⟨"r", "o", "first-refund", none, none⟩
  | _ => .refundEventOrder ⟨"r", "o", "second-refund", none, none⟩

/-- The second refund is asked for once the first one is done. -/
theorem order_refundedOnce_twice :
    ∃ moves c, (eventSystem refundedTwice).Run (.initial paidSeat) moves c ∧
      c.shared.data.isRefunded "o" = true ∧ RefundedOnce refundedTwice "o" moves c := by
  obtain ⟨moves, c, run, isRefunded, notOvertaken⟩ :=
    (eventSystem refundedTwice).exists_run_of_schedule ([0, 0, 0, 0, 0, 0] ++ [1, 1, 1, 1])
      (.initial paidSeat) (fun moves c => c.shared.data.isRefunded "o" = true ∧
        moves.Pairwise (RefundNotOvertaken "o")) (by decide +kernel)
  have keyed : paidSeat.data.RefundsKeyed :=
    ⟨by decide, by decide, by decide⟩
  exact ⟨moves, c, run, isRefunded, order_refundedOnce keyed "o" run notOvertaken⟩

/-- Two calls that both read the order before either refunds it refund it twice. -/
theorem order_refunded_again :
    ¬ ∀ (calls : EventCallId → EventCall) (store : EventStore), store.data.RefundsKeyed →
      store.data.violation? = none → ∀ orderId moves c,
        (eventSystem calls).Run (.initial store) moves c → RefundedOnce calls orderId moves c := by
  intro claim
  obtain ⟨moves, c, run, again⟩ := (eventSystem refundedTwice).exists_run_of_schedule
    ([0, 0, 0, 0] ++ [1, 1, 1, 1] ++ [0, 0] ++ [1, 1]) (.initial paidSeat)
    (fun moves _ => ¬moves.Pairwise fun earlier later => Refunds "o" earlier → ¬Refunds "o" later)
    (by decide +kernel)
  have keyed : paidSeat.data.RefundsKeyed :=
    ⟨by decide, by decide, by decide⟩
  have accepted : paidSeat.data.violation? = none := by decide +kernel
  exact again (claim _ _ keyed accepted "o" moves c run).once

end

end Sokar
