import Sokar.Events.SessionCapacity

/-!
# Cancelled orders and their tickets

The update of an order and the update of its tickets are statements of their own.  A call that
finds the order cancelled answers without a look at the tickets, which an earlier call may have
left issued.
-/

namespace Sokar

open Process Transaction Transaction.Access

namespace EventData

variable (data : EventData) (orderId : Id)

/-- The order is there and no longer takes seats. -/
def isEnded : Bool :=
  (data.order? orderId).any fun order => order.status != .CONFIRMED

def isCancelled : Bool :=
  (data.order? orderId).any fun order => order.status == .CANCELLED

def OrdersUnique : Prop :=
  (data.orders.map (·.id)).Nodup

def TicketsClosed : Prop :=
  ∀ ticket ∈ data.tickets, ticket.orderId = orderId → ticket.status ≠ .ISSUED

instance : Decidable data.OrdersUnique :=
  inferInstanceAs (Decidable (List.Nodup _))

instance : Decidable (data.TicketsClosed orderId) :=
  inferInstanceAs (Decidable (∀ ticket ∈ data.tickets, _ → _))

/-- The order has ended and no ticket of it is issued. -/
structure Closed : Prop where
  ended : data.isEnded orderId = true
  tickets : data.TicketsClosed orderId

end EventData

/-- What the calls leave of an order that has ended. -/
structure KeepsClosed (orderId : Id) (data data' : EventData) : Prop where
  ended : data.isEnded orderId = true → data'.isEnded orderId = true
  closed : data.Closed orderId → data'.Closed orderId

section

variable {data data' : EventData} {orderId : Id}

theorem isEnded_iff : data.isEnded orderId = true ↔
      ∃ order, data.order? orderId = some order ∧ order.status ≠ .CONFIRMED := by
  simp only [EventData.isEnded, Option.any_eq_true, bne_iff_ne]

theorem isEnded_of_isCancelled (cancelled : data.isCancelled orderId = true) :
    data.isEnded orderId = true := by
  simp only [EventData.isCancelled, Option.any_eq_true, beq_iff_eq] at cancelled
  obtain ⟨order, found, isCancelled⟩ := cancelled
  refine isEnded_iff.2 ⟨order, found, ?_⟩
  rw [isCancelled]
  decide

theorem KeepsClosed.refl (orderId : Id) (data : EventData) : KeepsClosed orderId data data :=
  ⟨id, id⟩

theorem KeepsClosed.insertOrder {order : EventOrder} {tickets : List EventTicket}
    (isNew : ∀ other ∈ data.orders, other.id ≠ order.id)
    (ofOrder : ∀ ticket ∈ tickets, ticket.orderId = order.id) :
    KeepsClosed orderId data (data.insertOrder order tickets) := by
  have ended : data.isEnded orderId = true →
      (data.insertOrder order tickets).isEnded orderId = true := by
    rw [isEnded_iff, isEnded_iff]
    rintro ⟨other, found, notConfirmed⟩
    exact ⟨other, order?_insertOrder found, notConfirmed⟩
  refine ⟨ended, fun closed => ⟨ended closed.ended, fun ticket isTicket isOf => ?_⟩⟩
  rcases List.mem_append.1 isTicket with before | new
  · exact closed.tickets ticket before isOf
  · obtain ⟨other, found, -⟩ := isEnded_iff.1 closed.ended
    have same : other.id = order.id :=
      (KeyedRows.key_of_lookup found).trans (isOf.symm.trans (ofOrder ticket new))
    exact absurd same (isNew other (KeyedRows.mem_of_lookup found))

theorem KeepsClosed.updateOrders {selected : EventOrder → Bool} {change : EventOrder → EventOrder}
    (keeps : ∀ order, (change order).id = order.id)
    (notConfirmed : ∀ order, (change order).status ≠ .CONFIRMED) :
    KeepsClosed orderId data (data.updateOrders selected change) := by
  have ended : data.isEnded orderId = true →
      (data.updateOrders selected change).isEnded orderId = true := by
    rw [isEnded_iff, isEnded_iff]
    rintro ⟨order, found, isEnded⟩
    refine ⟨if selected order then change order else order, ?_, ?_⟩
    · change KeyedRows.lookup (·.id) (KeyedRows.update selected change data.orders) orderId = _
      rw [KeyedRows.lookup_update _ keeps]
      exact congrArg (Option.map _) found
    · split
      · exact notConfirmed order
      · exact isEnded
  exact ⟨ended, fun closed => ⟨ended closed.ended, closed.tickets⟩⟩

theorem KeepsClosed.updateTickets {selected : EventTicket → Bool}
    {change : EventTicket → EventTicket} (notIssued : ∀ ticket, (change ticket).status ≠ .ISSUED) :
    KeepsClosed orderId data (data.updateTickets selected change) := by
  refine ⟨id, fun closed => ⟨closed.ended, fun ticket isTicket isOf => ?_⟩⟩
  obtain ⟨before, isBefore, rfl⟩ := List.mem_map.1 isTicket
  split at isOf
  next isSelected =>
    rw [if_pos isSelected]
    exact notIssued before
  next unselected =>
    rw [if_neg unselected]
    exact closed.tickets before isBefore isOf

end

theorem EventWrite.keepsClosed [Sha256] {event : EventCall} {data data' : EventData}
    (write : EventWrite event data data') (orderId : Id) : KeepsClosed orderId data data' := by
  cases write with
  | insertOrder input ticketType _ _ accepted =>
    apply KeepsClosed.insertOrder (isNew_of_nodup (orders_nodup accepted))
    intro ticket isTicket
    obtain ⟨index, -, rfl⟩ := List.mem_map.1 isTicket
    rfl
  | cancelOrder input _ now =>
    exact .updateOrders (fun _ => rfl) fun _ => by simp [EventOrder.cancelled]
  | refundOrder input reason now _ _ =>
    exact .updateOrders (fun _ => rfl) fun _ => by simp [EventOrder.refunded]
  | cancelTickets => exact .updateTickets fun _ => by simp [EventTicket.cancelled]
  | refundTickets => exact .updateTickets fun _ => by simp [EventTicket.refunded]
  | checkIn => exact .updateTickets fun _ => by simp [EventTicket.checkedIn]
  | updateSession => exact ⟨id, fun closed => ⟨closed.ended, closed.tickets⟩⟩

/-! ## The seats of an order -/

section

variable {data data' : EventData} {orderId : Id}

/-- The order takes seats before the move, and no longer after it. -/
def GivesBack (orderId : Id) (move : Move EventCallId EventStore) : Bool :=
  !move.before.data.isEnded orderId && move.after.data.isEnded orderId

def SeatsFreed (orderId : Id) (data data' : EventData) : Prop :=
  ∃ order, data.order? orderId = some order ∧ order.status = .CONFIRMED ∧
    data'.usedSeats order.restaurantId order.sessionId + order.quantity =
      data.usedSeats order.restaurantId order.sessionId

theorem SeatsFreed.updateOrders {selected : EventOrder → Bool} {change : EventOrder → EventOrder}
    (unique : data.OrdersUnique) (keeps : ∀ order, (change order).id = order.id)
    (notConfirmed : ∀ order, (change order).status ≠ .CONFIRMED)
    (single : ∀ order other, selected order = true → selected other = true → order.id = other.id)
    (notEnded : data.isEnded orderId = false)
    (ended : (data.updateOrders selected change).isEnded orderId = true) :
    SeatsFreed orderId data (data.updateOrders selected change) := by
  obtain ⟨after, found, isEnded⟩ := isEnded_iff.1 ended
  change KeyedRows.lookup (·.id) (KeyedRows.update selected change data.orders) orderId = _ at found
  rw [KeyedRows.lookup_update _ keeps] at found
  obtain ⟨order, isOrder, same⟩ := Option.map_eq_some_iff.1 found
  have confirmed : order.status = .CONFIRMED := by
    by_contra other
    rw [isEnded_iff.2 ⟨order, isOrder, other⟩] at notEnded
    cases notEnded
  have isSelected : selected order = true := by
    by_contra unselected
    rw [if_neg unselected] at same
    rw [← same] at isEnded
    exact isEnded confirmed
  refine ⟨order, isOrder, confirmed, ?_⟩
  apply KeyedRows.sum_filter_update_single (fun row : EventOrder => row.quantity)
    (List.Nodup.of_map _ unique) (KeyedRows.mem_of_lookup isOrder)
  · intro other isOther
    constructor
    · intro otherSelected
      exact List.inj_on_of_nodup_map unique isOther (KeyedRows.mem_of_lookup isOrder)
        (single other order otherSelected isSelected)
    · rintro rfl
      exact isSelected
  · simp [confirmed]
  · simp [notConfirmed order]

section

variable [Sha256] {event : EventCall} (write : EventWrite event data data')
variable (unique : data.OrdersUnique)
include write unique

theorem EventWrite.seatsFreed (notEnded : data.isEnded orderId = false)
    (ended : data'.isEnded orderId = true) : SeatsFreed orderId data data' := by
  have changed : data'.orders ≠ data.orders := by
    intro same
    rw [EventData.isEnded, EventData.order?, same] at ended
    exact Bool.false_ne_true (notEnded.symm.trans ended)
  cases write with
  | insertOrder input ticketType _ _ accepted =>
    exfalso
    obtain ⟨order, found, isEnded⟩ := isEnded_iff.1 ended
    change KeyedRows.lookup (·.id) (data.orders ++ [_]) orderId = some order at found
    rw [KeyedRows.lookup_append, Option.or_eq_some_iff] at found
    rcases found with before | ⟨-, new⟩
    · rw [isEnded_iff.2 ⟨order, before, isEnded⟩] at notEnded
      cases notEnded
    · split at new
      · cases new
        exact isEnded rfl
      · cases new
  | cancelOrder input _ now =>
    refine .updateOrders unique (fun _ => rfl) (fun _ => by simp [EventOrder.cancelled]) ?_
      notEnded ended
    intro order other isOrder isOther
    simp only [CancelEventOrderInput.cancels, Bool.and_eq_true, beq_iff_eq] at isOrder isOther
    exact isOrder.1.1.trans isOther.1.1.symm
  | refundOrder input reason now _ _ =>
    refine .updateOrders unique (fun _ => rfl) (fun _ => by simp [EventOrder.refunded]) ?_
      notEnded ended
    intro order other isOrder isOther
    rw [beq_iff_eq] at isOrder isOther
    exact isOrder.trans isOther.symm
  | cancelTickets => exact absurd rfl changed
  | refundTickets => exact absurd rfl changed
  | checkIn => exact absurd rfl changed
  | updateSession => exact absurd rfl changed

theorem EventWrite.orders_nodup : data'.OrdersUnique := by
  cases write with
  | insertOrder input ticketType _ _ accepted => exact Sokar.orders_nodup accepted
  | refundOrder input reason now _ accepted => exact Sokar.orders_nodup accepted
  | cancelOrder input _ now =>
    change ((KeyedRows.update _ _ data.orders).map _).Nodup
    rw [KeyedRows.map_update]
    · exact unique
    · exact fun order => rfl
  | cancelTickets => exact unique
  | refundTickets => exact unique
  | checkIn => exact unique
  | updateSession => exact unique

end

end

def EventCall.isCancellation (orderId : Id) : EventCall → Bool
  | .cancelEventOrder input => input.orderId == orderId
  | _ => false

/-- A step of a cancellation that finds the order cancelled finds its tickets closed, or closes
them. -/
def FinishesCancellation (event : EventCall) (orderId : Id) (data data' : EventData) : Prop :=
  event.isCancellation orderId = true → data.isCancelled orderId = true →
    data.TicketsClosed orderId ∨ data'.TicketsClosed orderId

section

variable (calls : EventCallId → EventCall) (orderId : Id)

def cancellationAccess : Access EventData EventLock EventCallId where
  inv := fun data _ => data.OrdersUnique
  writes := fun _ => KeepsClosed orderId
  meets := fun call _ _ => FinishesCancellation (calls call) orderId
  inv_later := fun _ unique => unique
  writes_refl := fun _ => KeepsClosed.refl orderId
  writes_mono := fun _ keeps => keeps

variable {calls} {orderId} {call : EventCallId}

theorem protects_closed :
    (cancellationAccess calls orderId).Protects ∅ fun data _ => data.Closed orderId where
  writes _ _ keeps closed := keeps.closed closed
  clock _ closed := closed

theorem protects_ended :
    (cancellationAccess calls orderId).Protects ∅ fun data _ => data.isEnded orderId = true where
  writes _ _ keeps ended := keeps.ended ended
  clock _ ended := ended

namespace CancelEventOrderInput

variable {input : CancelEventOrderInput}

theorem isEnded_of_cancels {data : EventData} (unique : data.OrdersUnique)
    (now : Instant) (cancels : data.orders.any input.cancels = true) :
    (data.updateOrders input.cancels (·.cancelled now)).isEnded input.orderId = true := by
  obtain ⟨order, isOrder, isCancelled⟩ := List.any_eq_true.1 cancels
  have isThis : order.id = input.orderId := by
    simp only [CancelEventOrderInput.cancels, Bool.and_eq_true, beq_iff_eq] at isCancelled
    exact isCancelled.1.1
  have found : KeyedRows.lookup (·.id) data.orders input.orderId = some order := by
    rw [← isThis]
    exact KeyedRows.lookup_of_mem unique isOrder
  have keeps : ∀ order : EventOrder, (order.cancelled now).id = order.id := fun _ => rfl
  refine isEnded_iff.2 ⟨order.cancelled now, ?_, by simp [EventOrder.cancelled]⟩
  change KeyedRows.lookup (·.id) (KeyedRows.update input.cancels _ data.orders) input.orderId = _
  rw [KeyedRows.lookup_update _ keeps, found, Option.map_some, if_pos isCancelled]

def Updated (orderId : Id) (updated : Bool) (data : EventData) (_ : Instant) : Prop :=
  updated = true → data.isEnded orderId = true

/-- What the search for an order that was not updated tells. -/
def Found (orderId : Id) (current : Option EventOrder) (data : EventData) (_ : Instant) : Prop :=
  ∀ order, current = some order → order.status = .CANCELLED → data.Closed orderId

theorem cancelEventOrder_closes [Sha256] (isCall : calls call = .cancelEventOrder input) :
    (cancellationAccess calls input.orderId).Runs call ∅ (fun _ _ => True)
      (input.cancelEventOrder call) ∅ (OnOk fun _ data _ => data.Closed input.orderId) := by
  have isCancellation : (calls call).isCancellation input.orderId = true := by
    rw [isCall]
    exact beq_self_eq_true input.orderId
  have protectsUpdated : ∀ updated, (cancellationAccess calls input.orderId).Protects ∅
      (Updated input.orderId updated) := fun updated => Protects.when protects_ended
  have protectsFound : ∀ current, (cancellationAccess calls input.orderId).Protects ∅
      (Found input.orderId current) :=
    fun current => Protects.all fun order => Protects.when (Protects.when protects_closed)
  apply Runs.bind ((quiet_eventNow input.now).runs (protects_const True))
  intro now
  apply Runs.bind
  · apply Runs.commit (protects_const True) protectsUpdated
    · intro data _ unique _
      have write : EventWrite (.cancelEventOrder input) data _ := .cancelOrder input data now
      exact ⟨write.orders_nodup unique, write.keepsClosed input.orderId⟩
    · exact fun data _ unique _ => isEnded_of_cancels unique now
  intro updated
  split
  next notUpdated =>
    apply Runs.knowing fun _ _ _ _ => trivial
    apply Runs.bind
    · apply Runs.readWhen (protects_const True) protectsFound
      intro _ data _ _ _ finishes order found cancelled
      obtain ⟨isOrder, -⟩ := order?_of_orderOf? found
      have isCancelled : data.isCancelled input.orderId = true := by
        simp [EventData.isCancelled, isOrder, cancelled]
      refine ⟨isEnded_of_isCancelled isCancelled, ?_⟩
      exact (finishes isCancellation isCancelled).elim id id
    intro current
    apply Runs.pure (Protects.onOk (fun _ => protects_closed) _)
    intro data now _ isClosed
    cases current with
    | none => trivial
    | some order =>
      dsimp only [refusal]
      split
      next cancelled => exact isClosed.2 order rfl cancelled
      · split <;> trivial
  next isUpdated =>
    apply Runs.knowing fun _ _ _ ended => ended (by simpa using isUpdated)
    apply Runs.bind
    · apply Runs.commit protects_ended fun _ => protects_closed
      · intro data _ unique _
        have write : EventWrite (.cancelEventOrder input) data _ := .cancelTickets input data
        exact ⟨unique, write.keepsClosed input.orderId⟩
      · intro data _ _ ended
        refine ⟨ended, fun ticket isTicket isOf isIssued => ?_⟩
        obtain ⟨before, isBefore, rfl⟩ := List.mem_map.1 isTicket
        split at isIssued
        next => cases isIssued
        next unselected =>
          rw [if_neg unselected] at isOf
          exact unselected (by simp [isOf, isIssued])
    intro _
    apply Runs.bind (Runs.look protects_closed)
    intro row
    apply Runs.pure (Protects.onOk (fun _ => protects_closed) _)
    intro data now _ isClosed
    cases row with
    | none => trivial
    | some row => exact isClosed

end CancelEventOrderInput

variable [Sha256]

/-- What a finished call shows: an order whose cancellation was answered is closed. -/
def CancellationShown (orderId : Id) (event : EventCall) (answer : Except EventFailure EventAnswer)
    (data : EventData) (_ : Instant) : Prop :=
  event.isCancellation orderId = true → ∀ result, answer = .ok result → data.Closed orderId

omit [Sha256] in
theorem protects_cancellationShown (event : EventCall) (answer : Except EventFailure EventAnswer) :
    (cancellationAccess calls orderId).Protects ∅ (CancellationShown orderId event answer) :=
  Protects.when (Protects.all fun _ => Protects.when protects_closed)

theorem EventCall.prog_closes [UnicodeCase] :
    (cancellationAccess calls orderId).Runs call ∅ (fun _ _ => True) ((calls call).prog call) ∅
      (CancellationShown orderId (calls call)) := by
  cases isCancellation : (calls call).isCancellation orderId with
  | false =>
    have runs : (cancellationAccess calls orderId).Serves call ((calls call).prog call) := by
      apply (calls call).prog_acts.runs
      exact fun _ data _ data' unique write _ =>
        ⟨write.orders_nodup unique, write.keepsClosed orderId⟩
    apply runs.weaken subset_rfl subset_rfl fun _ _ _ _ => trivial
    intro _ _ _ _ impossible
    cases isCancellation.symm.trans impossible
  | true =>
    cases isCall : calls call with
    | cancelEventOrder input =>
      rw [isCall] at isCancellation
      have isThis : input.orderId = orderId := beq_iff_eq.1 isCancellation
      subst isThis
      apply Runs.bind (CancelEventOrderInput.cancelEventOrder_closes isCall)
      intro answer
      cases answer with
      | error failure =>
        apply Runs.pure (protects_cancellationShown _ _)
        exact fun _ _ _ _ _ _ impossible => nomatch impossible
      | ok result =>
        apply Runs.pure (protects_cancellationShown _ _)
        exact fun _ _ _ closed _ _ _ => closed
    | createEventOrder input =>
      rw [isCall] at isCancellation
      cases isCancellation
    | refundEventOrder input =>
      rw [isCall] at isCancellation
      cases isCancellation
    | checkInEventTicket input =>
      rw [isCall] at isCancellation
      cases isCancellation
    | updateEventSession input =>
      rw [isCall] at isCancellation
      cases isCancellation

end

section

variable [Sha256] [UnicodeCase] {calls : EventCallId → EventCall} {store : EventStore}
  {c : Config EventCallId EventStore (Except EventFailure EventAnswer)}
  {moves : List (Move EventCallId EventStore)}

end

section

attribute [local instance] UnicodeCase.ascii Sha256.plain

/-- A confirmed order of one ticket, which is issued. -/
def issuedSeat : EventStore where
  data :=
    { smallHall.data with
      orders := [⟨"o", "r", "e", "s", "t", none, none, none, 1, 1500, 1500, "EUR", .CONFIRMED, none,
        none, none, none, "staff"⟩]
      tickets := [⟨"k", "r", "e", "s", "o", "t", "hash", "ABCD", .ISSUED, none, none⟩] }
  now := 10
  owner _ := none

def cancelSeat : EventCall :=
  .cancelEventOrder ⟨"r", "o", some 20⟩

instance (event : EventCall) (orderId : Id) (data data' : EventData) :
    Decidable (FinishesCancellation event orderId data data') :=
  inferInstanceAs (Decidable (_ → _ → _ ∨ _))

end

end Sokar
