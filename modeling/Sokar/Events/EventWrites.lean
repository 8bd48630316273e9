import Sokar.Events.TicketOrders
import Sokar.Library.QuietPrograms

/-!
# What calls about events write

Each call of the service writes one of a few changes, under guards that it checks; the changes
are listed once, for every invariant to be derived from.
-/

namespace Sokar

open Process Transaction

inductive EventCall where
  | createEventOrder (input : CreateEventOrderInput)
  | cancelEventOrder (input : CancelEventOrderInput)
  | refundEventOrder (input : RefundEventOrderInput)
  | checkInEventTicket (input : CheckInEventTicketInput)
  | updateEventSession (input : UpdateEventSessionInput)

inductive EventAnswer where
  | ordered (result : EventOrderMutationResult)
  | checkedIn (result : EventTicketMutationResult)
  | updated (session : EventSession)
  deriving DecidableEq

section

variable [Sha256] [UnicodeCase]

def EventCall.prog (call : EventCallId) : EventCall → EventProg (Except EventFailure EventAnswer)
  | .createEventOrder input =>
    (input.createEventOrder call).andThen fun result => pure (.ok (.ordered result))
  | .cancelEventOrder input =>
    (input.cancelEventOrder call).andThen fun result => pure (.ok (.ordered result))
  | .refundEventOrder input =>
    (input.refundEventOrder call).andThen fun result => pure (.ok (.ordered result))
  | .checkInEventTicket input =>
    (input.checkInEventTicket call).andThen fun result => pure (.ok (.checkedIn result))
  | .updateEventSession input =>
    (input.updateEventSession call).andThen fun session => pure (.ok (.updated session))

def eventSystem (calls : EventCallId → EventCall) :
    System EventCallId EventStore (Except EventFailure EventAnswer) :=
  system fun call => (calls call).prog call

end

variable (input : RefundEventOrderInput)

def RefundEventOrderInput.refundKey [Sha256] : Option String :=
  match normalizeEventIdempotencyKey (some input.idempotencyKey) with
  | .ok (some rawKey) =>
    some (hashWithPrefix "sokar:event-refund-idempotency:" input.restaurantId rawKey)
  | _ => none

/-- The tickets of an order that a cancellation closes. -/
def CancelEventOrderInput.cancelsTicket (input : CancelEventOrderInput) (ticket : EventTicket) :
    Bool :=
  ticket.orderId == input.orderId && ticket.status == .ISSUED

def RefundEventOrderInput.refundsTicket (ticket : EventTicket) : Bool :=
  ticket.orderId == input.orderId && (ticket.status == .ISSUED || ticket.status == .CANCELLED)

inductive EventWrite [Sha256] : EventCall → EventData → EventData → Prop where
  | insertOrder (input : CreateEventOrderInput) {data : EventData} {rawKey : Option String}
      {quantity : Nat} (ticketType : EventTicketType)
      (isKey : normalizeEventIdempotencyKey input.idempotencyKey = .ok rawKey)
      (isQuantity : normalizeQuantity input.quantity = .ok quantity)
      (accepted : (data.insertOrder (input.order
        (rawKey.map (hashWithPrefix "sokar:event-idempotency:" input.restaurantId)) quantity
        ticketType) ((List.range quantity).map input.ticket)).violation? = none) :
      EventWrite (.createEventOrder input) data (data.insertOrder (input.order
        (rawKey.map (hashWithPrefix "sokar:event-idempotency:" input.restaurantId)) quantity
        ticketType) ((List.range quantity).map input.ticket))
  | cancelOrder (input : CancelEventOrderInput) (data : EventData) (now : Instant) :
      EventWrite (.cancelEventOrder input) data (data.updateOrders input.cancels (·.cancelled now))
  | cancelTickets (input : CancelEventOrderInput) (data : EventData) :
      EventWrite (.cancelEventOrder input) data
        (data.updateTickets input.cancelsTicket (·.cancelled))
  | refundOrder (input : RefundEventOrderInput) {data : EventData} {key : String}
      (reason : Option (Option String)) (now : Instant) (isKey : input.refundKey = some key)
      (accepted : (data.updateOrders (fun order => order.id == input.orderId)
        (·.refunded key reason now)).violation? = none) :
      EventWrite (.refundEventOrder input) data (data.updateOrders
        (fun order => order.id == input.orderId) (·.refunded key reason now))
  | refundTickets (input : RefundEventOrderInput) (data : EventData) :
      EventWrite (.refundEventOrder input) data
        (data.updateTickets input.refundsTicket (·.refunded))
  | checkIn (input : CheckInEventTicketInput) (data : EventData) (ticketId : Id) (now : Instant) :
      EventWrite (.checkInEventTicket input) data (data.updateTickets
        (fun ticket => ticket.id == ticketId && ticket.status == .ISSUED)
        (·.checkedIn now (hashActor input.actor)))
  | updateSession (input : UpdateEventSessionInput) {data : EventData} (sessionId : Id)
      (update : EventSessionUpdate)
      (accepted : (data.updateSession sessionId update.set).violation? = none) :
      EventWrite (.updateEventSession input) data (data.updateSession sessionId update.set)

def EventCall.writes [Sha256] (event : EventCall) (data : EventData) (_ : Instant)
    (data' : EventData) : Prop :=
  EventWrite event data data'

variable {call : EventCallId}

theorem quiet_eventNow (given : Option Instant) : Quiet call (eventNow given) := by
  cases given with
  | none => exact Quiet.query fun _ now => now
  | some now => exact Quiet.pure _

theorem order?_of_orderOf? {data : EventData} {restaurantId orderId : Id} {order : EventOrder}
    (found : data.orderOf? restaurantId orderId = some order) :
    data.order? orderId = some order ∧ order.restaurantId = restaurantId := by
  simpa only [EventData.orderOf?, Option.filter_eq_some_iff, beq_iff_eq] using found

section

variable [Sha256]

namespace CreateEventOrderInput

variable (input : CreateEventOrderInput)

section

omit [Sha256]

theorem quiet_orderable (now : Instant) (quantity : Nat) :
    Quiet call (input.orderable now quantity) := by
  refine Quiet.found (Quiet.pure _) fun found => ?_
  dsimp only
  split
  · exact Quiet.pure _
  split
  · exact Quiet.pure _
  split
  · exact Quiet.pure _
  refine Quiet.found (Quiet.pure _) fun ticketType => ?_
  dsimp only
  split
  · exact Quiet.pure _
  split
  · exact Quiet.pure _
  · exact Quiet.pure _

theorem quiet_assertLinks : Quiet call input.assertLinks := by
  apply Quiet.bind (Quiet.query _)
  intro customer
  split
  · exact Quiet.pure _
  apply Quiet.bind (Quiet.query _)
  intro reservation
  split
  · exact Quiet.pure _
  · exact Quiet.pure _

theorem quiet_seated (now : Instant) (quantity : Nat) :
    Quiet call (input.seated call now quantity) := by
  apply Quiet.bind (Quiet.acquire _)
  intro _
  apply Quiet.bind (input.quiet_orderable now quantity)
  intro found
  cases found with
  | error failure => exact Quiet.pure _
  | ok found =>
    apply Quiet.bind (Quiet.query _)
    intro used
    split
    · exact Quiet.pure _
    · exact Quiet.pure _

end

theorem createEventOrder_acts :
    Acts call (EventCall.createEventOrder input).writes (input.createEventOrder call) := by
  apply Acts.bind (Acts.of_quiet (quiet_eventNow input.now))
  intro now
  split
  · exact Acts.pure _
  · exact Acts.pure _
  next quantity rawKey isQuantity isKey =>
    refine Acts.found ?_ fun _ => Acts.pure _
    apply (Acts.of_quiet (input.quiet_orderable now _)).andThen
    intro _
    apply (Acts.of_quiet input.quiet_assertLinks).andThen
    intro _
    apply Acts.bind
    · apply Acts.transact (Acts.of_quiet (input.quiet_seated now _))
      exact fun ticketType data _ accepted =>
        .inr (.insertOrder input ticketType isKey isQuantity accepted)
    intro created
    split
    · exact Acts.bind (Acts.query _) fun raced => Acts.pure _
    · exact Acts.pure _

end CreateEventOrderInput

theorem CancelEventOrderInput.cancelEventOrder_acts (input : CancelEventOrderInput) :
    Acts call (EventCall.cancelEventOrder input).writes (input.cancelEventOrder call) := by
  apply Acts.bind (Acts.of_quiet (quiet_eventNow input.now))
  intro now
  apply Acts.bind
  · exact Acts.commit fun data _ => .inr (.cancelOrder input data now)
  intro updated
  split
  · exact Acts.bind (Acts.query _) fun current => Acts.pure _
  apply Acts.bind
  · exact Acts.commit fun data _ => .inr (.cancelTickets input data)
  intro _
  exact Acts.bind (Acts.query _) fun row => Acts.pure _

theorem RefundEventOrderInput.refundEventOrder_acts :
    Acts call (EventCall.refundEventOrder input).writes (input.refundEventOrder call) := by
  apply Acts.bind (Acts.of_quiet (quiet_eventNow input.now))
  intro now
  split
  · exact Acts.pure _
  · exact Acts.pure _
  · exact Acts.pure _
  next rawKey reason isKey _ =>
    have returns : (query fun (data : EventData) _ =>
        data.orderOf? input.restaurantId input.orderId : EventProg _).Returns fun current =>
          ∀ order, current = some order → order.id = input.orderId := by
      apply Prog.Returns.read
      intro store order found
      exact KeyedRows.key_of_lookup (order?_of_orderOf? found).1
    apply Acts.bindWhen (Acts.query _) returns
    intro current isOrder
    cases current with
    | none => exact Acts.pure _
    | some current =>
      have sameId := isOrder current rfl
      have ofInput : input.refundKey =
          some (hashWithPrefix "sokar:event-refund-idempotency:" input.restaurantId rawKey) := by
        simp only [refundKey, isKey]
      apply Acts.bind (Acts.query _)
      intro existing
      cases existing with
      | some existing =>
        dsimp only
        split
        · exact Acts.pure _
        · exact Acts.pure _
      | none =>
        dsimp only
        split
        · exact Acts.pure _
        split
        · exact Acts.pure _
        unfold refund
        rw [sameId]
        apply Acts.andThen
        · exact Acts.commitUnless fun data _ accepted =>
            .inr (.refundOrder input reason now ofInput accepted)
        intro row
        apply Acts.bind
        · exact Acts.commit fun data _ => .inr (.refundTickets input data)
        · exact fun _ => Acts.pure _

theorem CheckInEventTicketInput.checkInEventTicket_acts [UnicodeCase]
    (input : CheckInEventTicketInput) :
    Acts call (EventCall.checkInEventTicket input).writes (input.checkInEventTicket call) := by
  unfold checkInEventTicket
  dsimp only
  split
  · exact Acts.pure _
  refine Acts.found (Acts.pure _) fun current => ?_
  dsimp only
  split
  · exact Acts.pure _
  split
  · exact Acts.pure _
  apply Acts.bind (Acts.of_quiet (quiet_eventNow input.now))
  intro now
  apply Acts.bind
  · exact Acts.commit fun data _ => .inr (.checkIn input data current.id now)
  intro updated
  apply Acts.bind (Acts.query _)
  intro row
  split
  · exact Acts.pure _
  · exact Acts.pure _

theorem UpdateEventSessionInput.updateEventSession_acts (input : UpdateEventSessionInput) :
    Acts call (EventCall.updateEventSession input).writes (input.updateEventSession call) := by
  refine Acts.found (Acts.pure _) fun current => ?_
  dsimp only
  split
  · exact Acts.pure _
  split
  · exact Acts.pure _
  apply Acts.bind
  · exact Acts.commitUnless fun data _ accepted =>
      .inr (.updateSession input current.id _ accepted)
  · exact fun updated => Acts.pure _

theorem EventCall.prog_acts [UnicodeCase] (event : EventCall) :
    Acts call event.writes (event.prog call) := by
  cases event with
  | createEventOrder input => exact input.createEventOrder_acts.andThen fun _ => Acts.pure _
  | cancelEventOrder input => exact input.cancelEventOrder_acts.andThen fun _ => Acts.pure _
  | refundEventOrder input => exact input.refundEventOrder_acts.andThen fun _ => Acts.pure _
  | checkInEventTicket input => exact input.checkInEventTicket_acts.andThen fun _ => Acts.pure _
  | updateEventSession input => exact input.updateEventSession_acts.andThen fun _ => Acts.pure _

end

end Sokar
