import Sokar.Events.EventWrites

/-!
# The seats of an event session

Any number of calls about event sessions run statement by statement in any interleaving,
and may stop between two statements.  An order counts the confirmed orders of its session
under the lock of the session.  What it counts covers the tickets that admit someone as
long as these belong to confirmed orders; then no session has more such tickets than seats,
whoever changes its capacity, if that happens above the tickets that are out.
-/

namespace Sokar

open Process Transaction Transaction.Access

namespace EventData

/-- The tickets of a session that are issued or checked in. -/
def liveTickets (data : EventData) (sessionId : Id) : Nat :=
  data.tickets.countP fun ticket => ticket.sessionId == sessionId && ticket.isLive

def WithinCapacity (sessionId : Id) (data : EventData) : Prop :=
  ∀ session, data.session? sessionId = some session → data.liveTickets sessionId ≤ session.capacity

/-- Every ticket belongs to an order of its session, every order to a session of its
restaurant, and an order has no more tickets than it asked for. -/
structure Accounted (data : EventData) : Prop where
  ordered : ∀ ticket ∈ data.tickets, ∃ order, data.order? ticket.orderId = some order ∧
    order.sessionId = ticket.sessionId
  located : ∀ order ∈ data.orders, ∃ session, data.session? order.sessionId = some session ∧
    session.restaurantId = order.restaurantId
  counted : ∀ order ∈ data.orders,
    (data.tickets.countP fun ticket => ticket.orderId == order.id) ≤ order.quantity

/-- The tickets of a session that are issued or checked in belong to confirmed orders. -/
def TicketsConfirmed (sessionId : Id) (data : EventData) : Prop :=
  ∀ ticket ∈ data.tickets, ticket.sessionId = sessionId → ticket.isLive = true →
    ∃ order, data.order? ticket.orderId = some order ∧ order.status = .CONFIRMED

def SessionsStay (data data' : EventData) : Prop :=
  ∀ ⦃sessionId session⦄, data.session? sessionId = some session →
    ∃ session', data'.session? sessionId = some session' ∧
      session'.restaurantId = session.restaurantId

/-- A session of a restaurant stays, and its capacity is not lowered. -/
def KeepsSeats (restaurantId sessionId : Id) (data data' : EventData) : Prop :=
  ∀ session, data.session? sessionId = some session → session.restaurantId = restaurantId →
    ∃ session', data'.session? sessionId = some session' ∧
      session'.restaurantId = restaurantId ∧ session.capacity ≤ session'.capacity

theorem accounted_of_unsold {data : EventData} (noOrders : data.orders = [])
    (noTickets : data.tickets = []) : data.Accounted := by
  constructor
  · simp [noTickets]
  · simp [noOrders]
  · simp [noOrders]

variable {data data' data'' : EventData} {sessionId : Id}

theorem liveTickets_le_usedSeats (accounted : data.Accounted) {session : EventSession}
    (found : data.session? sessionId = some session) (confirmed : data.TicketsConfirmed sessionId) :
    data.liveTickets sessionId ≤ data.usedSeats session.restaurantId sessionId := by
  have owned : ∀ ticket ∈ data.tickets.filter fun ticket =>
      ticket.sessionId == sessionId && ticket.isLive,
      ∃ order ∈ data.confirmedOrders session.restaurantId sessionId,
        (ticket.orderId == order.id) = true := by
    intro ticket isLive
    obtain ⟨isTicket, here⟩ := List.mem_filter.1 isLive
    rw [Bool.and_eq_true, beq_iff_eq] at here
    obtain ⟨order, isOrder, isConfirmed⟩ := confirmed ticket isTicket here.1 here.2
    obtain ⟨same, isSame, ofSession⟩ := accounted.ordered ticket isTicket
    cases isOrder.symm.trans isSame
    obtain ⟨place, isPlace, ofRestaurant⟩ := accounted.located order (KeyedRows.mem_of_lookup isOrder)
    rw [ofSession, here.1, found] at isPlace
    cases isPlace
    refine ⟨order, List.mem_filter.2 ⟨KeyedRows.mem_of_lookup isOrder, ?_⟩, ?_⟩
    · simp [ofSession, here.1, ofRestaurant, isConfirmed]
    · exact beq_iff_eq.2 (KeyedRows.key_of_lookup isOrder).symm
  have counted : ∀ order ∈ data.confirmedOrders session.restaurantId sessionId,
      (data.tickets.filter fun ticket => ticket.sessionId == sessionId && ticket.isLive).countP
        (fun ticket => ticket.orderId == order.id) ≤ order.quantity := by
    intro order isOrder
    have ofOrder := accounted.counted order (List.mem_of_mem_filter isOrder)
    exact ((List.filter_sublist).countP_le).trans ofOrder
  rw [liveTickets, List.countP_eq_length_filter]
  have counts := KeyedRows.length_le_sum_countP
    (fun (order : EventOrder) (ticket : EventTicket) => ticket.orderId == order.id) owned
  exact counts.trans (List.sum_le_sum counted)

theorem SessionsStay.refl (data : EventData) : SessionsStay data data :=
  fun _ session found => ⟨session, found, rfl⟩

theorem SessionsStay.trans (first : SessionsStay data data') (second : SessionsStay data' data'') :
    SessionsStay data data'' := by
  intro place session found
  obtain ⟨middle, foundMiddle, sameFirst⟩ := first found
  obtain ⟨last, foundLast, sameLast⟩ := second foundMiddle
  exact ⟨last, foundLast, sameLast.trans sameFirst⟩

theorem KeepsSeats.refl (restaurantId sessionId : Id) (data : EventData) :
    KeepsSeats restaurantId sessionId data data :=
  fun session found ofRestaurant => ⟨session, found, ofRestaurant, le_rfl⟩

theorem KeepsSeats.trans {restaurantId : Id} (first : KeepsSeats restaurantId sessionId data data')
    (second : KeepsSeats restaurantId sessionId data' data'') :
    KeepsSeats restaurantId sessionId data data'' := by
  intro session found ofRestaurant
  obtain ⟨middle, foundMiddle, ofMiddle, moreFirst⟩ := first session found ofRestaurant
  obtain ⟨last, foundLast, ofLast, moreLast⟩ := second middle foundMiddle ofMiddle
  exact ⟨last, foundLast, ofLast, moreFirst.trans moreLast⟩

end EventData

open EventData

/-- Sessions stay; without the lock of the session watched, its confirmed orders only give
seats back and its capacity only grows. -/
def eventParts (watched : Id) : Parts EventData EventLock where
  same
    | .session restaurantId sessionId => fun data data' => sessionId = watched →
        data'.usedSeats restaurantId sessionId ≤ data.usedSeats restaurantId sessionId ∧
          KeepsSeats restaurantId sessionId data data'
  evolves := SessionsStay
  same_refl
    | .session restaurantId sessionId, data => fun _ =>
      ⟨le_rfl, .refl restaurantId sessionId data⟩
  evolves_refl := .refl
  same_trans {lock _ _ _} first second := by
    cases lock with
    | session restaurantId sessionId =>
      intro isWatched
      have firstSame := first isWatched
      have secondSame := second isWatched
      exact ⟨secondSame.1.trans firstSame.1, firstSame.2.trans secondSame.2⟩
  evolves_trans := SessionsStay.trans

/-- A session keeps its seats and its tickets stay accounted for. -/
structure Kept (sessionId : Id) (owned : Set EventLock) (data data' : EventData) : Prop where
  accounted : data'.Accounted
  within : data'.WithinCapacity sessionId
  writes : (eventParts sessionId).Writes owned data data'

section

variable {data : EventData} {sessionId : Id} {owned : Set EventLock}

/-- Tickets may stop admitting, or be checked in. -/
theorem Kept.updateTickets (accounted : data.Accounted) (within : data.WithinCapacity sessionId)
    {selected : EventTicket → Bool} {change : EventTicket → EventTicket}
    (sameOrder : ∀ ticket, (change ticket).orderId = ticket.orderId)
    (sameSession : ∀ ticket, (change ticket).sessionId = ticket.sessionId)
    (wasLive : ∀ ticket, selected ticket = true → (change ticket).isLive = true →
      ticket.isLive = true) : Kept sessionId owned data (data.updateTickets selected change) where
  accounted := by
    constructor
    · intro ticket isTicket
      obtain ⟨before, isBefore, same⟩ := List.mem_map.1 isTicket
      obtain ⟨order, isOrder, ofSession⟩ := accounted.ordered before isBefore
      subst same
      split
      · rw [sameOrder, sameSession]
        exact ⟨order, isOrder, ofSession⟩
      · exact ⟨order, isOrder, ofSession⟩
    · exact accounted.located
    · intro order isOrder
      refine (KeyedRows.countP_update_le ?_).trans (accounted.counted order isOrder)
      intro ticket _ _ ofOrder
      rwa [sameOrder] at ofOrder
  within session found := by
    refine (KeyedRows.countP_update_le ?_).trans (within session found)
    intro ticket _ isSelected isKept
    simp only [sameSession, Bool.and_eq_true] at isKept ⊢
    exact ⟨isKept.1, wasLive ticket isSelected isKept.2⟩
  writes :=
    { evolves := .refl data
      same := fun lock _ => (eventParts sessionId).same_refl lock data }

theorem Kept.updateOrders (accounted : data.Accounted) (within : data.WithinCapacity sessionId)
    {selected : EventOrder → Bool} {change : EventOrder → EventOrder}
    (sameId : ∀ order, (change order).id = order.id)
    (sameSession : ∀ order, (change order).sessionId = order.sessionId)
    (sameRestaurant : ∀ order, (change order).restaurantId = order.restaurantId)
    (sameQuantity : ∀ order, (change order).quantity = order.quantity)
    (closed : ∀ order, (change order).status ≠ .CONFIRMED) :
    Kept sessionId owned data (data.updateOrders selected change) where
  accounted := by
    have changed : ∀ order ∈ (data.updateOrders selected change).orders, ∃ before ∈ data.orders,
        order.id = before.id ∧ order.sessionId = before.sessionId ∧
          order.restaurantId = before.restaurantId ∧ order.quantity = before.quantity := by
      intro order isOrder
      obtain ⟨before, isBefore, same⟩ := List.mem_map.1 isOrder
      subst same
      split
      · exact ⟨before, isBefore, sameId _, sameSession _, sameRestaurant _, sameQuantity _⟩
      · exact ⟨before, isBefore, rfl, rfl, rfl, rfl⟩
    constructor
    · intro ticket isTicket
      obtain ⟨order, isOrder, ofSession⟩ := accounted.ordered ticket isTicket
      refine ⟨if selected order then change order else order,
        (KeyedRows.lookup_update selected sameId).trans (congrArg _ isOrder), ?_⟩
      split
      · exact (sameSession order).trans ofSession
      · exact ofSession
    · intro order isOrder
      obtain ⟨before, isBefore, -, ofSession, ofRestaurant, -⟩ := changed order isOrder
      rw [ofSession, ofRestaurant]
      exact accounted.located before isBefore
    · intro order isOrder
      obtain ⟨before, isBefore, sameKey, -, -, sameCount⟩ := changed order isOrder
      rw [sameKey, sameCount]
      exact accounted.counted before isBefore
  within := within
  writes :=
    { evolves := .refl data
      same := fun
        | .session restaurantId place, _, _ => by
            constructor
            · apply KeyedRows.sum_filter_update_le
              · intro order _ isConfirmed
                rw [Bool.and_eq_true, beq_iff_eq] at isConfirmed
                exact absurd isConfirmed.2 (closed order)
              · exact sameQuantity
            · exact .refl restaurantId place data }

/-- A session may change, not below the tickets that are out, and not below the seats it
had while somebody else has its lock. -/
theorem Kept.updateSession (accounted : data.Accounted) (within : data.WithinCapacity sessionId)
    {changed : Id} {change : EventSession → EventSession}
    (sameId : ∀ session, (change session).id = session.id)
    (sameRestaurant : ∀ session, (change session).restaurantId = session.restaurantId)
    (enough : changed = sessionId → ∀ session, data.session? sessionId = some session →
      data.liveTickets sessionId ≤ (change session).capacity)
    (grows : changed = sessionId → ∀ session, data.session? sessionId = some session →
      .session session.restaurantId sessionId ∉ owned →
        session.capacity ≤ (change session).capacity) :
    Kept sessionId owned data (data.updateSession changed change) := by
  have after : ∀ {place session}, data.session? place = some session →
      (data.updateSession changed change).session? place =
        some (if session.id == changed then change session else session) :=
    fun found => (KeyedRows.lookup_update _ sameId).trans (congrArg _ found)
  have stay : SessionsStay data (data.updateSession changed change) := by
    intro place session found
    refine ⟨_, after found, ?_⟩
    split
    · exact sameRestaurant session
    · rfl
  constructor
  · constructor
    · exact accounted.ordered
    · intro order isOrder
      obtain ⟨session, found, ofRestaurant⟩ := accounted.located order isOrder
      obtain ⟨session', found', same⟩ := stay found
      exact ⟨session', found', same.trans ofRestaurant⟩
    · exact accounted.counted
  · intro session found
    rw [session?, EventData.updateSession, KeyedRows.lookup_update_key changed sameId] at found
    split at found
    next same =>
      obtain ⟨before, isBefore, isSession⟩ := Option.map_eq_some_iff.1 found
      subst isSession
      exact enough same.symm before isBefore
    next => exact within session found
  · constructor
    · exact stay
    · intro lock outside
      cases lock with
      | session restaurantId place =>
        rintro rfl
        refine ⟨le_rfl, fun session found ofRestaurant => ?_⟩
        refine ⟨_, after found, ?_⟩
        have isPlace : session.id = place := KeyedRows.key_of_lookup found
        split
        next same =>
          rw [beq_iff_eq, isPlace] at same
          subst ofRestaurant
          exact ⟨sameRestaurant session, grows same.symm session found outside⟩
        next => exact ⟨ofRestaurant, le_rfl⟩

structure FreshOrder (data : EventData) (order : EventOrder) (tickets : List EventTicket) :
    Prop where
  isNew : ∀ other ∈ data.orders, other.id ≠ order.id
  ofOrder : ∀ ticket ∈ tickets, ticket.orderId = order.id ∧ ticket.sessionId = order.sessionId
  counted : tickets.length ≤ order.quantity

section

variable {order : EventOrder} {tickets : List EventTicket}

theorem isNew_of_nodup (unique : ((data.insertOrder order tickets).orders.map (·.id)).Nodup) :
    ∀ other ∈ data.orders, other.id ≠ order.id := by
  intro other isOther same
  rw [EventData.insertOrder, List.map_append, List.nodup_append] at unique
  exact unique.2.2 other.id (List.mem_map_of_mem isOther) order.id List.mem_cons_self same

theorem orders_nodup (accepted : data.violation? = none) : (data.orders.map (·.id)).Nodup := by
  have unique : data.keysUnique = true := by
    unfold EventData.violation? at accepted
    split at accepted
    · cases accepted
    · simp_all
  simp only [EventData.keysUnique, Bool.and_eq_true, decide_eq_true_eq] at unique
  exact unique.1.1.1.1.2

theorem order?_insertOrder {orderId : Id} {other : EventOrder}
    (found : data.order? orderId = some other) :
    (data.insertOrder order tickets).order? orderId = some other := by
  rw [EventData.order?] at found
  simp [EventData.order?, EventData.insertOrder, KeyedRows.lookup_append, found]

theorem FreshOrder.order? (fresh : FreshOrder data order tickets) :
    (data.insertOrder order tickets).order? order.id = some order := by
  have absent : KeyedRows.lookup (·.id) data.orders order.id = none :=
    KeyedRows.lookup_eq_none.2 fresh.isNew
  simp [EventData.order?, EventData.insertOrder, KeyedRows.lookup_append, absent]

theorem FreshOrder.tickets_le (fresh : FreshOrder data order tickets) (accounted : data.Accounted)
    {other : EventOrder} (isOther : other ∈ (data.insertOrder order tickets).orders) :
    ((data.insertOrder order tickets).tickets.countP fun ticket => ticket.orderId == other.id) ≤
      other.quantity := by
  rw [EventData.insertOrder, List.countP_append]
  rcases List.mem_append.1 isOther with before | isLast
  · have noneNew : (tickets.countP fun ticket => ticket.orderId == other.id) = 0 := by
      rw [List.countP_eq_zero]
      intro ticket isTicket same
      exact fresh.isNew other before
        ((beq_iff_eq.1 same).symm.trans (fresh.ofOrder ticket isTicket).1)
    rw [noneNew]
    exact accounted.counted other before
  · cases List.mem_singleton.1 isLast
    have noneBefore : (data.tickets.countP fun ticket => ticket.orderId == order.id) = 0 := by
      rw [List.countP_eq_zero]
      intro ticket isTicket same
      obtain ⟨owner, isOwner, -⟩ := accounted.ordered ticket isTicket
      exact fresh.isNew owner (KeyedRows.mem_of_lookup isOwner)
        ((KeyedRows.key_of_lookup isOwner).trans (beq_iff_eq.1 same))
    rw [noneBefore, Nat.zero_add]
    exact List.countP_le_length.trans fresh.counted

theorem FreshOrder.accounted (fresh : FreshOrder data order tickets) (accounted : data.Accounted)
    {session : EventSession} (found : data.session? order.sessionId = some session)
    (ofRestaurant : session.restaurantId = order.restaurantId) :
    (data.insertOrder order tickets).Accounted := by
  constructor
  · intro ticket isTicket
    rcases List.mem_append.1 isTicket with before | isNewTicket
    · obtain ⟨other, isOther, ofSession⟩ := accounted.ordered ticket before
      exact ⟨other, order?_insertOrder isOther, ofSession⟩
    · obtain ⟨isOrder, ofSession⟩ := fresh.ofOrder ticket isNewTicket
      exact ⟨order, isOrder ▸ fresh.order?, ofSession.symm⟩
  · intro other isOther
    rcases List.mem_append.1 isOther with before | isLast
    · exact accounted.located other before
    · cases List.mem_singleton.1 isLast
      exact ⟨session, found, ofRestaurant⟩
  · exact fun other isOther => fresh.tickets_le accounted isOther

theorem FreshOrder.within (fresh : FreshOrder data order tickets) (accounted : data.Accounted)
    (within : data.WithinCapacity sessionId) {session : EventSession}
    (found : data.session? order.sessionId = some session)
    (ofRestaurant : session.restaurantId = order.restaurantId)
    (left : order.sessionId = sessionId →
      data.usedSeats order.restaurantId order.sessionId + order.quantity ≤ session.capacity)
    (confirmed : order.sessionId = sessionId → data.TicketsConfirmed sessionId) :
    (data.insertOrder order tickets).WithinCapacity sessionId := by
  intro place isPlace
  rw [liveTickets, EventData.insertOrder, List.countP_append]
  by_cases here : order.sessionId = sessionId
  · subst here
    cases found.symm.trans isPlace
    have out := liveTickets_le_usedSeats accounted found (confirmed rfl)
    have seats := left rfl
    rw [ofRestaurant, liveTickets] at out
    have added : (tickets.countP fun ticket =>
        ticket.sessionId == order.sessionId && ticket.isLive) ≤ order.quantity :=
      List.countP_le_length.trans fresh.counted
    omega
  · have noneNew : (tickets.countP fun ticket =>
        ticket.sessionId == sessionId && ticket.isLive) = 0 := by
      rw [List.countP_eq_zero]
      intro ticket isTicket isLive
      rw [Bool.and_eq_true, beq_iff_eq] at isLive
      exact here ((fresh.ofOrder ticket isTicket).2.symm.trans isLive.1)
    rw [noneNew]
    exact within place isPlace

theorem writes_insertOrder (locked : .session order.restaurantId order.sessionId ∈ owned) :
    (eventParts sessionId).Writes owned data (data.insertOrder order tickets) where
  evolves := .refl data
  same := fun
    | .session restaurantId place, outside, _ => by
        refine ⟨le_of_eq ?_, .refl restaurantId place data⟩
        have elsewhere : ¬(order.sessionId == place && order.restaurantId == restaurantId &&
            order.status == .CONFIRMED) = true := by
          intro here
          simp only [Bool.and_eq_true, beq_iff_eq] at here
          exact outside (here.1.1 ▸ here.1.2 ▸ locked)
        simp only [usedSeats, confirmedOrders, EventData.insertOrder, List.filter_append,
          List.filter_singleton, elsewhere, cond_false, List.append_nil]

end

end

/-! ## Calls keep a session within its capacity -/

/-- An order is accepted while the tickets that are out belong to confirmed orders; the
capacity is set to no less than the tickets that are out, and is lowered only while nobody
else has the lock of the session. -/
structure SeatsCovered (calls : EventCallId → EventCall) (sessionId : Id) (call : EventCallId)
    (free : Set EventLock) (data data' : EventData) : Prop where
  orders : ∀ input, calls call = .createEventOrder input → input.sessionId = sessionId →
    data' ≠ data → data.TicketsConfirmed sessionId
  capacity : ∀ input, calls call = .updateEventSession input → input.sessionId = sessionId →
    data' ≠ data → ∀ seats : ℚ, input.capacity = some seats →
      (data.liveTickets sessionId : ℚ) ≤ seats ∧
        ∀ session, data.session? sessionId = some session → seats < session.capacity →
          .session session.restaurantId sessionId ∈ free

variable (calls : EventCallId → EventCall)

/-- Sessions that keep the tickets accounted for and a session within its capacity. -/
def eventAccess (sessionId : Id) : Access EventData EventLock EventCallId :=
  (eventParts sessionId).accessWhen (fun data => data.Accounted ∧ data.WithinCapacity sessionId)
    fun call free _ data data' => SeatsCovered calls sessionId call free data data'

section

variable {calls : EventCallId → EventCall} {sessionId : Id} {call : EventCallId}

theorem protects_unseen {owned : Set EventLock} :
    (eventAccess calls sessionId).Protects owned fun _ _ => True :=
  protects_const True

namespace CreateEventOrderInput

variable (input : CreateEventOrderInput)

def HasSession (data : EventData) : Prop :=
  ∃ session, data.session? input.sessionId = some session ∧
    session.restaurantId = input.restaurantId

/-- The session of the order has at least some seats. -/
def HasSeats (seats : Nat) (data : EventData) : Prop :=
  ∃ session, data.session? input.sessionId = some session ∧
    session.restaurantId = input.restaurantId ∧ seats ≤ session.capacity

def lock : EventLock :=
  .session input.restaurantId input.sessionId

/-- What an order has found out about its session; the seats are counted for the session
watched. -/
def Found (sessionId : Id) (seats : Nat) (data : EventData) : Prop :=
  input.HasSession data ∧ (input.sessionId = sessionId → input.HasSeats seats data)

/-- What an order knows when it commits. -/
def Planned (sessionId : Id) (quantity : Nat) (data : EventData) : Prop :=
  ∃ used seats, used + quantity ≤ seats ∧ input.Found sessionId seats data ∧
    (input.sessionId = sessionId → data.usedSeats input.restaurantId input.sessionId ≤ used)

variable {input} {owned : Set EventLock}

section

variable (locked : input.lock ∈ owned)
include locked

theorem protects_found (seats : Nat) : (eventAccess calls sessionId).Protects owned fun data _ =>
      input.Found sessionId seats data := by
  apply Protects.and
  · apply Parts.protects_of_evolves
    rintro data data' stay ⟨session, found, ofRestaurant⟩
    obtain ⟨session', found', same⟩ := stay found
    exact ⟨session', found', same.trans ofRestaurant⟩
  · refine Protects.all fun isWatched => Parts.protects locked ?_
    rintro data data' same ⟨session, found, ofRestaurant, enough⟩
    obtain ⟨session', found', ofRestaurant', more⟩ := (same isWatched).2 session found ofRestaurant
    exact ⟨session', found', ofRestaurant', enough.trans more⟩

theorem protects_used (used : Nat) :
    (eventAccess calls sessionId).Protects owned fun data _ => input.sessionId = sessionId →
      data.usedSeats input.restaurantId input.sessionId ≤ used := by
  refine Protects.all fun isWatched => Parts.protects locked ?_
  exact fun same counted => (same isWatched).1.trans counted

theorem protects_planned (quantity : Nat) :
    (eventAccess calls sessionId).Protects owned fun data _ =>
      input.Planned sessionId quantity data := by
  have known : ∀ used seats, (eventAccess calls sessionId).Protects owned fun data _ =>
      used + quantity ≤ seats ∧ input.Found sessionId seats data ∧
        (input.sessionId = sessionId →
          data.usedSeats input.restaurantId input.sessionId ≤ used) :=
    fun used seats => (protects_const _).and ((protects_found locked seats).and
      (protects_used locked used))
  constructor
  · rintro data data' now inv inv' writes ⟨used, seats, learned⟩
    have kept := (known used seats).writes inv inv' writes
    exact ⟨used, seats, kept learned⟩
  · exact fun _ planned => planned

/-- The session found keeps its seats as long as it is locked. -/
theorem orderable_decides (now : Instant) (quantity : Nat) :
    (eventAccess calls sessionId).Decides call owned (fun _ _ => True)
      (input.orderable now quantity) (fun _ => owned) fun found data _ =>
        input.Found sessionId found.1.capacity data := by
  have known : ∀ found : Option (EventSession × Option EventStatus),
      (eventAccess calls sessionId).Protects owned fun data _ => ∀ session status,
        found = some (session, status) → input.Found sessionId session.capacity data :=
    fun found => Protects.all fun session => Protects.all fun status => Protects.all fun _ =>
      protects_found locked session.capacity
  apply Decides.query protects_unseen known
  · intro data _ _ _ session status found
    obtain ⟨row, isRow, same⟩ := Option.map_eq_some_iff.1 found
    cases same
    obtain ⟨isSession, matching⟩ := Option.filter_eq_some_iff.1 isRow
    rw [Bool.and_eq_true, beq_iff_eq] at matching
    exact ⟨⟨session, isSession, matching.1⟩, fun _ => ⟨session, isSession, matching.1, le_rfl⟩⟩
  intro found
  cases found with
  | none => exact Decides.error _
  | some found =>
    dsimp only
    split
    · exact Decides.error _
    split
    · exact Decides.error _
    split
    · exact Decides.error _
    apply Decides.glance (protects_unseen.and (known _))
    intro ticketType
    cases ticketType with
    | none => exact Decides.error _
    | some ticketType =>
      dsimp only
      split
      · exact Decides.error _
      split
      · exact Decides.error _
      · exact Decides.ok subset_rfl (protects_found locked _) fun _ _ _ learned =>
          learned.2 _ _ rfl

end

theorem seated_decides (now : Instant) (quantity : Nat) :
    (eventAccess calls sessionId).Decides call ∅ (fun _ _ => True) (input.seated call now quantity)
      (fun _ => {input.lock}) fun _ data _ => input.Planned sessionId quantity data := by
  have locked : input.lock ∈ (insert input.lock ∅ : Set EventLock) := Set.mem_insert _ _
  apply Decides.acquire protects_unseen
  apply Decides.andThen (orderable_decides locked now quantity)
  intro found
  apply Decides.query (protects_found locked _) (protects_used locked)
  · exact fun _ _ _ _ _ => le_rfl
  intro used
  split
  · exact Decides.error _
  next left =>
    refine Decides.ok ?_ (protects_planned (Set.mem_singleton _) quantity) ?_
    · exact (insert_empty_eq input.lock).symm.subset
    · exact fun data _ _ learned => ⟨used, _, Nat.le_of_not_lt left, learned.1, learned.2⟩

variable [Sha256]

theorem freshOrder {data : EventData} {quantity : Nat} {key : Option String}
    {ticketType : EventTicketType}
    (unique : ((data.insertOrder (input.order key quantity ticketType)
      ((List.range quantity).map input.ticket)).orders.map (·.id)).Nodup) :
    FreshOrder data (input.order key quantity ticketType)
      ((List.range quantity).map input.ticket) where
  isNew := isNew_of_nodup unique
  ofOrder ticket isTicket := by
    obtain ⟨index, -, same⟩ := List.mem_map.1 isTicket
    subst same
    exact ⟨rfl, rfl⟩
  counted := by simp [order]

variable (input)

theorem create_runs (isCall : calls call = .createEventOrder input) (now : Instant)
    (quantity : Nat) (key : Option String) :
    (eventAccess calls sessionId).Serves call (input.create call now quantity key) := by
  apply Runs.bind (Runs.transact (seated_decides now quantity)
    (fun _ => protects_planned (Set.mem_singleton _) quantity) (fun _ => protects_unseen) ?_)
  · intro created
    split
    · exact Runs.glance (protects_const True) fun _ => ends_pure _
    · exact ends_pure _
  intro ticketType data _ inv planned accepted meets
  obtain ⟨used, seats, enough, ⟨⟨session, found, ofRestaurant⟩, hasSeats⟩, counted⟩ := planned
  have fresh : FreshOrder data (input.order key quantity ticketType)
      ((List.range quantity).map input.ticket) := freshOrder (orders_nodup accepted)
  have changed : data.insertOrder (input.order key quantity ticketType)
      ((List.range quantity).map input.ticket) ≠ data := by
    intro same
    have orders := congrArg (fun data => data.orders.length) same
    simp [EventData.insertOrder] at orders
  refine ⟨⟨fresh.accounted inv.1 found ofRestaurant, ?_⟩,
    writes_insertOrder (Set.mem_singleton _), trivial⟩
  apply fresh.within inv.1 inv.2 found ofRestaurant
  · intro here
    obtain ⟨same, isSame, -, capacity⟩ := hasSeats here
    cases found.symm.trans isSame
    exact (Nat.add_le_add_right (counted here) quantity).trans (enough.trans capacity)
  · obtain ⟨free, covered⟩ := meets
    exact fun here => covered.orders input isCall here changed

theorem createEventOrder_runs (isCall : calls call = .createEventOrder input) :
    (eventAccess calls sessionId).Serves call (input.createEventOrder call) := by
  apply Runs.bind ((quiet_eventNow input.now).runs protects_unseen)
  intro now
  split
  · exact ends_pure _
  · exact ends_pure _
  next quantity rawKey _ _ =>
    refine Runs.found protects_unseen ?_ fun _ => ends_pure _
    apply Runs.bind ((input.quiet_orderable now quantity).runs protects_unseen)
    intro found
    cases found with
    | error failure => exact ends_pure _
    | ok found =>
      apply Runs.bind (input.quiet_assertLinks.runs protects_unseen)
      intro links
      cases links with
      | error failure => exact ends_pure _
      | ok links => exact input.create_runs isCall now quantity _

end CreateEventOrderInput

namespace UpdateEventSessionInput

variable (input : UpdateEventSessionInput)

theorem capacity_of_update {current : EventSession} {update : EventSessionUpdate}
    (updated : input.update current = .ok update) (seats : Nat)
    (isSet : update.capacity = some seats) : input.capacity = some (seats : ℚ) := by
  obtain ⟨startsAt, -, afterStart⟩ := ok_of_bind updated
  obtain ⟨endsAt, -, afterEnd⟩ := ok_of_bind afterStart
  have inOrder : (input.capacity.mapM normalizeSessionSeats >>= fun capacity =>
      Except.ok { startsAt, endsAt, capacity, status := input.status }) = .ok update := by
    split at afterEnd
    · cases afterEnd
    · exact afterEnd
  obtain ⟨capacity, normalized, same⟩ := ok_of_bind inOrder
  cases same
  subst isSet
  cases given : input.capacity with
  | none =>
    rw [given] at normalized
    cases normalized
  | some value =>
    cases counted : normalizeSessionSeats value with
    | error failure => simp [given, counted] at normalized
    | ok count =>
      simp only [given, Option.mapM_some, counted, Except.map_ok, Except.ok.injEq,
        Option.some.injEq] at normalized
      subst normalized
      rw [normalizeCount_ok counted]

theorem updateEventSession_runs (isCall : calls call = .updateEventSession input) :
    (eventAccess calls sessionId).Serves call (input.updateEventSession call) := by
  have known : ∀ found : Option EventSession, (eventAccess calls sessionId).Protects ∅
      fun _ _ => ∀ current, found = some current → current.id = input.sessionId :=
    fun found => protects_const _
  apply Runs.query protects_unseen known
  · intro data _ _ _ current found
    exact KeyedRows.key_of_lookup (Option.filter_eq_some_iff.1 found).1
  intro current
  cases current with
  | none => exact ends_pure _
  | some current =>
    apply Runs.assuming fun _ _ _ learned => learned.2 current rfl
    intro isSession
    apply Runs.knowing fun _ _ _ _ => trivial
    dsimp only
    split
    · exact ends_pure _
    next update updated =>
      split
      · exact ends_pure _
      apply Runs.bind
      · apply Runs.commitUnlessFree protects_unseen fun _ => protects_const True
        intro free data _ _ inv _ _ covered
        by_cases unchanged : data.updateSession current.id update.set = data
        · rw [unchanged]
          exact ⟨inv, .refl free data, trivial⟩
        have asked : current.id = sessionId → ∀ seats : Nat, update.capacity = some seats →
            data.liveTickets sessionId ≤ seats ∧
              ∀ session, data.session? sessionId = some session → seats < session.capacity →
                .session session.restaurantId sessionId ∈ free := by
          intro here seats isSet
          obtain ⟨enough, lowered⟩ := covered.capacity input isCall (isSession.symm.trans here)
            unchanged seats (input.capacity_of_update updated seats isSet)
          exact ⟨Nat.cast_le.1 enough, fun session found less =>
            lowered session found (Nat.cast_lt.2 less)⟩
        have after : Kept sessionId free data (data.updateSession current.id update.set) := by
          apply Kept.updateSession inv.1 inv.2
          · exact fun _ => rfl
          · exact fun _ => rfl
          · intro here session found
            cases isSet : update.capacity with
            | none => simpa [EventSessionUpdate.set, isSet] using inv.2 session found
            | some seats =>
              simpa [EventSessionUpdate.set, isSet] using (asked here seats isSet).1
          · intro here session found outside
            cases isSet : update.capacity with
            | none => simp [EventSessionUpdate.set, isSet]
            | some seats =>
              have kept := mt ((asked here seats isSet).2 session found) outside
              simpa [EventSessionUpdate.set, isSet] using kept
        exact ⟨⟨after.accounted, after.within⟩, after.writes, trivial⟩
      exact fun updated => ends_pure _

end UpdateEventSessionInput

/-- Cancellations, refunds and check-ins admit nobody without a ticket. -/
theorem EventWrite.kept [Sha256] {event : EventCall} {data data' : EventData} {free : Set EventLock}
    (write : EventWrite event data data') (accounted : data.Accounted)
    (within : data.WithinCapacity sessionId) (notOrder : ∀ input, event ≠ .createEventOrder input)
    (notUpdate : ∀ input, event ≠ .updateEventSession input) : Kept sessionId free data data' := by
  cases write with
  | insertOrder input => exact absurd rfl (notOrder input)
  | cancelOrder input data now =>
    apply Kept.updateOrders accounted within <;> intro order
    · rfl
    · rfl
    · rfl
    · rfl
    · exact EventOrderStatus.noConfusion
  | cancelTickets input data =>
    apply Kept.updateTickets accounted within <;> intro ticket
    · rfl
    · rfl
    · exact fun _ isLive => nomatch isLive
  | refundOrder input reason now isKey accepted =>
    apply Kept.updateOrders accounted within <;> intro order
    · rfl
    · rfl
    · rfl
    · rfl
    · exact EventOrderStatus.noConfusion
  | refundTickets input data =>
    apply Kept.updateTickets accounted within <;> intro ticket
    · rfl
    · rfl
    · exact fun _ isLive => nomatch isLive
  | checkIn input data ticketId now =>
    apply Kept.updateTickets accounted within <;> intro ticket
    · rfl
    · rfl
    · intro admits _
      rw [Bool.and_eq_true, beq_iff_eq, beq_iff_eq] at admits
      simp [EventTicket.isLive, admits.2]
  | updateSession input => exact absurd rfl (notUpdate input)

theorem EventCall.runs_of_kept [Sha256] [UnicodeCase] (event : EventCall)
    (notOrder : ∀ input, event ≠ .createEventOrder input)
    (notUpdate : ∀ input, event ≠ .updateEventSession input) :
    (eventAccess calls sessionId).Serves call (event.prog call) := by
  apply event.prog_acts.runs
  intro free data _ data' inv write _
  have after : Kept sessionId free data data' := write.kept inv.1 inv.2 notOrder notUpdate
  exact ⟨⟨after.accounted, after.within⟩, after.writes⟩

theorem EventCall.prog_runs [Sha256] [UnicodeCase] (calls : EventCallId → EventCall)
    (sessionId : Id) (call : EventCallId) :
    (eventAccess calls sessionId).Serves call ((calls call).prog call) := by
  cases isCall : calls call with
  | createEventOrder input => exact ends_map (input.createEventOrder_runs isCall)
  | cancelEventOrder input => exact EventCall.runs_of_kept _ (fun _ => nofun) fun _ => nofun
  | refundEventOrder input => exact EventCall.runs_of_kept _ (fun _ => nofun) fun _ => nofun
  | checkInEventTicket input => exact EventCall.runs_of_kept _ (fun _ => nofun) fun _ => nofun
  | updateEventSession input => exact ends_map (input.updateEventSession_runs isCall)

end

/-- A session never has more tickets issued or checked in than seats, in any run in which
each order of it is accepted while its tickets belong to confirmed orders, and in which its
capacity is set to no less than its tickets and lowered only while its lock is free. -/
theorem tickets_withinCapacity [Sha256] [UnicodeCase] (calls : EventCallId → EventCall)
    {store : EventStore} (accounted : store.data.Accounted) (sessionId : Id)
    (within : store.data.WithinCapacity sessionId)
    {c : Config EventCallId EventStore (Except EventFailure EventAnswer)}
    {moves : List (Move EventCallId EventStore)}
    (run : (eventSystem calls).Run (.initial store) moves c)
    (covered : ∀ move ∈ moves, SeatsCovered calls sessionId move.session
      (move.before.free move.session) move.before.data move.after.data) :
    c.shared.data.WithinCapacity sessionId :=
  (run_sound (EventCall.prog_runs calls sessionId) (sound_initial ⟨accounted, within⟩) run
    covered).1.inv.2

section

attribute [local instance] UnicodeCase.ascii Sha256.plain

/-- A session of one seat, with nothing sold yet. -/
def smallHall : EventStore where
  data :=
    { events := [⟨"e", "r", .ACTIVE⟩]
      sessions := [⟨"s", "r", "e", 1000, 2000, 1, .OPEN⟩]
      ticketTypes := [⟨"t", "r", "e", 1500, "EUR", 10, .ACTIVE⟩]
      orders := []
      tickets := []
      links := ⟨[], []⟩ }
  now := 0
  owner _ := none

def seatOrder (orderId code : String) : EventCall :=
  .createEventOrder
    { restaurantId := "r", eventId := "e", sessionId := "s", ticketTypeId := "t"
      customerId := none, reservationId := none, quantity := 1, idempotencyKey := none
      actor := "staff", now := some 0, newOrderId := orderId, newTicketId := fun _ => orderId
      ticketCode := fun _ => code }

/-- An order is made, its ticket is checked in, the order is cancelled, and another order is
made. -/
def reusedSeat (call : EventCallId) : EventCall :=
  match call with
  | 0 => seatOrder "o1" "00000000ABCD"
  | 1 => .checkInEventTicket ⟨"r", none, "00000000abcd", "door", some 0⟩
  | 2 => .cancelEventOrder ⟨"r", "o1", some 0⟩
  | _ => seatOrder "o2" "00000000EF01"

/-- The data changes only while nothing is sold. -/
def nothingSold (moves : List (Move EventCallId EventStore)) : Bool :=
  moves.all fun move =>
    decide (move.after.data = move.before.data) || decide (move.before.data.tickets = [])

/-- One order of the only seat. -/
theorem tickets_withinCapacity_order :
    ∃ moves c, (eventSystem fun _ => seatOrder "o1" "00000000ABCD").Run (.initial smallHall) moves c ∧
      c.shared.data.liveTickets "s" = 1 ∧ c.shared.data.WithinCapacity "s" := by
  obtain ⟨moves, c, run, unsold, tickets⟩ :=
    (eventSystem fun _ => seatOrder "o1" "00000000ABCD").exists_run_of_schedule
      (List.replicate 11 0) (.initial smallHall)
      (fun moves c => nothingSold moves ∧ c.shared.data.liveTickets "s" = 1) (by decide +kernel)
  refine ⟨moves, c, run, tickets, ?_⟩
  apply tickets_withinCapacity _ (accounted_of_unsold rfl rfl) "s" _ run
  · intro move isMove
    constructor
    · intro _ _ _ changed ticket isTicket
      have before := List.all_eq_true.1 unsold move isMove
      simp only [changed, decide_false, Bool.false_or, decide_eq_true_eq] at before
      rw [before] at isTicket
      cases isTicket
    · exact fun _ isCall => nomatch isCall
  · exact fun _ _ => Nat.zero_le _

/-- The seat of a ticket that was checked in is sold again once its order is cancelled. -/
theorem tickets_exceed_capacity :
    ¬ ∀ (calls : EventCallId → EventCall) (store : EventStore), store.data.violation? = none →
      store.data.orders = [] → store.data.tickets = [] →
      ∀ c moves, (eventSystem calls).Run (.initial store) moves c →
        ∀ sessionId, c.shared.data.WithinCapacity sessionId := by
  intro claim
  obtain ⟨moves, c, run, tickets, isSession⟩ := (eventSystem reusedSeat).exists_run_of_schedule
    (List.replicate 11 0 ++ [1, 1, 1, 1] ++ [2, 2, 2, 2] ++ List.replicate 11 3)
    (.initial smallHall) (fun _ c => c.shared.data.liveTickets "s" = 2 ∧
      c.shared.data.session? "s" = some ⟨"s", "r", "e", 1000, 2000, 1, .OPEN⟩) (by decide +kernel)
  have within := claim _ smallHall (by decide +kernel) rfl rfl c moves run "s" _ isSession
  rw [tickets] at within
  exact absurd within (by decide)

end

end Sokar
