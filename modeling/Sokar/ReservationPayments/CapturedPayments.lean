import Sokar.ReservationPayments.PaymentHistory

/-!
# Captures

A capture that is newer than every event of its payment, run alone, is never passed over as
stale.  It settles a payment that may still become captured and confirms its pending
reservation; the transition table refuses it for a payment that was cancelled, that
expired or that a refund has reached, and then nothing changes.
-/

namespace Sokar

open Process Transaction Transaction.Access

namespace PaymentData

variable {data : PaymentData}

theorem violation?_eq_none : data.violation? = none ↔ data.keysUnique = true := by
  simp [violation?]

theorem keysUnique_updatePayment (unique : data.keysUnique = true) (paymentId : Id)
    {change : ReservationPayment → ReservationPayment}
    (keeps : ∀ row, (change row).id = row.id ∧ (change row).idempotencyKey = row.idempotencyKey ∧
      (change row).stripeSetupIntentId = row.stripeSetupIntentId ∧
      (change row).stripePaymentIntentId = row.stripePaymentIntentId) :
    (data.updatePayment paymentId change).keysUnique = true := by
  simp only [keysUnique, Bool.and_eq_true, decide_eq_true_eq] at unique ⊢
  simp only [updatePayment]
  rw [KeyedRows.map_update _ _ fun row => (keeps row).1,
    KeyedRows.map_update _ _ fun row => (keeps row).2.1,
    KeyedRows.filterMap_update _ _ fun row => (keeps row).2.2.1,
    KeyedRows.filterMap_update _ _ fun row => (keeps row).2.2.2]
  exact unique

theorem keysUnique_updateReservation (unique : data.keysUnique = true) (reservationId : Id)
    {change : PaidReservation → PaidReservation} (keeps : ∀ row, (change row).id = row.id) :
    (data.updateReservation reservationId change).keysUnique = true := by
  simp only [keysUnique, Bool.and_eq_true, decide_eq_true_eq] at unique ⊢
  simp only [updateReservation]
  rw [KeyedRows.map_update _ _ keeps]
  exact unique

theorem keysUnique_insertEvent (unique : data.keysUnique = true) {row : ReservationPaymentEvent}
    (newId : ∀ event ∈ data.events, event.id ≠ row.id)
    (newProviderEvent : ∀ event ∈ data.events, event.providerEventId ≠ row.providerEventId) :
    (data.insertEvent row).keysUnique = true := by
  simp only [keysUnique, Bool.and_eq_true, decide_eq_true_eq] at unique
  obtain ⟨⟨⟨⟨⟨⟨ids, keys⟩, setups⟩, intents⟩, reservations⟩, events⟩, providerEvents⟩ := unique
  simp only [keysUnique, Bool.and_eq_true, decide_eq_true_eq]
  refine ⟨⟨⟨⟨⟨⟨ids, keys⟩, setups⟩, intents⟩, reservations⟩, ?_⟩, ?_⟩
  · simpa [insertEvent, List.nodup_append, events] using newId
  · simpa [insertEvent, List.nodup_append, providerEvents] using newProviderEvent

end PaymentData

namespace ProviderEventInput

structure ReportsCapture [UnicodeCase] (input : ProviderEventInput) (key : ProviderEventKey)
    (payment : ReservationPayment) : Prop where
  isKey : input.key = .ok key
  eventType : key.eventType = "payment_intent.succeeded"
  ofPayment : input.paymentId = payment.id
  ofRestaurant : input.restaurantId = payment.restaurantId
  account : input.stripeAccountId = payment.stripeAccountId
  intent : input.stripePaymentIntentId = payment.stripePaymentIntentId
  hasIntent : input.stripePaymentIntentId.getD "" ≠ ""
  currency : ∀ currency, input.currency = some currency → currency ≠ "" →
    normalizeCurrency (some currency) = .ok payment.currency
  amount : ∀ amount, input.amount = some amount → normalizeMoney amount = .ok payment.amount

structure IsNews (input : ProviderEventInput) (key : ProviderEventKey) (data : PaymentData) :
    Prop where
  providerEvent : data.event? key.providerEventId = none
  newId : ∀ event ∈ data.events, event.id ≠ input.newId
  newer : ∀ event ∈ data.events, event.paymentId = input.paymentId →
    event.occurredAt < input.occurredAt

variable {input : ProviderEventInput} {key : ProviderEventKey} {payment : ReservationPayment}
variable {data : PaymentData}

theorem ReportsCapture.resultingStatus [UnicodeCase] (reports : input.ReportsCapture key payment) :
    input.resultingStatus key.eventType payment = .ok (some .CAPTURED) := by
  have isIntent : hasStart "payment_intent.succeeded" "payment_intent." = true := by decide +kernel
  have notSetup : hasStart "payment_intent.succeeded" "setup_intent." = false := by decide +kernel
  have agrees : input.mismatches key.eventType payment = false := by
    rw [mismatches, reports.eventType, notSetup, isIntent, beq_false_of_ne reports.hasIntent,
      reports.account, reports.intent, bne_self_eq_false, bne_self_eq_false]
    rfl
  have currency : input.checkCurrency payment = .ok () := by
    unfold checkCurrency
    split
    next => rfl
    next currency given =>
      obtain ⟨isCurrency, nonempty⟩ := Option.filter_eq_some_iff.1 given
      rw [reports.currency currency isCurrency (by simpa using nonempty)]
      simp [bind, Except.bind]
  have amount : input.checkAmount payment = .ok () := by
    unfold checkAmount
    split
    next => rfl
    next amount given =>
      rw [reports.amount amount given]
      simp [bind, Except.bind]
  rw [ProviderEventInput.resultingStatus, agrees, reports.eventType]
  simp [currency, amount, reservationPaymentStatusForProviderEvent, bind, Except.bind, pure,
    Except.pure]

/-- What a new event writes violates no index. -/
theorem IsNews.accepted (news : input.IsNews key data) (valid : data.violation? = none)
    (payment : ReservationPayment) (status : ReservationPaymentStatus)
    (confirmed : Option PaidReservation) (now : Instant) :
    (input.writes key (.apply payment status confirmed) data now).violation? = none := by
  have newProviderEvent : ∀ event ∈ data.events, event.providerEventId ≠ key.providerEventId :=
    KeyedRows.lookup_eq_none.1 news.providerEvent
  have unique := PaymentData.violation?_eq_none.1 valid
  have recorded : ((data.updatePayment payment.id (input.applied status)).insertEvent
      (input.event key payment.id (some status))).keysUnique = true := by
    apply PaymentData.keysUnique_insertEvent _ news.newId newProviderEvent
    exact PaymentData.keysUnique_updatePayment unique _ fun _ => ⟨rfl, rfl, rfl, rfl⟩
  apply PaymentData.violation?_eq_none.2
  cases confirmed with
  | none => exact recorded
  | some reservation => exact PaymentData.keysUnique_updateReservation recorded _ fun _ => rfl

theorem status?_writes (found : data.payment? payment.id = some payment)
    (status : ReservationPaymentStatus) (confirmed : Option PaidReservation) (now : Instant) :
    (input.writes key (.apply payment status confirmed) data now).status? payment.id =
      some status := by
  have keeps : ∀ row, (input.applied status row).id = row.id := fun _ => rfl
  have updated : (data.updatePayment payment.id (input.applied status)).payment? payment.id =
      some (input.applied status payment) := by
    rw [PaymentData.payment?] at found
    rw [PaymentData.payment?, PaymentData.updatePayment, KeyedRows.lookup_update_key _ keeps,
      if_pos rfl, found]
    rfl
  cases confirmed with
  | none => exact congrArg (Option.map (·.status)) updated
  | some reservation => exact congrArg (Option.map (·.status)) updated

theorem reservation?_writes {reservation : PaidReservation}
    (found : data.reservation? reservation.id = some reservation)
    (status : ReservationPaymentStatus) (now : Instant) :
    (input.writes key (.apply payment status (some reservation)) data now).reservation?
      reservation.id = some reservation.confirmed := by
  have keeps : ∀ row : PaidReservation, row.confirmed.id = row.id := fun _ => rfl
  have updated : KeyedRows.lookup (·.id) (KeyedRows.update (fun row => row.id == reservation.id)
      PaidReservation.confirmed data.reservations) reservation.id = some reservation.confirmed := by
    rw [PaymentData.reservation?] at found
    rw [KeyedRows.lookup_update_key _ keeps, if_pos rfl, found]
    rfl
  exact updated

variable {store : PaymentStore} {call : PaymentCallId}

theorem run_confirmReservation {reservationId : Id} {reservation : PaidReservation}
    (found : store.data.reservationOf? reservationId input.restaurantId = some reservation)
    (isFree : store.isFreeFor call (.reservation reservationId) = true) :
    (confirmReservation call input reservationId).run store =
      some (.ok (if reservation.state = .PENDING then some reservation else none),
        store.take call (.reservation reservationId)) := by
  have sameData : (store.take call (.reservation reservationId)).data = store.data := rfl
  simp only [confirmReservation, Prog.run_bind, run_acquire_of_free isFree, Option.bind_some,
    run_query, Prog.run_pure, sameData, found]

/-- What an event finds about a payment that it reports to be captured. -/
structure Arrives [UnicodeCase] (input : ProviderEventInput) (key : ProviderEventKey)
    (payment : ReservationPayment) (call : PaymentCallId) (store : PaymentStore) : Prop where
  reports : input.ReportsCapture key payment
  news : input.IsNews key store.data
  found : store.data.payment? payment.id = some payment
  paymentFree : store.isFreeFor call (.payment payment.id) = true
  reservationFree : store.isFreeFor call (.reservation payment.reservationId) = true

variable [UnicodeCase]

section

variable (arrives : input.Arrives key payment call store)
variable (recorded : store.data.Recorded payment.id)
include arrives recorded

/-- An event that is news is not stale for a payment whose last event is recorded. -/
theorem Arrives.not_stale : input.stale payment = false := by
  obtain ⟨row, found, -, last⟩ := recorded
  cases arrives.found.symm.trans found
  cases isLast : payment.lastProviderEventAt with
  | none => simp [stale, isLast]
  | some instant =>
    obtain ⟨event, isEvent, ofPayment, rfl⟩ := last instant isLast
    have newer := arrives.news.newer event isEvent (ofPayment.trans arrives.reports.ofPayment.symm)
    simpa [stale, isLast] using newer.le

/-- The event is checked against the payment and the table. -/
theorem Arrives.run_plan : (planProviderEvent call input key).run store =
      if canTransitionReservationPayment payment.status .CAPTURED then
        (((confirmReservation call input payment.reservationId).andThen fun confirmed =>
          pure (.ok (.apply payment .CAPTURED confirmed))).run
            (store.take call (.payment payment.id)))
      else some (.error (.ReservationPaymentStateError "PAYMENT_TRANSITION_INVALID"),
          store.take call (.payment payment.id)) := by
  have ofRestaurant : store.data.paymentOf? payment.id payment.restaurantId = some payment := by
    simp [PaymentData.paymentOf?, arrives.found]
  have sameData : (store.take call (.payment payment.id)).data = store.data := rfl
  simp only [planProviderEvent, arrives.reports.ofPayment, arrives.reports.ofRestaurant,
    Prog.run_bind, run_acquire_of_free arrives.paymentFree, Option.bind_some, run_query, sameData,
    arrives.news.providerEvent, ofRestaurant, arrives.reports.resultingStatus,
    arrives.not_stale recorded]
  cases allowed : canTransitionReservationPayment payment.status .CAPTURED with
  | false => simp
  | true => simp

end

omit store call in
theorem ReportsCapture.unfolds (reports : input.ReportsCapture key payment) (call : PaymentCallId) :
    input.applyReservationPaymentProviderEvent call =
      transact call (planProviderEvent call input key) PaymentData.violation?
        (fun plan _ _ => input.result plan) fun plan data now => input.writes key plan data now := by
  simp only [applyReservationPaymentProviderEvent, reports.isKey]

section

variable (arrives : input.Arrives key payment call store)
variable (recorded : store.data.Recorded payment.id)
include arrives recorded

theorem Arrives.applied (valid : store.data.violation? = none)
    (allowed : canTransitionReservationPayment payment.status .CAPTURED = true) :
    ∃ result store', (input.applyReservationPaymentProviderEvent call).run store =
        some (.ok result, store') ∧
      store'.data.status? payment.id = some .CAPTURED ∧
      ∀ reservation, store.data.reservation? payment.reservationId = some reservation →
        reservation.state = .PENDING →
          store'.data.reservation? payment.reservationId = some reservation.confirmed := by
  have owned : ∃ reservation,
      store.data.reservationOf? payment.reservationId payment.restaurantId = some reservation := by
    obtain ⟨row, found, hasReservation, -⟩ := recorded
    cases arrives.found.symm.trans found
    exact Option.isSome_iff_exists.1 hasReservation
  obtain ⟨reservation, ofRestaurant⟩ := owned
  have isRow : store.data.reservation? payment.reservationId = some reservation :=
    (Option.filter_eq_some_iff.1 ofRestaurant).1
  have planned : (planProviderEvent call input key).run store = some (.ok (.apply payment .CAPTURED
          (if reservation.state = .PENDING then some reservation else none)),
        (store.take call (.payment payment.id)).take call (.reservation payment.reservationId)) := by
    rw [arrives.run_plan recorded, allowed, if_pos rfl]
    rw [← arrives.reports.ofRestaurant] at ofRestaurant
    have confirms : (confirmReservation call input payment.reservationId).run
        (store.take call (.payment payment.id)) = some (_, _) :=
      run_confirmReservation ofRestaurant
        (isFreeFor_take arrives.reservationFree (.payment payment.id))
    rw [Prog.run_andThen_ok confirms]
    rfl
  have accepted := arrives.news.accepted valid payment .CAPTURED
    (if reservation.state = .PENDING then some reservation else none) store.now
  rw [arrives.reports.unfolds]
  refine ⟨_, _, run_transact_ok planned accepted, ?_, ?_⟩
  · exact status?_writes arrives.found .CAPTURED _ store.now
  · intro row found isPending
    cases isRow.symm.trans found
    have sameId : reservation.id = payment.reservationId := KeyedRows.key_of_lookup isRow
    rw [if_pos isPending, ← sameId]
    exact reservation?_writes (sameId.symm ▸ isRow) .CAPTURED store.now

/-- A capture that the table does not allow changes nothing. -/
theorem Arrives.refused
    (refused : canTransitionReservationPayment payment.status .CAPTURED = false) :
    ∃ store', (input.applyReservationPaymentProviderEvent call).run store =
        some (.error (.ReservationPaymentStateError "PAYMENT_TRANSITION_INVALID"), store') ∧
      store'.data = store.data := by
  have planned := arrives.run_plan recorded
  rw [refused] at planned
  rw [arrives.reports.unfolds]
  exact ⟨_, run_transact_error planned, rfl⟩

end

end ProviderEventInput

/-- In every reachable state, a new capture that is newer than every event of its payment
settles a payment that waits for it and confirms its pending reservation, and is refused
without a change for a payment that is over. -/
theorem capture_settles [UnicodeCase] (calls : PaymentCallId → PaymentCall) {store : PaymentStore}
    (valid : store.data.violation? = none) {payment : ReservationPayment}
    (recorded : store.data.Recorded payment.id)
    {c : Config PaymentCallId PaymentStore (Except PaymentFailure PaymentAnswer)}
    (reaches : (paymentSystem calls).Reaches (.initial store) c) {input : ProviderEventInput}
    {key : ProviderEventKey} {call : PaymentCallId}
    (arrives : input.Arrives key payment call c.shared) :
    (payment.status ∈ [.REQUIRES_PAYMENT_METHOD, .REQUIRES_ACTION, .AUTHORIZED, .CAPTURED] →
      ∃ result store', (input.applyReservationPaymentProviderEvent call).run c.shared =
          some (.ok result, store') ∧
        store'.data.status? payment.id = some .CAPTURED ∧
        ∀ reservation, c.shared.data.reservation? payment.reservationId = some reservation →
          reservation.state = .PENDING →
            store'.data.reservation? payment.reservationId = some reservation.confirmed) ∧
    (payment.status ∈ [.PARTIALLY_REFUNDED, .REFUNDED, .CANCELLED, .EXPIRED] →
      ∃ store', (input.applyReservationPaymentProviderEvent call).run c.shared =
          some (.error (.ReservationPaymentStateError "PAYMENT_TRANSITION_INVALID"), store') ∧
        store'.data = c.shared.data) := by
  have runs := PaymentCall.prog_runs calls ∅ store.data
  have starts : (paymentAccess calls ∅ store.data).inv store.data store.now :=
    ⟨valid, fun _ => id⟩
  have always : ∀ call free now data data',
      (paymentAccess calls ∅ store.data).meets call free now data data' :=
    fun _ _ _ _ _ paymentId isWatched => absurd isWatched (Set.notMem_empty paymentId)
  obtain ⟨⟨validHere, records⟩, -⟩ := reaches_sound runs always starts reaches
  have recordedHere := records payment.id recorded
  constructor
  · intro waits
    apply arrives.applied recordedHere validHere
    revert waits
    cases payment.status <;> decide
  · intro ended
    apply arrives.refused recordedHere
    revert ended
    cases payment.status <;> decide

section

attribute [local instance] UnicodeCase.ascii

def earlierEvent (eventType : String) : PaymentCall :=
  .event (depositEvent "evt-0" eventType 500)

/-- The deposit once the earlier event was applied. -/
def depositAfter (status : ReservationPaymentStatus) : ReservationPayment :=
  { deposit with status, lastProviderEventAt := some 500 }

def depositDataAfter (eventType : String) (status : ReservationPaymentStatus) : PaymentData :=
  { pendingDeposit.data with
    payments := [depositAfter status]
    events :=
      [{ id := "evt-0", restaurantId := "r", paymentId := "p", providerEventId := "evt-0", eventType
         resultingStatus := some status
         payloadHash := "0000000000000000000000000000000000000000000000000000000000000000"
         occurredAt := 500 }] }

/-- The data and the locks of the deposit and its reservation. -/
def depositView (result : List (Move PaymentCallId PaymentStore) ×
    Config PaymentCallId PaymentStore (Except PaymentFailure PaymentAnswer)) :
    PaymentData × Option PaymentCallId × Option PaymentCallId :=
  (result.2.shared.data, result.2.shared.owner (.payment "p"),
    result.2.shared.owner (.reservation "b"))

def depositCapture : ProviderEventInput :=
  depositEvent "evt-1" "payment_intent.succeeded" 1000

theorem depositCapture_arrives {store : PaymentStore} {eventType : String}
    {status : ReservationPaymentStatus} (isData : store.data = depositDataAfter eventType status)
    (paymentFree : store.owner (.payment "p") = none)
    (reservationFree : store.owner (.reservation "b") = none) :
    depositCapture.Arrives ⟨"evt-1", "payment_intent.succeeded", depositCapture.payloadHash⟩
      (depositAfter status) 1 store where
  reports :=
    { isKey := by decide +kernel
      eventType := rfl
      ofPayment := rfl
      ofRestaurant := rfl
      account := rfl
      intent := rfl
      hasIntent := by decide
      currency := by
        intro currency isCurrency _
        cases isCurrency
        have euros : normalizeCurrency (some "EUR") = .ok "EUR" := by decide +kernel
        exact euros
      amount := by
        intro amount isAmount
        cases isAmount
        have cents : normalizeMoney 25 = .ok 2500 := by decide +kernel
        exact cents }
  news :=
    { providerEvent := by
        rw [isData]
        rfl
      newId := by
        rw [isData]
        simp [depositDataAfter, depositCapture, depositEvent]
      newer := by
        rw [isData]
        simp [depositDataAfter, depositCapture, depositEvent] }
  found := by
    rw [isData]
    rfl
  paymentFree := by simp [Store.isFreeFor, depositAfter, deposit, paymentFree]
  reservationFree := by simp [Store.isFreeFor, depositAfter, deposit, reservationFree]

/-- The deposit required an action and is then captured. -/
theorem capture_settles_deposit :
    ∃ c, (paymentSystem fun _ => earlierEvent "payment_intent.requires_action").Reaches
        (.initial pendingDeposit) c ∧
      ∃ result store', (depositCapture.applyReservationPaymentProviderEvent 1).run c.shared =
          some (.ok result, store') ∧
        store'.data.status? "p" = some .CAPTURED := by
  obtain ⟨moves, c, run, shown⟩ :=
    (paymentSystem fun _ => earlierEvent "payment_intent.requires_action").exists_run_of_schedule
      [0, 0, 0, 0, 0] (.initial pendingDeposit) (fun moves c => depositView (moves, c) =
        (depositDataAfter "payment_intent.requires_action" .REQUIRES_ACTION, none, none))
      (by decide +kernel)
  simp only [depositView, Prod.mk.injEq] at shown
  have recorded : pendingDeposit.data.Recorded "p" :=
    ⟨deposit, rfl, rfl, fun _ impossible => nomatch impossible⟩
  have settles := (capture_settles _ (by decide) recorded run.reaches
    (depositCapture_arrives shown.1 shown.2.1 shown.2.2)).1 (by decide)
  obtain ⟨result, store', ran, captured, -⟩ := settles
  exact ⟨c, run.reaches, result, store', ran, captured⟩

/-- A payment that expired refuses its capture. -/
theorem capture_refused_after_expiry :
    ¬ ∀ (calls : PaymentCallId → PaymentCall) (store : PaymentStore) (payment : ReservationPayment),
      store.data.violation? = none → store.data.Recorded payment.id →
      ∀ c, (paymentSystem calls).Reaches (.initial store) c →
      ∀ (input : ProviderEventInput) (key : ProviderEventKey) (call : PaymentCallId),
        input.Arrives key payment call c.shared →
        ∃ result store', (input.applyReservationPaymentProviderEvent call).run c.shared =
            some (.ok result, store') ∧
          (payment.status ≠ .PARTIALLY_REFUNDED → payment.status ≠ .REFUNDED →
            store'.data.status? payment.id = some .CAPTURED) ∧
          ∀ reservation, c.shared.data.reservation? payment.reservationId = some reservation →
            reservation.state = .PENDING →
              store'.data.reservation? payment.reservationId = some reservation.confirmed := by
  intro claim
  obtain ⟨moves, c, run, shown⟩ :=
    (paymentSystem fun _ => earlierEvent "payment_intent.expired").exists_run_of_schedule
      [0, 0, 0, 0, 0] (.initial pendingDeposit) (fun moves c => depositView (moves, c) =
        (depositDataAfter "payment_intent.expired" .EXPIRED, none, none)) (by decide +kernel)
  simp only [depositView, Prod.mk.injEq] at shown
  have recorded : pendingDeposit.data.Recorded "p" :=
    ⟨deposit, rfl, rfl, fun _ impossible => nomatch impossible⟩
  have recordedHere : c.shared.data.Recorded "p" := by
    rw [shown.1]
    refine ⟨depositAfter .EXPIRED, rfl, rfl, fun last isLast => ?_⟩
    cases isLast
    exact ⟨_, List.mem_singleton_self _, rfl, rfl⟩
  have arrives := depositCapture_arrives shown.1 shown.2.1 shown.2.2
  obtain ⟨result, store', applied, -⟩ :=
    claim _ pendingDeposit _ (by decide) recorded c run.reaches _ _ 1 arrives
  obtain ⟨store'', refused, -⟩ := arrives.refused recordedHere (by decide)
  rw [applied] at refused
  cases refused

end

end Sokar
