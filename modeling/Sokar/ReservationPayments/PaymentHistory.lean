import Sokar.ReservationPayments.Payments

/-!
# The statuses a payment goes through

Any number of calls about reservation payments run statement by statement in any
interleaving.  Provider events decide under the lock of the payment and the expiry checks
the rows it updates, so both keep to the transition table.  `transitionReservationPayment`
updates by identifier what it checked before: it keeps to the table as long as the
status it finds when it writes may still become the one asked for.
-/

namespace Sokar

open Process Transaction Transaction.Access

inductive PaymentCall where
  | prepare (input : PreparePaymentInput)
  | transition (input : PaymentTransitionInput)
  | expire
  | event (input : ProviderEventInput)

inductive PaymentAnswer where
  | prepared (result : ReservationPaymentPreparation ⊕ ReservationPayment)
  | transitioned (payment : ReservationPayment)
  | expired (count : Nat)
  | processed (result : ProviderEventResult)
  deriving DecidableEq

variable (calls : PaymentCallId → PaymentCall)

section

variable [UnicodeCase]

def PaymentCall.prog (call : PaymentCallId) :
    PaymentCall → PaymentProg (Except PaymentFailure PaymentAnswer)
  | .prepare input =>
    (input.prepareReservationPayment call).andThen fun result => pure (.ok (.prepared result))
  | .transition input =>
    (transitionReservationPayment call input).andThen fun row => pure (.ok (.transitioned row))
  | .expire => (expireReservationPayments call).andThen fun count => pure (.ok (.expired count))
  | .event input =>
    (input.applyReservationPaymentProviderEvent call).andThen fun result =>
      pure (.ok (.processed result))

def paymentSystem : System PaymentCallId PaymentStore (Except PaymentFailure PaymentAnswer) :=
  system fun call => (calls call).prog call

end

variable (paymentId : Id)

namespace PaymentData

def status? (data : PaymentData) (paymentId : Id) : Option ReservationPaymentStatus :=
  (data.payment? paymentId).map (·.status)

/-- Nothing a lock guards has changed; only rows that exist can be locked. -/
def Same (data data' : PaymentData) : PaymentLock → Prop
  | .payment paymentId =>
    (data.payment? paymentId).isSome → data'.payment? paymentId = data.payment? paymentId
  | .reservation reservationId => data'.reservation? reservationId = data.reservation? reservationId

/-- The payment exists with its reservation, and its last provider event is recorded. -/
def Recorded (data : PaymentData) : Prop :=
  ∃ payment, data.payment? paymentId = some payment ∧
    (data.reservationOf? payment.reservationId payment.restaurantId).isSome ∧
    ∀ last, payment.lastProviderEventAt = some last →
      ∃ event ∈ data.events, event.paymentId = paymentId ∧ event.occurredAt = last

/-- A payment that has a status keeps to the transition table. -/
def StatusStep (data data' : PaymentData) : Prop :=
  ∀ source, data.status? paymentId = some source →
    ∃ target, data'.status? paymentId = some target ∧
      canTransitionReservationPayment source target = true

end PaymentData

open PaymentData

def paymentParts : Parts PaymentData PaymentLock where
  same lock data data' := data.Same data' lock
  evolves _ _ := True
  same_refl lock data := by
    cases lock with
    | payment paymentId => exact fun _ => rfl
    | reservation reservationId => exact Eq.refl _
  evolves_refl _ := trivial
  same_trans {lock _ _ _} first second := by
    cases lock with
    | payment paymentId =>
      intro isSome
      have sameFirst := first isSome
      exact (second (sameFirst ▸ isSome)).trans sameFirst
    | reservation reservationId => exact Eq.trans second first
  evolves_trans _ _ := trivial

theorem canTransitionReservationPayment_self (status : ReservationPaymentStatus) :
    canTransitionReservationPayment status status = true := by
  simp [canTransitionReservationPayment]

namespace PaymentData

variable {paymentId : Id} {data data' : PaymentData}

theorem StatusStep.of_payment_eq (same : data'.payment? paymentId = data.payment? paymentId) :
    StatusStep paymentId data data' := by
  intro source before
  refine ⟨source, ?_, canTransitionReservationPayment_self source⟩
  rw [status?, same]
  exact before

theorem StatusStep.refl (paymentId : Id) (data : PaymentData) : StatusStep paymentId data data :=
  .of_payment_eq rfl

theorem StatusStep.update (selected : ReservationPayment → Bool)
    {change : ReservationPayment → ReservationPayment} (keeps : ∀ row, (change row).id = row.id)
    (allowed : ∀ payment, data.payment? paymentId = some payment → selected payment = true →
      canTransitionReservationPayment payment.status (change payment).status = true) :
    StatusStep paymentId data
      { data with payments := KeyedRows.update selected change data.payments } := by
  intro source before
  obtain ⟨payment, found, sameStatus⟩ := Option.map_eq_some_iff.1 before
  have after : ({ data with payments := KeyedRows.update selected change data.payments } :
      PaymentData).payment? paymentId =
        some (if selected payment then change payment else payment) :=
    (KeyedRows.lookup_update selected keeps).trans (congrArg _ found)
  refine ⟨_, congrArg _ after, ?_⟩
  subst sameStatus
  split
  next isSelected => exact allowed payment found isSelected
  next => exact canTransitionReservationPayment_self _

theorem payment?_insertPayment (row : ReservationPayment) (isSome : (data.payment? paymentId).isSome) :
    (data.insertPayment row).payment? paymentId = data.payment? paymentId := by
  obtain ⟨payment, found⟩ := Option.isSome_iff_exists.1 isSome
  rw [payment?, insertPayment, KeyedRows.lookup_append]
  rw [payment?] at found
  simp [found, payment?]

end PaymentData

namespace PaymentData.Recorded

variable {paymentId : Id} {data : PaymentData}

theorem insertPayment (recorded : data.Recorded paymentId) (row : ReservationPayment) :
    (data.insertPayment row).Recorded paymentId := by
  obtain ⟨payment, found, rest⟩ := recorded
  exact ⟨payment, (payment?_insertPayment row (found ▸ rfl)).trans found, rest⟩

theorem insertEvent (recorded : data.Recorded paymentId) (row : ReservationPaymentEvent) :
    (data.insertEvent row).Recorded paymentId := by
  obtain ⟨payment, found, hasReservation, last⟩ := recorded
  refine ⟨payment, found, hasReservation, fun instant isLast => ?_⟩
  obtain ⟨event, isEvent, ofPayment⟩ := last instant isLast
  exact ⟨event, List.mem_append_left _ isEvent, ofPayment⟩

theorem update (recorded : data.Recorded paymentId) (selected : ReservationPayment → Bool)
    {change : ReservationPayment → ReservationPayment} (keeps : ∀ row, (change row).id = row.id)
    (sameReservation : ∀ row, (change row).reservationId = row.reservationId)
    (sameRestaurant : ∀ row, (change row).restaurantId = row.restaurantId)
    (last : ∀ row instant, row.id = paymentId → selected row = true →
      (change row).lastProviderEventAt = some instant → row.lastProviderEventAt = some instant ∨
        ∃ event ∈ data.events, event.paymentId = paymentId ∧ event.occurredAt = instant) :
    ({ data with payments := KeyedRows.update selected change data.payments } :
      PaymentData).Recorded paymentId := by
  obtain ⟨payment, found, hasReservation, lastBefore⟩ := recorded
  refine ⟨if selected payment then change payment else payment,
    (KeyedRows.lookup_update selected keeps).trans (congrArg _ found), ?_, ?_⟩
  · split
    · rw [sameReservation, sameRestaurant]
      exact hasReservation
    · exact hasReservation
  · intro instant isLast
    split at isLast
    next isSelected =>
      rcases last payment instant (KeyedRows.key_of_lookup found) isSelected isLast with
        before | now
      · exact lastBefore instant before
      · exact now
    next => exact lastBefore instant isLast

theorem updateReservation (recorded : data.Recorded paymentId) (reservationId : Id)
    {change : PaidReservation → PaidReservation} (keeps : ∀ row, (change row).id = row.id)
    (sameRestaurant : ∀ row, (change row).restaurantId = row.restaurantId) :
    (data.updateReservation reservationId change).Recorded paymentId := by
  obtain ⟨payment, found, hasReservation, last⟩ := recorded
  refine ⟨payment, found, ?_, last⟩
  obtain ⟨reservation, isRow, ofRestaurant⟩ := by
    simpa only [reservationOf?, Option.isSome_iff_exists, Option.filter_eq_some_iff] using
      hasReservation
  have after : (data.updateReservation reservationId change).reservation? payment.reservationId =
      some (if reservation.id == reservationId then change reservation else reservation) :=
    (KeyedRows.lookup_update _ keeps).trans (congrArg _ isRow)
  rw [reservationOf?, after]
  split <;> simp_all

end PaymentData.Recorded

section

variable {owned : Set PaymentLock} {data : PaymentData}

theorem PaymentWrites.insertPayment (row : ReservationPayment) :
    paymentParts.Writes owned data (data.insertPayment row) where
  evolves := trivial
  same lock _ := by
    cases lock with
    | payment paymentId => exact payment?_insertPayment row
    | reservation reservationId => exact Eq.refl _

theorem PaymentWrites.insertEvent (row : ReservationPaymentEvent) :
    paymentParts.Writes owned data (data.insertEvent row) where
  evolves := trivial
  same lock _ := paymentParts.same_refl lock data

theorem PaymentWrites.update (selected : ReservationPayment → Bool)
    {change : ReservationPayment → ReservationPayment} (keeps : ∀ row, (change row).id = row.id)
    (locked : ∀ row, selected row = true → .payment row.id ∈ owned) :
    paymentParts.Writes owned data
      { data with payments := KeyedRows.update selected change data.payments } where
  evolves := trivial
  same lock outside := by
    cases lock with
    | payment paymentId =>
      intro _
      apply KeyedRows.lookup_update_of_unselected keeps
      intro row isRow
      rw [← Bool.not_eq_true]
      exact fun isSelected => outside (isRow ▸ locked row isSelected)
    | reservation reservationId => exact Eq.refl _

theorem PaymentWrites.updateReservation {reservationId : Id}
    {change : PaidReservation → PaidReservation} (keeps : ∀ row, (change row).id = row.id)
    (locked : .reservation reservationId ∈ owned) :
    paymentParts.Writes owned data (data.updateReservation reservationId change) where
  evolves := trivial
  same lock outside := by
    cases lock with
    | payment paymentId => exact fun _ => rfl
    | reservation other =>
      apply KeyedRows.lookup_update_of_unselected keeps
      exact fun row isOther => beq_false_of_ne fun same => outside (isOther ▸ same ▸ locked)

end

/-- The update of a transition finds a status that may still become the one asked for. -/
def TransitionTimely (call : PaymentCallId) (data data' : PaymentData) : Prop :=
  ∀ input, calls call = .transition input → input.paymentId = paymentId → data' ≠ data →
    ∀ status, data.status? paymentId = some status →
      canTransitionReservationPayment status input.target = true

/-- Sessions that keep to the table for the payments watched, as long as their transitions
are timely, and that keep the record of payments that had one. -/
def paymentAccess (watched : Set Id) (first : PaymentData) :
    Access PaymentData PaymentLock PaymentCallId where
  inv data _ :=
    data.violation? = none ∧ ∀ paymentId, first.Recorded paymentId → data.Recorded paymentId
  meets call _ _ data data' := ∀ paymentId ∈ watched, TransitionTimely calls paymentId call data data'
  writes owned data data' :=
    paymentParts.Writes owned data data' ∧ ∀ paymentId ∈ watched, StatusStep paymentId data data'
  inv_later _ valid := valid
  writes_refl owned data := ⟨.refl owned data, fun paymentId _ => .refl paymentId data⟩
  writes_mono sub writes := ⟨writes.1.mono sub, writes.2⟩

section

variable {calls : PaymentCallId → PaymentCall} {watched : Set Id} {first : PaymentData}
variable {call : PaymentCallId} {owned : Set PaymentLock}

theorem protects_nothingPaid : (paymentAccess calls watched first).Protects owned fun _ _ => True :=
  protects_const True

theorem protects_foundPayment {lockedId : Id} (locked : .payment lockedId ∈ owned)
    (payment : ReservationPayment) :
    (paymentAccess calls watched first).Protects owned fun data _ =>
      data.payment? lockedId = some payment where
  writes _ _ writes found :=
    (writes.1.same (.payment lockedId) (fun outside => outside locked) (found ▸ rfl)).trans found
  clock _ found := found

section

variable [UnicodeCase] (input : PreparePaymentInput)

omit [UnicodeCase] in
theorem create_runs (prepared : ReservationPaymentPreparation) :
    (paymentAccess calls watched first).Serves call (input.create call prepared) := by
  have inserts : (paymentAccess calls watched first).Serves call
      (commitUnless call PaymentData.violation? (fun _ _ => input.row prepared)
        fun data _ => data.insertPayment (input.row prepared)) := by
    apply Runs.commitUnless protects_nothingPaid fun _ => protects_const True
    intro data now inv _ accepted _
    refine ⟨⟨accepted, fun paymentId start => (inv.2 paymentId start).insertPayment _⟩,
      ⟨PaymentWrites.insertPayment _, ?_⟩, trivial⟩
    intro paymentId _ source before
    obtain ⟨payment, found, -⟩ := Option.map_eq_some_iff.1 before
    exact StatusStep.of_payment_eq (payment?_insertPayment _ (found ▸ rfl)) source before
  apply Runs.bind inserts
  intro created
  cases created with
  | ok row => exact ends_pure _
  | error failure => exact Runs.glance (protects_const True) fun _ => ends_pure _

theorem prepareReservationPayment_runs :
    (paymentAccess calls watched first).Serves call (input.prepareReservationPayment call) := by
  unfold PreparePaymentInput.prepareReservationPayment
  split
  · exact ends_pure _
  apply Runs.glance protects_nothingPaid
  intro now
  apply Runs.glance protects_nothingPaid
  intro reservation
  split
  · exact ends_pure _
  split
  · exact ends_pure _
  apply Runs.glance protects_nothingPaid
  intro policy
  split
  · exact ends_pure _
  split
  · exact ends_pure _
  split
  · exact ends_pure _
  apply Runs.glance protects_nothingPaid
  intro existing
  split
  · exact ends_pure _
  · exact create_runs input _

end

theorem payment_of_paymentOf? {data : PaymentData} {wanted restaurantId : Id}
    {payment : ReservationPayment} (found : data.paymentOf? wanted restaurantId = some payment) :
    payment.id = wanted ∧ data.payment? wanted = some payment := by
  have row := (Option.filter_eq_some_iff.1 found).1
  exact ⟨KeyedRows.key_of_lookup row, row⟩

theorem transitionReservationPayment_runs {input : PaymentTransitionInput}
    (isCall : calls call = .transition input) :
    (paymentAccess calls watched first).Serves call (transitionReservationPayment call input) := by
  have known : ∀ found : Option ReservationPayment, (paymentAccess calls watched first).Protects ∅
      fun _ _ => ∀ payment, found = some payment → payment.id = input.paymentId :=
    fun found => protects_const _
  apply Runs.query protects_nothingPaid known
  · exact fun data now _ _ payment found => (payment_of_paymentOf? found).1
  intro current
  cases current with
  | none => exact Runs.knowing (fun _ _ _ _ => trivial) (ends_pure _)
  | some current =>
    dsimp only
    split
    · exact Runs.knowing (fun _ _ _ _ => trivial) (ends_pure _)
    split
    · exact Runs.knowing (fun _ _ _ _ => trivial) (ends_pure _)
    apply Runs.assuming fun data now _ holds => holds.2 current rfl
    intro isTarget
    apply Runs.knowing fun _ _ _ _ => trivial
    apply Runs.acquire protects_nothingPaid
    apply Runs.commitUnless protects_nothingPaid fun _ => protects_const True
    intro data now inv _ accepted meets
    obtain ⟨_, timely⟩ := meets
    have keeps : ∀ row, (input.transitioned row).id = row.id := fun _ => rfl
    refine ⟨⟨accepted, fun paymentId start => ?_⟩, ⟨PaymentWrites.update _ keeps ?_, ?_⟩, trivial⟩
    · exact (inv.2 paymentId start).update _ keeps (fun _ => rfl) (fun _ => rfl)
        fun _ _ _ _ same => .inl same
    · exact fun row selected => .inl (congrArg _ (beq_iff_eq.1 selected))
    · intro paymentId isWatched
      by_cases unchanged : data.updatePayment current.id input.transitioned = data
      · exact unchanged.symm ▸ .refl paymentId data
      · apply StatusStep.update _ keeps
        intro payment found selected
        have same : input.paymentId = paymentId := by
          rw [← isTarget, ← beq_iff_eq.1 selected, KeyedRows.key_of_lookup found]
        exact timely paymentId isWatched input isCall same unchanged payment.status
          (congrArg _ found)

theorem expireReservationPayments_runs :
    (paymentAccess calls watched first).Serves call (expireReservationPayments call) := by
  apply Runs.glance protects_nothingPaid
  intro now
  apply Runs.glance protects_nothingPaid
  intro found
  apply Runs.bind (Runs.acquireAll protects_nothingPaid)
  intro _
  apply Runs.commitUnless protects_nothingPaid fun _ => protects_const True
  intro data later inv _ accepted _
  have keeps : ∀ row : ReservationPayment, row.expired.id = row.id := fun _ => rfl
  refine ⟨⟨accepted, fun paymentId start => ?_⟩, ⟨PaymentWrites.update _ keeps ?_, ?_⟩, trivial⟩
  · exact (inv.2 paymentId start).update _ keeps (fun _ => rfl) (fun _ => rfl)
      fun _ _ _ _ same => .inl same
  · intro row expiring
    rw [ReservationPayment.expiring, Bool.and_eq_true, List.contains_iff_mem] at expiring
    exact .inr (List.mem_map.2 ⟨row.id, expiring.1, rfl⟩)
  · intro paymentId _
    apply StatusStep.update _ keeps
    intro payment _ expiring
    simp only [ReservationPayment.expiring, ReservationPayment.overdue, Bool.and_eq_true,
      Bool.or_eq_true, beq_iff_eq] at expiring
    rcases expiring.2.1 with waiting | waiting <;> rw [waiting] <;> rfl

namespace ProviderEventInput

def locks : ProviderEventPlan → Set PaymentLock
  | .duplicate _ => ∅
  | .ignore _ _ => ∅
  | .apply payment _ confirmed =>
    { lock | lock = .payment payment.id ∨
      ∃ reservation, confirmed = some reservation ∧ lock = .reservation reservation.id }

/-- What an event knows when it commits. -/
def Planned : ProviderEventPlan → PaymentData → Instant → Prop
  | .duplicate _, _, _ => True
  | .ignore _ _, _, _ => True
  | .apply payment status _, data, _ =>
    canTransitionReservationPayment payment.status status = true ∧
      data.payment? payment.id = some payment

theorem protects_planned (plan : ProviderEventPlan) :
    (paymentAccess calls watched first).Protects (locks plan) (Planned plan) := by
  cases plan with
  | duplicate event => exact protects_const True
  | ignore payment stale => exact protects_const True
  | apply payment status confirmed =>
    exact (protects_const _).and (protects_foundPayment (.inl rfl) payment)

theorem confirmReservation_decides {input : ProviderEventInput} {reservationId : Id}
    {fact : PaymentData → Instant → Prop}
    (protects : (paymentAccess calls watched first).Protects owned fact) :
    (paymentAccess calls watched first).Decides call owned fact
      (confirmReservation call input reservationId)
      (fun confirmed => { lock | lock ∈ owned ∨
        ∃ reservation, confirmed = some reservation ∧ lock = .reservation reservation.id })
      fun _ => fact := by
  apply Decides.acquire protects
  have wide := protects.more (Set.subset_insert (PaymentLock.reservation reservationId) owned)
  have known : ∀ found : Option PaidReservation, (paymentAccess calls watched first).Protects
      (insert (PaymentLock.reservation reservationId) owned) fun _ _ =>
        ∀ reservation, found = some reservation → reservation.id = reservationId :=
    fun found => protects_const _
  apply Decides.query wide known
  · intro data now _ _ reservation found
    exact KeyedRows.key_of_lookup (Option.filter_eq_some_iff.1 found).1
  intro previous
  cases previous with
  | none => exact Decides.error _
  | some previous =>
    apply Decides.assuming fun data now _ holds => holds.2 previous rfl
    intro isReservation
    refine Decides.ok ?_ (protects.more fun lock isOwned => .inl isOwned) fun _ _ _ holds =>
      holds.1
    intro lock member
    rcases member with isOwned | ⟨reservation, isPrevious, isLock⟩
    · exact .inr isOwned
    · split at isPrevious
      · cases isPrevious
        exact .inl (isLock.trans (congrArg _ isReservation))
      · cases isPrevious

variable [UnicodeCase] (input : ProviderEventInput) (key : ProviderEventKey)

theorem planProviderEvent_decides :
    (paymentAccess calls watched first).Decides call ∅ (fun _ _ => True)
      (planProviderEvent call input key) locks Planned := by
  apply Decides.acquire protects_nothingPaid
  apply Decides.glance protects_nothingPaid
  intro existingEvent
  split
  next event =>
    exact Decides.ok (Set.empty_subset _) (protects_planned (.duplicate event)) fun _ _ _ _ =>
      trivial
  have locked : PaymentLock.payment input.paymentId ∈
      (insert (.payment input.paymentId) ∅ : Set PaymentLock) :=
    Set.mem_insert _ _
  have known : ∀ found : Option ReservationPayment, (paymentAccess calls watched first).Protects
      (insert (.payment input.paymentId) ∅) fun data _ => ∀ payment, found = some payment →
        payment.id = input.paymentId ∧ data.payment? input.paymentId = some payment :=
    fun found => Protects.all fun payment => Protects.all fun _ =>
      (protects_const _).and (protects_foundPayment locked payment)
  apply Decides.query protects_nothingPaid known
  · exact fun data now _ _ payment found => payment_of_paymentOf? found
  intro found
  cases found with
  | none => exact Decides.error _
  | some payment =>
    dsimp only
    split
    · exact Decides.error _
    · exact Decides.ok (Set.empty_subset _) (protects_planned (.ignore payment false))
        fun _ _ _ _ => trivial
    next status _ =>
      split
      · exact Decides.ok (Set.empty_subset _) (protects_planned (.ignore payment true))
          fun _ _ _ _ => trivial
      split
      · exact Decides.error _
      next allowed =>
        rw [Bool.not_eq_true', Bool.not_eq_false] at allowed
        have still := protects_nothingPaid.and (known (some payment))
        apply Decides.assuming fun data now _ holds => (holds.2 payment rfl).1
        intro isPayment
        split
        · apply Decides.andThen (confirmReservation_decides still)
          intro confirmed
          refine Decides.ok ?_ (protects_planned (.apply payment status confirmed)) ?_
          · rintro lock (isPaymentLock | isReservationLock)
            · exact .inl (.inl (isPaymentLock.trans (congrArg _ isPayment)))
            · exact .inr isReservationLock
          · exact fun data now _ holds =>
              ⟨allowed, isPayment.symm ▸ (holds.2 payment rfl).2⟩
        · refine Decides.ok ?_ (protects_planned (.apply payment status none)) ?_
          · rintro lock (isPaymentLock | ⟨_, impossible, _⟩)
            · exact .inl (isPaymentLock.trans (congrArg _ isPayment))
            · cases impossible
          · exact fun data now _ holds =>
              ⟨allowed, isPayment.symm ▸ (holds.2 payment rfl).2⟩

omit [UnicodeCase] in
theorem writes_apply (paymentId : Id) {data : PaymentData} {now : Instant} {payment : ReservationPayment}
    {status : ReservationPaymentStatus} {confirmed : Option PaidReservation}
    (planned : Planned (.apply payment status confirmed) data now) :
    paymentParts.Writes (locks (.apply payment status confirmed)) data
        (input.writes key (.apply payment status confirmed) data now) ∧
      StatusStep paymentId data (input.writes key (.apply payment status confirmed) data now) := by
  have keeps : ∀ row, (input.applied status row).id = row.id := fun _ => rfl
  have updates : StatusStep paymentId data
      (data.updatePayment payment.id (input.applied status)) := by
    apply StatusStep.update _ keeps
    intro found isFound selected
    have same : paymentId = payment.id := by
      rw [← beq_iff_eq.1 selected, KeyedRows.key_of_lookup isFound]
    cases (planned.2.symm.trans (same ▸ isFound))
    exact planned.1
  have locked : ∀ row : ReservationPayment, (row.id == payment.id) = true →
      PaymentLock.payment row.id ∈ locks (.apply payment status confirmed) :=
    fun row selected => .inl (congrArg _ (beq_iff_eq.1 selected))
  have writesPayment : paymentParts.Writes (locks (.apply payment status confirmed)) data
      ((data.updatePayment payment.id (input.applied status)).insertEvent
        (input.event key payment.id (some status))) :=
    (PaymentWrites.update _ keeps locked).trans (PaymentWrites.insertEvent _)
  cases confirmed with
  | none => exact ⟨writesPayment, updates⟩
  | some reservation =>
    exact ⟨writesPayment.trans (PaymentWrites.updateReservation (fun _ => rfl)
      (.inr ⟨reservation, rfl, rfl⟩)), updates⟩

omit [UnicodeCase] in
theorem writes_recorded {paymentId : Id} {data : PaymentData} (plan : ProviderEventPlan) (now : Instant)
    (recorded : data.Recorded paymentId) : (input.writes key plan data now).Recorded paymentId := by
  cases plan with
  | duplicate event => exact recorded
  | ignore payment stale => exact recorded.insertEvent _
  | apply payment status confirmed =>
    have keeps : ∀ row, (input.applied status row).id = row.id := fun _ => rfl
    have sameReservation : ∀ row, (input.applied status row).reservationId = row.reservationId :=
      fun _ => rfl
    have sameRestaurant : ∀ row, (input.applied status row).restaurantId = row.restaurantId :=
      fun _ => rfl
    have applies : ((data.insertEvent (input.event key payment.id (some status))).updatePayment
        payment.id (input.applied status)).Recorded paymentId := by
      apply (recorded.insertEvent _).update _ keeps sameReservation sameRestaurant
      intro row instant isPayment selected isLast
      cases isLast
      refine .inr ⟨_, List.mem_append_right _ (List.mem_singleton_self _), ?_, rfl⟩
      exact (beq_iff_eq.1 selected).symm.trans isPayment
    cases confirmed with
    | none => exact applies
    | some reservation =>
      have keepsRow : ∀ row : PaidReservation, row.confirmed.id = row.id := fun _ => rfl
      have sameOwner : ∀ row : PaidReservation, row.confirmed.restaurantId = row.restaurantId :=
        fun _ => rfl
      exact applies.updateReservation reservation.id keepsRow sameOwner

theorem applyReservationPaymentProviderEvent_runs : (paymentAccess calls watched first).Serves call
      (input.applyReservationPaymentProviderEvent call) := by
  unfold applyReservationPaymentProviderEvent
  split
  · exact ends_pure _
  next key _ =>
    apply Runs.transact (planProviderEvent_decides input key) protects_planned
      fun _ => protects_const True
    intro plan data now inv planned accepted _
    refine ⟨⟨accepted, fun paymentId start =>
      input.writes_recorded key plan now (inv.2 paymentId start)⟩, ?_, trivial⟩
    cases plan with
    | duplicate event => exact ⟨.refl _ data, fun paymentId _ => .refl paymentId data⟩
    | ignore payment stale =>
      exact ⟨PaymentWrites.insertEvent _, fun _ _ => StatusStep.of_payment_eq rfl⟩
    | apply payment status confirmed =>
      exact ⟨(input.writes_apply key payment.id planned).1, fun paymentId _ =>
        (input.writes_apply key paymentId planned).2⟩

end ProviderEventInput

variable [UnicodeCase] (calls) (watched) (first)

theorem PaymentCall.prog_runs (call : PaymentCallId) :
    (paymentAccess calls watched first).Serves call ((calls call).prog call) := by
  cases isCall : calls call with
  | prepare input =>
    exact ends_map (prepareReservationPayment_runs input)
  | transition input =>
    exact ends_map (transitionReservationPayment_runs isCall)
  | expire =>
    exact ends_map expireReservationPayments_runs
  | event input =>
    exact ends_map input.applyReservationPaymentProviderEvent_runs

end

/-- The statuses committed for a payment along a run, from the start. -/
def statusHistory (first : PaymentData) (moves : List (Move PaymentCallId PaymentStore)) :
    List ReservationPaymentStatus :=
  (history first moves).filterMap fun data => data.status? paymentId

def IsPath (statuses : List ReservationPaymentStatus) : Prop :=
  statuses.IsChain fun source target => canTransitionReservationPayment source target = true

theorem isPath_of_isChain {paymentId : Id} {versions : List PaymentData}
    (chain : versions.IsChain (StatusStep paymentId)) :
    IsPath (versions.filterMap fun data => data.status? paymentId) := by
  induction versions with
  | nil => exact .nil
  | cons data rest ih =>
    cases rest with
    | nil => cases status : data.status? paymentId <;> simp [IsPath, status]
    | cons next rest =>
      obtain ⟨step, chainRest⟩ := List.isChain_cons_cons.1 chain
      have path := ih chainRest
      cases before : data.status? paymentId with
      | none => simpa [before] using path
      | some source =>
        obtain ⟨target, after, allowed⟩ := step source before
        simp only [List.filterMap_cons, before, after] at path ⊢
        exact .cons_cons allowed path

/-- A terminal status is never left along a path. -/
theorem IsPath.terminal {statuses later : List ReservationPaymentStatus}
    {status : ReservationPaymentStatus} (path : IsPath (statuses ++ status :: later))
    (isTerminal : status.successors = []) : ∀ next ∈ later, next = status := by
  have tail : IsPath (status :: later) := (List.isChain_append.1 path).2.1
  clear path
  induction later with
  | nil => exact fun _ impossible => nomatch impossible
  | cons next rest ih =>
    obtain ⟨allowed, pathRest⟩ := List.isChain_cons_cons.1 tail
    have same : next = status := by
      simp only [canTransitionReservationPayment, isTerminal, List.contains_nil, Bool.or_false,
        beq_iff_eq] at allowed
      exact allowed.symm
    subst same
    intro other isOther
    rcases List.mem_cons.1 isOther with isNext | inRest
    · exact isNext
    · exact ih pathRest other inRest

section

attribute [local instance] UnicodeCase.ascii

/-- A deposit of 25 euros that no payment method was given for yet. -/
def deposit : ReservationPayment :=
  { id := "p", restaurantId := "r", reservationId := "b", policyId := "y"
    status := .REQUIRES_PAYMENT_METHOD, amount := 2500, currency := "EUR"
    stripeAccountId := none, stripeSetupIntentId := none, stripePaymentIntentId := some "pi"
    idempotencyKey := "key-1234", expiresAt := some 1800000, failureCode := none
    lastProviderEventAt := none }

def pendingDeposit : PaymentStore where
  data :=
    { policies := []
      reservations := [⟨"b", "r", 2, .PENDING, .CONFIRMED⟩]
      payments := [deposit]
      events := [] }
  now := 0
  owner _ := none

def operatorExpiry : PaymentCall :=
  .transition { restaurantId := "r", paymentId := "p", target := .EXPIRED, failureCode := none }

def depositEvent (providerEventId eventType : String) (occurredAt : Instant) : ProviderEventInput where
  restaurantId := "r"
  paymentId := "p"
  providerEventId
  eventType
  occurredAt
  payloadHash := "0000000000000000000000000000000000000000000000000000000000000000"
  amount := some 25
  currency := some "EUR"
  stripeSetupIntentId := none
  stripePaymentIntentId := some "pi"
  stripeAccountId := none
  refundedAmount := none
  failureCode := none
  newId := providerEventId

def expiryAndCapture (call : PaymentCallId) : PaymentCall :=
  if call = 0 then operatorExpiry
  else .event (depositEvent "evt-1" "payment_intent.succeeded" 1000)

/-- The data changes only while the deposit still waits for a method. -/
def depositWaits (moves : List (Move PaymentCallId PaymentStore)) : Bool :=
  moves.all fun move =>
    decide (move.after.data = move.before.data) ||
      move.before.data.status? "p" == some .REQUIRES_PAYMENT_METHOD

end

end Sokar
