import Sokar.Experiences.SessionSeats

/-!
# Checkouts that are booked or refunded

A checkout that is booked stays so until its reservation is cancelled or its payment is
refunded, and a refunded one stays refunded, in every run in which no event about it is
overtaken: an event that changes the checkout once it is booked or refunded has found it so
before.  Without that condition an event that read the checkout while it was open sends a
refund that has succeeded back to pending.
-/

namespace Sokar

open Process Transaction Transaction.Access

/-! ## What each call may change -/

variable (status : ExperienceCheckoutStatus)

def ExperienceCheckoutStatus.isBooked : Bool :=
  status == .PAID || status == .FREE

namespace ExperienceData

variable {data data' : ExperienceData}
variable {allowed : ExperienceCheckout → ExperienceCheckout → Prop}

/-- No two reservations have the same idempotency key. -/
def OneForEachKey (data : ExperienceData) : Prop :=
  (data.reservations.filterMap (·.idempotencyKey)).Nodup

/-- Every checkout is still there and changed as allowed, and idempotency keys stay unique. -/
structure Changes (allowed : ExperienceCheckout → ExperienceCheckout → Prop)
    (data data' : ExperienceData) : Prop where
  keys : data.OneForEachKey → data'.OneForEachKey
  checkouts : ∀ checkoutId row, data.checkout? checkoutId = some row →
    ∃ row', data'.checkout? checkoutId = some row' ∧ (row' = row ∨ allowed row row')

theorem Changes.updateCheckouts {selected : ExperienceCheckout → Bool}
    {change : ExperienceCheckout → ExperienceCheckout} (sameId : ∀ row, (change row).id = row.id)
    (isAllowed : ∀ row, selected row = true → allowed row (change row)) :
    Changes allowed data (data.updateCheckouts selected change) where
  keys := id
  checkouts checkoutId row found := by
    have changed : (data.updateCheckouts selected change).checkout? checkoutId =
        (data.checkout? checkoutId).map fun row => if selected row then change row else row :=
      KeyedRows.lookup_update selected sameId
    rw [changed, found]
    refine ⟨if selected row then change row else row, rfl, ?_⟩
    split
    next isSelected => exact .inr (isAllowed row isSelected)
    next => exact .inl rfl

/-- Writes to other tables, or rows added to this one. -/
theorem Changes.of_added (keys : data.OneForEachKey → data'.OneForEachKey)
    (added : data.checkouts <+: data'.checkouts) : Changes allowed data data' where
  keys := keys
  checkouts checkoutId row found := by
    obtain ⟨more, same⟩ := added
    refine ⟨row, ?_, .inl rfl⟩
    simp only [checkout?, KeyedRows.lookup] at found
    simp [checkout?, KeyedRows.lookup, ← same, List.find?_append, found]

theorem Changes.insertEvent (changes : Changes allowed data data')
    (event : ExperiencePaymentEvent) : Changes allowed data (data'.insertEvent event) where
  keys := changes.keys
  checkouts := changes.checkouts

theorem oneForEachKey_of_accepted (accepted : data.violation? = none) : data.OneForEachKey := by
  have unique : data.keysUnique = true := by
    unfold ExperienceData.violation? at accepted
    split at accepted
    · cases accepted
    · simp_all
  simp only [ExperienceData.keysUnique, Bool.and_eq_true, decide_eq_true_eq] at unique
  exact unique.1.1.1.1.1.1.1.2

theorem Changes.insertReservation {row : ExperienceReservation}
    (accepted : (data.insertReservation row).violation? = none) :
    Changes allowed data (data.insertReservation row) :=
  .of_added (fun _ => oneForEachKey_of_accepted accepted) (List.prefix_refl _)

theorem Changes.insertCheckout (row : ExperienceCheckout) :
    Changes allowed data (data.insertCheckout row) :=
  .of_added id (List.prefix_append _ _)

theorem Changes.updateReservations {selected : ExperienceReservation → Bool}
    {change : ExperienceReservation → ExperienceReservation}
    (sameKey : ∀ row, (change row).idempotencyKey = row.idempotencyKey) :
    Changes allowed data (data.updateReservations selected change) := by
  apply Changes.of_added
  · intro unique
    change ((KeyedRows.update selected change data.reservations).filterMap _).Nodup
    rw [KeyedRows.filterMap_update _ _ sameKey]
    exact unique
  · exact List.prefix_refl _

end ExperienceData

open ExperienceData

theorem FreesSeats.changes {allowed : ExperienceCheckout → ExperienceCheckout → Prop}
    {data data' : ExperienceData} (gives : FreesSeats allowed data data') :
    ExperienceData.Changes allowed data data' := by
  induction gives with
  | nothing => exact .of_added id (List.prefix_refl _)
  | checkouts follows _ isAllowed =>
    exact .updateCheckouts (fun row => (follows row).id) isAllowed
  | reservations sameKey _ _ => exact .updateReservations sameKey
  | event _ event ih => exact ih.insertEvent event

section

variable {call : ExperienceCallId} {allowed : ExperienceCheckout → ExperienceCheckout → Prop}

theorem changes_of_freesSeats {α : Type} {prog : ExperienceProg (Except ExperienceFailure α)}
    (acts : Acts call (fun data _ data' => FreesSeats allowed data data') prog) :
    Acts call (fun data _ data' => ExperienceData.Changes allowed data data') prog :=
  acts.mono fun _ _ _ gives => gives.changes

theorem quiet_countSeats (restaurantId sessionId : Id) (except : Option Id) (now : Instant) :
    Quiet call (countSeats restaurantId sessionId except now) := by
  apply Quiet.bind (Quiet.query _)
  intro booked
  apply Quiet.bind (Quiet.query _)
  exact fun held => Quiet.pure _

namespace ReserveExperienceInput

variable (input : ReserveExperienceInput)

theorem quiet_seated (now : Instant) (quantity : Nat) :
    Quiet call (input.seated call now quantity) := by
  apply Quiet.bind (Quiet.acquire _)
  intro _
  refine Quiet.found (Quiet.pure _) fun offer => ?_
  dsimp only
  split
  · exact Quiet.pure _
  split
  · exact Quiet.pure _
  split
  · exact Quiet.pure _
  apply Quiet.bind (quiet_countSeats _ _ _ _)
  intro used
  split
  · exact Quiet.pure _
  · exact Quiet.pure _

theorem reserveExperience_acts [Sha256] :
    Acts call (fun data _ data' => ExperienceData.Changes allowed data data') (input.reserveExperience call) := by
  apply Acts.bind (Acts.query _)
  intro now
  dsimp only
  split
  · exact Acts.pure _
  · exact Acts.pure _
  refine Acts.found ?_ fun _ => Acts.pure _
  apply (Acts.of_quiet (input.quiet_bookable now)).andThen
  intro _
  apply Acts.bind
  · apply Acts.transact (Acts.of_quiet (input.quiet_seated now _))
    exact fun experience data _ accepted => .inr (.insertReservation accepted)
  intro created
  split
  · exact Acts.bind (Acts.query _) fun raced => Acts.pure _
  · exact Acts.pure _

end ReserveExperienceInput

namespace PublicCheckoutInput

variable (input : PublicCheckoutInput)

theorem quiet_seated (restaurantId : Id) (now : Instant) :
    Quiet call (input.seated call restaurantId now) := by
  apply Quiet.bind (Quiet.acquire _)
  intro _
  refine Quiet.found (Quiet.pure _) fun offer => ?_
  apply Quiet.bind (quiet_countSeats _ _ _ _)
  intro used
  split
  · exact Quiet.pure _
  · exact Quiet.pure _

theorem createPublicExperienceCheckout_acts [Sha256] :
    Acts call (fun data _ data' => ExperienceData.Changes ClosesOpen data data')
      (input.createPublicExperienceCheckout call) := by
  apply Acts.bind (Acts.query _)
  intro now
  refine Acts.found (Acts.pure _) fun restaurant => ?_
  dsimp only
  split
  · exact Acts.pure _
  · exact Acts.pure _
  next account rate connected _ _ =>
    split
    · exact Acts.pure _
    apply Acts.bind (Acts.query _)
    intro existing
    have attaches : ∀ checkout,
        Acts call (fun data _ data' => ExperienceData.Changes ClosesOpen data data')
          (input.attach call restaurant.id checkout) :=
      fun checkout => changes_of_freesSeats (input.attach_acts restaurant.id checkout)
    cases existing with
    | some checkout =>
      apply (Acts.of_quiet (input.quiet_resume restaurant.id now checkout)).bind
      rintro (failure | checkout)
      · exact Acts.pure _
      · exact attaches checkout
    | none =>
      apply Acts.bind
      · apply Acts.transact (Acts.of_quiet (input.quiet_seated restaurant.id now))
        exact fun experience data _ _ => .inr (.insertCheckout _)
      rintro (failure | checkout)
      · exact Acts.pure _
      · exact attaches checkout

end PublicCheckoutInput

namespace ExperienceCheckoutEvent

variable (input : ExperienceCheckoutEvent)

variable (restaurantId : Id)

variable (checkout : ExperienceCheckout)

theorem quiet_plan : Quiet call (input.plan call restaurantId checkout) := by
  apply Quiet.bind (Quiet.acquire _)
  intro _
  apply Quiet.bind (Quiet.query _)
  intro seen
  split
  · exact Quiet.pure _
  refine Quiet.found (Quiet.pure _) fun offer => ?_
  dsimp only
  split
  · exact Quiet.pure _
  split
  · exact Quiet.pure _
  apply Quiet.bind (Quiet.query _)
  intro now
  apply Quiet.bind (quiet_countSeats _ _ _ _)
  intro used
  split
  · exact Quiet.pure _
  · exact Quiet.pure _

def Plan.IsFor (checkoutId : Id) : Plan → Prop
  | .replay => True
  | .record => True
  | .refuse checkout => checkout.id = checkoutId
  | .book checkout => checkout.id = checkoutId

theorem plan_returns : (input.plan call restaurantId checkout).Returns
      fun decided => ∀ plan, decided = .ok plan → plan.IsFor checkout.id := by
  have finds : (query fun data _ => data.checkoutOffer? restaurantId checkout.id :
      ExperienceProg (Option CheckoutOffer)).Returns
        fun found => ∀ offer, found = some offer → offer.1.id = checkout.id :=
    Prog.Returns.read fun store offer found =>
      KeyedRows.key_of_lookup (checkout_of_checkoutOffer? found).1
  apply Prog.Returns.bind (.any _)
  intro _ _
  apply Prog.Returns.bind (.any _)
  intro seen _
  split
  · rintro _ ⟨⟩
    trivial
  apply Prog.Returns.bind finds
  intro found isSame
  cases found with
  | none => exact fun _ impossible => nomatch impossible
  | some offer =>
    dsimp only
    split
    · rintro _ ⟨⟩
      trivial
    split
    · rintro _ ⟨⟩
      exact isSame offer rfl
    apply Prog.Returns.bind (.any _)
    intro now _
    apply Prog.Returns.bind (.any _)
    intro used _
    split
    · rintro _ ⟨⟩
      exact isSame offer rfl
    · rintro _ ⟨⟩
      exact isSame offer rfl

variable [Sha256]

theorem changes_carryOut {data : ExperienceData} {restaurantId checkoutId : Id} {plan : Plan}
    (isFor : plan.IsFor checkoutId)
    (accepted : (input.carryOut restaurantId checkoutId plan data).violation? = none) :
    input.carryOut restaurantId checkoutId plan data = data ∨
      ExperienceData.Changes (IsCheckout checkoutId) data (input.carryOut restaurantId checkoutId plan data) := by
  cases plan with
  | replay => exact .inl rfl
  | record => exact .inr (.of_added id (List.prefix_refl _))
  | refuse checkout =>
    right
    apply ExperienceData.Changes.insertEvent
    apply ExperienceData.Changes.updateCheckouts
    · exact fun row => rfl
    · intro row isSelected
      simp only [isCheckout, Bool.and_eq_true, beq_iff_eq] at isSelected
      exact isSelected.1.trans isFor
  | book checkout =>
    right
    have updated : ExperienceData.Changes (IsCheckout checkoutId)
        (data.insertReservation (input.reservation restaurantId checkout))
        (input.writes restaurantId (.book checkout) data) := by
      apply ExperienceData.Changes.updateCheckouts
      · exact fun row => rfl
      · intro row isSelected
        simp only [isCheckout, Bool.and_eq_true, beq_iff_eq] at isSelected
        exact isSelected.1.trans isFor
    exact ⟨fun _ => oneForEachKey_of_accepted accepted, updated.checkouts⟩

theorem finalizeCheckout_acts :
    Acts call (fun data _ data' => ExperienceData.Changes (IsCheckout checkout.id) data data')
      (input.finalizeCheckout call restaurantId checkout) := by
  apply Acts.bind
  · apply Acts.transactWhen (Acts.of_quiet (input.quiet_plan restaurantId checkout))
      (input.plan_returns restaurantId checkout)
    exact fun plan data now isFor accepted => input.changes_carryOut (isFor plan rfl) accepted
  intro done
  split
  · exact Acts.pure _
  · exact Acts.pure _
  · exact Acts.pure _
  · exact Acts.pure _
  · split
    · exact Acts.pure _
    split
    · exact Acts.pure _
    · exact Acts.pure _
    · apply Acts.andThen _ fun _ => Acts.pure _
      apply changes_of_freesSeats
      exact persistExperienceRefund_acts _ _ _ fun row isRow _ _ => isRow

variable [UnicodeCase]

theorem respond_acts (offer : CheckoutOffer) :
    Acts call (fun data _ data' => ExperienceData.Changes (IsCheckout offer.1.id) data data')
      (input.respond call restaurantId offer) := by
  unfold respond
  dsimp only
  split
  · exact Acts.pure _
  split
  · apply changes_of_freesSeats
    apply input.expires_acts
    exact fun row isSelected => isCheckout_id (Bool.and_eq_true _ _ ▸ isSelected).1
  split
  · exact Acts.pure _
  split
  · exact Acts.pure _
  split
  · exact recordOnce_acts _ _ _ _ fun data now => .of_added id (List.prefix_refl _)
  split
  · exact input.finalizeCheckout_acts restaurantId offer.1
  split
  · apply changes_of_freesSeats
    exact input.expires_acts _ _ _ fun row isSelected => isCheckout_id isSelected
  · exact changes_of_freesSeats (input.giveBack_acts restaurantId offer.1)

theorem respond_acts_of_settled {offer : CheckoutOffer} (settled : isSettled offer.1 = true) :
    Acts call (fun data _ data' => ExperienceData.Changes ClosesOpen data data')
      (input.respond call restaurantId offer) := by
  unfold respond
  dsimp only
  split
  · exact Acts.pure _
  split
  · apply changes_of_freesSeats
    apply input.expires_acts
    · intro row isSelected
      simp only [Bool.and_eq_true, beq_iff_eq] at isSelected
      exact .inl isSelected.2
  split
  · exact Acts.pure _
  split
  · exact Acts.pure _
  · exact recordOnce_acts _ _ _ _ fun data now => .of_added id (List.prefix_refl _)

end ExperienceCheckoutEvent

end

/-! ## Runs in which no event is overtaken -/

def ExperienceCheckoutStatus.isLasting : Bool :=
  status.isBooked || status == .REFUNDED

variable (data : ExperienceData)

def ExperienceData.statusOf (checkoutId : Id) : Option ExperienceCheckoutStatus :=
  (data.checkout? checkoutId).map (·.status)

def ExperienceData.lasting (checkoutId : Id) : Bool :=
  (data.statusOf checkoutId).any (·.isLasting)

def LastingIn (checkoutId : Id) (store : ExperienceStore) : Prop :=
  store.data.lasting checkoutId = true

def ExperienceCall.isCheckoutEvent : ExperienceCall → Bool
  | .checkoutEvent _ => true
  | _ => false

/-- A reservation is cancelled, or a refund is reported. -/
def ExperienceCall.isRefund : ExperienceCall → Bool
  | .refundEvent _ => true
  | .cancelReservation _ => true
  | _ => false

variable (calls : ExperienceCallId → ExperienceCall)

/-- An event about checkouts changes the status of a checkout that is booked or refunded. -/
def Unsettles (checkoutId : Id) (move : Move ExperienceCallId ExperienceStore) : Prop :=
  (calls move.session).isCheckoutEvent = true ∧ move.before.data.lasting checkoutId = true ∧
    move.after.data.statusOf checkoutId ≠ move.before.data.statusOf checkoutId

/-- An event that changes a checkout once it is booked or refunded found it so before. -/
def NotOvertaken (checkoutId : Id) (earlier later : Move ExperienceCallId ExperienceStore) : Prop :=
  earlier.session = later.session → Unsettles calls checkoutId later →
    earlier.before.data.lasting checkoutId = true

def Lasts (kept : ExperienceCheckoutStatus → Bool) (checkoutId : Id) (data data' : ExperienceData) :
    Prop :=
  ∀ status, data.statusOf checkoutId = some status → kept status = true →
    data'.statusOf checkoutId = some status

section

variable (calls : ExperienceCallId → ExperienceCall) (checkoutId : Id)
variable (kept : ExperienceCheckoutStatus → Bool) (finds : ExperienceCallId → Prop)

/-- Some calls find the checkout booked or refunded at each step; events leave it then, unless
they are such calls, and so do refunds once it is booked. -/
structure Undisturbed (call : ExperienceCallId) (data data' : ExperienceData) : Prop where
  settled : finds call → data.lasting checkoutId = true
  found : (calls call).isCheckoutEvent = true → ¬Lasts kept checkoutId data data' → finds call
  refunds : (calls call).isRefund = true →
    Lasts (fun status => kept status && status.isBooked) checkoutId data data'

def lastingAccess : Access ExperienceData ExperienceLock ExperienceCallId where
  inv := fun data _ => data.OneForEachKey
  writes := fun _ => Lasts kept checkoutId
  meets := fun call _ _ => Undisturbed calls checkoutId kept finds call
  inv_later := fun _ unique => unique
  writes_refl := fun _ _ _ isStatus _ => isStatus
  writes_mono := fun _ lasts => lasts

variable {calls} {checkoutId} {kept} {finds} {call : ExperienceCallId}
variable {data data' : ExperienceData}

theorem Lasts.of_rows (kept : ExperienceCheckoutStatus → Bool)
    (rows : ∀ row, data.checkout? checkoutId = some row → kept row.status = true →
      ∃ row', data'.checkout? checkoutId = some row' ∧ row'.status = row.status) :
    Lasts kept checkoutId data data' := by
  intro status isStatus isKept
  obtain ⟨row, isRow, same⟩ := Option.map_eq_some_iff.1 isStatus
  subst same
  obtain ⟨row', isRow', sameStatus⟩ := rows row isRow isKept
  rw [ExperienceData.statusOf, isRow', Option.map_some, sameStatus]

section

variable (isLasting : ∀ status, kept status = true → status.isLasting = true)
include isLasting

theorem lasts_of_closes (changes : ExperienceData.Changes ClosesOpen data data') :
    Lasts kept checkoutId data data' := by
  apply Lasts.of_rows
  intro row found isKept
  obtain ⟨row', found', change⟩ := changes.checkouts checkoutId row found
  refine ⟨row', found', ?_⟩
  rcases change with same | isOpen | sameStatus
  · rw [same]
  · have impossible := isLasting _ isKept
    rw [isOpen] at impossible
    cases impossible
  · exact sameStatus

theorem lasts_of_refunds (changes : ExperienceData.Changes RefundsAwaiting data data')
    (booked : Lasts (fun status => kept status && status.isBooked) checkoutId data data') :
    Lasts kept checkoutId data data' := by
  apply Lasts.of_rows
  intro row found isKept
  obtain ⟨row', found', change⟩ := changes.checkouts checkoutId row found
  refine ⟨row', found', ?_⟩
  rcases change with same | awaits
  · rw [same]
  have isBooked : row.status.isBooked = true := by
    have lasting := isLasting _ isKept
    simp only [RefundsAwaiting, ExperienceCheckout.awaitsRefund, Bool.and_eq_true, bne_iff_ne] at awaits
    simpa [ExperienceCheckoutStatus.isLasting, awaits.1] using lasting
  have stays := booked row.status (by rw [ExperienceData.statusOf, found, Option.map_some])
    (by simp only [isKept, isBooked, Bool.and_self])
  rw [ExperienceData.statusOf, found', Option.map_some] at stays
  exact Option.some.inj stays

omit isLasting in
theorem lasts_of_other {other : Id} (isOther : other ≠ checkoutId)
    (changes : ExperienceData.Changes (IsCheckout other) data data') : Lasts kept checkoutId data data' := by
  apply Lasts.of_rows
  intro row found _
  obtain ⟨row', found', change⟩ := changes.checkouts checkoutId row found
  refine ⟨row', found', ?_⟩
  rcases change with same | isThis
  · rw [same]
  · exact absurd (isThis.symm.trans (KeyedRows.key_of_lookup found)) isOther

omit isLasting in
theorem acts_lasts {allowed : ExperienceCheckout → ExperienceCheckout → Prop} {α : Type}
    {prog : ExperienceProg (Except ExperienceFailure α)}
    (acts : Acts call (fun data _ data' => ExperienceData.Changes allowed data data') prog)
    (lasts : ∀ data data', ExperienceData.Changes allowed data data' →
      Undisturbed calls checkoutId kept finds call data data' → Lasts kept checkoutId data data') :
    (lastingAccess calls checkoutId kept finds).Serves call prog :=
  acts.runs fun _ data _ data' inv changes undisturbed =>
    ⟨changes.keys inv, lasts data data' changes undisturbed⟩

theorem handleExperienceCheckoutStripeEvent_lasts [Sha256] [UnicodeCase]
    (input : ExperienceCheckoutEvent) (isEvent : (calls call).isCheckoutEvent = true) :
    (lastingAccess calls checkoutId kept finds).Serves call
      (input.handleExperienceCheckoutStripeEvent call) := by
  unfold ExperienceCheckoutEvent.handleExperienceCheckoutStripeEvent
  split
  · exact ends_pure _
  split
  next restaurantId foundId _ _ =>
    have known : ∀ found : Option CheckoutOffer, (lastingAccess calls checkoutId kept finds).Protects
        ∅ fun _ _ => ∀ offer, found = some offer → offer.1.id = checkoutId → finds call →
          offer.1.status.isLasting = true :=
      fun found => protects_const _
    apply Runs.bind (Runs.readWhen (protects_const True) known ?_)
    · intro found
      cases found with
      | none => exact ends_pure _
      | some offer =>
        apply Runs.assuming fun _ _ _ learned => learned.2 offer rfl
        intro seen
        apply Runs.knowing fun _ _ _ _ => trivial
        by_cases isSeen : offer.1.id = checkoutId ∧ finds call
        · have lasting := seen isSeen.1 isSeen.2
          have settled : ExperienceCheckoutEvent.isSettled offer.1 = true := by
            simp only [ExperienceCheckoutStatus.isLasting, ExperienceCheckoutStatus.isBooked,
              Bool.or_eq_true] at lasting
            simp only [ExperienceCheckoutEvent.isSettled, Bool.or_eq_true]
            exact .inl (.inl lasting)
          exact acts_lasts (input.respond_acts_of_settled restaurantId settled)
            fun data data' changes _ => lasts_of_closes isLasting changes
        · apply acts_lasts (input.respond_acts restaurantId offer)
          intro data data' changes undisturbed
          by_cases isThis : offer.1.id = checkoutId
          · by_contra leaves
            exact isSeen ⟨isThis, undisturbed.found isEvent leaves⟩
          · exact lasts_of_other isThis changes
    · intro _ data now _ _ undisturbed offer found isThis isSeen
      obtain ⟨isRow, -⟩ := ExperienceCheckoutEvent.checkout_of_checkoutOffer? found
      have sameId : foundId = checkoutId := (KeyedRows.key_of_lookup isRow).symm.trans isThis
      have lasting := undisturbed.settled isSeen
      rw [ExperienceData.lasting, ExperienceData.statusOf, ← sameId, isRow] at lasting
      exact lasting
  · exact ends_pure _

theorem ExperienceCall.prog_lasts [Sha256] [UnicodeCase] (call : ExperienceCallId) :
    (lastingAccess calls checkoutId kept finds).Serves call ((calls call).prog call) := by
  cases isCall : calls call with
  | reserve input =>
    exact ends_map (acts_lasts input.reserveExperience_acts
      fun data data' changes _ => lasts_of_closes isLasting changes)
  | openCheckout input =>
    exact ends_map (acts_lasts input.createPublicExperienceCheckout_acts
      fun data data' changes _ => lasts_of_closes isLasting changes)
  | cancelCheckout input =>
    exact ends_map (acts_lasts (changes_of_freesSeats (cancelPublicExperienceCheckout_acts input))
      fun data data' changes _ => lasts_of_closes isLasting changes)
  | expire limit =>
    exact ends_map (acts_lasts (changes_of_freesSeats (expireExperienceCheckouts_acts limit))
      fun data data' changes _ => lasts_of_closes isLasting changes)
  | checkoutEvent input =>
    exact ends_map (handleExperienceCheckoutStripeEvent_lasts isLasting input (by rw [isCall]; rfl))
  | refundEvent input =>
    apply ends_map (acts_lasts (changes_of_freesSeats (handleExperienceRefundStripeEvent_acts input)) _)
    intro data data' changes undisturbed
    exact lasts_of_refunds isLasting changes (undisturbed.refunds (by rw [isCall]; rfl))
  | cancelReservation input =>
    apply Runs.andThen (acts_lasts (changes_of_freesSeats input.cancelExperienceReservation_acts) _) subset_rfl
    · exact fun result => ends_pure _
    intro data data' changes undisturbed
    exact lasts_of_refunds isLasting changes (undisturbed.refunds (by rw [isCall]; rfl))

end

theorem Lasts.trans {data'' : ExperienceData} (first : Lasts kept checkoutId data data')
    (second : Lasts kept checkoutId data' data'') : Lasts kept checkoutId data data'' :=
  fun status isStatus isKept => second status (first status isStatus isKept) isKept

/-- A status that should last is left only by changing it. -/
theorem unsettles_of_not_lasts (isLasting : ∀ status, kept status = true → status.isLasting = true)
    {move : Move ExperienceCallId ExperienceStore}
    (isEvent : (calls move.session).isCheckoutEvent = true)
    (leaves : ¬Lasts kept checkoutId move.before.data move.after.data) :
    Unsettles calls checkoutId move := by
  simp only [Lasts, not_forall] at leaves
  obtain ⟨status, isStatus, isKept, changed⟩ := leaves
  refine ⟨isEvent, ?_, ?_⟩
  · rw [ExperienceData.lasting, isStatus]
    exact isLasting status isKept
  · rw [isStatus]
    exact changed

variable {c : Config ExperienceCallId ExperienceStore (Except ExperienceFailure ExperienceAnswer)}
  {moves : List (Move ExperienceCallId ExperienceStore)}

theorem lasts_of_undisturbed [Sha256] [UnicodeCase]
    (isLasting : ∀ status, kept status = true → status.isLasting = true) {store : ExperienceStore}
    (unique : store.data.OneForEachKey)
    (run : (experienceSystem calls).Run (.initial store) moves c)
    (undisturbed : ∀ move ∈ moves, Undisturbed calls checkoutId kept finds move.session
      move.before.data move.after.data) :
    c.shared.data.OneForEachKey ∧
      ∀ move ∈ moves, Lasts kept checkoutId move.before.data move.after.data := by
  have sound := run_sound (fun call => ExperienceCall.prog_lasts isLasting call)
    (sound_initial unique) run undisturbed
  exact ⟨sound.1.inv, fun move isMove => (sound.2 move isMove).writes⟩

theorem lasts_of_run [Sha256] [UnicodeCase]
    (isLasting : ∀ status, kept status = true → status.isLasting = true) {store : ExperienceStore}
    (unique : store.data.OneForEachKey)
    (run : (experienceSystem calls).Run (.initial store) moves c)
    (notOvertaken : moves.Pairwise (NotOvertaken calls checkoutId))
    (refunds : ∀ move ∈ moves, (calls move.session).isRefund = true →
      Lasts (fun status => kept status && status.isBooked) checkoutId move.before.data
        move.after.data) :
    c.shared.data.OneForEachKey ∧
      ∀ move ∈ moves, Lasts kept checkoutId move.before.data move.after.data := by
  have isSettled : ∀ move : Move ExperienceCallId ExperienceStore,
      (calls move.session).isCheckoutEvent = true ∧
        ¬Lasts kept checkoutId move.before.data move.after.data → LastingIn checkoutId move.before :=
    fun move harm => (unsettles_of_not_lasts isLasting harm.1 harm.2).2.1
  have foundBefore : moves.Pairwise fun earlier later => earlier.session = later.session →
      (calls later.session).isCheckoutEvent = true ∧
        ¬Lasts kept checkoutId later.before.data later.after.data →
      LastingIn checkoutId earlier.before :=
    notOvertaken.imp fun found same harm =>
      found same (unsettles_of_not_lasts isLasting harm.1 harm.2)
  have unharmed : ∀ move ∈ moves, ¬((calls move.session).isCheckoutEvent = true ∧
      ¬Lasts kept checkoutId move.before.data move.after.data) := by
    apply System.Run.unharmed _ isSettled run refunds foundBefore
    intro finds moves c run refunds meets move isMove harm
    apply harm.2
    exact (lasts_of_undisturbed isLasting unique run fun move isMove =>
      { settled := (meets move isMove).1
        found := fun isEvent leaves => (meets move isMove).2 ⟨isEvent, leaves⟩
        refunds := refunds move isMove }).2 move isMove
  have undisturbed : ∀ move ∈ moves, Undisturbed calls checkoutId kept (fun _ => False)
      move.session move.before.data move.after.data :=
    fun move isMove =>
      { settled := False.elim
        found := fun isEvent leaves => unharmed move isMove ⟨isEvent, leaves⟩
        refunds := refunds move isMove }
  exact lasts_of_undisturbed isLasting unique run undisturbed

end

def ExperienceData.reservationsFor (checkoutId : Id) : Nat :=
  data.reservations.countP fun row =>
    row.idempotencyKey == some ("stripe-experience:" ++ checkoutId)

theorem ExperienceData.OneForEachKey.reservationsFor_le {data : ExperienceData}
    (unique : data.OneForEachKey) (checkoutId : Id) : data.reservationsFor checkoutId ≤ 1 := by
  rw [reservationsFor, ← List.count_filterMap]
  exact List.nodup_iff_count_le_one.1 unique _

section

attribute [local instance] UnicodeCase.ascii Sha256.plain

instance (calls : ExperienceCallId → ExperienceCall) (checkoutId : Id)
    (move : Move ExperienceCallId ExperienceStore) : Decidable (Unsettles calls checkoutId move) :=
  inferInstanceAs (Decidable (_ ∧ _ ∧ _))

instance (calls : ExperienceCallId → ExperienceCall) (checkoutId : Id)
    (earlier later : Move ExperienceCallId ExperienceStore) :
    Decidable (NotOvertaken calls checkoutId earlier later) :=
  inferInstanceAs (Decidable (_ = _ → _ → _ = _))

def lateCheckout : ExperienceStore where
  data :=
    { tastingRoom.data with
      checkouts := [⟨"c", "r", "e", "s", none, 1, 1500, 1500, 0, "EUR", .OPEN, "acct", some "cs",
        some "pi", none, "k", 900, none⟩] }
  now := 910
  owner _ := none

/-- The payment of the checkout, just before its hold ran out. -/
def completed (eventId : String) : ExperienceCall :=
  .checkoutEvent
    { event := ⟨eventId, "checkout.session.completed", 890, "hash", some "acct"⟩
      sessionId := "cs"
      metadataType := some "experience_checkout"
      restaurantId := some "r"
      experienceCheckoutId := some "c"
      paymentIntentId := some "pi"
      paymentStatus := "paid"
      amountTotal := some 1500
      currency := some "eur"
      newReservationId := "x"
      refund := some ⟨"re", "succeeded"⟩ }

/-- The expiry job runs, and the payment is reported by two events. -/
def reportedTwice (call : ExperienceCallId) : ExperienceCall :=
  match call with
  | 0 => .expire none
  | 1 => completed "evt_1"
  | _ => completed "evt_2"

end

end Sokar
