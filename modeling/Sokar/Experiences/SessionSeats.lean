import Sokar.Experiences.CheckoutEvents
import Sokar.Library.QuietPrograms

/-!
# The seats of an experience session

Any number of calls about experiences run statement by statement in any interleaving.  A
seat is held by an open checkout until the hold runs out, and booked by a confirmed
reservation.  Whoever adds seats counts both under the lock of the session; without the
lock, and as the clock advances, their number only falls.  So the seats held and booked
never exceed the capacity of the session.
-/

namespace Sokar

open Process Transaction Transaction.Access

inductive ExperienceCall where
  | reserve (input : ReserveExperienceInput)
  | openCheckout (input : PublicCheckoutInput)
  | cancelCheckout (input : CancelCheckoutInput)
  | expire (limit : Option Int)
  | checkoutEvent (input : ExperienceCheckoutEvent)
  | refundEvent (input : ExperienceRefundEvent)
  | cancelReservation (input : CancelExperienceReservationInput)

inductive ExperienceAnswer where
  | reserved (result : ExperienceReservationMutationResult)
  | opened (checkout : PublicCheckout)
  | status (status : ExperienceCheckoutStatus)
  | expired (count : Nat)
  | event (result : ExperienceEventResult)
  | cancelled (result : ExperienceReservationMutationResult) (refund : RefundOutcome)
  deriving DecidableEq

variable (calls : ExperienceCallId → ExperienceCall)

section

variable [Sha256] [UnicodeCase]

def ExperienceCall.prog (call : ExperienceCallId) :
    ExperienceCall → ExperienceProg (Except ExperienceFailure ExperienceAnswer)
  | .reserve input =>
    (input.reserveExperience call).andThen fun result => pure (.ok (.reserved result))
  | .openCheckout input => (input.createPublicExperienceCheckout call).andThen fun checkout =>
    pure (.ok (.opened checkout))
  | .cancelCheckout input => (input.cancelPublicExperienceCheckout call).andThen fun status =>
    pure (.ok (.status status))
  | .expire limit =>
    (expireExperienceCheckouts call limit).andThen fun count => pure (.ok (.expired count))
  | .checkoutEvent input => (input.handleExperienceCheckoutStripeEvent call).andThen fun result =>
    pure (.ok (.event result))
  | .refundEvent input => (input.handleExperienceRefundStripeEvent call).andThen fun result =>
    pure (.ok (.event result))
  | .cancelReservation input => (input.cancelExperienceReservation call).andThen fun result =>
    pure (.ok (.cancelled result.1 result.2))

def experienceSystem :
    System ExperienceCallId ExperienceStore (Except ExperienceFailure ExperienceAnswer) :=
  system fun call => (calls call).prog call

end

/-- The columns of a checkout that never change. -/
structure ExperienceCheckout.Follows (before after : ExperienceCheckout) : Prop where
  id : after.id = before.id
  restaurantId : after.restaurantId = before.restaurantId
  experienceId : after.experienceId = before.experienceId
  sessionId : after.sessionId = before.sessionId
  quantity : after.quantity = before.quantity
  expiresAt : after.expiresAt = before.expiresAt

namespace ExperienceCheckout.Follows

theorem refl (row : ExperienceCheckout) : row.Follows row :=
  ⟨rfl, rfl, rfl, rfl, rfl, rfl⟩

theorem trans {first second third : ExperienceCheckout} (before : first.Follows second)
    (after : second.Follows third) : first.Follows third where
  id := after.id.trans before.id
  restaurantId := after.restaurantId.trans before.restaurantId
  experienceId := after.experienceId.trans before.experienceId
  sessionId := after.sessionId.trans before.sessionId
  quantity := after.quantity.trans before.quantity
  expiresAt := after.expiresAt.trans before.expiresAt

end ExperienceCheckout.Follows

variable (restaurantId sessionId : Id)

namespace ExperienceData

variable {data data' data'' : ExperienceData}

/-- What is offered stays as it is, and so does what each checkout is for. -/
structure Evolves (data data' : ExperienceData) : Prop where
  sessions : data'.sessions = data.sessions
  experiences : data'.experiences = data.experiences
  checkouts : ∀ checkoutId row, data.checkout? checkoutId = some row →
    ∃ row', data'.checkout? checkoutId = some row' ∧ row.Follows row'

theorem Evolves.of_same (sessions : data'.sessions = data.sessions)
    (experiences : data'.experiences = data.experiences)
    (checkouts : data'.checkouts = data.checkouts) : Evolves data data' where
  sessions := sessions
  experiences := experiences
  checkouts checkoutId row found := by
    refine ⟨row, ?_, .refl row⟩
    rw [checkout?, checkouts]
    exact found

theorem Evolves.refl (data : ExperienceData) : Evolves data data :=
  .of_same rfl rfl rfl

theorem Evolves.trans (first : Evolves data data') (second : Evolves data' data'') :
    Evolves data data'' where
  sessions := second.sessions.trans first.sessions
  experiences := second.experiences.trans first.experiences
  checkouts checkoutId row found := by
    obtain ⟨middle, isMiddle, before⟩ := first.checkouts checkoutId row found
    obtain ⟨last, isLast, after⟩ := second.checkouts checkoutId middle isMiddle
    exact ⟨last, isLast, before.trans after⟩

theorem Evolves.offer? (evolves : Evolves data data') (sessionId : Id) :
    data'.offer? sessionId = data.offer? sessionId := by
  simp only [ExperienceData.offer?, session?, experience?, evolves.sessions, evolves.experiences]

theorem evolves_updateCheckouts {selected : ExperienceCheckout → Bool}
    {change : ExperienceCheckout → ExperienceCheckout}
    (follows : ∀ row : ExperienceCheckout, row.Follows (change row)) :
    Evolves data (data.updateCheckouts selected change) where
  sessions := rfl
  experiences := rfl
  checkouts checkoutId row found := by
    have changed : (data.updateCheckouts selected change).checkout? checkoutId =
        (data.checkout? checkoutId).map fun row => if selected row then change row else row :=
      KeyedRows.lookup_update selected fun row => (follows row).id
    rw [changed, found]
    refine ⟨if selected row then change row else row, rfl, ?_⟩
    split
    · exact follows row
    · exact .refl row

theorem evolves_insertCheckout (row : ExperienceCheckout) :
    Evolves data (data.insertCheckout row) where
  sessions := rfl
  experiences := rfl
  checkouts checkoutId before found := by
    refine ⟨before, ?_, .refl before⟩
    simp only [checkout?, KeyedRows.lookup] at found
    simp [ExperienceData.insertCheckout, checkout?, KeyedRows.lookup, List.find?_append, found]

/-- Every checkout is for a session of its restaurant and its experience. -/
def Located (data : ExperienceData) : Prop :=
  ∀ checkout ∈ data.checkouts, ∃ session experience,
    data.offer? checkout.sessionId = some (session, experience) ∧
      session.restaurantId = checkout.restaurantId ∧ session.experienceId = checkout.experienceId

/-- The seats booked and held in a session are no more than its capacity. -/
def WithinCapacity (data : ExperienceData) (now : Instant) : Prop :=
  ∀ sessionId session experience, data.offer? sessionId = some (session, experience) →
    data.bookedSeats session.restaurantId sessionId +
      data.heldSeats session.restaurantId sessionId none now ≤ effectiveCapacity session experience

/-- A session has room for some more seats, besides those of a checkout. -/
def Room (except : Option Id) (quantity : Nat) (data : ExperienceData) (now : Instant) : Prop :=
  ∃ session experience, data.offer? sessionId = some (session, experience) ∧
    session.restaurantId = restaurantId ∧
    data.bookedSeats restaurantId sessionId + data.heldSeats restaurantId sessionId except now +
      quantity ≤ effectiveCapacity session experience

/-- Holds run out as the clock advances. -/
theorem heldSeats_later (data : ExperienceData) (restaurantId sessionId : Id)
    (except : Option Id) {now later : Instant} (isLater : now ≤ later) :
    data.heldSeats restaurantId sessionId except later ≤
      data.heldSeats restaurantId sessionId except now := by
  have fewer : (data.checkouts.filter fun row => row.sessionId == sessionId &&
      row.restaurantId == restaurantId && except != some row.id && row.isHeld later).Sublist
        (data.checkouts.filter fun row => row.sessionId == sessionId &&
          row.restaurantId == restaurantId && except != some row.id && row.isHeld now) := by
    apply List.monotone_filter_right
    intro row
    simp only [ExperienceCheckout.isHeld, Bool.and_eq_true, decide_eq_true_eq, and_imp]
    exact fun ofSession ofRestaurant other isOpen held =>
      ⟨⟨⟨ofSession, ofRestaurant⟩, other⟩, isOpen, lt_of_le_of_lt isLater held⟩
  exact (fewer.map _).sum_le_sum fun _ _ => Nat.zero_le _

theorem WithinCapacity.later {now : Instant} (within : data.WithinCapacity now) {later : Instant}
    (isLater : now ≤ later) : data.WithinCapacity later := by
  intro sessionId session experience isOffer
  exact (Nat.add_le_add_left (data.heldSeats_later _ _ _ isLater) _).trans
    (within sessionId session experience isOffer)

end ExperienceData

open ExperienceData

/-- Without the lock of a session, no seats are added to those booked or held. -/
def experienceParts : Parts ExperienceData ExperienceLock where
  same
    | .session restaurantId sessionId => fun data data' =>
      data'.bookedSeats restaurantId sessionId ≤ data.bookedSeats restaurantId sessionId ∧
        ∀ except now, data'.heldSeats restaurantId sessionId except now ≤
          data.heldSeats restaurantId sessionId except now
  evolves := Evolves
  same_refl
    | .session _ _, _ => ⟨le_rfl, fun _ _ => le_rfl⟩
  evolves_refl := .refl
  same_trans {lock _ _ _} first second := by
    cases lock with
    | session restaurantId sessionId =>
      exact ⟨second.1.trans first.1,
        fun except now => (second.2 except now).trans (first.2 except now)⟩
  evolves_trans := Evolves.trans

/-- What is held and booked stays within the capacity as the clock advances. -/
theorem seats_later {data : ExperienceData} {now later : Instant} (isLater : now ≤ later)
    (seats : data.Located ∧ data.WithinCapacity now) : data.Located ∧ data.WithinCapacity later :=
  ⟨seats.1, seats.2.later isLater⟩

/-- Sessions that keep what is held and booked within the capacity. -/
def experienceAccess : Access ExperienceData ExperienceLock ExperienceCallId :=
  experienceParts.timedAccess (fun data now => data.Located ∧ data.WithinCapacity now) seats_later
    fun _ _ _ _ _ => True

/-- What is held and booked stays within the capacity, and only seats of locked sessions are
added. -/
structure SeatsKept (owned : Set ExperienceLock) (data data' : ExperienceData) (now : Instant) :
    Prop where
  located : data'.Located
  within : data'.WithinCapacity now
  writes : experienceParts.Writes owned data data'

section

variable {data data' data'' : ExperienceData} {now : Instant} {owned : Set ExperienceLock}

/-- Writes that add no seats anywhere. -/
theorem SeatsKept.of_fewer (within : data.WithinCapacity now) (located : data'.Located)
    (evolves : Evolves data data')
    (booked : ∀ restaurantId sessionId,
      data'.bookedSeats restaurantId sessionId ≤ data.bookedSeats restaurantId sessionId)
    (held : ∀ restaurantId sessionId except now, data'.heldSeats restaurantId sessionId except now ≤
        data.heldSeats restaurantId sessionId except now) : SeatsKept owned data data' now where
  located := located
  within sessionId session experience isOffer := by
    rw [evolves.offer?] at isOffer
    exact (Nat.add_le_add (booked _ _) (held _ _ _ _)).trans
      (within sessionId session experience isOffer)
  writes :=
    { evolves
      same := fun
        | .session restaurantId sessionId, _ => ⟨booked _ _, held restaurantId sessionId⟩ }

theorem SeatsKept.refl (located : data.Located) (within : data.WithinCapacity now) :
    SeatsKept owned data data now :=
  .of_fewer within located (.refl data) (fun _ _ => le_rfl) fun _ _ _ _ => le_rfl

theorem SeatsKept.of_room (within : data.WithinCapacity now) (located : data'.Located)
    (evolves : Evolves data data') {restaurantId sessionId : Id} {except : Option Id}
    {quantity : Nat} (locked : .session restaurantId sessionId ∈ owned)
    (room : data.Room restaurantId sessionId except quantity now)
    (added : data'.bookedSeats restaurantId sessionId +
      data'.heldSeats restaurantId sessionId none now ≤ data.bookedSeats restaurantId sessionId +
          data.heldSeats restaurantId sessionId except now + quantity)
    (elsewhere : ∀ restaurant place, (restaurant, place) ≠ (restaurantId, sessionId) →
      data'.bookedSeats restaurant place ≤ data.bookedSeats restaurant place ∧
        ∀ except now, data'.heldSeats restaurant place except now ≤
          data.heldSeats restaurant place except now) : SeatsKept owned data data' now where
  located := located
  within place session experience isOffer := by
    rw [evolves.offer?] at isOffer
    obtain ⟨found, offered, isFound, ofRestaurant, enough⟩ := room
    by_cases here : (session.restaurantId, place) = (restaurantId, sessionId)
    · obtain ⟨sameRestaurant, rfl⟩ := Prod.mk.inj here
      rw [isFound] at isOffer
      cases isOffer
      rw [sameRestaurant]
      exact added.trans enough
    · obtain ⟨booked, held⟩ := elsewhere _ _ here
      exact (Nat.add_le_add booked (held _ _)).trans (within place session experience isOffer)
  writes :=
    { evolves
      same := fun
        | .session restaurant place, outside => by
            apply elsewhere
            intro here
            obtain ⟨rfl, rfl⟩ := Prod.mk.inj here
            exact outside locked }

theorem heldSeats_updateCheckouts (data : ExperienceData) {selected : ExperienceCheckout → Bool}
    {change : ExperienceCheckout → ExperienceCheckout}
    (follows : ∀ row : ExperienceCheckout, row.Follows (change row))
    (wasOpen : ∀ row, selected row = true → (change row).status = .OPEN → row.status = .OPEN)
    (restaurantId sessionId : Id) (except : Option Id) (now : Instant) :
    (data.updateCheckouts selected change).heldSeats restaurantId sessionId except now ≤
      data.heldSeats restaurantId sessionId except now := by
  apply KeyedRows.sum_filter_update_le
  · intro row isSelected isHeld
    simp only [ExperienceCheckout.isHeld, (follows row).sessionId, (follows row).restaurantId,
      (follows row).id, (follows row).expiresAt, Bool.and_eq_true, beq_iff_eq] at isHeld ⊢
    exact ⟨isHeld.1, wasOpen row isSelected isHeld.2.1, isHeld.2.2⟩
  · exact fun row => (follows row).quantity

theorem located_updateCheckouts (located : data.Located) {selected : ExperienceCheckout → Bool}
    {change : ExperienceCheckout → ExperienceCheckout}
    (follows : ∀ row : ExperienceCheckout, row.Follows (change row)) :
    (data.updateCheckouts selected change).Located := by
  intro checkout isCheckout
  obtain ⟨before, isBefore, same⟩ := List.mem_map.1 isCheckout
  subst same
  split
  · rw [(follows before).sessionId, (follows before).restaurantId, (follows before).experienceId]
    exact located before isBefore
  · exact located before isBefore

theorem SeatsKept.updateCheckouts (located : data.Located) (within : data.WithinCapacity now)
    {selected : ExperienceCheckout → Bool} {change : ExperienceCheckout → ExperienceCheckout}
    (follows : ∀ row : ExperienceCheckout, row.Follows (change row))
    (wasOpen : ∀ row, selected row = true → (change row).status = .OPEN → row.status = .OPEN) :
    SeatsKept owned data (data.updateCheckouts selected change) now :=
  .of_fewer within (located_updateCheckouts located follows) (evolves_updateCheckouts follows)
    (fun _ _ => le_rfl) (heldSeats_updateCheckouts data follows wasOpen)

theorem SeatsKept.insertEvent (kept : SeatsKept owned data data' now)
    (event : ExperiencePaymentEvent) : SeatsKept owned data (data'.insertEvent event) now where
  located := kept.located
  within := kept.within
  writes :=
    { evolves := kept.writes.evolves.trans (.of_same rfl rfl rfl)
      same := fun
        | .session restaurantId sessionId, outside =>
          kept.writes.same (.session restaurantId sessionId) outside }

theorem SeatsKept.cancelReservations (located : data.Located) (within : data.WithinCapacity now)
    {selected : ExperienceReservation → Bool}
    {change : ExperienceReservation → ExperienceReservation}
    (sameQuantity : ∀ row, (change row).quantity = row.quantity)
    (cancelled : ∀ row, (change row).status ≠ .CONFIRMED) :
    SeatsKept owned data (data.updateReservations selected change) now := by
  apply SeatsKept.of_fewer within
  · exact located
  · exact .of_same rfl rfl rfl
  · intro restaurantId sessionId
    apply KeyedRows.sum_filter_update_le
    · intro row _ isBooked
      simp only [Bool.and_eq_true, beq_iff_eq] at isBooked
      exact absurd isBooked.2 (cancelled row)
    · exact sameQuantity
  · exact fun _ _ _ _ => le_rfl

theorem located_insertReservation (located : data.Located) (row : ExperienceReservation) :
    (data.insertReservation row).Located :=
  located

theorem bookedSeats_insertReservation (data : ExperienceData) (row : ExperienceReservation)
    (restaurantId sessionId : Id) :
    (data.insertReservation row).bookedSeats restaurantId sessionId ≤
      data.bookedSeats restaurantId sessionId +
        if (restaurantId, sessionId) = (row.restaurantId, row.sessionId) then row.quantity else 0 := by
  apply KeyedRows.sum_filter_append_le
  intro here
  simp only [Bool.and_eq_true, beq_iff_eq] at here
  exact Prod.ext here.1.2.symm here.1.1.symm

theorem SeatsKept.insertReservation (located : data.Located) (within : data.WithinCapacity now)
    {row : ExperienceReservation} (locked : .session row.restaurantId row.sessionId ∈ owned)
    (room : data.Room row.restaurantId row.sessionId none row.quantity now) :
    SeatsKept owned data (data.insertReservation row) now := by
  apply SeatsKept.of_room within (located_insertReservation located row) (.of_same rfl rfl rfl)
    locked room
  · have booked := bookedSeats_insertReservation data row row.restaurantId row.sessionId
    rw [if_pos rfl] at booked
    change _ + data.heldSeats row.restaurantId row.sessionId none now ≤ _
    omega
  · intro restaurant place elsewhere
    have booked := bookedSeats_insertReservation data row restaurant place
    rw [if_neg elsewhere] at booked
    exact ⟨booked, fun _ _ => le_rfl⟩

theorem heldSeats_insertCheckout (data : ExperienceData) (row : ExperienceCheckout)
    (restaurantId sessionId : Id) (except : Option Id) (now : Instant) :
    (data.insertCheckout row).heldSeats restaurantId sessionId except now ≤
      data.heldSeats restaurantId sessionId except now +
        if (restaurantId, sessionId) = (row.restaurantId, row.sessionId) then row.quantity else 0 := by
  apply KeyedRows.sum_filter_append_le
  intro here
  simp only [Bool.and_eq_true, beq_iff_eq] at here
  exact Prod.ext here.1.1.2.symm here.1.1.1.symm

theorem SeatsKept.insertCheckout (located : data.Located) (within : data.WithinCapacity now)
    {row : ExperienceCheckout} (locked : .session row.restaurantId row.sessionId ∈ owned)
    {session : ExperienceSession} {experience : Experience}
    (found : data.offer? row.sessionId = some (session, experience))
    (ofRestaurant : session.restaurantId = row.restaurantId)
    (ofExperience : session.experienceId = row.experienceId)
    (room : data.Room row.restaurantId row.sessionId none row.quantity now) :
    SeatsKept owned data (data.insertCheckout row) now := by
  have located' : (data.insertCheckout row).Located := by
    intro checkout isCheckout
    rcases List.mem_append.1 isCheckout with before | isLast
    · exact located checkout before
    · cases List.mem_singleton.1 isLast
      exact ⟨session, experience, found, ofRestaurant, ofExperience⟩
  apply SeatsKept.of_room within located' (evolves_insertCheckout row) locked room
  · have held := heldSeats_insertCheckout data row row.restaurantId row.sessionId none now
    rw [if_pos rfl] at held
    change data.bookedSeats row.restaurantId row.sessionId + _ ≤ _
    omega
  · intro restaurant place elsewhere
    refine ⟨le_rfl, fun except later => ?_⟩
    have held := heldSeats_insertCheckout data row restaurant place except later
    rwa [if_neg elsewhere] at held

/-- Once a checkout is no longer open, what others hold is all that is held. -/
theorem heldSeats_close (data : ExperienceData) (restaurantId checkoutId sessionId : Id)
    {change : ExperienceCheckout → ExperienceCheckout}
    (follows : ∀ row : ExperienceCheckout, row.Follows (change row))
    (closed : ∀ row, (change row).status ≠ .OPEN) (now : Instant) :
    (data.updateCheckouts (isCheckout restaurantId checkoutId) change).heldSeats restaurantId
        sessionId none now ≤ data.heldSeats restaurantId sessionId (some checkoutId) now := by
  apply KeyedRows.sum_filter_update_of_le
  · intro row _ isHeld
    simp only [ExperienceCheckout.isHeld, Bool.and_eq_true, beq_iff_eq] at isHeld
    exact absurd isHeld.2.1 (closed row)
  · intro row unselected isHeld
    simp only [Bool.and_eq_true, beq_iff_eq] at isHeld ⊢
    refine ⟨⟨isHeld.1.1, ?_⟩, isHeld.2⟩
    simp only [bne_iff_ne, ne_eq, Option.some.injEq]
    rintro rfl
    apply unselected
    simp [isCheckout, isHeld.1.1.2]
  · exact fun row => (follows row).quantity

theorem SeatsKept.book (located : data.Located) (within : data.WithinCapacity now)
    {row : ExperienceReservation} (locked : .session row.restaurantId row.sessionId ∈ owned)
    {checkoutId : Id} {change : ExperienceCheckout → ExperienceCheckout}
    (follows : ∀ row : ExperienceCheckout, row.Follows (change row))
    (closed : ∀ row, (change row).status ≠ .OPEN)
    (room : data.Room row.restaurantId row.sessionId (some checkoutId) row.quantity now) :
    SeatsKept owned data ((data.insertReservation row).updateCheckouts
      (isCheckout row.restaurantId checkoutId) change) now := by
  have located' : ((data.insertReservation row).updateCheckouts
      (isCheckout row.restaurantId checkoutId) change).Located :=
    located_updateCheckouts (located_insertReservation located row) follows
  have evolves : Evolves data ((data.insertReservation row).updateCheckouts
      (isCheckout row.restaurantId checkoutId) change) :=
    have inserted : Evolves data (data.insertReservation row) := .of_same rfl rfl rfl
    inserted.trans (evolves_updateCheckouts follows)
  apply SeatsKept.of_room within located' evolves locked room
  · have booked := bookedSeats_insertReservation data row row.restaurantId row.sessionId
    have held := heldSeats_close (data.insertReservation row) row.restaurantId checkoutId
      row.sessionId follows closed now
    rw [if_pos rfl] at booked
    change (data.insertReservation row).bookedSeats row.restaurantId row.sessionId + _ ≤ _
    change _ ≤ data.heldSeats row.restaurantId row.sessionId (some checkoutId) now at held
    omega
  · intro restaurant place elsewhere
    have booked := bookedSeats_insertReservation data row restaurant place
    rw [if_neg elsewhere] at booked
    exact ⟨booked, heldSeats_updateCheckouts (data.insertReservation row) follows
      (fun row _ isOpen => absurd isOpen (closed row)) restaurant place⟩

end

/-! ## Calls keep the seats within the capacity -/

section

variable {call : ExperienceCallId} {owned : Set ExperienceLock} {fact : ExperienceData → Instant → Prop}

theorem protects_unread : experienceAccess.Protects owned fun _ _ => True :=
  protects_const True

theorem protects_past (now : Instant) : experienceAccess.Protects owned fun _ later => now ≤ later where
  writes _ _ _ past := past
  clock isLater past := past.trans isLater

theorem experienceClock_runs :
    experienceAccess.Runs call owned (fun _ _ => True) experienceClock owned
      fun now _ later => now ≤ later := by
  have reads : experienceAccess.Runs call owned (fun _ _ => True) experienceClock owned
      fun now _ later => True ∧ now ≤ later :=
    Runs.read protects_unread protects_past fun _ _ _ _ => le_rfl
  exact reads.weaken subset_rfl subset_rfl (fun _ _ _ _ => trivial) fun _ _ _ learned => learned.2

theorem protects_offer (sessionId : Id) (offer : ExperienceSession × Experience) :
    experienceAccess.Protects owned fun data _ => data.offer? sessionId = some offer where
  writes _ _ writes isOffer := (Evolves.offer? writes.evolves sessionId).trans isOffer
  clock _ isOffer := isOffer

theorem offer_of_offerOf? {data : ExperienceData} {restaurantId sessionId experienceId : Id}
    {offer : ExperienceSession × Experience}
    (found : data.offerOf? restaurantId sessionId experienceId = some offer) :
    data.offer? sessionId = some offer ∧ offer.1.restaurantId = restaurantId ∧
      offer.1.experienceId = experienceId := by
  obtain ⟨isOffer, matching⟩ := Option.filter_eq_some_iff.1 found
  simp only [Bool.and_eq_true, beq_iff_eq] at matching
  exact ⟨isOffer, matching⟩

theorem protects_offered (restaurantId sessionId experienceId : Id)
    (found : Option (ExperienceSession × Experience)) :
    experienceAccess.Protects owned fun data _ => ∀ offer, found = some offer →
      data.offer? sessionId = some offer ∧ offer.1.restaurantId = restaurantId ∧
        offer.1.experienceId = experienceId :=
  Protects.all fun offer => Protects.all fun _ =>
    (protects_offer sessionId offer).and (protects_const _)

section

variable {restaurantId sessionId : Id} (locked : .session restaurantId sessionId ∈ owned)
include locked

theorem protects_seats {holds : ExperienceData → Prop}
    (kept : ∀ {data data'}, experienceParts.same (.session restaurantId sessionId) data data' →
      holds data → holds data') : experienceAccess.Protects owned fun data _ => holds data where
  writes _ _ writes known := kept (writes.same _ fun outside => outside locked) known
  clock _ known := known

variable (except : Option Id)

theorem protects_counted (used : Nat) : experienceAccess.Protects owned fun data later =>
      data.bookedSeats restaurantId sessionId +
        data.heldSeats restaurantId sessionId except later ≤ used where
  writes _ _ writes counted := by
    obtain ⟨booked, held⟩ := writes.same (.session restaurantId sessionId) fun outside =>
      outside locked
    exact (Nat.add_le_add booked (held _ _)).trans counted
  clock isLater counted :=
    (Nat.add_le_add_left (heldSeats_later _ _ _ _ isLater) _).trans counted

theorem protects_room (quantity : Nat) : experienceAccess.Protects owned fun data later =>
      data.Room restaurantId sessionId except quantity later where
  writes inv inv' writes room := by
    obtain ⟨session, experience, isOffer, ofRestaurant, enough⟩ := room
    refine ⟨session, experience, ?_, ofRestaurant, ?_⟩
    · rw [Evolves.offer? writes.evolves]
      exact isOffer
    · obtain ⟨booked, held⟩ := writes.same (.session restaurantId sessionId) fun outside =>
        outside locked
      exact (Nat.add_le_add_right (Nat.add_le_add booked (held _ _)) quantity).trans enough
  clock {data _ _} isLater room := by
    obtain ⟨session, experience, isOffer, ofRestaurant, enough⟩ := room
    have fewer := data.heldSeats_later restaurantId sessionId except isLater
    refine ⟨session, experience, isOffer, ofRestaurant, ?_⟩
    exact (Nat.add_le_add_right (Nat.add_le_add_left fewer _) quantity).trans enough

theorem countSeats_runs {now : Instant} (protects : experienceAccess.Protects owned fact)
    (isPast : ∀ data later, fact data later → now ≤ later) :
    experienceAccess.Runs call owned fact (countSeats restaurantId sessionId except now) owned
      fun used data later => fact data later ∧ data.bookedSeats restaurantId sessionId +
        data.heldSeats restaurantId sessionId except later ≤ used := by
  have protectsBooked : ∀ booked, experienceAccess.Protects owned fun data _ =>
      data.bookedSeats restaurantId sessionId ≤ booked :=
    fun booked => protects_seats locked fun same counted => same.1.trans counted
  have protectsHeld : ∀ held, experienceAccess.Protects owned fun data _ =>
      data.heldSeats restaurantId sessionId except now ≤ held :=
    fun held => protects_seats locked fun same counted => (same.2 _ _).trans counted
  apply Runs.query protects protectsBooked
  · exact fun _ _ _ _ => le_rfl
  intro booked
  apply Runs.query (protects.and (protectsBooked booked)) protectsHeld
  · exact fun _ _ _ _ => le_rfl
  intro held
  apply Runs.pure (protects.and (protects_counted locked except _))
  intro data later _ learned
  have fewer := data.heldSeats_later restaurantId sessionId except (isPast _ _ learned.1.1)
  exact ⟨learned.1.1, Nat.add_le_add learned.1.2 (fewer.trans learned.2)⟩

end

namespace ReserveExperienceInput

variable (input : ReserveExperienceInput)

theorem quiet_bookable (now : Instant) : Quiet call (input.bookable now) := by
  refine Quiet.found (Quiet.pure _) fun offer => ?_
  dsimp only
  split
  · exact Quiet.pure _
  split
  · exact Quiet.pure _
  apply Quiet.bind (Quiet.query _)
  intro customer
  split
  · exact Quiet.pure _
  apply Quiet.bind (Quiet.query _)
  intro reservation
  split
  · exact Quiet.pure _
  split
  · exact Quiet.pure _
  · exact Quiet.pure _

/-- The lock of the session of the reservation. -/
def lock : ExperienceLock :=
  .session input.restaurantId input.sessionId

theorem seated_decides (now : Instant) (quantity : Nat) :
    experienceAccess.Decides call ∅ (fun _ later => now ≤ later) (input.seated call now quantity)
      (fun _ => {input.lock}) fun _ data later =>
        data.Room input.restaurantId input.sessionId none quantity later := by
  have locked : input.lock ∈ (insert input.lock ∅ : Set ExperienceLock) := Set.mem_insert _ _
  apply Decides.acquire (protects_past now)
  apply Decides.query (protects_past now)
    (protects_offered input.restaurantId input.sessionId input.experienceId)
  · exact fun _ _ _ _ offer found => offer_of_offerOf? found
  intro found
  cases found with
  | none => exact Decides.error _
  | some offer =>
    dsimp only
    split
    · exact Decides.error _
    split
    · exact Decides.error _
    split
    · exact Decides.error _
    apply Decides.bind (countSeats_runs locked none ((protects_past now).and
      (protects_offered _ _ _ _)) fun _ _ learned => learned.1)
    intro used
    split
    · exact Decides.error _
    next left =>
      refine Decides.ok ?_ (protects_room (Set.mem_singleton _) none quantity) ?_
      · exact (insert_empty_eq input.lock).symm.subset
      · intro data later _ learned
        obtain ⟨⟨-, isOffer⟩, counted⟩ := learned
        obtain ⟨found, ofRestaurant, -⟩ := isOffer offer rfl
        exact ⟨offer.1, offer.2, found, ofRestaurant,
          (Nat.add_le_add_right counted quantity).trans (Nat.le_of_not_lt left)⟩

variable [Sha256]

theorem create_runs (now : Instant) (quantity : Nat) (key : Option String) :
    experienceAccess.Runs call ∅ (fun _ later => now ≤ later) (input.create call now quantity key)
      ∅ Ends := by
  apply Runs.bind (Runs.transact (input.seated_decides now quantity)
    (fun _ => protects_room (Set.mem_singleton _) none quantity) (fun _ => protects_unread) ?_)
  · intro created
    split
    · exact Runs.glance (protects_const True) fun _ => ends_pure _
    · exact ends_pure _
  intro experience data later inv room _ _
  have kept : SeatsKept {input.lock} data
      (data.insertReservation (input.row key quantity experience)) later :=
    .insertReservation inv.1 inv.2 (Set.mem_singleton _) room
  exact ⟨⟨kept.located, kept.within⟩, kept.writes, trivial⟩

theorem reserveExperience_runs : experienceAccess.Serves call (input.reserveExperience call) := by
  apply Runs.bind experienceClock_runs
  intro now
  dsimp only
  split
  · exact ends_pure _
  · exact ends_pure _
  next quantity rawKey _ _ =>
    refine Runs.found (protects_past now) ?_ fun _ => ends_pure _
    apply Runs.bind ((input.quiet_bookable now).runs (protects_past now))
    intro bookable
    cases bookable with
    | error failure => exact ends_pure _
    | ok _ => exact input.create_runs now quantity _

end ReserveExperienceInput

def ClosesOpen (before after : ExperienceCheckout) : Prop :=
  before.status = .OPEN ∨ after.status = before.status

/-- Only a checkout without an ended refund is refunded. -/
def RefundsAwaiting (before _after : ExperienceCheckout) : Prop :=
  before.awaitsRefund = true

def IsCheckout (checkoutId : Id) (before _after : ExperienceCheckout) : Prop :=
  before.id = checkoutId

inductive FreesSeats (allowed : ExperienceCheckout → ExperienceCheckout → Prop)
    (data : ExperienceData) : ExperienceData → Prop
  | nothing : FreesSeats allowed data data
  | checkouts {selected : ExperienceCheckout → Bool}
      {change : ExperienceCheckout → ExperienceCheckout}
      (follows : ∀ row : ExperienceCheckout, row.Follows (change row))
      (wasOpen : ∀ row, selected row = true → (change row).status = .OPEN → row.status = .OPEN)
      (isAllowed : ∀ row, selected row = true → allowed row (change row)) :
      FreesSeats allowed data (data.updateCheckouts selected change)
  | reservations {selected : ExperienceReservation → Bool}
      {change : ExperienceReservation → ExperienceReservation}
      (sameKey : ∀ row, (change row).idempotencyKey = row.idempotencyKey)
      (sameQuantity : ∀ row, (change row).quantity = row.quantity)
      (cancelled : ∀ row, (change row).status ≠ .CONFIRMED) :
      FreesSeats allowed data (data.updateReservations selected change)
  | event {data' : ExperienceData} (gives : FreesSeats allowed data data')
      (event : ExperiencePaymentEvent) : FreesSeats allowed data (data'.insertEvent event)

variable {allowed : ExperienceCheckout → ExperienceCheckout → Prop} {α : Type}

theorem FreesSeats.seats {data data' : ExperienceData} {now : Instant}
    (gives : FreesSeats allowed data data') (located : data.Located)
    (within : data.WithinCapacity now) : SeatsKept owned data data' now := by
  induction gives with
  | nothing => exact .refl located within
  | checkouts follows wasOpen _ => exact .updateCheckouts located within follows wasOpen
  | reservations _ sameQuantity cancelled =>
    exact .cancelReservations located within sameQuantity cancelled
  | event _ event ih => exact ih.insertEvent event

theorem runs_of_freesSeats (allowed : ExperienceCheckout → ExperienceCheckout → Prop)
    {prog : ExperienceProg (Except ExperienceFailure α)}
    (acts : Acts call (fun data _ data' => FreesSeats allowed data data') prog) :
    experienceAccess.Serves call prog := by
  apply acts.runs
  intro free data now data' inv gives _
  have kept : SeatsKept free data data' now := gives.seats inv.1 inv.2
  exact ⟨⟨kept.located, kept.within⟩, kept.writes⟩

theorem recordOnce_acts (event : ExperienceEventKey) (restaurantId checkoutId : Id)
    (answer : ExperienceEventResult) {change : ExperienceData → Instant → ExperienceData}
    {writes : ExperienceData → Instant → ExperienceData → Prop}
    (records : ∀ data now, writes data now
      ((change data now).insertEvent (event.row restaurantId checkoutId))) :
    Acts call writes (event.recordOnce call restaurantId checkoutId answer change) := by
  apply Acts.transact
  · exact Acts.bind (Acts.query _) fun seen => Acts.pure _
  intro seen data now _
  cases seen with
  | true => exact .inl rfl
  | false => exact .inr (records data now)

theorem StripeRefund.checkoutStatus_ne_open (refund : StripeRefund) :
    refund.checkoutStatus ≠ .OPEN := by
  simp only [StripeRefund.checkoutStatus]
  split
  · exact ExperienceCheckoutStatus.noConfusion
  split <;> exact ExperienceCheckoutStatus.noConfusion

theorem persistExperienceRefund_acts (restaurantId checkoutId : Id) (refund : StripeRefund)
    (isAllowed : ∀ row : ExperienceCheckout, row.id = checkoutId → row.awaitsRefund = true →
      ∀ now, allowed row (row.refunding refund now)) :
    Acts call (fun data _ data' => FreesSeats allowed data data')
      (persistExperienceRefund call restaurantId checkoutId refund) := by
  apply Acts.bind
  · apply Acts.commitUnless
    intro data now _
    right
    apply FreesSeats.checkouts
    · exact fun row => ⟨rfl, rfl, rfl, rfl, rfl, rfl⟩
    · exact fun row _ isOpen => absurd isOpen refund.checkoutStatus_ne_open
    · intro row isSelected
      simp only [isCheckout, Bool.and_eq_true, beq_iff_eq] at isSelected
      exact isAllowed row isSelected.1.1 isSelected.2 now
  intro stored
  cases stored with
  | error failure => exact Acts.pure _
  | ok _ => exact Acts.bind (Acts.query _) fun row => Acts.pure _

namespace PublicCheckoutInput

variable (input : PublicCheckoutInput)

def Planned (restaurantId : Id) (data : ExperienceData) (now : Instant) : Prop :=
  (∃ offer, data.offer? input.sessionId = some offer ∧ offer.1.restaurantId = restaurantId ∧
    offer.1.experienceId = input.experienceId) ∧
    data.Room restaurantId input.sessionId none input.quantity now

theorem protects_planned {restaurantId : Id}
    (locked : .session restaurantId input.sessionId ∈ owned) :
    experienceAccess.Protects owned (input.Planned restaurantId) := by
  apply Protects.and
  · constructor
    · intro data data' now _ _ writes known
      obtain ⟨offer, isOffer, located⟩ := known
      exact ⟨offer, (Evolves.offer? writes.evolves _).trans isOffer, located⟩
    · exact fun _ known => known
  · exact protects_room locked none input.quantity

theorem seated_decides (restaurantId : Id) (now : Instant) :
    experienceAccess.Decides call ∅ (fun _ later => now ≤ later)
      (input.seated call restaurantId now) (fun _ => {.session restaurantId input.sessionId})
      fun _ => input.Planned restaurantId := by
  have locked : .session restaurantId input.sessionId ∈
      (insert (.session restaurantId input.sessionId) ∅ : Set ExperienceLock) :=
    Set.mem_insert _ _
  apply Decides.acquire (protects_past now)
  apply Decides.query (protects_past now) (protects_offered restaurantId input.sessionId input.experienceId)
  · intro data _ _ _ offer found
    exact offer_of_offerOf? (Option.filter_eq_some_iff.1 found).1
  intro found
  cases found with
  | none => exact Decides.error _
  | some offer =>
    apply Decides.bind (countSeats_runs locked none
      ((protects_past now).and (protects_offered _ _ _ _)) fun _ _ learned => learned.1)
    intro used
    split
    · exact Decides.error _
    next left =>
      refine Decides.ok ?_ (input.protects_planned (Set.mem_singleton _)) ?_
      · exact (insert_empty_eq (ExperienceLock.session restaurantId input.sessionId)).symm.subset
      · intro data later _ learned
        obtain ⟨⟨-, isOffer⟩, counted⟩ := learned
        obtain ⟨found, ofRestaurant, ofExperience⟩ := isOffer offer rfl
        constructor
        · exact ⟨offer, found, ofRestaurant, ofExperience⟩
        · exact ⟨offer.1, offer.2, found, ofRestaurant,
            (Nat.add_le_add_right counted _).trans (Nat.le_of_not_lt left)⟩

theorem attach_acts (restaurantId : Id) (checkout : ExperienceCheckout) :
    Acts call (fun data _ data' => FreesSeats ClosesOpen data data')
      (input.attach call restaurantId checkout) := by
  unfold attach
  split
  · exact Acts.pure _
  split
  · exact Acts.pure _
  · apply Acts.commitUnless
    intro data now _
    right
    apply FreesSeats.checkouts
    · exact fun row => ⟨rfl, rfl, rfl, rfl, rfl, rfl⟩
    · exact fun row _ isOpen => isOpen
    · exact fun row _ => .inr rfl

theorem quiet_resume (restaurantId : Id) (now : Instant) (checkout : ExperienceCheckout) :
    Quiet call (input.resume restaurantId now checkout) := by
  unfold resume
  split
  · exact Quiet.pure _
  split
  · exact Quiet.pure _
  apply Quiet.bind (Quiet.query _)
  intro sessionData
  split
  · exact Quiet.pure _
  · exact Quiet.pure _

theorem opens_runs (restaurantId : Id) (account : String) (rate : ℚ) (key : String)
    (now : Instant) :
    experienceAccess.Runs call ∅ (fun _ later => now ≤ later)
      (transact call (input.seated call restaurantId now) ExperienceData.violation?
        (fun experience _ _ => input.row restaurantId account rate key now experience)
        fun experience data _ => data.insertCheckout
          (input.row restaurantId account rate key now experience)) ∅ Ends := by
  apply Runs.transact (input.seated_decides restaurantId now)
    (fun _ => input.protects_planned (Set.mem_singleton _)) fun _ => protects_unread
  intro experience data later inv planned _ _
  obtain ⟨⟨offer, found, ofRestaurant, ofExperience⟩, room⟩ := planned
  have kept : SeatsKept {.session restaurantId input.sessionId} data
      (data.insertCheckout (input.row restaurantId account rate key now experience)) later :=
    .insertCheckout inv.1 inv.2 (Set.mem_singleton _) found ofRestaurant ofExperience room
  exact ⟨⟨kept.located, kept.within⟩, kept.writes, trivial⟩

variable [Sha256]

theorem createPublicExperienceCheckout_runs :
    experienceAccess.Serves call (input.createPublicExperienceCheckout call) := by
  apply Runs.bind experienceClock_runs
  intro now
  refine Runs.found (protects_past now) (ends_pure _) fun restaurant => ?_
  dsimp only
  split
  · exact ends_pure _
  · exact ends_pure _
  next account rate connected _ _ =>
    split
    · exact ends_pure _
    apply Runs.glance (protects_past now)
    intro existing
    have attaches : ∀ checkout, experienceAccess.Runs call ∅
        (Ends (.ok checkout : Except ExperienceFailure ExperienceCheckout))
        (input.attach call restaurant.id checkout) ∅ Ends := by
      intro checkout
      apply Runs.knowing fun _ _ _ _ => trivial
      exact runs_of_freesSeats _ (input.attach_acts restaurant.id checkout)
    have refuses : ∀ failure, experienceAccess.Runs call ∅
        (Ends (.error failure : Except ExperienceFailure ExperienceCheckout))
        (pure (.error failure) : ExperienceProg (Except ExperienceFailure PublicCheckout)) ∅
        Ends := by
      intro failure
      apply Runs.knowing fun _ _ _ _ => trivial
      exact ends_pure _
    cases existing with
    | some checkout =>
      have resumes : experienceAccess.Runs call ∅ (fun _ later => now ≤ later)
          (input.resume restaurant.id now checkout) ∅ fun _ _ later => now ≤ later :=
        (input.quiet_resume restaurant.id now checkout).runs (protects_past now)
      apply Runs.bind (resumes.weaken subset_rfl subset_rfl (fun _ _ _ known => known)
        fun checkout data now _ => Ends.of checkout data now)
      rintro (failure | checkout)
      · exact refuses failure
      · exact attaches checkout
    | none =>
      apply Runs.bind (input.opens_runs restaurant.id account rate _ now)
      rintro (failure | checkout)
      · exact refuses failure
      · exact attaches checkout

end PublicCheckoutInput

theorem cancelPublicExperienceCheckout_acts (input : CancelCheckoutInput) :
    Acts call (fun data _ data' => FreesSeats ClosesOpen data data')
      (input.cancelPublicExperienceCheckout call) := by
  refine Acts.found (Acts.pure _) fun restaurant => ?_
  refine Acts.found (Acts.pure _) fun checkout => ?_
  dsimp only
  split
  · exact Acts.pure _
  split
  · exact Acts.pure _
  · apply Acts.bind _ fun _ => Acts.pure _
    apply Acts.commit
    intro data now
    right
    apply FreesSeats.checkouts
    · exact fun row => ⟨rfl, rfl, rfl, rfl, rfl, rfl⟩
    · exact fun row _ isOpen => nomatch isOpen
    · intro row isSelected
      simp only [Bool.and_eq_true, beq_iff_eq] at isSelected
      exact .inl isSelected.2
  · exact Acts.pure _

theorem expireExperienceCheckouts_acts (limit : Option Int) :
    Acts call (fun data _ data' => FreesSeats ClosesOpen data data')
      (expireExperienceCheckouts call limit) := by
  apply Acts.bind (Acts.query _)
  intro now
  apply Acts.bind (Acts.query _)
  intro rows
  split
  · exact Acts.pure _
  · apply Acts.bind _ fun _ => Acts.pure _
    apply Acts.commit
    intro data now
    right
    apply FreesSeats.checkouts
    · exact fun row => ⟨rfl, rfl, rfl, rfl, rfl, rfl⟩
    · exact fun row _ isOpen => nomatch isOpen
    · intro row isSelected
      simp only [Bool.and_eq_true, beq_iff_eq] at isSelected
      exact .inl isSelected.2

namespace CancelExperienceReservationInput

variable (input : CancelExperienceReservationInput)

theorem refundPaidExperienceReservation_acts :
    Acts call (fun data _ data' => FreesSeats RefundsAwaiting data data')
      (input.refundPaidExperienceReservation call) := by
  refine Acts.found (Acts.pure _) fun checkout => ?_
  dsimp only
  split
  · exact Acts.pure _
  · exact Acts.pure _
  · exact Acts.pure _
  · exact Acts.pure _
  · exact Acts.pure _
  all_goals
    split
    · exact Acts.pure _
    · exact Acts.pure _
    · apply Acts.andThen
      · exact persistExperienceRefund_acts _ _ _ fun row _ awaits _ => awaits
      intro stored
      split
      · exact Acts.pure _
      · exact Acts.pure _

theorem cancelExperienceReservation_acts [Sha256] :
    Acts call (fun data _ data' => FreesSeats RefundsAwaiting data data')
      (input.cancelExperienceReservation call) := by
  apply Acts.bind (Acts.query _)
  intro now
  apply input.refundPaidExperienceReservation_acts.andThen
  intro refundStatus
  apply Acts.bind
  · apply Acts.commit
    exact fun data _ => .inr (.reservations (fun row => rfl) (fun row => rfl)
      fun row => ExperienceReservationStatus.noConfusion)
  exact fun cancelled => Acts.bind (Acts.query _) fun row => Acts.pure _

end CancelExperienceReservationInput

theorem handleExperienceRefundStripeEvent_acts (input : ExperienceRefundEvent) :
    Acts call (fun data _ data' => FreesSeats RefundsAwaiting data data')
      (input.handleExperienceRefundStripeEvent call) := by
  unfold ExperienceRefundEvent.handleExperienceRefundStripeEvent
  split
  · exact Acts.pure _
  refine Acts.found (Acts.pure _) fun checkout => ?_
  dsimp only
  split
  · exact Acts.pure _
  apply recordOnce_acts
  intro data now
  apply FreesSeats.event
  split
  · exact .nothing
  · apply FreesSeats.checkouts
    · exact fun row => ⟨rfl, rfl, rfl, rfl, rfl, rfl⟩
    · exact fun row _ isOpen => absurd isOpen input.refund.checkoutStatus_ne_open
    · intro row isSelected
      rw [Bool.and_eq_true] at isSelected
      exact isSelected.2

namespace ExperienceCheckoutEvent

variable (input : ExperienceCheckoutEvent)

theorem giveBack_acts (restaurantId : Id) (checkout : ExperienceCheckout) :
    Acts call (fun data _ data' => FreesSeats (IsCheckout checkout.id) data data')
      (input.giveBack call restaurantId checkout) := by
  unfold giveBack
  split
  · exact Acts.pure _
  · exact Acts.pure _
  next refund _ _ =>
    apply recordOnce_acts
    intro data now
    apply FreesSeats.event
    apply FreesSeats.checkouts
    · exact fun row => ⟨rfl, rfl, rfl, rfl, rfl, rfl⟩
    · exact fun row _ isOpen => absurd isOpen refund.checkoutStatus_ne_open
    · intro row isSelected
      simp only [isCheckout, Bool.and_eq_true, beq_iff_eq] at isSelected
      exact isSelected.1.1

theorem expires_acts (restaurantId checkoutId : Id) (answer : ExperienceEventResult)
    {selected : ExperienceCheckout → Bool}
    (isAllowed : ∀ row, selected row = true → allowed row row.expired) :
    Acts call (fun data _ data' => FreesSeats allowed data data')
      (input.event.recordOnce call restaurantId checkoutId answer
        fun data _ => data.updateCheckouts selected (·.expired)) := by
  apply recordOnce_acts
  intro data now
  apply FreesSeats.event
  apply FreesSeats.checkouts
  · exact fun row => ⟨rfl, rfl, rfl, rfl, rfl, rfl⟩
  · exact fun row _ isOpen => nomatch isOpen
  · exact isAllowed

theorem isCheckout_id {restaurantId checkoutId : Id} {row : ExperienceCheckout}
    (selected : isCheckout restaurantId checkoutId row = true) : IsCheckout checkoutId row row.expired := by
  simp only [isCheckout, Bool.and_eq_true, beq_iff_eq] at selected
  exact selected.1

/-- A booking rests on room in the session besides the checkout. -/
def Planned : Plan → ExperienceData → Instant → Prop
  | .replay => fun _ _ => True
  | .record => fun _ _ => True
  | .refuse _ => fun _ _ => True
  | .book checkout => fun data now => checkout.sessionId = sessionId ∧
      data.Room restaurantId sessionId (some checkout.id) checkout.quantity now

/-- The checkout read before is found again under its identity. -/
def FoundSince (restaurantId : Id) (checkout : ExperienceCheckout) (data : ExperienceData) : Prop :=
  checkout.restaurantId = restaurantId ∧
    ∃ row, data.checkout? checkout.id = some row ∧ checkout.Follows row

theorem protects_foundSince (restaurantId : Id) (checkout : ExperienceCheckout) :
    experienceAccess.Protects owned fun data _ => FoundSince restaurantId checkout data where
  writes _ _ writes found := by
    obtain ⟨ofRestaurant, row, isRow, follows⟩ := found
    obtain ⟨row', isRow', later⟩ := writes.evolves.checkouts _ row isRow
    exact ⟨ofRestaurant, row', isRow', follows.trans later⟩
  clock _ found := found

variable {data : ExperienceData}

theorem checkout_of_checkoutOffer? {restaurantId checkoutId : Id} {offer : CheckoutOffer}
    (found : data.checkoutOffer? restaurantId checkoutId = some offer) :
    data.checkout? checkoutId = some offer.1 ∧ offer.1.restaurantId = restaurantId := by
  simp only [checkoutOffer?, Option.bind_eq_bind, Option.bind_eq_some_iff] at found
  obtain ⟨checkout, isCheckout, session, -, experience, -, same⟩ := found
  cases same
  obtain ⟨isRow, ofRestaurant⟩ := Option.filter_eq_some_iff.1 isCheckout
  exact ⟨isRow, beq_iff_eq.1 ofRestaurant⟩

theorem offer_of_checkoutOffer? (located : data.Located) {restaurantId checkoutId : Id}
    {offer : CheckoutOffer} (found : data.checkoutOffer? restaurantId checkoutId = some offer) :
    data.offer? offer.1.sessionId = some offer.2 ∧ offer.2.1.restaurantId = restaurantId := by
  obtain ⟨isRow, ofRestaurant⟩ := checkout_of_checkoutOffer? found
  simp only [checkoutOffer?, Option.bind_eq_bind, Option.bind_eq_some_iff] at found
  obtain ⟨checkout, -, session, isSession, experience, isExperience, same⟩ := found
  cases same
  obtain ⟨session', experience', isOffer, sameRestaurant, sameExperience⟩ :=
    located checkout (KeyedRows.mem_of_lookup isRow)
  have offered := isOffer
  simp only [ExperienceData.offer?, Option.bind_eq_bind, isSession, Option.bind_some,
    Option.bind_eq_some_iff] at offered
  obtain ⟨experience'', isFound, samePair⟩ := offered
  cases samePair
  rw [sameExperience, isExperience] at isFound
  cases isFound
  exact ⟨isOffer, sameRestaurant.trans ofRestaurant⟩

/-- The checkout read again is for the same session, still as it is offered. -/
def Current (found : Option CheckoutOffer) (data : ExperienceData) : Prop :=
  ∀ offer, found = some offer → offer.1.sessionId = sessionId ∧
    data.offer? sessionId = some offer.2 ∧ offer.2.1.restaurantId = restaurantId

theorem protects_current (found : Option CheckoutOffer) :
    experienceAccess.Protects owned fun data _ => Current restaurantId sessionId found data :=
  Protects.all fun offer => Protects.all fun _ =>
    (protects_const _).and ((protects_offer sessionId offer.2).and (protects_const _))

theorem FoundSince.current {restaurantId : Id} {checkout : ExperienceCheckout}
    (since : FoundSince restaurantId checkout data) (located : data.Located) :
    Current restaurantId checkout.sessionId (data.checkoutOffer? restaurantId checkout.id) data := by
  intro offer found
  obtain ⟨isRow, -⟩ := checkout_of_checkoutOffer? found
  obtain ⟨isOffer, ofRestaurant⟩ := offer_of_checkoutOffer? located found
  obtain ⟨-, row, sameRow, follows⟩ := since
  rw [isRow] at sameRow
  cases sameRow
  rw [follows.sessionId] at isOffer
  exact ⟨follows.sessionId, isOffer, ofRestaurant⟩

/-- A plan that books nothing rests on nothing. -/
theorem settles {lock : ExperienceLock} {plan : Plan}
    (always : ∀ data now, Planned restaurantId sessionId plan data now) :
    experienceAccess.Decides call (insert lock ∅) fact
      (pure (.ok plan) : ExperienceProg (Except ExperienceFailure Plan)) (fun _ => {lock})
      (Planned restaurantId sessionId) := by
  have protects : experienceAccess.Protects {lock} (Planned restaurantId sessionId plan) :=
    ⟨fun _ _ _ _ => always _ _, fun _ _ => always _ _⟩
  exact Decides.ok (insert_empty_eq lock).symm.subset protects fun data now _ _ => always data now

theorem plan_decides (restaurantId : Id) (checkout : ExperienceCheckout) :
    experienceAccess.Decides call ∅ (fun data _ => FoundSince restaurantId checkout data)
      (input.plan call restaurantId checkout)
      (fun _ => {.session restaurantId checkout.sessionId})
      (Planned restaurantId checkout.sessionId) := by
  have locked : .session restaurantId checkout.sessionId ∈
      (insert (.session restaurantId checkout.sessionId) ∅ : Set ExperienceLock) :=
    Set.mem_insert _ _
  apply Decides.acquire (protects_foundSince restaurantId checkout)
  apply Decides.glance (protects_foundSince restaurantId checkout)
  intro seen
  split
  · exact settles _ _ fun _ _ => trivial
  apply Decides.query (protects_foundSince restaurantId checkout)
    (protects_current restaurantId checkout.sessionId)
  · exact fun data now inv since => since.current inv.1
  intro found
  cases found with
  | none => exact Decides.error _
  | some offer =>
    obtain ⟨current, session, experience⟩ := offer
    dsimp only
    split
    · exact settles _ _ fun _ _ => trivial
    split
    · exact settles _ _ fun _ _ => trivial
    apply Decides.assuming fun _ _ _ known => (known.2 _ rfl).1
    intro sameSession
    apply Decides.query ((protects_foundSince _ _).and (protects_current _ _ _)) protects_past
    · exact fun _ _ _ _ => le_rfl
    intro now
    rw [sameSession]
    apply Decides.bind (countSeats_runs locked (some current.id)
      (((protects_foundSince _ _).and (protects_current _ _ _)).and (protects_past now))
        fun _ _ learned => learned.2)
    intro used
    split
    · exact settles _ _ fun _ _ => trivial
    next left =>
      refine Decides.ok (insert_empty_eq _).symm.subset ?_ ?_
      · exact (protects_const _).and (protects_room (Set.mem_singleton _) _ _)
      · intro data later _ learned
        obtain ⟨⟨⟨-, isCurrent⟩, -⟩, counted⟩ := learned
        obtain ⟨-, isOffer, ofRestaurant⟩ := isCurrent _ rfl
        exact ⟨sameSession, session, experience, isOffer, ofRestaurant,
          (Nat.add_le_add_right counted _).trans (Nat.le_of_not_lt left)⟩

variable [Sha256]

/-- What the last transaction of a payment writes. -/
theorem kept_carryOut {now : Instant} (located : data.Located) (within : data.WithinCapacity now)
    {restaurantId sessionId : Id} (checkoutId : Id) (plan : Plan)
    (planned : Planned restaurantId sessionId plan data now) :
    SeatsKept {.session restaurantId sessionId} data
      (input.carryOut restaurantId checkoutId plan data) now := by
  cases plan with
  | replay => exact .refl located within
  | record => exact SeatsKept.insertEvent (.refl located within) _
  | refuse checkout =>
    apply SeatsKept.insertEvent
    apply SeatsKept.updateCheckouts located within
    · exact fun row => ⟨rfl, rfl, rfl, rfl, rfl, rfl⟩
    · intro row _ isOpen
      simp only [ExperienceCheckout.refused] at isOpen
      split at isOpen <;> cases isOpen
  | book checkout =>
    obtain ⟨sameSession, room⟩ := planned
    subst sameSession
    have closed : ∀ row : ExperienceCheckout,
        (row.booked input.paymentIntentId input.newReservationId).status ≠ .OPEN := by
      intro row isOpen
      simp only [ExperienceCheckout.booked] at isOpen
      split at isOpen <;> cases isOpen
    have follows : ∀ row : ExperienceCheckout,
        row.Follows (row.booked input.paymentIntentId input.newReservationId) :=
      fun row => ⟨rfl, rfl, rfl, rfl, rfl, rfl⟩
    have ofReservation : data.Room (input.reservation restaurantId checkout).restaurantId
        (input.reservation restaurantId checkout).sessionId (some checkout.id)
        (input.reservation restaurantId checkout).quantity now := room
    exact (SeatsKept.book located within (Set.mem_singleton _) follows closed
      ofReservation).insertEvent _

theorem finalizeCheckout_runs (restaurantId : Id) (checkout : ExperienceCheckout) :
    experienceAccess.Runs call ∅ (fun data _ => FoundSince restaurantId checkout data)
      (input.finalizeCheckout call restaurantId checkout) ∅ Ends := by
  apply Runs.bind (Runs.transact (input.plan_decides restaurantId checkout) ?_
    (fun _ => protects_unread) ?_)
  · intro done
    apply Runs.knowing fun _ _ _ _ => trivial
    split
    · exact ends_pure _
    · exact ends_pure _
    · exact ends_pure _
    · exact ends_pure _
    · split
      · exact ends_pure _
      split
      · exact ends_pure _
      · exact ends_pure _
      · apply runs_of_freesSeats (IsCheckout checkout.id)
        apply Acts.andThen _ fun _ => Acts.pure _
        exact persistExperienceRefund_acts _ _ _ fun row isRow _ _ => isRow
  · intro plan
    cases plan with
    | replay => exact protects_unread
    | record => exact protects_unread
    | refuse current => exact protects_unread
    | book current =>
      exact (protects_const _).and (protects_room (Set.mem_singleton _) _ _)
  · intro plan data now inv planned _ _
    have kept := input.kept_carryOut inv.1 inv.2 checkout.id plan planned
    exact ⟨⟨kept.located, kept.within⟩, kept.writes, trivial⟩

variable [UnicodeCase]

theorem respond_runs (restaurantId : Id) (offer : CheckoutOffer) :
    experienceAccess.Runs call ∅ (fun data _ => FoundSince restaurantId offer.1 data)
      (input.respond call restaurantId offer) ∅ Ends := by
  unfold respond
  dsimp only
  split
  · exact ends_pure _
  split
  · apply Runs.knowing fun _ _ _ _ => trivial
    apply runs_of_freesSeats (IsCheckout offer.1.id)
    apply input.expires_acts
    intro row isSelected
    exact isCheckout_id (Bool.and_eq_true _ _ ▸ isSelected).1
  split
  · exact ends_pure _
  split
  · exact ends_pure _
  split
  · apply Runs.knowing fun _ _ _ _ => trivial
    apply runs_of_freesSeats (IsCheckout offer.1.id)
    exact recordOnce_acts _ _ _ _ fun data now => .event .nothing _
  split
  · exact input.finalizeCheckout_runs restaurantId offer.1
  split
  · apply Runs.knowing fun _ _ _ _ => trivial
    apply runs_of_freesSeats (IsCheckout offer.1.id)
    exact input.expires_acts _ _ _ fun row isSelected => isCheckout_id isSelected
  · apply Runs.knowing fun _ _ _ _ => trivial
    exact runs_of_freesSeats _ (input.giveBack_acts restaurantId offer.1)

theorem handleExperienceCheckoutStripeEvent_runs :
    experienceAccess.Serves call (input.handleExperienceCheckoutStripeEvent call) := by
  unfold handleExperienceCheckoutStripeEvent
  split
  · exact ends_pure _
  split
  next restaurantId checkoutId _ _ =>
    have known : ∀ found : Option CheckoutOffer, experienceAccess.Protects ∅ fun data _ =>
        ∀ offer, found = some offer → FoundSince restaurantId offer.1 data :=
      fun found => Protects.all fun offer => Protects.all fun _ =>
        protects_foundSince restaurantId offer.1
    apply Runs.query protects_unread known
    · intro data now inv _ offer found
      obtain ⟨isRow, ofRestaurant⟩ := checkout_of_checkoutOffer? found
      refine ⟨ofRestaurant, offer.1, ?_, .refl _⟩
      rw [KeyedRows.key_of_lookup isRow]
      exact isRow
    intro found
    cases found with
    | none => exact ends_pure _
    | some offer =>
      exact Runs.knowing (fun _ _ _ known => known.2 offer rfl)
        (input.respond_runs restaurantId offer)
  · exact ends_pure _

end ExperienceCheckoutEvent

theorem ExperienceCall.prog_runs [Sha256] [UnicodeCase] (call : ExperienceCallId)
    (input : ExperienceCall) : experienceAccess.Serves call (input.prog call) := by
  cases input with
  | reserve input => exact ends_map input.reserveExperience_runs
  | openCheckout input => exact ends_map input.createPublicExperienceCheckout_runs
  | cancelCheckout input => exact ends_map (runs_of_freesSeats _ (cancelPublicExperienceCheckout_acts input))
  | expire limit => exact ends_map (runs_of_freesSeats _ (expireExperienceCheckouts_acts limit))
  | checkoutEvent input => exact ends_map input.handleExperienceCheckoutStripeEvent_runs
  | refundEvent input => exact ends_map (runs_of_freesSeats _ (handleExperienceRefundStripeEvent_acts input))
  | cancelReservation input =>
    have cancels : experienceAccess.Serves call (input.cancelExperienceReservation call) :=
      runs_of_freesSeats _ input.cancelExperienceReservation_acts
    apply Runs.andThen cancels subset_rfl
    exact fun result => ends_pure _

end

/-- Whatever calls are made and in whatever order their statements run, the seats booked and
held in each session never exceed its capacity. -/
theorem seats_withinCapacity [Sha256] [UnicodeCase] {store : ExperienceStore}
    (located : store.data.Located) (within : store.data.WithinCapacity store.now)
    {c : Config ExperienceCallId ExperienceStore (Except ExperienceFailure ExperienceAnswer)}
    (reaches : (experienceSystem calls).Reaches (.initial store) c) :
    c.shared.data.WithinCapacity c.shared.now :=
  (reaches_sound (fun call => (calls call).prog_runs call) (fun _ _ _ _ _ => trivial)
    ⟨located, within⟩ reaches).1.2

section

attribute [local instance] UnicodeCase.ascii Sha256.plain

/-- A session of two seats, with nothing booked yet. -/
def tastingRoom : ExperienceStore where
  data :=
    { restaurants := [⟨"r", "chez", some 0, true, some "acct", none, some 0⟩]
      experiences := [⟨"e", "r", 1500, "EUR", 2, .ACTIVE⟩]
      sessions := [⟨"s", "r", "e", 1000, none, .OPEN⟩]
      reservations := []
      checkouts := []
      events := []
      links := ⟨[], []⟩ }
  now := 0
  owner _ := none

/-- One seat is reserved, then a checkout is opened for the other. -/
def bothSeats (call : ExperienceCallId) : ExperienceCall :=
  match call with
  | 0 => .reserve
      { restaurantId := "r", experienceId := "e", sessionId := "s", customerId := none
        reservationId := none, quantity := 1, idempotencyKey := none, actor := "staff"
        newId := "a" }
  | _ => .openCheckout
      { slug := "chez", experienceId := "e", sessionId := "s", quantity := 1
        idempotencyKey := "k", newId := "c", hasOrigin := true, account := some ⟨true, true⟩
        stripeSession := some ⟨"cs", some "pi", "https://checkout"⟩ }

theorem seats_withinCapacity_full :
    ∃ c, (experienceSystem bothSeats).Reaches (.initial tastingRoom) c ∧
      (c.shared.data.bookedSeats "r" "s", c.shared.data.heldSeats "r" "s" none c.shared.now) = (1, 1) ∧
        c.shared.data.WithinCapacity c.shared.now := by
  obtain ⟨moves, c, run, shown⟩ := (experienceSystem bothSeats).exists_run_of_schedule
    (List.replicate 11 0 ++ List.replicate 10 1) (.initial tastingRoom)
    (fun _ c => (c.shared.data.bookedSeats "r" "s",
      c.shared.data.heldSeats "r" "s" none c.shared.now) = (1, 1)) (by decide +kernel)
  have located : tastingRoom.data.Located := List.forall_mem_nil _
  have within : tastingRoom.data.WithinCapacity 0 := fun _ _ _ _ => Nat.zero_le _
  exact ⟨c, run.reaches, shown, seats_withinCapacity bothSeats located within run.reaches⟩

end

end Sokar
