import Sokar.Booking.ModificationCalls

/-!
# Checks that write nothing

The checks of the booking paths read and lock; so do those of a modification, which write nothing
before the transaction commits.
-/

namespace Sokar

open Process Transaction

variable {session : SessionId}

theorem quiet_clock : Quiet session clock :=
  Quiet.query _

theorem quiet_lockTable (tableId : Id) : Quiet session (lockTable session tableId) :=
  (Quiet.acquire _).bind fun _ => Quiet.query _

section

variable (own : Database → Database) (transactionStart : Instant) (check : TableAvailabilityCheck)

theorem quiet_isTableAvailable : Quiet session (isTableAvailable own transactionStart check) :=
  (Quiet.query _).bind fun _ => (Quiet.query _).bind fun _ => Quiet.pure _

theorem quiet_lockFreeTable : Quiet session (lockFreeTable session own transactionStart check) := by
  apply (quiet_lockTable check.tableId).bind
  intro locked
  cases locked with
  | false => exact Quiet.pure _
  | true => exact quiet_isTableAvailable own transactionStart check

end

variable (transactionStart : Instant)

variable (input : AllocateTableInput)

theorem quiet_tryCandidates (candidates : List Table) :
    Quiet session (tryCandidates session transactionStart input candidates) := by
  induction candidates with
  | nil => exact Quiet.pure _
  | cons table rest ih =>
    apply (Quiet.tryAcquire _).bind
    intro locked
    cases locked with
    | false => exact ih
    | true =>
      apply (quiet_isTableAvailable id transactionStart (input.check table)).bind
      intro available
      cases available with
      | false => exact ih
      | true => exact Quiet.pure _

theorem quiet_liftBooking [SelfServiceEnv] {α : Type} {prog : BookingProg (Except BookingError α)}
    (quiet : Quiet session prog) : Quiet session (liftBooking prog) :=
  (modificationPortion.quiet_within quiet).bind fun _ => Quiet.pure _

theorem quiet_checkWholeRestaurantFor (current : ManagedRow) (target : ModificationTarget)
    (endsAt : Instant) : Quiet session (checkWholeRestaurantFor current target endsAt) := by
  apply (Quiet.query _).bind
  intro otherReservation
  apply (Quiet.query _).bind
  intro otherHold
  split
  · exact Quiet.pure _
  · exact (Quiet.query _).bind fun _ => Quiet.pure _

section

variable [Icu]

theorem quiet_seatingConflict (request : Instant → SeatingRequest) :
    Quiet session (seatingConflict request) := by
  repeat refine (Quiet.query _).bind fun _ => ?_
  exact Quiet.pure _

theorem quiet_hasGlobalCapacityConflict (tableId : Option Id) :
    Quiet session (hasGlobalCapacityConflict input tableId) :=
  (quiet_seatingConflict _).bind fun _ => Quiet.pure _

theorem quiet_assertTableAvailableForSeating (args : SeatingArgs) :
    Quiet session (assertTableAvailableForSeating session transactionStart args) := by
  apply (Quiet.acquire _).bind
  intro _
  apply (quiet_hasGlobalCapacityConflict _ _).bind
  intro conflict
  cases conflict with
  | true => exact Quiet.pure _
  | false =>
    refine Quiet.found (Quiet.pure _) fun table => ?_
    simp only
    split
    · exact Quiet.pure _
    · exact (quiet_lockFreeTable id transactionStart args.check).bind fun _ => Quiet.pure _

theorem quiet_checkSeated (args : TransitionArgs) (previous : Reservation) :
    Quiet session (checkSeated session transactionStart args previous) := by
  unfold checkSeated
  split
  · exact Quiet.pure _
  · split
    · exact Quiet.pure _
    · apply (Quiet.query _).bind
      intro now
      split
      · exact Quiet.pure _
      · exact (quiet_assertTableAvailableForSeating _ _).bind fun _ => Quiet.pure _

theorem quiet_planTransition (args : TransitionArgs) : Quiet session (planTransition session args) := by
  apply quiet_clock.bind
  intro transactionStart
  apply (Quiet.acquire _).bind
  intro _
  refine Quiet.found (Quiet.pure _) fun previous => ?_
  simp only
  split
  · exact Quiet.pure _
  · split
    · exact Quiet.pure _
    · apply quiet_clock.bind
      intro now
      split
      · exact Quiet.pure _
      · exact Quiet.andThen (quiet_checkSeated transactionStart args previous) fun _ => Quiet.pure _

theorem quiet_checkMove (args : ReallocateArgs) (seating : SeatingArgs) :
    Quiet session (checkMove session args seating) := by
  apply quiet_clock.bind
  intro transactionStart
  apply (Quiet.acquire _).bind
  intro _
  apply (quiet_hasGlobalCapacityConflict _ _).bind
  intro conflict
  cases conflict with
  | true => exact Quiet.pure _
  | false =>
    apply (quiet_lockFreeTable id transactionStart seating.check).bind
    intro available
    cases available with
    | false => exact Quiet.pure _
    | true => exact (Quiet.acquire _).bind fun _ => Quiet.pure _

theorem quiet_allocate [Postgres] : Quiet session (allocate session transactionStart input) := by
  apply (Quiet.acquire _).bind
  intro _
  apply (quiet_hasGlobalCapacityConflict input none).bind
  intro conflict
  cases conflict with
  | true => exact Quiet.pure _
  | false => exact (Quiet.query _).bind fun _ => quiet_tryCandidates _ _ _

theorem quiet_placeModified [Postgres] (current : ManagedRow) (target : ModificationTarget)
    (endsAt : Instant) :
    Quiet session (placeModified session transactionStart current target endsAt) := by
  apply (quiet_seatingConflict _).bind
  intro seating
  split
  · exact Quiet.pure _
  · split
    · exact (quiet_allocate _ _).bind fun _ => Quiet.pure _
    · split
      · exact Quiet.pure _
      · exact Quiet.andThen (quiet_checkWholeRestaurantFor current target endsAt)
          fun _ => Quiet.pure _

/-! ## The checks of a modification -/

variable [SelfServiceEnv]

theorem quiet_modificationContext (row : ManagedRow) (requestedDate : Option LocalDate) :
    Quiet session (modificationContext row requestedDate) := by
  apply (Quiet.query _).bind
  intro found
  simp only
  split
  · exact Quiet.pure _
  · split
    · exact Quiet.pure _
    · apply (Quiet.query _).bind
      intro financialPolicy
      split
      · exact Quiet.pure _
      · exact Quiet.pure _

theorem quiet_modificationAvailability (input : GetAvailabilityInput) :
    Quiet session (modificationAvailability input) := by
  apply (Quiet.query _).bind
  intro now
  refine Quiet.found (Quiet.pure _) fun found => ?_
  simp only
  split
  · exact Quiet.pure _
  · exact (Quiet.query _).bind fun _ => (Quiet.query _).bind fun _ => Quiet.pure _

theorem quiet_checkFresh (proposal : Proposal SelfServiceEnv.Digest) (restaurantId reservationId : Id) :
    Quiet session (checkFresh proposal restaurantId reservationId) := by
  refine Quiet.found (Quiet.pure _) fun fresh => ?_
  apply Quiet.andThen (quiet_modificationContext fresh _)
  intro ctx
  apply (Quiet.query _).bind
  intro now
  simp only
  split
  · exact Quiet.pure _
  · apply (Quiet.query _).bind
    intro read
    split
    · exact Quiet.pure _
    · split
      · exact Quiet.pure _
      · apply (quiet_modificationAvailability _).bind
        intro available
        split
        · exact Quiet.pure _
        · exact Quiet.pure _

theorem quiet_checkProposal (bearer : ManagementLink) (token : ProposalToken SelfServiceEnv.Digest)
    (proposal : Proposal SelfServiceEnv.Digest) (current : ManagedRow) :
    Quiet session (checkProposal bearer token proposal current) := by
  apply (Quiet.query _).bind
  intro now
  split
  · exact Quiet.pure _
  · split
    · apply (Quiet.query _).bind
      intro applied
      split
      · exact Quiet.pure _
      · exact quiet_checkFresh proposal _ _
    · exact quiet_checkFresh proposal _ _

theorem quiet_decideModification [Postgres] (args : ModifyReservationArgs)
    (transactionStart : Instant) (current : ManagedRow) :
    Quiet session (decideModification session args transactionStart current) := by
  apply (Quiet.query _).bind
  intro now
  simp only
  split
  · exact Quiet.pure _
  · split
    · exact Quiet.pure _
    · split
      · exact Quiet.pure _
      · exact Quiet.andThen (quiet_liftBooking (quiet_placeModified _ _ _ _)) fun _ => Quiet.pure _

theorem quiet_planModification [Postgres] (args : ModifyReservationArgs)
    {beforeModify : ManagedRow → ModificationProg (Except ModificationError Unit)}
    (quiet : ∀ current, Quiet session (beforeModify current)) :
    Quiet session (planModification session args beforeModify) := by
  apply (Quiet.query _).bind
  intro transactionStart
  apply (Quiet.acquire _).bind
  intro _
  apply (Quiet.acquire _).bind
  intro _
  refine Quiet.found (Quiet.pure _) fun current => ?_
  simp only
  split
  · exact Quiet.pure _
  · split
    · exact Quiet.pure _
    · exact Quiet.andThen (quiet current) fun _ => quiet_decideModification _ _ _

end

end Sokar
