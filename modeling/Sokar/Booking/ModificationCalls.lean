import Sokar.Booking.Modifications

/-!
# The calls that change a reservation

`modifyReservation`, the confirmation of a proposal, which goes through it, and the changes of state
and of table, statement by statement.
-/

namespace Sokar

open Process Transaction

section

variable [Icu] [Postgres] [SelfServiceEnv]

structure ModifyReservationArgs where
  reservationId : Id
  restaurantId : Id
  actor : String
  publicClient : Bool
  customerPhone : Option String
  partySize : Option Int
  startsAt : Option Instant
  endsAt : Option Instant
  customerName : Option String
  specialRequests : Option (Option String)
  preserveDuration : Bool
  /-- `auditMetadata`. -/
  source : Option String
  proposalDigest : Option SelfServiceEnv.Digest

structure ModificationTarget where
  startsAt : Instant
  endsAt : Option Instant
  partySize : Int
  deriving DecidableEq

namespace ModifyReservationArgs

variable (args : ModifyReservationArgs)

def isStaff : Bool :=
  hasStart args.actor "staff:"

/-- A client of the public interface changes its own reservations, for the customer's telephone. -/
def mayChange (current : ManagedRow) : Bool :=
  !args.publicClient ||
    current.createdByClient == some args.actor &&
      args.customerPhone.any fun phone => phone != "" && current.customerPhone == some phone

def target (current : ManagedRow) : ModificationTarget :=
  let startsAt := args.startsAt.getD current.begins
  { startsAt
    endsAt :=
      match args.preserveDuration && args.startsAt.isSome, current.endsAt with
      | true, some endsAt => some (startsAt + (endsAt - current.begins))
      | _, _ => args.endsAt.or current.endsAt
    partySize := args.partySize.getD current.partySize }

/-- Only the staff changes a reservation whose window has begun, and only its name or notes. -/
def isAllowed (target : ModificationTarget) (now : Instant) : Bool :=
  args.isStaff && !args.publicClient && args.startsAt.isNone && args.partySize.isNone ||
    target.endsAt.any fun endsAt =>
      decide (target.startsAt < endsAt) && decide (now < target.startsAt)

def nameChanged (current : ManagedRow) : Bool :=
  args.customerName.any fun name => name != current.customerName

def notesChanged (current : ManagedRow) : Bool :=
  args.specialRequests.any fun notes => notes != current.specialRequests

end ModifyReservationArgs

def ModificationTarget.capacityChanged (target : ModificationTarget) (current : ManagedRow) : Bool :=
  target.startsAt != current.begins || target.endsAt != current.endsAt ||
    target.partySize != current.partySize

def ModifyReservationArgs.changes (args : ModifyReservationArgs) (current : ManagedRow) : Bool :=
  (args.target current).capacityChanged current || args.nameChanged current ||
    args.notesChanged current

/-- The request that the placement of a changed reservation is checked with: on the table it has. -/
def seatingRequestOf (current : ManagedRow) (target : ModificationTarget) (endsAt : Instant)
    (now : Instant) : SeatingRequest where
  restaurantId := current.restaurantId
  partySize := target.partySize
  startsAt := target.startsAt
  endsAt
  tableId := current.tableId
  now
  excludeReservationId := some current.id
  excludeHoldId := none

def allocationOf (current : ManagedRow) (target : ModificationTarget) (endsAt : Instant) :
    AllocateTableInput where
  restaurantId := current.restaurantId
  partySize := target.partySize
  startsAt := target.startsAt
  endsAt
  preferredSectionId := none
  excludeTableIds := []
  excludeReservationId := some current.id

/-- Without a floor plan, no other reservation or hold of the restaurant may meet the window. -/
def checkWholeRestaurantFor (current : ManagedRow) (target : ModificationTarget)
    (endsAt : Instant) : BookingProg (Except BookingError Unit) := do
  let otherReservation ← query fun db _ => db.reservations.any fun row =>
    row.restaurantId == current.restaurantId && !row.isTest && row.id != current.id &&
      isActiveReservationState row.state &&
      row.startsAt.any (fun startsAt => decide (startsAt < endsAt)) &&
      row.endsAt.any fun finish => decide (target.startsAt < finish)
  let otherHold ← query fun db now => db.agenticHolds.any fun row =>
    row.restaurantId == current.restaurantId && row.type == .HOLD && row.status == .ACTIVE &&
      decide (now < row.expiresAt) && decide (row.slotStart < endsAt) &&
      decide (target.startsAt < row.slotEnd)
  if otherReservation || otherHold then pure (.error .ReservationSlotUnavailable)
  else
    let sameSlot ← query fun db _ =>
      findBlockingReservation
        { db with reservations := db.reservations.filter fun row => row.id != current.id }
        current.restaurantId target.startsAt endsAt
    pure (if sameSlot then .error .ReservationSlotUnavailable else .ok ())

/-- The table of a reservation on its new window: an allocated one, if it has a table. -/
def placeModified (session : SessionId) (transactionStart : Instant) (current : ManagedRow)
    (target : ModificationTarget) (endsAt : Instant) :
    BookingProg (Except BookingError (Option Id)) := do
  let seating ← seatingConflict (seatingRequestOf current target endsAt)
  if seating.conflict then pure (.error .ReservationSlotUnavailable)
  else
    match truthy current.tableId with
    | some _ =>
      let table ← allocate session transactionStart (allocationOf current target endsAt)
      pure (match table with
        | none => .error .ReservationSlotUnavailable
        | some table => .ok (some table.id))
    | none =>
      if seating.hasTables then pure (.ok current.tableId)
      else
        (checkWholeRestaurantFor current target endsAt).andThen fun _ =>
          pure (.ok current.tableId)

/-- What the checks of a modification decide: nothing when nothing changes. -/
structure ModificationPlan where
  current : ManagedRow
  target : ModificationTarget
  tableId : Option Id
  deriving DecidableEq

def liftBooking {α : Type} (prog : BookingProg (Except BookingError α)) :
    ModificationProg (Except ModificationError α) := do
  let result ← modificationPortion.within prog
  pure (result.mapError .booking)

/-- The window, the party and the table that a modification leads to. -/
def decideModification (session : SessionId) (args : ModifyReservationArgs)
    (transactionStart : Instant) (current : ManagedRow) :
    ModificationProg (Except ModificationError ModificationPlan) := do
  let now ← modificationTime
  let target := args.target current
  if !args.isAllowed target now then pure (.error .ReservationModificationNotAllowed)
  else if !target.capacityChanged current then
    pure (.ok { current, target, tableId := current.tableId })
  else
    match target.endsAt with
    | none => pure (.error .ReservationModificationNotAllowed)
    | some endsAt =>
      (liftBooking (placeModified session transactionStart current target endsAt)).andThen
        fun tableId => pure (.ok { current, target, tableId })

/-- The checks of the transaction of `modifyReservation`, with those of an adapter among them. -/
def planModification (session : SessionId) (args : ModifyReservationArgs)
    (beforeModify : ManagedRow → ModificationProg (Except ModificationError Unit)) :
    ModificationProg (Except ModificationError ModificationPlan) := do
  let transactionStart ← modificationTime
  acquire session (.capacity args.restaurantId)
  acquire session (.reservation args.reservationId)
  let current ← query fun data _ => data.managedOf? args.restaurantId args.reservationId
  match current with
  | none => pure (.error (.booking .ReservationNotFound))
  | some current =>
    if !args.mayChange current then pure (.error (.booking .ReservationNotFound))
    else if current.state ≠ .PENDING ∧ current.state ≠ .CONFIRMED then
      pure (.error .ReservationModificationNotAllowed)
    else
      (beforeModify current).andThen fun _ =>
        decideModification session args transactionStart current

/-- The update of the row, when its window or party changes. -/
def ModificationPlan.update (plan : ModificationPlan) (row : Reservation) : Reservation :=
  if plan.target.capacityChanged plan.current then
    { row with
      partySize := plan.target.partySize
      reservedAt := plan.target.startsAt
      startsAt := some plan.target.startsAt
      endsAt := plan.target.endsAt
      tableId := plan.tableId }
  else row

def ModifyReservationArgs.details (args : ModifyReservationArgs) (details : ReservationDetails) :
    ReservationDetails :=
  { details with
    customerName := args.customerName.getD details.customerName
    specialRequests := args.specialRequests.getD details.specialRequests }

def ModifyReservationArgs.entry (args : ModifyReservationArgs) (plan : ModificationPlan) :
    AuditEntry where
  reservationId := args.reservationId
  event := FIELDS_CHANGED
  actor := args.actor
  fromState := plan.current.state
  toState := plan.current.state
  source := some (args.source.getD "mcp")
  proposalDigest := args.proposalDigest
  changedFields :=
    (if plan.target.capacityChanged plan.current then ["partySize", "startsAt", "endsAt", "tableId"]
      else []) ++
      (if args.nameChanged plan.current then ["customerName"] else []) ++
      if args.notesChanged plan.current then ["specialRequests"] else []

def ModifyReservationArgs.writes (args : ModifyReservationArgs)
    (token : Option (ProposalToken SelfServiceEnv.Digest)) (plan : ModificationPlan)
    (data : ModificationData) : ModificationData :=
  if args.changes plan.current then
    { data.changed plan.update (args.entry plan) token with
      details := Function.update data.details args.reservationId
        (args.details (data.details args.reservationId)) }
  else data

structure Modified where
  reservationId : Id
  state : ReservationState
  changed : Bool
  deriving DecidableEq

/-- `modifyReservation`; the event of the change names the proposal that is confirmed. -/
def modifyReservation (session : SessionId) (args : ModifyReservationArgs)
    (token : Option (ProposalToken SelfServiceEnv.Digest))
    (beforeModify : ManagedRow → ModificationProg (Except ModificationError Unit)) :
    ModificationProg (Except ModificationError Modified) :=
  transact session (planModification session args beforeModify) modificationRefusal
    (fun plan _ _ =>
      { reservationId := plan.current.id, state := plan.current.state
        changed := args.changes plan.current })
    fun plan data _ => args.writes token plan data

/-- The store in which a modification that waits for nobody reads its row. -/
def ModifyReservationArgs.locked (args : ModifyReservationArgs) (session : SessionId)
    (store : ModificationStore) : ModificationStore :=
  (store.take session (.capacity args.restaurantId)).take session (.reservation args.reservationId)

/-- A modification that waits for nobody goes on after the checks of its adapter. -/
theorem run_planModification {session : SessionId} {args : ModifyReservationArgs}
    {beforeModify : ManagedRow → ModificationProg (Except ModificationError Unit)}
    {store : ModificationStore} {current : ManagedRow}
    (found : store.data.managedOf? args.restaurantId args.reservationId = some current)
    (mayChange : args.mayChange current = true)
    (notClosed : ¬ (current.state ≠ .PENDING ∧ current.state ≠ .CONFIRMED))
    (capacityFree : store.isFreeFor session (.capacity args.restaurantId) = true)
    (rowFree : store.isFreeFor session (.reservation args.reservationId) = true) :
    (planModification session args beforeModify).run store =
      ((beforeModify current).andThen fun _ =>
        decideModification session args store.now current).run (args.locked session store) := by
  have taken := run_acquire_of_free (isFreeFor_take rowFree (.capacity args.restaurantId))
  have foundLocked : (args.locked session store).data.managedOf? args.restaurantId
      args.reservationId = some current := found
  simp only [planModification, modificationTime, Prog.run_bind, run_query, Option.bind_some,
    run_acquire_of_free capacityFree, taken]
  change (match (args.locked session store).data.managedOf? args.restaurantId args.reservationId with
    | none => _
    | some current => _ : ModificationProg (Except ModificationError ModificationPlan)).run
      (args.locked session store) = _
  rw [foundLocked]
  simp only [mayChange, Bool.not_true, Bool.false_eq_true, if_false, if_neg notClosed]

/-- What a confirmation asks of `modifyReservation`. -/
def ProposalToken.modification (token : ProposalToken SelfServiceEnv.Digest)
    (restaurantId reservationId : Id) : ModifyReservationArgs where
  reservationId
  restaurantId
  actor := PERSONAL_LINK
  publicClient := false
  customerPhone := none
  partySize := some token.proposal.partySize
  startsAt := some token.proposal.startsAt
  endsAt := some token.proposal.endsAt
  customerName := none
  specialRequests := none
  preserveDuration := false
  source := some "personal_reservation"
  proposalDigest := some (SelfServiceEnv.digestToken token)

/-- The row has the window and the party of the proposal. -/
def Proposal.isCurrent (proposal : Proposal SelfServiceEnv.Digest) (row : ManagedRow) : Bool :=
  row.startsAt == some proposal.startsAt && row.endsAt == some proposal.endsAt &&
    row.partySize == proposal.partySize

/-- The proposal has not run out and was made for this version of the row and of the settings. -/
def Proposal.isFresh (proposal : Proposal SelfServiceEnv.Digest) (row : ManagedRow)
    (ctx : ModificationContext) (auditCount : Nat) (now : Instant) : Bool :=
  decide (now < proposal.expires * 1000) && proposal.revision == Sokar.revision row auditCount &&
    proposal.settings == ctx.settingsHash && decide (proposal.partySize ≤ ctx.maxPartySize)

/-- The moved reservation keeps to the conditions of self-service, and its start reads as the
proposal says. -/
def Proposal.isOnTerms (proposal : Proposal SelfServiceEnv.Digest) (row : ManagedRow)
    (ctx : ModificationContext) (now : Instant) : Bool :=
  let timezone := ctx.restaurant.timezone
  let parts := utcToZonedParts proposal.startsAt timezone
  (reservationSelfServiceConditions (row.movedTo proposal.startsAt) timezone now).available &&
    parts.date == proposal.date &&
    formatTime (parts.time.hour * 60 + parts.time.minute) == proposal.time

def conflict {α : Type} (message : String) : ModificationProg (Except ModificationError α) :=
  pure (.error (.ModificationConflict message))

/-- The proposal is checked again on the row as it is, with its lock held. -/
def checkFresh (proposal : Proposal SelfServiceEnv.Digest) (restaurantId reservationId : Id) :
    ModificationProg (Except ModificationError Unit) := do
  let fresh ← query fun data _ => data.managedOf? restaurantId reservationId
  match fresh with
  | none => pure (.error (.booking .RecordNotFound))
  | some fresh =>
    (modificationContext fresh (some proposal.date)).andThen fun ctx => do
      let now ← modificationTime
      if !validModificationDate proposal.date fresh ctx.restaurant.timezone now then
        conflict DATE_OUT_OF_REACH
      else
        let (auditCount, now) ← query fun data now => (data.auditCount fresh.id, now)
        if !proposal.isFresh fresh ctx auditCount now then
          conflict "La réservation ou les conditions ont changé. Veuillez consulter les disponibilités à nouveau."
        else if !proposal.isOnTerms fresh ctx now then conflict CONTACT
        else
          let available ← modificationAvailability
            (modificationAvailabilityInput fresh proposal.date proposal.partySize
              ctx.minLeadTimeMinutes true)
          if available.slots.any fun slot => slot.time == proposal.time && slot.available then
            pure (.ok ())
          else conflict "Ce créneau vient d’être pris. Votre réservation initiale est conservée."

/-- What a confirmation checks before it modifies: nothing for a change that was already made. -/
def checkProposal (bearer : ManagementLink) (token : ProposalToken SelfServiceEnv.Digest)
    (proposal : Proposal SelfServiceEnv.Digest) (current : ManagedRow) :
    ModificationProg (Except ModificationError Unit) := do
  let now ← modificationTime
  if !verifyReservationManagementToken bearer current now then conflict "Lien invalide ou expiré."
  else if proposal.isCurrent current then
    let applied ← query fun data _ =>
      data.isApplied current.id (SelfServiceEnv.digestToken token)
    if applied then pure (.ok ())
    else checkFresh proposal current.restaurantId current.id
  else checkFresh proposal current.restaurantId current.id

/-- A change that `modifyReservation` does not make is a conflict for the bearer. -/
def confirmationResult : Except ModificationError Modified → Except ModificationError Unit
  | .ok _ => .ok ()
  | .error (.booking .ReservationSlotUnavailable) | .error .ReservationModificationNotAllowed =>
    .error (.ModificationConflict
      "Ce changement n’est plus disponible. Votre réservation initiale est conservée.")
  | .error error => .error error

def confirmModification (session : SessionId) (restaurantId reservationId : Id)
    (bearer : ManagementLink) (token : ProposalToken SelfServiceEnv.Digest) :
    ModificationProg (Except ModificationError Unit) :=
  match token.decode bearer with
  | .error error => pure (.error error)
  | .ok proposal => do
      let result ← modifyReservation session (token.modification restaurantId reservationId)
        (some token) (checkProposal bearer token proposal)
      pure (confirmationResult result)

def eventForTransition : ReservationState → String
  | .SEATED => "reservation_seated"
  | .HONORED => "reservation_honored"
  | .NO_SHOW => "reservation_no_show"
  | .CANCELLED => "reservation_cancelled"
  | .FAILED => "reservation_failed"
  | .EXPIRED => "hold_expired"
  | _ => "state_transition"

/-- An entry of the audit trail beside a change made elsewhere. -/
def plainEntry (reservationId : Id) (event actor : String) (fromState toState : ReservationState) :
    AuditEntry where
  reservationId
  event
  actor
  fromState
  toState
  source := none
  proposalDigest := none
  changedFields := []

/-- The row of a reservation, locked once its checks have passed; its own update would lock it. -/
def thenLock {α : Type} (session : SessionId) (reservationId : Id)
    (prog : BookingProg (Except BookingError α)) :
    ModificationProg (Except ModificationError α) :=
  (liftBooking prog).andThen fun value => do
    acquire session (.reservation reservationId)
    pure (.ok value)

/-- `transition`, of a change that writes no other field. -/
def transitionReservation (session : SessionId) (args : TransitionArgs) (actor : String) :
    ModificationProg (Except ModificationError Unit) :=
  transact session (thenLock session args.reservationId (planTransition session args))
    modificationRefusal (fun _ _ _ => ())
    fun plan data _ =>
      match plan with
      | none => data
      | some fromState =>
        data.changed (fun row => { row with state := args.toState })
          (plainEntry args.reservationId (eventForTransition args.toState) actor fromState
            args.toState) none

def TABLE_ALLOCATION : String := "dashboard:table-allocation"

/-- `reallocate`, from the reservation and the table that were read before. -/
def moveToTable (session : SessionId) (args : ReallocateArgs) (reservation : Reservation)
    (startsAt endsAt : Instant) : ModificationProg (Except ModificationError Unit) :=
  transact session
    (thenLock session args.reservationId
      (checkMove session args (reservation.seating args.newTableId startsAt endsAt)))
    modificationRefusal (fun _ _ _ => ())
    fun _ data _ =>
      data.changed (fun row => { row with tableId := some args.newTableId })
        (plainEntry args.reservationId "reservation_table_reallocated" TABLE_ALLOCATION
          reservation.state reservation.state) none

/-- `releaseTable`. -/
def releaseTableOf (session : SessionId) (reservationId : Id) :
    ModificationProg (Except ModificationError Unit) := do
  let row ← query fun data _ => data.row? reservationId
  match row with
  | none => rollback session (.error (.booking .RecordNotFound))
  | some row =>
    if (truthy row.tableId).isNone then rollback session (.ok ())
    else
      acquire session (.reservation reservationId)
      commitUnless session modificationRefusal (fun _ _ => ()) fun data _ =>
        data.changed (fun row => { row with tableId := none })
          (plainEntry reservationId "reservation_table_released" TABLE_ALLOCATION row.state
            row.state) none

/-- A transaction on other tables, and on columns that no audit trail follows, which may also make
new reservations. -/
def changeElsewhere (session : SessionId)
    (change : ModificationData → Instant → ModificationData) (created : List Reservation) :
    ModificationProg (Except ModificationError Unit) :=
  commitUnless session modificationRefusal (fun _ _ => ()) fun data now =>
    { change data now with
      bookings :=
        { (change data now).bookings with reservations := data.bookings.reservations ++ created }
      audits := data.audits
      history := data.history }

inductive ModificationCall where
  | options (row : ManagedRow) (bearer : ManagementLink) (partySize : Int)
      (requestedDate : Option LocalDate)
  | confirm (restaurantId reservationId : Id) (bearer : ManagementLink)
      (token : ProposalToken SelfServiceEnv.Digest)
  | modify (args : ModifyReservationArgs)
  | transition (args : TransitionArgs) (actor : String)
  | moveToTable (args : ReallocateArgs) (reservation : Reservation) (startsAt endsAt : Instant)
  | releaseTable (reservationId : Id)
  | elsewhere (change : ModificationData → Instant → ModificationData) (created : List Reservation)

inductive ModificationAnswer where
  | options (options : ModificationOptions)
  | modified (modified : Modified)
  | done
  deriving DecidableEq

abbrev ModificationResult := Except ModificationError ModificationAnswer

def answering {α : Type} (prog : ModificationProg (Except ModificationError α))
    (answer : α → ModificationAnswer) : ModificationProg ModificationResult := do
  let result ← prog
  pure (result.map answer)

def ModificationCall.prog (session : SessionId) :
    ModificationCall → ModificationProg ModificationResult
  | .options row bearer partySize requestedDate =>
    answering (modificationOptions session row bearer partySize requestedDate) .options
  | .confirm restaurantId reservationId bearer token =>
    answering (confirmModification session restaurantId reservationId bearer token)
      fun _ => .done
  | .modify args =>
    answering (modifyReservation session args none fun _ => pure (.ok ())) .modified
  | .transition args actor => answering (transitionReservation session args actor) fun _ => .done
  | .moveToTable args reservation startsAt endsAt =>
    answering (Sokar.moveToTable session args reservation startsAt endsAt) fun _ => .done
  | .releaseTable reservationId => answering (releaseTableOf session reservationId) fun _ => .done
  | .elsewhere change created => answering (changeElsewhere session change created) fun _ => .done

def modificationSystem (calls : SessionId → ModificationCall) :
    System SessionId ModificationStore ModificationResult :=
  system fun session => (calls session).prog session

end

end Sokar
