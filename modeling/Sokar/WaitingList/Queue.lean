import Sokar.Booking.HoldOperations
import Sokar.Library.KeyedRows
import Sokar.Library.QuietPrograms
import Sokar.Shared.Text

/-!
# The waiting list

`WaitingListService`, statement by statement: an entry joins the queue of a slot, and is
promoted to a reservation, cancelled or expired.  The contact details of the customer, the
audit entries and the notifications are left out.
-/

namespace Sokar

open Process Transaction

inductive WaitingListStatus where
  | PENDING | PROMOTED | CANCELLED | EXPIRED
  deriving DecidableEq

structure WaitingListEntry where
  id : Id
  restaurantId : Id
  partySize : Int
  customerPhoneNormalized : String
  slotStart : Instant
  slotEnd : Instant
  preferredSectionId : Option Id
  status : WaitingListStatus
  position : Nat
  actionTokenHash : String
  promotedReservationId : Option Id
  expiresAt : Instant
  promotedAt : Option Instant
  cancelledAt : Option Instant
  deriving DecidableEq

/-- The tables of the booking paths and the entries, in the order they were inserted. -/
structure WaitingData where
  booking : Database
  entries : List WaitingListEntry

/-- The locks of the booking paths, the row locks of the entries and the advisory lock of a
slot. -/
inductive WaitingLock where
  | booking (lock : BookingLock)
  | entry (entryId : Id)
  | slot (restaurantId : Id) (slotStart : Instant)
  deriving DecidableEq

inductive WaitingFailure where
  | WaitingListDisabledError
  | WaitingListSlotFullError (restaurantId : Id) (slotStart : Instant) (maxEntries : ℚ)
  | WaitingListAlreadyExistsError (restaurantId : Id) (slotStart : Instant)
  | WaitingListEntryNotFoundError (entryId : Id)
  | WaitingListAlreadyPromotedError (entryId : Id)
  | constraint (violation : ConstraintViolation)
  deriving DecidableEq

abbrev WaitingCallId := Nat

abbrev WaitingStore := Store WaitingData WaitingLock WaitingCallId

abbrev WaitingProg := Prog WaitingStore

/-- `createHash('sha256').update(token).digest('hex')`. -/
class ActionTokens where
  hashActionToken : String → String

namespace WaitingListEntry

variable (entry : WaitingListEntry)

def inSlot (restaurantId : Id) (slotStart : Instant) : Bool :=
  entry.restaurantId == restaurantId && entry.slotStart == slotStart

def pendingFor (restaurantId : Id) (slotStart : Instant) : Bool :=
  entry.inSlot restaurantId slotStart && entry.status == .PENDING

/-- What makes a pending entry unique. -/
def phoneSlot : Option (Id × String × Instant) :=
  if entry.status = .PENDING then
    some (entry.restaurantId, entry.customerPhoneNormalized, entry.slotStart)
  else none

def promoted (reservationId : Id) (now : Instant) : WaitingListEntry :=
  { entry with
    status := .PROMOTED
    promotedReservationId := some reservationId
    promotedAt := some now }

def cancelled (now : Instant) : WaitingListEntry :=
  { entry with status := .CANCELLED, cancelledAt := some now }

def expired : WaitingListEntry :=
  { entry with status := .EXPIRED }

def overdue (now : Instant) : Bool :=
  entry.status == .PENDING && decide (entry.expiresAt ≤ now)

end WaitingListEntry

namespace WaitingData

variable (data : WaitingData)

def entryById? (entryId : Id) : Option WaitingListEntry :=
  KeyedRows.lookup (·.id) data.entries entryId

def insertEntry (entry : WaitingListEntry) : WaitingData :=
  { data with entries := data.entries ++ [entry] }

def updateEntry (entryId : Id) (change : WaitingListEntry → WaitingListEntry) : WaitingData :=
  { data with entries := KeyedRows.update (fun entry => entry.id == entryId) change data.entries }

/-- The entries that wait for a slot, in the order of arrival. -/
def queue (restaurantId : Id) (slotStart : Instant) : List WaitingListEntry :=
  data.entries.filter fun entry => entry.pendingFor restaurantId slotStart

/-- The entries of the queue that are not past their expiry. -/
def pendingCount (restaurantId : Id) (slotStart now : Instant) : Nat :=
  ((data.queue restaurantId slotStart).filter fun entry => decide (now < entry.expiresAt)).length

/-- The primary key and the unique indexes of the entries. -/
def entryKeysUnique : Bool :=
  decide (data.entries.map (·.id)).Nodup && decide (data.entries.map (·.actionTokenHash)).Nodup &&
    decide (data.entries.filterMap (·.promotedReservationId)).Nodup &&
    decide (data.entries.filterMap (·.phoneSlot)).Nodup

def violation? : Option WaitingFailure :=
  match Sokar.violation? data.booking with
  | some violation => some (.constraint violation)
  | none => if data.entryKeysUnique then none else some (.constraint .unique)

end WaitingData

/-- The booking tables inside the data of the waiting list. -/
def bookingPortion : Portion WaitingData WaitingLock Database BookingLock where
  get data := data.booking
  put booking data := { data with booking }
  lock := .booking
  unlock
    | .booking lock => some lock
    | _ => none
  put_get _ := rfl
  lock_of_unlock {held _} unlocked := by
    cases held with
    | booking lock => exact congrArg WaitingLock.booking (Option.some.inj unlocked).symm
    | entry entryId => cases unlocked
    | slot restaurantId slotStart => cases unlocked

/-- `new Date()`. -/
def waitingClock : WaitingProg Instant :=
  query fun _ now => now

structure JoinArgs where
  restaurantId : Id
  partySize : Int
  customerPhone : String
  slotStart : Instant
  preferredSectionId : Option Id
  waitingListEnabled : Bool
  waitingListMaxEntriesPerSlot : ℚ
  serviceDurationMinutes : Option ℚ
  /-- The identifier and the token generated for the entry. -/
  newId : Id
  actionToken : String

variable (call : WaitingCallId)

namespace JoinArgs

variable (args : JoinArgs)

def slotEnd : Instant :=
  addMinutes args.slotStart <| resolveServiceDurationMinutes <| some <| .obj <|
    match args.serviceDurationMinutes with
    | some minutes => [("serviceDurationMinutes", .num minutes)]
    | none => []

variable [ActionTokens]

/-- The entry that joins behind the entries counted. -/
def entry (pendingCount : Nat) : WaitingListEntry where
  id := args.newId
  restaurantId := args.restaurantId
  partySize := args.partySize
  customerPhoneNormalized := normalizePhone args.customerPhone
  slotStart := args.slotStart
  slotEnd := args.slotEnd
  preferredSectionId := args.preferredSectionId
  status := .PENDING
  position := pendingCount + 1
  actionTokenHash := ActionTokens.hashActionToken args.actionToken
  promotedReservationId := none
  expiresAt := args.slotStart
  promotedAt := none
  cancelledAt := none

def join (call : WaitingCallId) : WaitingProg (Except WaitingFailure (WaitingListEntry × String)) :=
  if !args.waitingListEnabled then pure (.error .WaitingListDisabledError)
  else do
    acquire call (.slot args.restaurantId args.slotStart)
    let now ← waitingClock
    let pendingCount ← query fun data _ => data.pendingCount args.restaurantId args.slotStart now
    if args.waitingListMaxEntriesPerSlot ≤ pendingCount then
      rollback call (.error (.WaitingListSlotFullError args.restaurantId args.slotStart
        args.waitingListMaxEntriesPerSlot))
    else
      let created ← commitUnless call WaitingData.violation?
        (fun _ _ => (args.entry pendingCount, args.actionToken))
        fun data _ => data.insertEntry (args.entry pendingCount)
      pure (match created with
        | .error (.constraint .unique) =>
          .error (.WaitingListAlreadyExistsError args.restaurantId args.slotStart)
        | _ => created)

end JoinArgs

/-- An entry is found and left as it is, or cancelled. -/
inductive Cancellation where
  | closed (entry : WaitingListEntry)
  | cancel (entry : WaitingListEntry)

namespace Cancellation

def writes : Cancellation → WaitingData → Instant → WaitingData
  | .closed _, data, _ => data
  | .cancel entry, data, now => data.updateEntry entry.id (·.cancelled now)

def result : Cancellation → WaitingData → Instant → WaitingListEntry
  | .closed entry, _, _ => entry
  | .cancel entry, data, now => ((data.entryById? entry.id).getD entry).cancelled now

end Cancellation

def decideOnEntry {α : Type} (entryId : Id)
    (decide : Option WaitingListEntry → Except WaitingFailure α) :
    WaitingProg (Except WaitingFailure α) := do
  acquire call (.entry entryId)
  let entry ← query fun data _ => data.entryById? entryId
  pure (decide entry)

structure CancelByTokenArgs where
  entryId : Id
  actionToken : String
  restaurantId : Id

def CancelByTokenArgs.decide [ActionTokens] (args : CancelByTokenArgs) :
    Option WaitingListEntry → Except WaitingFailure Cancellation
  | none => .error (.WaitingListEntryNotFoundError args.entryId)
  | some entry =>
    if entry.restaurantId ≠ args.restaurantId ∨
        entry.actionTokenHash ≠ ActionTokens.hashActionToken args.actionToken then
      .error (.WaitingListEntryNotFoundError args.entryId)
    else match entry.status with
      | .CANCELLED => .ok (.closed entry)
      | .EXPIRED => .ok (.closed entry)
      | .PROMOTED => .error (.WaitingListAlreadyPromotedError entry.id)
      | .PENDING => .ok (.cancel entry)

def decideByStaff (entryId restaurantId : Id) :
    Option WaitingListEntry → Except WaitingFailure Cancellation
  | none => .error (.WaitingListEntryNotFoundError entryId)
  | some entry =>
    if entry.restaurantId ≠ restaurantId then .error (.WaitingListEntryNotFoundError entryId)
    else match entry.status with
      | .CANCELLED => .ok (.closed entry)
      | .EXPIRED => .ok (.closed entry)
      | .PROMOTED => .ok (.cancel entry)
      | .PENDING => .ok (.cancel entry)

def cancelEntry (entryId : Id)
    (decide : Option WaitingListEntry → Except WaitingFailure Cancellation) :
    WaitingProg (Except WaitingFailure WaitingListEntry) :=
  transact call (decideOnEntry call entryId decide) WaitingData.violation?
    Cancellation.result Cancellation.writes

def cancelByToken [ActionTokens] (args : CancelByTokenArgs) :
    WaitingProg (Except WaitingFailure WaitingListEntry) :=
  cancelEntry call args.entryId args.decide

def cancelByStaff (entryId restaurantId : Id) :
    WaitingProg (Except WaitingFailure WaitingListEntry) :=
  cancelEntry call entryId (decideByStaff entryId restaurantId)

/-- `updateMany`: the entries found are locked, then expired where they still match. -/
def expireEntriesWhere (selected : WaitingListEntry → Bool) :
    WaitingProg (Except WaitingFailure Nat) := do
  let now ← waitingClock
  let found ← query fun data _ =>
    (data.entries.filter fun entry => selected entry && entry.overdue now).map (·.id)
  acquireAll call (found.map .entry)
  commitUnless call WaitingData.violation?
    (fun data _ => (data.entries.filter fun entry =>
      found.contains entry.id && entry.overdue now).length)
    fun data _ =>
      { data with
        entries := KeyedRows.update (fun entry => found.contains entry.id && entry.overdue now)
          WaitingListEntry.expired data.entries }

def expireEntry (entryId : Id) : WaitingProg (Except WaitingFailure Nat) :=
  expireEntriesWhere call fun entry => entry.id == entryId

def cleanupExpired : WaitingProg (Except WaitingFailure Nat) :=
  expireEntriesWhere call fun _ => true

/-- A promotion gives nothing, the reservation there is, or a new one. -/
inductive Promotion where
  | nothing
  | replay (reservation : Reservation)
  | create (entry : WaitingListEntry) (reservation : Reservation) (promotedAt : Instant)

namespace Promotion

def writes : Promotion → WaitingData → Instant → WaitingData
  | .create entry reservation promotedAt, data, _ =>
    { data.updateEntry entry.id (·.promoted reservation.id promotedAt) with
      booking := data.booking.insertReservation reservation }
  | _, data, _ => data

def result : Promotion → Option Reservation
  | .nothing => none
  | .replay reservation => some reservation
  | .create _ reservation _ => some reservation

end Promotion

namespace WaitingListEntry

variable (entry : WaitingListEntry)

def allocation : AllocateTableInput :=
  { restaurantId := entry.restaurantId
    partySize := entry.partySize
    startsAt := entry.slotStart
    endsAt := entry.slotEnd
    preferredSectionId := entry.preferredSectionId
    excludeTableIds := []
    excludeReservationId := none }

/-- The confirmed reservation of a promoted entry. -/
def reservation (newReservationId tableId : Id) (reservedAt createdAt : Instant) : Reservation where
  id := newReservationId
  restaurantId := entry.restaurantId
  isTest := false
  state := .CONFIRMED
  partySize := entry.partySize
  tableId := some tableId
  startsAt := some entry.slotStart
  endsAt := some entry.slotEnd
  reservedAt
  createdAt
  consumedHoldId := none

end WaitingListEntry

section

variable [Icu] [Postgres]

/-- Find a table for a pending entry, under the lock of its row. -/
def planPromotionOf (newReservationId : Id) (transactionStart : Instant) (entry : WaitingListEntry)
    : WaitingProg (Except WaitingFailure Promotion) := do
  let now ← waitingClock
  if entry.status ≠ .PENDING ∨ entry.expiresAt ≤ now then pure (.ok .nothing)
  else
    let table ← bookingPortion.within (allocate call transactionStart entry.allocation)
    match table with
    | none => pure (.ok .nothing)
    | some table =>
      let reservedAt ← waitingClock
      let promotedAt ← waitingClock
      pure (.ok (.create entry
        (entry.reservation newReservationId table.id reservedAt transactionStart) promotedAt))

def planPromotion (entryId newReservationId : Id) :
    WaitingProg (Except WaitingFailure Promotion) := do
  let transactionStart ← waitingClock
  acquire call (.entry entryId)
  let entry ← query fun data _ => data.entryById? entryId
  match entry with
  | none => pure (.ok .nothing)
  | some entry =>
    match if entry.status = .PROMOTED then truthy entry.promotedReservationId else none with
    | some reservationId =>
      let existing ← query fun data _ =>
        data.booking.reservations.find? fun row => row.id == reservationId
      pure (.ok (match existing with
        | some reservation => .replay reservation
        | none => .nothing))
    | none => planPromotionOf call newReservationId transactionStart entry

/-- The identifier of the reservation is generated by the call. -/
def promoteEntry (entryId newReservationId : Id) :
    WaitingProg (Except WaitingFailure (Option Reservation)) :=
  transact call (planPromotion call entryId newReservationId) WaitingData.violation?
    (fun plan _ _ => plan.result) Promotion.writes

end

end Sokar
