import Sokar.Booking.SelfService
import Sokar.FloorPlan.AvailabilityCache
import Sokar.Library.QuietPrograms

/-!
# Modifications of a reservation

A personal link offers changes of its reservation and confirms one of them; the staff, and agents,
change it directly or move it from one state to the next.  Every change of a reservation writes to
its audit trail, under the lock on its row.

Which proposals were made, and in what order with the changes, is kept beside the tables.
-/

namespace Sokar

open Process Transaction

/-- The columns of the settings of a restaurant for bookings online. -/
structure OnlineSettings where
  maxPartySize : Int
  minLeadTimeMinutes : Int
  requireManualValidation : Bool
  deriving DecidableEq

/-- A payment policy, as far as the self-service looks at it. -/
structure FinancialPolicy where
  restaurantId : Id
  activeFrom : Instant
  activeUntil : Option Instant
  deriving DecidableEq

def ReservationState.text : ReservationState → String
  | .PENDING => "PENDING"
  | .CONFIRMED => "CONFIRMED"
  | .SEATED => "SEATED"
  | .HONORED => "HONORED"
  | .CANCELLED => "CANCELLED"
  | .NO_SHOW => "NO_SHOW"
  | .FAILED => "FAILED"
  | .EXPIRED => "EXPIRED"

def DEFAULT_MAX_PARTY_SIZE : Int := 7

def DEFAULT_ONLINE_MIN_LEAD_TIME_MINUTES : Int := 30

def PERSONAL_LINK : String := "customer:personal-link"

def FIELDS_CHANGED : String := "reservation_fields_changed"

section

variable [SelfServiceEnv]

/-- A row of the audit trail of a reservation. -/
structure AuditEntry where
  reservationId : Id
  event : String
  actor : String
  fromState : ReservationState
  toState : ReservationState
  source : Option String
  proposalDigest : Option SelfServiceEnv.Digest
  changedFields : List String
  deriving DecidableEq

/-- The proposals made for a reservation at one time, or a change of it with the proposal that was
confirmed. -/
inductive ModificationEvent where
  | offered (reservationId : Id) (tokens : List (ProposalToken SelfServiceEnv.Digest))
  | changed (reservationId : Id) (token : Option (ProposalToken SelfServiceEnv.Digest))
  deriving DecidableEq

/-- The tables, and beside them what was offered and changed so far, the newest first. -/
structure ModificationData where
  bookings : Database
  details : Id → ReservationDetails
  online : Id → OnlineSettings
  financialPolicies : List FinancialPolicy
  audits : List AuditEntry
  history : List ModificationEvent

abbrev ModificationStore := Store ModificationData BookingLock SessionId

abbrev ModificationProg := Prog ModificationStore

/-- The tables that the floor plan, the holds and the reservations use. -/
def modificationPortion : Portion ModificationData BookingLock Database BookingLock where
  get := ModificationData.bookings
  put bookings data := { data with bookings }
  lock := id
  unlock := some
  put_get _ := rfl
  lock_of_unlock same := (Option.some.inj same).symm

namespace ModificationData

variable (data : ModificationData)

variable (reservationId : Id)

def row? : Option Reservation :=
  data.bookings.reservations.find? fun row => row.id == reservationId

def managed? : Option ManagedRow :=
  (data.row? reservationId).map fun row =>
    { toReservation := row, toReservationDetails := data.details reservationId }

def managedOf? (restaurantId reservationId : Id) : Option ManagedRow :=
  (data.managed? reservationId).filter fun row => row.restaurantId == restaurantId

def trail : List AuditEntry :=
  data.audits.filter fun entry => entry.reservationId == reservationId

def auditCount : Nat :=
  (data.trail reservationId).length

def settings? (restaurantId : Id) : Option (OnlineSettings × Json) :=
  (data.bookings.capacitySpecials? restaurantId).map fun capacitySpecials =>
    (data.online restaurantId, capacitySpecials)

/-- A payment policy of the restaurant that starts by an instant and has not ended. -/
def hasFinancialPolicy (restaurantId : Id) (startsBy now : Instant) : Bool :=
  data.financialPolicies.any fun policy =>
    policy.restaurantId == restaurantId && decide (policy.activeFrom ≤ startsBy) &&
      policy.activeUntil.all fun activeUntil => decide (now < activeUntil)

/-- The proposal was confirmed and changed the reservation. -/
def isApplied (proposalDigest : SelfServiceEnv.Digest) : Bool :=
  data.audits.any fun entry =>
    entry.reservationId == reservationId && entry.actor == PERSONAL_LINK &&
      entry.event == FIELDS_CHANGED && entry.proposalDigest == some proposalDigest

/-- The writes of a change of a reservation: its row, an entry in its audit trail, and the event. -/
def changed (update : Reservation → Reservation) (entry : AuditEntry)
    (token : Option (ProposalToken SelfServiceEnv.Digest)) : ModificationData :=
  { data with
    bookings := data.bookings.updateReservation entry.reservationId update
    audits := data.audits ++ [entry]
    history := .changed entry.reservationId token :: data.history }

end ModificationData

inductive ModificationError where
  | ModificationConflict (message : String)
  | ReservationModificationNotAllowed
  | booking (error : BookingError)
  deriving DecidableEq

/-- `$transaction`, whose writes a constraint of the booking tables may refuse. -/
def modificationRefusal (data : ModificationData) : Option ModificationError :=
  (violation? data.bookings).map fun violation => .booking (.constraint violation)

def modificationTime : ModificationProg Instant :=
  query fun _ now => now

end

def CONTACT : String :=
  "Pour modifier cette réservation, veuillez contacter le restaurant."

variable (args : OfferArgs)

variable (row : ManagedRow)

variable (requestedDate : Option LocalDate)

variable (restaurant : Restaurant)

section

variable [Icu] [SelfServiceEnv]

structure ModificationAccess where
  available : Bool
  maxDate : LocalDate
  message : String
  deriving DecidableEq

def modificationAccess (timezone : String) (manualValidation : Bool) (now : Instant) :
    ModificationAccess :=
  let conditions := reservationSelfServiceConditions row timezone now
  let available := SelfServiceEnv.selfModificationEnabled && conditions.available &&
    (truthy row.tableId).isSome && !manualValidation
  { available
    maxDate := (utcToZonedParts (min (now + 89 * DAY) (row.createdAt + 89 * DAY)) timezone).date
    message :=
      if available then
        "Votre réservation actuelle reste conservée jusqu’à la confirmation du nouveau choix."
      else CONTACT }

/-- What a change is checked against. -/
structure ModificationContext where
  restaurant : Restaurant
  maxPartySize : Int
  minLeadTimeMinutes : Int
  duration : ℚ
  settingsHash : SelfServiceEnv.Digest
  deriving DecidableEq

def OpeningPeriod.json (period : OpeningPeriod) : Json :=
  .obj <| [("dayIndex", .ofCount period.dayIndex), ("opens", .str period.opens),
    ("closes", .str period.closes)] ++
      (period.lastBooking.map fun last => ("lastBooking", Json.ofOption .str last)).toList

/-- `settingsHash`. -/
def digestSettings (settings : Option (OnlineSettings × Json)) : SelfServiceEnv.Digest :=
  let column := fun json : OnlineSettings → Json =>
    Json.ofOption (fun settings => json settings.1) settings
  SelfServiceEnv.digest <| .arr
    [.str restaurant.timezone, .arr (restaurant.openingHours.map OpeningPeriod.json),
      column fun online => .num online.maxPartySize,
      column fun online => .num online.minLeadTimeMinutes,
      column fun online => .bool online.requireManualValidation,
      Json.ofOption (fun settings => settings.2) settings]

def ModificationContext.of (settings : Option (OnlineSettings × Json)) : ModificationContext where
  restaurant
  maxPartySize := min 50 ((settings.map (·.1.maxPartySize)).getD DEFAULT_MAX_PARTY_SIZE)
  minLeadTimeMinutes :=
    (settings.map (·.1.minLeadTimeMinutes)).getD DEFAULT_ONLINE_MIN_LEAD_TIME_MINUTES
  duration := resolveServiceDurationMinutes (settings.map (·.2))
  settingsHash := digestSettings restaurant settings

/-- The latest start of a payment policy that keeps a change from being made online: until a day
after the date asked for, if there is one. -/
def policyHorizon (now : Instant) : Instant :=
  match requestedDate with
  | some date => max now (date * msPerDay + (DAY - 1000) + DAY)
  | none => now

/-- Whether the settings leave the row to self-service. -/
def selfModifiable (settings : Option (OnlineSettings × Json)) (now : Instant) : Bool :=
  (modificationAccess row restaurant.timezone false now).available &&
    (truthy row.tableId).isSome && !settings.any fun settings => settings.1.requireManualValidation

/-- `context`. -/
def modificationContext : ModificationProg (Except ModificationError ModificationContext) := do
  let (found, now) ← query fun data now =>
    ((data.bookings.restaurant? row.restaurantId).map fun restaurant =>
      (restaurant, data.settings? row.restaurantId), now)
  match found with
  | none => pure (.error (.booking .RecordNotFound))
  | some (restaurant, settings) =>
    if !selfModifiable row restaurant settings now then
      pure (.error (.ModificationConflict CONTACT))
    else
      let financialPolicy ← query fun data _ =>
        data.hasFinancialPolicy row.restaurantId (policyHorizon requestedDate now) now
      if financialPolicy then pure (.error (.ModificationConflict CONTACT))
      else pure (.ok (.of restaurant settings))

/-- `validateModificationDate`: the date of the reservation itself is always accessible. -/
def validModificationDate (date : LocalDate) (row : ManagedRow) (timezone : String)
    (now : Instant) : Bool :=
  let originalDate := (utcToZonedParts row.begins timezone).date
  let today := (utcToZonedParts now timezone).date
  date == originalDate ||
    decide (today ≤ date) && decide (date ≤ today + 89) &&
      decide (zonedTimeToUtc date { hour := 23, minute := 59 } timezone < row.createdAt + 90 * DAY)

def DATE_OUT_OF_REACH : String :=
  "Cette date n’est pas accessible en ligne avec ce lien. Votre réservation actuelle est conservée."

/-- The availability for a change: on the default floor, with the reservation itself left out. -/
def modificationAvailabilityInput (date : LocalDate) (partySize : Int) (minLeadTimeMinutes : Int)
    (inTransaction : Bool) : GetAvailabilityInput where
  restaurantId := row.restaurantId
  date
  partySize
  preferredSectionId := none
  now := none
  excludeReservationId := some row.id
  defaultFloorOnly := true
  allowWithoutTables := false
  includePast := false
  minLeadTimeMinutes
  inTransaction

/-- `getAvailability`, which neither reads nor fills its cache for a change. -/
def modificationAvailability (input : GetAvailabilityInput) :
    ModificationProg MarkedAvailability := do
  let now ← modificationTime
  let empty := (emptyAvailability (input.args now)).unmarked
  let found ← query fun data _ =>
    (data.bookings.restaurant? input.restaurantId).map fun restaurant =>
      (restaurant, data.bookings.capacitySpecials? input.restaurantId)
  match found with
  | none => pure empty
  | some (restaurant, capacitySpecials) =>
    if (slotsOfDay restaurant.openingHours input.date).isEmpty then pure empty
    else
      let tables ← query fun data _ =>
        loadSeatingTables data.bookings input.restaurantId input.defaultFloorOnly
      let items ← query fun data now =>
        loadSeatingItems data.bookings (input.loadArgs restaurant capacitySpecials now)
      pure (input.mark
        { timeZone := restaurant.timezone
          dto := input.compute restaurant capacitySpecials tables items false } now)

/-- `revision`: the version of a row, with the number of entries in its audit trail. -/
def revision (auditCount : Nat) : SelfServiceEnv.Digest :=
  SelfServiceEnv.digest <| .arr
    [.str row.id, .str row.restaurantId, .ofInstant row.createdAt, .str row.state.text,
      .ofInstant row.reservedAt, .ofOption .ofInstant row.startsAt, .ofOption .ofInstant row.endsAt,
      .num row.partySize, .ofOption .str row.tableId, row.cancellationPolicySnap.getD .null,
      row.giftCardRedemptionSnap.getD .null, row.relations.json, .ofCount auditCount]

/-- `encode`. -/
def Proposal.encode (proposal : Proposal SelfServiceEnv.Digest) (bearer : ManagementLink) :
    ProposalToken SelfServiceEnv.Digest where
  proposal
  signature := SelfServiceEnv.mac proposal bearer

/-- `decode`: the token is signed for the bearer, and well formed. -/
def ProposalToken.decode (token : ProposalToken SelfServiceEnv.Digest) (bearer : ManagementLink) :
    Except ModificationError (Proposal SelfServiceEnv.Digest) :=
  let proposal := token.proposal
  if token.signature = SelfServiceEnv.mac proposal bearer ∧
      (1 ≤ proposal.partySize ∧ proposal.partySize ≤ 50) ∧ 0 < proposal.expires then .ok proposal
  else .error (.ModificationConflict "Proposition invalide.")

def ManagedRow.movedTo (startsAt : Instant) : ManagedRow :=
  { row with startsAt := some startsAt, reservedAt := startsAt }

structure ModificationSlot where
  time : String
  proposalToken : ProposalToken SelfServiceEnv.Digest
  deriving DecidableEq

structure ModificationOptions where
  date : LocalDate
  partySize : Int
  maxPartySize : Int
  slots : List ModificationSlot
  message : String
  deriving DecidableEq

structure OfferArgs where
  row : ManagedRow
  bearer : ManagementLink
  date : LocalDate
  partySize : Int

/-- The proposal for a slot, within the conditions of self-service at its time.  The row has met
them with its own time, so that it has a deadline. -/
def OfferArgs.proposal? (ctx : ModificationContext) (auditCount : Nat) (now : Instant)
    (time : String) : Option (Proposal SelfServiceEnv.Digest) :=
  let timezone := ctx.restaurant.timezone
  let startsAt := zonedTimeToUtc args.date (clockTime time) timezone
  let terms := reservationSelfServiceConditions (args.row.movedTo startsAt) timezone now
  let current := reservationSelfServiceConditions args.row timezone now
  if terms.available then
    terms.deadline.map fun deadline =>
      { revision := revision args.row auditCount
        settings := ctx.settingsHash
        date := args.date
        time
        partySize := args.partySize
        startsAt
        endsAt := addMinutes startsAt ctx.duration
        expires := min (now + 600000) (min deadline (current.deadline.getD deadline)) / 1000 }
  else none

def OfferArgs.slots (args : OfferArgs) (ctx : ModificationContext)
    (availability : MarkedAvailability) (auditCount : Nat) (now : Instant) :
    List ModificationSlot :=
  (availability.slots.filter (·.available)).filterMap fun slot =>
    (args.proposal? ctx auditCount now slot.time).map fun proposal =>
      { time := slot.time, proposalToken := proposal.encode args.bearer }

def OfferArgs.options (ctx : ModificationContext) (slots : List ModificationSlot) (message : String)
    : ModificationOptions where
  date := args.date
  partySize := args.partySize
  maxPartySize := ctx.maxPartySize
  slots
  message

/-- The last read, of the audit trail, and the proposals made from it. -/
def OfferArgs.offer (session : SessionId) (ctx : ModificationContext)
    (availability : MarkedAvailability) :
    ModificationProg (Except ModificationError ModificationOptions) :=
  let slots := fun (data : ModificationData) now =>
    args.slots ctx availability (data.auditCount args.row.id) now
  commit session
    (fun data now => .ok <| args.options ctx (slots data now) <|
      if (slots data now).isEmpty then
        "Aucun autre créneau disponible pour ce nombre de personnes. Votre réservation actuelle est conservée."
      else "Choisissez un nouveau créneau. Votre réservation actuelle est conservée.")
    fun data now => { data with
      history := .offered args.row.id ((slots data now).map (·.proposalToken)) :: data.history }

def tooManyGuests (maxPartySize : Int) : String :=
  s!"Ce restaurant accepte jusqu’à {maxPartySize} personnes en ligne. Votre réservation actuelle est conservée."

/-- `modificationOptions`, for a row that was read before. -/
def modificationOptions (session : SessionId) (row : ManagedRow) (bearer : ManagementLink)
    (partySize : Int) (requestedDate : Option LocalDate) :
    ModificationProg (Except ModificationError ModificationOptions) :=
  (modificationContext row requestedDate).andThen fun ctx => do
    let now ← modificationTime
    let timezone := ctx.restaurant.timezone
    let date := requestedDate.getD (utcToZonedParts row.begins timezone).date
    let args : OfferArgs := { row, bearer, date, partySize }
    if !validModificationDate date row timezone now then
      pure (.error (.ModificationConflict DATE_OUT_OF_REACH))
    else if ctx.maxPartySize < partySize then
      pure (.ok (args.options ctx [] (tooManyGuests ctx.maxPartySize)))
    else
      let availability ← modificationAvailability
        (modificationAvailabilityInput row date partySize ctx.minLeadTimeMinutes false)
      args.offer session ctx availability

end

end Sokar
