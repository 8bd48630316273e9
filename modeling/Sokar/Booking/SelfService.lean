import Sokar.Shared.IsoDates
import Sokar.Shared.JsonText
import Sokar.Booking.ReservationOperations

/-!
# Self-service of reservations

A personal link is bound to one reservation.  Whether its bearer may cancel or move the
reservation without the restaurant depends on its state, the policy it was made under and what
else hangs on it.
-/

namespace Sokar

/-! ## Values to digest -/

namespace JsonEquality

/-! Equality of JSON values, so that digests that are the values themselves can be compared. -/

mutual

def sameValue : Json → Json → Bool
  | .null, .null => true
  | .bool left, .bool right => left == right
  | .num left, .num right => left == right
  | .str left, .str right => left == right
  | .arr left, .arr right => sameElements left right
  | .obj left, .obj right => sameFields left right
  | _, _ => false

def sameElements : List Json → List Json → Bool
  | [], [] => true
  | left :: lefts, right :: rights => sameValue left right && sameElements lefts rights
  | _, _ => false

def sameFields : List (String × Json) → List (String × Json) → Bool
  | [], [] => true
  | left :: lefts, right :: rights => sameField left right && sameFields lefts rights
  | _, _ => false

def sameField : String × Json → String × Json → Bool
  | (leftName, left), (rightName, right) => leftName == rightName && sameValue left right

end

mutual

theorem sameValue_iff : ∀ left right : Json, sameValue left right = true ↔ left = right
  | .null, right => by cases right <;> simp [sameValue]
  | .bool left, right => by cases right <;> simp [sameValue]
  | .num left, right => by cases right <;> simp [sameValue]
  | .str left, right => by cases right <;> simp [sameValue]
  | .arr left, right => by cases right <;> simp [sameValue, sameElements_iff left]
  | .obj left, right => by cases right <;> simp [sameValue, sameFields_iff left]

theorem sameElements_iff : ∀ left right : List Json, sameElements left right = true ↔ left = right
  | [], right => by cases right <;> simp [sameElements]
  | left :: lefts, right => by
      cases right <;> simp [sameElements, sameValue_iff left, sameElements_iff lefts]

theorem sameFields_iff :
    ∀ left right : List (String × Json), sameFields left right = true ↔ left = right
  | [], right => by cases right <;> simp [sameFields]
  | left :: lefts, right => by
      cases right <;> simp [sameFields, sameField_iff left, sameFields_iff lefts]

theorem sameField_iff : ∀ left right : String × Json, sameField left right = true ↔ left = right
  | (leftName, left), (rightName, right) => by simp [sameField, sameValue_iff left]

end

end JsonEquality

instance : DecidableEq Json :=
  fun left right => decidable_of_iff _ (JsonEquality.sameValue_iff left right)

namespace Json

def ofInstant (instant : Instant) : Json :=
  .str (toISOString instant)

def ofOption {α : Type} (json : α → Json) : Option α → Json
  | none => .null
  | some value => json value

def ofCount (count : Nat) : Json :=
  .num count

end Json

/-- `_count`, in the order of `cancellationRelations`. -/
structure RelationCounts where
  reservationPayments : Nat
  giftCardRedemptions : Nat
  experienceReservations : Nat
  eventOrders : Nat
  distributionReservationLinks : Nat
  deriving DecidableEq

def RelationCounts.values (count : RelationCounts) : List Nat :=
  [count.reservationPayments, count.giftCardRedemptions, count.experienceReservations,
    count.eventOrders, count.distributionReservationLinks]

def RelationCounts.json (count : RelationCounts) : Json :=
  .obj [("reservationPayments", .ofCount count.reservationPayments),
    ("giftCardRedemptions", .ofCount count.giftCardRedemptions),
    ("experienceReservations", .ofCount count.experienceReservations),
    ("eventOrders", .ofCount count.eventOrders),
    ("distributionReservationLinks", .ofCount count.distributionReservationLinks)]

/-- The columns of a reservation that the floor plan does not read, and what hangs on it. -/
structure ReservationDetails where
  customerName : String
  customerPhone : Option String
  specialRequests : Option String
  createdByClient : Option String
  cancellationPolicySnap : Option Json
  giftCardRedemptionSnap : Option Json
  relations : RelationCounts
  deriving DecidableEq

structure ManagedRow extends Reservation, ReservationDetails
  deriving DecidableEq

/-- `startsAt ?? reservedAt`. -/
def Reservation.begins (row : Reservation) : Instant :=
  row.startsAt.getD row.reservedAt

/-- The parts of a bearer token; `expires` is in seconds. -/
structure ManagementLink where
  id : Id
  expires : Nat
  signature : String
  deriving DecidableEq

/-- A change offered to the bearer of a link, for one version of the reservation and of the
settings; `expires` is in seconds. -/
structure Proposal (Digest : Type) where
  revision : Digest
  settings : Digest
  date : LocalDate
  time : String
  partySize : Int
  startsAt : Instant
  endsAt : Instant
  expires : Int
  deriving DecidableEq

structure ProposalToken (Digest : Type) where
  proposal : Proposal Digest
  signature : String
  deriving DecidableEq

/-- What the service finds in its environment.  Digests are of the JSON texts of values, and of
tokens; a signature needs the secret. -/
class SelfServiceEnv where
  Digest : Type
  decidableDigest : DecidableEq Digest
  digest : Json → Digest
  digestToken : ProposalToken Digest → Digest
  /-- The HMAC of a link: of its payload, and of the tenant, the creation and the telephone of the
  reservation. -/
  sign : Id → Nat → Id → Instant → String → Option String
  mac : Proposal Digest → ManagementLink → String
  /-- `RESERVATION_SELF_MODIFICATION_ENABLED`. -/
  selfModificationEnabled : Bool
  longDateTime : Instant → String → String

instance [SelfServiceEnv] : DecidableEq SelfServiceEnv.Digest :=
  SelfServiceEnv.decidableDigest

def DAY : Int := 86400000

/-- The signature is that of the row, and the link has not run out: never later than 90 days after
the creation, and no sooner than a week after the booked time. -/
def verifyReservationManagementToken [SelfServiceEnv] (link : ManagementLink) (row : ManagedRow)
    (now : Instant) : Bool :=
  link.id == row.id &&
    decide (now <
      min (row.createdAt + 90 * DAY) (max (link.expires * 1000) (row.reservedAt + 7 * DAY))) &&
    SelfServiceEnv.sign link.id link.expires row.restaurantId row.createdAt
      (row.customerPhone.getD "") == some link.signature

inductive SelfService where
  | free_before_deadline | contact
  deriving DecidableEq

structure CancellationPolicy where
  freeUntilMinutesBefore : Int
  feeAmount : Option ℚ
  feeCurrency : Option String
  version : String
  selfService : SelfService
  terms : String
  deriving DecidableEq

namespace CancellationPolicy

def fields : List String :=
  ["freeUntilMinutesBefore", "feeAmount", "feeCurrency", "version", "source", "selfService", "terms"]

/-- A string of at least `low` and at most `high` UTF-16 units. -/
def text (low high : Nat) : Json → Option String
  | .str value => if low ≤ utf16Length value ∧ utf16Length value ≤ high then some value else none
  | _ => none

def minutes : Json → Option Int
  | .num value => if value.den = 1 ∧ 0 ≤ value.num ∧ value.num ≤ 525600 then some value.num else none
  | _ => none

def amount : Json → Option ℚ
  | .num value => if 0 ≤ value then some value else none
  | _ => none

def selfServiceOf : Json → Option SelfService
  | .str "free_before_deadline" => some .free_before_deadline
  | .str "contact" => some .contact
  | _ => none

def optional {α : Type} (check : Json → Option α) : Option Json → Option (Option α)
  | none => some none
  | some value => (check value).map some

end CancellationPolicy

open CancellationPolicy in
/-- A strict object: no other fields. -/
def policySchema : Json → Option CancellationPolicy
  | .obj entries => do
      let value := Json.obj entries
      if entries.any fun entry => !fields.contains entry.1 then none
      let freeUntilMinutesBefore ← (value.field? "freeUntilMinutesBefore").bind minutes
      let feeAmount ← optional amount (value.field? "feeAmount")
      let feeCurrency ← optional (text 0 10) (value.field? "feeCurrency")
      let version ← (value.field? "version").bind (text 1 200)
      if value.field? "source" ≠ some (.str "onboarding-v1") then none
      let selfService ← (value.field? "selfService").bind selfServiceOf
      let terms ← (value.field? "terms").bind (text 1 280)
      pure { freeUntilMinutesBefore, feeAmount, feeCurrency, version, selfService, terms }
  | _ => none

structure CancellationOffer where
  available : Bool
  deadline : Option Instant
  message : String
  terms : Option String
  deriving DecidableEq

section

variable [SelfServiceEnv]

def reservationSelfServiceConditions (row : ManagedRow) (timezone : String) (now : Instant) :
    CancellationOffer :=
  let policy := row.cancellationPolicySnap.bind policySchema
  let terms := policy.map (·.terms)
  let unavailable := fun message deadline =>
    ({ available := false, deadline, message, terms } : CancellationOffer)
  if row.state = .CANCELLED then unavailable "Votre réservation est annulée." none
  else if row.state ≠ .CONFIRMED ∧ row.state ≠ .PENDING then
    unavailable "Pour cette réservation, veuillez contacter le restaurant." none
  else if row.relations.values.any (0 < ·) || row.giftCardRedemptionSnap.isSome then
    unavailable "Les conditions particulières de cette réservation doivent être traitées avec le restaurant."
      none
  else
    match policy.filter fun policy =>
        policy.selfService == .free_before_deadline && decide (policy.feeAmount.getD 0 ≤ 0) with
    | none =>
      unavailable "Pour connaître et appliquer les conditions d’annulation de cette réservation, veuillez contacter le restaurant."
        none
    | some policy =>
      let cutoff := row.begins - policy.freeUntilMinutesBefore * msPerMinute
      if cutoff ≤ now then
        unavailable "Le délai d’annulation en ligne est dépassé. Veuillez contacter le restaurant."
          (some cutoff)
      else
        { available := true
          deadline := some cutoff
          message := "Annulation gratuite possible jusqu’au " ++
            SelfServiceEnv.longDateTime cutoff timezone ++
            ". Après cette limite, veuillez contacter le restaurant."
          terms }

end

end Sokar
