import Mathlib.Data.List.Sort
import Sokar.Library.GuardedData
import Sokar.Library.KeyedRows
import Sokar.Shared.Inputs
import Sokar.Shared.ReservationStates

/-!
# Loyalty benefits and their grants

`loyalty.service`, statement by statement: a grant of a benefit is issued to a customer under
a limit, and then redeemed, voided or expired; the benefit itself may be changed.  The names
and the telephone shown with a grant are left out.
-/

namespace Sokar

open Process Transaction

inductive LoyaltyBenefitRule where
  | ANY | VIP | MIN_VISITS | BIRTHDAY_MONTH | MIN_ESTIMATED_SPEND
  deriving DecidableEq

inductive LoyaltyBenefitStatus where
  | ACTIVE | INACTIVE
  deriving DecidableEq

inductive LoyaltyGrantStatus where
  | ISSUED | REDEEMED | VOID | EXPIRED
  deriving DecidableEq

structure LoyaltyBenefit where
  id : Id
  restaurantId : Id
  key : String
  name : String
  description : Option String
  rule : LoyaltyBenefitRule
  ruleValue : Option Nat
  costCents : Option Nat
  currency : String
  validityDays : Nat
  maxUsesPerCustomer : Nat
  status : LoyaltyBenefitStatus
  deriving DecidableEq

structure LoyaltyGrant where
  id : Id
  restaurantId : Id
  benefitId : Id
  customerId : Id
  reservationId : Option Id
  idempotencyKey : Option String
  codeHash : String
  status : LoyaltyGrantStatus
  issuedAt : Instant
  expiresAt : Instant
  redeemedAt : Option Instant
  voidedAt : Option Instant
  redemptionNote : Option String
  issuedByHash : String
  redeemedByHash : Option String
  deriving DecidableEq

/-- The columns of a customer that decide whether a benefit is due. -/
structure LoyaltyCustomer where
  id : Id
  restaurantId : Id
  archivedAt : Option Instant
  mergedIntoId : Option Id
  isVip : Bool
  birthMonth : Option Nat
  estimatedSpend365d : Option ℚ
  deriving DecidableEq

/-- The columns of a reservation that its customer's visits are read from. -/
structure VisitReservation where
  id : Id
  restaurantId : Id
  customerId : Option Id
  state : ReservationState
  status : ReservationStatus
  startsAt : Option Instant
  reservedAt : Instant
  deriving DecidableEq

structure LoyaltyData where
  benefits : List LoyaltyBenefit
  grants : List LoyaltyGrant
  customers : List LoyaltyCustomer
  reservations : List VisitReservation
  deriving DecidableEq

/-- The advisory lock of a customer and a benefit. -/
inductive LoyaltyLock where
  | uses (restaurantId benefitId customerId : Id)
  deriving DecidableEq

inductive LoyaltyInputCode where
  | LOYALTY_BENEFIT_NAME_INVALID | LOYALTY_BENEFIT_DESCRIPTION_INVALID
  | LOYALTY_BENEFIT_RULE_VALUE_INVALID | LOYALTY_BENEFIT_COST_INVALID
  | LOYALTY_BENEFIT_CURRENCY_INVALID | LOYALTY_BENEFIT_VALIDITY_INVALID
  | LOYALTY_BENEFIT_MAX_USES_INVALID | LOYALTY_GRANT_CODE_INVALID | LOYALTY_GRANT_NOTE_INVALID
  | LOYALTY_IDEMPOTENCY_INVALID
  deriving DecidableEq

inductive LoyaltyGrantConflictCode where
  | LOYALTY_GRANT_LIMIT_REACHED | LOYALTY_RESERVATION_INVALID
  deriving DecidableEq

inductive LoyaltyGrantStateCode where
  | LOYALTY_GRANT_ALREADY_REDEEMED | LOYALTY_GRANT_VOID | LOYALTY_GRANT_EXPIRED
  | LOYALTY_GRANT_REDEMPTION_CONFLICT
  deriving DecidableEq

/-- The errors of the service, and those of the constraints of the tables. -/
inductive LoyaltyFailure where
  | LoyaltyInputError (code : LoyaltyInputCode) (message : String)
  | LoyaltyBenefitNotFoundError
  | LoyaltyCustomerNotFoundError
  | LoyaltyGrantNotFoundError
  | LoyaltyGrantConflictError (code : LoyaltyGrantConflictCode)
  | LoyaltyNotEligibleError (reason : String)
  | LoyaltyGrantStateError (code : LoyaltyGrantStateCode)
  | P2002
  | checkViolation
  deriving DecidableEq

abbrev LoyaltyCallId := Nat

abbrev LoyaltyStore := Store LoyaltyData LoyaltyLock LoyaltyCallId

abbrev LoyaltyProg := Prog LoyaltyStore

namespace LoyaltyBenefit

variable (benefit : LoyaltyBenefit)

def ruleChecks : Bool :=
  match benefit.rule, benefit.ruleValue with
  | .MIN_VISITS, some value => decide (1 ≤ value ∧ value ≤ 1000)
  | .MIN_ESTIMATED_SPEND, some value => decide (1 ≤ value ∧ value ≤ 5000000)
  | .MIN_VISITS, none => false
  | .MIN_ESTIMATED_SPEND, none => false
  | _, value => value.isNone

def checks : Bool :=
  (benefit.costCents.all fun cost => decide (cost ≤ 1000000)) &&
    decide (1 ≤ benefit.validityDays ∧ benefit.validityDays ≤ 365) &&
    decide (1 ≤ benefit.maxUsesPerCustomer ∧ benefit.maxUsesPerCustomer ≤ 100) &&
    benefit.currency == "EUR" && benefit.ruleChecks

end LoyaltyBenefit

namespace LoyaltyGrant

variable (grant : LoyaltyGrant)

/-- Issued or redeemed, so that it counts against the limit. -/
def isUsed : Bool :=
  grant.status == .ISSUED || grant.status == .REDEEMED

def expired : LoyaltyGrant :=
  { grant with status := .EXPIRED }

/-- An undefined note leaves the column as it is. -/
def voided (now : Instant) (note : Option (Option String)) (actorHash : String) : LoyaltyGrant :=
  { grant with
    status := .VOID
    voidedAt := some now
    redemptionNote := note.getD grant.redemptionNote
    redeemedByHash := some actorHash }

/-- So does an undefined reservation. -/
def redeemed (now : Instant) (actorHash : String) (reservationId : Option Id)
    (note : Option (Option String)) : LoyaltyGrant :=
  { grant with
    status := .REDEEMED
    redeemedAt := some now
    redeemedByHash := some actorHash
    reservationId := reservationId.or grant.reservationId
    redemptionNote := note.getD grant.redemptionNote }

end LoyaltyGrant

namespace LoyaltyData

variable (data : LoyaltyData)

def benefit? (benefitId : Id) : Option LoyaltyBenefit :=
  KeyedRows.lookup (·.id) data.benefits benefitId

def benefitOf? (restaurantId benefitId : Id) : Option LoyaltyBenefit :=
  (data.benefit? benefitId).filter fun benefit => benefit.restaurantId == restaurantId

def grant? (grantId : Id) : Option LoyaltyGrant :=
  KeyedRows.lookup (·.id) data.grants grantId

def grantOf? (restaurantId grantId : Id) : Option LoyaltyGrant :=
  (data.grant? grantId).filter fun grant => grant.restaurantId == restaurantId

/-- `findGrantByIdempotency`. -/
def grantByIdempotency? (idempotencyKey : Option String) : Option LoyaltyGrant :=
  match idempotencyKey with
  | none => none
  | some key => data.grants.find? fun grant => grant.idempotencyKey == some key

/-- The customer, neither archived nor merged. -/
def customerOf? (restaurantId customerId : Id) : Option LoyaltyCustomer :=
  data.customers.find? fun customer =>
    customer.id == customerId && customer.restaurantId == restaurantId &&
      customer.archivedAt.isNone && customer.mergedIntoId.isNone

/-- The grants of a benefit that count against the limit of a customer. -/
def used (restaurantId benefitId customerId : Id) : Nat :=
  data.grants.countP fun grant =>
    grant.restaurantId == restaurantId && grant.benefitId == benefitId &&
      grant.customerId == customerId && grant.isUsed

def updateGrants (selected : LoyaltyGrant → Bool) (change : LoyaltyGrant → LoyaltyGrant) :
    LoyaltyData :=
  { data with grants := KeyedRows.update selected change data.grants }

def updateBenefit (benefitId : Id) (change : LoyaltyBenefit → LoyaltyBenefit) : LoyaltyData :=
  { data with
    benefits := KeyedRows.update (fun benefit => benefit.id == benefitId) change data.benefits }

def insertGrant (grant : LoyaltyGrant) : LoyaltyData :=
  { data with grants := data.grants ++ [grant] }

def keysUnique : Bool :=
  decide (data.benefits.map (·.id)).Nodup &&
    decide (data.benefits.map fun benefit => (benefit.restaurantId, benefit.key)).Nodup &&
    decide (data.grants.map (·.id)).Nodup &&
    decide (data.grants.filterMap (·.idempotencyKey)).Nodup &&
    decide (data.grants.map (·.codeHash)).Nodup

def violation? : Option LoyaltyFailure :=
  if !data.keysUnique then some .P2002
  else if !(data.benefits.all (·.checks) && data.grants.all fun grant =>
      grant.redemptionNote.all fun note => decide (note.length ≤ 1000)) then some .checkViolation
  else none

end LoyaltyData

def normalizeLoyaltyIdempotencyKey (value : Option String) :
    Except LoyaltyFailure (Option String) :=
  normalizeIdempotencyKey value (.LoyaltyInputError .LOYALTY_IDEMPOTENCY_INVALID)

def normalizeBenefitName (value : String) : Except LoyaltyFailure String :=
  let name := collapseSpaces value
  if name.isEmpty || 120 < utf16Length name || hasControlChar name then
    .error (.LoyaltyInputError .LOYALTY_BENEFIT_NAME_INVALID
      "Le nom de l’avantage doit contenir entre 1 et 120 caractères sûrs.")
  else .ok name

/-- A text of at most 1000 characters, null when it is empty. -/
def normalizeFreeText (failure : LoyaltyFailure) (value : Option String) :
    Except LoyaltyFailure (Option String) :=
  match value with
  | none => .ok none
  | some value =>
    let text := collapseSpaces value
    if 1000 < utf16Length text || hasControlChar text then .error failure
    else .ok (if text.isEmpty then none else some text)

def normalizeDescription (value : Option String) : Except LoyaltyFailure (Option String) :=
  normalizeFreeText (.LoyaltyInputError .LOYALTY_BENEFIT_DESCRIPTION_INVALID
    "La description ne doit pas dépasser 1 000 caractères sûrs.") value

def normalizeNote (value : Option (Option String)) :
    Except LoyaltyFailure (Option (Option String)) :=
  value.mapM (normalizeFreeText (.LoyaltyInputError .LOYALTY_GRANT_NOTE_INVALID
    "La note de consommation ne doit pas dépasser 1 000 caractères sûrs."))

def normalizeRuleValue (rule : LoyaltyBenefitRule) (value : Option ℚ) :
    Except LoyaltyFailure (Option Nat) :=
  match value with
  | none =>
    if rule = .MIN_VISITS ∨ rule = .MIN_ESTIMATED_SPEND then
      .error (.LoyaltyInputError .LOYALTY_BENEFIT_RULE_VALUE_INVALID
        "Cette règle exige une valeur entière strictement positive.")
    else .ok none
  | some value =>
    if !value.isInt || value < 1 || (rule == .MIN_VISITS && decide (1000 < value)) ||
        (rule == .MIN_ESTIMATED_SPEND && decide (5000000 < value)) ||
        (rule != .MIN_VISITS && rule != .MIN_ESTIMATED_SPEND) then
      .error (.LoyaltyInputError .LOYALTY_BENEFIT_RULE_VALUE_INVALID
        "La valeur de règle est incompatible avec le type choisi.")
    else .ok (some value.num.toNat)

def normalizeCostCents (value : Option ℚ) : Except LoyaltyFailure (Option Nat) :=
  match value with
  | none => .ok none
  | some value =>
    if !value.isInt || value < 0 || 1000000 < value then
      .error (.LoyaltyInputError .LOYALTY_BENEFIT_COST_INVALID
        "Le coût estimé doit être un nombre entier de centimes entre 0 et 10 000 €.")
    else .ok (some value.num.toNat)

def normalizeValidityDays (value : ℚ) : Except LoyaltyFailure Nat :=
  normalizeCount value 365 <| .LoyaltyInputError .LOYALTY_BENEFIT_VALIDITY_INVALID
    "La validité doit être comprise entre 1 et 365 jours."

def normalizeMaxUses (value : ℚ) : Except LoyaltyFailure Nat :=
  normalizeCount value 100 <| .LoyaltyInputError .LOYALTY_BENEFIT_MAX_USES_INVALID
    "La limite doit être comprise entre 1 et 100 utilisations par client."

section

variable [UnicodeCase]

def normalizeBenefitCurrency (value : String) : Except LoyaltyFailure String :=
  let currency := UnicodeCase.toUpperCase (trim value)
  if currency != "EUR" then
    .error (.LoyaltyInputError .LOYALTY_BENEFIT_CURRENCY_INVALID
      "Seule la devise EUR est supportée par cette fondation.")
  else .ok currency

/-- Spaces are dropped; `/^[A-F0-9]{12}$/`. -/
def normalizeCode (value : String) : Except LoyaltyFailure String :=
  let code := UnicodeCase.toUpperCase <|
    String.ofList (value.toList.filter fun char => !isTrimmedChar char)
  if code.length == 12 && code.toList.all fun char =>
      char.isDigit || ('A' ≤ char && char ≤ 'F') then .ok code
  else .error (.LoyaltyInputError .LOYALTY_GRANT_CODE_INVALID
    "Le code de l’avantage est invalide.")

end

section

variable [Sha256]

def hashLoyaltyActor (actor : String) : String :=
  Sha256.sha256 ("sokar:loyalty-actor:" ++ actor)

def hashLoyaltyCode (code : String) : String :=
  Sha256.sha256 ("sokar:loyalty-code:" ++ code)

def hashLoyaltyIdempotencyKey (restaurantId key : String) : String :=
  Sha256.sha256 ("sokar:loyalty-idempotency:" ++ restaurantId ++ ":" ++ key)

end

/-- `input.now ?? new Date()`. -/
def loyaltyNow (given : Option Instant) : LoyaltyProg Instant :=
  match given with
  | some now => pure now
  | none => query fun _ now => now

/-- `getUTCMonth() + 1`, by counting days from the first of March of the year 0. -/
def utcMonth (instant : Instant) : Nat :=
  let days := instant / msPerDay + 719468
  let dayOfEra := days % 146097
  let yearOfEra := (dayOfEra - dayOfEra / 1460 + dayOfEra / 36524 - dayOfEra / 146096) / 365
  let dayOfYear := dayOfEra - (365 * yearOfEra + yearOfEra / 4 - yearOfEra / 100)
  let monthFromMarch := (5 * dayOfYear + 2) / 153
  (if monthFromMarch < 10 then monthFromMarch + 3 else monthFromMarch - 9).toNat

/-- The last day of February 2024 and the day after. -/
example : utcMonth 1709164800000 = 2 ∧ utcMonth 1709251200000 = 3 := by decide

/-- A past reservation that was kept, or that nobody cancelled or marked absent. -/
def VisitReservation.isVisit (reservation : VisitReservation) (now : Instant) : Bool :=
  decide (reservation.startsAt.getD reservation.reservedAt < now) &&
    reservation.state != .NO_SHOW && reservation.status != .NO_SHOW &&
    reservation.status != .CANCELLED &&
    (reservation.state == .HONORED || reservation.state == .SEATED ||
      reservation.state == .CONFIRMED)

/-- `countHonoredVisits`. -/
def LoyaltyData.honoredVisits (data : LoyaltyData) (restaurantId customerId : Id) (now : Instant) :
    Nat :=
  data.reservations.countP fun reservation =>
    reservation.restaurantId == restaurantId && reservation.customerId == some customerId &&
      reservation.isVisit now

/-- `Math.max(0, Math.round(amount * 100))`. -/
def spendInCents (value : Option ℚ) : Int :=
  max 0 (value.getD 0 * 100 + 1 / 2).floor

/-- `Number.MAX_SAFE_INTEGER`. -/
def maxSafeInteger : Nat := 9007199254740991

/-- The visits are only read for a rule that asks for them. -/
def assertCustomerEligible (restaurantId customerId : Id) (benefit : LoyaltyBenefit)
    (now : Instant) : LoyaltyProg (Except LoyaltyFailure Unit) := do
  let found ← query fun data _ => data.customerOf? restaurantId customerId
  match found with
  | none => pure (.error .LoyaltyCustomerNotFoundError)
  | some customer =>
    match benefit.rule with
    | .ANY => pure (.ok ())
    | .VIP =>
      pure (if customer.isVip then .ok () else .error (.LoyaltyNotEligibleError "VIP_REQUIRED"))
    | .MIN_VISITS => do
        let visits ← query fun data _ => data.honoredVisits restaurantId customer.id now
        pure (if benefit.ruleValue.getD maxSafeInteger ≤ visits then .ok ()
          else .error (.LoyaltyNotEligibleError "MIN_VISITS_NOT_REACHED"))
    | .BIRTHDAY_MONTH =>
      pure (if customer.birthMonth = some (utcMonth now) then .ok ()
        else .error (.LoyaltyNotEligibleError "BIRTHDAY_MONTH_MISMATCH"))
    | .MIN_ESTIMATED_SPEND =>
      pure (if (benefit.ruleValue.getD maxSafeInteger : Int) ≤
          spendInCents customer.estimatedSpend365d then .ok ()
        else .error (.LoyaltyNotEligibleError "MIN_ESTIMATED_SPEND_NOT_REACHED"))

/-- An empty identifier names no reservation. -/
def assertReservationForCustomer (restaurantId customerId : Id) (reservationId : Option Id) :
    LoyaltyProg (Except LoyaltyFailure Unit) :=
  match reservationId.filter (· != "") with
  | none => pure (.ok ())
  | some reservationId => do
      let stands ← query fun data _ => data.reservations.any fun reservation =>
        reservation.id == reservationId && reservation.restaurantId == restaurantId &&
          reservation.customerId == some customerId && reservation.state != .CANCELLED &&
            reservation.state != .NO_SHOW
      pure (if stands then .ok ()
        else .error (.LoyaltyGrantConflictError .LOYALTY_RESERVATION_INVALID))

/-- The view of a grant, with its code when it was just issued. -/
structure LoyaltyGrantMutationResult where
  grant : LoyaltyGrant
  code : Option String
  replayed : Bool
  deriving DecidableEq

structure IssueLoyaltyGrantInput where
  restaurantId : Id
  benefitId : Id
  customerId : Id
  reservationId : Option Id
  idempotencyKey : Option String
  actor : String
  now : Option Instant
  /-- The identifier and the code that are generated. -/
  newGrantId : Id
  code : String

namespace IssueLoyaltyGrantInput

variable (input : IssueLoyaltyGrantInput)

variable (call : LoyaltyCallId)

variable (benefit : LoyaltyBenefit)

/-- The lock is taken, and the limit read with the benefit is not reached. -/
def limited : LoyaltyProg (Except LoyaltyFailure Unit) := do
  acquire call (.uses input.restaurantId benefit.id input.customerId)
  let used ← query fun data _ => data.used input.restaurantId benefit.id input.customerId
  pure (if benefit.maxUsesPerCustomer ≤ used then
      .error (.LoyaltyGrantConflictError .LOYALTY_GRANT_LIMIT_REACHED)
    else .ok ())

variable [Sha256]

def grant (idempotencyKey : Option String) (now : Instant) : LoyaltyGrant where
  id := input.newGrantId
  restaurantId := input.restaurantId
  benefitId := benefit.id
  customerId := input.customerId
  reservationId := input.reservationId
  idempotencyKey
  codeHash := hashLoyaltyCode input.code
  status := .ISSUED
  issuedAt := now
  expiresAt := now + benefit.validityDays * msPerDay
  redeemedAt := none
  voidedAt := none
  redemptionNote := none
  issuedByHash := hashLoyaltyActor input.actor
  redeemedByHash := none

/-- The transaction; a replay that won the race answers for a grant refused as a duplicate. -/
def create (idempotencyKey : Option String) (now : Instant) :
    LoyaltyProg (Except LoyaltyFailure LoyaltyGrantMutationResult) := do
  let created ← transact call (input.limited call benefit) LoyaltyData.violation?
    (fun _ _ _ =>
      { grant := input.grant benefit idempotencyKey now
        code := some input.code
        replayed := false : LoyaltyGrantMutationResult })
    fun _ data _ => data.insertGrant (input.grant benefit idempotencyKey now)
  match created, idempotencyKey with
  | .error .P2002, some key => do
      let raced ← query fun data _ => data.grantByIdempotency? (some key)
      pure (match raced with
        | some grant => .ok { grant, code := none, replayed := true }
        | none => created)
  | _, _ => pure created

def issueLoyaltyGrant : LoyaltyProg (Except LoyaltyFailure LoyaltyGrantMutationResult) := do
  let now ← loyaltyNow input.now
  match normalizeLoyaltyIdempotencyKey input.idempotencyKey with
  | .error failure => pure (.error failure)
  | .ok rawKey => do
      let idempotencyKey := rawKey.map (hashLoyaltyIdempotencyKey input.restaurantId)
      let replay ← query fun data _ => data.grantByIdempotency? idempotencyKey
      match replay with
      | some grant => pure (.ok { grant, code := none, replayed := true })
      | none => do
          let found ← query fun data _ =>
            (data.benefitOf? input.restaurantId input.benefitId).filter (·.status == .ACTIVE)
          match found with
          | none => pure (.error .LoyaltyBenefitNotFoundError)
          | some benefit =>
            (assertCustomerEligible input.restaurantId input.customerId benefit now).andThen
              fun _ => (assertReservationForCustomer input.restaurantId input.customerId
                input.reservationId).andThen fun _ => input.create call benefit idempotencyKey now

end IssueLoyaltyGrantInput

/-! ## Redeeming, voiding and expiring -/

structure RedeemLoyaltyGrantInput where
  restaurantId : Id
  grantId : Id
  code : String
  reservationId : Option Id
  actor : String
  note : Option (Option String)
  now : Option Instant

namespace RedeemLoyaltyGrantInput

variable (input : RedeemLoyaltyGrantInput)

def expires (current grant : LoyaltyGrant) : Bool :=
  grant.id == current.id && grant.restaurantId == input.restaurantId && grant.status == .ISSUED

/-- The grant found, if it is still issued, has not run out and has the same code. -/
def redeems (current : LoyaltyGrant) (now : Instant) (grant : LoyaltyGrant) : Bool :=
  grant.id == current.id && grant.restaurantId == input.restaurantId && grant.status == .ISSUED &&
    decide (now < grant.expiresAt) && grant.codeHash == current.codeHash

variable [Sha256]

variable (call : LoyaltyCallId)

/-- The grant found is redeemed, or another call is seen to have redeemed it. -/
def redeem (current : LoyaltyGrant) (note : Option (Option String)) (now : Instant) :
    LoyaltyProg (Except LoyaltyFailure LoyaltyGrantMutationResult) := do
  let updated ← commit call (fun data _ => data.grants.any (input.redeems current now))
    fun data _ => data.updateGrants (input.redeems current now)
      (·.redeemed now (hashLoyaltyActor input.actor) input.reservationId note)
  let row ← query fun data _ => data.grantOf? input.restaurantId current.id
  if !updated then
    pure (match row with
      | some latest =>
        if latest.status = .REDEEMED then .ok { grant := latest, code := none, replayed := true }
        else .error (.LoyaltyGrantStateError .LOYALTY_GRANT_REDEMPTION_CONFLICT)
      | none => .error (.LoyaltyGrantStateError .LOYALTY_GRANT_REDEMPTION_CONFLICT))
  else
    pure (match row with
      | none => .error .LoyaltyGrantNotFoundError
      | some grant => .ok { grant, code := none, replayed := false })

/-- A grant that has run out is marked so before the call is refused. -/
def refuseExpired (current : LoyaltyGrant) :
    LoyaltyProg (Except LoyaltyFailure LoyaltyGrantMutationResult) := do
  commit call (fun _ _ => ()) fun data _ => data.updateGrants (input.expires current) (·.expired)
  pure (.error (.LoyaltyGrantStateError .LOYALTY_GRANT_EXPIRED))

def redeemLoyaltyGrant [UnicodeCase] :
    LoyaltyProg (Except LoyaltyFailure LoyaltyGrantMutationResult) := do
  let now ← loyaltyNow input.now
  match normalizeCode input.code, normalizeNote input.note with
  | .error failure, _ => pure (.error failure)
  | .ok _, .error failure => pure (.error failure)
  | .ok code, .ok note => do
      let found ← query fun data _ => data.grantOf? input.restaurantId input.grantId
      match found with
      | none => pure (.error .LoyaltyGrantNotFoundError)
      | some current =>
        if current.codeHash != hashLoyaltyCode code then
          pure (.error (.LoyaltyInputError .LOYALTY_GRANT_CODE_INVALID
            "Le code de l’avantage est invalide."))
        else
          (assertReservationForCustomer input.restaurantId current.customerId
            input.reservationId).andThen fun _ =>
              if current.status = .REDEEMED then
                pure (.ok { grant := current, code := none, replayed := true })
              else if current.status = .VOID then
                pure (.error (.LoyaltyGrantStateError .LOYALTY_GRANT_VOID))
              else if current.status = .EXPIRED ∨ current.expiresAt ≤ now then
                input.refuseExpired call current
              else input.redeem call current note now

end RedeemLoyaltyGrantInput

structure VoidLoyaltyGrantInput where
  restaurantId : Id
  grantId : Id
  actor : String
  note : Option (Option String)
  now : Option Instant

namespace VoidLoyaltyGrantInput

variable (input : VoidLoyaltyGrantInput)

def voids (grant : LoyaltyGrant) : Bool :=
  grant.id == input.grantId && grant.restaurantId == input.restaurantId && grant.status == .ISSUED

def refusal : Option LoyaltyGrant → Except LoyaltyFailure LoyaltyGrant
  | none => .error .LoyaltyGrantNotFoundError
  | some current =>
    match current.status with
    | .REDEEMED => .error (.LoyaltyGrantStateError .LOYALTY_GRANT_ALREADY_REDEEMED)
    | .VOID => .ok current
    | .EXPIRED => .error (.LoyaltyGrantStateError .LOYALTY_GRANT_EXPIRED)
    | .ISSUED => .error (.LoyaltyGrantStateError .LOYALTY_GRANT_REDEMPTION_CONFLICT)

def voidLoyaltyGrant [Sha256] (call : LoyaltyCallId) :
    LoyaltyProg (Except LoyaltyFailure LoyaltyGrant) :=
  match normalizeNote input.note with
  | .error failure => pure (.error failure)
  | .ok note => do
      let voidedAt ← loyaltyNow input.now
      let updated ← commit call (fun data _ => data.grants.any input.voids) fun data _ =>
        data.updateGrants input.voids (·.voided voidedAt note (hashLoyaltyActor input.actor))
      let row ← query fun data _ => data.grantOf? input.restaurantId input.grantId
      pure (if !updated then refusal row
        else match row with
          | none => .error .LoyaltyGrantNotFoundError
          | some grant => .ok grant)

end VoidLoyaltyGrantInput

structure ExpireLoyaltyGrantsInput where
  now : Option Instant
  limit : Option Int

/-- `Math.min(Math.max(limit ?? 1_000, 1), 1_000)`. -/
def grantExpiryScan (limit : Option Int) : Nat :=
  (min (max (limit.getD 1000) 1) 1000).toNat

/-- The issued grants that have run out, the first to do so first. -/
def LoyaltyData.overdueGrants (data : LoyaltyData) (now : Instant) (limit : Nat) :
    List LoyaltyGrant :=
  let overdue := data.grants.filter fun grant =>
    grant.status == .ISSUED && decide (grant.expiresAt ≤ now)
  (overdue.insertionSort fun first second => first.expiresAt ≤ second.expiresAt).take limit

def ExpireLoyaltyGrantsInput.expireLoyaltyGrants (input : ExpireLoyaltyGrantsInput)
    (call : LoyaltyCallId) : LoyaltyProg (Except LoyaltyFailure Nat) := do
  let now ← loyaltyNow input.now
  let rows ← query fun data _ => data.overdueGrants now (grantExpiryScan input.limit)
  if rows.isEmpty then pure (.ok 0)
  else do
    let expires := fun grant : LoyaltyGrant =>
      (rows.any fun row => row.id == grant.id) && grant.status == .ISSUED
    let count ← commit call (fun data _ => data.grants.countP expires)
      fun data _ => data.updateGrants expires (·.expired)
    pure (.ok count)

structure UpdateLoyaltyBenefitInput where
  restaurantId : Id
  benefitId : Id
  name : Option String
  description : Option (Option String)
  rule : Option LoyaltyBenefitRule
  ruleValue : Option (Option ℚ)
  costCents : Option (Option ℚ)
  currency : Option String
  validityDays : Option ℚ
  maxUsesPerCustomer : Option ℚ
  status : Option LoyaltyBenefitStatus

structure LoyaltyBenefitUpdate where
  name : Option String
  description : Option (Option String)
  rule : Option LoyaltyBenefitRule
  ruleValue : Option (Option Nat)
  costCents : Option (Option Nat)
  currency : Option String
  validityDays : Option Nat
  maxUsesPerCustomer : Option Nat
  status : Option LoyaltyBenefitStatus
  deriving DecidableEq

def LoyaltyBenefitUpdate.set (update : LoyaltyBenefitUpdate) (benefit : LoyaltyBenefit) :
    LoyaltyBenefit :=
  { benefit with
    name := update.name.getD benefit.name
    description := update.description.getD benefit.description
    rule := update.rule.getD benefit.rule
    ruleValue := update.ruleValue.getD benefit.ruleValue
    costCents := update.costCents.getD benefit.costCents
    currency := update.currency.getD benefit.currency
    validityDays := update.validityDays.getD benefit.validityDays
    maxUsesPerCustomer := update.maxUsesPerCustomer.getD benefit.maxUsesPerCustomer
    status := update.status.getD benefit.status }

namespace UpdateLoyaltyBenefitInput

variable [UnicodeCase] (input : UpdateLoyaltyBenefitInput)

/-- What is set in the benefit found.  A rule that is given without a value drops the old
one. -/
def update (current : LoyaltyBenefit) : Except LoyaltyFailure LoyaltyBenefitUpdate := do
  let name ← input.name.mapM normalizeBenefitName
  let description ← input.description.mapM normalizeDescription
  let ruleValue ←
    if input.ruleValue.isSome || input.rule.isSome then
      some <$> normalizeRuleValue (input.rule.getD current.rule)
        (input.ruleValue.join.or (if input.rule.isSome then none
          else current.ruleValue.map fun value => (value : ℚ)))
    else pure none
  let costCents ← input.costCents.mapM normalizeCostCents
  let currency ← input.currency.mapM normalizeBenefitCurrency
  let validityDays ← input.validityDays.mapM normalizeValidityDays
  let maxUsesPerCustomer ← input.maxUsesPerCustomer.mapM normalizeMaxUses
  return {
    name, description, ruleValue, costCents, currency, validityDays, maxUsesPerCustomer
    rule := input.rule
    status := input.status }

def updateLoyaltyBenefit (call : LoyaltyCallId) :
    LoyaltyProg (Except LoyaltyFailure LoyaltyBenefit) := do
  let found ← query fun data _ => data.benefitOf? input.restaurantId input.benefitId
  match found with
  | none => pure (.error .LoyaltyBenefitNotFoundError)
  | some current =>
    match input.update current with
    | .error failure => pure (.error failure)
    | .ok update =>
      if update = ⟨none, none, none, none, none, none, none, none, none⟩ then pure (.ok current)
      else
        (commitUnless call LoyaltyData.violation?
          (fun data _ => (data.benefit? current.id).map update.set)
          fun data _ => data.updateBenefit current.id update.set).andThen fun row =>
            pure (match row with
              | none => .error .LoyaltyBenefitNotFoundError
              | some row => .ok row)

end UpdateLoyaltyBenefitInput

end Sokar
