import Sokar.Library.KeyedRows
import Sokar.Shared.Inputs
import Sokar.Shared.IsoDates

/-!
# Permissions and the opt-out register

The tables of the marketing services, and the two services that record whether a person may be
written to: the permission of each customer and channel, and the register of opposed addresses,
which keeps a keyed hash of each and outlives the customer.
-/

namespace Sokar.Marketing

inductive MarketingChannel where
  | SMS | EMAIL | WHATSAPP
  deriving DecidableEq

inductive MarketingPermissionStatus where
  | UNKNOWN | OPTED_IN | OPTED_OUT
  deriving DecidableEq

inductive MarketingOptOutReason where
  | UNSUBSCRIBE | COMPLAINT | MANUAL
  deriving DecidableEq

inductive MarketingCampaignStatus where
  | DRAFT | READY | SCHEDULED | SENDING | PAUSED | SENT | CANCELLED | FAILED
  deriving DecidableEq

inductive MarketingMessageStatus where
  | PENDING | SENDING | ACCEPTED | SENT | DELIVERED | FAILED | BOUNCED | COMPLAINED | CANCELLED
  deriving DecidableEq

structure Customer where
  id : Id
  restaurantId : Id
  phone : String
  emailNormalized : Option String
  archived : Bool
  mergedIntoId : Option Id
  deriving DecidableEq

structure MarketingPermission where
  restaurantId : Id
  customerId : Id
  channel : MarketingChannel
  status : MarketingPermissionStatus
  source : String
  proofVersion : Option String
  proofHash : Option String
  consentedAt : Option Instant
  withdrawnAt : Option Instant
  deriving DecidableEq

structure MarketingPermissionEvent where
  restaurantId : Id
  customerId : Id
  channel : MarketingChannel
  status : MarketingPermissionStatus
  source : String
  proofVersion : Option String
  proofHash : Option String
  proofText : Option String
  actorUserId : Option String
  occurredAt : Instant
  deriving DecidableEq

structure MarketingOptOut where
  restaurantId : Id
  channel : MarketingChannel
  addressHash : String
  reason : MarketingOptOutReason
  source : String
  optedOutAt : Instant
  retainUntil : Instant
  deriving DecidableEq

structure MarketingSuppression where
  restaurantId : Id
  customerId : Id
  channel : Option MarketingChannel
  reason : String
  source : String
  expiresAt : Option Instant
  deriving DecidableEq

/-- A consent given before channels had permissions of their own. -/
structure CustomerConsent where
  restaurantId : Id
  subjectHash : String
  marketingOptIn : Bool
  deriving DecidableEq

structure MarketingCampaign where
  id : Id
  restaurantId : Id
  channel : MarketingChannel
  status : MarketingCampaignStatus
  scheduledAt : Option Instant
  audienceCount : Nat
  /-- It was created by an automation. -/
  automated : Bool
  targetServiceStart : Option Instant
  targetServiceEnd : Option Instant
  acceptedCount : Nat
  deliveredCount : Nat
  failedCount : Nat
  startedAt : Option Instant
  completedAt : Option Instant
  lastErrorCode : Option String
  deriving DecidableEq

structure CampaignAudienceMember where
  id : Id
  campaignId : Id
  customerId : Id
  inclusionReason : String
  deriving DecidableEq

structure CampaignMessage where
  id : Id
  campaignId : Id
  audienceMemberId : Id
  customerId : Id
  channel : MarketingChannel
  status : MarketingMessageStatus
  provider : Option String
  providerMessageId : Option String
  errorCode : Option String
  acceptedAt : Option Instant
  sentAt : Option Instant
  deliveredAt : Option Instant
  updatedAt : Instant
  deriving DecidableEq

/-- The key of the sends to a customer over a channel on one day. -/
structure WindowKey where
  restaurantId : Id
  customerId : Id
  channel : MarketingChannel
  windowStart : Instant
  deriving DecidableEq

structure MarketingFrequencyWindow where
  key : WindowKey
  windowEnd : Instant
  sendCount : Nat
  deriving DecidableEq

structure MarketingTables where
  customers : List Customer
  permissions : List MarketingPermission
  permissionEvents : List MarketingPermissionEvent
  optOuts : List MarketingOptOut
  suppressions : List MarketingSuppression
  customerConsents : List CustomerConsent
  campaigns : List MarketingCampaign
  audience : List CampaignAudienceMember
  messages : List CampaignMessage
  windows : List MarketingFrequencyWindow
  deriving DecidableEq

/-- The environment of the marketing services. -/
class MarketingEnv where
  MARKETING_OPTOUT_HASH_SECRET : Option String
  /-- `createHmac('sha256', key).update(text).digest()`. -/
  hmac : (key text : String) → String

variable (text : String)

variable (restaurantId : Id)

variable (channel : MarketingChannel)

section

variable [UnicodeLetters]

/-- `/^[^\s@]+@[^\s@]+\.[^\s@]+$/`. -/
def SAFE_EMAIL_PATTERN : Bool :=
  match text.toList.splitOn '@' with
  | [name, domain] =>
    !(name ++ domain).any isTrimmedChar && !name.isEmpty && (domain.drop 1).dropLast.contains '.'
  | _ => false

def normalizeCustomerEmail (value : String) : Option String :=
  let normalized := UnicodeLetters.toLowerCase (trim value)
  if SAFE_EMAIL_PATTERN normalized then some normalized else none

/-- `/^\+?[0-9]{7,15}$/`. -/
def SAFE_PHONE_PATTERN : Bool :=
  let digits := if hasStart text "+" then text.toList.drop 1 else text.toList
  digits.all Char.isDigit && 7 ≤ digits.length && digits.length ≤ 15

/-- `/[^0-9+\s().-]/` finds none. -/
def isPhoneText : Bool :=
  text.toList.all fun char =>
    char.isDigit || isTrimmedChar char || ['+', '(', ')', '.', '-'].contains char

def normalizeCustomerPhone (value : String) : Option String :=
  let trimmed := trim value
  if trimmed.isEmpty || !isPhoneText trimmed then none
  else
    let normalized := normalizePhone trimmed
    if SAFE_PHONE_PATTERN normalized then some normalized else none

def normalizeAddress (address : String) : Option String :=
  if channel = .EMAIL then normalizeCustomerEmail address else normalizeCustomerPhone address

def MIN_SECRET_LENGTH : Nat := 32

variable [MarketingEnv]

def marketingOptOutSecret : Option String :=
  (MarketingEnv.MARKETING_OPTOUT_HASH_SECRET.map trim).filter fun secret =>
    MIN_SECRET_LENGTH ≤ utf16Length secret

def isMarketingOptOutRegisterConfigured : Bool :=
  marketingOptOutSecret.isSome

def MarketingChannel.name : MarketingChannel → String
  | .SMS => "SMS"
  | .EMAIL => "EMAIL"
  | .WHATSAPP => "WHATSAPP"

/-- The hash of an address, under a key of the restaurant; none where the secret is missing or
the address cannot be normalized. -/
def marketingOptOutHash (address : Option String) : Option String :=
  marketingOptOutSecret.bind fun secret =>
    (address.bind (normalizeAddress channel)).map fun normalized =>
      let restaurantKey := MarketingEnv.hmac secret ("marketing-opt-out:" ++ restaurantId)
      MarketingEnv.hmac restaurantKey (channel.name ++ ":" ++ normalized)

/-- The address of a customer on a channel. -/
def contactAddress (phone : String) (emailNormalized : Option String) : Option String :=
  if channel = .EMAIL then emailNormalized else some phone

end

def MARKETING_OPT_OUT_RETENTION_YEARS : Int := 3

/-- `setUTCFullYear` three years on; a leap day becomes the first of March. -/
def marketingOptOutRetainUntil (optedOutAt : Instant) : Instant :=
  let date := civilOfDay (optedOutAt / msPerDay)
  dayOfCivil { date with year := date.year + MARKETING_OPT_OUT_RETENTION_YEARS } * msPerDay +
    optedOutAt % msPerDay

inductive RegisterOptOutResult where
  | REGISTERED | SKIPPED_NO_KEY | SKIPPED_NO_ADDRESS
  deriving DecidableEq

def MarketingOptOut.key (entry : MarketingOptOut) : Id × MarketingChannel × String :=
  (entry.restaurantId, entry.channel, entry.addressHash)

structure OptOutInput where
  restaurantId : Id
  channel : MarketingChannel
  address : Option String
  reason : MarketingOptOutReason
  source : String
  occurredAt : Option Instant

section

variable [UnicodeLetters] [MarketingEnv]

def registerMarketingOptOut (input : OptOutInput) (now : Instant)
    (optOuts : List MarketingOptOut) : RegisterOptOutResult × List MarketingOptOut :=
  if !isMarketingOptOutRegisterConfigured then (.SKIPPED_NO_KEY, optOuts)
  else
    match marketingOptOutHash input.restaurantId input.channel input.address with
    | none => (.SKIPPED_NO_ADDRESS, optOuts)
    | some addressHash =>
      let optedOutAt := input.occurredAt.getD now
      let retainUntil := marketingOptOutRetainUntil optedOutAt
      (.REGISTERED, KeyedRows.upsert MarketingOptOut.key
        (input.restaurantId, input.channel, addressHash)
        { restaurantId := input.restaurantId
          channel := input.channel
          addressHash
          reason := input.reason
          source := input.source
          optedOutAt
          retainUntil }
        (fun entry =>
          { entry with reason := input.reason, source := input.source, optedOutAt, retainUntil })
        optOuts)

def clearMarketingOptOut (address : Option String) (optOuts : List MarketingOptOut) :
    List MarketingOptOut :=
  match marketingOptOutHash restaurantId channel address with
  | none => optOuts
  | some addressHash => optOuts.filter fun entry => entry.key ≠ (restaurantId, channel, addressHash)

omit [UnicodeLetters] [MarketingEnv] in
def findRegisteredOptOutHashes (hashes : List String) (optOuts : List MarketingOptOut) :
    List String :=
  hashes.filter fun hash => optOuts.any fun entry => entry.key == (restaurantId, channel, hash)

def isMarketingOptedOut (address : Option String) (optOuts : List MarketingOptOut) : Bool :=
  match marketingOptOutHash restaurantId channel address with
  | none => false
  | some addressHash =>
    (findRegisteredOptOutHashes restaurantId channel [addressHash] optOuts).contains addressHash

omit [UnicodeLetters] [MarketingEnv] in
def purgeExpiredMarketingOptOuts (now : Instant) (optOuts : List MarketingOptOut) :
    List MarketingOptOut :=
  optOuts.filter fun entry => ¬entry.retainUntil < now

/-- Whether a customer's address is in the register; none where nothing can be checked. -/
def loadOptedOut (phone : String) (emailNormalized : Option String) (optOuts : List MarketingOptOut)
    : Option Bool :=
  if !isMarketingOptOutRegisterConfigured then none
  else some (isMarketingOptedOut restaurantId channel
    (contactAddress channel phone emailNormalized) optOuts)

end

structure MarketingPermissionInput where
  restaurantId : Id
  customerId : Id
  channel : MarketingChannel
  status : MarketingPermissionStatus
  source : String
  proofVersion : Option String
  proof : Option String
  proofHash : Option String
  actorUserId : Option String
  liftsOpposition : Bool
  occurredAt : Option Instant

inductive MarketingError where
  | textLength (field : String) (maxLength : Nat)
  | proofVersionLength
  | proofHash
  | actorUserIdLength
  | optInProof
  | CUSTOMER_NOT_FOUND
  | MARKETING_OPTOUT_REGISTER_UNAVAILABLE
  | MARKETING_OPPOSITION_REGISTERED
  | P2002
  deriving DecidableEq

/-- `value?.trim() || null`. -/
def trimmedOrNull (value : Option String) : Option String :=
  (value.map trim).filter fun text => !text.isEmpty

def normalizeText (value field : String) (maxLength : Nat) : Except MarketingError String :=
  let normalized := trim value
  if normalized.isEmpty || maxLength < utf16Length normalized then
    .error (.textLength field maxLength)
  else .ok normalized

/-- `/^[0-9a-f]{64}$/`. -/
def SAFE_HASH : Bool :=
  text.length == 64 && text.toList.all fun char => char.isDigit || ('a' ≤ char && char ≤ 'f')

def optOutReasonFor (source : String) : MarketingOptOutReason :=
  if source = "UNSUBSCRIBE_LINK" ∨ source = "UNSUBSCRIBE" ∨ source = "SMS_STOP" then .UNSUBSCRIBE
  else .MANUAL

structure PermissionChange where
  restaurantId : Id
  customerId : Id
  channel : MarketingChannel
  status : MarketingPermissionStatus
  source : String
  proofVersion : Option String
  proofHash : Option String
  proofText : Option String
  actorUserId : Option String
  liftsOpposition : Bool
  occurredAt : Instant

variable (change : PermissionChange)

variable (input : MarketingPermissionInput)

section

variable [UnicodeLetters] [Sha256]

def normalizeProofHash : Except MarketingError (Option String) :=
  match trimmedOrNull input.proofHash with
  | some supplied =>
    let suppliedHash := UnicodeLetters.toLowerCase supplied
    if SAFE_HASH suppliedHash then .ok (some suppliedHash) else .error .proofHash
  | none => .ok ((trimmedOrNull input.proof).map Sha256.sha256)

def normalizePermission (now : Instant) : Except MarketingError PermissionChange := do
  let source ← normalizeText input.source "source" 80
  let proofVersion := trimmedOrNull input.proofVersion
  if proofVersion.any fun version => 80 < utf16Length version then .error .proofVersionLength
  else
    let proofHash ← normalizeProofHash input
    let actorUserId := trimmedOrNull input.actorUserId
    if actorUserId.any fun actor => 128 < utf16Length actor then .error .actorUserIdLength
    else if input.status = .OPTED_IN ∧ (proofVersion.isNone ∨ proofHash.isNone) then
      .error .optInProof
    else
      return {
        restaurantId := input.restaurantId
        customerId := input.customerId
        channel := input.channel
        status := input.status
        source
        proofVersion
        proofHash
        proofText := trimmedOrNull input.proof
        actorUserId
        liftsOpposition := input.liftsOpposition
        occurredAt := input.occurredAt.getD now }

omit [UnicodeLetters] [Sha256] in
def PermissionChange.row : MarketingPermission where
  restaurantId := change.restaurantId
  customerId := change.customerId
  channel := change.channel
  status := change.status
  source := change.source
  proofVersion := change.proofVersion
  proofHash := change.proofHash
  consentedAt := if change.status = .OPTED_IN then some change.occurredAt else none
  withdrawnAt := if change.status = .OPTED_OUT then some change.occurredAt else none

omit [UnicodeLetters] [Sha256] in
def PermissionChange.event : MarketingPermissionEvent where
  restaurantId := change.restaurantId
  customerId := change.customerId
  channel := change.channel
  status := change.status
  source := change.source
  proofVersion := change.proofVersion
  proofHash := change.proofHash
  proofText := change.proofText
  actorUserId := change.actorUserId
  occurredAt := change.occurredAt

def MarketingPermission.key (permission : MarketingPermission) : Id × MarketingChannel :=
  (permission.customerId, permission.channel)

omit [UnicodeLetters] [Sha256] in
/-- The customer of a restaurant, unless archived. -/
def assertCustomerTenant (customerId restaurantId : Id) (customers : List Customer) :
    Except MarketingError Customer :=
  match customers.find? fun customer =>
    customer.id == customerId && customer.restaurantId == restaurantId && !customer.archived with
  | none => .error .CUSTOMER_NOT_FOUND
  | some customer => .ok customer

variable [MarketingEnv]

omit [Sha256] in
/-- What the register becomes with a permission; `available` tells whether its statements
succeed. -/
def syncOptOutRegister (contact : Customer) (available : Bool) (now : Instant)
    (optOuts : List MarketingOptOut) :
    Except MarketingError (List MarketingOptOut) :=
  let address := contactAddress change.channel contact.phone contact.emailNormalized
  match change.status with
  | .UNKNOWN => .ok optOuts
  | .OPTED_OUT =>
    if !available then .error .MARKETING_OPTOUT_REGISTER_UNAVAILABLE
    else
      match registerMarketingOptOut
        { restaurantId := change.restaurantId
          channel := change.channel
          address
          reason := optOutReasonFor change.source
          source := change.source
          occurredAt := some change.occurredAt } now optOuts with
      | (.SKIPPED_NO_KEY, _) => .error .MARKETING_OPTOUT_REGISTER_UNAVAILABLE
      | (_, optOuts) => .ok optOuts
  | .OPTED_IN =>
    if !available then .error .MARKETING_OPTOUT_REGISTER_UNAVAILABLE
    else if !change.liftsOpposition then
      if isMarketingOptedOut change.restaurantId change.channel address optOuts then
        .error .MARKETING_OPPOSITION_REGISTERED
      else .ok optOuts
    else .ok (clearMarketingOptOut change.restaurantId change.channel address optOuts)

/-- The permission and its event are written, then the register; a withdrawal is kept where the
register fails, and the failure reported. -/
def upsertMarketingPermission (available : Bool) (now : Instant) (tables : MarketingTables) :
    Except MarketingError MarketingPermission × MarketingTables :=
  let written : Except MarketingError
      (Except MarketingError MarketingPermission × MarketingTables) := do
    let change ← normalizePermission input now
    let contact ← assertCustomerTenant change.customerId change.restaurantId tables.customers
    let stored := KeyedRows.lookup MarketingPermission.key tables.permissions change.row.key
    if stored.any fun permission => permission.restaurantId ≠ change.restaurantId then .error .P2002
    else
      let tables := { tables with
        permissions := KeyedRows.upsert MarketingPermission.key change.row.key change.row
          (fun _ => change.row) tables.permissions
        permissionEvents := tables.permissionEvents ++ [change.event] }
      match syncOptOutRegister change contact available now tables.optOuts with
      | .ok optOuts => return (.ok change.row, { tables with optOuts })
      | .error error =>
        if change.status ≠ .OPTED_OUT then .error error
        else return (.error .MARKETING_OPTOUT_REGISTER_UNAVAILABLE, tables)
  match written with
  | .ok result => result
  | .error error => (.error error, tables)

end

example : marketingOptOutRetainUntil 1709208000000 = 1803902400000 := by decide

end Sokar.Marketing
