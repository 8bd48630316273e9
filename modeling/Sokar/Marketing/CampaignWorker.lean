import Mathlib.Data.List.Sort
import Sokar.Library.QuietPrograms
import Sokar.Marketing.Register

/-!
# The campaign worker

`marketing-campaign.worker`, statement by statement: a run claims its campaign, fails the claims
of messages that have gone stale, and takes the pending messages one by one through a claim, two
checks of eligibility and a slot of the customer's day to the provider.  Any number of runs go on
at once; what a message says is left out.
-/

namespace Sokar.Marketing

open Process Transaction

abbrev JobId := Nat

/-- A call of a provider, with the run that made it and the slot of the day it was made under. -/
structure ProviderCall where
  caller : JobId
  messageId : Id
  slot : WindowKey
  address : Option String
  calledAt : Instant
  /-- The slot has been given back, since the message certainly has not left. -/
  released : Bool
  deriving DecidableEq

/-- The tables, and beside them what no statement reads: the calls of the providers, the message
each run has claimed and not let go of, and the slots reserved and not used yet. -/
structure MarketingData where
  tables : MarketingTables
  calls : List ProviderCall
  holding : JobId → Option Id
  reserved : List (JobId × WindowKey)

abbrev MarketingStore := Store MarketingData Empty JobId

abbrev MarketingProg := Prog MarketingStore

inductive SendOutcome where
  | success (providerMessageId : Option String)
  | refused (reason : Option String)
  | unknown
  | thrown (errorCode : String)
  deriving DecidableEq

/-- A run of the worker: its job, what the steps before a provider call and the providers answer
for each message, and the batches after which it has stopped at the latest. -/
structure MarketingJob where
  campaignId : Id
  restaurantId : Id
  prepare : Id → Option String
  provider : Id → SendOutcome
  batches : Nat

class WorkerEnv extends MarketingEnv where
  MARKETING_SENDS_ENABLED : Bool
  MARKETING_EMAIL_FROM : Option String
  MARKETING_WHATSAPP_ENABLED : Bool
  MARKETING_RECIPIENT_ALLOWLIST : Option String
  MARKETING_EMAIL_DAILY_BUDGET : Nat
  isTargetServiceFull : (restaurantId : Id) → (serviceStart serviceEnd now : Instant) → Bool
  /-- The id of the message made for an audience member. -/
  uuid : Id → Id

inductive JobError where
  | MARKETING_SENDS_DISABLED
  | CAMPAIGN_NOT_READY
  | MARKETING_EMAIL_FROM_MISSING
  | MARKETING_DAILY_BUDGET_EXCEEDED
  deriving DecidableEq

structure JobCounts where
  processed : Nat
  accepted : Nat
  failed : Nat
  deriving DecidableEq

def MAX_SENDS_PER_FREQUENCY_WINDOW : Nat := 3

def MARKETING_MESSAGE_STALE_AFTER_MS : Int := 15 * 60 * 1000

def HOLDOUT_INCLUSION_REASON : String := "HOLDOUT"

def TARGET_SERVICE_FULL : String := "TARGET_SERVICE_FULL"

def dayStart (now : Instant) : Instant :=
  now / msPerDay * msPerDay

namespace MarketingData

variable (data : MarketingData)

def campaign? (campaignId restaurantId : Id) : Option MarketingCampaign :=
  data.tables.campaigns.find? fun campaign =>
    campaign.id == campaignId && campaign.restaurantId == restaurantId

def updateCampaigns (selected : MarketingCampaign → Bool)
    (change : MarketingCampaign → MarketingCampaign) : MarketingData :=
  { data with tables :=
      { data.tables with campaigns := KeyedRows.update selected change data.tables.campaigns } }

def updateMessages (selected : CampaignMessage → Bool)
    (change : CampaignMessage → CampaignMessage) : MarketingData :=
  { data with tables :=
      { data.tables with messages := KeyedRows.update selected change data.tables.messages } }

def updateWindows (selected : MarketingFrequencyWindow → Bool)
    (change : MarketingFrequencyWindow → MarketingFrequencyWindow) : MarketingData :=
  { data with tables :=
      { data.tables with windows := KeyedRows.update selected change data.tables.windows } }

variable (job : JobId)

def hold (messageId : Option Id) : MarketingData :=
  { data with holding := Function.update data.holding job messageId }

variable (slot : WindowKey)

/-- The run has the slot, and no other one that it has reserved before. -/
def reserve : MarketingData :=
  { data with
    reserved := (data.reserved.filter fun reservation => reservation.1 ≠ job) ++ [(job, slot)] }

def unreserve : MarketingData :=
  { data with reserved := data.reserved.filter fun reservation => reservation.1 ≠ job }

variable (campaignId : Id)

/-- The audience of a campaign, without its control group. -/
def audienceOf : List CampaignAudienceMember :=
  data.tables.audience.filter fun member =>
    member.campaignId == campaignId && member.inclusionReason != HOLDOUT_INCLUSION_REASON

/-- The unique columns of a message: its id, its audience member, its campaign and customer. -/
def hasMessage (message : CampaignMessage) : Bool :=
  data.tables.messages.any fun other =>
    other.id == message.id || other.audienceMemberId == message.audienceMemberId ||
      (other.campaignId == message.campaignId && other.customerId == message.customerId)

/-- `createMany` with `skipDuplicates`. -/
def createMessages (messages : List CampaignMessage) : MarketingData :=
  messages.foldl (fun data message =>
    if data.hasMessage message then data
    else
      { data with tables :=
          { data.tables with messages := data.tables.messages ++ [message] } }) data

def pendingMessages : List (CampaignMessage × Customer) :=
  let pending := data.tables.messages.filter fun message =>
    message.campaignId == campaignId && message.status == .PENDING
  ((pending.insertionSort fun first second => first.id ≤ second.id).take 100).filterMap
    fun message =>
      (KeyedRows.lookup Customer.id data.tables.customers message.customerId).map (message, ·)

def countMessages (status : MarketingMessageStatus) : Nat :=
  data.tables.messages.countP fun message =>
    message.campaignId == campaignId && message.status == status

def isClaimable (messageId : Id) : Bool :=
  data.tables.messages.any fun message =>
    message.id == messageId && message.status == .PENDING

def isInFlight (messageId : Id) : Bool :=
  data.tables.messages.any fun message =>
    message.id == messageId && message.status == .SENDING

def hasFreeSlot : Bool :=
  data.tables.windows.any fun window =>
    window.key == slot && window.sendCount < MAX_SENDS_PER_FREQUENCY_WINDOW

def takeSlot : MarketingData :=
  (data.updateWindows
    (fun window => window.key == slot && window.sendCount < MAX_SENDS_PER_FREQUENCY_WINDOW)
    fun window =>
      { window with
        sendCount := window.sendCount + 1
        windowEnd := slot.windowStart + msPerDay }).reserve job slot

def hasWindow : Bool :=
  data.tables.windows.any fun window => window.key == slot

def createWindow : MarketingData :=
  let window : MarketingFrequencyWindow :=
    { key := slot, windowEnd := slot.windowStart + msPerDay, sendCount := 1 }
  let created : MarketingData :=
    { data with tables := { data.tables with windows := data.tables.windows ++ [window] } }
  created.reserve job slot

/-- The slot is given back, for a message that has certainly not left. -/
def releaseSlot (messageId : Id) (slot : WindowKey) : MarketingData :=
  let released : MarketingData :=
    { data with calls := data.calls.map fun call =>
        if call.caller = job ∧ call.messageId = messageId then { call with released := true }
        else call }
  (released.updateWindows (fun window => window.key == slot && 0 < window.sendCount)
    fun window => { window with sendCount := window.sendCount - 1 }).unreserve job

/-- The provider is called, and the slot used. -/
def callProvider (call : ProviderCall) : MarketingData :=
  let called : MarketingData := { data with calls := data.calls ++ [call] }
  (called.hold call.caller none).unreserve call.caller

/-- The claims of a campaign that are older than a quarter of an hour. -/
def isStale (now : Instant) (message : CampaignMessage) : Bool :=
  message.campaignId == campaignId && message.status == .SENDING &&
    message.updatedAt < now - MARKETING_MESSAGE_STALE_AFTER_MS

/-- The emails of a day that may still be sent; a campaign that checks itself is left out. -/
def remainingDailyEmailBudget (budget : Nat) (sendAt : Instant) (excluded : Option Id) : Nat :=
  let start := dayStart sendAt
  let acceptedOnDay := data.tables.messages.countP fun message =>
    message.channel == .EMAIL && message.acceptedAt.any fun acceptedAt =>
      start ≤ acceptedAt && acceptedAt < start + msPerDay
  let awaits (message : CampaignMessage) : Bool :=
    message.channel == .EMAIL && excluded.all (message.campaignId != ·) &&
      (message.status == .PENDING || message.status == .SENDING) &&
      data.tables.campaigns.any fun campaign =>
        campaign.id == message.campaignId &&
          (campaign.status == .SENDING || campaign.status == .PAUSED ||
            (campaign.status == .SCHEDULED && campaign.scheduledAt.any fun scheduledAt =>
              start ≤ scheduledAt && scheduledAt < start + msPerDay) ||
            (campaign.status == .READY && campaign.automated))
  budget - acceptedOnDay - data.tables.messages.countP awaits

end MarketingData

section

variable (job : JobId)

def updateCampaigns (selected : MarketingCampaign → Bool)
    (change : Instant → MarketingCampaign → MarketingCampaign) : MarketingProg Nat :=
  commit job (fun data _ => data.tables.campaigns.countP selected)
    fun data now => data.updateCampaigns selected (change now)

/-- Atomically consumes one slot: a row with room is incremented, a missing one created, and who
comes late to that tries the row once more. -/
def reserveMarketingFrequencySlot (slot : WindowKey) : MarketingProg Bool := do
  let takeFree := commit job (fun data _ => data.hasFreeSlot slot)
    fun data _ => if data.hasFreeSlot slot then data.takeSlot job slot else data
  if ← takeFree then return true
  let created ← commit job (fun data _ => !data.hasWindow slot)
    fun data _ => if data.hasWindow slot then data else data.createWindow job slot
  if created then return true
  takeFree

def releaseMarketingFrequencySlot (messageId : Id) (slot : WindowKey) : MarketingProg Unit :=
  commit job (fun _ _ => ()) fun data _ => data.releaseSlot job messageId slot

def messageWasNotSent (errorCode : String) : Bool :=
  errorCode == "PROVIDER_REFUSED" || errorCode == "RECIPIENT_NOT_ALLOWLISTED" ||
    errorCode == "NO_CONTACT" || hasStart errorCode "RESEND_API_ERROR:"

/-- The run lets go of its message, and moves it if it is still in flight. -/
def markMessage (messageId : Id) (change : CampaignMessage → CampaignMessage) :
    MarketingProg Bool :=
  commit job (fun data _ => data.isInFlight messageId) fun data now =>
    (data.updateMessages (fun message => message.id == messageId && message.status == .SENDING)
      fun message => { change message with updatedAt := now }).hold job none

def CampaignMessage.closed (status : MarketingMessageStatus) (errorCode : Option String)
    (message : CampaignMessage) : CampaignMessage :=
  { message with status, errorCode }

def CampaignMessage.accepted (provider : String) (providerMessageId : Option String)
    (now : Instant) (message : CampaignMessage) : CampaignMessage :=
  { message with
    status := .ACCEPTED
    provider := some provider
    providerMessageId
    acceptedAt := some now
    sentAt := some now }

def claimMessage (messageId : Id) : MarketingProg Bool :=
  commit job (fun data _ => data.isClaimable messageId) fun data now =>
    if data.isClaimable messageId then
      (data.updateMessages (fun message => message.id == messageId && message.status == .PENDING)
        fun message => { message with status := .SENDING, updatedAt := now }).hold job messageId
    else data

def ensureCampaignMessages [WorkerEnv] (campaign : MarketingCampaign) : MarketingProg Unit := do
  let audience ← query fun data _ => data.audienceOf campaign.id
  if audience.isEmpty then return
  commit job (fun _ _ => ()) fun data now => data.createMessages <| audience.map fun member =>
    { id := WorkerEnv.uuid member.id
      campaignId := campaign.id
      audienceMemberId := member.id
      customerId := member.customerId
      channel := campaign.channel
      status := .PENDING
      provider := none
      providerMessageId := none
      errorCode := none
      acceptedAt := none
      sentAt := none
      deliveredAt := none
      updatedAt := now }

def failStaleMessageClaims (campaignId : Id) (now : Instant) : MarketingProg Nat := do
  let count ← commit job
    (fun data _ => data.tables.messages.countP (MarketingData.isStale campaignId now))
    fun data later => data.updateMessages (MarketingData.isStale campaignId now) fun message =>
      { message.closed .FAILED (some "STALE_CLAIM_MANUAL_REVIEW") with updatedAt := later }
  if 0 < count then
    let _ ← updateCampaigns job (fun campaign => campaign.id == campaignId) fun _ campaign =>
      { campaign with
        failedCount := campaign.failedCount + count
        lastErrorCode := some "STALE_CLAIM_MANUAL_REVIEW" }
  return count

end

section

variable [UnicodeLetters]

/-- The resolution of a channel's permission: the row of the channel decides, and without one a
legacy consent grants SMS alone. -/
def resolveMarketingPermission (channel : MarketingChannel)
    (channelStatus : Option MarketingPermissionStatus) (legacyMarketingOptIn : Bool) :
    Except String Unit :=
  match channelStatus with
  | some .OPTED_IN => .ok ()
  | some .OPTED_OUT => .error "OPTED_OUT"
  | some .UNKNOWN => .error "UNKNOWN"
  | none =>
    if channel = .SMS ∧ legacyMarketingOptIn then .ok () else .error "NO_LEGACY_CONSENT"

variable [WorkerEnv] [Sha256]

def hashPhone (phone : String) : String :=
  Sha256.sha256 (UnicodeLetters.toLowerCase (trim phone))

/-- The contacts that alone receive messages while there is such a list. -/
def marketingRecipientAllowlist : Option (List String) :=
  let entries := ((splitText ',' (WorkerEnv.MARKETING_RECIPIENT_ALLOWLIST.getD "")).map fun entry =>
    UnicodeLetters.toLowerCase (trim entry)).filter fun entry => !entry.isEmpty
  if entries.isEmpty then none else some entries

def MarketingTables.suppression? (tables : MarketingTables) (restaurantId customerId : Id)
    (channel : MarketingChannel) (now : Instant) : Option MarketingSuppression :=
  tables.suppressions.find? fun suppression =>
    suppression.restaurantId == restaurantId && suppression.customerId == customerId &&
      suppression.channel.all (· == channel) &&
      suppression.expiresAt.all fun expiresAt => now < expiresAt

/-- The customer is active, at the address the message was prepared for. -/
def MarketingTables.isActive (tables : MarketingTables) (restaurantId : Id) (customer : Customer)
    (channel : MarketingChannel) : Bool :=
  tables.customers.any fun stored =>
    stored.id == customer.id && stored.restaurantId == restaurantId && !stored.archived &&
      stored.mergedIntoId.isNone &&
      if channel = .EMAIL then stored.emailNormalized == customer.emailNormalized
      else stored.phone == customer.phone

/-- Whether a customer may be written to; the reason why not. -/
def eligibility (restaurantId : Id) (customer : Customer) (channel : MarketingChannel)
    (now : Instant) : MarketingProg (Except String Unit) := do
  let permission ← query fun data _ =>
    KeyedRows.lookup MarketingPermission.key data.tables.permissions (customer.id, channel)
  let suppression ← query fun data _ =>
    data.tables.suppression? restaurantId customer.id channel now
  let activeCustomer ← query fun data _ => data.tables.isActive restaurantId customer channel
  if !activeCustomer then return .error "CUSTOMER_INACTIVE"
  if let some suppression := suppression then return .error ("SUPPRESSED_" ++ suppression.reason)
  let optedOut ← query fun data _ =>
    loadOptedOut restaurantId channel customer.phone customer.emailNormalized data.tables.optOuts
  if optedOut.isNone then return .error "OPT_OUT_REGISTER_UNAVAILABLE"
  if optedOut = some true then return .error "OPTED_OUT_REGISTER"
  let legacy ←
    if channel ≠ .WHATSAPP ∧ permission.isNone then
      query fun data _ => data.tables.customerConsents.any fun consent =>
        consent.restaurantId == restaurantId && consent.subjectHash == hashPhone customer.phone &&
          consent.marketingOptIn
    else pure false
  if let .error reason :=
      resolveMarketingPermission channel (permission.map MarketingPermission.status) legacy then
    return .error reason
  if channel = .EMAIL ∧ (customer.emailNormalized.getD "").isEmpty then return .error "NO_CONTACT"
  if channel ≠ .EMAIL ∧ customer.phone.isEmpty then return .error "NO_CONTACT"
  if let some allowlist := marketingRecipientAllowlist then
    let contact := if channel = .EMAIL then customer.emailNormalized.getD "" else trim customer.phone
    if contact.isEmpty ∨ UnicodeLetters.toLowerCase contact ∉ allowlist then
      return .error "NOT_IN_TEST_ALLOWLIST"
  return .ok ()

end

section

variable [UnicodeLetters] [WorkerEnv] [Sha256] (job : JobId) (input : MarketingJob)

def MarketingChannel.provider : MarketingChannel → String
  | .EMAIL => "resend"
  | _ => "telnyx"

variable (campaign : MarketingCampaign)

variable (messageId : Id)

/-- The call of the provider, after what is prepared for it. -/
def sendOne (customer : Customer) (slot : WindowKey) :
    MarketingProg (Except String (Option String)) :=
  match input.prepare messageId with
  | some errorCode => pure (.error errorCode)
  | none =>
    if campaign.channel = .EMAIL ∧ (customer.emailNormalized.getD "").isEmpty then
      pure (.error "NO_CONTACT")
    else if campaign.channel = .EMAIL ∧ WorkerEnv.MARKETING_EMAIL_FROM.isNone then
      pure (.error "MARKETING_EMAIL_FROM_MISSING")
    else if campaign.channel = .WHATSAPP ∧ !WorkerEnv.MARKETING_WHATSAPP_ENABLED then
      pure (.error "WHATSAPP_MARKETING_DISABLED")
    else do
      commit job (fun _ _ => ()) fun data now => data.callProvider
        { caller := job
          messageId
          slot
          address := contactAddress campaign.channel customer.phone customer.emailNormalized
          calledAt := now
          released := false }
      return match input.provider messageId with
        | .success providerMessageId => .ok providerMessageId
        | .refused reason => .error (reason.getD "PROVIDER_REFUSED")
        | .unknown => .error "PROVIDER_RESULT_UNKNOWN"
        | .thrown errorCode => .error errorCode

/-- What has become of a message: nothing, a claim that ended without a call, or a call. -/
inductive MessageResult where
  | cancelled
  | skipped
  | unsent
  | accepted
  | failed
  deriving DecidableEq

def recordAnswer (slot : WindowKey) (now : Instant) (sent : Except String (Option String)) :
    MarketingProg MessageResult :=
  match sent with
  | .ok providerMessageId => do
      let transitioned ← markMessage job messageId
        (CampaignMessage.accepted campaign.channel.provider providerMessageId now)
      if !transitioned then return .unsent
      let _ ← updateCampaigns job (fun row => row.id == campaign.id) fun _ row =>
        { row with acceptedCount := row.acceptedCount + 1 }
      return .accepted
  | .error errorCode => do
      let transitioned ← markMessage job messageId (CampaignMessage.closed .FAILED (some errorCode))
      if !transitioned then return .unsent
      let _ ← updateCampaigns job (fun row => row.id == campaign.id) fun _ row =>
        { row with lastErrorCode := some errorCode }
      let _ ← updateCampaigns job (fun row => row.id == campaign.id) fun _ row =>
        { row with failedCount := row.failedCount + 1 }
      if messageWasNotSent errorCode then releaseMarketingFrequencySlot job messageId slot
      return .failed

/-- A claimed message, through the checks and the slot to the provider. -/
def processClaimed (customer : Customer) (now : Instant) : MarketingProg MessageResult := do
  let cancel (reason : String) : MarketingProg MessageResult := do
    let _ ← markMessage job messageId (CampaignMessage.closed .CANCELLED (some reason))
    return .unsent
  if let .error reason ← eligibility campaign.restaurantId customer campaign.channel now then
    return ← cancel reason
  let slot : WindowKey := ⟨campaign.restaurantId, customer.id, campaign.channel, dayStart now⟩
  if !(← reserveMarketingFrequencySlot job slot) then return ← cancel "FREQUENCY_CAP"
  if let .error reason ← eligibility campaign.restaurantId customer campaign.channel now then
    return ← cancel reason
  let beforeProvider ← query fun data _ => data.campaign? campaign.id campaign.restaurantId
  match beforeProvider.map MarketingCampaign.status with
  | none | some .CANCELLED => cancel "CAMPAIGN_CANCELLED"
  | some .PAUSED | some .FAILED | some .SENT => do
      let _ ← markMessage job messageId (CampaignMessage.closed .PENDING none)
      return .unsent
  | some _ => do
      let sent ← sendOne job input campaign messageId customer slot
      recordAnswer job campaign messageId slot now sent

def processMessage (customer : Customer) (now : Instant) : MarketingProg MessageResult := do
  let current ← query fun data _ => data.campaign? campaign.id campaign.restaurantId
  match current.map MarketingCampaign.status with
  | none | some .CANCELLED => return .cancelled
  | some _ =>
    if !(← claimMessage job messageId) then return .skipped
    processClaimed job input campaign messageId customer now

def JobCounts.add (counts : JobCounts) : MessageResult → JobCounts
  | .cancelled | .skipped => counts
  | .unsent => { counts with processed := counts.processed + 1 }
  | .accepted =>
    { counts with processed := counts.processed + 1, accepted := counts.accepted + 1 }
  | .failed => { counts with processed := counts.processed + 1, failed := counts.failed + 1 }

def processBatch (campaign : MarketingCampaign) (now : Instant) :
    List (CampaignMessage × Customer) → JobCounts → MarketingProg JobCounts
  | [], counts => pure counts
  | (message, customer) :: rest, counts => do
      let result ← processMessage job input campaign message.id customer now
      if result = .cancelled then return counts
      processBatch campaign now rest (counts.add result)

def processBatches (campaign : MarketingCampaign) (now : Instant) :
    Nat → JobCounts → MarketingProg JobCounts
  | 0, counts => pure counts
  | batches + 1, counts => do
      let latest ← query fun data _ => data.campaign? campaign.id campaign.restaurantId
      match latest.map MarketingCampaign.status with
      | none | some .CANCELLED | some .PAUSED | some .FAILED | some .SENT => return counts
      | some _ =>
        let messages ← query fun data _ => data.pendingMessages campaign.id
        if messages.isEmpty then return counts
        let isFull ← query fun _ later =>
          match campaign.targetServiceStart, campaign.targetServiceEnd with
          | some serviceStart, some serviceEnd =>
            WorkerEnv.isTargetServiceFull campaign.restaurantId serviceStart serviceEnd later
          | _, _ => false
        if isFull then
          let _ ← updateCampaigns job
            (fun row => row.id == campaign.id && row.restaurantId == campaign.restaurantId &&
              row.status == .SENDING)
            fun _ row => { row with status := .PAUSED, lastErrorCode := some TARGET_SERVICE_FULL }
          return counts
        let counts ← processBatch job input campaign now messages counts
        processBatches campaign now batches counts

/-- The run takes over a campaign that is ready or scheduled; a scheduled one that no longer fits
the budget of the day becomes ready again. -/
def claimCampaign (now : Instant) : MarketingProg (Except JobError Bool) := do
  let isCampaign (row : MarketingCampaign) : Bool :=
    row.id == campaign.id && row.restaurantId == input.restaurantId
  let waits (row : MarketingCampaign) : Bool :=
    isCampaign row && (row.status == .READY || row.status == .SCHEDULED)
  let started (row : MarketingCampaign) : MarketingCampaign :=
    { row with status := .SENDING, startedAt := some now, lastErrorCode := none }
  if campaign.status = .SCHEDULED ∧ campaign.channel = .EMAIL then
    let exceeds (data : MarketingData) : Bool :=
      data.remainingDailyEmailBudget WorkerEnv.MARKETING_EMAIL_DAILY_BUDGET now campaign.id <
        campaign.audienceCount
    let verdict ← commit job
      (fun data _ => if exceeds data then none else some (data.tables.campaigns.any waits))
      fun data _ => if exceeds data then data else data.updateCampaigns waits started
    match verdict with
    | some claimed => return .ok claimed
    | none =>
      let _ ← updateCampaigns job (fun row => isCampaign row && row.status == .SCHEDULED)
        fun _ row =>
          { row with
            status := .READY
            lastErrorCode := some "MARKETING_DAILY_BUDGET_EXCEEDED" }
      return .error .MARKETING_DAILY_BUDGET_EXCEEDED
  else
    let claimed ← updateCampaigns job waits fun _ => started
    return .ok (0 < claimed)

def runCampaign (now : Instant) : MarketingProg JobCounts := do
  ensureCampaignMessages job campaign
  let stale ← failStaleMessageClaims job campaign.id now
  let counts ← processBatches job input campaign now input.batches ⟨0, 0, stale⟩
  let pending ← query fun data _ => data.countMessages campaign.id .PENDING
  let sending ← query fun data _ => data.countMessages campaign.id .SENDING
  if pending = 0 ∧ sending = 0 then
    let _ ← updateCampaigns job (fun row => row.id == campaign.id) fun _ row =>
      { row with
        status := if 0 < counts.failed then .FAILED else .SENT
        completedAt := some now }
  return counts

def processMarketingCampaignJob : MarketingProg (Except JobError JobCounts) := do
  if !WorkerEnv.MARKETING_SENDS_ENABLED then return .error .MARKETING_SENDS_DISABLED
  let now ← query fun _ now => now
  let campaign ← query fun data _ => data.campaign? input.campaignId input.restaurantId
  match campaign with
  | none => return .ok ⟨0, 0, 0⟩
  | some campaign =>
    if campaign.status = .CANCELLED ∨ campaign.status = .SENT then return .ok ⟨0, 0, 0⟩
    if campaign.status ≠ .READY ∧ campaign.status ≠ .SCHEDULED ∧ campaign.status ≠ .SENDING then
      return .error .CAMPAIGN_NOT_READY
    if campaign.channel = .EMAIL ∧ WorkerEnv.MARKETING_EMAIL_FROM.isNone then
      let _ ← updateCampaigns job
        (fun row => row.id == campaign.id && row.restaurantId == campaign.restaurantId &&
          (row.status == .SENDING || row.status == .SCHEDULED))
        fun _ row =>
          { row with
            status := .READY
            lastErrorCode := some "MARKETING_EMAIL_FROM_MISSING" }
      return .error .MARKETING_EMAIL_FROM_MISSING
    if campaign.status = .SENDING then
      return .ok (← runCampaign job input campaign now)
    match ← claimCampaign job input campaign now with
    | .error error => return .error error
    | .ok false => return .ok ⟨0, 0, 0⟩
    | .ok true => return .ok (← runCampaign job input campaign now)

end

end Sokar.Marketing
