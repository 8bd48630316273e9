import Sokar.Library.Transaction
import Sokar.Shared.Text

/-!
# Claims of notifications

`notification-idempotency` and its callers, command by command: a worker claims the key of a
notification in Redis before it calls the provider, and records there what came of it; a sweep
gives up attempts that were left halfway, and a reconciler asks the provider about those whose
result is unknown.  The queues and the local repair are left out.
-/

namespace Sokar

open Process Transaction

inductive NotificationProvider where
  | telnyx | resend | «meta»
  deriving DecidableEq

inductive NotificationChannel where
  | sms | whatsapp | email
  deriving DecidableEq

inductive NotificationProviderResult where
  | success | failure_certain | unknown
  deriving DecidableEq

inductive NotificationClaimStatus where
  | in_progress | unknown | success
  deriving DecidableEq

/-- `Partial<NotificationClaimMetadata>`. -/
structure NotificationClaimMetadata where
  provider : Option NotificationProvider
  channel : Option NotificationChannel
  providerMessageId : Option String
  deriving DecidableEq

/-- An old value, `claimed`, reads as a record in progress without a token; the instant is missing
where none can be read. -/
structure NotificationClaimRecord where
  status : NotificationClaimStatus
  token : Option String
  provider : Option NotificationProvider
  channel : Option NotificationChannel
  providerMessageId : Option String
  updatedAt : Option Instant
  deriving DecidableEq

/-- A value that Redis keeps until it runs out; no record, when it cannot be read. -/
structure NotificationClaim where
  record : Option NotificationClaimRecord
  expiresAt : Instant
  deriving DecidableEq

structure NotificationSend where
  key : String
  token : String
  deriving DecidableEq

/-- The claims as they were last set, and the calls of providers. -/
structure NotificationData where
  claims : String → Option NotificationClaim
  sends : List NotificationSend

abbrev NotificationCallId := Nat

abbrev NotificationStore := Store NotificationData Empty NotificationCallId

abbrev NotificationProg := Prog NotificationStore

def NOTIFICATION_CLAIM_TTL_SECONDS : Nat := 7 * 24 * 60 * 60

def NOTIFICATION_CLAIM_LEASE_SECONDS : Nat := 15 * 60

namespace NotificationData

variable (data : NotificationData) (key : String) (now : Instant)

/-- What is there and has not run out. -/
def live? : Option NotificationClaim :=
  (data.claims key).filter fun claim => now < claim.expiresAt

/-- `GET`, parsed. -/
def claim? : Option NotificationClaimRecord :=
  (data.live? key now).bind (·.record)

/-- `SET` with `EX`. -/
def setClaim (record : NotificationClaimRecord) (ttlSeconds : Nat) : NotificationData :=
  { data with
    claims := Function.update data.claims key (some ⟨some record, now + ttlSeconds * 1000⟩) }

/-- `DEL`. -/
def deleteClaim : NotificationData :=
  { data with claims := Function.update data.claims key none }

def addSend (send : NotificationSend) : NotificationData :=
  { data with sends := data.sends ++ [send] }

/-- What the scripts write: nothing is left when there is no next record. -/
def replaceClaim (next : Option NotificationClaimRecord) (ttlSeconds : Nat) : NotificationData :=
  match next with
  | none => data.deleteClaim key
  | some record => data.setClaim key now record ttlSeconds

def hasToken (token : String) : Bool :=
  (data.claim? key now).any fun record => record.token == some token

def hasTokenAndStatus (token : String) (status : NotificationClaimStatus) : Bool :=
  (data.claim? key now).any fun record => record.token == some token && record.status == status

end NotificationData

/-- `new Date()`. -/
def notificationNow : NotificationProg Instant :=
  query fun _ now => now

def getNotificationClaim (key : String) : NotificationProg (Option NotificationClaimRecord) :=
  query fun data now => data.claim? key now

structure NotificationClaimAttempt where
  acquired : Bool
  token : Option String
  record : Option NotificationClaimRecord
  deriving DecidableEq

/-- Empty identifiers are left out of a record. -/
def givenText (value : Option String) : Option String :=
  value.filter (· != "")

def NotificationClaimMetadata.record (metadata : NotificationClaimMetadata)
    (status : NotificationClaimStatus) (token : String) (updatedAt : Instant) :
    NotificationClaimRecord where
  status
  token := some token
  provider := metadata.provider
  channel := metadata.channel
  providerMessageId := givenText metadata.providerMessageId
  updatedAt := some updatedAt

def isNotificationClaimOrphaned (record : NotificationClaimRecord) (now : Instant)
    (leaseSeconds : Nat) : Bool :=
  record.status == .in_progress &&
    match record.updatedAt with
    | none => true
    | some updatedAt => decide ((leaseSeconds : Int) * 1000 ≤ now - updatedAt)

section

variable (call : NotificationCallId)

/-- `SET` with `NX`; the token is drawn by the caller. -/
def acquireNotificationClaim (key : String) (metadata : NotificationClaimMetadata)
    (ttlSeconds : Nat) (token : String) : NotificationProg NotificationClaimAttempt := do
  let updatedAt ← notificationNow
  let record := metadata.record .in_progress token updatedAt
  let isSet ← commit call (fun data now => (data.live? key now).isNone) fun data now =>
    if (data.live? key now).isNone then data.setClaim key now record ttlSeconds else data
  if isSet then
    pure { acquired := true, token := some token, record := some record }
  else do
    let existing ← getNotificationClaim key
    pure { acquired := false, token := none, record := existing }

variable (key token : String)

def compareAndReplaceClaim (next : Option NotificationClaimRecord) (ttlSeconds : Nat) :
    NotificationProg Bool :=
  commit call (fun data now => data.hasToken key now token) fun data now =>
    if data.hasToken key now token then data.replaceClaim key now next ttlSeconds else data

def compareAndReplaceClaimIfStatus (expectedStatus : NotificationClaimStatus)
    (next : Option NotificationClaimRecord) (ttlSeconds : Nat) : NotificationProg Bool :=
  commit call (fun data now => data.hasTokenAndStatus key now token expectedStatus) fun data now =>
    if data.hasTokenAndStatus key now token expectedStatus then
      data.replaceClaim key now next ttlSeconds
    else data

def acquireNotificationReconciliationLease (key : String) :
    NotificationProg NotificationClaimAttempt := do
  let now ← notificationNow
  let found ← getNotificationClaim key
  let current := found.filter fun record =>
    record.status == .unknown && (givenText record.token).isSome
  match current, current.bind (·.token) with
  | some current, some token => do
      let next := { current with status := .in_progress, updatedAt := some now }
      let transitioned ← compareAndReplaceClaimIfStatus call key token .unknown (some next)
        NOTIFICATION_CLAIM_TTL_SECONDS
      if transitioned then
        pure { acquired := true, token := some token, record := some next }
      else do
        let latest ← getNotificationClaim key
        pure { acquired := false, token := none, record := latest }
  | _, _ => pure { acquired := false, token := none, record := found }

inductive NotificationClaimRecoveryStatus where
  | active | not_found | not_orphaned | recovered | manual | raced
  deriving DecidableEq

structure NotificationClaimRecoveryResult where
  status : NotificationClaimRecoveryStatus
  record : Option NotificationClaimRecord
  deriving DecidableEq

def recoverNotificationClaim (key : String) : NotificationProg NotificationClaimRecoveryResult := do
  let now ← notificationNow
  let found ← getNotificationClaim key
  match found with
  | none => pure { status := .not_found, record := none }
  | some current =>
    if current.status != .in_progress then pure { status := .not_orphaned, record := current }
    else if !isNotificationClaimOrphaned current now NOTIFICATION_CLAIM_LEASE_SECONDS then
      pure { status := .active, record := current }
    else
      match givenText current.token, current.provider, current.channel with
      | some token, some _, some _ => do
          let updatedAt ← notificationNow
          let transitioned ← compareAndReplaceClaimIfStatus call key token .in_progress
            (some { current with status := .unknown, updatedAt := some updatedAt })
            NOTIFICATION_CLAIM_TTL_SECONDS
          let latest ← getNotificationClaim key
          if transitioned then pure { status := .recovered, record := latest }
          else if latest.isSome then pure { status := .raced, record := latest }
          else pure { status := .not_found, record := none }
      | _, _, _ => pure { status := .manual, record := current }

def recordNotificationResult (outcome : NotificationProviderResult)
    (metadata : NotificationClaimMetadata) : NotificationProg Bool :=
  match outcome with
  | .failure_certain =>
    compareAndReplaceClaim call key token none NOTIFICATION_CLAIM_TTL_SECONDS
  | .success => do
      let updatedAt ← notificationNow
      compareAndReplaceClaim call key token (some (metadata.record .success token updatedAt))
        NOTIFICATION_CLAIM_TTL_SECONDS
  | .unknown => do
      let updatedAt ← notificationNow
      compareAndReplaceClaim call key token (some (metadata.record .unknown token updatedAt))
        NOTIFICATION_CLAIM_TTL_SECONDS

end

/-- A result, with what is known of the attempt. -/
structure NotificationResult where
  outcome : NotificationProviderResult
  metadata : NotificationClaimMetadata
  deriving DecidableEq

/-- A worker that has a notification to send. -/
structure NotificationSender where
  key : String
  metadata : NotificationClaimMetadata
  ttlSeconds : Nat
  token : String
  /-- The notification turns out not to be due. -/
  skipped : Bool
  /-- What is recorded: the result of the provider, and that of an error in what follows. -/
  results : List NotificationResult

inductive NotificationAnswer where
  | sent
  | notAcquired (record : Option NotificationClaimRecord)
  | recovery (result : NotificationClaimRecoveryResult)
  | notFound
  | alreadySuccessful
  | deferred
  | reconciled (outcome : NotificationProviderResult)
  deriving DecidableEq

namespace NotificationSender

variable (sender : NotificationSender) (call : NotificationCallId)

def recordAll : List NotificationResult → NotificationProg Unit
  | [] => pure ()
  | result :: rest => do
      let _ ← recordNotificationResult call sender.key sender.token result.outcome result.metadata
      recordAll rest

def callProvider : NotificationProg Unit :=
  if sender.skipped then pure ()
  else commit call (fun _ _ => ()) fun data _ => data.addSend ⟨sender.key, sender.token⟩

def send : NotificationProg NotificationAnswer := do
  let attempt ← acquireNotificationClaim call sender.key sender.metadata sender.ttlSeconds
    sender.token
  if attempt.acquired then do
    sender.callProvider call
    sender.recordAll call sender.results
    pure .sent
  else pure (.notAcquired attempt.record)

end NotificationSender

/-- A job of the reconciler, with what the provider says and whether the local repair is left to
be done by hand. -/
structure NotificationReconciliation where
  claimKey : String
  provider : NotificationProvider
  channel : NotificationChannel
  providerMessageId : Option String
  lookup : NotificationProviderResult
  repairIsManual : Bool

def NotificationReconciliation.processNotificationReconciliation
    (job : NotificationReconciliation) (call : NotificationCallId) :
    NotificationProg NotificationAnswer := do
  let found ← getNotificationClaim job.claimKey
  match found with
  | none => pure .notFound
  | some claim =>
    if claim.status = .success then pure .alreadySuccessful
    else if claim.status ≠ .unknown then pure .deferred
    else do
      let lease ← acquireNotificationReconciliationLease call job.claimKey
      match if lease.acquired then givenText lease.token else none with
      | none => pure .deferred
      | some token => do
          let leased := lease.record.getD claim
          let metadata : NotificationClaimMetadata :=
            { provider := some (leased.provider.getD job.provider)
              channel := some (leased.channel.getD job.channel)
              providerMessageId := leased.providerMessageId.or job.providerMessageId }
          let outcome : NotificationProviderResult :=
            if (givenText metadata.providerMessageId).isNone then .unknown
            else if job.lookup = .success ∧ job.repairIsManual then .unknown
            else job.lookup
          let _ ← recordNotificationResult call job.claimKey token outcome metadata
          pure (.reconciled outcome)

inductive NotificationCall where
  | send (sender : NotificationSender)
  | recover (key : String)
  | reconcile (job : NotificationReconciliation)

def NotificationCall.prog (call : NotificationCallId) :
    NotificationCall → NotificationProg NotificationAnswer
  | .send sender => sender.send call
  | .recover key => do
      let result ← recoverNotificationClaim call key
      pure (.recovery result)
  | .reconcile job => job.processNotificationReconciliation call

def notificationSystem (calls : NotificationCallId → NotificationCall) :
    System NotificationCallId NotificationStore NotificationAnswer :=
  system fun call => (calls call).prog call

end Sokar
