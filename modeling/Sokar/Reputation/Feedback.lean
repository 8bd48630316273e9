import Mathlib.Data.List.Sort
import Sokar.Library.KeyedRows
import Sokar.Library.Transaction
import Sokar.Shared.Text

/-!
# Feedback requests and recovery tasks

`markReputationFeedbackRequestSent`, `submitReputationFeedback`, `updateReputationRecoveryTask` and
`expireReputationFeedbackRequests` of `reputation.service`, statement by statement.  The statements
of a transaction that follow its last read are one step, the commit: a row it inserts is seen by
others from then on, and whoever wants to write a row it has written waits for it.
-/

namespace Sokar.Reputation

open Process Transaction

inductive ReputationFeedbackChannel where
  | SMS | EMAIL | WHATSAPP
  deriving DecidableEq

inductive ReputationFeedbackRequestStatus where
  | PENDING | SENT | SUBMITTED | EXPIRED | CANCELLED
  deriving DecidableEq

inductive ReputationRecoveryTaskStatus where
  | OPEN | IN_PROGRESS | RESOLVED | DISMISSED
  deriving DecidableEq

inductive ReputationRecoveryPriority where
  | HIGH | NORMAL
  deriving DecidableEq

inductive ReputationError where
  | REPUTATION_TTL_INVALID
  | REPUTATION_SCORE_INVALID
  | REPUTATION_COMMENT_INVALID
  | REPUTATION_TOKEN_INVALID
  | REPUTATION_STATUS_INVALID
  | REPUTATION_RESOLUTION_INVALID
  | REPUTATION_SITE_UNAVAILABLE
  | REPUTATION_FEEDBACK_REQUEST_NOT_FOUND
  | REPUTATION_FEEDBACK_NOT_FOUND
  | REPUTATION_RECOVERY_TASK_NOT_FOUND
  | REPUTATION_FEEDBACK_EXPIRED
  | REPUTATION_FEEDBACK_CANCELLED
  | REPUTATION_RECOVERY_TRANSITION_INVALID
  | P2002
  | P2003
  | P2025
  deriving DecidableEq

/-- A restaurant; it is open unless it is archived or suspended. -/
structure ReputationSite where
  id : Id
  isOpen : Bool
  deriving DecidableEq

structure ReputationFeedbackRequest where
  id : Id
  restaurantId : Id
  reservationId : Id
  customerId : Id
  channel : ReputationFeedbackChannel
  status : ReputationFeedbackRequestStatus
  tokenHash : String
  expiresAt : Instant
  requestedAt : Instant
  sentAt : Option Instant
  submittedAt : Option Instant
  deriving DecidableEq

structure ReputationFeedback where
  id : Id
  requestId : Id
  restaurantId : Id
  reservationId : Id
  customerId : Id
  score : ℚ
  comment : Option String
  submittedAt : Instant
  deriving DecidableEq

structure ReputationRecoveryTask where
  id : Id
  feedbackId : Id
  restaurantId : Id
  reservationId : Id
  customerId : Id
  status : ReputationRecoveryTaskStatus
  priority : ReputationRecoveryPriority
  assignedToHash : Option String
  resolutionCode : Option String
  resolutionNote : Option String
  resolvedAt : Option Instant
  deriving DecidableEq

structure FeedbackTables where
  sites : List ReputationSite
  requests : List ReputationFeedbackRequest
  feedbacks : List ReputationFeedback
  tasks : List ReputationRecoveryTask
  deriving DecidableEq

abbrev FeedbackSession := Nat

abbrev FeedbackStore := Store FeedbackTables Empty FeedbackSession

abbrev FeedbackProg := Prog FeedbackStore

abbrev RequestRow := ReputationFeedbackRequest × Option ReputationFeedback

abbrev RecoveryRow := ReputationRecoveryTask × ReputationFeedback

/-- Neither submitted, expired nor cancelled. -/
def ReputationFeedbackRequestStatus.isOpen (status : ReputationFeedbackRequestStatus) : Bool :=
  [.PENDING, .SENT].contains status

namespace FeedbackTables

variable (tables : FeedbackTables)

def feedbackOf? (requestId : Id) : Option ReputationFeedback :=
  tables.feedbacks.find? fun feedback => feedback.requestId == requestId

def request? (selected : ReputationFeedbackRequest → Bool) : Option RequestRow :=
  (tables.requests.find? selected).map fun request => (request, tables.feedbackOf? request.id)

def feedback? (id : Id) : Option ReputationFeedback :=
  tables.feedbacks.find? fun feedback => feedback.id == id

def task? (selected : ReputationRecoveryTask → Bool) : Option RecoveryRow :=
  (tables.tasks.find? selected).bind fun task =>
    (tables.feedback? task.feedbackId).map fun feedback => (task, feedback)

/-- `update({ where: { id } })` of a request. -/
def updateRequest (id : Id) (change : ReputationFeedbackRequest → ReputationFeedbackRequest) :
    FeedbackTables :=
  { tables with
    requests := KeyedRows.update (fun request => request.id == id) change tables.requests }

def updateTask (id : Id) (change : ReputationRecoveryTask → ReputationRecoveryTask) :
    FeedbackTables :=
  { tables with tasks := KeyedRows.update (fun task => task.id == id) change tables.tasks }

/-- `updateMany` to EXPIRED of the open ones among some requests. -/
def expireRequests (ids : List Id) : FeedbackTables :=
  { tables with
    requests := KeyedRows.update (fun request => ids.contains request.id && request.status.isOpen)
      (fun request => { request with status := .EXPIRED }) tables.requests }

end FeedbackTables

/-- A `Date` that may be left out, or be invalid. -/
inductive DateInput where
  | missing
  | invalid
  | given (date : Instant)
  deriving DecidableEq

def validDate (value : DateInput) : FeedbackProg (Except ReputationError Instant) :=
  query fun _ now =>
    match value with
    | .missing => .ok now
    | .invalid => .error .REPUTATION_TTL_INVALID
    | .given date => .ok date

def MAX_FEEDBACK_COMMENT_LENGTH : Nat := 2000

def HASH_PREFIX : String := "sokar:reputation-feedback:"

/-- `/[\u0000-\u0008\u000b\u000c\u000e-\u001f\u007f]/` finds a character. -/
def hasUnsafeChar (text : String) : Bool :=
  text.toList.any fun char =>
    char.toNat ≤ 0x08 || char.toNat == 0x0B || char.toNat == 0x0C ||
      (0x0E ≤ char.toNat && char.toNat ≤ 0x1F) || char.toNat == 0x7F

def normalizeScore (value : ℚ) : Except ReputationError ℚ :=
  if value.den ≠ 1 ∨ value < 1 ∨ 5 < value then .error .REPUTATION_SCORE_INVALID else .ok value

def normalizeText (failure : ReputationError) (value : Option String) :
    Except ReputationError (Option String) :=
  match value with
  | none => .ok none
  | some value =>
    let text := trim value
    if MAX_FEEDBACK_COMMENT_LENGTH < utf16Length text || hasUnsafeChar text then .error failure
    else .ok (if text = "" then none else some text)

def normalizeComment : Option String → Except ReputationError (Option String) :=
  normalizeText .REPUTATION_COMMENT_INVALID

def normalizeResolutionNote : Option String → Except ReputationError (Option String) :=
  normalizeText .REPUTATION_RESOLUTION_INVALID

/-- `/^[A-Za-z0-9_-]{32,200}$/`. -/
def normalizeToken (value : String) : Except ReputationError String :=
  let token := trim value
  if (token.toList.all fun char => char.isAlphanum || ['_', '-'].contains char) &&
      32 ≤ token.length && token.length ≤ 200 then .ok token
  else .error .REPUTATION_TOKEN_INVALID

def normalizeStatus (value : String) : Except ReputationError ReputationRecoveryTaskStatus :=
  match value with
  | "OPEN" => .ok .OPEN
  | "IN_PROGRESS" => .ok .IN_PROGRESS
  | "RESOLVED" => .ok .RESOLVED
  | "DISMISSED" => .ok .DISMISSED
  | _ => .error .REPUTATION_STATUS_INVALID

/-- `/^[A-Z][A-Z0-9_.-]{1,31}$/`. -/
def isResolutionCode (code : String) : Bool :=
  match code.toList with
  | [] => false
  | first :: rest =>
    (('A' ≤ first && first ≤ 'Z') && rest.all fun char =>
      ('A' ≤ char && char ≤ 'Z') || char.isDigit || ['_', '.', '-'].contains char) &&
        1 ≤ rest.length && rest.length ≤ 31

def normalizeResolutionCode [UnicodeCase] (value : Option String) :
    Except ReputationError (Option String) :=
  match value with
  | none => .ok none
  | some value =>
    if trim value = "" then .ok none
    else
      let code := UnicodeCase.toUpperCase (trim value)
      if isResolutionCode code then .ok (some code) else .error .REPUTATION_RESOLUTION_INVALID

def hashToken [Sha256] (token : String) : String :=
  Sha256.sha256 (HASH_PREFIX ++ token)

structure ReputationFeedbackRequestView where
  request : ReputationFeedbackRequest
  feedbackSubmitted : Bool
  deriving DecidableEq

def toRequestView (row : RequestRow) : ReputationFeedbackRequestView :=
  ⟨row.1, row.2.isSome⟩

structure ReputationRecoveryTaskView where
  task : ReputationRecoveryTask
  assigned : Bool
  score : ℚ
  comment : Option String
  deriving DecidableEq

def toRecoveryView (row : RecoveryRow) : ReputationRecoveryTaskView :=
  ⟨{ row.1 with assignedToHash := none }, row.1.assignedToHash.any (· ≠ ""), row.2.score,
    row.2.comment⟩

structure ReputationFeedbackSubmissionResult where
  feedback : ReputationFeedback
  recoveryTask : Option ReputationRecoveryTaskView
  replayed : Bool
  deriving DecidableEq

variable (session : FeedbackSession)

/-- `update` of the request found before, whatever its status is by now. -/
def commitSent (id : Id) (sentAt : Instant) :
    FeedbackProg (Except ReputationError ReputationFeedbackRequestView) :=
  let sent (tables : FeedbackTables) : FeedbackTables :=
    tables.updateRequest id fun request => { request with status := .SENT, sentAt := some sentAt }
  commit session
    (fun tables _ => match (sent tables).request? fun request => request.id == id with
      | none => .error .P2025
      | some row => .ok (toRequestView row))
    fun tables _ => sent tables

structure MarkSentInput where
  restaurantId : Id
  requestId : Id
  sentAt : DateInput
  deriving DecidableEq

def MarkSentInput.markReputationFeedbackRequestSent (input : MarkSentInput) :
    FeedbackProg (Except ReputationError ReputationFeedbackRequestView) :=
  (validDate input.sentAt).andThen fun sentAt =>
    (query fun (tables : FeedbackTables) _ => tables.request? fun request =>
        request.id == input.requestId && request.restaurantId == input.restaurantId) >>= fun
      | none => pure (.error .REPUTATION_FEEDBACK_REQUEST_NOT_FOUND)
      | some existing =>
        match existing.1.status with
        | .SUBMITTED => pure (.ok (toRequestView existing))
        | .EXPIRED => pure (.error .REPUTATION_FEEDBACK_EXPIRED)
        | .CANCELLED => pure (.error .REPUTATION_FEEDBACK_CANCELLED)
        | _ => commitSent session existing.1.id sentAt

structure ExpireInput where
  now : DateInput
  limit : Option Int
  deriving DecidableEq

/-- Open requests whose time has come, the first to expire first. -/
def FeedbackTables.expiring (tables : FeedbackTables) (now : Instant) (limit : Nat) : List Id :=
  (((tables.requests.filter fun request => request.status.isOpen && request.expiresAt ≤ now)
    |>.insertionSort fun request other =>
      request.expiresAt < other.expiresAt ∨
        request.expiresAt = other.expiresAt ∧ request.id ≤ other.id)
    |>.take limit).map ReputationFeedbackRequest.id

def ExpireInput.expireReputationFeedbackRequests (input : ExpireInput) :
    FeedbackProg (Except ReputationError Nat) :=
  (validDate input.now).andThen fun now =>
    let limit := (min (max (input.limit.getD 500) 1) 5000).toNat
    (query fun (tables : FeedbackTables) _ => tables.expiring now limit) >>= fun rows =>
      if rows.isEmpty then pure (.ok 0)
      else commit session
        (fun tables _ => .ok (tables.requests.countP fun request =>
          rows.contains request.id && request.status.isOpen))
        fun tables _ => tables.expireRequests rows

/-- What was submitted before is answered again. -/
def replay (feedback : ReputationFeedback) :
    FeedbackProg (Except ReputationError ReputationFeedbackSubmissionResult) :=
  (query fun (tables : FeedbackTables) _ => tables.feedback? feedback.id) >>= fun
    | none => pure (.error .REPUTATION_FEEDBACK_NOT_FOUND)
    | some feedback =>
      (query fun (tables : FeedbackTables) _ => tables.task? fun task =>
          task.feedbackId == feedback.id) >>= fun recovery =>
        pure (.ok ⟨feedback, recovery.map toRecoveryView, true⟩)

/-- The rows that the transaction inserts. -/
structure Submission where
  feedback : ReputationFeedback
  task : Option ReputationRecoveryTask
  deriving DecidableEq

/-- A unique key of one of the rows is taken. -/
def Submission.conflicts (submission : Submission) (tables : FeedbackTables) : Bool :=
  (tables.feedbacks.any fun feedback =>
    feedback.id == submission.feedback.id || feedback.requestId == submission.feedback.requestId) ||
  submission.task.any fun task => tables.tasks.any fun other =>
    other.id == task.id || other.feedbackId == task.feedbackId

/-- The feedback is inserted, its request updated by id and, for a low score, a task inserted. -/
def Submission.change (submission : Submission) (tables : FeedbackTables) : FeedbackTables :=
  { tables.updateRequest submission.feedback.requestId fun request =>
      { request with
        status := .SUBMITTED
        submittedAt := some submission.feedback.submittedAt } with
    feedbacks := tables.feedbacks ++ [submission.feedback]
    tasks := tables.tasks ++ submission.task.toList }

def Submission.failure? (submission : Submission) (tables : FeedbackTables) :
    Option ReputationError :=
  if submission.conflicts tables then some .P2002
  else if tables.requests.any fun request => request.id == submission.feedback.requestId then none
  else some .P2003

def Submission.commit (submission : Submission) :
    FeedbackProg (Except ReputationError ReputationFeedbackSubmissionResult) :=
  Transaction.commit session
    (fun tables _ => match submission.failure? tables with
      | some error => .error error
      | none => .ok ⟨submission.feedback,
          submission.task.map fun task => toRecoveryView (task, submission.feedback), false⟩)
    fun tables _ =>
      if (submission.failure? tables).isSome then tables else submission.change tables

/-- The ids are those that the rows get if they are inserted. -/
structure SubmitInput where
  token : String
  score : ℚ
  comment : Option String
  now : DateInput
  feedbackId : Id
  taskId : Id
  deriving DecidableEq

variable (input : SubmitInput)

def SubmitInput.submission (current : ReputationFeedbackRequest) (score : ℚ)
    (comment : Option String) (now : Instant) : Submission where
  feedback := {
    id := input.feedbackId
    requestId := current.id
    restaurantId := current.restaurantId
    reservationId := current.reservationId
    customerId := current.customerId
    score
    comment
    submittedAt := now }
  task :=
    if score ≤ 2 then some {
      id := input.taskId
      feedbackId := input.feedbackId
      restaurantId := current.restaurantId
      reservationId := current.reservationId
      customerId := current.customerId
      status := .OPEN
      priority := if score = 1 then .HIGH else .NORMAL
      assignedToHash := none
      resolutionCode := none
      resolutionNote := none
      resolvedAt := none }
    else none

/-- The transaction: the request is read again, and nothing keeps it from changing after that. -/
def SubmitInput.transaction (requestId : Id) (score : ℚ) (comment : Option String) (now : Instant) :
    FeedbackProg (Except ReputationError ReputationFeedbackSubmissionResult) :=
  (query fun (tables : FeedbackTables) _ =>
      tables.request? fun request => request.id == requestId) >>= fun
    | none => pure (.error .REPUTATION_FEEDBACK_REQUEST_NOT_FOUND)
    | some (current, feedback) =>
      match current.status, feedback with
      | .SUBMITTED, some feedback => replay feedback
      | .CANCELLED, _ => pure (.error .REPUTATION_FEEDBACK_CANCELLED)
      | status, _ =>
        if status = .EXPIRED ∨ current.expiresAt ≤ now then
          pure (.error .REPUTATION_FEEDBACK_EXPIRED)
        else (input.submission current score comment now).commit session

/-- When somebody else came first, what they submitted is answered. -/
def replayRaced (tokenHash : String) :
    FeedbackProg (Except ReputationError ReputationFeedbackSubmissionResult) :=
  (query fun (tables : FeedbackTables) _ =>
      (tables.request? fun request => request.tokenHash == tokenHash).bind Prod.snd) >>= fun
    | none => pure (.error .REPUTATION_FEEDBACK_NOT_FOUND)
    | some feedback => replay feedback

/-- Expired requests are marked so, unless they were closed in between. -/
def expireOne (request : ReputationFeedbackRequest) :
    FeedbackProg (Except ReputationError ReputationFeedbackSubmissionResult) :=
  if request.status = .EXPIRED then pure (.error .REPUTATION_FEEDBACK_EXPIRED)
  else commit session (fun _ _ => .error .REPUTATION_FEEDBACK_EXPIRED) fun tables _ =>
    tables.expireRequests [request.id]

section

variable [Sha256]

def SubmitInput.submitReputationFeedback :
    FeedbackProg (Except ReputationError ReputationFeedbackSubmissionResult) :=
  match normalizeToken input.token, normalizeScore input.score, normalizeComment input.comment with
  | .error error, _, _ => pure (.error error)
  | .ok _, .error error, _ => pure (.error error)
  | .ok _, .ok _, .error error => pure (.error error)
  | .ok token, .ok score, .ok comment =>
    (validDate input.now).andThen fun now =>
      let tokenHash := hashToken token
      (query fun (tables : FeedbackTables) _ =>
          tables.request? fun request => request.tokenHash == tokenHash) >>= fun
        | none => pure (.error .REPUTATION_FEEDBACK_REQUEST_NOT_FOUND)
        | some (request, feedback) =>
          match request.status, feedback with
          | .SUBMITTED, some feedback => replay feedback
          | .CANCELLED, _ => pure (.error .REPUTATION_FEEDBACK_CANCELLED)
          | status, _ =>
            if status = .EXPIRED ∨ request.expiresAt ≤ now then expireOne session request
            else input.transaction session request.id score comment now >>= fun
              | .error .P2002 => replayRaced tokenHash
              | result => pure result

end

def allowedTransitions : ReputationRecoveryTaskStatus → List ReputationRecoveryTaskStatus
  | .OPEN => [.IN_PROGRESS, .RESOLVED, .DISMISSED]
  | .IN_PROGRESS => [.OPEN, .RESOLVED, .DISMISSED]
  | .RESOLVED => []
  | .DISMISSED => []

/-- `assertRecoveryTransition` lets it pass. -/
def allowsTransition (current next : ReputationRecoveryTaskStatus) : Bool :=
  current == next || (allowedTransitions current).contains next

def assertActiveRestaurant (restaurantId : Id) : FeedbackProg (Except ReputationError Unit) :=
  query fun tables _ =>
    if tables.sites.any fun site => site.id == restaurantId && site.isOpen then .ok ()
    else .error .REPUTATION_SITE_UNAVAILABLE

structure UpdateTaskInput where
  restaurantId : Id
  taskId : Id
  status : String
  resolutionCode : Option String
  resolutionNote : Option String
  actor : Option String
  now : DateInput
  deriving DecidableEq

variable (input : UpdateTaskInput)

section

variable [UnicodeCase] [Sha256]

def UpdateTaskInput.actorHash : Option String :=
  (input.actor.map trim).bind fun actor =>
    if actor = "" then none
    else some (Sha256.sha256 ("sokar:reputation-recovery:" ++ actor))

def isClosing (status : ReputationRecoveryTaskStatus) : Bool :=
  status == .RESOLVED || status == .DISMISSED

/-- The update of the task that was read, whatever its status is by now. -/
def UpdateTaskInput.commitTask (id : Id) (status : ReputationRecoveryTaskStatus)
    (resolutionCode resolutionNote : Option String) (now : Instant) :
    FeedbackProg (Except ReputationError ReputationRecoveryTaskView) :=
  let updated (tables : FeedbackTables) : FeedbackTables :=
    tables.updateTask id fun task => { task with
      status
      assignedToHash :=
        if status = .IN_PROGRESS ∧ input.actorHash.isSome then input.actorHash
        else task.assignedToHash
      resolutionCode
      resolutionNote
      resolvedAt := if isClosing status then some now else none }
  commit session
    (fun tables _ => match (updated tables).task? fun task => task.id == id with
      | none => .error .P2025
      | some row => .ok (toRecoveryView row))
    fun tables _ => updated tables

def UpdateTaskInput.updateReputationRecoveryTask :
    FeedbackProg (Except ReputationError ReputationRecoveryTaskView) :=
  (assertActiveRestaurant input.restaurantId).andThen fun _ =>
    match normalizeStatus input.status, normalizeResolutionCode input.resolutionCode,
        normalizeResolutionNote input.resolutionNote with
    | .error error, _, _ => pure (.error error)
    | .ok _, .error error, _ => pure (.error error)
    | .ok _, .ok _, .error error => pure (.error error)
    | .ok status, .ok resolutionCode, .ok resolutionNote =>
      (validDate input.now).andThen fun now =>
        if isClosing status ∧ resolutionCode = none then
          pure (.error .REPUTATION_RESOLUTION_INVALID)
        else (query fun (tables : FeedbackTables) _ => tables.task? fun task =>
            task.id == input.taskId && task.restaurantId == input.restaurantId) >>= fun
          | none => pure (.error .REPUTATION_RECOVERY_TASK_NOT_FOUND)
          | some (current, _) =>
            if allowsTransition current.status status then
              input.commitTask session current.id status resolutionCode resolutionNote now
            else pure (.error .REPUTATION_RECOVERY_TRANSITION_INVALID)

end

inductive FeedbackCall where
  | markSent (input : MarkSentInput)
  | submit (input : SubmitInput)
  | expire (input : ExpireInput)
  | updateTask (input : UpdateTaskInput)

inductive FeedbackAnswer where
  | request (view : ReputationFeedbackRequestView)
  | submitted (result : ReputationFeedbackSubmissionResult)
  | expired (count : Nat)
  | task (view : ReputationRecoveryTaskView)
  deriving DecidableEq

variable [UnicodeCase] [Sha256]

def FeedbackCall.prog : FeedbackCall → FeedbackProg (Except ReputationError FeedbackAnswer)
  | .markSent input =>
    (input.markReputationFeedbackRequestSent session).andThen fun view =>
      pure (.ok (.request view))
  | .submit input =>
    (input.submitReputationFeedback session).andThen fun result => pure (.ok (.submitted result))
  | .expire input =>
    (input.expireReputationFeedbackRequests session).andThen fun count =>
      pure (.ok (.expired count))
  | .updateTask input =>
    (input.updateReputationRecoveryTask session).andThen fun view => pure (.ok (.task view))

def feedbackSystem (calls : FeedbackSession → FeedbackCall) :
    System FeedbackSession FeedbackStore (Except ReputationError FeedbackAnswer) :=
  system fun session => (calls session).prog session

end Sokar.Reputation
