import Sokar.Library.StepRelations
import Sokar.Reputation.Feedback

/-!
# Closed requests and tasks

A request has one feedback when it is submitted, and none before.  What closes a request or a task
is for good as long as no late write comes after it: sending, submitting and updating a task read
the status, decide, and write by id in a later statement.  Only the expiry checks the status in the
statement that writes.
-/

namespace Sokar.Reputation

open Process Transaction

/-! ## What holds of requests and tasks -/

/-- A request has at most one feedback, and has one if and only if it is submitted. -/
structure FeedbackTables.Answered (tables : FeedbackTables) : Prop where
  atMostOne : ∀ feedback ∈ tables.feedbacks, ∀ other ∈ tables.feedbacks,
    feedback.requestId = other.requestId → feedback = other
  submitted : ∀ request ∈ tables.requests, request.status = .SUBMITTED ↔
    ∃ feedback ∈ tables.feedbacks, feedback.requestId = request.id

variable (tables : FeedbackTables)

def FeedbackTables.requestStatus? (id : Id) : Option ReputationFeedbackRequestStatus :=
  (KeyedRows.lookup ReputationFeedbackRequest.id tables.requests id).map
    ReputationFeedbackRequest.status

def FeedbackTables.taskStatus? (id : Id) : Option ReputationRecoveryTaskStatus :=
  (KeyedRows.lookup ReputationRecoveryTask.id tables.tasks id).map ReputationRecoveryTask.status

/-- What is submitted, expired or cancelled stays so, and so do tasks resolved or dismissed. -/
structure KeepsClosed (tables tables' : FeedbackTables) : Prop where
  requests : ∀ id status, tables.requestStatus? id = some status → status.isOpen = false →
    tables'.requestStatus? id = some status
  tasks : ∀ id status, tables.taskStatus? id = some status → isClosing status = true →
    tables'.taskStatus? id = some status

theorem KeepsClosed.refl : KeepsClosed tables tables :=
  ⟨fun _ _ found _ => found, fun _ _ found _ => found⟩

theorem KeepsClosed.trans {tables tables' tables'' : FeedbackTables}
    (first : KeepsClosed tables tables') (second : KeepsClosed tables' tables'') :
    KeepsClosed tables tables'' where
  requests id status found closed :=
    second.requests id status (first.requests id status found closed) closed
  tasks id status found closed := second.tasks id status (first.tasks id status found closed) closed

/-- Requests keep their ids and tokens; ids are unique, and a request has one feedback if and only
if it is submitted. -/
structure FeedbackTables.Sound (tokens : List (Id × String)) (tables : FeedbackTables) : Prop where
  ids : (tokens.map Prod.fst).Nodup
  requests : (tables.requests.map fun request => (request.id, request.tokenHash)) = tokens
  tasks : (tables.tasks.map ReputationRecoveryTask.id).Nodup
  feedbacks : (tables.feedbacks.map ReputationFeedback.requestId).Nodup
  submitted : ∀ request ∈ tables.requests, request.status = .SUBMITTED ↔
    ∃ feedback ∈ tables.feedbacks, feedback.requestId = request.id

variable {tokens : List (Id × String)} {tables tables' : FeedbackTables}

theorem FeedbackTables.Sound.answered (sound : tables.Sound tokens) : tables.Answered where
  atMostOne _ isFeedback _ isOther same :=
    List.inj_on_of_nodup_map sound.feedbacks isFeedback isOther same
  submitted := sound.submitted

theorem FeedbackTables.Sound.token (sound : tables.Sound tokens)
    {request : ReputationFeedbackRequest} (isRequest : request ∈ tables.requests) :
    (request.id, request.tokenHash) ∈ tokens :=
  sound.requests ▸ List.mem_map_of_mem isRequest

theorem FeedbackTables.Sound.sameToken (sound : tables.Sound tokens) {id : Id} {hash other : String}
    (isToken : (id, hash) ∈ tokens) (isOther : (id, other) ∈ tokens) : hash = other :=
  congrArg Prod.snd (List.inj_on_of_nodup_map sound.ids isToken isOther rfl)

theorem mem_update {Row : Type} {selected : Row → Bool} {change : Row → Row} {rows : List Row}
    {row : Row} (isRow : row ∈ KeyedRows.update selected change rows) :
    ∃ old ∈ rows, row = if selected old then change old else old := by
  obtain ⟨old, isOld, becomes⟩ := List.mem_map.1 isRow
  exact ⟨old, isOld, becomes.symm⟩

/-- What an update of requests leaves as it is. -/
structure KeepsRequest (change : ReputationFeedbackRequest → ReputationFeedbackRequest) : Prop where
  id : ∀ request, (change request).id = request.id
  tokenHash : ∀ request, (change request).tokenHash = request.tokenHash

section

variable {selected : ReputationFeedbackRequest → Bool}
  {change : ReputationFeedbackRequest → ReputationFeedbackRequest}

theorem tokens_update (keeps : KeepsRequest change) (requests : List ReputationFeedbackRequest) :
    (KeyedRows.update selected change requests).map
        (fun request => (request.id, request.tokenHash)) =
      requests.map fun request => (request.id, request.tokenHash) :=
  KeyedRows.map_update _ _ fun request => Prod.ext (keeps.id request) (keeps.tokenHash request)

theorem FeedbackTables.Sound.update (sound : tables.Sound tokens) (keeps : KeepsRequest change)
    (isOpen : ∀ request ∈ tables.requests, selected request = true → request.status.isOpen = true)
    (unanswered : ∀ request, (change request).status ≠ .SUBMITTED) :
    ({ tables with requests := KeyedRows.update selected change tables.requests } :
      FeedbackTables).Sound tokens where
  ids := sound.ids
  requests := (tokens_update keeps _).trans sound.requests
  tasks := sound.tasks
  feedbacks := sound.feedbacks
  submitted request isRequest := by
    obtain ⟨old, isOld, rfl⟩ := mem_update isRequest
    by_cases isSelected : selected old = true
    · rw [if_pos isSelected, keeps.id, ← sound.submitted old isOld]
      refine iff_of_false (unanswered old) fun submitted => ?_
      have stillOpen := isOpen old isOld isSelected
      rw [submitted] at stillOpen
      cases stillOpen
    · rw [if_neg isSelected]
      exact sound.submitted old isOld

theorem requestStatus_update (keeps : KeepsRequest change)
    (isOpen : ∀ request ∈ tables.requests, selected request = true → request.status.isOpen = true)
    {id : Id} {status : ReputationFeedbackRequestStatus}
    (found : tables.requestStatus? id = some status) (closed : status.isOpen = false) :
    ({ tables with requests := KeyedRows.update selected change tables.requests } :
      FeedbackTables).requestStatus? id = some status := by
  obtain ⟨request, isFound, isStatus⟩ := Option.map_eq_some_iff.1 found
  have unselected : selected request = false := by
    refine Bool.eq_false_iff.2 fun isSelected => ?_
    have stillOpen := isOpen request (KeyedRows.mem_of_lookup isFound) isSelected
    rw [isStatus, closed] at stillOpen
    cases stillOpen
  unfold FeedbackTables.requestStatus?
  rw [KeyedRows.lookup_update _ keeps.id, isFound]
  simp [unselected, isStatus]

end

theorem keepsRequest_sent (sentAt : Instant) : KeepsRequest fun request =>
    { request with status := .SENT, sentAt := some sentAt } :=
  ⟨fun _ => rfl, fun _ => rfl⟩

theorem keepsRequest_expired : KeepsRequest fun request => { request with status := .EXPIRED } :=
  ⟨fun _ => rfl, fun _ => rfl⟩

theorem keepsRequest_submitted (now : Instant) : KeepsRequest fun request =>
    { request with status := .SUBMITTED, submittedAt := some now } :=
  ⟨fun _ => rfl, fun _ => rfl⟩

/-- The submission of an open request answers it, and no other one. -/
theorem FeedbackTables.Sound.change {submission : Submission} (sound : tables.Sound tokens)
    (free : submission.conflicts tables = false) : (submission.change tables).Sound tokens := by
  obtain ⟨freeFeedback, freeTask⟩ := Bool.or_eq_false_iff.1 free
  have newRequest : ∀ feedback ∈ tables.feedbacks,
      feedback.requestId ≠ submission.feedback.requestId := by
    intro feedback isFeedback same
    have apart := List.any_eq_false.1 freeFeedback feedback isFeedback
    simp [same] at apart
  refine ⟨sound.ids, (tokens_update (keepsRequest_submitted _) _).trans sound.requests, ?_, ?_, ?_⟩
  · rw [Submission.change, List.map_append, List.nodup_append]
    refine ⟨sound.tasks, ?_, ?_⟩
    · cases submission.task <;> simp
    · intro id isId other isOther same
      obtain ⟨task, isTask, rfl⟩ := List.mem_map.1 isId
      obtain ⟨added, isAdded, rfl⟩ := List.mem_map.1 isOther
      rw [Option.mem_toList] at isAdded
      rw [isAdded, Option.any_some] at freeTask
      have apart := List.any_eq_false.1 freeTask task isTask
      simp [same] at apart
  · exact KeyedRows.nodup_append sound.feedbacks newRequest
  · intro request isRequest
    obtain ⟨old, isOld, rfl⟩ := mem_update isRequest
    by_cases isIts : old.id = submission.feedback.requestId
    · rw [if_pos (beq_iff_eq.2 isIts)]
      refine iff_of_true rfl ⟨submission.feedback, ?_, isIts.symm⟩
      exact List.mem_append_right _ (List.mem_singleton_self _)
    · rw [if_neg (fun selected => isIts (beq_iff_eq.1 selected)), sound.submitted old isOld]
      constructor
      · rintro ⟨feedback, isFeedback, about⟩
        exact ⟨feedback, List.mem_append_left _ isFeedback, about⟩
      · rintro ⟨feedback, isFeedback, about⟩
        rcases List.mem_append.1 isFeedback with old | added
        · exact ⟨feedback, old, about⟩
        · cases List.mem_singleton.1 added
          exact absurd about.symm isIts

theorem taskStatus_change (submission : Submission) {id : Id}
    {status : ReputationRecoveryTaskStatus} (found : tables.taskStatus? id = some status) :
    (submission.change tables).taskStatus? id = some status := by
  obtain ⟨task, isFound, isStatus⟩ := Option.map_eq_some_iff.1 found
  have stays : KeyedRows.lookup ReputationRecoveryTask.id
      (tables.tasks ++ submission.task.toList) id = some task := by
    rw [KeyedRows.lookup, List.find?_append]
    rw [KeyedRows.lookup] at isFound
    simp [isFound]
  unfold FeedbackTables.taskStatus?
  rw [Submission.change, stays, Option.map_some, isStatus]

theorem eq_of_allows {status next : ReputationRecoveryTaskStatus} (closed : isClosing status = true)
    (allowed : allowsTransition status next = true) : status = next := by
  cases status with
  | OPEN => exact absurd closed Bool.false_ne_true
  | IN_PROGRESS => exact absurd closed Bool.false_ne_true
  | RESOLVED => simpa [allowsTransition, allowedTransitions] using allowed
  | DISMISSED => simpa [allowsTransition, allowedTransitions] using allowed

theorem taskStatus_update {change : ReputationRecoveryTask → ReputationRecoveryTask} {taskId : Id}
    {next : ReputationRecoveryTaskStatus} (keepsId : ∀ task, (change task).id = task.id)
    (setsStatus : ∀ task, (change task).status = next)
    (allows : ∀ task ∈ tables.tasks, task.id = taskId → allowsTransition task.status next = true)
    {id : Id} {status : ReputationRecoveryTaskStatus}
    (found : tables.taskStatus? id = some status) (closed : isClosing status = true) :
    (tables.updateTask taskId change).taskStatus? id = some status := by
  obtain ⟨task, isFound, isStatus⟩ := Option.map_eq_some_iff.1 found
  unfold FeedbackTables.taskStatus? FeedbackTables.updateTask
  rw [KeyedRows.lookup_update_key taskId keepsId, isFound]
  split
  next same =>
    have isId := KeyedRows.key_of_lookup isFound
    have allowed := allows task (KeyedRows.mem_of_lookup isFound) (isId.trans same)
    rw [isStatus] at allowed
    rw [Option.map_some, Option.map_some, setsStatus, eq_of_allows closed allowed]
  next => rw [Option.map_some, isStatus]

theorem request_some {selected : ReputationFeedbackRequest → Bool} {row : RequestRow}
    (found : tables.request? selected = some row) :
    row.1 ∈ tables.requests ∧ selected row.1 = true := by
  obtain ⟨request, isFound, rfl⟩ := Option.map_eq_some_iff.1 found
  exact ⟨List.mem_of_find?_eq_some isFound, List.find?_some isFound⟩

theorem task_some {selected : ReputationRecoveryTask → Bool} {row : RecoveryRow}
    (found : tables.task? selected = some row) : selected row.1 = true := by
  obtain ⟨task, isFound, ofTask⟩ := Option.bind_eq_some_iff.1 found
  obtain ⟨feedback, -, rfl⟩ := Option.map_eq_some_iff.1 ofTask
  exact List.find?_some isFound

section

variable [Sha256]

inductive FeedbackCall.Writes (tokens : List (Id × String)) (tables : FeedbackTables) :
    FeedbackCall → FeedbackTables → Prop where
  | nothing (call : FeedbackCall) : Writes tokens tables call tables
  | sent (input : MarkSentInput) (sentAt : Instant) :
      Writes tokens tables (.markSent input) (tables.updateRequest input.requestId fun request =>
        { request with status := .SENT, sentAt := some sentAt })
  | expired (call : FeedbackCall) (ids : List Id) :
      Writes tokens tables call (tables.expireRequests ids)
  | submitted (input : SubmitInput) (submission : Submission)
      (isToken : (submission.feedback.requestId, hashToken (trim input.token)) ∈ tokens)
      (free : submission.conflicts tables = false) :
      Writes tokens tables (.submit input) (submission.change tables)
  | updated (input : UpdateTaskInput) (status : ReputationRecoveryTaskStatus)
      (isStatus : normalizeStatus input.status = .ok status)
      (change : ReputationRecoveryTask → ReputationRecoveryTask)
      (keepsId : ∀ task, (change task).id = task.id)
      (setsStatus : ∀ task, (change task).status = status) :
      Writes tokens tables (.updateTask input) (tables.updateTask input.taskId change)

/-- What a call is about to write is still as its decision requires: the request is open, the task
may be given the status. -/
def FeedbackCall.FindsOpen (tables : FeedbackTables) : FeedbackCall → Prop
  | .markSent input => ∀ request ∈ tables.requests, request.id = input.requestId →
      request.status.isOpen = true
  | .submit input => ∀ request ∈ tables.requests,
      request.tokenHash = hashToken (trim input.token) → request.status.isOpen = true
  | .expire _ => True
  | .updateTask input => ∀ task ∈ tables.tasks, task.id = input.taskId →
      (normalizeStatus input.status).toOption.all (allowsTransition task.status) = true

instance (tables : FeedbackTables) (call : FeedbackCall) : Decidable (call.FindsOpen tables) := by
  cases call <;> unfold FeedbackCall.FindsOpen <;> infer_instance

/-- A step that writes finds open what it writes. -/
def Timely (calls : FeedbackSession → FeedbackCall) (move : Move FeedbackSession FeedbackStore) :
    Prop :=
  move.after.data ≠ move.before.data → (calls move.session).FindsOpen move.before.data

instance (calls : FeedbackSession → FeedbackCall) (move : Move FeedbackSession FeedbackStore) :
    Decidable (Timely calls move) := by
  unfold Timely
  infer_instance

/-- A timely step keeps what holds of requests, and what is closed stays so. -/
theorem kept_of_writes {call : FeedbackCall} (writes : FeedbackCall.Writes tokens tables call tables')
    (timely : tables' ≠ tables → call.FindsOpen tables) (sound : tables.Sound tokens) :
    tables'.Sound tokens ∧ KeepsClosed tables tables' := by
  by_cases same : tables' = tables
  · subst same
    exact ⟨sound, .refl _⟩
  have findsOpen := timely same
  cases writes with
  | nothing => exact absurd rfl same
  | sent input sentAt =>
    have isOpen : ∀ request ∈ tables.requests, (request.id == input.requestId) = true →
        request.status.isOpen = true :=
      fun request isRequest selected => findsOpen request isRequest (beq_iff_eq.1 selected)
    constructor
    · exact sound.update (keepsRequest_sent sentAt) isOpen fun _ impossible => nomatch impossible
    · constructor
      · intro id status found closed
        exact requestStatus_update (keepsRequest_sent sentAt) isOpen found closed
      · exact fun _ _ found _ => found
  | expired call ids =>
    have isOpen : ∀ request ∈ tables.requests,
        (ids.contains request.id && request.status.isOpen) = true →
          request.status.isOpen = true :=
      fun _ _ selected => (Bool.and_eq_true_iff.1 selected).2
    constructor
    · exact sound.update keepsRequest_expired isOpen fun _ impossible => nomatch impossible
    · constructor
      · intro id status found closed
        exact requestStatus_update keepsRequest_expired isOpen found closed
      · exact fun _ _ found _ => found
  | submitted input submission isToken free =>
    refine ⟨sound.change free, ?_, ?_⟩
    · intro id status found closed
      have isOpen : ∀ request ∈ tables.requests,
          (request.id == submission.feedback.requestId) = true →
            request.status.isOpen = true := by
        intro request isRequest selected
        have token := sound.token isRequest
        rw [beq_iff_eq.1 selected] at token
        exact findsOpen request isRequest (sound.sameToken token isToken)
      exact requestStatus_update (keepsRequest_submitted _) isOpen found closed
    · exact fun _ _ found _ => taskStatus_change submission found
  | updated input status isStatus change keepsId setsStatus =>
    have allows : ∀ task ∈ tables.tasks, task.id = input.taskId →
        allowsTransition task.status status = true := by
      intro task isTask isIts
      have allowed := findsOpen task isTask isIts
      rw [isStatus] at allowed
      exact allowed
    constructor
    · refine ⟨sound.ids, sound.requests, ?_, sound.feedbacks, sound.submitted⟩
      unfold FeedbackTables.updateTask
      rw [KeyedRows.map_update _ _ keepsId]
      exact sound.tasks
    · constructor
      · exact fun _ _ found _ => found
      · exact fun _ _ found closed => taskStatus_update keepsId setsStatus allows found closed

section

variable {α β : Type} {session : FeedbackSession} {call : FeedbackCall}

/-- What the steps of a call do while requests are as they should be. -/
abbrev StepsAs (tokens : List (Id × String)) (call : FeedbackCall) (prog : FeedbackProg α) : Prop :=
  prog.StepsWhile (fun store => store.data.Sound tokens)
    fun store store' => FeedbackCall.Writes tokens store.data call store'.data

theorem steps_query {view : FeedbackTables → Int → β} {rest : β → FeedbackProg α}
    (stepsRest : ∀ tables now, tables.Sound tokens → StepsAs tokens call (rest (view tables now))) :
    StepsAs tokens call (query view >>= rest) :=
  Prog.StepsWhile.read (fun _ _ => .nothing call) fun store sound =>
    stepsRest store.data store.now sound

theorem steps_validDate (value : DateInput) : StepsAs tokens call (validDate value) :=
  fun _ _ _ => ⟨.nothing call, trivial⟩

theorem steps_markSent (input : MarkSentInput) :
    StepsAs tokens (.markSent input) (input.markReputationFeedbackRequestSent session) := by
  refine (steps_validDate _).andThen fun sentAt => ?_
  refine steps_query fun tables now _ => ?_
  split
  · trivial
  next existing found =>
    have isIts := (Bool.and_eq_true_iff.1 (request_some found).2).1
    have sends : StepsAs tokens (.markSent input) (commitSent session existing.1.id sentAt) := by
      rw [beq_iff_eq.1 isIts]
      exact fun store _ _ => ⟨.sent input sentAt, trivial⟩
    cases existing.1.status with
    | SUBMITTED => trivial
    | EXPIRED => trivial
    | CANCELLED => trivial
    | PENDING => exact sends
    | SENT => exact sends

theorem steps_expire (input : ExpireInput) :
    StepsAs tokens (.expire input) (input.expireReputationFeedbackRequests session) := by
  refine (steps_validDate _).andThen fun now => ?_
  refine steps_query fun tables _ _ => ?_
  split
  · trivial
  · exact fun store _ _ => ⟨.expired _ _, trivial⟩

theorem steps_replay (feedback : ReputationFeedback) : StepsAs tokens call (replay feedback) := by
  refine steps_query fun tables _ _ => ?_
  split
  · trivial
  · exact steps_query fun _ _ _ => trivial

theorem steps_submission {input : SubmitInput} {submission : Submission}
    (isToken : (submission.feedback.requestId, hashToken (trim input.token)) ∈ tokens) :
    StepsAs tokens (.submit input) (submission.commit session) := by
  intro store _ _
  refine ⟨?_, trivial⟩
  change FeedbackCall.Writes tokens store.data _ (if _ then _ else _)
  split
  · exact .nothing _
  next accepted =>
    refine .submitted input submission isToken (Bool.eq_false_iff.2 fun conflict => accepted ?_)
    rw [Submission.failure?, if_pos conflict, Option.isSome_some]

theorem steps_transaction {input : SubmitInput} {requestId : Id}
    (isToken : (requestId, hashToken (trim input.token)) ∈ tokens) (score : ℚ)
    (comment : Option String) (now : Instant) :
    StepsAs tokens (.submit input) (input.transaction session requestId score comment now) := by
  refine steps_query fun tables _ _ => ?_
  split
  · trivial
  next current feedback found =>
    have isIts : current.id = requestId := beq_iff_eq.1 (request_some found).2
    split
    · exact steps_replay _
    · trivial
    · split
      · trivial
      · subst isIts
        exact steps_submission isToken

theorem steps_submit (input : SubmitInput) :
    StepsAs tokens (.submit input) (input.submitReputationFeedback session) := by
  unfold SubmitInput.submitReputationFeedback
  split
  · trivial
  · trivial
  · trivial
  next token score comment isToken _ _ =>
    have isTrimmed : token = trim input.token := by
      unfold normalizeToken at isToken
      dsimp only at isToken
      split at isToken
      · exact (Except.ok.inj isToken).symm
      · cases isToken
    refine (steps_validDate _).andThen fun now => ?_
    refine steps_query fun tables _ sound => ?_
    split
    · trivial
    next request feedback found =>
      obtain ⟨isRequest, isHash⟩ := request_some found
      have ofRequest := sound.token isRequest
      rw [beq_iff_eq.1 isHash, isTrimmed] at ofRequest
      split
      · exact steps_replay _
      · trivial
      split
      · unfold expireOne
        split
        · trivial
        · exact fun _ _ _ => ⟨.expired _ _, trivial⟩
      · refine (steps_transaction ofRequest score comment now).bind fun result => ?_
        split
        · refine steps_query fun tables _ _ => ?_
          split
          · trivial
          · exact steps_replay _
        · trivial

variable [UnicodeCase]

theorem steps_updateTask (input : UpdateTaskInput) :
    StepsAs tokens (.updateTask input) (input.updateReputationRecoveryTask session) := by
  refine Prog.StepsWhile.andThen (fun _ _ _ => ⟨.nothing _, trivial⟩) fun _ => ?_
  split
  · trivial
  · trivial
  · trivial
  next status resolutionCode resolutionNote isStatus _ _ =>
    refine (steps_validDate _).andThen fun now => ?_
    split
    · trivial
    refine steps_query fun tables _ _ => ?_
    split
    · trivial
    next current feedback found =>
      have isIts : current.id = input.taskId :=
        beq_iff_eq.1 (Bool.and_eq_true_iff.1 (task_some found)).1
      split
      · rw [isIts]
        refine fun store _ _ => ⟨?_, trivial⟩
        exact .updated input status isStatus _ (fun _ => rfl) fun _ => rfl
      · trivial

-- its inputs are not to be normalised to see whether it takes a step
attribute [local irreducible] SubmitInput.submitReputationFeedback

theorem steps_prog (call : FeedbackCall) : StepsAs tokens call (call.prog session) := by
  cases call <;> rw [FeedbackCall.prog]
  case markSent input => exact Prog.StepsWhile.andThen (steps_markSent input) fun _ => .pure _
  case submit input => exact Prog.StepsWhile.andThen (steps_submit input) fun _ => .pure _
  case expire input => exact Prog.StepsWhile.andThen (steps_expire input) fun _ => .pure _
  case updateTask input => exact Prog.StepsWhile.andThen (steps_updateTask input) fun _ => .pure _

end

section

variable [UnicodeCase] {calls : FeedbackSession → FeedbackCall} {store : FeedbackStore}
  {moves : List (Move FeedbackSession FeedbackStore)}
  {c : Config FeedbackSession FeedbackStore (Except ReputationError FeedbackAnswer)}

end

end

section

attribute [local instance] UnicodeCase.ascii Sha256.plain

def sampleToken : String := "0123456789abcdef0123456789abcdef"

def pendingRequest : ReputationFeedbackRequest where
  id := "q"
  restaurantId := "r"
  reservationId := "b"
  customerId := "c"
  channel := .EMAIL
  status := .PENDING
  tokenHash := "sokar:reputation-feedback:0123456789abcdef0123456789abcdef"
  expiresAt := 100
  requestedAt := 0
  sentAt := none
  submittedAt := none

def pendingStore : FeedbackStore where
  data := { sites := [⟨"r", true⟩], requests := [pendingRequest], feedbacks := [], tasks := [] }
  now := 1
  owner _ := none

def pendingTokens : List (Id × String) := [("q", pendingRequest.tokenHash)]

theorem sound_pendingStore : pendingStore.data.Sound pendingTokens where
  ids := List.nodup_singleton _
  requests := rfl
  tasks := List.nodup_nil
  feedbacks := List.nodup_nil
  submitted _ isRequest := by
    cases List.mem_singleton.1 isRequest
    refine iff_of_false (fun impossible => nomatch impossible) ?_
    exact fun ⟨_, impossible, _⟩ => nomatch impossible

/-- The request is marked as sent and answered with a low score, whose task is then resolved. -/
def sendAndSubmit (session : FeedbackSession) : FeedbackCall :=
  match session with
  | 0 => .markSent ⟨"r", "q", .missing⟩
  | 1 => .submit ⟨sampleToken, 1, some " cold ", .missing, "f", "t"⟩
  | _ => .updateTask ⟨"r", "t", "RESOLVED", some "called", none, some "staff", .missing⟩

end

end Sokar.Reputation
