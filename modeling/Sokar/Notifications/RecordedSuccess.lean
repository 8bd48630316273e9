import Sokar.Library.QuietPrograms
import Sokar.Notifications.Claims

/-!
# Recorded successes

Senders, the sweep and the reconciler run command by command in any interleaving, and may crash.
Once a success is recorded for a key it stays until its time is over, and no call of a provider
is started for the key, as long as nobody who was under way before goes on as if it were not
there: the scripts compare the token of a claim, and a success keeps the token it was recorded
under.
-/

namespace Sokar

open Process Transaction

def NotificationClaim.isSuccess (claim : NotificationClaim) : Bool :=
  claim.record.any fun record => record.status == .success

namespace NotificationData

variable (data : NotificationData) (key : String) (now : Instant)

/-- The claim of the key, if it is a success that has not run out. -/
def success? : Option NotificationClaim :=
  (data.live? key now).filter (·.isSuccess)

def sendsOf : List NotificationSend :=
  data.sends.filter (·.key == key)

/-- No success is kept for longer than claims are. -/
def Timely : Prop :=
  ∀ key claim, data.claims key = some claim → claim.isSuccess = true →
    claim.expiresAt ≤ now + NOTIFICATION_CLAIM_TTL_SECONDS * 1000

variable {data key now}

theorem success?_eq_some {claim : NotificationClaim} : data.success? key now = some claim ↔
      data.claims key = some claim ∧ now < claim.expiresAt ∧ claim.isSuccess = true := by
  simp [success?, live?, Option.filter_eq_some_iff]

/-- Whoever looks sees the success. -/
theorem claim?_of_success {claim : NotificationClaim} (found : data.success? key now = some claim) :
    ∃ record, data.claim? key now = some record ∧ record.status = .success := by
  obtain ⟨isClaim, lasts, succeeded⟩ := success?_eq_some.1 found
  obtain ⟨record, isRecord, isSuccess⟩ := Option.any_eq_true _ _ |>.1 succeeded
  have isLive : data.live? key now = some claim :=
    Option.filter_eq_some_iff.2 ⟨isClaim, decide_eq_true lasts⟩
  refine ⟨record, ?_, beq_iff_eq.1 isSuccess⟩
  rw [claim?, isLive]
  exact isRecord

end NotificationData

open NotificationData

/-- What is written about one key. -/
inductive NotificationWrite (key : String) (data : NotificationData) (now : Instant) :
    NotificationData → Prop where
  | set (record : NotificationClaimRecord) (ttlSeconds : Nat) :
      (record.status = .success → ttlSeconds = NOTIFICATION_CLAIM_TTL_SECONDS) →
        NotificationWrite key data now (data.setClaim key now record ttlSeconds)
  | delete : NotificationWrite key data now (data.deleteClaim key)
  | send (token : String) : NotificationWrite key data now (data.addSend ⟨key, token⟩)

def NotificationCall.key : NotificationCall → String
  | .send sender => sender.key
  | .recover key => key
  | .reconcile job => job.claimKey

variable (metadata : NotificationClaimMetadata)

variable (token : String)

variable (next : Option NotificationClaimRecord)

section

variable {call : NotificationCallId} {key : String}

theorem acquireNotificationClaim_acts (ttlSeconds : Nat) (token : String) :
    Acts call (NotificationWrite key)
      (acquireNotificationClaim call key metadata ttlSeconds token) := by
  apply Acts.bind (Acts.query _)
  intro updatedAt
  apply Acts.bind
  · apply Acts.commit
    intro data now
    split
    · exact .inr (.set _ _ fun impossible => nomatch impossible)
    · exact .inl rfl
  intro isSet
  split
  · exact Acts.pure _
  · exact Acts.bind (Acts.query _) fun existing => Acts.pure _

theorem replaceClaim_writes (data : NotificationData) (now : Instant) :
    NotificationWrite key data now
      (data.replaceClaim key now next NOTIFICATION_CLAIM_TTL_SECONDS) := by
  cases next with
  | none => exact .delete
  | some record => exact .set record _ fun _ => rfl

theorem compareAndReplaceClaim_acts : Acts call (NotificationWrite key)
      (compareAndReplaceClaim call key token next NOTIFICATION_CLAIM_TTL_SECONDS) := by
  apply Acts.commit
  intro data now
  split
  · exact .inr (replaceClaim_writes next data now)
  · exact .inl rfl

theorem compareAndReplaceClaimIfStatus_acts (expectedStatus : NotificationClaimStatus)
    (next : Option NotificationClaimRecord) :
    Acts call (NotificationWrite key)
      (compareAndReplaceClaimIfStatus call key token expectedStatus next
        NOTIFICATION_CLAIM_TTL_SECONDS) := by
  apply Acts.commit
  intro data now
  split
  · exact .inr (replaceClaim_writes next data now)
  · exact .inl rfl

theorem acquireNotificationReconciliationLease_acts :
    Acts call (NotificationWrite key) (acquireNotificationReconciliationLease call key) := by
  apply Acts.bind (Acts.query _)
  intro now
  apply Acts.bind (Acts.query _)
  intro found
  dsimp only
  split
  · apply Acts.bind (compareAndReplaceClaimIfStatus_acts _ _ _)
    intro transitioned
    split
    · exact Acts.pure _
    · exact Acts.bind (Acts.query _) fun latest => Acts.pure _
  · exact Acts.pure _

theorem recoverNotificationClaim_acts :
    Acts call (NotificationWrite key) (recoverNotificationClaim call key) := by
  apply Acts.bind (Acts.query _)
  intro now
  refine Acts.found (Acts.pure _) fun current => ?_
  dsimp only
  split
  · exact Acts.pure _
  split
  · exact Acts.pure _
  split
  · apply Acts.bind (Acts.query _)
    intro updatedAt
    apply Acts.bind (compareAndReplaceClaimIfStatus_acts _ _ _)
    intro transitioned
    apply Acts.bind (Acts.query _)
    intro latest
    split
    · exact Acts.pure _
    split
    · exact Acts.pure _
    · exact Acts.pure _
  · exact Acts.pure _

theorem recordNotificationResult_acts (outcome : NotificationProviderResult)
    (metadata : NotificationClaimMetadata) :
    Acts call (NotificationWrite key)
      (recordNotificationResult call key token outcome metadata) := by
  cases outcome with
  | failure_certain => exact compareAndReplaceClaim_acts token none
  | success =>
    exact Acts.bind (Acts.query _) fun updatedAt => compareAndReplaceClaim_acts token _
  | unknown =>
    exact Acts.bind (Acts.query _) fun updatedAt => compareAndReplaceClaim_acts token _

namespace NotificationSender

variable (sender : NotificationSender)

theorem callProvider_acts :
    Acts call (NotificationWrite sender.key) (sender.callProvider call) := by
  unfold callProvider
  split
  · exact Acts.pure _
  · exact Acts.commit fun data now => .inr (.send sender.token)

theorem recordAll_acts (results : List NotificationResult) :
    Acts call (NotificationWrite sender.key) (sender.recordAll call results) := by
  induction results with
  | nil => exact Acts.pure _
  | cons result rest ih =>
    exact Acts.bind (recordNotificationResult_acts _ _ _) fun _ => ih

theorem send_acts : Acts call (NotificationWrite sender.key) (sender.send call) := by
  apply Acts.bind (acquireNotificationClaim_acts _ _ _)
  intro attempt
  split
  · apply Acts.bind sender.callProvider_acts
    intro _
    exact Acts.bind (sender.recordAll_acts _) fun _ => Acts.pure _
  · exact Acts.pure _

end NotificationSender

theorem processNotificationReconciliation_acts (job : NotificationReconciliation) :
    Acts call (NotificationWrite job.claimKey) (job.processNotificationReconciliation call) := by
  refine Acts.found (Acts.pure _) fun claim => ?_
  dsimp only
  split
  · exact Acts.pure _
  split
  · exact Acts.pure _
  apply Acts.bind acquireNotificationReconciliationLease_acts
  intro lease
  split
  · exact Acts.pure _
  · exact Acts.bind (recordNotificationResult_acts _ _ _) fun _ => Acts.pure _

theorem NotificationCall.prog_acts (notification : NotificationCall) :
    Acts call (NotificationWrite notification.key) (notification.prog call) := by
  cases notification with
  | send sender => exact sender.send_acts
  | recover key => exact Acts.bind recoverNotificationClaim_acts fun result => Acts.pure _
  | reconcile job => exact processNotificationReconciliation_acts job

end

section

variable {call : NotificationCallId} {key : String}

theorem acquireNotificationClaim_idle {α : Type} (metadata : NotificationClaimMetadata)
    (ttlSeconds : Nat) (token : String) {rest : NotificationClaimAttempt → NotificationProg α}
    (idle : ∀ record, ActsWhile call (fun data now => (data.success? key now).isSome)
      (fun _ _ _ => False) (rest { acquired := false, token := none, record })) :
    ActsWhile call (fun data now => (data.success? key now).isSome) (fun _ _ _ => False)
      (acquireNotificationClaim call key metadata ttlSeconds token >>= rest) := by
  have isClaimed : ∀ (data : NotificationData) now, (data.success? key now).isSome →
      (data.live? key now).isNone = false := by
    intro data now isSuccess
    obtain ⟨claim, found⟩ := Option.isSome_iff_exists.1 isSuccess
    rw [(Option.filter_eq_some_iff.1 found).1]
    rfl
  rw [acquireNotificationClaim, Prog.bind_assoc]
  apply ActsWhile.query
  intro data now _
  rw [Prog.bind_assoc]
  apply ActsWhile.commit
  · intro data now isSuccess
    rw [isClaimed data now isSuccess]
    exact .inl rfl
  · intro data now isSuccess
    rw [isClaimed data now isSuccess, if_neg Bool.false_ne_true, Prog.bind_assoc]
    exact ActsWhile.query fun data now _ => idle _

theorem NotificationCall.prog_idle (notification : NotificationCall)
    (isKey : notification.key = key) :
    ActsWhile call (fun data now => (data.success? key now).isSome) (fun _ _ _ => False)
      (notification.prog call) := by
  subst isKey
  cases notification with
  | send sender =>
    apply acquireNotificationClaim_idle
    intro record
    exact ActsWhile.of_acts (Acts.pure _)
  | recover key =>
    rw [prog, recoverNotificationClaim, Prog.bind_assoc]
    apply ActsWhile.query
    intro data now _
    rw [Prog.bind_assoc]
    apply ActsWhile.query
    intro data now isSuccess
    obtain ⟨claim, found⟩ := Option.isSome_iff_exists.1 isSuccess
    obtain ⟨record, isRecord, succeeded⟩ := claim?_of_success found
    have notInProgress : (record.status != .in_progress) = true := by
      rw [succeeded]
      rfl
    change data.claim? key now = some record at isRecord
    rw [isRecord]
    dsimp only
    rw [if_pos notInProgress]
    exact ActsWhile.of_acts (Acts.pure _)
  | reconcile job =>
    apply ActsWhile.query
    intro data now isSuccess
    obtain ⟨claim, found⟩ := Option.isSome_iff_exists.1 isSuccess
    obtain ⟨record, isRecord, succeeded⟩ := claim?_of_success found
    change data.claim? job.claimKey now = some record at isRecord
    rw [isRecord]
    dsimp only
    rw [if_pos succeeded]
    exact ActsWhile.of_acts (Acts.pure _)

end

section

variable {written key : String} {data data' : NotificationData} {now : Instant}

section

variable (write : NotificationWrite written data now data')
include write

theorem NotificationWrite.other (isOther : written ≠ key) :
    data'.success? key now = data.success? key now ∧ data'.sendsOf key = data.sendsOf key := by
  cases write with
  | set record ttlSeconds _ =>
    refine ⟨?_, rfl⟩
    simp only [success?, live?, setClaim, Function.update_of_ne isOther.symm]
  | delete =>
    refine ⟨?_, rfl⟩
    simp only [success?, live?, deleteClaim, Function.update_of_ne isOther.symm]
  | send token =>
    refine ⟨rfl, ?_⟩
    simp [sendsOf, addSend, isOther]

theorem NotificationWrite.timely (timely : data.Timely now) : data'.Timely now := by
  intro key claim found isSuccess
  cases write with
  | set record ttlSeconds lasts =>
    by_cases same : key = written
    · subst same
      cases (Function.update_self key _ data.claims).symm.trans found
      rw [lasts (by simpa [NotificationClaim.isSuccess] using isSuccess)]
    · exact timely key claim ((Function.update_of_ne same _ _).symm.trans found) isSuccess
  | delete =>
    by_cases same : key = written
    · subst same
      cases (Function.update_self key _ data.claims).symm.trans found
    · exact timely key claim ((Function.update_of_ne same _ _).symm.trans found) isSuccess
  | send token => exact timely key claim found isSuccess

/-- A success takes the place of another for as long at least. -/
theorem NotificationWrite.expiresAt_le (timely : data.Timely now)
    {claim claim' : NotificationClaim} (found : data.success? key now = some claim)
    (found' : data'.success? key now = some claim') :
    claim.expiresAt ≤ claim'.expiresAt := by
  obtain ⟨isClaim, -, isSuccess⟩ := success?_eq_some.1 found
  obtain ⟨isClaim', -, isSuccess'⟩ := success?_eq_some.1 found'
  by_cases isOther : written = key
  · subst isOther
    cases write with
    | set record ttlSeconds lasts =>
      cases (Function.update_self written _ data.claims).symm.trans isClaim'
      rw [lasts (by simpa [NotificationClaim.isSuccess] using isSuccess')]
      exact timely written claim isClaim isSuccess
    | delete => cases (Function.update_self written _ data.claims).symm.trans isClaim'
    | send token =>
      cases isClaim.symm.trans isClaim'
      exact le_rfl
  · rw [(write.other isOther).1, found] at found'
    cases found'
    exact le_rfl

end

end

/-- Until its time is over, a success stays, or another takes its place for as long at least,
and no call of a provider is started. -/
structure KeepsSuccess (key : String) (store store' : NotificationStore) : Prop where
  later : store.now ≤ store'.now
  stays : ∀ claim, store.data.success? key store.now = some claim → store'.now < claim.expiresAt →
    ∃ claim', store'.data.success? key store'.now = some claim' ∧
      claim.expiresAt ≤ claim'.expiresAt
  sends : ∀ claim, store.data.success? key store.now = some claim → store'.now < claim.expiresAt →
    store'.data.sendsOf key = store.data.sendsOf key

theorem KeepsSuccess.trans {key : String} {store store' store'' : NotificationStore}
    (first : KeepsSuccess key store store') (second : KeepsSuccess key store' store'') :
    KeepsSuccess key store store'' where
  later := first.later.trans second.later
  stays claim found lasts := by
    obtain ⟨claim', found', longer⟩ := first.stays claim found (second.later.trans_lt lasts)
    obtain ⟨claim'', found'', longest⟩ := second.stays claim' found' (lasts.trans_le longer)
    exact ⟨claim'', found'', longer.trans longest⟩
  sends claim found lasts := by
    obtain ⟨claim', found', longer⟩ := first.stays claim found (second.later.trans_lt lasts)
    rw [second.sends claim' found' (lasts.trans_le longer)]
    exact first.sends claim found (second.later.trans_lt lasts)

/-- Time passes, and nothing is written. -/
theorem KeepsSuccess.of_same {key : String} {store store' : NotificationStore}
    (later : store.now ≤ store'.now) (same : store'.data = store.data) :
    KeepsSuccess key store store' where
  later := later
  stays claim found lasts := by
    obtain ⟨isClaim, -, isSuccess⟩ := success?_eq_some.1 found
    exact ⟨claim, success?_eq_some.2 ⟨same ▸ isClaim, lasts, isSuccess⟩, le_rfl⟩
  sends _ _ _ := by rw [same]

def HasSuccess (key : String) (store : NotificationStore) : Prop :=
  (store.data.success? key store.now).isSome = true

/-- Another outcome is recorded over a success, or a call of a provider is started beside it. -/
def OverridesSuccess (key : String) (move : Move NotificationCallId NotificationStore) : Prop :=
  HasSuccess key move.before ∧
    (move.after.data.success? key move.after.now = none ∨
      move.after.data.sendsOf key ≠ move.before.data.sendsOf key)

/-- A call that overrides a success found it at each of its earlier commands. -/
def SuccessNotOvertaken (key : String)
    (earlier later : Move NotificationCallId NotificationStore) : Prop :=
  earlier.session = later.session → OverridesSuccess key later → HasSuccess key earlier.before

section

variable {calls : NotificationCallId → NotificationCall} {store : NotificationStore}
variable {moves : List (Move NotificationCallId NotificationStore)}
variable {c : Config NotificationCallId NotificationStore NotificationAnswer} {key : String}

theorem not_overrides_of_same {move : Move NotificationCallId NotificationStore}
    (success : move.after.data.success? key move.after.now =
      move.before.data.success? key move.before.now)
    (sends : move.after.data.sendsOf key = move.before.data.sendsOf key) :
    ¬OverridesSuccess key move := by
  rintro ⟨isSome, isNone | started⟩
  · rw [success] at isNone
    rw [HasSuccess, isNone] at isSome
    cases isSome
  · exact started sends

theorem writes_of_run (run : (notificationSystem calls).Run (.initial store) moves c) :
    ∀ move ∈ moves, ActStep move.session (NotificationWrite (calls move.session).key) move.before
      move.after :=
  actSteps_of_run (fun call => (calls call).prog_acts) run

theorem not_overrides_of_finds (finds : NotificationCallId → Prop)
    (run : (notificationSystem calls).Run (.initial store) moves c)
    (found : ∀ move ∈ moves, finds move.session → HasSuccess key move.before) :
    ∀ move ∈ moves, finds move.session → ¬OverridesSuccess key move := by
  have acts : ∀ call, finds call ∧ (calls call).key = key →
      ActsWhile call (fun data now => (data.success? key now).isSome = true) (fun _ _ _ => False)
        ((calls call).prog call) :=
    fun call isAmong => (calls call).prog_idle isAmong.2
  have none_ : ∀ call prog, finds call ∧ (calls call).key = key →
      (Config.initial store : Config NotificationCallId NotificationStore NotificationAnswer).procs
        call = some prog →
          ActsWhile call (fun data now => (data.success? key now).isSome = true)
            (fun _ _ _ => False) prog := by
    intro call prog _ running
    cases running
  have idle := actSteps_while acts none_ run fun move isMove isAmong => found move isMove isAmong.1
  intro move isMove isFinder
  by_cases isKey : (calls move.session).key = key
  · have step := idle move isMove ⟨isFinder, isKey⟩
    have unchanged := step.data.resolve_right id
    apply not_overrides_of_same
    · rw [step.now, unchanged]
    · rw [unchanged]
  · have step := writes_of_run run move isMove
    rcases step.data with unchanged | write
    · apply not_overrides_of_same
      · rw [step.now, unchanged]
      · rw [unchanged]
    · obtain ⟨sameSuccess, sameSends⟩ := write.other isKey
      apply not_overrides_of_same
      · rw [step.now, sameSuccess]
      · exact sameSends

theorem not_overrides_of_run (run : (notificationSystem calls).Run (.initial store) moves c)
    (notOvertaken : moves.Pairwise (SuccessNotOvertaken key)) :
    ∀ move ∈ moves, ¬OverridesSuccess key move := by
  have isSettled : ∀ move, OverridesSuccess key move → HasSuccess key move.before :=
    fun _ overrides => overrides.1
  have foundBefore : moves.Pairwise fun earlier later => earlier.session = later.session →
      OverridesSuccess key later → HasSuccess key earlier.before := notOvertaken
  have isFair : ∀ move ∈ moves, True := fun _ _ => trivial
  apply System.Run.unharmed _ isSettled run isFair foundBefore
  intro finds moves c run _ meets move isMove overrides
  have found := fun move isMove => (meets move isMove).1
  exact not_overrides_of_finds finds run found move isMove ((meets move isMove).2 overrides)
    overrides

/-- Redis never keeps a success for longer than claims are kept. -/
theorem timely_of_run (timely : store.data.Timely store.now)
    (run : (notificationSystem calls).Run (.initial store) moves c) :
    ∀ move ∈ moves, move.before.data.Timely move.before.now := by
  have related : StatesRelated (fun store store' : NotificationStore =>
      store.data.Timely store.now → store'.data.Timely store'.now) store c.shared moves := by
    apply run.related
    · exact fun _ => id
    · exact fun first second => second ∘ first
    · exact fun _ _ => id
    · intro store store' ticks timely key claim found isSuccess
      rw [ticks.2.1] at found
      have atBefore := timely key claim found isSuccess
      have later := ticks.1
      exact atBefore.trans (add_le_add_left later _)
    · intro move isMove timely
      have step := writes_of_run run move isMove
      rw [step.now]
      rcases step.data with unchanged | write
      · rw [unchanged]
        exact timely
      · exact write.timely timely
  exact fun move isMove => related.ofStart move isMove timely

/-- In a run in which nobody who overrides a success was under way before it was recorded, it
stays until its time is over. -/
theorem success_kept (timely : store.data.Timely store.now) (key : String)
    (run : (notificationSystem calls).Run (.initial store) moves c)
    (notOvertaken : moves.Pairwise (SuccessNotOvertaken key)) :
    StatesRelated (KeepsSuccess key) store c.shared moves ∧
      ∀ move ∈ moves, KeepsSuccess key move.before move.after := by
  have kept : ∀ move ∈ moves, KeepsSuccess key move.before move.after := by
    intro move isMove
    have step := writes_of_run run move isMove
    have overrides := not_overrides_of_run run notOvertaken move isMove
    have timelyBefore := timely_of_run timely run move isMove
    rcases step.data with unchanged | write
    · exact .of_same step.now.ge unchanged
    constructor
    · exact step.now.ge
    · intro claim found _
      cases found' : move.after.data.success? key move.after.now with
      | none => exact absurd ⟨Option.isSome_iff_exists.2 ⟨claim, found⟩, .inl found'⟩ overrides
      | some claim' =>
        rw [step.now] at found'
        exact ⟨claim', rfl, write.expiresAt_le timelyBefore found found'⟩
    · intro claim found _
      by_contra started
      exact overrides ⟨Option.isSome_iff_exists.2 ⟨claim, found⟩, .inr started⟩
  refine ⟨?_, kept⟩
  apply run.related
  · exact fun store => .of_same le_rfl rfl
  · exact fun first second => first.trans second
  · exact fun _ store => .of_same le_rfl rfl
  · exact fun ticks => .of_same ticks.1 ticks.2.1
  · exact kept

end

variable (outcomes : List NotificationProviderResult)

section

instance (key : String) (move : Move NotificationCallId NotificationStore) :
    Decidable (OverridesSuccess key move) :=
  inferInstanceAs (Decidable (_ = true ∧ (_ = none ∨ _ ≠ _)))

instance (key : String) (earlier later : Move NotificationCallId NotificationStore) :
    Decidable (SuccessNotOvertaken key earlier later) :=
  inferInstanceAs (Decidable (_ = _ → _ → _ = true))

def emptyRedis : NotificationStore where
  data := { claims := fun _ => none, sends := [] }
  now := 0
  owner _ := none

theorem emptyRedis_timely : emptyRedis.data.Timely emptyRedis.now :=
  fun _ _ impossible => nomatch impossible

/-- A worker that sends the confirmation of a reservation. -/
def confirms : NotificationCall :=
  .send
    { key := "notification:confirmation-email:r1"
      metadata := ⟨some .resend, some .email, none⟩
      ttlSeconds := NOTIFICATION_CLAIM_TTL_SECONDS
      token
      skipped := false
      results := outcomes.map fun outcome => ⟨outcome, ⟨some .resend, some .email, none⟩⟩ }

def confirmsTwice : NotificationCallId → NotificationCall
  | 0 => confirms "a" outcomes
  | _ => confirms "b" [.success]

/-- The second worker comes while the first is under way, and again the next day. -/
theorem success_kept_twice : ∃ moves c,
    (notificationSystem (confirmsTwice [.success])).Run (.initial emptyRedis) moves c ∧
      c.shared.data.sends.length = 1 ∧
        StatesRelated (KeepsSuccess "notification:confirmation-email:r1") emptyRedis c.shared
          moves := by
  have ticks : ∀ store : NotificationStore, Ticks store { store with now := store.now + 86400000 } :=
    fun store => ⟨Int.le_add_of_nonneg_right (by decide), rfl, rfl⟩
  obtain ⟨moves, c, run, once, notOvertaken⟩ :=
    (notificationSystem (confirmsTwice [.success])).exists_run_of_schedules
      (fun store => { store with now := store.now + 86400000 }) ticks
      [[0, 0, 0, 1, 1, 1, 1, 0, 0, 0], [2, 2, 2, 2]] (.initial emptyRedis)
      (fun moves c => c.shared.data.sends.length = 1 ∧ moves.Pairwise
        (SuccessNotOvertaken "notification:confirmation-email:r1")) (by decide +kernel)
  have kept := success_kept emptyRedis_timely _ run notOvertaken
  exact ⟨moves, c, run, once, kept.1⟩

/-- The success is recorded, what follows it fails, and that is recorded as well: the claim is
gone, and the next worker sends the confirmation again. -/
theorem sent_again : ¬ ∀ (calls : NotificationCallId → NotificationCall) (store : NotificationStore),
    store.data.Timely store.now → ∀ key moves c,
      (notificationSystem calls).Run (.initial store) moves c → moves.Pairwise fun earlier later =>
          ∀ claim ∈ earlier.after.data.success? key earlier.after.now,
            later.after.now < claim.expiresAt →
              (later.after.data.success? key later.after.now).isSome = true ∧
                later.after.data.sendsOf key = earlier.after.data.sendsOf key := by
  intro claim
  obtain ⟨moves, c, run, again⟩ :=
    (notificationSystem (confirmsTwice [.success, .failure_certain])).exists_run_of_schedule
      [0, 0, 0, 0, 0, 0, 0, 1, 1, 1, 1] (.initial emptyRedis)
      (fun moves _ => ¬moves.Pairwise fun earlier later =>
        ∀ claim ∈ earlier.after.data.success? "notification:confirmation-email:r1"
            earlier.after.now, later.after.now < claim.expiresAt →
          (later.after.data.success? "notification:confirmation-email:r1"
              later.after.now).isSome = true ∧
            later.after.data.sendsOf "notification:confirmation-email:r1" =
              earlier.after.data.sendsOf "notification:confirmation-email:r1") (by decide +kernel)
  exact again (claim _ _ emptyRedis_timely _ moves c run)

end

end Sokar
