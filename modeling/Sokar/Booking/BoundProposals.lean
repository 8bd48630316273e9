import Sokar.Booking.QuietBookings
import Sokar.Library.EventLog
import Sokar.Library.StepRelations

/-!
# Proposals are bound to a version

A proposal names the number of entries in the audit trail that it was made at.  Every change adds an
entry under the lock on the row, so that a confirmation that finds the same number finds the
reservation as it was; afterwards the number is a larger one for good.
-/

namespace Sokar

open Process Transaction

section

variable [SelfServiceEnv]

abbrev OfferedToken := ProposalToken SelfServiceEnv.Digest

def ModificationEvent.changes (reservationId : Id) : ModificationEvent → Bool
  | .changed id _ => id == reservationId
  | .offered _ _ => false

def changesOf (reservationId : Id) (history : List ModificationEvent) : Nat :=
  history.countP (·.changes reservationId)

variable {data data' : ModificationData} {history : List ModificationEvent} {reservationId : Id}
  {token : OfferedToken}

theorem changesOf_changed (token : Option OfferedToken) :
    changesOf reservationId (.changed reservationId token :: history) =
      changesOf reservationId history + 1 :=
  List.countP_cons_of_pos (by simp [ModificationEvent.changes])

theorem changesOf_other {id : Id} (different : id ≠ reservationId) (token : Option OfferedToken) :
    changesOf reservationId (.changed id token :: history) = changesOf reservationId history :=
  List.countP_cons_of_neg (by simpa [ModificationEvent.changes] using different)

def Offered (history : List ModificationEvent) (token : OfferedToken) : Prop :=
  ∃ reservationId tokens, .offered reservationId tokens ∈ history ∧ token ∈ tokens

/-- The proposal was made for the reservation, which was not changed since. -/
def OfferedUnchanged (history : List ModificationEvent) (reservationId : Id)
    (token : OfferedToken) : Prop :=
  ∃ since tokens before, history = since ++ .offered reservationId tokens :: before ∧
    token ∈ tokens ∧ ∀ event ∈ since, event.changes reservationId = false

theorem OfferedUnchanged.cons (offered : OfferedUnchanged history reservationId token)
    {event : ModificationEvent} (keeps : event.changes reservationId = false) :
    OfferedUnchanged (event :: history) reservationId token := by
  obtain ⟨since, tokens, before, rfl, isToken, unchanged⟩ := offered
  refine ⟨event :: since, tokens, before, rfl, isToken, ?_⟩
  simpa using ⟨keeps, unchanged⟩

/-- What may be confirmed: a proposal for the reservation as it is, not confirmed before. -/
structure MayApply (data : ModificationData) (reservationId : Id) (token : OfferedToken) : Prop where
  offered : OfferedUnchanged data.history reservationId token
  unused : .changed reservationId (some token) ∉ data.history

/-- A proposal tells its reservation, and how many entries its audit trail had. -/
def MadeAt (token : OfferedToken) (reservationId : Id) (auditCount : Nat) : Prop :=
  ∃ row : ManagedRow, row.id = reservationId ∧ token.proposal.revision = revision row auditCount

/-- What holds in every run of proposals and changes. -/
structure ProposalsBound (data : ModificationData) : Prop where
  /-- The audit trail has grown by one entry with each change. -/
  counted : ∀ since reservationId tokens before,
    data.history = since ++ .offered reservationId tokens :: before → ∀ token ∈ tokens,
      ∃ count, MadeAt token reservationId count ∧
        data.auditCount reservationId = count + changesOf reservationId since
  once : ∀ reservationId token, data.history.count (.changed reservationId (some token)) ≤ 1
  current : ∀ newer reservationId token older,
    data.history = newer ++ .changed reservationId (some token) :: older →
      OfferedUnchanged older reservationId token

theorem proposalsBound_of_nil (empty : data.history = []) : ProposalsBound data where
  counted := by simp [empty]
  once := by simp [empty]
  current := by simp [empty]

theorem revision_injective (injective : Function.Injective (SelfServiceEnv.digest))
    {row row' : ManagedRow} {count count' : Nat} (same : revision row count = revision row' count') :
    row.id = row'.id ∧ count = count' := by
  have fields := Json.arr.inj (injective same)
  simp only [List.cons.injEq, Json.str.injEq] at fields
  refine ⟨fields.1, ?_⟩
  have counts : Json.ofCount count = Json.ofCount count' := by tauto
  exact Nat.cast_injective (Json.num.inj counts)

theorem MadeAt.unique (injective : Function.Injective (SelfServiceEnv.digest)) {id id' : Id}
    {count count' : Nat} (made : MadeAt token id count) (made' : MadeAt token id' count') :
    id = id' ∧ count = count' := by
  obtain ⟨row, rfl, isRevision⟩ := made
  obtain ⟨row', rfl, isRevision'⟩ := made'
  exact revision_injective injective (isRevision.symm.trans isRevision')

section

variable (bound : ProposalsBound data)
include bound

theorem ProposalsBound.mayApply (injective : Function.Injective (SelfServiceEnv.digest))
    (offered : Offered data.history token)
    (made : MadeAt token reservationId (data.auditCount reservationId)) :
    MayApply data reservationId token := by
  have unchangedSince : ∀ since id tokens before,
      data.history = since ++ .offered id tokens :: before → token ∈ tokens →
        id = reservationId ∧ ∀ event ∈ since, event.changes reservationId = false := by
    intro since id tokens before isHistory isToken
    obtain ⟨count, madeThen, counted⟩ := bound.counted since id tokens before isHistory token isToken
    obtain ⟨rfl, rfl⟩ := made.unique injective madeThen
    have none_ : changesOf reservationId since = 0 := by omega
    exact ⟨rfl, by simpa [changesOf] using none_⟩
  constructor
  · obtain ⟨id, tokens, isEvent, isToken⟩ := offered
    obtain ⟨since, before, isHistory⟩ := List.append_of_mem isEvent
    obtain ⟨rfl, unchanged⟩ := unchangedSince since id tokens before isHistory isToken
    exact ⟨since, tokens, before, isHistory, isToken, unchanged⟩
  · intro used
    obtain ⟨newer, older, isHistory⟩ := List.append_of_mem used
    obtain ⟨since, tokens, before, isOlder, isToken, -⟩ :=
      bound.current newer reservationId token older isHistory
    rw [isOlder, ← List.cons_append, ← List.append_assoc] at isHistory
    obtain ⟨-, unchanged⟩ := unchangedSince _ _ tokens before isHistory isToken
    have isChange := unchanged (.changed reservationId (some token)) (by simp)
    simp [ModificationEvent.changes] at isChange

theorem ProposalsBound.unchanged (history : data'.history = data.history)
    (trail : ∀ reservationId, data'.trail reservationId = data.trail reservationId) :
    ProposalsBound data'  where
  counted := by
    intro since id tokens before isHistory token isToken
    obtain ⟨count, made, counted⟩ :=
      bound.counted since id tokens before (history ▸ isHistory) token isToken
    exact ⟨count, made, (congrArg List.length (trail id)).trans counted⟩
  once := history ▸ bound.once
  current := history ▸ bound.current

theorem ProposalsBound.offer {tokens : List OfferedToken}
    (made : ∀ token ∈ tokens, MadeAt token reservationId (data.auditCount reservationId)) :
    ProposalsBound { data with history := .offered reservationId tokens :: data.history }  where
  counted := by
    intro since id others before isHistory token isToken
    cases since with
    | nil =>
      cases isHistory
      exact ⟨_, made token isToken, rfl⟩
    | cons event since =>
      obtain ⟨rfl, isOlder⟩ := List.cons.inj isHistory
      exact bound.counted since id others before isOlder token isToken
  once := by
    intro id token
    exact bound.once id token
  current := by
    intro newer id token older isHistory
    cases newer with
    | nil => cases isHistory
    | cons event newer => exact bound.current newer id token older (List.cons.inj isHistory).2

theorem ProposalsBound.change {confirmed : Option OfferedToken}
    (history : data'.history = .changed reservationId confirmed :: data.history)
    (grows : data'.auditCount reservationId = data.auditCount reservationId + 1)
    (others : ∀ id, id ≠ reservationId → data'.auditCount id = data.auditCount id)
    (allowed : ∀ token, confirmed = some token → MayApply data reservationId token) :
    ProposalsBound data'  where
  counted := by
    intro since id tokens before isHistory token isToken
    rw [history] at isHistory
    cases since with
    | nil => cases isHistory
    | cons event since =>
      obtain ⟨rfl, isOlder⟩ := List.cons.inj isHistory
      obtain ⟨count, made, counted⟩ := bound.counted since id tokens before isOlder token isToken
      refine ⟨count, made, ?_⟩
      by_cases same : reservationId = id
      · subst same
        rw [grows, changesOf_changed, counted, Nat.add_assoc]
      · rw [others id (Ne.symm same), changesOf_other same, counted]
  once := by
    intro id token
    rw [history]
    by_cases same : ModificationEvent.changed id (some token) = .changed reservationId confirmed
    · obtain ⟨rfl, rfl⟩ := ModificationEvent.changed.inj same
      rw [List.count_cons_self, List.count_eq_zero.2 (allowed token rfl).unused]
    · rw [List.count_cons_of_ne (Ne.symm same)]
      exact bound.once id token
  current := by
    intro newer id token older isHistory
    rw [history] at isHistory
    cases newer with
    | nil =>
      obtain ⟨same, rfl⟩ := List.cons.inj isHistory
      obtain ⟨rfl, rfl⟩ := ModificationEvent.changed.inj same
      exact (allowed token rfl).offered
    | cons event newer => exact bound.current newer id token older (List.cons.inj isHistory).2

end

end

section

variable [SelfServiceEnv]

variable {calls : SessionId → ModificationCall} {session : SessionId} {reservationId : Id}
  {token : OfferedToken} {owned : Set BookingLock}

/-- What a step may write: at most one event, a change only with the row of the reservation locked,
and no change of a reservation without its event. -/
structure ModificationWrites (free : Set BookingLock) (data data' : ModificationData) : Prop where
  history : data'.history = data.history ∨ ∃ event, data'.history = event :: data.history ∧
    ∀ reservationId, event.changes reservationId = true → .reservation reservationId ∈ free
  unlogged : ∀ reservationId, (∀ token, data'.history ≠ .changed reservationId token :: data.history) →
    data'.trail reservationId = data.trail reservationId ∧
      ∀ row, data.row? reservationId = some row → data'.row? reservationId = some row

/-- A proposal that is signed for its bearer was made by the service. -/
def Unforged (call : ModificationCall) (data : ModificationData) : Prop :=
  ∀ restaurantId reservationId bearer token proposal,
    call = .confirm restaurantId reservationId bearer token → token.decode bearer = .ok proposal →
      Offered data.history token

/-- As long as no proposal is forged. -/
def proposalAccess (calls : SessionId → ModificationCall) :
    Access ModificationData BookingLock SessionId where
  inv data _ := ProposalsBound data
  writes := ModificationWrites
  meets session _ _ data _ := Unforged (calls session) data
  inv_later _ bound := bound
  writes_refl _ _ := ⟨.inl rfl, fun _ _ => ⟨rfl, fun _ => id⟩⟩
  writes_mono sub writes := by
    refine ⟨?_, writes.unlogged⟩
    rcases writes.history with silent | ⟨event, added, locked⟩
    · exact .inl silent
    · exact .inr ⟨event, added, fun id changes => sub (locked id changes)⟩

/-- With the row locked, nobody else uses a proposal or makes it stale. -/
theorem protects_mayApply (locked : .reservation reservationId ∈ owned) (token : OfferedToken) :
    (proposalAccess calls).Protects owned fun data _ => MayApply data reservationId token where
  writes _ _ writes may := by
    rcases writes.history with silent | ⟨event, added, needs⟩
    · exact ⟨silent ▸ may.offered, silent ▸ may.unused⟩
    · have keeps : event.changes reservationId = false := by
        by_contra changes
        exact needs reservationId (by simpa using changes) locked
      refine ⟨added ▸ may.offered.cons keeps, ?_⟩
      rw [added]
      rintro (_ | ⟨_, used⟩)
      · simp [ModificationEvent.changes] at keeps
      · exact may.unused used
  clock _ may := may

theorem managedOf?_id {data : ModificationData} {restaurantId reservationId : Id} {row : ManagedRow}
    (found : data.managedOf? restaurantId reservationId = some row) : row.id = reservationId := by
  simp only [ModificationData.managedOf?, ModificationData.managed?, ModificationData.row?,
    Option.filter_eq_some_iff, Option.map_eq_some_iff] at found
  obtain ⟨⟨stored, isStored, rfl⟩, -⟩ := found
  exact beq_iff_eq.1 (List.find?_some isStored :)

variable {update : Reservation → Reservation}

omit [SelfServiceEnv] in
theorem row_updateReservation {db : Database} {id reservationId : Id}
    (different : id ≠ reservationId) (sameId : ∀ row, (update row).id = row.id) :
    ((db.updateReservation reservationId update).reservations.find? fun row => row.id == id) =
      db.reservations.find? fun row => row.id == id := by
  simp only [Database.updateReservation]
  induction db.reservations with
  | nil => rfl
  | cons row rest ih =>
    by_cases isRow : row.id = reservationId
    · simp [isRow, sameId, ih, different.symm]
    · simp [isRow, List.find?_cons, ih]

/-- What a change of a reservation writes, whatever it makes of the details. -/
structure IsChange (data data' : ModificationData) (update : Reservation → Reservation)
    (entry : AuditEntry) (confirmed : Option OfferedToken) : Prop where
  sameId : ∀ row, (update row).id = row.id
  bookings : data'.bookings = data.bookings.updateReservation entry.reservationId update
  audits : data'.audits = data.audits ++ [entry]
  history : data'.history = .changed entry.reservationId confirmed :: data.history

namespace IsChange

variable {data data' : ModificationData} {update : Reservation → Reservation} {entry : AuditEntry}
  {confirmed : Option OfferedToken}

section

variable (change : IsChange data data' update entry confirmed)
include change

theorem trail_of_ne {id : Id} (different : id ≠ entry.reservationId) :
    data'.trail id = data.trail id := by
  simp [ModificationData.trail, change.audits, different.symm]

theorem writes {free : Set BookingLock} (locked : .reservation entry.reservationId ∈ free) :
    ModificationWrites free data data'  where
  history := by
    refine .inr ⟨_, change.history, fun id changes => ?_⟩
    rw [ModificationEvent.changes, beq_iff_eq] at changes
    exact changes ▸ locked
  unlogged := by
    intro id silent
    have different : id ≠ entry.reservationId := by
      rintro rfl
      exact silent confirmed change.history
    refine ⟨change.trail_of_ne different, fun row found => ?_⟩
    rw [ModificationData.row?, change.bookings, row_updateReservation different change.sameId]
    exact found

theorem bound (bound : ProposalsBound data)
    (allowed : ∀ token, confirmed = some token → MayApply data entry.reservationId token) :
    ProposalsBound data' := by
  apply bound.change change.history
  · simp [ModificationData.auditCount, ModificationData.trail, change.audits]
  · exact fun id different => congrArg List.length (change.trail_of_ne different)
  · exact allowed

end

end IsChange

theorem isChange_changed (data : ModificationData) (sameId : ∀ row, (update row).id = row.id)
    (entry : AuditEntry) (confirmed : Option OfferedToken) :
    IsChange data (data.changed update entry confirmed) update entry confirmed :=
  ⟨sameId, rfl, rfl, rfl⟩

/-- What a modification rests on when it confirms a proposal. -/
def Confirms (confirmed : Option OfferedToken) (reservationId : Id) (changes : Prop)
    (data : ModificationData) (_ : Instant) : Prop :=
  changes → ∀ token, confirmed = some token → MayApply data reservationId token

theorem protects_confirms (locked : .reservation reservationId ∈ owned)
    (confirmed : Option OfferedToken) (changes : Prop) :
    (proposalAccess calls).Protects owned (Confirms confirmed reservationId changes) := by
  have allowed : ∀ token, (proposalAccess calls).Protects owned
      fun data _ => MayApply data reservationId token := protects_mayApply locked
  exact Access.Protects.when (Access.Protects.all fun token => (allowed token).when)

omit [SelfServiceEnv] in
theorem ModificationPlan.update_id (plan : ModificationPlan) (row : Reservation) :
    (plan.update row).id = row.id := by
  unfold ModificationPlan.update
  split <;> rfl

variable {confirmed : Option OfferedToken}

theorem ModifyReservationArgs.isChange_writes {args : ModifyReservationArgs}
    {plan : ModificationPlan} {data : ModificationData}
    (changes : args.changes plan.current = true) :
    IsChange data (args.writes confirmed plan data) plan.update (args.entry plan) confirmed := by
  rw [ModifyReservationArgs.writes, if_pos changes]
  exact ⟨plan.update_id, rfl, rfl, rfl⟩

/-- A change that confirms nothing, planned with the row locked. -/
theorem transact_runs {α β : Type} {body : ModificationProg (Except ModificationError α)}
    {view : α → ModificationData → Int → β}
    {change : α → ModificationData → Int → ModificationData} {reservationId : Id}
    (decides : (proposalAccess calls).Decides session ∅ (fun _ _ => True) body
      (fun _ => {.reservation reservationId}) fun _ _ _ => True)
    (changes : ∀ plan data now, change plan data now = data ∨ ∃ update entry,
      IsChange data (change plan data now) update entry none ∧
        entry.reservationId = reservationId) : (proposalAccess calls).Serves session
      (transact session body modificationRefusal view change) := by
  refine Access.Runs.transact decides (fun _ => Access.protects_const True)
    (fun _ => Access.protects_const True) ?_
  intro plan data now bound _ _ _
  rcases changes plan data now with same | ⟨update, entry, change, rfl⟩
  · rw [same]
    exact ⟨bound, (proposalAccess calls).writes_refl _ data, trivial⟩
  · exact ⟨change.bound bound (fun _ impossible => nomatch impossible),
      change.writes (Set.mem_singleton _), trivial⟩

theorem thenLock_decides {α : Type} {prog : BookingProg (Except BookingError α)}
    (quiet : Quiet session prog) (reservationId : Id) :
    (proposalAccess calls).Decides session ∅ (fun _ _ => True)
      (thenLock session reservationId prog) (fun _ => {.reservation reservationId})
      fun _ _ _ => True := by
  have always : ∀ owned, (proposalAccess calls).Protects owned fun _ _ => True :=
    fun _ => Access.protects_const True
  refine Access.Decides.bind ((quiet_liftBooking quiet).runs (always ∅)) fun result => ?_
  cases result with
  | error error => exact Access.Decides.error _
  | ok value =>
    refine Access.Decides.acquire (always _) (Access.Decides.ok ?_ (always _) fun _ _ _ _ => trivial)
    rw [insert_empty_eq]

theorem releaseTableOf_runs (reservationId : Id) :
    (proposalAccess calls).Serves session (releaseTableOf session reservationId) := by
  have always : ∀ owned, (proposalAccess calls).Protects owned fun _ _ => True :=
    fun _ => Access.protects_const True
  refine Access.Runs.glance (always _) fun row => ?_
  cases row with
  | none =>
    exact Access.Runs.rollback (always _) Access.protects_ends fun _ _ _ _ => Access.Ends.of _ _ _
  | some row =>
    simp only
    split
    · exact Access.Runs.rollback (always _) Access.protects_ends fun _ _ _ _ => Access.Ends.of _ _ _
    refine Access.Runs.acquire (always _) ?_
    refine Access.Runs.commitUnless (always _) (fun _ => always _) fun data now bound _ _ _ => ?_
    have sameId : ∀ row : Reservation, { row with tableId := none }.id = row.id := fun _ => rfl
    have change := isChange_changed data sameId (plainEntry reservationId
      "reservation_table_released" TABLE_ALLOCATION row.state row.state) none
    exact ⟨change.bound bound (fun _ impossible => nomatch impossible),
      change.writes (Set.mem_insert _ _), trivial⟩

theorem changeElsewhere_runs (change : ModificationData → Instant → ModificationData)
    (created : List Reservation) :
    (proposalAccess calls).Serves session (changeElsewhere session change created) := by
  have always : (proposalAccess calls).Protects ∅ fun _ _ => True :=
    Access.protects_const True
  refine Access.Runs.commitUnless always (fun _ => always) fun data now bound _ _ _ => ?_
  refine ⟨bound.unchanged rfl fun _ => rfl, ⟨.inl rfl, fun id _ => ⟨rfl, fun row found => ?_⟩⟩, trivial⟩
  have kept : data.bookings.reservations.find? (fun row => row.id == id) = some row := found
  change (data.bookings.reservations ++ created).find? _ = _
  rw [List.find?_append, kept, Option.some_or]

theorem protects_found (reservationId : Id) (found : Option ManagedRow) :
    (proposalAccess calls).Protects owned fun _ _ =>
      ∀ row, found = some row → row.id = reservationId :=
  Access.protects_const _

theorem changes_of_isCurrent {token : OfferedToken} {restaurantId reservationId : Id}
    {current : ManagedRow} (isCurrent : token.proposal.isCurrent current = true) :
    (token.modification restaurantId reservationId).changes current = false := by
  simp only [Proposal.isCurrent, Bool.and_eq_true, beq_iff_eq] at isCurrent
  obtain ⟨⟨startsAt, endsAt⟩, partySize⟩ := isCurrent
  simp [ModifyReservationArgs.changes, ModifyReservationArgs.target, ProposalToken.modification,
    ModificationTarget.capacityChanged, ModifyReservationArgs.nameChanged,
    ModifyReservationArgs.notesChanged, Reservation.begins, startsAt, endsAt, partySize]

variable {bearer : ManagementLink}

theorem decode_eq_ok {proposal : Proposal SelfServiceEnv.Digest}
    (decoded : token.decode bearer = .ok proposal) : token.proposal = proposal := by
  unfold ProposalToken.decode at decoded
  simp only at decoded
  split at decoded
  · exact Except.ok.inj decoded
  · cases decoded

variable [Icu]

variable {restaurantId : Id}

section

variable (injective : Function.Injective (SelfServiceEnv.digest))
variable (isCall : calls session = .confirm restaurantId reservationId bearer token)
variable (decoded : token.decode bearer = .ok token.proposal)
variable (locked : .reservation reservationId ∈ owned)
include injective isCall decoded locked

/-- What passes the checks on the row as it is may be confirmed. -/
theorem checkFresh_decides (tenant : Id) :
    (proposalAccess calls).Decides session owned (fun _ _ => True)
      (checkFresh token.proposal tenant reservationId) (fun _ => {.reservation reservationId})
      fun _ data _ => MayApply data reservationId token := by
  have always : (proposalAccess calls).Protects owned fun _ _ => True :=
    Access.protects_const True
  refine Access.Decides.query always (protects_found reservationId) ?_ fun fresh => ?_
  · exact fun data now _ _ row found => managedOf?_id found
  cases fresh with
  | none => exact Access.Decides.error _
  | some fresh =>
    refine Access.Decides.assuming (fun _ _ _ fact => fact.2 fresh rfl) ?_
    rintro rfl
    refine Access.Decides.knowing (subset_refl _) (fun _ _ _ _ => trivial) ?_
    refine Access.Decides.bind ((quiet_modificationContext fresh _).runs always) fun found => ?_
    cases found with
    | error error => exact Access.Decides.error _
    | ok ctx =>
      refine Access.Decides.glance always fun now => ?_
      simp only
      split
      · exact Access.Decides.error _
      have mayApply : (proposalAccess calls).Protects owned
          fun data _ => MayApply data fresh.id token := protects_mayApply locked token
      have mayApplyIf : ∀ read : Nat × Instant, (proposalAccess calls).Protects owned
          fun data _ => token.proposal.revision = revision fresh read.1 →
            MayApply data fresh.id token := fun _ => mayApply.when
      refine Access.Decides.bind (Access.Runs.readWhen always mayApplyIf ?_) fun read => ?_
      · intro free data now bound _ unforged same
        have offered := unforged _ _ bearer token token.proposal isCall decoded
        exact bound.mayApply injective offered ⟨fresh, rfl, same⟩
      split
      · exact Access.Decides.error _
      next isFresh =>
      split
      · exact Access.Decides.error _
      have same : token.proposal.revision = revision fresh read.1 := by
        simp only [Proposal.isFresh, Bool.not_eq_true, Bool.not_eq_false', Bool.and_eq_true,
          beq_iff_eq] at isFresh
        exact isFresh.1.1.2
      refine Access.Decides.knowing (subset_refl _) (fun _ _ _ known => known.2 same) ?_
      refine Access.Decides.bind ((quiet_modificationAvailability _).runs mayApply)
        fun available => ?_
      split
      · exact Access.Decides.ok (Set.singleton_subset_iff.2 locked)
          (protects_mayApply (Set.mem_singleton _) token) fun _ _ _ known => known
      · exact Access.Decides.error _

theorem checkProposal_decides {current : ManagedRow} (isRow : current.id = reservationId) :
    (proposalAccess calls).Decides session owned (fun _ _ => True)
      (checkProposal bearer token token.proposal current) (fun _ => {.reservation reservationId})
      fun _ => Confirms (some token) reservationId
        ((token.modification restaurantId reservationId).changes current = true) := by
  subst isRow
  have always : (proposalAccess calls).Protects owned fun _ _ => True :=
    Access.protects_const True
  have fresh : (proposalAccess calls).Decides session owned (fun _ _ => True)
      (checkFresh token.proposal current.restaurantId current.id)
      (fun _ => {.reservation current.id})
      fun _ => Confirms (some token) current.id
        ((token.modification restaurantId current.id).changes current = true) := by
    refine Discipline.Triple.weaken (checkFresh_decides injective isCall decoded locked _)
      (fun _ _ knows => knows) fun result store knows plan isPlan => ?_
    refine (knows plan isPlan).mono (subset_refl _) fun may _ other same => ?_
    cases same
    exact may
  refine Access.Decides.glance always fun now => ?_
  split
  · exact Access.Decides.error _
  split
  next isCurrent =>
    refine Access.Decides.glance always fun applied => ?_
    split
    · refine Access.Decides.ok (Set.singleton_subset_iff.2 locked)
        (protects_confirms (Set.mem_singleton _) _ _) fun _ _ _ _ changes => ?_
      rw [changes_of_isCurrent isCurrent] at changes
      cases changes
    · exact fresh
  next => exact fresh

end

theorem madeAt_slots {args : OfferArgs} {ctx : ModificationContext}
    {availability : MarkedAvailability} {auditCount : Nat} {now : Instant} {token : OfferedToken}
    (isToken : token ∈ (args.slots ctx availability auditCount now).map (·.proposalToken)) :
    MadeAt token args.row.id auditCount := by
  simp only [OfferArgs.slots, List.mem_map, List.mem_filterMap, Option.map_eq_some_iff] at isToken
  obtain ⟨slot, ⟨marked, -, proposal, isProposal, rfl⟩, rfl⟩ := isToken
  unfold OfferArgs.proposal? at isProposal
  simp only at isProposal
  split at isProposal
  · obtain ⟨deadline, -, rfl⟩ := Option.map_eq_some_iff.1 isProposal
    exact ⟨args.row, rfl, rfl⟩
  · cases isProposal

theorem modificationOptions_runs (row : ManagedRow) (bearer : ManagementLink) (partySize : Int)
    (requestedDate : Option LocalDate) : (proposalAccess calls).Serves session
      (modificationOptions session row bearer partySize requestedDate) := by
  have always : (proposalAccess calls).Protects ∅ fun _ _ => True :=
    Access.protects_const True
  refine Access.Runs.bind ((quiet_modificationContext row requestedDate).runs always) fun found => ?_
  cases found with
  | error error => exact Access.Runs.knowing (fun _ _ _ _ => trivial) (Access.ends_pure _)
  | ok ctx =>
    refine Access.Runs.glance always fun now => ?_
    simp only
    split
    · exact Access.ends_pure _
    split
    · exact Access.ends_pure _
    refine Access.Runs.bind ((quiet_modificationAvailability _).runs always) fun availability => ?_
    unfold OfferArgs.offer
    refine Access.Runs.commit always Access.protects_ends ?_ fun _ _ _ _ => Access.Ends.of _ _ _
    refine fun data now bound _ => ⟨bound.offer fun token isToken => madeAt_slots isToken, ?_, ?_⟩
    · exact .inr ⟨_, rfl, fun id changes => by cases changes⟩
    · exact fun id _ => ⟨rfl, fun _ found => found⟩

variable [Postgres]

/-- The rest of a modification keeps what the checks of its adapter have found. -/
theorem decideModification_decides {args : ModifyReservationArgs} (transactionStart : Instant)
    (current : ManagedRow) :
    (proposalAccess calls).Decides session {.reservation args.reservationId}
      (Confirms confirmed args.reservationId (args.changes current = true))
      (decideModification session args transactionStart current)
      (fun _ => {.reservation args.reservationId})
      fun plan => Confirms confirmed args.reservationId (args.changes plan.current = true) := by
  have protects : (proposalAccess calls).Protects {.reservation args.reservationId}
      (Confirms confirmed args.reservationId (args.changes current = true)) :=
    protects_confirms (Set.mem_singleton _) confirmed _
  refine Access.Decides.glance protects fun now => ?_
  simp only
  split
  · exact Access.Decides.error _
  split
  · exact Access.Decides.ok (subset_refl _) protects fun _ _ _ known => known
  split
  · exact Access.Decides.error _
  next endsAt _ =>
    refine Access.Decides.bind
      ((quiet_liftBooking (quiet_placeModified _ _ _ endsAt)).runs protects) fun placed => ?_
    cases placed with
    | error error => exact Access.Decides.error _
    | ok tableId => exact Access.Decides.ok (subset_refl _) protects fun _ _ _ known => known

variable {beforeModify : ManagedRow → ModificationProg (Except ModificationError Unit)}

section

variable {args : ModifyReservationArgs}
variable (checks : ∀ current, current.id = args.reservationId → (proposalAccess calls).Decides session {.reservation args.reservationId, .capacity args.restaurantId} (fun _ _ => True) (beforeModify current) (fun _ => {.reservation args.reservationId}) fun _ => Confirms confirmed args.reservationId (args.changes current = true))
include checks

theorem planModification_decides : (proposalAccess calls).Decides session ∅ (fun _ _ => True)
      (planModification session args beforeModify) (fun _ => {.reservation args.reservationId})
      fun plan => Confirms confirmed args.reservationId (args.changes plan.current = true) := by
  have always : ∀ owned, (proposalAccess calls).Protects owned fun _ _ => True :=
    fun _ => Access.protects_const True
  refine Access.Decides.glance (always _) fun transactionStart => ?_
  refine Access.Decides.acquire (always _) (Access.Decides.acquire (always _) ?_)
  rw [insert_empty_eq]
  refine Access.Decides.query (always _) (protects_found args.reservationId) ?_ fun current => ?_
  · exact fun data now _ _ row found => managedOf?_id found
  cases current with
  | none => exact Access.Decides.error _
  | some current =>
    refine Access.Decides.assuming (fun _ _ _ fact => fact.2 current rfl) fun sameId => ?_
    simp only
    split
    · exact Access.Decides.error _
    split
    · exact Access.Decides.error _
    refine Access.Decides.knowing (subset_refl _) (fun _ _ _ _ => trivial) ?_
    exact (checks current sameId).andThen fun _ => decideModification_decides _ current

theorem modifyReservation_runs : (proposalAccess calls).Serves session
      (modifyReservation session args confirmed beforeModify) := by
  refine Access.Runs.transact (planModification_decides checks) (fun plan => ?_)
    (fun _ => Access.protects_const True) ?_
  · exact protects_confirms (Set.mem_singleton _) confirmed _
  · intro plan data now bound may _ _
    by_cases changes : args.changes plan.current = true
    · have change : IsChange data (args.writes confirmed plan data) plan.update (args.entry plan)
          confirmed := ModifyReservationArgs.isChange_writes changes
      exact ⟨change.bound bound (may changes), change.writes (Set.mem_singleton _), trivial⟩
    · rw [ModifyReservationArgs.writes, if_neg changes]
      exact ⟨bound, (proposalAccess calls).writes_refl _ data, trivial⟩

end

theorem confirmModification_runs (injective : Function.Injective (SelfServiceEnv.digest))
    (isCall : calls session = .confirm restaurantId reservationId bearer token) :
    (proposalAccess calls).Serves session
      (confirmModification session restaurantId reservationId bearer token) := by
  unfold confirmModification
  split
  · exact Access.ends_pure _
  next proposal decoded =>
    cases decode_eq_ok decoded
    refine Access.Runs.bind (modifyReservation_runs fun current isRow => ?_) fun result => ?_
    · exact checkProposal_decides injective isCall decoded (Set.mem_insert _ _) isRow
    · exact Access.Runs.knowing (fun _ _ _ _ => trivial) (Access.ends_pure _)

theorem modificationCall_runs (injective : Function.Injective (SelfServiceEnv.digest))
    (session : SessionId) :
    (proposalAccess calls).Serves session ((calls session).prog session) := by
  have answers : ∀ {α : Type} {prog : ModificationProg (Except ModificationError α)}
      {answer : α → ModificationAnswer}, (proposalAccess calls).Serves session prog →
        (proposalAccess calls).Serves session (answering prog answer) :=
    fun runs => Access.Runs.bind runs fun _ =>
      Access.Runs.knowing (fun _ _ _ _ => trivial) (Access.ends_pure _)
  cases isCall : calls session with
  | options row bearer partySize requestedDate =>
    exact answers (modificationOptions_runs row bearer partySize requestedDate)
  | confirm restaurantId reservationId bearer token =>
    exact answers (confirmModification_runs injective isCall)
  | modify args =>
    refine answers (modifyReservation_runs fun current _ => ?_)
    exact Access.Decides.ok (by simp) (protects_confirms (Set.mem_singleton _) _ _)
      fun _ _ _ _ _ _ impossible => nomatch impossible
  | transition args actor =>
    refine answers (transact_runs (thenLock_decides (quiet_planTransition args) _) ?_)
    intro plan data now
    cases plan with
    | none => exact .inl rfl
    | some fromState =>
      refine .inr ⟨_, _, isChange_changed data ?_ _ none, rfl⟩
      exact fun _ => rfl
  | moveToTable args reservation startsAt endsAt =>
    refine answers (transact_runs (thenLock_decides (quiet_checkMove args _) _) ?_)
    refine fun _ data _ => .inr ⟨_, _, isChange_changed data ?_ _ none, rfl⟩
    exact fun _ => rfl
  | releaseTable reservationId => exact answers (releaseTableOf_runs reservationId)
  | elsewhere change created => exact answers (changeElsewhere_runs change created)

end

end Sokar
