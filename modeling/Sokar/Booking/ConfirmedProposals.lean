import Sokar.Booking.BoundProposals

/-!
# Proposals confirmed once

In every run a proposal changes its reservation at most once, and only as long as nothing has
changed since it was made; confirmed again while it is in force, before the reservation begins, it
changes nothing and succeeds.
-/

namespace Sokar

open Process Transaction

section

variable [SelfServiceEnv]

variable {calls : SessionId → ModificationCall} {session : SessionId}
  {restaurantId reservationId : Id} {bearer : ManagementLink} {token : OfferedToken}
  {store : ModificationStore} {c : Config SessionId ModificationStore ModificationResult}
  {moves : List (Move SessionId ModificationStore)}

/-- The move changes the reservation, in its row or in its audit trail. -/
def Changes (reservationId : Id) (move : Move SessionId ModificationStore) : Prop :=
  move.after.data.trail reservationId ≠ move.before.data.trail reservationId ∨
    ∃ row, move.before.data.row? reservationId = some row ∧
      move.after.data.row? reservationId ≠ some row

def IsConfirmation (calls : SessionId → ModificationCall) (reservationId : Id) (token : OfferedToken)
    (move : Move SessionId ModificationStore) : Prop :=
  ∃ restaurantId bearer, calls move.session = .confirm restaurantId reservationId bearer token

def MakesOffer (reservationId : Id) (token : OfferedToken)
    (move : Move SessionId ModificationStore) : Prop :=
  ∃ tokens, move.after.data.history = .offered reservationId tokens :: move.before.data.history ∧
    token ∈ tokens

theorem changed_of_changes {move : Move SessionId ModificationStore}
    (written : (proposalAccess calls).Written move) (changes : Changes reservationId move) :
    ∃ confirmed, move.after.data.history = .changed reservationId confirmed :: move.before.data.history := by
  by_contra silent
  obtain ⟨sameTrail, sameRow⟩ := written.writes.unlogged reservationId fun confirmed logged =>
    silent ⟨confirmed, logged⟩
  rcases changes with trail | ⟨row, found, other⟩
  · exact trail sameTrail
  · exact other (sameRow row found)

structure RunOfProposals (calls : SessionId → ModificationCall) (store : ModificationStore)
    (moves : List (Move SessionId ModificationStore)) (last : ModificationData) : Prop where
  written : ∀ move ∈ moves, (proposalAccess calls).Written move
  linked : Linked store.data moves last
  ordered : moves.Pairwise fun earlier later =>
    earlier.after.data.history <:+ later.before.data.history
  confirmed : ∀ move ∈ moves, ∀ reservationId token, IsConfirmation calls reservationId token move →
    Changes reservationId move →
      move.after.data.history = .changed reservationId (some token) :: move.before.data.history

namespace RunOfProposals

variable {last : ModificationData}

theorem once (known : RunOfProposals calls store moves last) : moves.Pairwise fun earlier later =>
      IsConfirmation calls reservationId token earlier → Changes reservationId earlier →
        IsConfirmation calls reservationId token later → ¬ Changes reservationId later := by
  refine known.ordered.imp_of_mem ?_
  intro earlier later isEarlier isLater grows confirms changes confirmsAgain changesAgain
  have first := known.confirmed earlier isEarlier _ _ confirms changes
  have second := known.confirmed later isLater _ _ confirmsAgain changesAgain
  have isOld : .changed reservationId (some token) ∈ later.before.data.history :=
    grows.subset (first ▸ List.mem_cons_self)
  have atMost := (known.written later isLater).inv'.once reservationId token
  rw [second, List.count_cons_self] at atMost
  have isPositive := List.count_pos_iff.2 isOld
  omega

theorem current (known : RunOfProposals calls store moves last) (fresh : store.data.history = [])
    {before after : List (Move SessionId ModificationStore)} {move : Move SessionId ModificationStore}
    (isMoves : moves = before ++ move :: after)
    (confirms : IsConfirmation calls reservationId token move) (changes : Changes reservationId move) :
    ∃ earlier making between, before = earlier ++ making :: between ∧
      MakesOffer reservationId token making ∧
        ∀ other ∈ making :: between, ¬ Changes reservationId other := by
  subst isMoves
  have isMove : move ∈ before ++ move :: after := by simp
  have isFront : ∀ other ∈ before, other ∈ before ++ move :: after :=
    fun other isOther => List.mem_append_left _ isOther
  have logged := known.confirmed move isMove _ _ confirms changes
  obtain ⟨since, tokens, older, isHistory, isToken, unchanged⟩ :=
    (known.written move isMove).inv'.current [] reservationId token _ logged
  have steps : ∀ other ∈ before, other.after.data.history = other.before.data.history ∨
      ∃ event, other.after.data.history = event :: other.before.data.history := by
    intro other isOther
    rcases (known.written other (isFront other isOther)).writes.history with silent | ⟨event, added, -⟩
    · exact .inl silent
    · exact .inr ⟨event, added⟩
  obtain ⟨earlier, making, between, rfl, isBefore, isAfter, adds⟩ :=
    addedBy_of_linked known.linked.upTo fresh steps isHistory
  refine ⟨earlier, making, between, rfl, ⟨tokens, isBefore ▸ isAfter, isToken⟩, ?_⟩
  intro other isOther changesOther
  have isInside : other ∈ earlier ++ making :: between := List.mem_append_right _ isOther
  obtain ⟨confirmed, added⟩ := changed_of_changes (known.written other (isFront other isInside))
    changesOther
  rcases List.mem_cons.1 isOther with rfl | isBetween
  · rw [isAfter, isBefore] at added
    cases (List.cons.inj added).1
  · rcases adds other isBetween with silent | ⟨event, isEvent, addedEvent⟩
    · rw [silent] at added
      exact absurd added (List.cons_ne_self _ _).symm
    · have keeps := unchanged event isEvent
      rw [(List.cons.inj (addedEvent.symm.trans added)).1] at keeps
      simp [ModificationEvent.changes] at keeps

end RunOfProposals

/-- The proposal is in force: it was confirmed, the reservation still has the window and the party
it asked for, may be modified through the link, and has not begun. -/
structure InForce (restaurantId reservationId : Id) (bearer : ManagementLink) (token : OfferedToken)
    (row : ManagedRow) (data : ModificationData) (now : Instant) : Prop where
  signed : token.decode bearer = .ok token.proposal
  found : data.managedOf? restaurantId reservationId = some row
  isCurrent : token.proposal.isCurrent row = true
  applied : data.isApplied reservationId (SelfServiceEnv.digestToken token) = true
  modifiable : row.state = .PENDING ∨ row.state = .CONFIRMED
  linked : verifyReservationManagementToken bearer row now = true
  ahead : now < token.proposal.startsAt
  proper : token.proposal.startsAt < token.proposal.endsAt
  valid : violation? data.bookings = none

variable {row : ManagedRow}

variable {data : ModificationData} {now : Instant}

section

variable (inForce : InForce restaurantId reservationId bearer token row data now)
include inForce

theorem InForce.unchanged : (token.modification restaurantId reservationId).changes row = false :=
  changes_of_isCurrent inForce.isCurrent

theorem InForce.sameCapacity :
    ((token.modification restaurantId reservationId).target row).capacityChanged row = false := by
  have unchanged := inForce.unchanged
  simp only [ModifyReservationArgs.changes, Bool.or_eq_false_iff] at unchanged
  exact unchanged.1.1

theorem InForce.isAllowed : (token.modification restaurantId reservationId).isAllowed
      ((token.modification restaurantId reservationId).target row) now = true := by
  simp [ModifyReservationArgs.isAllowed, ModifyReservationArgs.target, ProposalToken.modification,
    inForce.ahead, inForce.proper]

theorem InForce.notClosed : ¬ (row.state ≠ .PENDING ∧ row.state ≠ .CONFIRMED) := by
  rcases inForce.modifiable with pending | confirmed
  · exact fun both => both.1 pending
  · exact fun both => both.2 confirmed

end

theorem InForce.writes {plan : ModificationPlan}
    (inForce : InForce restaurantId reservationId bearer token plan.current data now) :
    (token.modification restaurantId reservationId).writes (some token) plan data = data := by
  rw [ModifyReservationArgs.writes, inForce.unchanged]
  rfl

theorem InForce.accepted (inForce : InForce restaurantId reservationId bearer token row data now) :
    modificationRefusal data = none := by
  rw [modificationRefusal, inForce.valid]
  rfl

/-- In each of its steps the program finds the proposal in force, and writes nothing. -/
abbrev Replays {α : Type} (restaurantId reservationId : Id) (bearer : ManagementLink)
    (token : OfferedToken) (row : ManagedRow) (post : α → Prop) (prog : ModificationProg α) : Prop :=
  prog.EndsWhile (fun store => InForce restaurantId reservationId bearer token row store.data store.now)
    (fun store store' => store'.data = store.data) post

theorem replays_query {α β : Type} {post : α → Prop} {view : ModificationData → Instant → β}
    {rest : β → ModificationProg α}
    (replaysRest : ∀ data now, InForce restaurantId reservationId bearer token row data now →
      Replays restaurantId reservationId bearer token row post (rest (view data now))) :
    Replays restaurantId reservationId bearer token row post (query view >>= rest) :=
  Prog.EndsWhile.read (fun _ => rfl) fun _ holds => replaysRest _ _ holds

theorem replays_acquire {α : Type} {post : α → Prop} {lock : BookingLock}
    {rest : Unit → ModificationProg α}
    (replaysRest : Replays restaurantId reservationId bearer token row post (rest ())) :
    Replays restaurantId reservationId bearer token row post (acquire session lock >>= rest) :=
  Prog.EndsWhile.await (fun _ _ => rfl) replaysRest

variable [Icu]

theorem replays_checkProposal (sameId : row.id = reservationId) :
    Replays restaurantId reservationId bearer token row (· = .ok ())
      (checkProposal bearer token token.proposal row) := by
  refine replays_query fun data now inForce => ?_
  simp only [inForce.linked, inForce.isCurrent, Bool.not_true, Bool.false_eq_true, if_false, if_true]
  refine replays_query fun data now inForce => ?_
  rw [sameId, if_pos inForce.applied]
  exact Prog.EndsWhile.pure rfl

variable [Postgres]

theorem replays_planModification : Replays restaurantId reservationId bearer token row
      (fun decided => ∃ plan, decided = .ok plan ∧ plan.current = row)
      (planModification session (token.modification restaurantId reservationId)
        (checkProposal bearer token token.proposal)) := by
  refine replays_query fun _ _ _ => replays_acquire (replays_acquire ?_)
  refine replays_query fun data now inForce => ?_
  have isRow : data.managedOf? (token.modification restaurantId reservationId).restaurantId
      (token.modification restaurantId reservationId).reservationId = some row := inForce.found
  have mayChange : (token.modification restaurantId reservationId).mayChange row = true := rfl
  rw [isRow]
  simp only [mayChange, Bool.not_true, Bool.false_eq_true, if_false, if_neg inForce.notClosed]
  refine Prog.EndsWhile.bind (replays_checkProposal (managedOf?_id inForce.found)) ?_
  rintro _ rfl
  refine replays_query fun data now inForce => ?_
  simp only [inForce.isAllowed, inForce.sameCapacity, Bool.not_true, Bool.not_false,
    Bool.false_eq_true, if_false, if_true]
  exact Prog.EndsWhile.pure ⟨_, rfl, rfl⟩

theorem quiet_planConfirmation (proposal : Proposal SelfServiceEnv.Digest) (restaurantId reservationId : Id) :
    Quiet session (planModification session (token.modification restaurantId reservationId)
      (checkProposal bearer token proposal)) :=
  quiet_planModification _ fun current => quiet_checkProposal bearer token proposal current

/-- The change that a confirmation makes names the proposal. -/
theorem confirmation_acts (isCall : calls session = .confirm restaurantId reservationId bearer token) :
    Acts session (fun data _ data' => ∃ update entry,
      IsChange data data' update entry (some token) ∧ entry.reservationId = reservationId)
      ((calls session).prog session) := by
  rw [isCall]
  refine Acts.bind ?_ fun _ => Acts.pure _
  unfold confirmModification
  split
  · exact Acts.pure _
  refine Acts.bind (Acts.transact (Acts.of_quiet (quiet_planConfirmation _ _ _)) ?_)
    fun _ => Acts.pure _
  intro plan data now _
  by_cases changes : (token.modification restaurantId reservationId).changes plan.current = true
  · exact .inr ⟨_, _, ModifyReservationArgs.isChange_writes changes, rfl⟩
  · exact .inl (by rw [ModifyReservationArgs.writes, if_neg changes])

theorem runOfProposals (injective : Function.Injective (SelfServiceEnv.digest))
    (fresh : store.data.history = [])
    (run : (modificationSystem calls).Run (.initial store) moves c)
    (unforged : ∀ move ∈ moves, Unforged (calls move.session) move.before.data) :
    RunOfProposals calls store moves c.shared.data := by
  have sound : (proposalAccess calls).Sound (fun _ => Access.Ends)
      (.initial store : Config SessionId ModificationStore ModificationResult) :=
    Access.sound_initial (proposalsBound_of_nil fresh)
  have written := (Access.run_sound (modificationCall_runs injective) sound run unforged).2
  have grows : MovesRelated (fun data data' : ModificationData => data.history <:+ data'.history)
      store.data c.shared.data moves := by
    refine moves_related ?_ ?_ run fun move isMove => ?_
    · exact fun data => List.suffix_refl data.history
    · exact fun earlier later => earlier.trans later
    rcases (written move isMove).writes.history with silent | ⟨event, added, -⟩
    · rw [silent]
    · rw [added]
      exact List.suffix_cons _ _
  refine ⟨written, linked_of_run run, grows.between, ?_⟩
  rintro move isMove reservationId token ⟨restaurantId, bearer, isCall⟩ changes
  obtain ⟨confirmed, logged⟩ := changed_of_changes (written move isMove) changes
  have acts : ∀ session, session = move.session → ActsWhile session (fun _ _ => True)
      (fun data _ data' => ∃ update entry, IsChange data data' update entry (some token) ∧
        entry.reservationId = reservationId) ((calls session).prog session) := by
    rintro session rfl
    exact ActsWhile.of_acts (confirmation_acts isCall)
  have steps : ∀ other ∈ moves, other.session = move.session → ActStep other.session
      (fun data _ data' => ∃ update entry, IsChange data data' update entry (some token) ∧
        entry.reservationId = reservationId) other.before other.after :=
    actSteps_while acts (fun _ _ _ running => by cases running) run fun _ _ _ => trivial
  have step := steps move isMove rfl
  rcases step.data with unchanged | ⟨update, entry, change, rfl⟩
  · rw [unchanged] at logged
    exact absurd logged (List.cons_ne_self _ _).symm
  · exact change.history

theorem replays_confirmation
    (isCall : calls session = .confirm restaurantId reservationId bearer token)
    (signed : token.decode bearer = .ok token.proposal) :
    Replays restaurantId reservationId bearer token row (· = .ok .done)
      ((calls session).prog session) := by
  have modified : Replays restaurantId reservationId bearer token row
      (fun result => ∃ modified, result = .ok modified)
      (modifyReservation session (token.modification restaurantId reservationId) (some token)
        (checkProposal bearer token token.proposal)) := by
    refine Prog.EndsWhile.bind replays_planModification ?_
    rintro _ ⟨plan, rfl, rfl⟩
    refine Prog.EndsWhile.last fun store inForce => ?_
    simp only [inForce.writes, inForce.accepted]
    exact ⟨rfl, _, rfl⟩
  rw [isCall]
  have confirmed : Replays restaurantId reservationId bearer token row (· = .ok ())
      (confirmModification session restaurantId reservationId bearer token) := by
    rw [confirmModification, signed]
    refine modified.bind ?_
    rintro _ ⟨answer, rfl⟩
    exact Prog.EndsWhile.pure rfl
  refine confirmed.bind ?_
  rintro _ rfl
  exact Prog.EndsWhile.pure rfl

/-- A confirmation that finds its proposal in force and waits for nobody succeeds. -/
theorem run_confirmation {store : ModificationStore} {row : ManagedRow}
    (inForce : InForce restaurantId reservationId bearer token row store.data store.now)
    (capacityFree : store.isFreeFor session (.capacity restaurantId) = true)
    (rowFree : store.isFreeFor session (.reservation reservationId) = true) :
    ∃ owner, ((ModificationCall.confirm restaurantId reservationId bearer token).prog session).run
      store = some (.ok .done, { store with owner }) := by
  have sameId : row.id = reservationId := managedOf?_id inForce.found
  have linked := inForce.linked
  have isCurrent := inForce.isCurrent
  have applied := inForce.applied
  have isAllowed := inForce.isAllowed
  have sameCapacity := inForce.sameCapacity
  let args := token.modification restaurantId reservationId
  let locked := args.locked session store
  have checked : (checkProposal bearer token token.proposal row).run locked = some (.ok (), locked) := by
    have sameNow : locked.now = store.now := rfl
    have sameData : locked.data = store.data := rfl
    simp [checkProposal, modificationTime, sameNow, sameData, linked, isCurrent, sameId, applied]
  let plan : ModificationPlan := { current := row, target := args.target row, tableId := row.tableId }
  have planned : (planModification session args (checkProposal bearer token token.proposal)).run
      store = some (.ok plan, locked) := by
    rw [run_planModification inForce.found rfl inForce.notClosed capacityFree rowFree,
      Prog.run_andThen_ok checked]
    have sameNow : locked.now = store.now := rfl
    simp [decideModification, modificationTime, sameNow, args, isAllowed, sameCapacity, plan]
  have same : args.writes (some token) plan locked.data = store.data :=
    InForce.writes (show InForce _ _ _ _ plan.current _ _ from inForce)
  have accepted : modificationRefusal (args.writes (some token) plan locked.data) = none := by
    rw [same]
    exact inForce.accepted
  have modified : (modifyReservation session args (some token)
      (checkProposal bearer token token.proposal)).run store = _ :=
    run_transact_ok planned accepted
  simp only [ModificationCall.prog, answering, confirmModification, inForce.signed, Prog.run_bind]
  rw [modified, same]
  exact ⟨_, rfl⟩

/-- In every run without forged proposals, a proposal changes the reservation at most once, a
confirmation changes it only if it was not changed since the proposal was made, and a confirmation
that finds its proposal in force in each of its steps changes nothing and can only end in success,
which it does when it waits for nobody. -/
theorem proposal_of_run (injective : Function.Injective (SelfServiceEnv.digest))
    (calls : SessionId → ModificationCall) (store : ModificationStore)
    (fresh : store.data.history = [])
    (c : Config SessionId ModificationStore ModificationResult)
    (moves : List (Move SessionId ModificationStore))
    (run : (modificationSystem calls).Run (.initial store) moves c)
    (unforged : ∀ move ∈ moves, Unforged (calls move.session) move.before.data)
    (reservationId : Id) (token : OfferedToken) :
    (moves.Pairwise fun earlier later =>
      IsConfirmation calls reservationId token earlier → Changes reservationId earlier →
        IsConfirmation calls reservationId token later → ¬ Changes reservationId later) ∧
    (∀ before move after, moves = before ++ move :: after →
      IsConfirmation calls reservationId token move → Changes reservationId move →
        ∃ earlier making between, before = earlier ++ making :: between ∧
          MakesOffer reservationId token making ∧
            ∀ other ∈ making :: between, ¬ Changes reservationId other) ∧
    (∀ session restaurantId bearer row,
      calls session = .confirm restaurantId reservationId bearer token →
      token.decode bearer = .ok token.proposal →
      (∀ move ∈ moves, move.session = session →
        InForce restaurantId reservationId bearer token row move.before.data move.before.now) →
      (∀ move ∈ moves, move.session = session → move.after.data = move.before.data) ∧
        ∀ result, c.procs session = some (.done result) → result = .ok .done) ∧
    ∀ session restaurantId bearer row,
      InForce restaurantId reservationId bearer token row c.shared.data c.shared.now →
      c.shared.isFreeFor session (.capacity restaurantId) = true →
      c.shared.isFreeFor session (.reservation reservationId) = true →
        ∃ owner, ((ModificationCall.confirm restaurantId reservationId bearer token).prog session).run
          c.shared = some (.ok .done, { c.shared with owner }) := by
  have known := runOfProposals injective fresh run unforged
  refine ⟨known.once, fun before move after isMoves => known.current fresh isMoves, ?_, ?_⟩
  · intro session restaurantId bearer row isCall signed inForce
    obtain ⟨unchanged, ends⟩ := run.ends_while (replays_confirmation isCall signed)
      (fun _ running => by cases running) inForce
    exact ⟨unchanged, fun result finished => ends _ finished⟩
  · exact fun session restaurantId bearer row inForce => run_confirmation inForce

end

section

attribute [local instance] Icu.utc Postgres.c

def Proposal.json (proposal : Proposal Json) : Json :=
  .arr [proposal.revision, proposal.settings, .num proposal.date, .str proposal.time,
    .num proposal.partySize, .ofInstant proposal.startsAt, .ofInstant proposal.endsAt,
    .num proposal.expires]

/-- Values are their own digests, and a signature is only the text of what is signed for. -/
@[reducible] def SelfServiceEnv.plain : SelfServiceEnv where
  Digest := Json
  decidableDigest := inferInstance
  digest := id
  digestToken token := .arr [token.proposal.json, .str token.signature]
  sign id _ _ _ _ := some id
  mac _ bearer := bearer.signature
  selfModificationEnabled := true
  longDateTime _ timezone := timezone

attribute [local instance] SelfServiceEnv.plain

instance (restaurantId reservationId : Id) (bearer : ManagementLink) (token : OfferedToken)
    (row : ManagedRow) (data : ModificationData) (now : Instant) :
    Decidable (InForce restaurantId reservationId bearer token row data now) :=
  decidable_of_iff
    (token.decode bearer = .ok token.proposal ∧
      data.managedOf? restaurantId reservationId = some row ∧ token.proposal.isCurrent row = true ∧
      data.isApplied reservationId (SelfServiceEnv.digestToken token) = true ∧
      (row.state = .PENDING ∨ row.state = .CONFIRMED) ∧
      verifyReservationManagementToken bearer row now = true ∧ now < token.proposal.startsAt ∧
      token.proposal.startsAt < token.proposal.endsAt ∧ violation? data.bookings = none)
    ⟨fun ⟨signed, found, isCurrent, applied, modifiable, linked, ahead, proper, valid⟩ =>
        ⟨signed, found, isCurrent, applied, modifiable, linked, ahead, proper, valid⟩,
      fun inForce => ⟨inForce.signed, inForce.found, inForce.isCurrent, inForce.applied,
        inForce.modifiable, inForce.linked, inForce.ahead, inForce.proper, inForce.valid⟩⟩

/-- Two from 19:00 to 21:00 on the only table of a Monday, free to move until an hour before. -/
def mondayPair : Reservation :=
  ⟨"a", "r", false, .CONFIRMED, 2, some "t", some 414000000, some 421200000, 414000000, 1, none⟩

def mondayHours : Restaurant :=
  ⟨"r", "UTC", [⟨1, "19:00", "23:00", none⟩]⟩

def movableStore : ModificationStore where
  data :=
    { bookings :=
        { restaurants := [mondayHours]
          exposureSettings := []
          floorPlans := [⟨"p", "r", true, true⟩]
          tables := [⟨"t", "p", none, "1", 2, 1, true⟩]
          reservations := [mondayPair]
          agenticHolds := [] }
      details := fun _ =>
        { customerName := "Ada", customerPhone := none, specialRequests := none
          createdByClient := none
          cancellationPolicySnap := some (.obj [("freeUntilMinutesBefore", .num 60),
            ("version", .str "1"), ("source", .str "onboarding-v1"),
            ("selfService", .str "free_before_deadline"), ("terms", .str "free")])
          giftCardRedemptionSnap := none
          relations := ⟨0, 0, 0, 0, 0⟩ }
      online := fun _ => ⟨7, 30, false⟩
      financialPolicies := []
      audits := []
      history := [] }
  now := 0
  owner _ := none

def mondayPairRow : ManagedRow where
  toReservation := mondayPair
  toReservationDetails := movableStore.data.details "a"

def mondayLink : ManagementLink := ⟨"a", 1000000, "a"⟩

/-- One of the proposals made on the first step: an hour later. -/
def anHourLater : OfferedToken where
  proposal :=
    { revision := revision mondayPairRow 0
      settings := digestSettings mondayHours none
      date := 4
      time := "20:00"
      partySize := 2
      startsAt := 417600000
      endsAt := 424800000
      expires := 600 }
  signature := "a"

def movedPairRow : ManagedRow :=
  { mondayPairRow with
    startsAt := some 417600000, endsAt := some 424800000, reservedAt := 417600000 }

/-- Options are asked for; the others confirm the same one of them. -/
def laterCalls : SessionId → ModificationCall
  | 0 => .options mondayPairRow mondayLink 2 (some 4)
  | _ => .confirm "r" "a" mondayLink anHourLater

def offersLater (move : Move SessionId ModificationStore) : Bool :=
  move.session == 0 || move.before.data.history.any fun
    | .offered _ tokens => tokens.contains anHourLater
    | .changed _ _ => false

theorem unforged_of_offersLater {move : Move SessionId ModificationStore}
    (offers : offersLater move = true) : Unforged (laterCalls move.session) move.before.data := by
  intro restaurantId reservationId bearer token proposal isCall _
  rcases Bool.or_eq_true_iff.1 offers with first | offered
  · rw [eq_of_beq first] at isCall
    cases isCall
  · obtain ⟨event, isEvent, holds⟩ := List.any_eq_true.1 offered
    cases event with
    | changed => cases holds
    | offered id tokens =>
      have isToken : token = anHourLater := by
        unfold laterCalls at isCall
        split at isCall
        · cases isCall
        · exact (ModificationCall.confirm.inj isCall).2.2.2.symm
      exact ⟨id, tokens, isEvent, isToken ▸ List.contains_iff_mem.1 holds⟩

def changesPair (move : Move SessionId ModificationStore) : Bool :=
  move.after.data.trail "a" != move.before.data.trail "a"

/-- A confirmation moves the pair, and the next one finds that done. -/
theorem proposal_of_run_later : ∃ moves c,
    (modificationSystem laterCalls).Run (.initial movableStore) moves c ∧
      c.procs 2 = some (.done (.ok .done)) ∧
        (∃ move ∈ moves, move.session = 1 ∧ Changes "a" move) ∧
          (∀ move ∈ moves, move.session = 2 → move.after.data = move.before.data) ∧
            moves.Pairwise fun earlier later =>
              IsConfirmation laterCalls "a" anHourLater earlier → Changes "a" earlier →
                IsConfirmation laterCalls "a" anHourLater later → ¬ Changes "a" later := by
  obtain ⟨moves, c, run, isResult, offers, ⟨move, isMove, isFirst, isChange⟩, inForce⟩ :=
    (modificationSystem laterCalls).exists_run_of_schedule
      (List.replicate 9 0 ++ List.replicate 30 1 ++ List.replicate 9 2) (.initial movableStore)
      (fun moves c => c.result? 2 = some (.ok .done) ∧ (∀ move ∈ moves, offersLater move) ∧
        (∃ move ∈ moves, move.session = 1 ∧ changesPair move) ∧
          ∀ move ∈ moves, move.session = 2 → InForce "r" "a" mondayLink anHourLater movedPairRow
            move.before.data move.before.now) (by decide +kernel)
  have bound := proposal_of_run Function.injective_id laterCalls movableStore rfl c moves run
    (fun move isMove => unforged_of_offersLater (offers move isMove)) "a" anHourLater
  have replayed := bound.2.2.1 2 "r" mondayLink movedPairRow rfl (by decide +kernel) inForce
  exact ⟨moves, c, run, Config.procs_of_result? isResult,
    ⟨move, isMove, isFirst, .inl (by simpa [changesPair] using isChange)⟩, replayed.1, bound.1⟩

def ModificationStore.passes (store : ModificationStore) : ModificationStore :=
  { store with now := store.now + 417600000 }

theorem ticks_evening (store : ModificationStore) : Ticks store (ModificationStore.passes store) :=
  ⟨Int.le_add_of_nonneg_right (by decide), rfl, rfl⟩

/-- The pair is moved as asked; once its window has begun, the same confirmation is refused. -/
theorem replay_refused_after_start : ¬ ∀ (calls : SessionId → ModificationCall)
    (store : ModificationStore), store.data.history = [] → ∀ moves c,
      (modificationSystem calls).Run (.initial store) moves c →
        (∀ move ∈ moves, Unforged (calls move.session) move.before.data) →
          ∀ session restaurantId reservationId bearer token row,
            calls session = .confirm restaurantId reservationId bearer token →
            token.decode bearer = .ok token.proposal →
            (∀ move ∈ moves, move.session = session →
              move.before.data.managedOf? restaurantId reservationId = some row ∧
                token.proposal.isCurrent row = true ∧
                move.before.data.isApplied reservationId (SelfServiceEnv.digestToken token) = true ∧
                row.state = .CONFIRMED ∧
                verifyReservationManagementToken bearer row move.before.now = true) →
              ∀ result, c.procs session = some (.done result) → result = .ok .done := by
  intro claim
  have scheduled : ((modificationSystem laterCalls).schedules ModificationStore.passes
      [List.replicate 9 0 ++ List.replicate 30 1, List.replicate 9 2]
      (.initial movableStore)).map (fun last =>
        (last.2.result? 2, last.1.all offersLater, last.1.all fun move => move.session != 2 ||
            decide (move.before.data.managedOf? "r" "a" = some movedPairRow ∧
              anHourLater.proposal.isCurrent movedPairRow = true ∧
              move.before.data.isApplied "a" (SelfServiceEnv.digestToken anHourLater) = true ∧
              movedPairRow.state = .CONFIRMED ∧
              verifyReservationManagementToken mondayLink movedPairRow move.before.now = true))) =
      some (some (.error (.ModificationConflict
        "Ce changement n’est plus disponible. Votre réservation initiale est conservée.")),
        true, true) := by
    decide +kernel
  obtain ⟨⟨moves, c⟩, ran, shown⟩ := Option.map_eq_some_iff.1 scheduled
  obtain ⟨isResult, shown⟩ := Prod.mk.inj shown
  obtain ⟨offers, recorded⟩ := Prod.mk.inj shown
  have replayed := claim laterCalls movableStore rfl moves c (System.run_schedules ticks_evening ran)
    (fun move isMove => unforged_of_offersLater (List.all_eq_true.1 offers move isMove))
    2 "r" "a" mondayLink anHourLater movedPairRow rfl (by decide +kernel) (by
      intro move isMove isReplay
      have found := List.all_eq_true.1 recorded move isMove
      simpa [isReplay] using found)
    _ (Config.procs_of_result? isResult)
  cases replayed

end

end Sokar
