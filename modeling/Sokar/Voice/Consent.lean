import Sokar.Voice.StructuredTurn

/-!
# Consent to what was read back

A reservation is authorised only as the answer to a reply that read the draft back, in every call
whose turns note what they say while such a reply waits for its answer.
-/

namespace Sokar

open StructuredTurn

/-! ## What one turn leaves -/

structure KeepsNotes (state later : StructuredTurnState) : Prop where
  lastAwaiting : later.lastAwaiting = state.lastAwaiting
  recapKey : later.recapKey = state.recapKey
  resumableRecapKey : later.resumableRecapKey = state.resumableRecapKey
  formed : state.draft.Formed → later.draft.Formed

theorem KeepsNotes.refl (state : StructuredTurnState) : KeepsNotes state state :=
  ⟨rfl, rfl, rfl, id⟩

theorem KeepsNotes.trans {state later last : StructuredTurnState} (first : KeepsNotes state later)
    (second : KeepsNotes later last) : KeepsNotes state last :=
  ⟨second.lastAwaiting.trans first.lastAwaiting, second.recapKey.trans first.recapKey,
    second.resumableRecapKey.trans first.resumableRecapKey, second.formed ∘ first.formed⟩

variable (turn : StructuredTurn)

theorem keeps_withPrefetched (state : StructuredTurnState) :
    KeepsNotes state (turn.withPrefetched state) := by
  unfold withPrefetched
  split
  · exact ⟨rfl, rfl, rfl, id⟩
  · exact .refl state

theorem draft_withPrefetched (state : StructuredTurnState) :
    (turn.withPrefetched state).draft = state.draft := by
  unfold withPrefetched
  split <;> rfl

section

variable {turn : StructuredTurn} {later : StructuredTurnState} {output : StructuredTurnOutput}

theorem runAvailability_ne_nothing (rest : StructuredTurnState) :
    turn.runAvailability later ≠ .nothing rest := by
  unfold runAvailability
  split
  · exact nofun
  · split_ifs <;> exact nofun

theorem afterManager_ne_nothing {returned : Bool → ActionOutcome} {rest : StructuredTurnState}
    (returns : ∀ created, returned created ≠ .nothing rest) :
    turn.afterManager later returned ≠ .nothing rest := by
  unfold afterManager
  split
  · exact nofun
  · exact returns _

theorem of_takeAction_nothing {rest : StructuredTurnState}
    (nothing : turn.takeAction later output = .nothing rest) :
    output.action = .none ∧ rest = later := by
  unfold takeAction at nothing
  cases action : output.action with
  | none =>
    rw [action] at nothing
    exact ⟨rfl, (ActionOutcome.nothing.inj nothing).symm⟩
  | end_call =>
    rw [action] at nothing
    dsimp only at nothing
    split at nothing <;> cases nothing
  | check_availability =>
    rw [action] at nothing
    exact absurd nothing (runAvailability_ne_nothing rest)
  | create_reservation =>
    rw [action] at nothing
    exact absurd nothing (afterManager_ne_nothing fun _ => nofun)
  | take_message =>
    rw [action] at nothing
    dsimp only at nothing
    split at nothing
    · cases nothing
    · exact absurd nothing (afterManager_ne_nothing fun _ => nofun)
  | transfer =>
    rw [action] at nothing
    refine absurd nothing (afterManager_ne_nothing fun _ => ?_)
    split_ifs <;> exact nofun

end

section

variable [FrenchText]

inductive EndsAs (turn : StructuredTurn) (state : StructuredTurnState) (turnEnd : TurnEnd) : Prop
  /-- Nothing is said. -/
  | silent (keeps : KeepsNotes state turnEnd.state) (isSilent : turnEnd.spoken = [])
  | unnoted (keeps : KeepsNotes state turnEnd.state) (reply : SpokenReply)
      (isSpoken : turnEnd.spoken = [reply]) (isUnnoted : reply.isNoted = false)
  /-- A reply is noted with the draft it is given with. -/
  | noted (before : StructuredTurnState) (output : StructuredTurnOutput)
      (keeps : KeepsNotes state before)
      (isNoted : turnEnd.state = updateConfirmationState before output turn.recapHeard)
      (isSpoken : turnEnd.spoken = [.reply output.awaiting before.draft])
  /-- A question is noted, but not said. -/
  | question (before : StructuredTurnState) (output : StructuredTurnOutput)
      (keeps : KeepsNotes state before)
      (isNoted : turnEnd.state = updateConfirmationState before output turn.recapHeard)
      (isSilent : turnEnd.spoken = []) (notConfirmation : output.awaiting ≠ .confirmation)
      (notResume : output.awaiting ≠ .confirmationResume)

section

variable {turn : StructuredTurn} {state later : StructuredTurnState} {output : StructuredTurnOutput}

theorem keeps_withDraft : KeepsNotes state (turn.withDraft state output) :=
  ⟨rfl, rfl, rfl, fun formed => (formed.applied _).named _⟩

section

variable (keeps : KeepsNotes state later)
include keeps

theorem endsAs_silentEnd : EndsAs turn state (silentEnd later) :=
  .silent keeps rfl

theorem endsAs_fallbackEnd : EndsAs turn state (fallbackEnd later) :=
  .unnoted keeps .fallback rfl rfl

theorem endsAs_cutEnd (spoke : Bool) : EndsAs turn state (cutEnd later spoke) := by
  cases spoke with
  | false => exact .silent keeps rfl
  | true => exact .unnoted keeps .cut rfl rfl

theorem endsAs_goodbyeEnd : EndsAs turn state (goodbyeEnd later) :=
  .unnoted keeps .goodbye rfl rfl

theorem endsAs_notedEnd : EndsAs turn state (turn.notedEnd later output true) :=
  .noted later output keeps rfl rfl

theorem endsAs_sayNothing : EndsAs turn state (turn.sayNothing later output) := by
  unfold sayNothing
  split
  · exact endsAs_notedEnd keeps
  · exact endsAs_fallbackEnd keeps

theorem endsAs_runSecond (hasFallback noHangUp : Bool) :
    EndsAs turn state (turn.runSecond later hasFallback noHangUp) := by
  unfold runSecond
  split
  · exact endsAs_cutEnd keeps _
  · exact endsAs_fallbackEnd keeps
  · next output _ _ =>
    have keepsDraft : KeepsNotes state (turn.withDraft later output) :=
      keeps.trans keeps_withDraft
    split_ifs
    · exact endsAs_fallbackEnd keeps
    · exact endsAs_fallbackEnd keepsDraft
    · exact endsAs_goodbyeEnd keepsDraft
    · exact endsAs_notedEnd keepsDraft
    · exact endsAs_notedEnd keepsDraft
    · exact endsAs_sayNothing keepsDraft

end

/-- What an action comes to leaves what was noted. -/
def OutcomeKeeps (turn : StructuredTurn) (state : StructuredTurnState) : ActionOutcome → Prop
  | .finished turnEnd => EndsAs turn state turnEnd
  | .fixedReply later awaiting =>
    KeepsNotes state later ∧ awaiting ≠ .confirmation ∧ awaiting ≠ .confirmationResume
  | .result later _ _ => KeepsNotes state later
  | .nothing later => KeepsNotes state later

section

variable (keeps : KeepsNotes state later)
include keeps

theorem outcome_runAvailability : OutcomeKeeps turn state (turn.runAvailability later) := by
  unfold runAvailability
  split
  · exact keeps
  · next slots isClosed noTable _ =>
    have read : KeepsNotes state { later with
        availability := some ⟨later.draft.date, later.draft.partySize, slots⟩ } :=
      keeps.trans ⟨rfl, rfl, rfl, id⟩
    split_ifs
    · exact read
    · exact ⟨read, by decide, by decide⟩
    · exact read
    · exact ⟨read, by decide, by decide⟩

theorem outcome_afterManager {returned : Bool → ActionOutcome}
    (returns : ∀ created, OutcomeKeeps turn state (returned created)) :
    OutcomeKeeps turn state (turn.afterManager later returned) := by
  unfold afterManager
  split
  · split
    · exact endsAs_fallbackEnd keeps
    · exact endsAs_silentEnd keeps
  · exact returns _

theorem outcome_takeAction : OutcomeKeeps turn state (turn.takeAction later output) := by
  unfold takeAction
  cases output.action with
  | end_call =>
    dsimp only
    split
    · exact keeps
    · exact endsAs_goodbyeEnd keeps
  | check_availability => exact outcome_runAvailability keeps
  | create_reservation =>
    exact outcome_afterManager keeps fun created => keeps.trans ⟨rfl, rfl, rfl, id⟩
  | take_message =>
    dsimp only
    split
    · exact keeps
    · exact outcome_afterManager keeps fun _ => keeps
  | transfer =>
    apply outcome_afterManager keeps
    intro created
    split_ifs
    · exact endsAs_silentEnd keeps
    · exact keeps
    · exact EndsAs.unnoted keeps .handoff rfl rfl
  | none => exact keeps

theorem outcome_act (conflict : Option PassConflict) :
    OutcomeKeeps turn state (turn.act later output conflict) := by
  unfold act
  split
  · exact outcome_runAvailability keeps
  · exact keeps.trans ⟨rfl, rfl, rfl, id⟩
  · exact keeps
  · exact keeps
  · split
    · exact keeps
    · exact outcome_runAvailability keeps
    · exact outcome_takeAction keeps

end

theorem authorize_of_no_action {draft : StructuredTurnDraft} {context : ActionContext}
    (noAction : output.action = .none) :
    authorizeStructuredAction state output draft context = none ↔
      context.replyScope.isSome = true → output.awaiting ≠ .none ∧
        bookingKey output.draft = bookingKey state.draft := by
  unfold authorizeStructuredAction
  simp only [noAction]
  cases context.replyScope <;> simp

theorem draft_withDraft_of_scope (scope : turn.replyScope.isSome = true) :
    (turn.withDraft state output).draft = state.draft := by
  have kept : ∀ today, (applyProposedDraft today state.draft
      { output with draft := state.draft }).draft = state.draft := by
    intro today
    simp [applyProposedDraft, applyText, applyPartySize]
  unfold withDraft
  rw [if_pos scope]
  dsimp only
  rw [turn.spellsNoName scope, kept]

variable {conflict : Option PassConflict}

/-- Only an allowed turn without a conflict and without an action leaves nothing to do. -/
theorem of_act_nothing {rest : StructuredTurnState}
    (nothing : turn.act later output conflict = .nothing rest) :
    turn.decision later output = none ∧ conflict = none ∧ output.action = .none ∧
      rest = later := by
  unfold act at nothing
  split at nothing
  · exact absurd nothing (runAvailability_ne_nothing rest)
  · cases nothing
  · cases nothing
  · cases nothing
  · next allowed =>
    split at nothing
    · cases nothing
    · exact absurd nothing (runAvailability_ne_nothing rest)
    · obtain ⟨noAction, same⟩ := of_takeAction_nothing nothing
      exact ⟨allowed, rfl, noAction, same⟩

theorem speaksFirst_of_nothing {rest : StructuredTurnState}
    (nothing : turn.act (turn.withPrefetched (turn.withDraft state output)) output conflict =
      .nothing rest) (speaks : output.isSilent = false) :
    turn.speaksFirst state output conflict = true := by
  obtain ⟨allowed, noConflict, noAction, -⟩ := of_act_nothing nothing
  have keeps : turn.keepsScope state output = true := by
    rw [keepsScope, Bool.or_eq_true]
    cases isScoped : turn.replyScope.isSome with
    | false =>
      left
      rw [Option.isNone_iff_eq_none]
      exact Option.not_isSome_iff_eq_none.1 (Bool.not_eq_true _ ▸ isScoped)
    | true =>
      right
      rw [decision, authorize_of_no_action noAction] at allowed
      have sameDraft : (turn.withPrefetched (turn.withDraft state output)).draft =
          state.draft := by
        rw [draft_withPrefetched, draft_withDraft_of_scope isScoped]
      rw [Option.isNone_iff_eq_none, authorize_of_no_action noAction]
      rw [sameDraft] at allowed
      exact fun _ => allowed isScoped
  simp [speaksFirst, noAction, noConflict, keeps, speaks]

theorem endsAs_finish (keeps : KeepsNotes state later)
    (speaks : ∀ rest, turn.act later output conflict = .nothing rest → output.isSilent = false →
      turn.speaksFirst state output conflict = true) :
    EndsAs turn state (turn.finish output (turn.speaksFirst state output conflict)
      (turn.act later output conflict)) := by
  have outcome : OutcomeKeeps turn state (turn.act later output conflict) :=
    outcome_act keeps conflict
  cases acted : turn.act later output conflict with
  | finished turnEnd =>
    rw [acted] at outcome
    exact outcome
  | fixedReply rest awaiting =>
    rw [acted] at outcome
    obtain ⟨keepsRest, notConfirmation, notResume⟩ := outcome
    cases isLive : turn.isLive with
    | true =>
      rw [finish, isLive]
      exact endsAs_notedEnd keepsRest
    | false =>
      rw [finish, isLive]
      exact .question rest { output with action := .none, awaiting } keepsRest rfl rfl
        notConfirmation notResume
  | result rest hasFallback noHangUp =>
    rw [acted] at outcome
    rw [finish]
    split
    · exact endsAs_runSecond outcome _ _
    · exact endsAs_silentEnd outcome
  | nothing rest =>
    rw [acted] at outcome
    rw [finish]
    split
    · exact endsAs_sayNothing outcome
    · next isLoud =>
      rw [Bool.not_eq_true] at isLoud
      rw [speaks rest acted isLoud]
      exact endsAs_notedEnd outcome

theorem runStructuredTurn_endsAs (turn : StructuredTurn) (state : StructuredTurnState) :
    EndsAs turn state (turn.runStructuredTurn state) := by
  unfold runStructuredTurn
  split
  · exact endsAs_cutEnd (.refl state) _
  · exact endsAs_fallbackEnd (.refl state)
  · split
    · exact endsAs_silentEnd (.refl state)
    · next output conflict _ _ =>
      have keeps : KeepsNotes state (turn.withPrefetched (turn.withDraft state output)) :=
        keeps_withDraft.trans (keeps_withPrefetched turn _)
      cases endsAs_finish keeps fun rest nothing => speaksFirst_of_nothing nothing with
      | silent keeps isSilent => exact .silent keeps isSilent
      | unnoted keeps reply isSpoken isUnnoted =>
        exact .unnoted keeps reply isSpoken isUnnoted
      | noted before output keeps isNoted isSpoken =>
        exact .noted before output keeps isNoted isSpoken
      | question before output keeps isNoted isSilent notConfirmation notResume =>
        exact .question before output keeps isNoted isSilent notConfirmation notResume

end

inductive ReadsBack (said : List SpokenReply) (draft : StructuredTurnDraft) : Prop
  | recap {read : StructuredTurnDraft} (last : said.getLast? = some (.reply .confirmation read))
      (same : SameDetails read draft) : ReadsBack said draft
  | resumption {read earlier : StructuredTurnDraft}
      (last : said.getLast? = some (.reply .confirmationResume read))
      (same : SameDetails read draft) (recapped : .reply .confirmation earlier ∈ said)
      (sameBefore : SameDetails earlier draft) : ReadsBack said draft

/-- A recap waits for its answer, or the question to go on with one. -/
def StructuredTurnState.awaitsConsent (state : StructuredTurnState) : Bool :=
  (state.lastAwaiting == .confirmation && state.recapKey.isSome) ||
    (state.lastAwaiting == .confirmationResume && state.resumableRecapKey.isSome)

/-- The turn ends in a sentence that is not noted: the fallback, the beginning of a reply, the
announcement of a transfer. -/
def leavesUnnoted (state : StructuredTurnState) : Bool :=
  let turnEnd := turn.runStructuredTurn state
  !turnEnd.ended && turnEnd.spoken.any (!·.isNoted)

inductive NotingRun : SpokenCall → Prop
  | opening : NotingRun .opening
  | turn {call : SpokenCall} (run : NotingRun call) (turn : StructuredTurn)
      (notes : call.state.awaitsConsent = true → leavesUnnoted turn call.state = false) :
      NotingRun (call.take turn)

structure KeyOf (draft : StructuredTurnDraft) (key : String) : Prop where
  formed : draft.Formed
  complete : isBookingComplete draft = true
  isKey : bookingKey draft = key

theorem KeyOf.same {first second : StructuredTurnDraft} {key : String} (isFirst : KeyOf first key)
    (isSecond : KeyOf second key) : SameDetails first second :=
  .of_bookingKey isFirst.formed isSecond.formed isFirst.complete isSecond.complete
    (isFirst.isKey.trans isSecond.isKey.symm)

/-- What is noted was said, and last if it waits for an answer. -/
structure Tracked (state : StructuredTurnState) (said : List SpokenReply) : Prop where
  formed : state.draft.Formed
  recap : ∀ {key}, state.lastAwaiting = .confirmation → state.recapKey = some key →
    ∃ read, said.getLast? = some (.reply .confirmation read) ∧ KeyOf read key
  resumption : ∀ {key}, state.lastAwaiting = .confirmationResume →
    state.resumableRecapKey = some key →
      ∃ read, said.getLast? = some (.reply .confirmationResume read) ∧ KeyOf read key
  recapped : ∀ {key}, state.resumableRecapKey = some key →
    ∃ read, .reply .confirmation read ∈ said ∧ KeyOf read key

section

variable {state later : StructuredTurnState} {said : List SpokenReply}

omit [FrenchText] in
theorem createStructuredTurnState_formed : createStructuredTurnState.draft.Formed :=
  ⟨.inl rfl, .inl rfl, 0, by decide, rfl⟩

theorem tracked_opening : Tracked createStructuredTurnState [] :=
  ⟨createStructuredTurnState_formed, nofun, nofun, nofun⟩

theorem Tracked.keeps (tracked : Tracked state said) (keeps : KeepsNotes state later) :
    Tracked later said := by
  refine ⟨keeps.formed tracked.formed, ?_, ?_, ?_⟩
  · rw [keeps.lastAwaiting, keeps.recapKey]
    exact tracked.recap
  · rw [keeps.lastAwaiting, keeps.resumableRecapKey]
    exact tracked.resumption
  · rw [keeps.resumableRecapKey]
    exact tracked.recapped

/-- What no answer is waited for may be followed by anything. -/
theorem Tracked.unnoted (tracked : Tracked state said) (idle : state.awaitsConsent = false)
    (reply : SpokenReply) : Tracked state (said ++ [reply]) := by
  simp only [StructuredTurnState.awaitsConsent, Bool.or_eq_false_iff, Bool.and_eq_false_iff,
    beq_eq_false_iff_ne] at idle
  refine ⟨tracked.formed, ?_, ?_, ?_⟩
  · intro key isConfirmation isKey
    rcases idle.1 with other | noKey
    · exact absurd isConfirmation other
    · rw [isKey] at noKey
      cases noKey
  · intro key isResume isKey
    rcases idle.2 with other | noKey
    · exact absurd isResume other
    · rw [isKey] at noKey
      cases noKey
  · intro key isKey
    obtain ⟨read, isSaid, isOf⟩ := tracked.recapped isKey
    exact ⟨read, List.mem_append_left _ isSaid, isOf⟩

variable {recapHeard : Bool}

theorem Tracked.recapped_of_canResume (tracked : Tracked state said)
    (resumes : canResumeConfirmation state recapHeard = true) :
    KeyOf state.draft (bookingKey state.draft) ∧
      ∃ read, .reply .confirmation read ∈ said ∧ KeyOf read (bookingKey state.draft) := by
  unfold canResumeConfirmation at resumes
  split at resumes
  · cases resumes
  · next possible =>
    rw [Bool.or_eq_true, not_or, Bool.not_eq_true', Bool.not_eq_false] at possible
    refine ⟨⟨tracked.formed, possible.2, rfl⟩, ?_⟩
    split at resumes
    · next isConfirmation =>
      rw [Bool.and_eq_true, beq_iff_eq] at resumes
      obtain ⟨read, isLast, isOf⟩ := tracked.recap isConfirmation resumes.2
      exact ⟨read, List.mem_of_getLast? isLast, isOf⟩
    · rw [Bool.and_eq_true, beq_iff_eq] at resumes
      exact tracked.recapped resumes.1

variable {output : StructuredTurnOutput}

theorem resumable_of_update {key : String}
    (isKey : (updateConfirmationState state output recapHeard).resumableRecapKey = some key) :
    canResumeConfirmation state recapHeard = true ∧ key = bookingKey state.draft := by
  unfold updateConfirmationState at isKey
  dsimp only at isKey
  split_ifs at isKey with isConfirmation dropped resumes complete
  exact ⟨resumes, (Option.some.inj isKey).symm⟩

theorem Tracked.noted (tracked : Tracked state said) (output : StructuredTurnOutput)
    (recapHeard : Bool) : Tracked (updateConfirmationState state output recapHeard)
      (said ++ [.reply output.awaiting state.draft]) := by
  have isLast : (said ++ [SpokenReply.reply output.awaiting state.draft]).getLast? =
      some (.reply output.awaiting state.draft) := List.getLast?_concat
  refine ⟨tracked.formed, ?_, ?_, ?_⟩
  · intro key isConfirmation isKey
    change output.awaiting = .confirmation at isConfirmation
    have ofKey : (updateConfirmationState state output recapHeard).recapKey =
        if isBookingComplete state.draft then some (bookingKey state.draft) else none :=
      if_pos isConfirmation
    rw [ofKey] at isKey
    split at isKey
    · next complete =>
      rw [isConfirmation] at isLast ⊢
      exact ⟨state.draft, isLast, tracked.formed, complete, Option.some.inj isKey⟩
    · cases isKey
  · intro key isResume isKey
    change output.awaiting = .confirmationResume at isResume
    obtain ⟨resumes, rfl⟩ := resumable_of_update isKey
    rw [isResume] at isLast ⊢
    exact ⟨state.draft, isLast, (tracked.recapped_of_canResume resumes).1⟩
  · intro key isKey
    obtain ⟨resumes, rfl⟩ := resumable_of_update isKey
    obtain ⟨read, isSaid, isOf⟩ := (tracked.recapped_of_canResume resumes).2
    exact ⟨read, List.mem_append_left _ isSaid, isOf⟩

theorem Tracked.question (tracked : Tracked state said)
    (notConfirmation : output.awaiting ≠ .confirmation)
    (notResume : output.awaiting ≠ .confirmationResume) :
    Tracked (updateConfirmationState state output recapHeard) said := by
  refine ⟨tracked.formed, fun isConfirmation => absurd isConfirmation notConfirmation,
    fun isResume => absurd isResume notResume, fun isKey => ?_⟩
  obtain ⟨resumes, rfl⟩ := resumable_of_update isKey
  exact (tracked.recapped_of_canResume resumes).2

theorem Tracked.take {call : SpokenCall} (tracked : Tracked call.state call.said)
    (turn : StructuredTurn)
    (notes : call.state.awaitsConsent = true → leavesUnnoted turn call.state = false)
    (continues : (call.take turn).ended = false) :
    Tracked (call.take turn).state (call.take turn).said := by
  by_cases isOver : call.ended = true
  · rw [SpokenCall.take, if_pos isOver]
    exact tracked
  · rw [SpokenCall.take, if_neg isOver] at continues ⊢
    dsimp only at continues ⊢
    cases runStructuredTurn_endsAs turn call.state with
    | silent keeps isSilent =>
      rw [isSilent, List.append_nil]
      exact tracked.keeps keeps
    | unnoted keeps reply isSpoken isUnnoted =>
      have idle : call.state.awaitsConsent = false := by
        by_contra awaits
        have noted := notes (Bool.not_eq_false _ ▸ awaits)
        rw [leavesUnnoted, continues, isSpoken] at noted
        simp [isUnnoted] at noted
      rw [isSpoken]
      exact (tracked.unnoted idle reply).keeps keeps
    | noted before output keeps isNoted isSpoken =>
      rw [isSpoken, isNoted]
      exact (tracked.keeps keeps).noted output _
    | question before output keeps isNoted isSilent notConfirmation notResume =>
      rw [isSilent, isNoted, List.append_nil]
      exact (tracked.keeps keeps).question notConfirmation notResume

theorem NotingRun.tracked {call : SpokenCall} (run : NotingRun call) (open_ : call.ended = false) :
    Tracked call.state call.said := by
  induction run with
  | opening => exact tracked_opening
  | @turn call _ turn notes ih =>
    by_cases isOver : call.ended = true
    · rw [SpokenCall.take, if_pos isOver, isOver] at open_
      cases open_
    · exact (ih (Bool.not_eq_true _ ▸ isOver)).take turn notes open_

variable {draft : StructuredTurnDraft}

/-- A reservation is decided on a complete draft that the reply before read back. -/
theorem recapAccepted_of_authorized {context : ActionContext}
    (creates : output.action = .create_reservation)
    (allowed : authorizeStructuredAction state output draft context = none) :
    isBookingComplete draft = true ∧ recapAccepted state draft = true := by
  unfold authorizeStructuredAction at allowed
  simp only [creates] at allowed
  split_ifs at allowed
  unfold decideReservation at allowed
  split_ifs at allowed with created incomplete tooMany unverified unread
  rw [Bool.not_eq_true, Bool.not_eq_false'] at incomplete unread
  exact ⟨incomplete, unread⟩

/-- A turn authorises a reservation of the draft it has after the first answer. -/
theorem of_authorized {turn : StructuredTurn}
    (authorized : (turn.runStructuredTurn state).authorized = some draft) :
    ∃ later, KeepsNotes state later ∧ later.draft = draft ∧ isBookingComplete draft = true ∧
      recapAccepted later draft = true := by
  unfold runStructuredTurn at authorized
  split at authorized
  · cases authorized
  · cases authorized
  · split at authorized
    · cases authorized
    · next output conflict _ _ =>
      dsimp only at authorized
      split at authorized
      · next decided =>
        obtain ⟨allowed, -, creates⟩ := decided
        have isDraft := Option.some.inj authorized
        obtain ⟨complete, accepted⟩ := recapAccepted_of_authorized creates allowed
        rw [isDraft] at complete accepted
        exact ⟨_, keeps_withDraft.trans (keeps_withPrefetched turn _), isDraft, complete, accepted⟩
      · cases authorized

theorem Tracked.readsBack (tracked : Tracked state said) {turn : StructuredTurn}
    (authorized : (turn.runStructuredTurn state).authorized = some draft) :
    ReadsBack said draft := by
  obtain ⟨later, keeps, isDraft, complete, accepted⟩ := of_authorized authorized
  have now := tracked.keeps keeps
  have isOf : KeyOf draft (bookingKey draft) := ⟨isDraft ▸ now.formed, complete, rfl⟩
  simp only [recapAccepted, Bool.or_eq_true, Bool.and_eq_true, beq_iff_eq] at accepted
  rcases accepted with ⟨isConfirmation, isKey⟩ | ⟨isResume, isKey⟩
  · obtain ⟨read, isLast, isRead⟩ := now.recap isConfirmation isKey
    exact .recap isLast (isRead.same isOf)
  · obtain ⟨read, isLast, isRead⟩ := now.resumption isResume isKey
    obtain ⟨earlier, isSaid, isEarlier⟩ := now.recapped isKey
    exact .resumption isLast (isRead.same isOf) isSaid (isEarlier.same isOf)

end

/-- The draft a reservation is authorised for in the next turn. -/
def SpokenCall.authorizes (call : SpokenCall) (turn : StructuredTurn) :
    Option StructuredTurnDraft :=
  if call.ended then none else (turn.runStructuredTurn call.state).authorized

/-- No booking without consent to what was just read back. -/
theorem authorizes_readsBack {call : SpokenCall} (run : NotingRun call) (turn : StructuredTurn)
    {draft : StructuredTurnDraft} (authorized : call.authorizes turn = some draft) :
    ReadsBack call.said draft := by
  unfold SpokenCall.authorizes at authorized
  split at authorized
  · cases authorized
  · next isOpen => exact (run.tracked (Bool.not_eq_true _ ▸ isOpen)).readsBack authorized

end

/-! ## A call in which the model fails after the recap -/

def martinDraft : StructuredTurnDraft := ⟨"2026-10-24", "20:00", 2, "Martin"⟩

/-- A turn in which the model answers once. -/
def plainTurn (output : StructuredTurnOutput) : StructuredTurn where
  today := "2026-10-20"
  maxPartySize := 8
  transcriptWords := 3
  replyScope := none
  callerFinished := false
  demo := false
  cutReply := none
  prefetchedSlots := fun _ => some ["19:30", "20:00"]
  reconcileSpelledName := fun _ _ proposed => proposed
  spellsNoName := nofun
  first := .answered output none
  availability := .failed
  manager := .returned true
  isLive := true
  second := .failed

def recapTurn : StructuredTurn :=
  plainTurn
    { turnComplete := true
      understanding := some .clear
      interpretation := .answer
      draft := martinDraft
      awaiting := .confirmation
      action := .none
      message := ""
      confidence := .high
      say := "Samedi à vingt heures, deux personnes, au nom de Martin : je réserve ?" }

def yesTurn : StructuredTurn :=
  plainTurn
    { turnComplete := true
      understanding := some .clear
      interpretation := .affirmation
      draft := martinDraft
      awaiting := .none
      action := .create_reservation
      message := ""
      confidence := .high
      say := "C'est noté." }

def failedTurn : StructuredTurn :=
  { yesTurn with first := .failed }

theorem authorizes_readsBack_recap : letI := FrenchText.ascii
    ReadsBack (SpokenCall.opening.take recapTurn).said martinDraft := by
  let _ : FrenchText := FrenchText.ascii
  exact authorizes_readsBack (.turn .opening recapTurn (by decide)) yesTurn (by decide +kernel)

/-- The fallback of a turn that failed waits for an answer of its own, yet the yes to it books. -/
theorem fallback_booked : letI := FrenchText.ascii
    let call := (SpokenCall.opening.take recapTurn).take failedTurn
    call.said.getLast? = some .fallback ∧ call.authorizes yesTurn = some martinDraft ∧
      ¬ ReadsBack call.said martinDraft := by
  let _ : FrenchText := FrenchText.ascii
  have last : ((SpokenCall.opening.take recapTurn).take failedTurn).said.getLast? =
      some .fallback := by decide +kernel
  refine ⟨last, by decide +kernel, ?_⟩
  rintro (⟨isRecap, -⟩ | ⟨isResumption, -, -, -⟩)
  · rw [last] at isRecap
    cases isRecap
  · rw [last] at isResumption
    cases isResumption

end Sokar
