import Sokar.Voice.FactGuards

/-!
# The turns of a call

In a turn the language model is asked once, or twice when an action has a result that is to be told.
What the replies read back is noted at the end of a turn.  A turn that fails, is superseded or
transfers the call speaks without coming there, and the note of an earlier reply stays.
-/

namespace Sokar

/-! ## What happens in a turn -/

/-- What keeps a reply from being spoken: a fact at hand, or a slot that has to be looked up. -/
inductive PassConflict where
  | fact | slot
  deriving DecidableEq

/-- What comes of asking the model: a later turn or the caller came in between, before or after the
first phrase; it failed; or it answered. -/
inductive ModelPass where
  | superseded (spoke : Bool)
  | failed
  | answered (output : StructuredTurnOutput) (conflict : Option PassConflict)
  deriving DecidableEq

inductive SlotsAnswer where
  | failed
  | read (slots : List String) (isClosed noTable : Bool)
  deriving DecidableEq

/-- What a call of the manager comes to: an exception, or a result, with a new reservation or
without. -/
inductive ManagerCall where
  | threw
  | returned (created : Bool)
  deriving DecidableEq

structure StructuredTurn where
  today : String
  maxPartySize : ℚ
  transcriptWords : Nat
  replyScope : Option ReplyScope
  callerFinished : Bool
  demo : Bool
  /-- The reply that the caller cut, and whether its content was not fully heard. -/
  cutReply : Option Bool
  /-- The free slots that were read ahead. -/
  prefetchedSlots : StructuredTurnDraft → Option (List String)
  /-- The name that the letters of the transcript leave, given what the last reply waited for, the
  name before and the name proposed. -/
  reconcileSpelledName : TurnAwaiting → String → String → String
  spellsNoName : replyScope.isSome = true → ∀ awaiting previous proposed,
    reconcileSpelledName awaiting previous proposed = proposed
  first : ModelPass
  availability : SlotsAnswer
  manager : ManagerCall
  /-- The turn is not superseded while it waits for the action. -/
  isLive : Bool
  second : ModelPass

/-- A reply, with what it waits for and the draft it was given with; the beginning of one; or a
sentence that is not the model's. -/
inductive SpokenReply where
  | reply (awaiting : TurnAwaiting) (draft : StructuredTurnDraft)
  | cut
  | fallback
  | handoff
  | goodbye
  deriving DecidableEq

def SpokenReply.isNoted : SpokenReply → Bool
  | .reply _ _ => true
  | _ => false

structure TurnEnd where
  state : StructuredTurnState
  spoken : List SpokenReply
  /-- The draft that `create_reservation` was authorised for. -/
  authorized : Option StructuredTurnDraft := none
  ended : Bool := false

inductive ActionOutcome where
  | finished (turnEnd : TurnEnd)
  | fixedReply (state : StructuredTurnState) (awaiting : TurnAwaiting)
  | result (state : StructuredTurnState) (hasFallback noHangUp : Bool)
  | nothing (state : StructuredTurnState)

def StructuredTurnOutput.isSilent (output : StructuredTurnOutput) : Bool :=
  trim output.say == ""

namespace StructuredTurn

section

variable [FrenchText] (turn : StructuredTurn) (state : StructuredTurnState)
  (output : StructuredTurnOutput)

def recapHeard : Bool :=
  turn.cutReply != some true

def withDraft : StructuredTurnState :=
  let proposed := if turn.replyScope.isSome then { output with draft := state.draft } else output
  let applied := applyProposedDraft turn.today state.draft proposed
  { state with
    draft := { applied.draft with
      customerName := turn.reconcileSpelledName state.lastAwaiting state.draft.customerName
        applied.draft.customerName } }

def withPrefetched : StructuredTurnState :=
  match turn.prefetchedSlots state.draft with
  | some slots =>
    { state with availability := some ⟨state.draft.date, state.draft.partySize, slots⟩ }
  | none => state

def bookingId : Option String :=
  if isBookingComplete state.draft then some (bookingKey state.draft) else none

def recapCut : Bool :=
  turn.cutReply == some true && (bookingId state).isSome &&
    state.recapCutBlockedKey != bookingId state

def decision : ActionDecision :=
  authorizeStructuredAction state output state.draft
    { maxPartySize := turn.maxPartySize
      recapHeard := some !turn.recapCut state
      transcriptWords := some turn.transcriptWords
      replyScope := turn.replyScope }

/-- Whether the reply keeps to the scope of what the caller answered. -/
def keepsScope : Bool :=
  turn.replyScope.isNone || (authorizeStructuredAction state output state.draft
    { maxPartySize := turn.maxPartySize, replyScope := turn.replyScope }).isNone

/-- The reply of the first pass is spoken while it comes in. -/
def speaksFirst (conflict : Option PassConflict) : Bool :=
  output.action == .none && conflict.isNone && turn.keepsScope state output && !output.isSilent

def silentEnd : TurnEnd where
  state := state
  spoken := []

def fallbackEnd : TurnEnd where
  state := state
  spoken := [.fallback]

def cutEnd (spoke : Bool) : TurnEnd where
  state := state
  spoken := if spoke then [.cut] else []

def goodbyeEnd : TurnEnd where
  state := state
  spoken := [.goodbye]
  ended := true

def notedEnd (isSpoken : Bool) : TurnEnd where
  state := updateConfirmationState state output turn.recapHeard
  spoken := if isSpoken then [.reply output.awaiting state.draft] else []

def runAvailability : ActionOutcome :=
  match turn.availability with
  | .failed => .result state true false
  | .read slots isClosed noTable =>
    let state := { state with
      availability := some ⟨state.draft.date, state.draft.partySize, slots⟩ }
    if slots ≠ [] then .result state false false
    else if isClosed then .fixedReply state .date
    else if noTable then .result state false false
    else .fixedReply state .open_

/-- What is left to do when the manager has been called. -/
def afterManager (returned : Bool → ActionOutcome) : ActionOutcome :=
  match turn.manager with
  | .threw => .finished (if turn.isLive then fallbackEnd state else silentEnd state)
  | .returned created => returned created

def takeAction : ActionOutcome :=
  match output.action with
  | .end_call =>
    if output.isSilent then .result state false false else .finished (goodbyeEnd state)
  | .check_availability => turn.runAvailability state
  | .create_reservation => turn.afterManager state fun created =>
    .result { state with reservationCreated := state.reservationCreated || created } false false
  | .take_message =>
    if trim output.message = "" then .result state false false
    else turn.afterManager state fun _ => .result state false false
  | .transfer => turn.afterManager state fun _ =>
    if !turn.isLive then .finished (silentEnd state)
    else if turn.demo then .result state false false
    else .finished { state := state, spoken := [.handoff] }
  | .none => .nothing state

def act (conflict : Option PassConflict) : ActionOutcome :=
  match turn.decision state output with
  | some .slot_not_verified => turn.runAvailability state
  | some .recap_not_heard =>
    .result { state with recapCutBlockedKey := bookingId state } false false
  | some .reply_scope_required => .result state false true
  | some _ => .result state false (output.action == .end_call)
  | none =>
    match conflict with
    | some .fact => .result state false false
    | some .slot => turn.runAvailability state
    | none => turn.takeAction state output

/-- A turn has to say something: an invitation to go on when the caller had been silent. -/
def sayNothing : TurnEnd :=
  if turn.callerFinished && output.action == .none then
    turn.notedEnd state { output with awaiting := .open_ } true
  else fallbackEnd state

def runSecond (hasFallback noHangUp : Bool) : TurnEnd :=
  match turn.second with
  | .superseded spoke => cutEnd state spoke
  | .failed => fallbackEnd state
  | .answered output _ =>
    if !turn.keepsScope state output then fallbackEnd state
    else
      let state := turn.withDraft state output
      if !noHangUp && output.action == .end_call && output.confidence != .low then
        if output.isSilent then fallbackEnd state else goodbyeEnd state
      else if !output.isSilent then turn.notedEnd state output true
      else if hasFallback then turn.notedEnd state { output with awaiting := .open_ } true
      else turn.sayNothing state output

def finish (isSpoken : Bool) : ActionOutcome → TurnEnd
  | .finished turnEnd => turnEnd
  | .fixedReply state awaiting =>
    -- superseded or not, the reply is noted
    turn.notedEnd state { output with action := .none, awaiting } turn.isLive
  | .result state hasFallback noHangUp =>
    if turn.isLive then turn.runSecond state hasFallback noHangUp else silentEnd state
  | .nothing state =>
    if output.isSilent then turn.sayNothing state output
    else turn.notedEnd state output isSpoken

def runStructuredTurn : TurnEnd :=
  match turn.first with
  | .superseded spoke => cutEnd state spoke
  | .failed => fallbackEnd state
  | .answered output conflict =>
    if !output.turnComplete && !turn.callerFinished then silentEnd state
    else
      let isSpoken := turn.speaksFirst state output conflict
      let state := turn.withPrefetched (turn.withDraft state output)
      let authorized :=
        if turn.decision state output = none ∧ conflict = none ∧
          output.action = .create_reservation then some state.draft else none
      { turn.finish output isSpoken (turn.act state output conflict) with authorized }

end

end StructuredTurn

structure SpokenCall where
  state : StructuredTurnState
  said : List SpokenReply
  ended : Bool

namespace SpokenCall

def opening : SpokenCall := ⟨createStructuredTurnState, [], false⟩

/-- No turn comes after the goodbye. -/
def take [FrenchText] (call : SpokenCall) (turn : StructuredTurn) : SpokenCall :=
  if call.ended then call
  else
    let turnEnd := turn.runStructuredTurn call.state
    ⟨turnEnd.state, call.said ++ turnEnd.spoken, turnEnd.ended⟩

end SpokenCall

end Sokar
