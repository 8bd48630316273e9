import Mathlib.Data.List.Flatten
import Sokar.Voice.InkTranscripts

/-!
# Aligned transcripts

What a final of Deepgram is given comes from cycles that were opened for voice sent since the final
before it, no fragment is given twice, and at most one cycle is open.  One case is left out: a lone
word taken up while a cycle is open and the caller has spoken since it was opened.  The reply
of the open cycle is then ignored, but the voice is not, and its text comes with the next phrase.
-/

namespace Sokar

namespace InkCall

/-- The cycle was opened, and for voice sent, after so many finals. -/
def OpenedSince (cycles : List InkCycle) (phrase cycle : Nat) : Prop :=
  ∃ opened, cycles[cycle]? = some opened ∧ phrase ≤ opened.opened ∧
    ∀ voice ∈ opened.voices, phrase ≤ voice

/-- The text of the second transcriber is that of the fragments. -/
structure FromFragments (answer : InkAnswer) : Prop where
  transcript : answer.result.source = .ink →
    answer.result.transcript = trim (spokenText answer.fragments)
  inkTranscript : ∀ text, answer.result.inkTranscript = some text →
    text = trim (spokenText answer.fragments)

structure Aligned (call : InkCall) : Prop where
  oneOpen : call.history.cycles.length ≤ call.history.flushed + 1
  texts : ∀ answer ∈ call.answers, FromFragments answer
  since : ∀ answer ∈ call.answers, ∀ fragment ∈ answer.fragments,
    OpenedSince call.history.cycles (answer.final.phrase - 1) fragment.cycle
  once : ((call.answers.flatMap (·.fragments)).map (·.number)).Nodup

/-- A lone word is taken up while voice waits for the end of the open cycle. -/
def leavesSpeech [SpokenWords] (call : InkCall) : Int × Event → Bool
  | (_, .nextFinal _) =>
    match call.sttInkDispatchChain, call.sttInk with
    | final :: _, some state =>
      state.ready && !state.closed && !state.discardingReply && state.pendingFinalize &&
        state.speechSinceFinalize &&
        decide (comparableWordCount final.transcript < INK_MIN_DEEPGRAM_WORDS)
    | _, _ => false
  | _ => false

section

variable {cycles : List InkCycle} {phrase earlier cycle : Nat}

theorem OpenedSince.extend (since : OpenedSince cycles phrase cycle) (later : List InkCycle) :
    OpenedSince (cycles ++ later) phrase cycle := by
  obtain ⟨opened, isOpened, fits⟩ := since
  have bound := (List.getElem?_eq_some_iff.1 isOpened).1
  exact ⟨opened, (List.getElem?_append_left bound).trans isOpened, fits⟩

theorem OpenedSince.last {opened : InkCycle} (opening : phrase ≤ opened.opened)
    (voices : ∀ voice ∈ opened.voices, phrase ≤ voice) :
    OpenedSince (cycles ++ [opened]) phrase cycles.length :=
  ⟨opened, List.getElem?_concat_length, opening, voices⟩

end

def stored : Option InkParallelState → List InkFragment
  | none => []
  | some state => state.finals.flatten ++ state.fragments

structure Sound (cycles : List InkCycle) (flushed heard : Nat) (answers : List InkAnswer)
    (held : List InkFragment) : Prop where
  flushed_le : flushed ≤ cycles.length
  oneOpen : cycles.length ≤ flushed + 1
  texts : ∀ answer ∈ answers, FromFragments answer
  since : ∀ answer ∈ answers, ∀ fragment ∈ answer.fragments,
    OpenedSince cycles (answer.final.phrase - 1) fragment.cycle
  increasing : ((answers.flatMap (·.fragments) ++ held).map (·.number)).Pairwise (· < ·)
  below : ∀ fragment ∈ answers.flatMap (·.fragments) ++ held, fragment.number < heard

namespace Sound

variable {cycles : List InkCycle} {flushed heard : Nat} {answers : List InkAnswer}
  {held kept : List InkFragment} {final : DeepgramFinal}

theorem drop (sound : Sound cycles flushed heard answers held) (sub : kept.Sublist held) :
    Sound cycles flushed heard answers kept where
  flushed_le := sound.flushed_le
  oneOpen := sound.oneOpen
  texts := sound.texts
  since := sound.since
  increasing := sound.increasing.sublist ((sub.append_left _).map _)
  below fragment isHeld := sound.below fragment ((sub.append_left _).subset isHeld)

theorem give {taken : List InkFragment} {result : InkTranscriptResult}
    (sound : Sound cycles flushed heard answers (taken ++ kept))
    (text : FromFragments { final, fragments := taken, result })
    (since : ∀ fragment ∈ taken, OpenedSince cycles (final.phrase - 1) fragment.cycle) :
    Sound cycles flushed heard (answers ++ [{ final, fragments := taken, result }]) kept := by
  have same : (answers ++ [InkAnswer.mk final taken result]).flatMap (·.fragments) ++ kept =
      answers.flatMap (·.fragments) ++ (taken ++ kept) := by
    simp
  constructor
  · exact sound.flushed_le
  · exact sound.oneOpen
  · intro answer isAnswer
    rcases List.mem_append.1 isAnswer with before | last
    · exact sound.texts answer before
    · exact List.mem_singleton.1 last ▸ text
  · intro answer isAnswer
    rcases List.mem_append.1 isAnswer with before | last
    · exact sound.since answer before
    · exact List.mem_singleton.1 last ▸ since
  · exact same ▸ sound.increasing
  · exact same ▸ sound.below

section

variable (sound : Sound cycles flushed heard answers held)
include sound

theorem giveNothing (waitedMs : Int) : Sound cycles flushed heard
      (answers ++ [{ final, fragments := [], result := deepgram final.transcript waitedMs }])
      held :=
  @give cycles flushed heard answers held final [] _ sound
    ⟨fun isInk => (nomatch isInk), fun _ isText => (nomatch isText)⟩
    (fun _ isNone => nomatch isNone)

theorem openCycle (noneOpen : flushed = cycles.length) (opened : InkCycle) :
    Sound (cycles ++ [opened]) flushed heard answers held  where
  flushed_le := by
    rw [List.length_append]
    omega
  oneOpen := by
    rw [List.length_append, List.length_singleton]
    omega
  texts := sound.texts
  since answer isAnswer fragment isFragment :=
    (sound.since answer isAnswer fragment isFragment).extend _
  increasing := sound.increasing
  below := sound.below

theorem closeCycle (isOpen : flushed < cycles.length) :
    Sound cycles (flushed + 1) heard answers held :=
  { sound with
    flushed_le := isOpen
    oneOpen := sound.oneOpen.trans (by omega) }

theorem hear : Sound cycles flushed (heard + 1) answers held :=
  { sound with below := fun fragment isHeld => (sound.below fragment isHeld).trans (by omega) }

theorem keep {fragment : InkFragment} (isNext : fragment.number = heard) :
    Sound cycles flushed (heard + 1) answers (held ++ [fragment]) := by
  refine { sound with increasing := ?_, below := ?_ }
  · rw [← List.append_assoc, List.map_append]
    refine List.pairwise_append.2 ⟨sound.increasing, by simp, fun number isNumber last isLast => ?_⟩
    obtain ⟨earlier, isEarlier, rfl⟩ := List.mem_map.1 isNumber
    rw [List.map_singleton, List.mem_singleton] at isLast
    rw [isLast, isNext]
    exact sound.below earlier isEarlier
  · intro other isHeld
    rw [← List.append_assoc] at isHeld
    rcases List.mem_append.1 isHeld with before | last
    · exact (sound.below other before).trans (by omega)
    · rw [List.mem_singleton.1 last, isNext]
      omega

end

end Sound

def takenUp (history : InkHistory) (chain : List DeepgramFinal) : Nat :=
  history.phrases - chain.length

/-- The voice of the open cycle was sent after so many finals. -/
def voiceBound (history : InkHistory) (chain : List DeepgramFinal) (state : InkParallelState) :
    Nat :=
  if state.waiter.isSome then takenUp history chain - 1 else takenUp history chain

/-- What holds while the socket is in use. -/
structure Live (history : InkHistory) (chain : List DeepgramFinal) (state : InkParallelState) :
    Prop where
  cycle : history.flushed + (if state.pendingFinalize then 1 else 0) = history.cycles.length
  silent : state.speechSinceFinalize = false → history.voices = []
  current : ∀ fragment ∈ state.fragments, fragment.cycle = history.flushed
  waits : ∀ wait, state.waiter = some wait →
    state.pendingFinalize = true ∧ state.discardingReply = false ∧
      wait.final.phrase = takenUp history chain
  finals : ∀ fragment ∈ state.finals.flatten,
    OpenedSince history.cycles (voiceBound history chain state) fragment.cycle
  pending : state.pendingFinalize = true → state.discardingReply = false →
    OpenedSince history.cycles (voiceBound history chain state) history.flushed
  voices : ∀ voice ∈ history.voices,
    (if state.finalizeAfterPending then voiceBound history chain state
      else takenUp history chain) ≤ voice
  again : state.finalizeAfterPending = true → state.waiter.isSome = true
  discards : state.discardingReply = true →
    state.pendingFinalize = true ∧ state.finals = [] ∧ state.fragments = []
  idle : state.ready = false →
    chain = [] ∧ state.finals = [] ∧ state.pendingFinalize = false ∧ history.voices = []
  queued : chain.map (·.phrase) = List.range' (takenUp history chain + 1) chain.length
  queue_le : chain.length ≤ history.phrases

structure Kept (call : InkCall) : Prop where
  sound : Sound call.history.cycles call.history.flushed call.heard call.answers
    (stored call.sttInk)
  live : ∀ state, call.sttInk = some state → state.closed = false →
    Live call.history call.sttInkDispatchChain state
  fresh : call.sttInkAttempted = false → call.sttInk = none ∧ call.sttInkDispatchChain = [] ∧
    call.history.cycles = [] ∧ call.history.flushed = 0 ∧ call.history.voices = []

theorem Kept.attempted {call : InkCall} {state : InkParallelState} (kept : Kept call)
    (isUsed : call.sttInk = some state) : call.sttInkAttempted = true := by
  by_contra isFresh
  cases isUsed.symm.trans (kept.fresh (Bool.not_eq_true _ ▸ isFresh)).1

section

variable {call : InkCall} {state : InkParallelState} {now : Int} {final : DeepgramFinal}

theorem Kept.of_closed
    (sound : Sound call.history.cycles call.history.flushed call.heard call.answers
      (stored call.sttInk))
    (closed : ∀ state, call.sttInk = some state → state.closed = true)
    (attempted : call.sttInkAttempted = true) : Kept call where
  sound := sound
  live state isUsed isOpen := by cases (closed state isUsed).symm.trans isOpen
  fresh isFresh := by cases attempted.symm.trans isFresh

theorem Kept.answerDeepgram (kept : Kept call) (waitedMs : Int) :
    Kept (call.answer final [] (deepgram final.transcript waitedMs)) where
  sound := kept.sound.giveNothing waitedMs
  live := kept.live
  fresh := kept.fresh

variable {closeSocket : Bool}

theorem stopInk_closed {other : InkParallelState}
    (isUsed : (call.stopInk now closeSocket state).sttInk = some other) : other.closed = true := by
  revert isUsed
  unfold stopInk
  split
  next closed => exact fun isUsed => Option.some.inj isUsed ▸ closed
  · cases state.waiter <;> cases closeSocket <;> exact fun isUsed => Option.some.inj isUsed ▸ rfl

@[simp] theorem stopInk_attempted :
    (call.stopInk now closeSocket state).sttInkAttempted = call.sttInkAttempted := by
  unfold stopInk
  split
  · rfl
  · cases state.waiter <;> cases closeSocket <;> rfl

theorem kept_stopInk (sound : Sound call.history.cycles call.history.flushed call.heard call.answers
      (stored (some state))) (attempted : call.sttInkAttempted = true) :
    Kept (call.stopInk now closeSocket state) := by
  have empty : Sound call.history.cycles call.history.flushed call.heard call.answers [] :=
    sound.drop (List.nil_sublist _)
  unfold stopInk
  split
  next closed =>
    refine .of_closed sound (fun other isUsed => ?_) attempted
    cases isUsed
    exact closed
  · cases state.waiter with
    | none =>
      cases closeSocket <;> exact .of_closed empty (fun _ isUsed => by cases isUsed; rfl) attempted
    | some wait =>
      cases closeSocket <;>
        exact .of_closed (empty.giveNothing _) (fun _ isUsed => by cases isUsed; rfl) attempted

/-- What is taken replaces Deepgram's text as a whole. -/
theorem fromFragments_taken {env : InkEnvironment} {taken : List InkFragment} {waitedMs : Int} :
    FromFragments
      { final
        fragments := taken
        result :=
          if trim (spokenText taken) = "" then deepgram final.transcript waitedMs
          else call.select env final.transcript (trim (spokenText taken)) waitedMs } := by
  by_cases blank : trim (spokenText taken) = ""
  · rw [if_pos blank]
    exact ⟨fun isInk => (nomatch isInk), fun _ isText => (nomatch isText)⟩
  · rw [if_neg blank]
    constructor
    · cases replaced : call.replaces env with
      | true => exact fun _ => by simp [select, replaced]
      | false => exact fun isInk => by simp [select, replaced] at isInk
    · exact fun text isText => (Option.some.inj isText).symm

theorem kept_takeFinals {env : InkEnvironment} {waitedMs : Int}
    (sound : Sound call.history.cycles call.history.flushed call.heard call.answers
      (stored (some state)))
    (attempted : call.sttInkAttempted = true)
    (since : ∀ fragment ∈ state.finals.flatten,
      OpenedSince call.history.cycles (final.phrase - 1) fragment.cycle)
    (live : state.closed = false → Live call.history call.sttInkDispatchChain
      { state with finals := [], waiter := none }) :
    Kept (call.takeFinals env state final waitedMs) where
  sound := by
    exact sound.give fromFragments_taken since
  live other isUsed isOpen := by
    cases isUsed
    exact live isOpen
  fresh isFresh := by cases attempted.symm.trans isFresh

structure Opening (history : InkHistory) (chain : List DeepgramFinal) (state : InkParallelState) :
    Prop where
  noneOpen : history.flushed = history.cycles.length
  current : ∀ fragment ∈ state.fragments, fragment.cycle = history.flushed
  waits : ∀ wait, state.waiter = some wait → wait.final.phrase = takenUp history chain
  finals : ∀ fragment ∈ state.finals.flatten,
    OpenedSince history.cycles (voiceBound history chain state) fragment.cycle
  voices : ∀ voice ∈ history.voices, voiceBound history chain state ≤ voice
  once : state.finalizeAfterPending = false
  listens : state.discardingReply = false
  ready : state.ready = true
  queued : chain.map (·.phrase) = List.range' (takenUp history chain + 1) chain.length
  queue_le : chain.length ≤ history.phrases

variable {history : InkHistory} {chain : List DeepgramFinal}

theorem voiceBound_le : voiceBound history chain state ≤ takenUp history chain := by
  unfold voiceBound
  split <;> omega

theorem takenUp_le : takenUp history chain ≤ history.phrases :=
  Nat.sub_le _ _

theorem Live.opening (live : Live history chain state) (isReady : state.ready = true)
    (noneOpen : state.pendingFinalize = false) : Opening history chain state := by
  have noWait : state.waiter = none := by
    cases isWait : state.waiter with
    | none => rfl
    | some wait => cases (live.waits wait isWait).1.symm.trans noneOpen
  have once : state.finalizeAfterPending = false := by
    by_contra again
    have isWait := live.again (Bool.not_eq_false _ ▸ again)
    rw [noWait] at isWait
    cases isWait
  have listens : state.discardingReply = false := by
    by_contra discards
    cases (live.discards (Bool.not_eq_false _ ▸ discards)).1.symm.trans noneOpen
  constructor
  · have cycle := live.cycle
    rw [noneOpen] at cycle
    exact cycle
  · exact live.current
  · intro wait isWait
    cases noWait.symm.trans isWait
  · exact live.finals
  · intro voice isVoice
    have bound := live.voices voice isVoice
    rw [once] at bound
    exact voiceBound_le.trans bound
  · exact once
  · exact listens
  · exact isReady
  · exact live.queued
  · exact live.queue_le

theorem kept_sendFinalize {taken : Bool}
    (sound : Sound call.history.cycles call.history.flushed call.heard call.answers
      (stored (some state)))
    (attempted : call.sttInkAttempted = true)
    (live : state.closed = false → state.pendingFinalize = true →
      Live call.history call.sttInkDispatchChain state)
    (opening : state.closed = false → state.pendingFinalize = false →
      Opening call.history call.sttInkDispatchChain state)
    (isOpen : state.closed = false) :
    Kept (call.sendFinalize now taken state) := by
  have notFresh : ¬call.sttInkAttempted = false := by simp [attempted]
  unfold sendFinalize
  split
  next isPending =>
    refine ⟨sound, fun other isUsed _ => ?_, fun isFresh => (notFresh isFresh).elim⟩
    cases isUsed
    exact live isOpen isPending
  next notPending =>
    have starts := opening isOpen (Bool.not_eq_true _ ▸ notPending)
    split
    · refine ⟨sound.openCycle starts.noneOpen _, fun other isUsed _ => ?_,
        fun isFresh => (notFresh isFresh).elim⟩
      cases isUsed
      have bound : voiceBound call.history call.sttInkDispatchChain state ≤ call.history.phrases :=
        voiceBound_le.trans takenUp_le
      constructor
      · simp [openCycle, starts.noneOpen]
      · exact fun _ => rfl
      · exact starts.current
      · exact fun wait isWait => ⟨rfl, starts.listens, starts.waits wait isWait⟩
      · exact fun fragment isFragment => (starts.finals fragment isFragment).extend _
      · intro _ _
        have last := @OpenedSince.last call.history.cycles _
          { voices := call.history.voices, opened := call.history.phrases } bound starts.voices
        rw [← starts.noneOpen] at last
        exact last
      · exact fun _ isNone => nomatch isNone
      · intro again
        cases starts.once.symm.trans again
      · intro discards
        cases starts.listens.symm.trans discards
      · intro idle
        cases starts.ready.symm.trans idle
      · exact starts.queued
      · exact starts.queue_le
    · exact kept_stopInk sound attempted

theorem kept_openInkParallel {env : InkEnvironment} (kept : Kept call) :
    Kept (call.openInkParallel env) := by
  unfold openInkParallel
  split
  · exact kept
  next unused =>
    rw [Bool.or_eq_true, not_or] at unused
    obtain ⟨noSocket, noCycle, noChain, noFlush, noVoice⟩ :=
      kept.fresh (Bool.not_eq_true _ ▸ unused.2)
    have sound := kept.sound
    rw [noSocket] at sound
    have attempted : Kept { call with sttInkAttempted := true } :=
      .of_closed (noSocket ▸ sound) (fun _ isUsed => by cases noSocket.symm.trans isUsed) rfl
    split
    · exact attempted
    split
    · exact attempted
    refine ⟨sound, fun other isUsed _ => ?_, fun isFresh => nomatch isFresh⟩
    cases isUsed
    constructor <;> simp_all [put, takenUp]

theorem kept_opened (kept : Kept call) :
    Kept { call with sttInk := call.sttInk.map fun state => { state with ready := true } } := by
  cases isUsed : call.sttInk with
  | none =>
    have sound := kept.sound
    rw [isUsed] at sound
    exact ⟨sound, fun _ isUsed => (nomatch isUsed), fun isFresh => ⟨rfl, (kept.fresh isFresh).2⟩⟩
  | some state =>
    have sound := kept.sound
    rw [isUsed] at sound
    refine ⟨sound, fun other isOther isOpen => ?_, fun isFresh => ?_⟩
    · cases isOther
      have live := kept.live state isUsed isOpen
      exact { live with idle := fun idle => nomatch idle }
    · cases (kept.attempted isUsed).symm.trans isFresh

theorem kept_onTranscript (kept : Kept call) (text : String) : Kept (call.onTranscript text) := by
  obtain ⟨sound, live, fresh⟩ := kept
  have heard := sound.hear
  unfold onTranscript
  cases isUsed : call.sttInk with
  | none =>
    rw [isUsed] at heard live fresh
    exact ⟨heard, live, fresh⟩
  | some state =>
    rw [isUsed] at sound heard live fresh
    dsimp only
    split
    · exact ⟨heard, live, fresh⟩
    next listens =>
      rw [Bool.or_eq_true, not_or] at listens
      refine ⟨?_, fun other isOther isOpen => ?_, fun isFresh => nomatch (fresh isFresh).1⟩
      · have kept := @Sound.keep _ _ _ _ _ sound
          { text, number := call.heard, cycle := call.history.flushed } rfl
        rw [stored, List.append_assoc] at kept
        exact kept
      · cases isOther
        have live := live state rfl isOpen
        refine { live with current := ?_, discards := fun discards => ?_ }
        · intro fragment isFragment
          rcases List.mem_append.1 isFragment with before | last
          · exact live.current fragment before
          · cases List.mem_singleton.1 last
            rfl
        · exact absurd discards listens.2

/-- What the closed cycles said comes from voice sent late enough. -/
theorem Live.flushed_since (live : Live history chain state)
    (isPending : state.pendingFinalize = true) (listens : state.discardingReply = false) :
    ∀ fragment ∈ (state.finals ++ [state.fragments]).flatten,
      OpenedSince history.cycles (voiceBound history chain state) fragment.cycle := by
  intro fragment isFragment
  rw [List.flatten_append, List.flatten_singleton] at isFragment
  rcases List.mem_append.1 isFragment with before | last
  · exact live.finals fragment before
  · rw [live.current fragment last]
    exact live.pending isPending listens

/-- The state after a `flush_done` that no second cycle follows. -/
theorem Live.flush (live : Live history chain state) (isPending : state.pendingFinalize = true)
    (once : state.finalizeAfterPending = false) {finals : List (List InkFragment)}
    (since : ∀ fragment ∈ finals.flatten,
      OpenedSince history.cycles (takenUp history chain) fragment.cycle) {discards : Bool}
    (listens : discards = false) :
    Live { history with flushed := history.flushed + 1 } chain
      { state with
        pendingFinalize := false
        discardingReply := discards
        fragments := []
        finals
        waiter := none } where
  cycle := by
    have cycle := live.cycle
    rw [isPending] at cycle
    exact cycle
  silent := live.silent
  current _ isNone := nomatch isNone
  waits _ isNone := nomatch isNone
  finals := since
  pending isPending := nomatch isPending
  voices voice isVoice := by
    have bound := live.voices voice isVoice
    rw [once] at bound
    exact (if_neg (Bool.false_ne_true ∘ once.symm.trans)).trans_le bound
  again again := by cases once.symm.trans again
  discards isDiscard := by cases listens.symm.trans isDiscard
  idle idle := by cases isPending.symm.trans (live.idle idle).2.2.1
  queued := live.queued
  queue_le := live.queue_le

theorem kept_onFlushDone {env : InkEnvironment} {taken : Bool} (kept : Kept call)
    (isOpen : call.history.flushed < call.history.cycles.length) :
    Kept (call.onFlushDone env now taken) := by
  obtain ⟨sound, live, fresh⟩ := kept
  have closed := sound.closeCycle isOpen
  have attempted : call.sttInkAttempted = true := by
    by_contra isFresh
    obtain ⟨-, -, noCycle, -⟩ := fresh (Bool.not_eq_true _ ▸ isFresh)
    rw [noCycle] at isOpen
    exact Nat.not_lt_zero _ isOpen
  unfold onFlushDone
  cases isUsed : call.sttInk with
  | none =>
    rw [isUsed] at closed
    exact .of_closed closed (fun _ isUsed => nomatch isUsed) attempted
  | some state =>
    rw [isUsed] at closed live
    dsimp only
    split
    next idle =>
      refine .of_closed closed (fun other isOther => ?_) attempted
      cases isOther
      by_contra notClosed
      have notClosed := Bool.not_eq_true _ ▸ notClosed
      have cycle := (live state rfl notClosed).cycle
      simp only [notClosed, Bool.false_or, Bool.not_eq_true'] at idle
      rw [idle] at cycle
      simp only [Bool.false_eq_true, if_false] at cycle
      omega
    next inUse =>
      simp only [Bool.or_eq_true, Bool.not_eq_true', not_or, Bool.not_eq_true,
        Bool.not_eq_false] at inUse
      obtain ⟨notClosed, isPending⟩ := inUse
      have live := live state rfl notClosed
      have held : stored (some state) = (state.finals ++ [state.fragments]).flatten ++ [] := by
        simp [stored]
      rw [held] at closed
      split
      next discards =>
        have noWait : state.waiter = none := by
          cases isWait : state.waiter with
          | none => rfl
          | some wait => cases (live.waits wait isWait).2.1.symm.trans discards
        have once : state.finalizeAfterPending = false := by
          by_contra again
          have isWait := live.again (Bool.not_eq_false _ ▸ again)
          rw [noWait] at isWait
          cases isWait
        obtain ⟨-, noFinal, -⟩ := live.discards discards
        refine ⟨closed.drop ?_, fun other isOther _ => ?_, fun isFresh => ?_⟩
        · simp [stored, put, noFinal]
        · cases isOther
          have flushed := @Live.flush _ _ _ live isPending once []
            (fun _ isNone => nomatch isNone) false rfl
          rw [← noWait, ← noFinal] at flushed
          exact flushed
        · cases attempted.symm.trans isFresh
      next listens =>
        have listens := Bool.not_eq_true _ ▸ listens
        have since := live.flushed_since isPending listens
        split
        next again =>
          refine kept_sendFinalize closed attempted (fun _ isPending => nomatch isPending)
            (fun _ _ => ?_) notClosed
          constructor
          · have cycle := live.cycle
            rw [isPending] at cycle
            exact cycle
          · exact fun _ isNone => nomatch isNone
          · exact fun wait isWait => (live.waits wait isWait).2.2
          · exact since
          · intro voice isVoice
            have bound := live.voices voice isVoice
            rw [if_pos again] at bound
            exact bound
          · rfl
          · exact listens
          · by_contra idle
            cases isPending.symm.trans (live.idle (Bool.not_eq_true _ ▸ idle)).2.2.1
          · exact live.queued
          · exact live.queue_le
        next once =>
          have once := Bool.not_eq_true _ ▸ once
          cases isWait : state.waiter with
          | some wait =>
            have bound : voiceBound call.history call.sttInkDispatchChain state =
                wait.final.phrase - 1 := by
              rw [voiceBound, isWait, (live.waits wait isWait).2.2]
              rfl
            rw [bound] at since
            exact kept_takeFinals closed attempted since fun _ =>
              @Live.flush _ _ _ live isPending once [] (fun _ isNone => nomatch isNone) _ listens
          | none =>
            have bound : voiceBound call.history call.sttInkDispatchChain state =
                takenUp call.history call.sttInkDispatchChain := by
              rw [voiceBound, isWait]
              rfl
            rw [bound] at since
            refine ⟨closed, fun other isOther _ => ?_, fun isFresh => ?_⟩
            · cases isOther
              exact live.flush isPending once since listens
            · cases attempted.symm.trans isFresh

theorem kept_afterAudio {taken : Bool}
    (sound : Sound call.history.cycles call.history.flushed call.heard call.answers
      (stored (some state)))
    (attempted : call.sttInkAttempted = true) (notClosed : state.closed = false)
    (isReady : state.ready = true)
    (live : Live call.history call.sttInkDispatchChain state) :
    Kept (call.afterAudio now taken state) := by
  unfold afterAudio
  split
  · refine ⟨sound, fun other isOther _ => ?_, fun isFresh => ?_⟩
    · cases isOther
      refine { live with silent := fun silent => (nomatch silent), voices := ?_, idle := ?_ }
      · intro voice isVoice
        rcases List.mem_append.1 isVoice with before | last
        · exact live.voices voice before
        · cases List.mem_singleton.1 last
          split
          · exact voiceBound_le.trans takenUp_le
          · exact takenUp_le
      · intro idle
        cases isReady.symm.trans idle
    · cases attempted.symm.trans isFresh
  split
  next noneOpen =>
    simp only [Bool.and_eq_true, Bool.not_eq_true'] at noneOpen
    exact kept_sendFinalize sound attempted
      (fun _ isPending => by cases noneOpen.2.symm.trans isPending)
      (fun _ _ => live.opening isReady noneOpen.2) notClosed
  · refine ⟨sound, fun other isOther _ => ?_, fun isFresh => ?_⟩
    · cases isOther
      exact live
    · cases attempted.symm.trans isFresh

theorem kept_sendInkAudio (kept : Kept call) (chunk : AudioChunk) :
    Kept (call.sendInkAudio now chunk) := by
  have attempted := @kept.attempted
  obtain ⟨sound, live, fresh⟩ := kept
  unfold sendInkAudio
  cases isUsed : call.sttInk with
  | none =>
    rw [isUsed] at sound live fresh
    exact ⟨sound, live, fresh⟩
  | some state =>
    have attempted := attempted state isUsed
    rw [isUsed] at sound live fresh
    dsimp only
    split
    · exact ⟨sound, live, fresh⟩
    next inUse =>
      simp only [Bool.or_eq_true, Bool.not_eq_true', not_or, Bool.not_eq_true,
        Bool.not_eq_false] at inUse
      obtain ⟨⟨isReady, notClosed⟩, -⟩ := inUse
      have live := live state rfl notClosed
      split
      · exact ⟨sound, fun other isOther _ => Option.some.inj isOther ▸ live, fresh⟩
      split
      · refine ⟨sound, fun other isOther _ => ?_, fun isFresh => ?_⟩
        · cases isOther
          exact { live with }
        · cases attempted.symm.trans isFresh
      split
      · exact kept_stopInk sound attempted
      · exact kept_afterAudio sound attempted notClosed isReady { live with }

theorem kept_dispatchDeepgramFinalParts (kept : Kept call) (transcript : String) :
    Kept (call.dispatchDeepgramFinalParts transcript) := by
  have attempted := @kept.attempted
  obtain ⟨sound, live, fresh⟩ := kept
  unfold dispatchDeepgramFinalParts
  dsimp only
  split
  next isReady =>
    obtain ⟨state, isUsed, -⟩ := (Option.any_eq_true _ _).1 isReady
    refine ⟨sound, fun other isOther isOpen => ?_, fun isFresh => ?_⟩
    · have live := live other isOther isOpen
      have same : takenUp { call.history with phrases := call.history.phrases + 1 }
          (call.sttInkDispatchChain ++ [{ phrase := call.history.phrases + 1, transcript }]) =
          takenUp call.history call.sttInkDispatchChain := by
        simp [takenUp]
      have bound : voiceBound { call.history with phrases := call.history.phrases + 1 }
          (call.sttInkDispatchChain ++ [{ phrase := call.history.phrases + 1, transcript }]) other =
          voiceBound call.history call.sttInkDispatchChain other := by
        simp [voiceBound, same]
      constructor
      · exact live.cycle
      · exact live.silent
      · exact live.current
      · exact fun wait isWait => same ▸ live.waits wait isWait
      · exact bound ▸ live.finals
      · exact bound ▸ live.pending
      · rw [bound, same]
        exact live.voices
      · exact live.again
      · exact live.discards
      · intro idle
        rw [isUsed] at isOther
        cases isOther
        rw [isUsed, Option.any_some, idle] at isReady
        cases isReady
      · have last : takenUp call.history call.sttInkDispatchChain + 1 +
            call.sttInkDispatchChain.length = call.history.phrases + 1 := by
          have fits := live.queue_le
          unfold takenUp
          omega
        rw [same, List.map_append, live.queued, List.length_append, List.length_singleton,
          List.range'_1_concat, last]
        rfl
      · rw [List.length_append, List.length_singleton]
        exact Nat.succ_le_succ live.queue_le
    · cases (attempted state isUsed).symm.trans isFresh
  next notReady =>
    refine ⟨sound.giveNothing 0, fun other isOther isOpen => ?_, fresh⟩
    have live := live other isOther isOpen
    have idle : other.ready = false := by
      by_contra ready
      refine notReady ((Option.any_eq_true _ _).2 ⟨other, isOther, ?_⟩)
      simpa using ready
    obtain ⟨noChain, noFinal, noCycle, noVoice⟩ := live.idle idle
    refine
      { live with
        waits := ?_
        finals := ?_
        pending := ?_
        voices := ?_
        queued := ?_
        queue_le := ?_ }
    · intro wait isWait
      cases (live.waits wait isWait).1.symm.trans noCycle
    · intro fragment isFragment
      rw [noFinal] at isFragment
      cases isFragment
    · intro isPending
      cases noCycle.symm.trans isPending
    · intro voice isVoice
      rw [answer, noVoice] at isVoice
      cases isVoice
    · rw [noChain]
      rfl
    · exact live.queue_le.trans (Nat.le_succ _)

/-- A final was just taken up, and the `finalize` it needs was sent. -/
structure Taking (history : InkHistory) (chain : List DeepgramFinal) (final : DeepgramFinal)
    (state : InkParallelState) : Prop where
  cycle : history.flushed + (if state.pendingFinalize then 1 else 0) = history.cycles.length
  silent : state.speechSinceFinalize = false → history.voices = []
  current : ∀ fragment ∈ state.fragments, fragment.cycle = history.flushed
  noWait : state.waiter = none
  phrase : final.phrase = takenUp history chain
  finals : ∀ fragment ∈ state.finals.flatten,
    OpenedSince history.cycles (final.phrase - 1) fragment.cycle
  pending : state.pendingFinalize = true →
    OpenedSince history.cycles (final.phrase - 1) history.flushed
  voices : ∀ voice ∈ history.voices, final.phrase - 1 ≤ voice
  speaks : state.pendingFinalize = false → state.speechSinceFinalize = false
  again : state.finalizeAfterPending = (state.pendingFinalize && state.speechSinceFinalize)
  listens : state.discardingReply = false
  ready : state.ready = true
  queued : chain.map (·.phrase) = List.range' (takenUp history chain + 1) chain.length
  queue_le : chain.length ≤ history.phrases

namespace Taking

variable {history : InkHistory} {chain : List DeepgramFinal}

theorem wait (taking : Taking history chain final state)
    (isPending : state.pendingFinalize = true) :
    Live history chain { state with waiter := some { final, startedAt := now } } where
  cycle := taking.cycle
  silent := taking.silent
  current := taking.current
  waits wait isWait := by
    cases isWait
    exact ⟨isPending, taking.listens, taking.phrase⟩
  finals := by
    have finals := taking.finals
    rw [taking.phrase] at finals
    exact finals
  pending isPending _ := by
    have pending := taking.pending isPending
    rw [taking.phrase] at pending
    exact pending
  voices voice isVoice := by
    have bound := taking.voices voice isVoice
    rw [taking.phrase] at bound
    split
    · exact bound
    next once =>
      rw [taking.again, isPending, Bool.true_and, Bool.not_eq_true] at once
      rw [taking.silent once] at isVoice
      cases isVoice
  again _ := rfl
  discards isDiscard := by cases taking.listens.symm.trans isDiscard
  idle idle := by cases taking.ready.symm.trans idle
  queued := taking.queued
  queue_le := taking.queue_le

theorem answered (taking : Taking history chain final state) {discards : Bool}
    {fragments : List InkFragment} (noVoice : history.voices = [])
    (isCurrent : ∀ fragment ∈ fragments, fragment.cycle = history.flushed)
    (listens : state.pendingFinalize = true → discards = true)
    (ignores : discards = true → state.pendingFinalize = true ∧ fragments = []) :
    Live history chain
      { state with
        finals := []
        fragments
        finalizeAfterPending := false
        waiter := none
        discardingReply := discards } where
  cycle := taking.cycle
  silent := taking.silent
  current := isCurrent
  waits _ isNone := nomatch isNone
  finals _ isNone := nomatch isNone
  pending isPending listening := by cases (listens isPending).symm.trans listening
  voices voice isVoice := by
    rw [noVoice] at isVoice
    cases isVoice
  again isNone := nomatch isNone
  discards isDiscard := ⟨(ignores isDiscard).1, rfl, (ignores isDiscard).2⟩
  idle idle := by cases taking.ready.symm.trans idle
  queued := taking.queued
  queue_le := taking.queue_le

end Taking

variable {rest : List DeepgramFinal}

theorem Live.next (live : Live history (final :: rest) state) :
    final.phrase = takenUp history rest ∧ takenUp history (final :: rest) = final.phrase - 1 ∧
      rest.map (·.phrase) = List.range' (takenUp history rest + 1) rest.length ∧
        rest.length ≤ history.phrases := by
  have queued := live.queued
  have fits := live.queue_le
  rw [List.length_cons] at fits queued
  rw [List.map_cons, List.range'_succ, List.cons.injEq] at queued
  have later : takenUp history (final :: rest) + 1 = takenUp history rest := by
    rw [takenUp, takenUp, List.length_cons]
    omega
  refine ⟨queued.1.trans later, ?_, later ▸ queued.2, by omega⟩
  rw [queued.1]
  rfl

/-- A final is taken up while no cycle has to be opened for it. -/
theorem Live.taking (live : Live history (final :: rest) state) (isReady : state.ready = true)
    (noWait : state.waiter = none) (listens : state.discardingReply = false)
    (speaks : state.pendingFinalize = false → state.speechSinceFinalize = false) :
    Taking history rest final
      { state with
        finalizeAfterPending := state.pendingFinalize && state.speechSinceFinalize } := by
  obtain ⟨phrase, before, queued, queue_le⟩ := live.next
  have bound : voiceBound history (final :: rest) state = final.phrase - 1 := by
    rw [voiceBound, noWait, before]
    rfl
  have once : state.finalizeAfterPending = false := by
    by_contra again
    have isWait := live.again (Bool.not_eq_false _ ▸ again)
    rw [noWait] at isWait
    cases isWait
  have voices := live.voices
  rw [once, before] at voices
  exact
    { cycle := live.cycle
      silent := live.silent
      current := live.current
      noWait
      phrase
      finals := bound ▸ live.finals
      pending := fun isPending => bound ▸ live.pending isPending listens
      voices
      speaks
      again := rfl
      listens
      ready := isReady
      queued
      queue_le }

theorem Opening.taking (opening : Opening history (final :: rest) state)
    (live : Live history (final :: rest) state) (noWait : state.waiter = none) :
    Taking
      { history with
        voices := []
        cycles := history.cycles ++ [{ voices := history.voices, opened := history.phrases }] }
      rest final
      { state with
        finalizeAfterPending := false
        pendingFinalize := true
        speechSinceFinalize := false } := by
  obtain ⟨phrase, before, queued, queue_le⟩ := live.next
  have bound : voiceBound history (final :: rest) state = final.phrase - 1 := by
    rw [voiceBound, noWait, before]
    rfl
  have early : final.phrase - 1 ≤ history.phrases := before ▸ takenUp_le
  constructor
  · simp [opening.noneOpen]
  · exact fun _ => rfl
  · exact opening.current
  · exact noWait
  · exact phrase
  · exact fun fragment isFragment => (bound ▸ opening.finals fragment isFragment).extend _
  · intro _
    have last := @OpenedSince.last history.cycles _
      { voices := history.voices, opened := history.phrases } early (bound ▸ opening.voices)
    rw [← opening.noneOpen] at last
    exact last
  · exact fun _ isNone => nomatch isNone
  · exact fun noneOpen => nomatch noneOpen
  · rfl
  · exact opening.listens
  · exact opening.ready
  · exact queued
  · exact queue_le

variable [SpokenWords] {env : InkEnvironment}

theorem kept_awaitTranscript (isUsed : call.sttInk = some state)
    (sound : Sound call.history.cycles call.history.flushed call.heard call.answers
      (stored (some state)))
    (attempted : call.sttInkAttempted = true)
    (taking : state.closed = false → Taking call.history call.sttInkDispatchChain final state)
    (quiet : state.closed = false → comparableWordCount final.transcript < INK_MIN_DEEPGRAM_WORDS →
        state.speechSinceFinalize = false) :
    Kept (call.awaitTranscript env now final) := by
  unfold awaitTranscript
  rw [isUsed]
  dsimp only
  split
  next closed =>
    refine .answerDeepgram (.of_closed (isUsed ▸ sound) (fun other isOther => ?_) attempted) 0
    cases isUsed.symm.trans isOther
    exact closed
  next notClosed =>
    have notClosed := Bool.not_eq_true _ ▸ notClosed
    have taking := taking notClosed
    split
    next isLone =>
      have noVoice := taking.silent (quiet notClosed isLone)
      have kept : Kept (call.put (discardPendingReply state)) := by
        refine ⟨sound.drop (List.nil_sublist _), fun other isOther _ => ?_, fun isFresh => ?_⟩
        · cases isOther
          exact taking.answered noVoice (fun _ isNone => nomatch isNone) id fun isDiscard =>
            ⟨isDiscard, rfl⟩
        · cases attempted.symm.trans isFresh
      exact kept.answerDeepgram 0
    split
    next noneOpen =>
      have noneOpen := Bool.not_eq_true' _ ▸ noneOpen
      have noVoice := taking.silent (taking.speaks noneOpen)
      refine kept_takeFinals sound attempted taking.finals fun _ => ?_
      have once := taking.again
      rw [noneOpen, Bool.false_and] at once
      have live := @Taking.answered _ _ _ _ taking _ _ noVoice taking.current
        (fun isPending => by cases noneOpen.symm.trans isPending)
        (fun isDiscard => by cases taking.listens.symm.trans isDiscard)
      rw [← once] at live
      exact live
    next isOpen =>
      have isPending : state.pendingFinalize = true := by simpa using isOpen
      refine ⟨sound, fun other isOther _ => ?_, fun isFresh => ?_⟩
      · cases isOther
        exact taking.wait isPending
      · cases attempted.symm.trans isFresh

theorem kept_awaitTranscript_of_closed (kept : Kept call)
    (closed : ∀ state, call.sttInk = some state → state.closed = true) :
    Kept (call.awaitTranscript env now final) := by
  unfold awaitTranscript
  cases isUsed : call.sttInk with
  | none => exact kept.answerDeepgram 0
  | some state =>
    dsimp only
    rw [if_pos (closed state isUsed)]
    exact kept.answerDeepgram 0

theorem kept_resolveInkTranscript {taken : Bool}
    (sound : Sound call.history.cycles call.history.flushed call.heard call.answers
      (stored call.sttInk))
    (attempted : call.sttInkAttempted = true)
    (live : ∀ state, call.sttInk = some state → state.closed = false →
      Live call.history (final :: call.sttInkDispatchChain) state)
    (free : call.waits = false)
    (quiet : ∀ state, call.sttInk = some state → state.ready = true → state.closed = false →
      state.discardingReply = false → state.pendingFinalize = true →
        comparableWordCount final.transcript < INK_MIN_DEEPGRAM_WORDS →
          state.speechSinceFinalize = false) :
    Kept (call.resolveInkTranscript env now taken final) := by
  unfold resolveInkTranscript
  cases isUsed : call.sttInk with
  | none =>
    exact .answerDeepgram (.of_closed sound (fun _ isOther => by cases isUsed.symm.trans isOther)
      attempted) 0
  | some state =>
    have live := live state isUsed
    have quiet := quiet state isUsed
    dsimp only
    split
    next idle =>
      refine .answerDeepgram (.of_closed sound (fun other isOther => ?_) attempted) 0
      cases isUsed.symm.trans isOther
      by_contra notClosed
      have notClosed := Bool.not_eq_true _ ▸ notClosed
      rw [notClosed, Bool.or_false, Bool.not_eq_true'] at idle
      cases ((live notClosed).idle idle).1
    next inUse =>
      simp only [Bool.or_eq_true, Bool.not_eq_true', not_or, Bool.not_eq_true,
        Bool.not_eq_false] at inUse
      obtain ⟨isReady, notClosed⟩ := inUse
      have live := live notClosed
      rw [isUsed] at sound
      split
      · exact (kept_stopInk sound attempted).answerDeepgram 0
      next listens =>
        have listens := Bool.not_eq_true _ ▸ listens
        have quiet := quiet isReady notClosed listens
        have noWait : state.waiter = none := by simpa [waits, isUsed] using free
        have put : (state.pendingFinalize = false → state.speechSinceFinalize = false) →
            Kept ((call.put { state with
              finalizeAfterPending := state.pendingFinalize && state.speechSinceFinalize
              }).awaitTranscript env now final) := by
          intro speaks
          refine kept_awaitTranscript rfl sound attempted
            (fun _ => live.taking isReady noWait listens speaks) fun _ isLone => ?_
          cases isPending : state.pendingFinalize with
          | true => exact quiet isPending isLone
          | false => exact speaks isPending
        split
        next opens =>
          unfold sendFinalize
          split
          next isPending => exact put fun noneOpen => by cases isPending.symm.trans noneOpen
          next noneOpen =>
            have noneOpen := Bool.not_eq_true _ ▸ noneOpen
            have opening := live.opening isReady noneOpen
            rw [noneOpen, Bool.false_and]
            split
            · exact kept_awaitTranscript rfl (sound.openCycle opening.noneOpen _) attempted
                (fun _ => opening.taking live noWait) fun _ _ => rfl
            · exact kept_awaitTranscript_of_closed (kept_stopInk sound attempted)
                fun _ => stopInk_closed
        next opens =>
          simp only [Bool.or_eq_true, not_or, Bool.not_eq_true] at opens
          exact put fun _ => opens.1

omit [SpokenWords] in
theorem kept_closeInkParallel {socketOpen : Bool} (kept : Kept call) :
    Kept (call.closeInkParallel now socketOpen) := by
  have attempted := @kept.attempted
  unfold closeInkParallel
  cases isUsed : call.sttInk with
  | none => exact kept
  | some state =>
    have sound := kept.sound
    rw [isUsed] at sound
    have stopped := (@kept_stopInk
      { call with
        outputs := call.outputs ++
          if socketOpen then [InkOutput.close, .disconnect] else [InkOutput.disconnect] }
      state now false sound (attempted state isUsed)).sound
    exact .of_closed (stopped.drop (List.nil_sublist _)) (fun _ isOther => nomatch isOther)
      (stopInk_attempted.trans (attempted state isUsed))

theorem kept_step {call' : InkCall} {event : Int × Event} (kept : Kept call)
    (fair : call.leavesSpeech event = false) (happens : call.step env event = some call') :
    Kept call' := by
  obtain ⟨now, event⟩ := event
  cases event with
  | connect =>
    cases happens
    exact kept_openInkParallel kept
  | opened =>
    cases happens
    exact kept_opened kept
  | transcript text =>
    cases happens
    exact kept_onTranscript kept text
  | flushDone taken =>
    rw [step] at happens
    split at happens
    next isOpen =>
      cases happens
      exact kept_onFlushDone kept isOpen
    · cases happens
  | providerError =>
    obtain ⟨state, isUsed, rfl⟩ := Option.map_eq_some_iff.1 happens
    exact kept_stopInk (isUsed ▸ kept.sound) (kept.attempted isUsed)
  | socketClosed =>
    obtain ⟨state, isUsed, rfl⟩ := Option.map_eq_some_iff.1 happens
    exact kept_stopInk (isUsed ▸ kept.sound) (kept.attempted isUsed)
  | audio chunk =>
    cases happens
    exact kept_sendInkAudio kept chunk
  | deepgramFinal transcript =>
    cases happens
    exact kept_dispatchDeepgramFinalParts kept transcript
  | nextFinal taken =>
    rw [step] at happens
    split at happens
    · cases happens
    next final rest isNext =>
      split at happens
      · cases happens
      next free =>
        cases happens
        have attempted : call.sttInkAttempted = true := by
          by_contra isFresh
          cases isNext.symm.trans (kept.fresh (Bool.not_eq_true _ ▸ isFresh)).2.1
        refine kept_resolveInkTranscript kept.sound attempted
          (fun state isUsed isOpen => isNext ▸ kept.live state isUsed isOpen)
          (Bool.not_eq_true _ ▸ free)
          fun state isUsed isReady isOpen listens isPending isLone => ?_
        by_contra speaks
        rw [leavesSpeech, isNext, isUsed] at fair
        simp [isReady, isOpen, listens, isPending, isLone] at fair
        exact speaks fair
  | timeout =>
    rw [step] at happens
    split at happens
    · obtain ⟨state, isUsed, rfl⟩ := Option.map_eq_some_iff.1 happens
      exact kept_stopInk (isUsed ▸ kept.sound) (kept.attempted isUsed)
    · cases happens
  | hangUp socketOpen =>
    cases happens
    exact kept_closeInkParallel kept

end

theorem kept_start (restaurantId : String) (codec : TelnyxCodec) :
    Kept (start restaurantId codec) where
  sound :=
    { flushed_le := le_rfl
      oneOpen := Nat.zero_le _
      texts := fun _ isNone => nomatch isNone
      since := fun _ isNone => nomatch isNone
      increasing := .nil
      below := fun _ isNone => nomatch isNone }
  live _ isUsed := nomatch isUsed
  fresh _ := ⟨rfl, rfl, rfl, rfl, rfl⟩

theorem Kept.aligned {call : InkCall} (kept : Kept call) : Aligned call where
  oneOpen := kept.sound.oneOpen
  texts := kept.sound.texts
  since := kept.sound.since
  once := by
    have increasing := kept.sound.increasing
    rw [List.map_append] at increasing
    exact (List.pairwise_append.1 increasing).1.imp Nat.ne_of_lt

/-- As long as no lone word is taken up while voice waits for the end of the open cycle, at most one
cycle is open, what a final is given comes from cycles opened for voice since the final before it,
and no fragment is given twice. -/
theorem aligned_of_reaches [SpokenWords] {env : InkEnvironment} {restaurantId : String}
    {codec : TelnyxCodec} {call : InkCall}
    (reaches : (machine env).Reaches (fun call event => call.leavesSpeech event = false)
      (start restaurantId codec) call) : call.Aligned :=
  (reaches.invariant (kept_start restaurantId codec) fun _ _ _ kept fair happens =>
    kept_step kept fair happens).aligned

section

attribute [local instance] SpokenWords.ascii

def sampleEnvironment : InkEnvironment where
  apiKey := some "key"
  restaurantIds := some "r1"
  replaceRestaurantIds := some "r1"

def sampleFrame (now lastVoiceAt : Int) : Int × Event :=
  (now, .audio
    { telnyxAudio := [0]
      lastVoiceAt := some lastVoiceAt
      socketOpen := true
      audioTaken := true
      finalizeTaken := true })

/-- Two phrases, each with a cycle of its own. -/
theorem aligned_of_reaches_twice : ∃ call,
    (machine sampleEnvironment).Reaches (fun call event => call.leavesSpeech event = false)
      (start "r1" .PCMA) call ∧ call.Aligned ∧
        call.answers.map (·.result.transcript) = ["demain soir", "pour deux"] := by
  have followed : ((machine sampleEnvironment).follow
      (fun call event => call.leavesSpeech event = false)
      [(0, .connect), (0, .opened), sampleFrame 0 0, sampleFrame 200 0,
        (250, .transcript " demain"), (260, .transcript " soir"),
        (270, .flushDone true), (300, .deepgramFinal "deux mains"), (300, .nextFinal true),
        sampleFrame 400 400, (450, .deepgramFinal "pour d'eux"), (450, .nextFinal true),
        (500, .transcript "pour deux"), (510, .flushDone true)]
      (start "r1" .PCMA)).any
        (fun call => call.answers.map (·.result.transcript) = ["demain soir", "pour deux"]) =
          true := by
    decide +kernel
  obtain ⟨call, reaches, passes⟩ := EventMachine.exists_of_follow followed
  exact ⟨call, reaches, aligned_of_reaches reaches, of_decide_eq_true passes⟩

/-- A fragment was given to a later phrase than its voice came before. -/
def givesLate (call : InkCall) : Bool :=
  call.answers.any fun answer => answer.fragments.any fun fragment =>
    call.history.cycles[fragment.cycle]?.any fun cycle =>
      cycle.voices.any fun voice => decide (voice < answer.final.phrase - 1)

/-- The caller says "non", pauses, and goes on with "euh", and what was said after the pause comes
with the next phrase. -/
theorem lone_word_leaves_speech : ∃ call,
    (machine sampleEnvironment).Reaches (fun _ _ => True) (start "r1" .PCMA) call ∧
      ¬call.Aligned ∧
        call.answers.map (·.result.transcript) = ["non euh", "euh pour deux personnes"] := by
  have followed : ((machine sampleEnvironment).follow (fun _ _ => True)
      [(0, .connect), (0, .opened), sampleFrame 0 0, sampleFrame 160 0, sampleFrame 200 200,
        (420, .deepgramFinal "non euh"), (420, .nextFinal true),
        (440, .transcript "non"), (450, .flushDone true), sampleFrame 460 200,
        (540, .transcript "euh"), (550, .flushDone true), sampleFrame 900 900,
        sampleFrame 1060 900, (1150, .transcript " pour deux personnes"), (1160, .flushDone true),
        (1200, .deepgramFinal "pour deux personnes"), (1200, .nextFinal true)]
      (start "r1" .PCMA)).any (fun call => call.givesLate &&
        (call.answers.map (·.result.transcript) = ["non euh", "euh pour deux personnes"] : Bool)) =
          true := by
    decide +kernel
  obtain ⟨call, reaches, passes⟩ := EventMachine.exists_of_follow followed
  obtain ⟨late, texts⟩ := Bool.and_eq_true_iff.1 passes
  refine ⟨call, reaches, fun aligned => ?_, of_decide_eq_true texts⟩
  obtain ⟨answer, isAnswer, fragments⟩ := List.any_eq_true.1 late
  obtain ⟨fragment, isFragment, cycles⟩ := List.any_eq_true.1 fragments
  obtain ⟨cycle, isCycle, voices⟩ := (Option.any_eq_true _ _).1 cycles
  obtain ⟨voice, isVoice, isLate⟩ := List.any_eq_true.1 voices
  obtain ⟨opened, isOpened, -, since⟩ := aligned.since answer isAnswer fragment isFragment
  cases isCycle.symm.trans isOpened
  exact absurd (since voice isVoice) (Nat.not_le_of_lt (of_decide_eq_true isLate))

end

end InkCall

end Sokar
