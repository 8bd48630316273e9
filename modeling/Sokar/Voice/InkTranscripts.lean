import Sokar.Library.EventMachine
import Sokar.Shared.Text
import Sokar.Voice.AudioFrames

/-!
# The parallel transcriber

Deepgram decides where a phrase ends, and a second transcriber hears the same audio.  Each
`finalize` sent to it opens a cycle, which its `flush_done` closes; what the cycles say of a phrase
may replace Deepgram's text.  The cycles bear no number, so at most one is open at a time, and
after a time limit the second transcriber is given up.

Finals of Deepgram wait in a chain for one another.  The next one is taken up at any later moment.
-/

namespace Sokar

/-! ## Constants and words -/

def INK_MIN_DEEPGRAM_WORDS : Nat := 2

def MAX_CALL_SECONDS : Nat := 600

def SPEECH_HANGOVER_MS : Int := 1000

def PRE_ROLL_MS : Nat := 500

def EARLY_FINALIZE_SILENCE_MS : Int := 150

def FILLERS : List String :=
  ["euh", "heu", "hum", "hmm", "mmh", "mh", "ah", "oh", "bah", "ben", "hein"]

/-- What the runtime's Unicode tables say of the words of a text. -/
class SpokenWords where
  toLowerCase : String → String
  isLetter : Char → Bool
  isNumber : Char → Bool

@[reducible] def SpokenWords.ascii : SpokenWords where
  toLowerCase := asciiLowerCase
  isLetter := Char.isAlpha
  isNumber := Char.isDigit

/-- `[\p{L}\p{N}']`; any other character comes between words. -/
def isWordChar [SpokenWords] (char : Char) : Bool :=
  SpokenWords.isLetter char || SpokenWords.isNumber char || char.toNat == 0x27

def comparableWordCount [SpokenWords] (text : String) : Nat :=
  (((SpokenWords.toLowerCase text).toList.splitOnP fun char => !isWordChar char).filter
    fun word => !word.isEmpty && !FILLERS.contains (String.ofList word)).length

/-- A restaurant is listed in a variable of the environment. -/
def restaurantEnabled (listed : Option String) (restaurantId : String) : Bool :=
  (((splitText ',' (listed.getD "")).map trim).filter (· ≠ "")).contains restaurantId

def swapBytes16 : List UInt8 → List UInt8
  | first :: second :: rest => second :: first :: swapBytes16 rest
  | input => input

/-- Bytes for each millisecond of audio. -/
def telnyxBytesPerMs (codec : TelnyxCodec) : Nat :=
  (telnyxCodecProfile codec).sampleRate * (telnyxCodecProfile codec).bytesPerSample / 1000

/-- The transcriber takes A-law and µ-law as they are. -/
def inkBytesPerSecond : TelnyxCodec → Nat
  | .PCMA | .PCMU => 8000
  | .L16 => 16000 * 2

/-- The newest half second of audio that was not sent. -/
def trimPreRoll (maxBytes : Nat) : List (List UInt8) → Nat → List (List UInt8) × Nat
  | first :: second :: rest, bytes =>
    if maxBytes ≤ bytes - first.length then
      trimPreRoll maxBytes (second :: rest) (bytes - first.length)
    else (first :: second :: rest, bytes)
  | preRoll, bytes => (preRoll, bytes)

/-- A part of a transcript.  Where it comes from is kept beside its text. -/
structure InkFragment where
  text : String
  /-- How many fragments came before. -/
  number : Nat
  /-- The cycle that the next `flush_done` closes. -/
  cycle : Nat
  deriving DecidableEq

def spokenText (fragments : List InkFragment) : String :=
  String.join (fragments.map (·.text))

structure DeepgramFinal where
  phrase : Nat
  transcript : String
  deriving DecidableEq

/-- A final that waits for the end of the open cycle. -/
structure InkWait where
  final : DeepgramFinal
  startedAt : Int
  deriving DecidableEq

structure InkParallelState where
  ready : Bool
  closed : Bool
  /-- What each closed cycle said since the last final. -/
  finals : List (List InkFragment)
  fragments : List InkFragment
  discardingReply : Bool
  finalizeAfterPending : Bool
  waiter : Option InkWait
  bytesSent : Nat
  bytesPerSecond : Nat
  preRoll : List (List UInt8)
  preRollBytes : Nat
  speechSinceFinalize : Bool
  pendingFinalize : Bool
  deriving DecidableEq

inductive TranscriptSource where
  | deepgram
  | ink
  deriving DecidableEq

structure InkTranscriptResult where
  transcript : String
  source : TranscriptSource
  waitedMs : Int
  inkTranscript : Option String
  deriving DecidableEq

/-- What a final was given, with the fragments taken for it. -/
structure InkAnswer where
  final : DeepgramFinal
  fragments : List InkFragment
  result : InkTranscriptResult
  deriving DecidableEq

inductive InkOutput where
  | audio (data : List UInt8)
  | finalize
  | close
  | disconnect
  deriving DecidableEq

/-- What a cycle was opened for: how many finals of Deepgram there were at each voice sent since the
cycle before, and at its opening. -/
structure InkCycle where
  voices : List Nat
  opened : Nat
  deriving DecidableEq

/-- What has happened so far; the code never reads it. -/
structure InkHistory where
  /-- Finals of Deepgram. -/
  phrases : Nat
  /-- `flush_done` received. -/
  flushed : Nat
  /-- Voice sent since the last `finalize`. -/
  voices : List Nat
  /-- The cycles opened so far. -/
  cycles : List InkCycle
  deriving DecidableEq

structure InkEnvironment where
  apiKey : Option String
  restaurantIds : Option String
  replaceRestaurantIds : Option String
  deriving DecidableEq

/-- The fields of a call session that the transcriber uses. -/
structure InkCall where
  restaurantId : String
  codec : TelnyxCodec
  lastVoiceAt : Option Int
  sttInk : Option InkParallelState
  sttInkAttempted : Bool
  sttInkDispatchChain : List DeepgramFinal
  outputs : List InkOutput
  /-- Complete transcripts handed to the speculation. -/
  speculated : List String
  secondsSpent : Nat
  answers : List InkAnswer
  /-- How many fragments were received. -/
  heard : Nat
  history : InkHistory
  deriving DecidableEq

variable (call : InkCall)

variable (now : Int)

variable (env : InkEnvironment)

variable (state : InkParallelState)

namespace InkCall

def start (restaurantId : String) (codec : TelnyxCodec) : InkCall where
  restaurantId := restaurantId
  codec := codec
  lastVoiceAt := none
  sttInk := none
  sttInkAttempted := false
  sttInkDispatchChain := []
  outputs := []
  speculated := []
  secondsSpent := 0
  answers := []
  heard := 0
  history := { phrases := 0, flushed := 0, voices := [], cycles := [] }

def put : InkCall :=
  { call with sttInk := some state }

def deepgram (transcript : String) (waitedMs : Int) : InkTranscriptResult :=
  { transcript, source := .deepgram, waitedMs, inkTranscript := none }

def replaces (call : InkCall) : Bool :=
  restaurantEnabled env.replaceRestaurantIds call.restaurantId

def select (call : InkCall) (deepgramTranscript inkTranscript : String) (waitedMs : Int) :
    InkTranscriptResult :=
  { transcript := if call.replaces env then inkTranscript else deepgramTranscript
    source := if call.replaces env then .ink else .deepgram
    waitedMs
    inkTranscript := some inkTranscript }

def answer (final : DeepgramFinal) (fragments : List InkFragment) (result : InkTranscriptResult) :
    InkCall :=
  { call with answers := call.answers ++ [{ final, fragments, result }] }

/-- `takeFinals`, with the answer to the final it is for; Deepgram's where nothing was said. -/
def takeFinals (call : InkCall) (state : InkParallelState) (final : DeepgramFinal) (waitedMs : Int)
    : InkCall :=
  let taken := state.finals.flatten
  let inkText := trim (spokenText taken)
  (call.put { state with finals := [], waiter := none }).answer final taken
    (if inkText = "" then deepgram final.transcript waitedMs
     else call.select env final.transcript inkText waitedMs)

/-- A final that waits is answered with Deepgram's text. -/
def stopInk (closeSocket : Bool) (call : InkCall) (state : InkParallelState) : InkCall :=
  if state.closed then call.put state
  else
    let stopped := call.put
      { state with
        closed := true
        ready := false
        pendingFinalize := false
        finalizeAfterPending := false
        discardingReply := false
        fragments := []
        finals := []
        waiter := none }
    let answered :=
      match state.waiter with
      | some wait =>
        stopped.answer wait.final []
          (deepgram wait.final.transcript (now - wait.startedAt))
      | none => stopped
    if closeSocket then { answered with outputs := answered.outputs ++ [.disconnect] } else answered

/-- `socket.send('finalize')` -/
def openCycle : InkCall :=
  { call with
    sttInk := some { state with pendingFinalize := true, speechSinceFinalize := false }
    outputs := call.outputs ++ [.finalize]
    history :=
      { call.history with
        voices := []
        cycles := call.history.cycles ++
          [{ voices := call.history.voices, opened := call.history.phrases }] } }

/-- With the `catch` of its callers. -/
def sendFinalize (taken : Bool) (call : InkCall) (state : InkParallelState) : InkCall :=
  if state.pendingFinalize then call.put state
  else if taken then call.openCycle state
  else call.stopInk now true { state with pendingFinalize := true, speechSinceFinalize := false }

/-- A complete transcript that can replace Deepgram's. -/
def peekReadyInkTranscript (call : InkCall) (state : InkParallelState) : Option String :=
  if !state.ready || state.closed || state.pendingFinalize || state.speechSinceFinalize ||
      !call.replaces env then none
  else
    let text := trim (spokenText state.finals.flatten)
    if text = "" then none else some text

def openInkParallel (call : InkCall) : InkCall :=
  if call.sttInk.isSome || call.sttInkAttempted then call
  else
    let attempted := { call with sttInkAttempted := true }
    if call.restaurantId = "" ∨ !restaurantEnabled env.restaurantIds call.restaurantId then
      attempted
    else if trim (env.apiKey.getD "") = "" then attempted
    else
      attempted.put
        { ready := false
          closed := false
          finals := []
          fragments := []
          discardingReply := false
          finalizeAfterPending := false
          waiter := none
          bytesSent := 0
          bytesPerSecond := inkBytesPerSecond call.codec
          preRoll := []
          preRollBytes := 0
          speechSinceFinalize := false
          pendingFinalize := false }

def onTranscript (text : String) (call : InkCall) : InkCall :=
  let fragment := { text, number := call.heard, cycle := call.history.flushed }
  let heard := { call with heard := call.heard + 1 }
  match call.sttInk with
  | none => heard
  | some state =>
    if state.closed || state.discardingReply then heard
    else heard.put { state with fragments := state.fragments ++ [fragment] }

/-- A cycle that ended without a final to answer is shown to the speculation. -/
def onFlushDone (now : Int) (taken : Bool) (call : InkCall) : InkCall :=
  let call := { call with history := { call.history with flushed := call.history.flushed + 1 } }
  match call.sttInk with
  | none => call
  | some state =>
    if state.closed || !state.pendingFinalize then call
    else if state.discardingReply then
      call.put { state with pendingFinalize := false, fragments := [], discardingReply := false }
    else
      let state :=
        { state with
          pendingFinalize := false
          fragments := []
          finals := state.finals ++ [state.fragments] }
      if state.finalizeAfterPending then
        call.sendFinalize now taken { state with finalizeAfterPending := false }
      else
        match state.waiter with
        | some wait => call.takeFinals env state wait.final (now - wait.startedAt)
        | none =>
          { call.put state with
            speculated := call.speculated ++ (call.peekReadyInkTranscript env state).toList }

/-- Nothing when no voice was heard yet. -/
def callerSilenceMs (call : InkCall) : Option Int :=
  call.lastVoiceAt.map fun lastVoiceAt => max 0 (now - lastVoiceAt)

structure AudioChunk where
  telnyxAudio : List UInt8
  /-- The caller's last voice, with this audio. -/
  lastVoiceAt : Option Int
  /-- The socket is open, and takes the audio and a `finalize`. -/
  socketOpen : Bool
  audioTaken : Bool
  finalizeTaken : Bool
  deriving DecidableEq

/-- Voice is noted; a short silence after it opens a cycle. -/
def afterAudio (finalizeTaken : Bool) (call : InkCall) (state : InkParallelState) : InkCall :=
  if (call.callerSilenceMs now).any (· < EARLY_FINALIZE_SILENCE_MS) then
    { call with
      sttInk := some { state with speechSinceFinalize := true }
      history := { call.history with voices := call.history.voices ++ [call.history.phrases] } }
  else if state.speechSinceFinalize && !state.pendingFinalize then
    call.sendFinalize now finalizeTaken state
  else call.put state

def sendInkAudio (chunk : AudioChunk) (call : InkCall) : InkCall :=
  let call := { call with lastVoiceAt := chunk.lastVoiceAt }
  match call.sttInk with
  | none => call
  | some state =>
    if !state.ready || state.closed || !chunk.socketOpen then call
    else if MAX_CALL_SECONDS * state.bytesPerSecond ≤ state.bytesSent then call
    else if (call.callerSilenceMs now).all (SPEECH_HANGOVER_MS < ·) then
      let kept := trimPreRoll (PRE_ROLL_MS * telnyxBytesPerMs call.codec)
        (state.preRoll ++ [chunk.telnyxAudio]) (state.preRollBytes + chunk.telnyxAudio.length)
      call.put { state with preRoll := kept.1, preRollBytes := kept.2 }
    else
      let pending := state.preRoll.flatten ++ chunk.telnyxAudio
      let audio := if call.codec = .L16 then swapBytes16 pending else pending
      let state := { state with preRoll := [], preRollBytes := 0 }
      if !chunk.audioTaken then call.stopInk now true state
      else
        { call with outputs := call.outputs ++ [InkOutput.audio audio] }.afterAudio now
          chunk.finalizeTaken { state with bytesSent := state.bytesSent + audio.length }

/-- A final goes to the chain when the second transcriber is ready. -/
def dispatchDeepgramFinalParts (transcript : String) (call : InkCall) : InkCall :=
  let final : DeepgramFinal := { phrase := call.history.phrases + 1, transcript }
  let call := { call with history := { call.history with phrases := call.history.phrases + 1 } }
  if call.sttInk.any (·.ready) then
    { call with sttInkDispatchChain := call.sttInkDispatchChain ++ [final] }
  else call.answer final [] (deepgram transcript 0)

/-- What the open cycle still says of a lone word is ignored. -/
def discardPendingReply : InkParallelState :=
  { state with
    finals := []
    fragments := []
    finalizeAfterPending := false
    waiter := none
    discardingReply := state.pendingFinalize }

/-- `resolveInkTranscript` once the `finalize` is sent. -/
def awaitTranscript [SpokenWords] (now : Int) (call : InkCall) (final : DeepgramFinal) : InkCall :=
  match call.sttInk with
  | none => call.answer final [] (deepgram final.transcript 0)
  | some state =>
    if state.closed then call.answer final [] (deepgram final.transcript 0)
    else if comparableWordCount final.transcript < INK_MIN_DEEPGRAM_WORDS then
      (call.put (discardPendingReply state)).answer final [] (deepgram final.transcript 0)
    else if !state.pendingFinalize then call.takeFinals env state final 0
    else call.put { state with waiter := some { final, startedAt := now } }

/-- Deepgram's text is the answer as long as the second transcriber is not ready, and when a reply
is still being ignored. -/
def resolveInkTranscript [SpokenWords] (now : Int) (taken : Bool) (call : InkCall)
    (final : DeepgramFinal) : InkCall :=
  match call.sttInk with
  | none => call.answer final [] (deepgram final.transcript 0)
  | some state =>
    if !state.ready || state.closed then call.answer final [] (deepgram final.transcript 0)
    else if state.discardingReply then
      (call.stopInk now true state).answer final [] (deepgram final.transcript 0)
    else
      let state :=
        { state with finalizeAfterPending := state.pendingFinalize && state.speechSinceFinalize }
      let opened :=
        if state.speechSinceFinalize || (!state.pendingFinalize && state.finals.isEmpty) then
          call.sendFinalize now taken state
        else call.put state
      opened.awaitTranscript env now final

/-- The seconds sent are counted, begun ones in full. -/
def closeInkParallel (socketOpen : Bool) (call : InkCall) : InkCall :=
  match call.sttInk with
  | none => call
  | some state =>
    let closing :=
      { call with
        outputs := call.outputs ++
          if socketOpen then [InkOutput.close, .disconnect] else [InkOutput.disconnect] }
    { closing.stopInk now false state with
      sttInk := none
      secondsSpent := call.secondsSpent +
        (state.bytesSent + state.bytesPerSecond - 1) / state.bytesPerSecond }

inductive Event where
  | connect
  | opened
  | transcript (text : String)
  | flushDone (taken : Bool)
  | providerError
  | socketClosed
  | audio (chunk : AudioChunk)
  | deepgramFinal (transcript : String)
  | nextFinal (taken : Bool)
  | timeout
  | hangUp (socketOpen : Bool)
  deriving DecidableEq

/-- A final waits for the open cycle. -/
def waits : Bool :=
  call.sttInk.any (·.waiter.isSome)

/-- Each `flush_done` answers one `finalize`, and the finals in the chain wait for one another. -/
def step [SpokenWords] (call : InkCall) : Int × Event → Option InkCall
  | (_, .connect) => some (call.openInkParallel env)
  | (_, .opened) =>
    some { call with sttInk := call.sttInk.map fun state => { state with ready := true } }
  | (_, .transcript text) => some (call.onTranscript text)
  | (now, .flushDone taken) =>
    if call.history.flushed < call.history.cycles.length then
      some (call.onFlushDone env now taken)
    else none
  | (now, .providerError) => call.sttInk.map fun state => call.stopInk now true state
  | (now, .socketClosed) => call.sttInk.map fun state => call.stopInk now false state
  | (now, .audio chunk) => some (call.sendInkAudio now chunk)
  | (_, .deepgramFinal transcript) => some (call.dispatchDeepgramFinalParts transcript)
  | (now, .nextFinal taken) =>
    match call.sttInkDispatchChain with
    | [] => none
    | final :: rest =>
      if call.waits then none
      else
        some ({ call with sttInkDispatchChain := rest }.resolveInkTranscript env now taken
          final)
  | (now, .timeout) =>
    if call.waits then call.sttInk.map fun state => call.stopInk now true state else none
  | (now, .hangUp socketOpen) => some (call.closeInkParallel now socketOpen)

def machine [SpokenWords] : EventMachine InkCall (Int × Event) where
  step := step env

end InkCall

end Sokar
