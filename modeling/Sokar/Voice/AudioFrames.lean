import Sokar.Library.Framing

/-!
# Audio frames

Speech goes out in frames of 100 ms.  A text that was spoken before is cut from the whole
recording; a new one is cut while its audio still comes in, over HTTP or through a context of
the provider, and played at the same time.
-/

namespace Sokar

inductive TelnyxCodec where
  | PCMA
  | PCMU
  | L16
deriving DecidableEq

structure TelnyxCodecProfile where
  sampleRate : Nat
  bytesPerSample : Nat
  idleByte : Option UInt8

def telnyxCodecProfile : TelnyxCodec → TelnyxCodecProfile
  | .PCMA => { sampleRate := 8000, bytesPerSample := 1, idleByte := some 0xd5 }
  | .PCMU => { sampleRate := 8000, bytesPerSample := 1, idleByte := some 0xff }
  | .L16 => { sampleRate := 16000, bytesPerSample := 2, idleByte := none }

def TELNYX_FRAME_DURATION_MS : Nat := 100

variable (codec : TelnyxCodec)

def telnyxFrameBytes : Nat :=
  TELNYX_FRAME_DURATION_MS * (telnyxCodecProfile codec).sampleRate *
    (telnyxCodecProfile codec).bytesPerSample / 1000

/-- Without an idle byte a frame is filled with zeros. -/
def padTelnyxFrame (frame : List UInt8) (size : Nat) : List UInt8 :=
  if frame.length = size then frame
  else
    frame ++ List.replicate (size - frame.length) ((telnyxCodecProfile codec).idleByte.getD 0)

theorem telnyxFrameBytes_pos : 0 < telnyxFrameBytes codec := by
  cases codec <;> decide

theorem padTelnyxFrame_of_full {codec : TelnyxCodec} {frame : List UInt8}
    (full : frame.length = telnyxFrameBytes codec) :
    padTelnyxFrame codec frame (telnyxFrameBytes codec) = frame :=
  if_pos full

/-- The frames of 100 ms. -/
def telnyxFrames : Framing.Cutter UInt8 :=
  Framing.ofSize (telnyxFrameBytes codec) (telnyxFrameBytes_pos codec)

def splitTelnyxAudioFrames (audio : List UInt8) (codec : TelnyxCodec) : List (List UInt8) :=
  Framing.frames (telnyxFrameBytes codec)
    (fun frame => padTelnyxFrame codec frame (telnyxFrameBytes codec)) audio

/-- The last frame of audio that is not a multiple of the frame size. -/
def paddedFrames (remainder : List UInt8) : List (List UInt8) :=
  Framing.closing (fun frame => padTelnyxFrame codec frame (telnyxFrameBytes codec)) remainder

theorem splitTelnyxAudioFrames_eq (audio : List UInt8) (codec : TelnyxCodec) :
    splitTelnyxAudioFrames audio codec = ((telnyxFrames codec).cut audio).1 ++
        paddedFrames codec ((telnyxFrames codec).cut audio).2 :=
  Framing.frames_eq_cut (telnyxFrameBytes_pos codec) (fun _ => padTelnyxFrame_of_full) audio

/-- The streamed answer to one text, with the frames that the player has sent. -/
structure HttpSpeech where
  playbackQueue : List (List UInt8)
  remainingBytes : List UInt8
  accumulatedChunks : List (List UInt8)
  sentFrames : List (List UInt8)
  playerStopped : Bool

variable (speech : HttpSpeech)

namespace HttpSpeech

def start : HttpSpeech :=
  { playbackQueue := [], remainingBytes := [], accumulatedChunks := [], sentFrames := []
    playerStopped := false }

/-- One round of the reading loop. -/
def read (chunk : List UInt8) (speech : HttpSpeech) : HttpSpeech :=
  let fullBytes := speech.remainingBytes ++ chunk
  let frames := (telnyxFrames codec).cut fullBytes
  { speech with
    accumulatedChunks := speech.accumulatedChunks ++ [chunk]
    playbackQueue := speech.playbackQueue ++ frames.1
    remainingBytes := frames.2 }

/-- One round of the player: the first frame of the queue, if there is one, is sent. -/
def play : HttpSpeech :=
  if speech.playerStopped then speech
  else
    match speech.playbackQueue with
    | [] => speech
    | frame :: queue =>
      { speech with playbackQueue := queue, sentFrames := speech.sentFrames ++ [frame] }

/-- The player of a session that is no longer active ends; the reading loop goes on. -/
def stop : HttpSpeech :=
  { speech with playerStopped := true }

def flush (speech : HttpSpeech) : HttpSpeech :=
  { speech with
    playbackQueue := speech.playbackQueue ++ paddedFrames codec speech.remainingBytes }

/-- All frames that were put in the queue, in order. -/
def queued : List (List UInt8) :=
  speech.sentFrames ++ speech.playbackQueue

end HttpSpeech

structure CartesiaContextTurn where
  cancelled : Bool
  audioFrames : List (List UInt8)
  remainder : List UInt8
  sentFrames : List (List UInt8)

variable (turn : CartesiaContextTurn)

namespace CartesiaContextTurn

def start : CartesiaContextTurn :=
  { cancelled := false, audioFrames := [], remainder := [], sentFrames := [] }

def enqueueAudio (chunk : List UInt8) (turn : CartesiaContextTurn) : CartesiaContextTurn :=
  if turn.cancelled || chunk.isEmpty then turn
  else
    let bytes := turn.remainder ++ chunk
    let frames := (telnyxFrames codec).cut bytes
    { turn with audioFrames := turn.audioFrames ++ frames.1, remainder := frames.2 }

/-- One round of `playAudio`. -/
def play : CartesiaContextTurn :=
  if turn.cancelled then turn
  else
    match turn.audioFrames with
    | [] => turn
    | frame :: queue =>
      { turn with audioFrames := queue, sentFrames := turn.sentFrames ++ [frame] }

def cancel : CartesiaContextTurn :=
  { turn with cancelled := true, audioFrames := [], remainder := [] }

/-- What `completeAfterPlayback` does before it waits for the player. -/
def completeAfterPlayback (turn : CartesiaContextTurn) : CartesiaContextTurn :=
  { turn with
    audioFrames := turn.audioFrames ++ paddedFrames codec turn.remainder
    remainder := [] }

def queued : List (List UInt8) :=
  turn.sentFrames ++ turn.audioFrames

end CartesiaContextTurn

/-- What happens while speech comes in. -/
inductive SpeechMove where
  | audio (chunk : List UInt8)
  | play
  | cancel

def SpeechMove.received : SpeechMove → List UInt8
  | .audio chunk => chunk
  | .play => []
  | .cancel => []

/-- The audio of a run, in order. -/
def receivedAudio (moves : List SpeechMove) : List UInt8 :=
  moves.flatMap SpeechMove.received

def HttpSpeech.move (speech : HttpSpeech) : SpeechMove → HttpSpeech
  | .audio chunk => speech.read codec chunk
  | .play => speech.play
  | .cancel => speech.stop

def HttpSpeech.run (moves : List SpeechMove) : HttpSpeech :=
  moves.foldl (HttpSpeech.move codec) HttpSpeech.start

def CartesiaContextTurn.move (turn : CartesiaContextTurn) : SpeechMove → CartesiaContextTurn
  | .audio chunk => turn.enqueueAudio codec chunk
  | .play => turn.play
  | .cancel => turn.cancel

def CartesiaContextTurn.run (moves : List SpeechMove) : CartesiaContextTurn :=
  moves.foldl (CartesiaContextTurn.move codec) CartesiaContextTurn.start

/-- The queue and the remainder are the cut of the audio so far, which is also what will be
cached. -/
structure HttpSpeech.Holds (codec : TelnyxCodec) (audio : List UInt8) (speech : HttpSpeech) :
    Prop where
  queued : speech.queued = ((telnyxFrames codec).cut audio).1
  remaining : speech.remainingBytes = ((telnyxFrames codec).cut audio).2
  accumulated : speech.accumulatedChunks.flatten = audio

structure CartesiaContextTurn.Holds (codec : TelnyxCodec) (audio : List UInt8)
    (turn : CartesiaContextTurn) : Prop where
  queued : turn.queued = ((telnyxFrames codec).cut audio).1
  remaining : turn.remainder = ((telnyxFrames codec).cut audio).2

variable {codec : TelnyxCodec} {audio : List UInt8}

theorem cut_nil : (telnyxFrames codec).cut [] = ([], []) :=
  Framing.Cutter.cut_of_none (if_neg (Nat.not_le.2 (telnyxFrameBytes_pos codec)))

namespace HttpSpeech

@[simp] theorem queued_play : speech.play.queued = speech.queued := by
  rw [play]
  split
  · rfl
  · split
    · rfl
    · next found => simp [queued, found]

@[simp] theorem remainingBytes_play : speech.play.remainingBytes = speech.remainingBytes := by
  rw [play]
  split
  · rfl
  · split <;> rfl

@[simp] theorem accumulatedChunks_play :
    speech.play.accumulatedChunks = speech.accumulatedChunks := by
  rw [play]
  split
  · rfl
  · split <;> rfl

variable {speech : HttpSpeech}

section

variable (holds : speech.Holds codec audio)
include holds

theorem Holds.read (chunk : List UInt8) :
    (speech.read codec chunk).Holds codec (audio ++ chunk) := by
  have later := (telnyxFrames codec).cut_append audio chunk
  rw [← holds.queued, ← holds.remaining] at later
  refine ⟨?_, ?_, ?_⟩
  · rw [later]
    exact (List.append_assoc _ _ _).symm
  · rw [later]
    rfl
  · rw [← holds.accumulated]
    exact List.flatten_concat

theorem Holds.move (next : SpeechMove) :
    (speech.move codec next).Holds codec (audio ++ next.received) := by
  cases next with
  | audio chunk => exact holds.read chunk
  | play =>
    rw [SpeechMove.received, List.append_nil]
    exact ⟨(queued_play speech).trans holds.queued,
      (remainingBytes_play speech).trans holds.remaining,
      (congrArg List.flatten (accumulatedChunks_play speech)).trans holds.accumulated⟩
  | cancel =>
    rw [SpeechMove.received, List.append_nil]
    exact ⟨holds.queued, holds.remaining, holds.accumulated⟩

theorem Holds.moves (moves : List SpeechMove) :
    (moves.foldl (HttpSpeech.move codec) speech).Holds codec (audio ++ receivedAudio moves) := by
  induction moves generalizing speech audio with
  | nil => exact (List.append_nil audio).symm ▸ holds
  | cons next moves ih =>
    rw [List.foldl_cons, receivedAudio, List.flatMap_cons, ← List.append_assoc]
    exact ih (holds.move next)

end

theorem holds_run (codec : TelnyxCodec) (moves : List SpeechMove) :
    (run codec moves).Holds codec (receivedAudio moves) := by
  have holds : start.Holds codec [] :=
    ⟨by rw [cut_nil]; rfl, by rw [cut_nil]; rfl, rfl⟩
  exact holds.moves moves

theorem queued_flush (holds : speech.Holds codec audio) :
    (speech.flush codec).queued = splitTelnyxAudioFrames audio codec := by
  rw [splitTelnyxAudioFrames_eq, ← holds.queued, ← holds.remaining]
  exact (List.append_assoc _ _ _).symm

end HttpSpeech

namespace CartesiaContextTurn

@[simp] theorem queued_play : turn.play.queued = turn.queued := by
  rw [play]
  split
  · rfl
  · split
    · rfl
    · next found => simp [queued, found]

@[simp] theorem remainder_play : turn.play.remainder = turn.remainder := by
  rw [play]
  split
  · rfl
  · split <;> rfl

@[simp] theorem cancelled_play : turn.play.cancelled = turn.cancelled := by
  rw [play]
  split
  · rfl
  · split <;> rfl

@[simp] theorem cancelled_enqueueAudio (chunk : List UInt8) :
    (turn.enqueueAudio codec chunk).cancelled = turn.cancelled := by
  rw [enqueueAudio]
  split <;> rfl

variable {turn : CartesiaContextTurn}

/-- An empty chunk leaves the turn as it is, and so does it leave the cut. -/
theorem Holds.enqueueAudio (holds : turn.Holds codec audio) (running : turn.cancelled = false)
    (chunk : List UInt8) :
    (turn.enqueueAudio codec chunk).Holds codec (audio ++ chunk) := by
  rw [CartesiaContextTurn.enqueueAudio, running, Bool.false_or]
  split
  · next empty =>
      rw [List.isEmpty_iff.1 empty, List.append_nil]
      exact holds
  · have later := (telnyxFrames codec).cut_append audio chunk
    rw [← holds.queued, ← holds.remaining] at later
    refine ⟨?_, ?_⟩
    · rw [later]
      exact (List.append_assoc _ _ _).symm
    · rw [later]

theorem running_of_move {next : SpeechMove} (running : (turn.move codec next).cancelled = false) :
    turn.cancelled = false := by
  cases next with
  | audio chunk => exact (cancelled_enqueueAudio turn chunk).symm.trans running
  | play => exact (cancelled_play turn).symm.trans running
  | cancel => exact nomatch (running : true = false)

theorem running_of_moves {moves : List SpeechMove}
    (running : (moves.foldl (CartesiaContextTurn.move codec) turn).cancelled = false) :
    turn.cancelled = false := by
  induction moves generalizing turn with
  | nil => exact running
  | cons next moves ih => exact running_of_move (ih running)

theorem Holds.move (holds : turn.Holds codec audio) {next : SpeechMove}
    (running : (turn.move codec next).cancelled = false) :
    (turn.move codec next).Holds codec (audio ++ next.received) := by
  cases next with
  | audio chunk => exact holds.enqueueAudio (running_of_move running) chunk
  | play =>
    rw [SpeechMove.received, List.append_nil]
    exact ⟨(queued_play turn).trans holds.queued, (remainder_play turn).trans holds.remaining⟩
  | cancel => exact nomatch (running : true = false)

theorem Holds.moves (holds : turn.Holds codec audio) {moves : List SpeechMove}
    (running : (moves.foldl (CartesiaContextTurn.move codec) turn).cancelled = false) :
    (moves.foldl (CartesiaContextTurn.move codec) turn).Holds codec
      (audio ++ receivedAudio moves) := by
  induction moves generalizing turn audio with
  | nil => exact (List.append_nil audio).symm ▸ holds
  | cons next moves ih =>
    rw [receivedAudio, List.flatMap_cons, ← List.append_assoc]
    exact ih (holds.move (running_of_moves running)) running

theorem holds_run {moves : List SpeechMove} (running : (run codec moves).cancelled = false) :
    (run codec moves).Holds codec (receivedAudio moves) := by
  have holds : start.Holds codec [] := ⟨by rw [cut_nil]; rfl, by rw [cut_nil]; rfl⟩
  exact holds.moves running

theorem queued_completeAfterPlayback (holds : turn.Holds codec audio) :
    (turn.completeAfterPlayback codec).queued = splitTelnyxAudioFrames audio codec := by
  rw [splitTelnyxAudioFrames_eq, ← holds.queued, ← holds.remaining]
  exact (List.append_assoc _ _ _).symm

end CartesiaContextTurn

/-- However the audio arrives and however much of it was played meanwhile, the frames are those
of the whole recording, which is the one that is cached. -/
theorem live_audio_eq_cached (codec : TelnyxCodec) (moves : List SpeechMove) :
    ((HttpSpeech.run codec moves).flush codec).queued =
        splitTelnyxAudioFrames (receivedAudio moves) codec ∧
      ((HttpSpeech.run codec moves).flush codec).accumulatedChunks.flatten = receivedAudio moves ∧
      ((CartesiaContextTurn.run codec moves).cancelled = false →
        ((CartesiaContextTurn.run codec moves).completeAfterPlayback codec).queued =
          splitTelnyxAudioFrames (receivedAudio moves) codec) :=
  ⟨HttpSpeech.queued_flush (HttpSpeech.holds_run codec moves),
    (HttpSpeech.holds_run codec moves).accumulated,
    fun running =>
      CartesiaContextTurn.queued_completeAfterPlayback (CartesiaContextTurn.holds_run running)⟩

/-- An odd chunk, an empty one and a round of the player between them. -/
theorem live_audio_eq_cached_odd : ((CartesiaContextTurn.run .PCMA
          [.audio [1, 2, 3], .audio [], .play, .audio [4]]).completeAfterPlayback .PCMA).queued =
      splitTelnyxAudioFrames [1, 2, 3, 4] .PCMA :=
  (live_audio_eq_cached .PCMA [.audio [1, 2, 3], .audio [], .play, .audio [4]]).2.2
    (by simp [CartesiaContextTurn.run, CartesiaContextTurn.move, CartesiaContextTurn.start])

end Sokar
