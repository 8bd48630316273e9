import Mathlib.Data.List.Infix

/-!
# Prompts for a caller who is not heard

`no-input-recovery`.  An attempt waits for a timer and then for the model; its generation tells it
whether it was cancelled meanwhile.  Each attempt keeps how many cancellations came before it was
armed.
-/

namespace Sokar.NoInput

def MAX_RECOVERIES_PER_CALL : Nat := 2

/-- An attempt that waits for the model, with its abort controller. -/
structure Waiting where
  generation : Nat
  armedAt : Nat
  aborted : Bool
  timedOut : Bool

/-- How many cancellations came before the attempt was armed and before its prompt was spoken. -/
structure Prompt where
  armedAt : Nat
  spokenAt : Nat

structure RecoveryState where
  count : Nat
  generation : Nat
  /-- The generation of the attempt whose controller this is. -/
  abort : Option Nat
  unheardTimer : Option Nat
  silenceTimer : Option Nat
  waiting : List Waiting
  cancellations : Nat
  prompts : List Prompt

def RecoveryState.first : RecoveryState :=
  ⟨0, 0, none, none, none, [], 0, []⟩

/-- What an attempt finds: the line is free, there is a question, the model is to word it and the
manager lets the call go on to `SPEAKING`, which its own table refuses to a call that listens. -/
structure Line where
  free : Bool
  question : Bool
  byModel : Bool
  moves : Bool

inductive RecoveryEvent where
  | scheduleUnheardRecovery (recent : Bool)
  | armSilenceRecovery
  | unheardFires (line : Line)
  | silenceFires (line : Line)
  | deadlineFires (generation : Nat)
  /-- The race is decided, by a reply, a failure or the controller. -/
  | settles (generation : Nat) (line : Line)
  | cancelNoInputRecovery

namespace RecoveryState

variable (s : RecoveryState)

def abortAttempt (timedOut : Bool) (generation : Nat) : RecoveryState :=
  { s with
    waiting := s.waiting.map fun attempt =>
      if attempt.generation = generation then
        { attempt with aborted := true, timedOut := attempt.timedOut || timedOut }
      else attempt }

def cancel : RecoveryState :=
  let s := { s with generation := s.generation + 1, cancellations := s.cancellations + 1 }
  { (s.abort.elim s (s.abortAttempt false)) with
    abort := none, unheardTimer := none, silenceTimer := none }

def canRecover (line : Line) : Bool :=
  line.free && s.count < MAX_RECOVERIES_PER_CALL

/-- Going on to `SPEAKING` cancels the other attempts. -/
def speak (line : Line) (armedAt : Nat) : RecoveryState :=
  let s := { s with count := s.count + 1 }
  if line.moves then { s.cancel with prompts := ⟨armedAt, s.cancellations⟩ :: s.prompts } else s

def speakRecovery (line : Line) (armedAt : Nat) : RecoveryState :=
  if !s.canRecover line || !line.question then s
  else if line.byModel then
    { s with
      generation := s.generation + 1
      abort := some (s.generation + 1)
      waiting := ⟨s.generation + 1, armedAt, false, false⟩ :: s.waiting }
  else s.speak line armedAt

def dropAttempt (generation : Nat) : RecoveryState :=
  { s with
    waiting := s.waiting.filter fun attempt => attempt.generation != generation
    abort := if s.abort = some generation then none else s.abort }

/-- After the wait for the model. -/
def settle (line : Line) (attempt : Waiting) : RecoveryState :=
  let rest := s.dropAttempt attempt.generation
  if (attempt.aborted && !attempt.timedOut) || s.generation != attempt.generation ||
      !s.canRecover line then rest
  else rest.speak line attempt.armedAt

def step : RecoveryEvent → RecoveryState
  | .scheduleUnheardRecovery recent =>
    if recent then { s with unheardTimer := some s.cancellations, silenceTimer := none } else s
  | .armSilenceRecovery => { s with silenceTimer := some s.cancellations }
  | .unheardFires line =>
    s.unheardTimer.elim s ({ s with unheardTimer := none }.speakRecovery line)
  | .silenceFires line =>
    s.silenceTimer.elim s ({ s with silenceTimer := none }.speakRecovery line)
  | .deadlineFires generation => s.abortAttempt true generation
  | .settles generation line =>
    (s.waiting.find? fun attempt => attempt.generation = generation).elim s (s.settle line)
  | .cancelNoInputRecovery => s.cancel

/-- An attempt that can still speak was armed after the last cancellation. -/
structure Kept : Prop where
  counted : s.prompts.length ≤ s.count
  bounded : s.count ≤ MAX_RECOVERIES_PER_CALL
  unheard : ∀ armedAt ∈ s.unheardTimer, armedAt = s.cancellations
  silence : ∀ armedAt ∈ s.silenceTimer, armedAt = s.cancellations
  earlier : ∀ attempt ∈ s.waiting, attempt.generation ≤ s.generation
  current : ∀ attempt ∈ s.waiting, attempt.generation = s.generation →
    attempt.armedAt = s.cancellations
  fresh : ∀ prompt ∈ s.prompts, prompt.armedAt = prompt.spokenAt

variable {s}

theorem Kept.abortAttempt (kept : s.Kept) (timedOut : Bool) (generation : Nat) :
    (s.abortAttempt timedOut generation).Kept where
  __ := kept
  earlier := by
    have := kept.earlier
    simp only [RecoveryState.abortAttempt, List.forall_mem_map]
    grind
  current := by
    have := kept.current
    simp only [RecoveryState.abortAttempt, List.forall_mem_map]
    grind

/-- No waiting attempt has the next generation. -/
theorem Kept.cancel (kept : s.Kept) : s.cancel.Kept := by
  have next : { s with
      generation := s.generation + 1
      cancellations := s.cancellations + 1
      unheardTimer := none
      silenceTimer := none }.Kept := {
    kept with
    unheard := nofun
    silence := nofun
    earlier := fun attempt waits => (kept.earlier attempt waits).trans (Nat.le_succ _)
    current := fun attempt waits now => by
      have := kept.earlier attempt waits
      dsimp only at now
      omega }
  unfold RecoveryState.cancel
  cases s.abort with
  | none => exact { next with }
  | some generation => exact { next.abortAttempt false generation with }

theorem Kept.speak (kept : s.Kept) {line : Line} {armedAt : Nat} (can : s.canRecover line)
    (isFresh : armedAt = s.cancellations) : (s.speak line armedAt).Kept := by
  have counted : { s with count := s.count + 1 }.Kept := {
    kept with
    counted := kept.counted.trans (Nat.le_succ _)
    bounded := by
      simp only [canRecover, Bool.and_eq_true, decide_eq_true_eq] at can
      exact can.2 }
  unfold RecoveryState.speak
  split
  · refine { counted.cancel with counted := ?_, fresh := ?_ }
    · have same : { s with count := s.count + 1 }.cancel.count = s.count + 1 := by
        unfold RecoveryState.cancel
        cases s.abort <;> rfl
      exact (Nat.succ_le_succ kept.counted).trans same.ge
    · exact List.forall_mem_cons.2 ⟨isFresh, kept.fresh⟩
  · exact counted

theorem Kept.speakRecovery (kept : s.Kept) (line : Line) {armedAt : Nat}
    (isFresh : armedAt = s.cancellations) : (s.speakRecovery line armedAt).Kept := by
  unfold RecoveryState.speakRecovery
  split
  · exact kept
  next can =>
    split
    · exact {
        kept with
        earlier := List.forall_mem_cons.2
          ⟨le_rfl, fun attempt waits => (kept.earlier attempt waits).trans (Nat.le_succ _)⟩
        current := List.forall_mem_cons.2 ⟨fun _ => isFresh, fun attempt waits now => by
          have := kept.earlier attempt waits
          dsimp only at now
          omega⟩ }
    · exact kept.speak (by grind) isFresh

theorem Kept.settle (kept : s.Kept) (line : Line) {attempt : Waiting}
    (waits : attempt ∈ s.waiting) : (s.settle line attempt).Kept := by
  have rest : (s.dropAttempt attempt.generation).Kept := {
    kept with
    earlier := fun other isOther => kept.earlier other (List.mem_filter.1 isOther).1
    current := fun other isOther => kept.current other (List.mem_filter.1 isOther).1 }
  unfold RecoveryState.settle
  split
  · exact rest
  next goesOn =>
    simp only [Bool.or_eq_true, not_or, bne_iff_ne, ne_eq, not_not, Bool.not_eq_true',
      Bool.not_eq_false] at goesOn
    exact rest.speak goesOn.2 (kept.current attempt waits goesOn.1.2.symm)

theorem Kept.step (kept : s.Kept) (event : RecoveryEvent) : (s.step event).Kept := by
  cases event with
  | scheduleUnheardRecovery recent =>
    cases recent with
    | false => exact kept
    | true =>
      exact { kept with unheard := fun _ isNew => (Option.some.inj isNew).symm, silence := nofun }
  | armSilenceRecovery =>
    exact { kept with silence := fun _ isNew => (Option.some.inj isNew).symm }
  | unheardFires line =>
    simp only [RecoveryState.step]
    cases armed : s.unheardTimer with
    | none => exact kept
    | some armedAt =>
      exact Kept.speakRecovery (s := { s with unheardTimer := none }) { kept with unheard := nofun } line
        (kept.unheard armedAt armed)
  | silenceFires line =>
    simp only [RecoveryState.step]
    cases armed : s.silenceTimer with
    | none => exact kept
    | some armedAt =>
      exact Kept.speakRecovery (s := { s with silenceTimer := none }) { kept with silence := nofun } line
        (kept.silence armedAt armed)
  | deadlineFires generation => exact kept.abortAttempt true generation
  | settles generation line =>
    simp only [RecoveryState.step]
    cases found : s.waiting.find? fun attempt => attempt.generation = generation with
    | none => exact kept
    | some attempt => exact kept.settle line (List.mem_of_find?_eq_some found)
  | cancelNoInputRecovery => exact kept.cancel

theorem kept_run (events : List RecoveryEvent) : (events.foldl step first).Kept := by
  induction events using List.reverseRecOn with
  | nil => exact ⟨le_rfl, Nat.zero_le _, nofun, nofun, nofun, nofun, nofun⟩
  | append_singleton events event ih =>
    rw [List.foldl_concat]
    exact ih.step event

end RecoveryState

end Sokar.NoInput
