import Sokar.Shared.Time

/-!
# The circuit breaker

Operations of a provider go through a breaker, which opens after some failures in a row and then
lets a single one probe.  An operation that started before the breaker opened may finish at any
time later, and is not told apart from the probe.
-/

namespace Sokar.Resilience

/-- `half-open` is written `halfOpen`. -/
inductive CircuitState where
  | closed | opened | halfOpen
  deriving DecidableEq

structure CircuitBreakerOptions where
  failureThreshold : Option Int
  cooldownMs : Option Int

structure CircuitBreaker where
  failureThreshold : Int
  cooldownMs : Int
  failures : Int
  openedAt : Option Instant
  halfOpenInFlight : Bool
  deriving DecidableEq

def CircuitBreakerOptions.breaker (options : CircuitBreakerOptions) : CircuitBreaker where
  failureThreshold := max 1 (options.failureThreshold.getD 3)
  cooldownMs := max 0 (options.cooldownMs.getD 30000)
  failures := 0
  openedAt := none
  halfOpenInFlight := false

variable (succeeded : Bool)

namespace CircuitBreaker

variable (breaker : CircuitBreaker)

def state (now : Instant) : CircuitState :=
  match breaker.openedAt with
  | none => .closed
  | some openedAt => if breaker.cooldownMs ≤ now - openedAt then .halfOpen else .opened

def recordSuccess : CircuitBreaker :=
  { breaker with failures := 0, openedAt := none, halfOpenInFlight := false }

def recordFailure (now : Instant) : CircuitBreaker :=
  let failed := { breaker with halfOpenInFlight := false, failures := breaker.failures + 1 }
  if breaker.openedAt.isSome then { failed with openedAt := some now }
  else if breaker.failureThreshold ≤ failed.failures then { failed with openedAt := some now }
  else failed

/-- What `execute` does before it calls the operation: unless it throws, it tells whether the
operation is the probe. -/
def letThrough (now : Instant) : Option (CircuitBreaker × Bool) :=
  match breaker.state now with
  | .closed => some (breaker, false)
  | .opened => none
  | .halfOpen =>
    if breaker.halfOpenInFlight then none else some ({ breaker with halfOpenInFlight := true }, true)

/-- What `execute` does once the operation has settled. -/
def settle (succeeded : Bool) (now : Instant) : CircuitBreaker :=
  if succeeded then breaker.recordSuccess else breaker.recordFailure now

end CircuitBreaker

abbrev OperationId := Nat

/-- The breaker at an instant, with the operations that are in flight and which of them are
probes. -/
structure Traffic where
  breaker : CircuitBreaker
  now : Instant
  inFlight : List (OperationId × Bool)
  deriving DecidableEq

inductive TrafficEvent where
  | executes (operation : OperationId)
  | settles (operation : OperationId) (succeeded : Bool)
  | passes (ms : Nat)
  deriving DecidableEq

namespace Traffic

variable (traffic : Traffic)

def runs (operation : OperationId) : Bool :=
  traffic.inFlight.any fun running => running.1 == operation

def probes : Nat :=
  traffic.inFlight.countP (·.2)

/-- An operation that is refused changes nothing; one that is in flight settles some time. -/
def step : TrafficEvent → Option Traffic
  | .executes operation =>
    if traffic.runs operation then none
    else
      match traffic.breaker.letThrough traffic.now with
      | none => some traffic
      | some (breaker, probe) =>
        some { traffic with breaker, inFlight := (operation, probe) :: traffic.inFlight }
  | .settles operation succeeded =>
    if traffic.runs operation then
      some { traffic with
        breaker := traffic.breaker.settle succeeded traffic.now
        inFlight := traffic.inFlight.filter fun running => running.1 != operation }
    else none
  | .passes ms => some { traffic with now := traffic.now + ms }

/-- The operation is started: it is in flight only afterwards. -/
def Starts (traffic traffic' : Traffic) (operation : OperationId) : Prop :=
  traffic.runs operation = false ∧ traffic'.runs operation = true

/-- An operation that settles while the breaker is not closed is the probe; or there is none, and it
fails or the cooldown is over. -/
def ToldApart (traffic : Traffic) : TrafficEvent → Prop
  | .settles operation succeeded => traffic.breaker.openedAt = none ∨
      (operation, true) ∈ traffic.inFlight ∨ (traffic.breaker.halfOpenInFlight = false ∧
        (succeeded = false ∨ traffic.breaker.state traffic.now = .halfOpen))
  | .executes _ | .passes _ => True

instance (traffic : Traffic) (event : TrafficEvent) : Decidable (traffic.ToldApart event) := by
  cases event <;> unfold ToldApart <;> infer_instance

end Traffic

structure TrafficMove where
  before : Traffic
  event : TrafficEvent
  after : Traffic
  deriving DecidableEq

inductive TrafficRun (first : Traffic) : List TrafficMove → Traffic → Prop where
  | nil : TrafficRun first [] first
  | step {moves : List TrafficMove} {before after : Traffic} (event : TrafficEvent)
      (run : TrafficRun first moves before) (stepped : before.step event = some after) :
        TrafficRun first (moves ++ [⟨before, event, after⟩]) after

def Traffic.movesOf (traffic : Traffic) : List TrafficEvent → Option (List TrafficMove × Traffic)
  | [] => some ([], traffic)
  | event :: events => do
      let next ← traffic.step event
      let (moves, last) ← next.movesOf events
      return (⟨traffic, event, next⟩ :: moves, last)

theorem TrafficRun.append {first before last : Traffic} {moves later : List TrafficMove}
    {events : List TrafficEvent} (run : TrafficRun first moves before)
    (isLater : before.movesOf events = some (later, last)) : TrafficRun first (moves ++ later) last := by
  induction events generalizing moves before later with
  | nil =>
    cases isLater
    rwa [List.append_nil]
  | cons event events ih =>
    obtain ⟨next, stepped, rest⟩ := Option.bind_eq_some_iff.1 isLater
    obtain ⟨⟨following, end_⟩, isFollowing, eq⟩ := Option.bind_eq_some_iff.1 rest
    cases eq
    rw [List.append_cons]
    exact ih (run.step event stepped) isFollowing

theorem TrafficRun.of_movesOf {first last : Traffic} {moves : List TrafficMove}
    {events : List TrafficEvent} (isMoves : first.movesOf events = some (moves, last)) :
    TrafficRun first moves last :=
  TrafficRun.nil.append isMoves

section

variable {breaker admitted : CircuitBreaker} {probe : Bool} {now : Instant}

theorem letThrough_cases (isAdmitted : breaker.letThrough now = some (admitted, probe)) :
    (breaker.openedAt = none ∧ admitted = breaker ∧ probe = false) ∨
      (∃ openedAt, breaker.openedAt = some openedAt ∧ openedAt + breaker.cooldownMs ≤ now ∧
        breaker.halfOpenInFlight = false ∧ admitted = { breaker with halfOpenInFlight := true } ∧
          probe = true) := by
  unfold CircuitBreaker.letThrough CircuitBreaker.state at isAdmitted
  cases isOpen : breaker.openedAt with
  | none =>
    rw [isOpen] at isAdmitted
    cases isAdmitted
    exact .inl ⟨rfl, rfl, rfl⟩
  | some openedAt =>
    rw [isOpen] at isAdmitted
    dsimp only at isAdmitted
    by_cases isOver : breaker.cooldownMs ≤ now - openedAt
    · rw [if_pos isOver] at isAdmitted
      cases inFlight : breaker.halfOpenInFlight with
      | true =>
        rw [inFlight] at isAdmitted
        cases isAdmitted
      | false =>
        rw [inFlight] at isAdmitted
        cases isAdmitted
        exact .inr ⟨openedAt, rfl, by linarith, rfl, rfl, rfl⟩
    · rw [if_neg isOver] at isAdmitted
      cases isAdmitted

@[simp] theorem settle_halfOpenInFlight :
    (breaker.settle succeeded now).halfOpenInFlight = false := by
  unfold CircuitBreaker.settle CircuitBreaker.recordSuccess CircuitBreaker.recordFailure
  grind

@[simp] theorem settle_cooldownMs :
    (breaker.settle succeeded now).cooldownMs = breaker.cooldownMs := by
  unfold CircuitBreaker.settle CircuitBreaker.recordSuccess CircuitBreaker.recordFailure
  grind

/-- A failure opens an open breaker again; a success closes it. -/
theorem settle_openedAt (isOpen : breaker.openedAt ≠ none) :
    (breaker.settle succeeded now).openedAt = if succeeded then none else some now := by
  cases succeeded with
  | true => rfl
  | false =>
    have isSome : breaker.openedAt.isSome = true := Option.isSome_iff_ne_none.2 isOpen
    simp [CircuitBreaker.settle, CircuitBreaker.recordFailure, isSome]

theorem settle_openedAt_eq {succeeded : Bool} {openedAt : Instant}
    (opens : (breaker.settle succeeded now).openedAt = some openedAt) : openedAt = now := by
  cases succeeded with
  | true => cases opens
  | false =>
    unfold CircuitBreaker.settle CircuitBreaker.recordFailure at opens
    grind

variable {before after : Traffic} {event : TrafficEvent}

theorem step_cases (stepped : before.step event = some after) :
    (∃ operation, event = .executes operation ∧ before.runs operation = false ∧
      (after = before ∨ ∃ breaker probe, before.breaker.letThrough before.now = some (breaker, probe) ∧
        after = { before with breaker, inFlight := (operation, probe) :: before.inFlight })) ∨
    (∃ operation succeeded, event = .settles operation succeeded ∧ after =
      { before with
        breaker := before.breaker.settle succeeded before.now
        inFlight := before.inFlight.filter fun running => running.1 != operation }) ∨
    ∃ ms : Nat, event = .passes ms ∧ after = { before with now := before.now + ms } := by
  cases event with
  | executes operation =>
    rw [Traffic.step] at stepped
    split at stepped
    next => cases stepped
    next notRunning =>
      refine .inl ⟨operation, rfl, Bool.eq_false_iff.2 notRunning, ?_⟩
      split at stepped
      next =>
        cases stepped
        exact .inl rfl
      next breaker probe isAdmitted =>
        cases stepped
        exact .inr ⟨breaker, probe, isAdmitted, rfl⟩
  | settles operation succeeded =>
    rw [Traffic.step] at stepped
    split at stepped
    next =>
      cases stepped
      exact .inr (.inl ⟨operation, succeeded, rfl, rfl⟩)
    next => cases stepped
  | passes ms =>
    cases stepped
    exact .inr (.inr ⟨ms, rfl, rfl⟩)

end

/-- There is a probe in flight exactly when the breaker says so, and only after the cooldown. -/
structure Probed (traffic : Traffic) : Prop where
  probes : traffic.probes = if traffic.breaker.halfOpenInFlight then 1 else 0
  halfOpen : traffic.breaker.halfOpenInFlight = true →
    ∃ openedAt, traffic.breaker.openedAt = some openedAt ∧
      openedAt + traffic.breaker.cooldownMs ≤ traffic.now
  past : ∀ openedAt, traffic.breaker.openedAt = some openedAt → openedAt ≤ traffic.now

/-- The breaker opened at an instant: it is open since then or later, or the cooldown is over. -/
structure OpenedAt (openedAt : Instant) (traffic : Traffic) : Prop where
  past : openedAt ≤ traffic.now
  waits : openedAt + traffic.breaker.cooldownMs ≤ traffic.now ∨
    ∃ since, traffic.breaker.openedAt = some since ∧ openedAt ≤ since

section

variable {before after : Traffic} {event : TrafficEvent} {openedAt : Instant}

section

variable (probed : Probed before)
include probed

theorem Probed.flag_of_closed (closed : before.breaker.openedAt = none) :
    before.breaker.halfOpenInFlight = false := by
  rw [Bool.eq_false_iff]
  intro inFlight
  obtain ⟨openedAt, isOpen, -⟩ := probed.halfOpen inFlight
  rw [closed] at isOpen
  cases isOpen

theorem Probed.flag_of_probe {operation : OperationId}
    (isProbe : (operation, true) ∈ before.inFlight) : before.breaker.halfOpenInFlight = true := by
  by_contra notInFlight
  have none_ := probed.probes
  rw [if_neg notInFlight] at none_
  exact (List.countP_eq_zero.1 none_) _ isProbe rfl

theorem Probed.no_probe_left {operation : OperationId} {succeeded : Bool}
    (toldApart : before.ToldApart (.settles operation succeeded)) :
    (before.inFlight.filter fun running => running.1 != operation).countP (·.2) = 0 := by
  have fewer : (before.inFlight.filter fun running => running.1 != operation).countP (·.2) ≤
      before.probes := List.filter_sublist.countP_le
  have ofNoFlag : before.breaker.halfOpenInFlight = false →
      (before.inFlight.filter fun running => running.1 != operation).countP (·.2) = 0 := by
    intro noFlag
    have none_ := probed.probes
    rw [noFlag, if_neg Bool.false_ne_true] at none_
    omega
  rcases toldApart with closed | isProbe | ⟨noFlag, -⟩
  · exact ofNoFlag (probed.flag_of_closed closed)
  · have one := probed.probes
    rw [probed.flag_of_probe isProbe, if_pos rfl] at one
    rw [List.countP_filter]
    by_contra some_
    -- the probe that settles and the one that is left are two
    have left : (before.inFlight.filter (·.2)).length = 1 := List.countP_eq_length_filter ▸ one
    obtain ⟨single, isSingle⟩ := List.length_eq_one_iff.1 left
    obtain ⟨other, isOther, holds⟩ := List.countP_pos_iff.1 (Nat.pos_of_ne_zero some_)
    obtain ⟨otherProbes, differs⟩ := Bool.and_eq_true_iff.1 holds
    have first : (operation, true) ∈ before.inFlight.filter (·.2) :=
      List.mem_filter.2 ⟨isProbe, rfl⟩
    have second : other ∈ before.inFlight.filter (·.2) := List.mem_filter.2 ⟨isOther, otherProbes⟩
    rw [isSingle, List.mem_singleton] at first second
    rw [second, ← first] at differs
    simp at differs
  · exact ofNoFlag noFlag

theorem Probed.step (toldApart : before.ToldApart event)
    (stepped : before.step event = some after) : Probed after := by
  rcases step_cases stepped with ⟨operation, rfl, -, rfl | ⟨breaker, probe, isAdmitted, rfl⟩⟩ |
    ⟨operation, succeeded, rfl, rfl⟩ | ⟨ms, rfl, rfl⟩
  · exact probed
  · rcases letThrough_cases isAdmitted with ⟨closed, rfl, rfl⟩ |
      ⟨openedAt, isOpen, isOver, noFlag, rfl, rfl⟩
    · exact ⟨by simpa [Traffic.probes] using probed.probes, probed.halfOpen, probed.past⟩
    · have none_ := probed.probes
      rw [noFlag, if_neg Bool.false_ne_true] at none_
      refine ⟨?_, fun _ => ⟨openedAt, isOpen, isOver⟩, probed.past⟩
      simpa [Traffic.probes] using none_
  · refine ⟨?_, ?_, ?_⟩
    · rw [settle_halfOpenInFlight, if_neg Bool.false_ne_true]
      exact probed.no_probe_left toldApart
    · intro inFlight
      rw [settle_halfOpenInFlight] at inFlight
      cases inFlight
    · intro openedAt opens
      exact (settle_openedAt_eq opens).le
  · refine ⟨probed.probes, fun inFlight => ?_, fun openedAt isOpen => ?_⟩
    · obtain ⟨openedAt, isOpen, isOver⟩ := probed.halfOpen inFlight
      exact ⟨openedAt, isOpen, isOver.trans (Int.le_add_of_nonneg_right (Int.natCast_nonneg ms))⟩
    · exact (probed.past openedAt isOpen).trans (Int.le_add_of_nonneg_right (Int.natCast_nonneg ms))

end

theorem step_cooldownMs (stepped : before.step event = some after) :
    after.breaker.cooldownMs = before.breaker.cooldownMs := by
  rcases step_cases stepped with ⟨operation, rfl, -, rfl | ⟨breaker, probe, isAdmitted, rfl⟩⟩ |
    ⟨operation, succeeded, rfl, rfl⟩ | ⟨ms, rfl, rfl⟩
  · rfl
  · rcases letThrough_cases isAdmitted with ⟨-, rfl, -⟩ | ⟨-, -, -, -, rfl, -⟩ <;> rfl
  · exact settle_cooldownMs succeeded
  · rfl

theorem OpenedAt.starts (opened : OpenedAt openedAt before) {operation : OperationId}
    (stepped : before.step event = some after) (starts : before.Starts after operation) :
    openedAt + before.breaker.cooldownMs ≤ before.now := by
  rcases opened.waits with isOver | ⟨since, isOpen, later⟩
  · exact isOver
  obtain ⟨notRunning, running⟩ := starts
  rcases step_cases stepped with ⟨_, rfl, -, rfl | ⟨breaker, probe, isAdmitted, rfl⟩⟩ |
    ⟨settled, succeeded, rfl, rfl⟩ | ⟨ms, rfl, rfl⟩
  · rw [notRunning] at running
    cases running
  · rcases letThrough_cases isAdmitted with ⟨closed, -, -⟩ | ⟨again, isAgain, isOver, -, -, -⟩
    · rw [closed] at isOpen
      cases isOpen
    · rw [isOpen, Option.some.injEq] at isAgain
      subst isAgain
      exact (Int.add_le_add_right later _).trans isOver
  · obtain ⟨run, isRun, isOperation⟩ := List.any_eq_true.1 running
    have wasRunning : before.runs operation = true :=
      List.any_eq_true.2 ⟨run, (List.mem_filter.1 isRun).1, isOperation⟩
    rw [notRunning] at wasRunning
    cases wasRunning
  · have still : before.runs operation = true := running
    rw [notRunning] at still
    cases still

theorem OpenedAt.step (opened : OpenedAt openedAt before) (probed : Probed before)
    (toldApart : before.ToldApart event) (stepped : before.step event = some after) :
    OpenedAt openedAt after := by
  rcases step_cases stepped with ⟨operation, rfl, -, rfl | ⟨breaker, probe, isAdmitted, rfl⟩⟩ |
    ⟨operation, succeeded, rfl, rfl⟩ | ⟨ms, rfl, rfl⟩
  · exact opened
  · rcases letThrough_cases isAdmitted with ⟨-, rfl, -⟩ | ⟨-, -, -, -, rfl, -⟩
    · exact ⟨opened.past, opened.waits⟩
    · exact ⟨opened.past, opened.waits⟩
  · refine ⟨opened.past, ?_⟩
    rw [settle_cooldownMs]
    rcases opened.waits with isOver | ⟨since, isOpen, later⟩
    · exact .inl isOver
    have notClosed : before.breaker.openedAt ≠ none := isOpen ▸ Option.some_ne_none since
    -- an opening that is told apart waits at least for the cooldown of the last one
    have ofOver : ∀ again, before.breaker.openedAt = some again →
        again + before.breaker.cooldownMs ≤ before.now →
        openedAt + before.breaker.cooldownMs ≤ before.now := by
      intro again isAgain isOver
      rw [isOpen, Option.some.injEq] at isAgain
      subst isAgain
      exact (Int.add_le_add_right later _).trans isOver
    cases succeeded with
    | false => exact .inr ⟨before.now, settle_openedAt false notClosed, opened.past⟩
    | true =>
      left
      rcases toldApart with closed | isProbe | ⟨-, failed | halfOpen⟩
      · exact absurd closed notClosed
      · obtain ⟨again, isAgain, isOver⟩ := probed.halfOpen (probed.flag_of_probe isProbe)
        exact ofOver again isAgain isOver
      · cases failed
      · refine ofOver since isOpen ?_
        simp only [CircuitBreaker.state, isOpen] at halfOpen
        split at halfOpen
        next isOver => linarith
        next => cases halfOpen
  · have later : before.now ≤ before.now + ms := Int.le_add_of_nonneg_right (Int.natCast_nonneg ms)
    refine ⟨opened.past.trans later, ?_⟩
    rcases opened.waits with isOver | since
    · exact .inl (isOver.trans later)
    · exact .inr since

end

/-- After the breaker opened at some time, no operation is started before the cooldown is over. -/
def CooldownKept (cooldownMs : Int) (moves : List TrafficMove) : Prop :=
  moves.Pairwise fun opening starting => ∀ openedAt operation,
    opening.after.breaker.openedAt = some openedAt →
      starting.before.Starts starting.after operation → openedAt + cooldownMs ≤ starting.before.now

/-- While the breaker is half-open, at most one probe is in flight. -/
def SingleProbe (moves : List TrafficMove) : Prop :=
  ∀ move ∈ moves, move.after.breaker.state move.after.now = .halfOpen → move.after.probes ≤ 1

def CircuitBreakerOptions.traffic (options : CircuitBreakerOptions) (now : Instant) : Traffic where
  breaker := options.breaker
  now := now
  inFlight := []

section

variable {options : CircuitBreakerOptions} {start : Instant} {moves : List TrafficMove} {last : Traffic}

section

variable (run : TrafficRun (options.traffic start) moves last)
include run

theorem TrafficRun.cooldownMs : last.breaker.cooldownMs = options.breaker.cooldownMs := by
  induction run with
  | nil => rfl
  | step event run stepped kept => rw [step_cooldownMs stepped, kept]

section

variable (toldApart : ∀ move ∈ moves, move.before.ToldApart move.event)
include toldApart

theorem TrafficRun.probed : Probed last := by
  induction run with
  | nil =>
    refine ⟨rfl, fun inFlight => ?_, fun openedAt isOpen => ?_⟩
    · cases inFlight
    · cases isOpen
  | step event run stepped kept =>
    obtain ⟨earlier, told⟩ := List.forall_mem_append.1 toldApart
    rw [List.forall_mem_singleton] at told
    exact (kept earlier).step told stepped

/-- What was open once stays open until the cooldown is over. -/
theorem TrafficRun.opened :
    ∀ move ∈ moves, ∀ openedAt, move.after.breaker.openedAt = some openedAt →
      OpenedAt openedAt last := by
  induction run with
  | nil => exact fun move isMove => absurd isMove List.not_mem_nil
  | @step moves before after event run stepped kept =>
    obtain ⟨earlier, told⟩ := List.forall_mem_append.1 toldApart
    rw [List.forall_mem_singleton] at told
    have probed : Probed before := run.probed earlier
    refine List.forall_mem_append.2 ⟨fun move isMove openedAt isOpen => ?_, ?_⟩
    · exact (kept earlier move isMove openedAt isOpen).step probed told stepped
    · rw [List.forall_mem_singleton]
      intro openedAt isOpen
      exact ⟨(probed.step told stepped).past openedAt isOpen, .inr ⟨openedAt, isOpen, le_rfl⟩⟩

theorem TrafficRun.cooldownKept : CooldownKept options.breaker.cooldownMs moves := by
  induction run with
  | nil => exact List.Pairwise.nil
  | @step moves before after event run stepped kept =>
    obtain ⟨earlier, -⟩ := List.forall_mem_append.1 toldApart
    refine List.pairwise_append.2 ⟨kept earlier, List.pairwise_singleton _ _, ?_⟩
    intro opening isOpening starting isStarting openedAt operation isOpen starts
    cases List.mem_singleton.1 isStarting
    rw [← run.cooldownMs]
    exact (run.opened earlier opening isOpening openedAt isOpen).starts stepped starts

theorem TrafficRun.singleProbe : SingleProbe moves := by
  induction run with
  | nil => exact fun move isMove => absurd isMove List.not_mem_nil
  | @step moves before after event run stepped kept =>
    obtain ⟨earlier, told⟩ := List.forall_mem_append.1 toldApart
    refine List.forall_mem_append.2 ⟨kept earlier, ?_⟩
    rw [List.forall_mem_singleton] at told ⊢
    intro _
    rw [((run.probed earlier).step told stepped).probes]
    split <;> decide

end

end

/-- When every operation that settles is told apart, an open breaker waits for the cooldown and a
half-open one lets one operation probe. -/
theorem breaker_timing (run : TrafficRun (options.traffic start) moves last)
    (toldApart : ∀ move ∈ moves, move.before.ToldApart move.event) :
    CooldownKept options.breaker.cooldownMs moves ∧ SingleProbe moves :=
  ⟨run.cooldownKept toldApart, run.singleProbe toldApart⟩

end

def CircuitBreakerOptions.firstFailure : CircuitBreakerOptions where
  failureThreshold := some 1
  cooldownMs := none

/-- After the cooldown one operation probes, and another is refused meanwhile. -/
theorem breaker_timing_probe : ∃ moves last,
    TrafficRun (CircuitBreakerOptions.firstFailure.traffic 0) moves last ∧ moves.length = 7 ∧
      CooldownKept 30000 moves ∧ SingleProbe moves := by
  have isMoves : (CircuitBreakerOptions.firstFailure.traffic 0).movesOf [.executes 1,
      .settles 1 false, .passes 30000, .executes 2, .executes 3, .settles 2 true, .executes 4] =
      some _ := rfl
  have run := TrafficRun.of_movesOf isMoves
  exact ⟨_, _, run, rfl, breaker_timing run (by decide)⟩

/-- Of two operations that started together one fails and opens the breaker.  When the other
succeeds it closes it, and a third operation starts at once; when it fails during the probe, a
second one probes. -/
theorem breaker_timing_late : (∃ moves last,
      TrafficRun (CircuitBreakerOptions.firstFailure.traffic 0) moves last ∧
        ¬ CooldownKept 30000 moves) ∧
    ∃ moves last, TrafficRun (CircuitBreakerOptions.firstFailure.traffic 0) moves last ∧
      ¬ SingleProbe moves := by
  constructor
  · have isMoves : (CircuitBreakerOptions.firstFailure.traffic 0).movesOf [.executes 1, .executes 2,
        .settles 2 false, .settles 1 true, .executes 3] = some _ := rfl
    refine ⟨_, _, TrafficRun.of_movesOf isMoves, fun kept => ?_⟩
    have waited : (0 : Instant) + 30000 ≤ 0 :=
      List.pairwise_iff_getElem.1 kept 2 4 (by decide) (by decide) (by decide) 0 3 rfl ⟨rfl, rfl⟩
    exact absurd waited (by decide)
  · have isMoves : (CircuitBreakerOptions.firstFailure.traffic 0).movesOf [.executes 1, .executes 2,
        .settles 2 false, .passes 30000, .executes 3, .settles 1 false, .passes 30000, .executes 4] =
        some _ := rfl
    refine ⟨_, _, TrafficRun.of_movesOf isMoves, fun single => ?_⟩
    have one : 2 ≤ 1 := single _ (List.getElem_mem (n := 7) (by decide)) rfl
    exact absurd one (by decide)

end Sokar.Resilience
