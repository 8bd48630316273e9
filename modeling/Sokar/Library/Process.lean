import Mathlib.Logic.Function.Basic
import Mathlib.Logic.Relation

/-!
# Interleaved programs over a shared state

A program is a sequence of atomic steps over a shared state; what it does next
may depend on the state a step was taken in.  Any number of sessions run their
programs in any interleaving, may stop at any point, and the environment may move
the state on its own.

The module gives a rely-guarantee discipline for such systems: a global
invariant, what the steps of each session may do, and rules to check a program
against them session by session.  Checked programs keep the invariant, and their
results meet their postconditions, in every reachable configuration.
-/

namespace Process

/-- A program over the shared state `σ` that returns an `α`.  A step waits until
the state is `ready`. -/
inductive Prog (σ α : Type) : Type where
  | done (value : α)
  | step (ready : σ → Bool) (run : σ → σ) (next : σ → Prog σ α)

variable {σ α β : Type}

variable (view : σ → α)

namespace Prog

def bind : Prog σ α → (α → Prog σ β) → Prog σ β
  | .done value, rest => rest value
  | .step ready run next, rest => .step ready run fun s => (next s).bind rest

instance : Monad (Prog σ) where
  pure := .done
  bind := bind

def read : Prog σ α :=
  .step (fun _ => true) id fun s => .done (view s)

/-- Change the state and return a value read before the change. -/
def update (change : σ → σ) : Prog σ α :=
  .step (fun _ => true) change fun s => .done (view s)

/-- Wait for a condition, then change the state. -/
def await (ready : σ → Bool) (change : σ → σ) : Prog σ Unit :=
  .step ready change fun _ => .done ()

/-- Go on with a value, or stop at an error. -/
def andThen {ε : Type} (first : Prog σ (Except ε α)) (rest : α → Prog σ (Except ε β)) :
    Prog σ (Except ε β) :=
  first >>= fun result => match result with
    | .error error => pure (.error error)
    | .ok value => rest value

/-- Run a program to its end with nothing else going on; a step that is not ready
blocks for good. -/
def run : Prog σ α → σ → Option (α × σ)
  | .done value, s => some (value, s)
  | .step ready change next, s => if ready s then (next s).run (change s) else none

def within {τ : Type} (view : τ → σ) (put : σ → τ → τ) : Prog σ α → Prog τ α
  | .done value => .done value
  | .step ready run next =>
    .step (fun t => ready (view t)) (fun t => put (run (view t)) t) fun t =>
      (next (view t)).within view put

/-- Whatever states its steps are taken in, the program returns what meets the condition. -/
def Returns (meets : α → Prop) : Prog σ α → Prop
  | .done value => meets value
  | .step ready _ next => ∀ s, ready s = true → (next s).Returns meets

theorem Returns.any (prog : Prog σ α) : prog.Returns fun _ => True := by
  induction prog with
  | done value => trivial
  | step ready run next ih => exact fun s _ => ih s

theorem Returns.read {meets : α → Prop} {view : σ → α} (holds : ∀ s, meets (view s)) :
    (read view).Returns meets :=
  fun s _ => holds s

theorem Returns.bind {meets : α → Prop} {final : β → Prop} {first : Prog σ α}
    {rest : α → Prog σ β} (returns : first.Returns meets)
    (returnsRest : ∀ value, meets value → (rest value).Returns final) :
    (first >>= rest).Returns final := by
  induction first with
  | done value => exact returnsRest value returns
  | step ready run next ih => exact fun s isReady => ih s (returns s isReady)

theorem bind_assoc {γ : Type} (first : Prog σ α) (middle : α → Prog σ β) (rest : β → Prog σ γ) :
    first >>= middle >>= rest = first >>= fun value => middle value >>= rest := by
  induction first with
  | done value => rfl
  | step ready run next ih =>
    exact congrArg (Prog.step ready run) (funext ih)

@[simp] theorem run_pure (value : α) (s : σ) : (pure value : Prog σ α).run s = some (value, s) :=
  rfl

@[simp] theorem run_bind (first : Prog σ α) (rest : α → Prog σ β) (s : σ) :
    (first >>= rest).run s = (first.run s).bind fun result => (rest result.1).run result.2 := by
  induction first generalizing s with
  | done value => rfl
  | step ready change next ih =>
    change (Prog.step ready change fun s => next s >>= rest).run s = _
    cases isReady : ready s with
    | false => simp [run, isReady]
    | true => simp [run, isReady, ih]

theorem run_andThen_ok {ε : Type} {first : Prog σ (Except ε α)} {s s' : σ} {value : α}
    (ran : first.run s = some (.ok value, s')) (rest : α → Prog σ (Except ε β)) :
    (first.andThen rest).run s = (rest value).run s' := by
  rw [andThen, run_bind, ran]
  rfl

theorem within_bind {τ : Type} (view : τ → σ) (put : σ → τ → τ) (first : Prog σ α)
    (rest : α → Prog σ β) :
    (first >>= rest).within view put =
      first.within view put >>= fun value => (rest value).within view put := by
  induction first with
  | done value => rfl
  | step ready run next ih =>
    have tails : (fun t => (next (view t) >>= rest).within view put) = fun t =>
        (next (view t)).within view put >>= fun value => (rest value).within view put :=
      funext fun t => ih (view t)
    exact congrArg (Prog.step (fun t => ready (view t)) (fun t => put (run (view t)) t)) tails

@[simp] theorem run_read (s : σ) : (read view).run s = some (view s, s) := rfl

@[simp] theorem run_update (change : σ → σ) (s : σ) :
    (update view change).run s = some (view s, change s) := rfl

end Prog

/-- The shared state and what each running session has left to do. -/
structure Config (Session σ α : Type) where
  shared : σ
  procs : Session → Option (Prog σ α)

/-- A family of programs, one for each session, with what a crash of a session
undoes and what the environment may do. -/
structure System (Session σ α : Type) where
  code : Session → Prog σ α
  crash : Session → σ → σ
  tick : σ → σ → Prop

variable {Session : Type}

/-- What a session has returned, once it is done. -/
def Config.result? (c : Config Session σ α) (i : Session) : Option α :=
  match c.procs i with
  | some (.done value) => some value
  | _ => none

theorem Config.procs_of_result? {c : Config Session σ α} {i : Session} {value : α}
    (returned : c.result? i = some value) : c.procs i = some (.done value) := by
  unfold result? at returned
  split at returned
  next atEnd =>
    cases returned
    exact atEnd
  next => cases returned

section

variable [DecidableEq Session]

/-- One step of the system: a session starts, takes its next step or stops for good
halfway, or the environment moves. -/
inductive System.Step (sys : System Session σ α) :
    Config Session σ α → Config Session σ α → Prop where
  | start {c : Config Session σ α} (i : Session) : c.procs i = none →
      Step sys c { c with procs := Function.update c.procs i (some (sys.code i)) }
  | act {c : Config Session σ α} (i : Session) {ready : σ → Bool} {run : σ → σ}
      {next : σ → Prog σ α} : c.procs i = some (.step ready run next) → ready c.shared = true →
      Step sys c
        { shared := run c.shared
          procs := Function.update c.procs i (some (next c.shared)) }
  | crash {c : Config Session σ α} (i : Session) {prog : Prog σ α} : c.procs i = some prog →
      Step sys c
        { shared := sys.crash i c.shared, procs := Function.update c.procs i none }
  | tick {c : Config Session σ α} {shared : σ} : sys.tick c.shared shared →
      Step sys c { c with shared }

def System.Reaches (sys : System Session σ α) : Config Session σ α → Config Session σ α → Prop :=
  Relation.ReflTransGen sys.Step

/-- What a session did to the shared state in one step. -/
structure Move (Session σ : Type) where
  session : Session
  before : σ
  after : σ

inductive System.Run (sys : System Session σ α) (first : Config Session σ α) :
    List (Move Session σ) → Config Session σ α → Prop where
  | nil : Run sys first [] first
  | start {moves : List (Move Session σ)} {c : Config Session σ α} (i : Session) :
      Run sys first moves c → c.procs i = none →
        Run sys first moves { c with procs := Function.update c.procs i (some (sys.code i)) }
  | act {moves : List (Move Session σ)} {c : Config Session σ α} (i : Session)
      {ready : σ → Bool} {run : σ → σ} {next : σ → Prog σ α} :
      Run sys first moves c → c.procs i = some (.step ready run next) → ready c.shared = true →
        Run sys first (moves ++ [{ session := i, before := c.shared, after := run c.shared }])
          { shared := run c.shared
            procs := Function.update c.procs i (some (next c.shared)) }
  | crash {moves : List (Move Session σ)} {c : Config Session σ α} (i : Session)
      {prog : Prog σ α} : Run sys first moves c → c.procs i = some prog →
        Run sys first moves
          { shared := sys.crash i c.shared, procs := Function.update c.procs i none }
  | tick {moves : List (Move Session σ)} {c : Config Session σ α} {shared : σ} :
      Run sys first moves c → sys.tick c.shared shared →
        Run sys first moves { c with shared }

variable {sys : System Session σ α} {first c : Config Session σ α}

theorem System.Reaches.run (reaches : sys.Reaches first c) : ∃ moves, sys.Run first moves c := by
  induction reaches with
  | refl => exact ⟨[], .nil⟩
  | tail _ step ih =>
    obtain ⟨moves, run⟩ := ih
    cases step with
    | start i idle => exact ⟨moves, run.start i idle⟩
    | act i atStep isReady => exact ⟨_, run.act i atStep isReady⟩
    | crash i running => exact ⟨moves, run.crash i running⟩
    | tick moved => exact ⟨moves, run.tick moved⟩

variable {moves : List (Move Session σ)}

theorem System.Run.reaches (run : sys.Run first moves c) : sys.Reaches first c := by
  induction run with
  | nil => exact .refl
  | start i _ idle ih => exact ih.tail (.start i idle)
  | act i _ atStep isReady ih => exact ih.tail (.act i atStep isReady)
  | crash i _ running ih => exact ih.tail (.crash i running)
  | tick _ moved ih => exact ih.tail (.tick moved)

theorem System.Run.trans {first c c' : Config Session σ α} {moves more : List (Move Session σ)}
    (run : sys.Run first moves c) (rest : sys.Run c more c') :
    sys.Run first (moves ++ more) c' := by
  induction rest with
  | nil => exact (List.append_nil moves).symm ▸ run
  | start i _ idle ih => exact ih.start i idle
  | act i _ atStep isReady ih =>
    rw [← List.append_assoc]
    exact ih.act i atStep isReady
  | crash i _ running ih => exact ih.crash i running
  | tick _ moved ih => exact ih.tick moved

structure StatesRelated (related : σ → σ → Prop) (start finish : σ)
    (moves : List (Move Session σ)) : Prop where
  overall : related start finish
  ofStart : ∀ move ∈ moves, related start move.before
  toEnd : ∀ move ∈ moves, related move.after finish
  between : moves.Pairwise fun earlier later => related earlier.after later.before

/-- Nothing but a step lies between two states of a run. -/
theorem System.Run.related {related : σ → σ → Prop} (refl : ∀ s, related s s)
    (trans : ∀ {s s' s''}, related s s' → related s' s'' → related s s'')
    (crashes : ∀ i s, related s (sys.crash i s)) (ticks : ∀ {s s'}, sys.tick s s' → related s s')
    (run : sys.Run first moves c) (moved : ∀ move ∈ moves, related move.before move.after) :
    StatesRelated related first.shared c.shared moves := by
  have extended : ∀ {moves : List (Move Session σ)} {start middle finish : σ},
      StatesRelated related start middle moves → related middle finish →
        StatesRelated related start finish moves :=
    fun earlier step =>
      { overall := trans earlier.overall step
        ofStart := earlier.ofStart
        toEnd := fun move isMove => trans (earlier.toEnd move isMove) step
        between := earlier.between }
  induction run with
  | nil =>
    constructor
    · exact refl _
    · exact fun _ impossible => nomatch impossible
    · exact fun _ impossible => nomatch impossible
    · exact .nil
  | start i _ _ ih => exact ih moved
  | act i _ _ _ ih =>
    have earlier := ih fun move isMove => moved move (List.mem_append_left _ isMove)
    have step := moved _ (List.mem_append_right _ (List.mem_singleton_self _))
    have whole := extended earlier step
    constructor
    · exact whole.overall
    · intro move isMove
      rcases List.mem_append.1 isMove with before | last
      · exact earlier.ofStart move before
      · cases List.mem_singleton.1 last
        exact earlier.overall
    · intro move isMove
      rcases List.mem_append.1 isMove with before | last
      · exact whole.toEnd move before
      · cases List.mem_singleton.1 last
        exact refl _
    · rw [List.pairwise_append]
      refine ⟨earlier.between, List.pairwise_singleton _ _, fun move isMove last isLast => ?_⟩
      cases List.mem_singleton.1 isLast
      exact earlier.toEnd move isMove
  | crash i _ _ ih => exact extended (ih moved) (crashes i _)
  | tick _ ticked ih => exact extended (ih moved) (ticks ticked)

theorem System.Run.unharmed {settled : σ → Prop} {harm fair : Move Session σ → Prop}
    (harmless : ∀ (finds : Session → Prop) (moves : List (Move Session σ)) (c : Config Session σ α),
      sys.Run first moves c → (∀ move ∈ moves, fair move) →
        (∀ move ∈ moves, (finds move.session → settled move.before) ∧
          (harm move → finds move.session)) → ∀ move ∈ moves, ¬ harm move)
    (isSettled : ∀ move, harm move → settled move.before) (run : sys.Run first moves c)
    (isFair : ∀ move ∈ moves, fair move) (foundBefore : moves.Pairwise fun earlier later =>
      earlier.session = later.session → harm later → settled earlier.before) :
    ∀ move ∈ moves, ¬ harm move := by
  induction run with
  | nil => exact fun _ impossible => nomatch impossible
  | start i _ _ ih => exact ih isFair foundBefore
  | @act moves c i ready change next run atStep isReady ih =>
    obtain ⟨before, -, apart⟩ := List.pairwise_append.1 foundBefore
    have unharmed := ih (fun move isMove => isFair move (List.mem_append_left _ isMove)) before
    apply harmless (fun session => ∀ move ∈ moves ++ [⟨i, c.shared, change c.shared⟩],
      move.session = session → settled move.before) _ _ (run.act i atStep isReady) isFair
    intro move isMove
    constructor
    · exact fun finds => finds move isMove rfl
    intro harms other isOther sameSession
    have isLast : move = ⟨i, c.shared, change c.shared⟩ := by
      rcases List.mem_append.1 isMove with earlier | last
      · exact absurd harms (unharmed move earlier)
      · exact List.mem_singleton.1 last
    subst isLast
    rcases List.mem_append.1 isOther with earlier | last
    · exact apart other earlier _ (List.mem_singleton_self _) sameSession harms
    · rw [List.mem_singleton.1 last]
      exact isSettled _ harms
  | crash i _ _ ih => exact ih isFair foundBefore
  | tick _ _ ih => exact ih isFair foundBefore

/-- Let sessions take their next step in a given order, each started when its turn first
comes; a step that is not ready ends the schedule. -/
def System.schedule (sys : System Session σ α) :
    List Session → Config Session σ α → Option (List (Move Session σ) × Config Session σ α)
  | [], c => some ([], c)
  | i :: rest, c =>
    match c.procs i with
    | none =>
      sys.schedule rest { c with procs := Function.update c.procs i (some (sys.code i)) }
    | some (.done _) => none
    | some (.step ready run next) =>
      if ready c.shared then
        (sys.schedule rest
          { shared := run c.shared
            procs := Function.update c.procs i (some (next c.shared)) }).map fun result =>
              ({ session := i, before := c.shared, after := run c.shared } :: result.1, result.2)
      else none

theorem System.run_schedule {order : List Session}
    (scheduled : sys.schedule order first = some (moves, c)) : sys.Run first moves c := by
  induction order generalizing first moves with
  | nil =>
    cases scheduled
    exact .nil
  | cons i rest ih =>
    rw [schedule] at scheduled
    split at scheduled
    next idle =>
      have starts : sys.Run first [] _ := .start i .nil idle
      exact starts.trans (ih scheduled)
    next => cases scheduled
    next ready run next atStep =>
      split at scheduled
      next isReady =>
        obtain ⟨⟨later, last⟩, ran, same⟩ := Option.map_eq_some_iff.1 scheduled
        cases same
        have acts : sys.Run first [_] _ := .act i .nil atStep isReady
        exact acts.trans (ih ran)
      next => cases scheduled

variable (sys) in
theorem System.exists_run_of_schedule (order : List Session) (first : Config Session σ α)
    (shows : List (Move Session σ) → Config Session σ α → Prop)
    [∀ moves c, Decidable (shows moves c)] (scheduled : (sys.schedule order first).any
      (fun result => decide (shows result.1 result.2)) = true) :
    ∃ moves c, sys.Run first moves c ∧ shows moves c := by
  obtain ⟨⟨moves, c⟩, ran, shown⟩ := (Option.any_eq_true _ _).1 scheduled
  exact ⟨moves, c, run_schedule ran, of_decide_eq_true shown⟩

/-- Schedules one after the other, with the environment moving in between. -/
def System.schedules (sys : System Session σ α) (passes : σ → σ) :
    List (List Session) → Config Session σ α → Option (List (Move Session σ) × Config Session σ α)
  | [], c => some ([], c)
  | order :: rest, c =>
    (sys.schedule order c).bind fun result =>
      (sys.schedules passes rest
        { result.2 with shared := passes result.2.shared }).map fun more =>
          (result.1 ++ more.1, more.2)

section

variable {passes : σ → σ} (ticks : ∀ s, sys.tick s (passes s)) {orders : List (List Session)}
include ticks

theorem System.run_schedules (scheduled : sys.schedules passes orders first = some (moves, c)) :
    sys.Run first moves c := by
  induction orders generalizing first moves with
  | nil =>
    cases scheduled
    exact .nil
  | cons order rest ih =>
    obtain ⟨⟨earlier, middle⟩, ran, continued⟩ := Option.bind_eq_some_iff.1 scheduled
    obtain ⟨⟨later, last⟩, ranLater, same⟩ := Option.map_eq_some_iff.1 continued
    cases same
    exact ((run_schedule ran).tick (ticks _)).trans (ih ranLater)

variable (sys passes) in
theorem System.exists_run_of_schedules (orders : List (List Session))
    (first : Config Session σ α) (shows : List (Move Session σ) → Config Session σ α → Prop)
    [∀ moves c, Decidable (shows moves c)] (scheduled : (sys.schedules passes orders first).any
      (fun result => decide (shows result.1 result.2)) = true) :
    ∃ moves c, sys.Run first moves c ∧ shows moves c := by
  obtain ⟨⟨moves, c⟩, ran, shown⟩ := (Option.any_eq_true _ _).1 scheduled
  exact ⟨moves, c, run_schedules ticks ran, of_decide_eq_true shown⟩

end

theorem System.reaches_run (sys : System Session σ α) (i : Session) {prog : Prog σ α}
    {value : α} {s s' : σ} (ran : prog.run s = some (value, s'))
    (procs : Session → Option (Prog σ α)) :
    sys.Reaches { shared := s, procs := Function.update procs i (some prog) }
      { shared := s', procs := Function.update procs i (some (.done value)) } := by
  induction prog generalizing s with
  | done result =>
    cases ran
    exact .refl
  | step ready change next ih =>
    cases isReady : ready s with
    | false => simp [Prog.run, isReady] at ran
    | true =>
      simp only [Prog.run, isReady, if_true] at ran
      have moves : sys.Step
          { shared := s, procs := Function.update procs i (some (.step ready change next)) }
          { shared := change s, procs := Function.update procs i (some (next s)) } := by
        have idem : Function.update (Function.update procs i (some (.step ready change next)))
            i (some (next s)) = Function.update procs i (some (next s)) :=
          Function.update_idem ..
        rw [← idem]
        exact .act i (Function.update_self ..) isReady
      exact (ih s ran).head moves

end

/-- A configuration in which no session runs yet. -/
def Config.initial (shared : σ) : Config Session σ α :=
  { shared, procs := fun _ => none }

theorem System.reaches_alone [DecidableEq Session] (sys : System Session σ α) (i : Session)
    {value : α} {s s' : σ} (ran : (sys.code i).run s = some (value, s')) :
    sys.Reaches (.initial s)
      { shared := s', procs := Function.update (fun _ => none) i (some (.done value)) } := by
  have starts : sys.Step (.initial s) _ := .start i rfl
  exact (sys.reaches_run i ran _).head starts

/-- A global invariant and what the steps of each session, and the environment, may
do to the state, as long as every step meets a condition. -/
structure Discipline (Session σ : Type) where
  inv : σ → Prop
  guar : Session → σ → σ → Prop
  tick : σ → σ → Prop
  meets : Session → σ → σ → Prop := fun _ _ _ => True

namespace Discipline

variable (rules : Discipline Session σ) (i : Session)

/-- What session `i` may see happen between two of its steps. -/
def Rely (s s' : σ) : Prop :=
  rules.inv s ∧ rules.inv s' ∧ (rules.tick s s' ∨ ∃ j, j ≠ i ∧ rules.guar j s s')

def Interference : σ → σ → Prop :=
  Relation.ReflTransGen (rules.Rely i)

/-- No interference can make the assertion false. -/
def Stable (holds : σ → Prop) : Prop :=
  ∀ s s', rules.Rely i s s' → holds s → holds s'

/-- Whatever interferes, the rest of a program keeps to the discipline and its
result meets the postcondition. -/
def Safe (post : α → σ → Prop) : Prog σ α → σ → Prop
  | .done value, s => ∀ s', rules.Interference i s s' → post value s'
  | .step ready run next, s =>
    ∀ s', rules.Interference i s s' → rules.inv s' → ready s' = true →
      rules.meets i s' (run s') →
        rules.inv (run s') ∧ rules.guar i s' (run s') ∧ Safe post (next s') (run s')

/-- Started in a state where the assertion holds, the program is safe. -/
def Triple (pre : σ → Prop) (prog : Prog σ α) (post : α → σ → Prop) : Prop :=
  ∀ s, rules.inv s → pre s → rules.Safe i post prog s

variable {rules} {i}

theorem Stable.interference {holds : σ → Prop} (stable : rules.Stable i holds) {s s' : σ}
    (interference : rules.Interference i s s') (before : holds s) : holds s' := by
  induction interference with
  | refl => exact before
  | tail _ rely ih => exact stable _ _ rely ih

theorem Stable.and {left right : σ → Prop} (leftStable : rules.Stable i left)
    (rightStable : rules.Stable i right) : rules.Stable i fun s => left s ∧ right s :=
  fun s s' rely both => ⟨leftStable s s' rely both.1, rightStable s s' rely both.2⟩

theorem stable_const (fact : Prop) : rules.Stable i fun _ => fact :=
  fun _ _ _ holds => holds

variable {prog : Prog σ α}

theorem Safe.interference {post : α → σ → Prop} {s s' : σ} (safe : rules.Safe i post prog s)
    (interference : rules.Interference i s s') :
    rules.Safe i post prog s' := by
  cases prog with
  | done value => exact fun later more => safe later (interference.trans more)
  | step ready run next =>
    exact fun later more inv isReady => safe later (interference.trans more) inv isReady

theorem Safe.mono {post post' : α → σ → Prop} {s : σ} (safe : rules.Safe i post prog s)
    (weaker : ∀ value s, post value s → post' value s) :
    rules.Safe i post' prog s := by
  induction prog generalizing s with
  | done value => exact fun later interference => weaker _ _ (safe later interference)
  | step ready run next ih =>
    intro later interference inv isReady meets
    obtain ⟨inv', guar, rest⟩ := safe later interference inv isReady meets
    exact ⟨inv', guar, ih _ rest⟩

theorem Safe.bind {mid : α → σ → Prop} {post : β → σ → Prop} {first : Prog σ α}
    {second : α → Prog σ β} {s : σ} (inv : rules.inv s) (safe : rules.Safe i mid first s)
    (rest : ∀ value, rules.Triple i (mid value) (second value) post) :
    rules.Safe i post (first >>= second) s := by
  induction first generalizing s with
  | done value => exact rest value s inv (safe s .refl)
  | step ready run next ih =>
    intro later interference inv' isReady meets
    obtain ⟨invRun, guar, safeNext⟩ := safe later interference inv' isReady meets
    exact ⟨invRun, guar, ih _ invRun safeNext⟩

/-- What no step of the program and no interference makes false still holds in the end. -/
theorem Safe.frame {post : α → σ → Prop} {holds : σ → Prop} {s : σ}
    (kept : ∀ s s', rules.guar i s s' → holds s → holds s') (stable : rules.Stable i holds)
    (safe : rules.Safe i post prog s) (before : holds s) :
    rules.Safe i (fun value s => post value s ∧ holds s) prog s := by
  induction prog generalizing s with
  | done value =>
    exact fun later interference =>
      ⟨safe later interference, stable.interference interference before⟩
  | step ready run next ih =>
    intro later interference inv isReady meets
    obtain ⟨inv', guar, safeNext⟩ := safe later interference inv isReady meets
    refine ⟨inv', guar, ih _ safeNext ?_⟩
    exact kept _ _ guar (stable.interference interference before)

/-- Programs of a part of the state are safe over the whole, when what the others may do to
the whole is what they may do to the part, and what the program does to the part is allowed in
the whole. -/
theorem Safe.within {τ : Type} {whole : Discipline Session τ} {view : τ → σ} {put : σ → τ → τ}
    {post : α → σ → Prop} (view_put : ∀ s t, view (put s t) = s)
    (inv : ∀ t, whole.inv t → rules.inv (view t))
    (rely : ∀ t t', whole.Rely i t t' → rules.Rely i (view t) (view t'))
    (meets : ∀ t s, whole.meets i t (put s t) → rules.meets i (view t) s)
    (acts : ∀ t s, whole.inv t → rules.inv s → rules.guar i (view t) s →
      whole.inv (put s t) ∧ whole.guar i t (put s t)) {t : τ}
    (safe : rules.Safe i post prog (view t)) :
    whole.Safe i (fun value t => post value (view t)) (prog.within view put) t := by
  have interferes : ∀ {t t'}, whole.Interference i t t' →
      rules.Interference i (view t) (view t') := by
    intro t t' interference
    induction interference with
    | refl => exact .refl
    | tail _ step ih => exact ih.tail (rely _ _ step)
  induction prog generalizing t with
  | done value => exact fun later interference => safe _ (interferes interference)
  | step ready run next ih =>
    intro later interference invLater isReady met
    obtain ⟨invRun, guar, safeNext⟩ := safe _ (interferes interference) (inv _ invLater) isReady
      (meets _ _ met)
    obtain ⟨invPut, guarPut⟩ := acts _ _ invLater invRun guar
    refine ⟨invPut, guarPut, ih _ ?_⟩
    rw [view_put]
    exact safeNext

variable {pre : σ → Prop}

theorem Triple.bind {mid : α → σ → Prop} {post : β → σ → Prop} {first : Prog σ α}
    {second : α → Prog σ β} (firstTriple : rules.Triple i pre first mid)
    (rest : ∀ value, rules.Triple i (mid value) (second value) post) :
    rules.Triple i pre (first >>= second) post :=
  fun s inv holds => (firstTriple s inv holds).bind inv rest

theorem Triple.weaken {pre pre' : σ → Prop} {post post' : α → σ → Prop}
    (triple : rules.Triple i pre prog post) (stronger : ∀ s, rules.inv s → pre' s → pre s)
    (weaker : ∀ value s, post value s → post' value s) : rules.Triple i pre' prog post' :=
  fun s inv holds => (triple s inv (stronger s inv holds)).mono weaker

theorem Triple.pure {post : α → σ → Prop} {value : α} (stable : rules.Stable i (post value))
    (holds : ∀ s, rules.inv s → pre s → post value s) :
    rules.Triple i pre (Pure.pure value) post :=
  fun s inv before _ interference => stable.interference interference (holds s inv before)

/-- One atomic step, from an assertion that interference keeps. -/
theorem Triple.step {post : α → σ → Prop} {ready : σ → Bool} {run : σ → σ} {next : σ → Prog σ α}
    (stable : rules.Stable i pre)
    (keeps : ∀ s, rules.inv s → pre s → ready s = true → rules.meets i s (run s) →
      rules.inv (run s) ∧ rules.guar i s (run s))
    (rest : ∀ s, rules.inv s → pre s → ready s = true → rules.meets i s (run s) →
      rules.Safe i post (next s) (run s)) :
    rules.Triple i pre (.step ready run next) post := by
  intro s _ holds later interference inv isReady meets
  have still := stable.interference interference holds
  obtain ⟨invRun, guar⟩ := keeps later inv still isReady meets
  exact ⟨invRun, guar, rest later inv still isReady meets⟩

theorem Triple.readWhen {post : α → σ → Prop} {view : σ → α} (stable : rules.Stable i pre)
    (quiet : ∀ s, rules.guar i s s) (stablePost : ∀ value, rules.Stable i (post value))
    (holds : ∀ s, rules.inv s → pre s → rules.meets i s s → post (view s) s) :
    rules.Triple i pre (Prog.read view) post := by
  apply Triple.step stable
  · exact fun s inv _ _ _ => ⟨inv, quiet s⟩
  · exact fun s inv before _ meets _ interference =>
      (stablePost _).interference interference (holds s inv before meets)

theorem Triple.read {post : α → σ → Prop} {view : σ → α} (stable : rules.Stable i pre)
    (quiet : ∀ s, rules.guar i s s) (stablePost : ∀ value, rules.Stable i (post value))
    (holds : ∀ s, rules.inv s → pre s → post (view s) s) :
    rules.Triple i pre (Prog.read view) post :=
  Triple.readWhen stable quiet stablePost fun s inv before _ => holds s inv before

variable {change : σ → σ}

theorem Triple.updateWhen {post : α → σ → Prop} {view : σ → α} (stable : rules.Stable i pre)
    (stablePost : ∀ value, rules.Stable i (post value))
    (keeps : ∀ s, rules.inv s → pre s → rules.meets i s (change s) →
      rules.inv (change s) ∧ rules.guar i s (change s))
    (holds : ∀ s, rules.inv s → pre s → rules.meets i s (change s) → post (view s) (change s)) :
    rules.Triple i pre (Prog.update view change) post := by
  apply Triple.step stable
  · exact fun s inv before _ meets => keeps s inv before meets
  · exact fun s inv before _ meets _ interference =>
      (stablePost _).interference interference (holds s inv before meets)

theorem Triple.update {post : α → σ → Prop} {view : σ → α} (stable : rules.Stable i pre)
    (stablePost : ∀ value, rules.Stable i (post value))
    (keeps : ∀ s, rules.inv s → pre s → rules.inv (change s) ∧ rules.guar i s (change s))
    (holds : ∀ s, rules.inv s → pre s → post (view s) (change s)) :
    rules.Triple i pre (Prog.update view change) post :=
  Triple.updateWhen stable stablePost (fun s inv before _ => keeps s inv before)
    fun s inv before _ => holds s inv before

theorem Triple.await {post : Unit → σ → Prop} {ready : σ → Bool} (stable : rules.Stable i pre)
    (stablePost : rules.Stable i (post ())) (keeps : ∀ s, rules.inv s → pre s → ready s = true →
      rules.inv (change s) ∧ rules.guar i s (change s))
    (holds : ∀ s, rules.inv s → pre s → ready s = true → post () (change s)) :
    rules.Triple i pre (Prog.await ready change) post := by
  apply Triple.step stable
  · exact fun s inv before isReady _ => keeps s inv before isReady
  · exact fun s inv before isReady _ _ interference =>
      stablePost.interference interference (holds s inv before isReady)

/-- The invariant holds and what every session has left to do is safe. -/
def Sound (rules : Discipline Session σ) (post : Session → α → σ → Prop)
    (c : Config Session σ α) : Prop :=
  rules.inv c.shared ∧ ∀ i prog, c.procs i = some prog → rules.Safe i (post i) prog c.shared

variable {c : Config Session σ α}

theorem Sound.inv {post : Session → α → σ → Prop} (sound : rules.Sound post c) :
    rules.inv c.shared :=
  And.left sound

theorem Sound.finished {post : Session → α → σ → Prop} (sound : rules.Sound post c) {i : Session}
    {value : α} (finished : c.procs i = some (.done value)) : post i value c.shared :=
  And.right sound i _ finished _ .refl

/-- The conditions on a system under which checked programs compose. -/
structure Governs (rules : Discipline Session σ) (sys : System Session σ α)
    (post : Session → α → σ → Prop) : Prop where
  code : ∀ i s, rules.inv s → rules.Safe i (post i) (sys.code i) s
  crash : ∀ i s, rules.inv s → rules.inv (sys.crash i s) ∧ rules.guar i s (sys.crash i s)
  tick : ∀ s s', rules.inv s → sys.tick s s' → rules.inv s' ∧ rules.tick s s'

variable [DecidableEq Session]

theorem Sound.moved {post : Session → α → σ → Prop} (sound : rules.Sound post c) (i : Session)
    {s' : σ} {left : Option (Prog σ α)} (inv : rules.inv s') (guar : rules.guar i c.shared s')
    (safe : ∀ prog, left = some prog → rules.Safe i (post i) prog s') :
    rules.Sound post { shared := s', procs := Function.update c.procs i left } := by
  refine ⟨inv, fun j prog running => ?_⟩
  dsimp only at running
  by_cases same : j = i
  · subst same
    rw [Function.update_self] at running
    exact safe prog running
  · rw [Function.update_of_ne same] at running
    exact (sound.2 j prog running).interference
      (.single ⟨sound.1, inv, .inr ⟨i, Ne.symm same, guar⟩⟩)

variable {sys : System Session σ α}

section

variable {post : Session → α → σ → Prop} (governs : rules.Governs sys post)
variable (sound : rules.Sound post c)
include governs sound

theorem Sound.started (i : Session) :
    rules.Sound post { c with procs := Function.update c.procs i (some (sys.code i)) } := by
  refine ⟨sound.1, fun j prog running => ?_⟩
  dsimp only at running
  by_cases same : j = i
  · subst same
    rw [Function.update_self, Option.some.injEq] at running
    exact running ▸ governs.code j _ sound.1
  · rw [Function.update_of_ne same] at running
    exact sound.2 j prog running

omit [DecidableEq Session] in
theorem Sound.ticked {shared : σ} (moved : sys.tick c.shared shared) :
    rules.Sound post { c with shared } := by
  obtain ⟨inv', tick⟩ := governs.tick _ _ sound.1 moved
  exact ⟨inv', fun j prog running =>
    (sound.2 j prog running).interference (.single ⟨sound.1, inv', .inl tick⟩)⟩

end

/-- What a move of a sound run is known to do. -/
structure Kept (rules : Discipline Session σ) (move : Move Session σ) : Prop where
  inv : rules.inv move.before
  inv' : rules.inv move.after
  guar : rules.guar move.session move.before move.after

variable {moves : List (Move Session σ)}

theorem sound_of_run {post : Session → α → σ → Prop} (governs : rules.Governs sys post)
    {first c : Config Session σ α} (sound : rules.Sound post first) (run : sys.Run first moves c)
    (meets : ∀ move ∈ moves, rules.meets move.session move.before move.after) :
    rules.Sound post c ∧ ∀ move ∈ moves, rules.Kept move := by
  induction run with
  | nil => exact ⟨sound, fun _ impossible => nomatch impossible⟩
  | start i _ _ ih => exact ⟨(ih meets).1.started governs i, (ih meets).2⟩
  | @act moves c i ready step next _ atStep isReady ih =>
    obtain ⟨soundHere, kept⟩ := ih fun move isMove => meets move (List.mem_append_left _ isMove)
    have meetsLast := meets _ (List.mem_append_right _ (List.mem_singleton_self _))
    obtain ⟨inv', guar, rest⟩ := soundHere.2 i _ atStep _ .refl soundHere.1 isReady meetsLast
    refine ⟨soundHere.moved i inv' guar fun prog same => ?_, fun move isMove => ?_⟩
    · cases same
      exact rest
    · rcases List.mem_append.1 isMove with earlier | last
      · exact kept move earlier
      · cases List.mem_singleton.1 last
        exact ⟨soundHere.1, inv', guar⟩
  | crash i _ _ ih =>
    obtain ⟨soundHere, kept⟩ := ih meets
    obtain ⟨inv', guar⟩ := governs.crash i _ soundHere.1
    exact ⟨soundHere.moved i inv' guar (fun _ impossible => nomatch impossible), kept⟩
  | tick _ moved ih => exact ⟨(ih meets).1.ticked governs moved, (ih meets).2⟩

theorem run_related {post : Session → α → σ → Prop} (governs : rules.Governs sys post)
    (related : σ → σ → Prop) (refl : ∀ s, related s s)
    (trans : ∀ {s s' s''}, related s s' → related s' s'' → related s s'')
    (ticks : ∀ {s s'}, rules.tick s s' → related s s')
    (acts : ∀ {i s s'}, rules.inv s → rules.inv s' → rules.guar i s s' → related s s')
    {first c : Config Session σ α} (sound : rules.Sound post first) (run : sys.Run first moves c)
    (meets : ∀ move ∈ moves, rules.meets move.session move.before move.after) :
    related first.shared c.shared := by
  induction run with
  | nil => exact refl _
  | start i _ _ ih => exact ih meets
  | act i run atStep isReady ih =>
    have meetsEarlier := fun move isMove => meets move (List.mem_append_left _ isMove)
    have kept := (sound_of_run governs sound (run.act i atStep isReady) meets).2 _
      (List.mem_append_right _ (List.mem_singleton_self _))
    exact trans (ih meetsEarlier) (acts kept.inv kept.inv' kept.guar)
  | crash i run _ ih =>
    have inv := (sound_of_run governs sound run meets).1.1
    obtain ⟨inv', guar⟩ := governs.crash i _ inv
    exact trans (ih meets) (acts inv inv' guar)
  | tick run moved ih =>
    have inv := (sound_of_run governs sound run meets).1.1
    exact trans (ih meets) (ticks (governs.tick _ _ inv moved).2)

omit [DecidableEq Session] in
theorem sound_initial {post : Session → α → σ → Prop} {shared : σ} (inv : rules.inv shared) :
    rules.Sound post (.initial shared) :=
  ⟨inv, fun _ _ running => nomatch running⟩

/-- A fact that no session and no passing of time makes false. -/
structure Lasting (rules : Discipline Session σ) (holds : σ → Prop) : Prop where
  guar : ∀ {i s s'}, rules.inv s → rules.inv s' → rules.guar i s s' → holds s → holds s'
  tick : ∀ {s s'}, rules.tick s s' → holds s → holds s'

/-- The same rules, with a fact as a part of the invariant. -/
def assuming (rules : Discipline Session σ) (holds : σ → Prop) : Discipline Session σ :=
  { rules with inv := fun s => rules.inv s ∧ holds s }

omit [DecidableEq Session] in
theorem Safe.assuming {holds : σ → Prop} (lasting : rules.Lasting holds) {post : α → σ → Prop}
    {s : σ} (safe : rules.Safe i post prog s) :
    (rules.assuming holds).Safe i post prog s := by
  have interferes : ∀ {s s'}, (rules.assuming holds).Interference i s s' →
      rules.Interference i s s' := by
    intro s s' interference
    induction interference with
    | refl => exact .refl
    | tail _ rely ih => exact ih.tail ⟨rely.1.1, rely.2.1.1, rely.2.2⟩
  induction prog generalizing s with
  | done value => exact fun later interference => safe later (interferes interference)
  | step ready run next ih =>
    intro later interference inv isReady meets
    obtain ⟨inv', guar, rest⟩ := safe later (interferes interference) inv.1 isReady meets
    exact ⟨⟨inv', lasting.guar inv.1 inv' guar inv.2⟩, guar, ih _ rest⟩

/-- A session that starts once a lasting fact holds may rely on it. -/
theorem Sound.since {post : Session → α → σ → Prop} (governs : rules.Governs sys post)
    {holds : σ → Prop} (lasting : rules.Lasting holds) {first c : Config Session σ α}
    (sound : rules.Sound post first) (held : holds first.shared) {i : Session}
    (idle : first.procs i = none) {goal : α → σ → Prop}
    (code : rules.Triple i holds (sys.code i) goal) (run : sys.Run first moves c)
    (meets : ∀ move ∈ moves, rules.meets move.session move.before move.after) {value : α}
    (finished : c.procs i = some (.done value)) : goal value c.shared := by
  let goals : Session → α → σ → Prop := fun j => if j = i then goal else post j
  have isGoal : goals i = goal := if_pos rfl
  have isPost : ∀ {j}, j ≠ i → goals j = post j := fun isOther => if_neg isOther
  have governsGoals : (rules.assuming holds).Governs sys goals := by
    constructor
    · intro j s inv
      by_cases same : j = i
      · subst same
        rw [isGoal]
        exact (code s inv.1 inv.2).assuming lasting
      · rw [isPost same]
        exact (governs.code j s inv.1).assuming lasting
    · intro j s inv
      obtain ⟨inv', guar⟩ := governs.crash j s inv.1
      exact ⟨⟨inv', lasting.guar inv.1 inv' guar inv.2⟩, guar⟩
    · intro s s' inv ticked
      obtain ⟨inv', tick⟩ := governs.tick s s' inv.1 ticked
      exact ⟨⟨inv', lasting.tick tick inv.2⟩, tick⟩
  have soundGoals : (rules.assuming holds).Sound goals first := by
    refine ⟨⟨sound.1, held⟩, fun j prog running => ?_⟩
    have isOther : j ≠ i := by
      rintro rfl
      cases idle.symm.trans running
    rw [isPost isOther]
    exact (sound.2 j prog running).assuming lasting
  have ends := (sound_of_run governsGoals soundGoals run meets).1.finished finished
  rw [isGoal] at ends
  exact ends

/-- In every reachable configuration the invariant holds and every finished session
has met its postcondition. -/
theorem reaches_sound {post : Session → α → σ → Prop} (governs : rules.Governs sys post)
    (always : ∀ i s s', rules.meets i s s') {shared : σ} (inv : rules.inv shared)
    (reaches : sys.Reaches (.initial shared) c) :
    rules.inv c.shared ∧
      ∀ i value, c.procs i = some (.done value) → post i value c.shared := by
  obtain ⟨moves, run⟩ := reaches.run
  obtain ⟨sound, -⟩ := sound_of_run governs (sound_initial inv) run fun _ _ => always _ _ _
  exact ⟨sound.inv, fun _ _ finished => sound.finished finished⟩

/- Programs are not run to see what safety says about them. -/
attribute [irreducible] Safe

end Discipline

end Process
