import Sokar.Library.Process

/-!
# Auxiliary state

What a property of runs is about is not always kept in the state: who took something last,
for one.  An auxiliary state is kept beside the state, follows from the moves made so far, and is
never read by the programs.  The runs of a system are the runs with the auxiliary state, and so a
discipline may speak of it.
-/

namespace Process

variable {Session σ γ α β : Type}

/-- How a move of a session changes what is kept beside the state. -/
structure Auxiliary (Session σ γ : Type) where
  note : Session → σ → σ → γ → γ
  same : ∀ i s memo, note i s s memo = memo

namespace Auxiliary

variable (aux : Auxiliary Session σ γ)

/-- A program that also notes its own moves. -/
def prog (i : Session) (prog : Prog σ α) : Prog (σ × γ) α :=
  prog.within Prod.fst fun s t => (s, aux.note i t.1 s t.2)

def remember (memo : γ) (moves : List (Move Session σ)) : γ :=
  moves.foldl (fun memo move => aux.note move.session move.before move.after memo) memo

def move (memo : γ) (move : Move Session σ) : Move Session (σ × γ) where
  session := move.session
  before := (move.before, memo)
  after := (move.after, aux.note move.session move.before move.after memo)

def moves (memo : γ) : List (Move Session σ) → List (Move Session (σ × γ))
  | [] => []
  | move :: rest =>
    aux.move memo move :: moves (aux.note move.session move.before move.after memo) rest

def config (memo : γ) (c : Config Session σ α) : Config Session (σ × γ) α where
  shared := (c.shared, memo)
  procs i := (c.procs i).map (aux.prog i)

/-- The system whose sessions note their moves. -/
def system (sys : System Session σ α) : System Session (σ × γ) α where
  code i := aux.prog i (sys.code i)
  crash i t := (sys.crash i t.1, t.2)
  tick t t' := sys.tick t.1 t'.1 ∧ t'.2 = t.2

variable {aux} {memo : γ}

@[simp] theorem prog_pure (i : Session) (value : α) :
    aux.prog i (pure value : Prog σ α) = pure value :=
  rfl

theorem prog_bind (i : Session) (first : Prog σ α) (rest : α → Prog σ β) :
    aux.prog i (first >>= rest) = aux.prog i first >>= fun value => aux.prog i (rest value) :=
  Prog.within_bind _ _ first rest

theorem prog_read (i : Session) (view : σ → α) :
    aux.prog i (Prog.read view) = Prog.read fun t => view t.1 := by
  have unchanged : (fun t : σ × γ => (t.1, aux.note i t.1 t.1 t.2)) = id := by
    funext t
    rw [aux.same]
    rfl
  simp only [prog, Prog.read, Prog.within, id, unchanged]

theorem moves_append (moves : List (Move Session σ)) (last : Move Session σ) :
    aux.moves memo (moves ++ [last]) =
      aux.moves memo moves ++ [aux.move (aux.remember memo moves) last] := by
  induction moves generalizing memo with
  | nil => rfl
  | cons first rest ih => exact congrArg (_ :: ·) ih

/-- A move, with what was kept when it was made. -/
theorem move_mem (before after : List (Move Session σ)) (move : Move Session σ) :
    aux.move (aux.remember memo before) move ∈ aux.moves memo (before ++ move :: after) := by
  induction before generalizing memo with
  | nil => exact List.mem_cons_self
  | cons first rest ih => exact List.mem_cons_of_mem _ ih

theorem exists_of_mem_moves {moves : List (Move Session σ)} {noted : Move Session (σ × γ)}
    (isNoted : noted ∈ aux.moves memo moves) :
    ∃ before move after, moves = before ++ move :: after ∧
      noted = aux.move (aux.remember memo before) move := by
  induction moves generalizing memo with
  | nil => cases isNoted
  | cons first rest ih =>
    rcases List.mem_cons.1 isNoted with same | later
    · exact ⟨[], first, rest, rfl, same⟩
    · obtain ⟨before, move, after, split, same⟩ := ih later
      exact ⟨first :: before, move, after, congrArg (first :: ·) split, same⟩

theorem remember_append (moves : List (Move Session σ)) (last : Move Session σ) :
    aux.remember memo (moves ++ [last]) =
      aux.note last.session last.before last.after (aux.remember memo moves) := by
  simp [remember]

variable [DecidableEq Session]

theorem config_update (c : Config Session σ α) (shared : σ) (i : Session)
    (left : Option (Prog σ α)) :
    aux.config memo { shared, procs := Function.update c.procs i left } =
      { shared := (shared, memo)
        procs := Function.update (aux.config memo c).procs i (left.map (aux.prog i)) } := by
  simp only [config, Config.mk.injEq, true_and]
  funext j
  by_cases same : j = i
  · subst same
    simp
  · simp only [Function.update_of_ne same]

theorem run {sys : System Session σ α} {first c : Config Session σ α}
    {moves : List (Move Session σ)} (run : sys.Run first moves c) :
    (aux.system sys).Run (aux.config memo first) (aux.moves memo moves)
      (aux.config (aux.remember memo moves) c) := by
  induction run with
  | nil => exact .nil
  | @start moves c i _ idle ih =>
    rw [config_update]
    have isIdle : (aux.config (aux.remember memo moves) c).procs i = none := by
      simp [config, idle]
    exact ih.start i isIdle
  | @act moves c i ready change next _ atStep isReady ih =>
    rw [config_update, moves_append, remember_append]
    have isAtStep : (aux.config (aux.remember memo moves) c).procs i =
        some (aux.prog i (.step ready change next)) := by
      simp [config, atStep]
    exact ih.act i isAtStep isReady
  | @crash moves c i prog _ running ih =>
    rw [config_update]
    have isRunning : (aux.config (aux.remember memo moves) c).procs i = some (aux.prog i prog) := by
      simp [config, running]
    exact ih.crash i isRunning
  | @tick moves c shared _ ticks ih =>
    have ticked : (aux.system sys).tick (aux.config (aux.remember memo moves) c).shared
        (shared, aux.remember memo moves) := ⟨ticks, rfl⟩
    exact ih.tick ticked

omit [DecidableEq Session] in
theorem config_initial (shared : σ) :
    aux.config memo (.initial shared : Config Session σ α) = .initial (shared, memo) :=
  rfl

/-- A run whose moves meet the condition of a discipline that speaks of the auxiliary state
keeps to it. -/
theorem kept_of_run {rules : Discipline Session (σ × γ)} {sys : System Session σ α}
    {post : Session → α → σ × γ → Prop} (governs : rules.Governs (aux.system sys) post)
    {shared : σ} (inv : rules.inv (shared, memo)) {moves : List (Move Session σ)}
    {c : Config Session σ α} (run : sys.Run (.initial shared) moves c)
    (meets : ∀ before move after, moves = before ++ move :: after →
      rules.meets move.session (move.before, aux.remember memo before)
        (move.after, aux.note move.session move.before move.after (aux.remember memo before))) :
    rules.inv (c.shared, aux.remember memo moves) ∧
      ∀ before move after, moves = before ++ move :: after →
        rules.Kept (aux.move (aux.remember memo before) move) := by
  have noted : (aux.system sys).Run _ (aux.moves memo moves) _ := Auxiliary.run run
  obtain ⟨sound, kept⟩ := Discipline.sound_of_run governs (Discipline.sound_initial inv) noted <| by
    intro move isMove
    obtain ⟨before, made, after, split, same⟩ := exists_of_mem_moves isMove
    subst same
    exact meets before made after split
  refine ⟨sound.inv, fun before move after split => ?_⟩
  subst split
  exact kept _ (move_mem before after move)

end Auxiliary

end Process
