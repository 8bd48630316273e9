import Sokar.Library.Process

/-!
# Invariants of interleaved programs

Each step of a program is as a relation says, as long as the state is found to meet an invariant.
When such steps keep the invariant, so does every run, and all its moves are as the relations of
their sessions say.

A program may also count on what lies between two of its steps: the state then is later than it was,
in an order that every step keeps to.
-/

namespace Process

variable {σ α β Session : Type}

/-- As long as it finds the state to meet the invariant, every step of the program is as the
relation says. -/
def Prog.StepsWhile (inv : σ → Prop) (rel : σ → σ → Prop) : Prog σ α → Prop
  | .done _ => True
  | .step ready run next => ∀ s, ready s = true → inv s →
      rel s (run s) ∧ (next s).StepsWhile inv rel

namespace Prog.StepsWhile

variable {inv : σ → Prop} {rel : σ → σ → Prop}

theorem pure (value : α) : (Pure.pure value : Prog σ α).StepsWhile inv rel :=
  trivial

theorem bind {first : Prog σ α} {rest : α → Prog σ β} (steps : first.StepsWhile inv rel)
    (stepsRest : ∀ value, (rest value).StepsWhile inv rel) :
    (first >>= rest).StepsWhile inv rel := by
  induction first with
  | done value => exact stepsRest value
  | step ready run next ih =>
    intro s isReady holds
    obtain ⟨step, stepsNext⟩ := steps s isReady holds
    exact ⟨step, ih s stepsNext⟩

theorem andThen {ε : Type} {first : Prog σ (Except ε α)} {rest : α → Prog σ (Except ε β)}
    (steps : first.StepsWhile inv rel) (stepsRest : ∀ value, (rest value).StepsWhile inv rel) :
    (first.andThen rest).StepsWhile inv rel := by
  refine steps.bind fun result => ?_
  cases result with
  | error error => trivial
  | ok value => exact stepsRest value

/-- What a read returns is as the invariant says. -/
theorem read {view : σ → β} {rest : β → Prog σ α} (idle : ∀ s, inv s → rel s s)
    (stepsRest : ∀ s, inv s → (rest (view s)).StepsWhile inv rel) :
    (Prog.read view >>= rest).StepsWhile inv rel :=
  fun s _ holds => ⟨idle s holds, stepsRest s holds⟩

end Prog.StepsWhile

variable [DecidableEq Session] {sys : System Session σ α} {inv : σ → Prop}
  {rel : Session → σ → σ → Prop} {fair : Move Session σ → Prop}
  {moves : List (Move Session σ)} {c : Config Session σ α}

theorem System.Run.invariant (codes : ∀ i, (sys.code i).StepsWhile inv (rel i))
    (keeps : ∀ move : Move Session σ, fair move → inv move.before →
      rel move.session move.before move.after → inv move.after)
    (crashes : ∀ i s, inv s → inv (sys.crash i s))
    (ticks : ∀ s s', inv s → sys.tick s s' → inv s') {shared : σ} (start : inv shared)
    (run : sys.Run (.initial shared) moves c) (isFair : ∀ move ∈ moves, fair move) :
    inv c.shared ∧
      ∀ move ∈ moves, inv move.before ∧ rel move.session move.before move.after := by
  suffices kept : inv c.shared ∧
      (∀ i prog, c.procs i = some prog → prog.StepsWhile inv (rel i)) ∧
      ∀ move ∈ moves, inv move.before ∧ rel move.session move.before move.after from
    ⟨kept.1, kept.2.2⟩
  induction run with
  | nil =>
    refine ⟨start, ?_, fun _ impossible => nomatch impossible⟩
    intro i prog running
    cases running
  | start i _ _ ih =>
    obtain ⟨holds, progs, earlier⟩ := ih isFair
    refine ⟨holds, fun other prog running => ?_, earlier⟩
    by_cases same : other = i
    · subst same
      cases (Function.update_self other _ _).symm.trans running
      exact codes other
    · exact progs other prog ((Function.update_of_ne same _ _).symm.trans running)
  | act i _ atStep isReady ih =>
    obtain ⟨holds, progs, earlier⟩ := ih fun move isMove =>
      isFair move (List.mem_append_left _ isMove)
    obtain ⟨step, stepsNext⟩ := progs i _ atStep _ isReady holds
    refine ⟨?_, fun other prog running => ?_, fun move isMove => ?_⟩
    · exact keeps _ (isFair _ (List.mem_append_right _ (List.mem_singleton_self _))) holds step
    · by_cases same : other = i
      · subst same
        cases (Function.update_self other _ _).symm.trans running
        exact stepsNext
      · exact progs other prog ((Function.update_of_ne same _ _).symm.trans running)
    · rcases List.mem_append.1 isMove with before | last
      · exact earlier move before
      · cases List.mem_singleton.1 last
        exact ⟨holds, step⟩
  | crash i _ _ ih =>
    obtain ⟨holds, progs, earlier⟩ := ih isFair
    refine ⟨crashes i _ holds, fun other prog running => ?_, earlier⟩
    by_cases same : other = i
    · subst same
      cases (Function.update_self other _ _).symm.trans running
    · exact progs other prog ((Function.update_of_ne same _ _).symm.trans running)
  | tick _ ticked ih =>
    obtain ⟨holds, progs, earlier⟩ := ih isFair
    exact ⟨ticks _ _ holds ticked, progs, earlier⟩

/-! ## States in order -/

/-- From a state on, as long as the states it finds are later ones and meet the invariant, every
step of the program is as the relation says, and its result meets the postcondition for good. -/
def Prog.StepsFrom (inv : σ → Prop) (later rel : σ → σ → Prop) (post : α → σ → Prop) :
    Prog σ α → σ → Prop
  | .done value, known => ∀ s, later known s → inv s → post value s
  | .step ready run next, known => ∀ s, later known s → ready s = true → inv s →
      rel s (run s) ∧ (later s (run s) → (next s).StepsFrom inv later rel post (run s))

namespace Prog.StepsFrom

variable {later step : σ → σ → Prop} {post : α → σ → Prop} {known : σ}

theorem mono {prog : Prog σ α} (steps : prog.StepsFrom inv later step post known)
    (trans : ∀ {s s' s''}, later s s' → later s' s'' → later s s'') {s : σ}
    (isLater : later known s) : prog.StepsFrom inv later step post s := by
  cases prog with
  | done value => exact fun s' more => steps s' (trans isLater more)
  | step ready run next => exact fun s' more => steps s' (trans isLater more)

/-- Nothing need be shown where no later state meets the invariant. -/
theorem of_exists {prog : Prog σ α}
    (steps : (∃ s, later known s ∧ inv s) → prog.StepsFrom inv later step post known) :
    prog.StepsFrom inv later step post known := by
  cases prog with
  | done value => exact fun s isLater holds => steps ⟨s, isLater, holds⟩ s isLater holds
  | step ready run next =>
    exact fun s isLater isReady holds => steps ⟨s, isLater, holds⟩ s isLater isReady holds

theorem pure {value : α} (ends : ∀ s, later known s → inv s → post value s) :
    (Pure.pure value : Prog σ α).StepsFrom inv later step post known :=
  ends

theorem read {view : σ → β} {rest : β → Prog σ α} (idle : ∀ s, inv s → step s s)
    (stepsRest : ∀ s, later known s → inv s → (rest (view s)).StepsFrom inv later step post s) :
    (Prog.read view >>= rest).StepsFrom inv later step post known :=
  fun s isLater _ holds => ⟨idle s holds, fun _ => stepsRest s isLater holds⟩

theorem update {view : σ → β} {change : σ → σ} {rest : β → Prog σ α}
    (changes : ∀ s, later known s → inv s → step s (change s))
    (stepsRest : ∀ s, later known s → inv s → later s (change s) →
      (rest (view s)).StepsFrom inv later step post (change s)) :
    (Prog.update view change >>= rest).StepsFrom inv later step post known :=
  fun s isLater _ holds => ⟨changes s isLater holds, stepsRest s isLater holds⟩

theorem last {view : σ → α} {change : σ → σ}
    (changes : ∀ s, later known s → inv s → step s (change s))
    (ends : ∀ s, later known s → inv s → ∀ s', later (change s) s' → inv s' → post (view s) s') :
    (Prog.update view change).StepsFrom inv later step post known :=
  fun s isLater _ holds => ⟨changes s isLater holds, fun _ => ends s isLater holds⟩

theorem bind {mid : β → σ → Prop} {first : Prog σ β} {rest : β → Prog σ α}
    (refl : ∀ s, later s s) (trans : ∀ {s s' s''}, later s s' → later s' s'' → later s s'')
    (steps : first.StepsFrom inv later step mid known)
    (stepsRest : ∀ value s, later known s → (∀ s', later s s' → inv s' → mid value s') →
      (rest value).StepsFrom inv later step post s) :
    (first >>= rest).StepsFrom inv later step post known := by
  induction first generalizing known with
  | done value => exact stepsRest value known (refl known) steps
  | step ready run next ih =>
    intro s isLater isReady holds
    obtain ⟨made, stepsNext⟩ := steps s isLater isReady holds
    refine ⟨made, fun more => ih s (stepsNext more) fun value s' isLater' ends => ?_⟩
    exact stepsRest value s' (trans (trans isLater more) isLater') ends

theorem andThen {ε : Type} {post : Except ε α → σ → Prop} {mid : β → σ → Prop}
    {first : Prog σ (Except ε β)} {rest : β → Prog σ (Except ε α)} (refl : ∀ s, later s s)
    (trans : ∀ {s s' s''}, later s s' → later s' s'' → later s s'')
    (steps : first.StepsFrom inv later step
      (fun result s => ∀ value, result = .ok value → mid value s) known)
    (fails : ∀ error s, inv s → post (.error error) s)
    (stepsRest : ∀ value s, later known s → (∀ s', later s s' → inv s' → mid value s') →
      (rest value).StepsFrom inv later step post s) :
    (first.andThen rest).StepsFrom inv later step post known := by
  refine bind refl trans steps fun result s isLater ends => ?_
  cases result with
  | error error => exact fun s' _ holds => fails error s' holds
  | ok value =>
    exact stepsRest value s isLater fun s' more holds => ends s' more holds value rfl

/-- An order that says more and a stronger invariant leave fewer states to count on. -/
theorem weaken {stronger : σ → Prop} {finer : σ → σ → Prop} {weaker : α → σ → Prop} {prog : Prog σ α}
    (steps : prog.StepsFrom inv later step post known) (strong : ∀ s, stronger s → inv s)
    (coarser : ∀ s s', finer s s' → later s s') (weak : ∀ value s, post value s → weaker value s) :
    prog.StepsFrom stronger finer step weaker known := by
  induction prog generalizing known with
  | done value =>
    exact fun s isLater holds => weak value s (steps s (coarser _ _ isLater) (strong s holds))
  | step ready run next ih =>
    intro s isLater isReady holds
    obtain ⟨made, stepsNext⟩ := steps s (coarser _ _ isLater) isReady (strong s holds)
    exact ⟨made, fun more => ih s (stepsNext (coarser _ _ more))⟩

end Prog.StepsFrom

/-- What is known of a run of fair moves whose programs count on the order of states. -/
structure System.Run.Known (sys : System Session σ α) (inv : σ → Prop) (later : σ → σ → Prop)
    (rel : Session → σ → σ → Prop) (post : Session → α → σ → Prop) (first : σ)
    (moves : List (Move Session σ)) (c : Config Session σ α) : Prop where
  holds : inv c.shared
  ordered : later first c.shared
  progs : ∀ i prog, c.procs i = some prog →
    prog.StepsFrom inv later (rel i) (post i) c.shared
  moves : ∀ move ∈ moves, inv move.before ∧ rel move.session move.before move.after

theorem System.Run.known {later : σ → σ → Prop} {post : Session → α → σ → Prop}
    {first : Config Session σ α} (refl : ∀ s, later s s)
    (trans : ∀ {s s' s''}, later s s' → later s' s'' → later s s'')
    (codes : ∀ i s, later first.shared s → inv s →
      (sys.code i).StepsFrom inv later (rel i) (post i) s)
    (keeps : ∀ move : Move Session σ, fair move → inv move.before →
      rel move.session move.before move.after → inv move.after ∧ later move.before move.after)
    (crashes : ∀ i s, inv s → inv (sys.crash i s) ∧ later s (sys.crash i s))
    (ticks : ∀ s s', inv s → sys.tick s s' → inv s' ∧ later s s') (start : inv first.shared)
    (running : ∀ i prog, first.procs i = some prog →
      prog.StepsFrom inv later (rel i) (post i) first.shared)
    (run : sys.Run first moves c) (isFair : ∀ move ∈ moves, fair move) :
    System.Run.Known sys inv later rel post first.shared moves c := by
  induction run with
  | nil => exact ⟨start, refl _, running, fun _ impossible => nomatch impossible⟩
  | start i _ _ ih =>
    have known := ih isFair
    refine ⟨known.holds, known.ordered, fun other prog runs => ?_, known.moves⟩
    by_cases same : other = i
    · subst same
      cases (Function.update_self other _ _).symm.trans runs
      exact codes other _ known.ordered known.holds
    · exact known.progs other prog ((Function.update_of_ne same _ _).symm.trans runs)
  | act i _ atStep isReady ih =>
    have known := ih fun move isMove => isFair move (List.mem_append_left _ isMove)
    obtain ⟨step, stepsNext⟩ := known.progs i _ atStep _ (refl _) isReady known.holds
    obtain ⟨inv', isLater⟩ := keeps _ (isFair _ (List.mem_append_right _
      (List.mem_singleton_self _))) known.holds step
    refine ⟨inv', trans known.ordered isLater, fun other prog runs => ?_, fun move isMove => ?_⟩
    · by_cases same : other = i
      · subst same
        cases (Function.update_self other _ _).symm.trans runs
        exact stepsNext isLater
      · exact (known.progs other prog
          ((Function.update_of_ne same _ _).symm.trans runs)).mono trans isLater
    · rcases List.mem_append.1 isMove with before | last
      · exact known.moves move before
      · cases List.mem_singleton.1 last
        exact ⟨known.holds, step⟩
  | crash i _ _ ih =>
    have known := ih isFair
    obtain ⟨inv', isLater⟩ := crashes i _ known.holds
    refine ⟨inv', trans known.ordered isLater, fun other prog runs => ?_, known.moves⟩
    by_cases same : other = i
    · subst same
      cases (Function.update_self other _ _).symm.trans runs
    · exact (known.progs other prog
        ((Function.update_of_ne same _ _).symm.trans runs)).mono trans isLater
  | tick _ ticked ih =>
    have known := ih isFair
    obtain ⟨inv', isLater⟩ := ticks _ _ known.holds ticked
    exact ⟨inv', trans known.ordered isLater,
      fun other prog runs => (known.progs other prog runs).mono trans isLater, known.moves⟩

/-- The same from a state in which nothing runs yet. -/
theorem System.Run.known_initial {later : σ → σ → Prop} {post : Session → α → σ → Prop} {shared : σ}
    (refl : ∀ s, later s s) (trans : ∀ {s s' s''}, later s s' → later s' s'' → later s s'')
    (codes : ∀ i s, later shared s → inv s → (sys.code i).StepsFrom inv later (rel i) (post i) s)
    (keeps : ∀ move : Move Session σ, fair move → inv move.before →
      rel move.session move.before move.after → inv move.after ∧ later move.before move.after)
    (crashes : ∀ i s, inv s → inv (sys.crash i s) ∧ later s (sys.crash i s))
    (ticks : ∀ s s', inv s → sys.tick s s' → inv s' ∧ later s s') (start : inv shared)
    (run : sys.Run (.initial shared) moves c) (isFair : ∀ move ∈ moves, fair move) :
    System.Run.Known sys inv later rel post shared moves c := by
  have running : ∀ i prog, (Config.initial shared : Config Session σ α).procs i = some prog →
      prog.StepsFrom inv later (rel i) (post i) shared := fun _ _ runs => nomatch runs
  exact run.known refl trans codes keeps crashes ticks start running isFair

/-- As long as it finds the state to meet an assumption, every step of the program is as the
relation says, and its result meets the postcondition. -/
def Prog.EndsWhile (assumed : σ → Prop) (rel : σ → σ → Prop) (post : α → Prop) : Prog σ α → Prop
  | .done value => post value
  | .step ready run next => ∀ s, ready s = true → assumed s →
      rel s (run s) ∧ (next s).EndsWhile assumed rel post

namespace Prog.EndsWhile

variable {assumed : σ → Prop} {rel : σ → σ → Prop} {post : α → Prop}

theorem pure {value : α} (ends : post value) :
    (Pure.pure value : Prog σ α).EndsWhile assumed rel post :=
  ends

theorem bind {mid : β → Prop} {first : Prog σ β} {rest : β → Prog σ α}
    (ends : first.EndsWhile assumed rel mid)
    (endsRest : ∀ value, mid value → (rest value).EndsWhile assumed rel post) :
    (first >>= rest).EndsWhile assumed rel post := by
  induction first with
  | done value => exact endsRest value ends
  | step ready run next ih =>
    intro s isReady holds
    obtain ⟨step, endsNext⟩ := ends s isReady holds
    exact ⟨step, ih s endsNext⟩

theorem read {view : σ → β} {rest : β → Prog σ α} (idle : ∀ s, rel s s)
    (endsRest : ∀ s, assumed s → (rest (view s)).EndsWhile assumed rel post) :
    (Prog.read view >>= rest).EndsWhile assumed rel post :=
  fun s _ holds => ⟨idle s, endsRest s holds⟩

theorem await {ready : σ → Bool} {change : σ → σ} {rest : Unit → Prog σ α}
    (changes : ∀ s, ready s = true → rel s (change s))
    (endsRest : (rest ()).EndsWhile assumed rel post) :
    (Prog.await ready change >>= rest).EndsWhile assumed rel post :=
  fun s isReady _ => ⟨changes s isReady, endsRest⟩

/-- The last step of a program. -/
theorem last {view : σ → α} {change : σ → σ}
    (ends : ∀ s, assumed s → rel s (change s) ∧ post (view s)) :
    (Prog.update view change).EndsWhile assumed rel post :=
  fun s _ holds => ends s holds

end Prog.EndsWhile

/-- What a session does in a run in which it always finds the assumption to hold. -/
theorem System.Run.ends_while {assumed : σ → Prop} {step : σ → σ → Prop} {post : α → Prop}
    {i : Session} (code : (sys.code i).EndsWhile assumed step post) {first : Config Session σ α}
    (running : ∀ prog, first.procs i = some prog → prog.EndsWhile assumed step post)
    (run : sys.Run first moves c)
    (holds : ∀ move ∈ moves, move.session = i → assumed move.before) :
    (∀ move ∈ moves, move.session = i → step move.before move.after) ∧
      ∀ prog, c.procs i = some prog → prog.EndsWhile assumed step post := by
  induction run with
  | nil => exact ⟨fun _ impossible => (nomatch impossible), running⟩
  | start j _ _ ih =>
    obtain ⟨earlier, progs⟩ := ih holds
    refine ⟨earlier, fun prog runs => ?_⟩
    by_cases same : i = j
    · subst same
      cases (Function.update_self i _ _).symm.trans runs
      exact code
    · exact progs prog ((Function.update_of_ne same _ _).symm.trans runs)
  | act j _ atStep isReady ih =>
    obtain ⟨earlier, progs⟩ := ih fun move isMove =>
      holds move (List.mem_append_left _ isMove)
    have isLast := holds _ (List.mem_append_right _ (List.mem_singleton_self _))
    constructor
    · intro move isMove isMine
      rcases List.mem_append.1 isMove with before | last
      · exact earlier move before isMine
      · cases List.mem_singleton.1 last
        subst isMine
        exact (progs _ atStep _ isReady (isLast rfl)).1
    · intro prog runs
      by_cases same : i = j
      · subst same
        cases (Function.update_self i _ _).symm.trans runs
        exact (progs _ atStep _ isReady (isLast rfl)).2
      · exact progs prog ((Function.update_of_ne same _ _).symm.trans runs)
  | crash j _ _ ih =>
    obtain ⟨earlier, progs⟩ := ih holds
    refine ⟨earlier, fun prog runs => ?_⟩
    by_cases same : i = j
    · subst same
      cases (Function.update_self i _ _).symm.trans runs
    · exact progs prog ((Function.update_of_ne same _ _).symm.trans runs)
  | tick _ _ ih => exact ih holds

end Process
