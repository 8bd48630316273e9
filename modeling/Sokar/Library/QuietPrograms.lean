import Sokar.Library.GuardedData

/-!
# Programs that only read and lock

A quiet program reads and takes free locks, one statement at a time, and writes nothing.
It keeps every fact that the locks of its session protect.

A program acts within a relation of the data when each of its steps writes nothing or what
the relation allows.  Said once of a program, this gives every invariant that the relation
keeps, whatever the program knows.

A program over one part of a store also runs over the whole store, where it is quiet if
it was.
-/

namespace Transaction

open Process

variable {Data Lock Session Sub SubLock α β : Type}

/-- A step that writes nothing and only takes free locks. -/
structure QuietStep (session : Session) (store store' : Store Data Lock Session) : Prop where
  data : store'.data = store.data
  now : store'.now = store.now
  mine : ∀ lock, store.owner lock = some session → store'.owner lock = some session
  others : ∀ lock other, other ≠ session → store.owner lock = some other →
    store'.owner lock = some other

def Quiet (session : Session) : Prog (Store Data Lock Session) α → Prop
  | .done _ => True
  | .step ready run next => ∀ store, ready store = true →
      QuietStep session store (run store) ∧ Quiet session (next store)

namespace Quiet

variable {session : Session}

theorem pure (value : α) : Quiet session (Pure.pure value : Prog (Store Data Lock Session) α) :=
  trivial

theorem bind {first : Prog (Store Data Lock Session) α}
    {rest : α → Prog (Store Data Lock Session) β} (quiet : Quiet session first)
    (quietRest : ∀ value, Quiet session (rest value)) : Quiet session (first >>= rest) := by
  induction first with
  | done value => exact quietRest value
  | step ready run next ih =>
    intro store isReady
    obtain ⟨step, quietNext⟩ := quiet store isReady
    exact ⟨step, ih store quietNext⟩

theorem andThen {Error : Type} {first : Prog (Store Data Lock Session) (Except Error α)}
    {rest : α → Prog (Store Data Lock Session) (Except Error β)} (quiet : Quiet session first)
    (quietRest : ∀ value, Quiet session (rest value)) : Quiet session (first.andThen rest) := by
  apply quiet.bind
  intro result
  cases result with
  | error error => exact pure _
  | ok value => exact quietRest value

theorem query (view : Data → Int → α) :
    Quiet session (Transaction.query view : Prog (Store Data Lock Session) α) := by
  intro store _
  constructor
  · exact ⟨rfl, rfl, fun _ owned => owned, fun _ _ _ owned => owned⟩
  · trivial

/-- A read may find nothing. -/
theorem found {view : Data → Int → Option α} {rest : Option α → Prog (Store Data Lock Session) β}
    (absent : Quiet session (rest none)) (quietRest : ∀ value, Quiet session (rest (some value))) :
    Quiet session (Transaction.query view >>= rest) :=
  (query view).bind fun
    | none => absent
    | some value => quietRest value

variable [DecidableEq Lock] [DecidableEq Session]

omit [DecidableEq Session] in
theorem quietStep_take {store : Store Data Lock Session} {lock : Lock}
    (others : ∀ held other, other ≠ session → store.owner held = some other →
      (store.take session lock).owner held = some other) :
    QuietStep session store (store.take session lock) where
  data := rfl
  now := rfl
  mine held owned := by
    by_cases same : held = lock
    · subst same
      exact Function.update_self ..
    · exact (Function.update_of_ne same ..).trans owned
  others := others

theorem acquire (lock : Lock) :
    Quiet session (Transaction.acquire session lock : Prog (Store Data Lock Session) Unit) := by
  intro store isFree
  constructor
  · exact quietStep_take (Access.take_keeps isFree)
  · trivial

theorem tryAcquire (lock : Lock) :
    Quiet session (Transaction.tryAcquire session lock : Prog (Store Data Lock Session) Bool) := by
  intro store _
  constructor
  · dsimp only
    split
    next isFree => exact quietStep_take (Access.take_keeps isFree)
    next => exact ⟨rfl, rfl, fun _ owned => owned, fun _ _ _ owned => owned⟩
  · trivial

end Quiet

theorem Quiet.runs {access : Access Data Lock Session} {session : Session} {owned : Set Lock}
    {fact : Data → Int → Prop} {prog : Prog (Store Data Lock Session) α}
    (quiet : Quiet session prog) (protects : access.Protects owned fact) :
    access.Runs session owned fact prog owned fun _ => fact := by
  induction prog with
  | done value => exact Access.Runs.pure protects fun _ _ _ known => known
  | step ready run next ih =>
    apply Discipline.Triple.step protects.stable
    · intro store inv knows isReady _
      obtain ⟨step, -⟩ := quiet store isReady
      refine ⟨?_, step.now, ?_, step.others⟩
      · change access.inv (run store).data (run store).now
        rw [step.data, step.now]
        exact inv
      · rw [step.data]
        exact access.writes_refl _ _
    · intro store inv knows isReady _
      obtain ⟨step, quietNext⟩ := quiet store isReady
      have knows' : Access.Knows session owned fact (run store) := by
        constructor
        · exact fun lock member => step.mine lock (knows.1 lock member)
        · rw [step.data, step.now]
          exact knows.2
      have inv' : access.discipline.inv (run store) := by
        change access.inv (run store).data (run store).now
        rw [step.data, step.now]
        exact inv
      exact ih store quietNext (run store) inv' knows'

structure ActStep (session : Session) (allowed : Data → Int → Data → Prop)
    (store store' : Store Data Lock Session) : Prop where
  now : store'.now = store.now
  data : store'.data = store.data ∨ allowed store.data store.now store'.data
  others : ∀ lock other, other ≠ session → store.owner lock = some other →
    store'.owner lock = some other

/-- Every step of the program writes what is allowed. -/
def Acts (session : Session) (allowed : Data → Int → Data → Prop) :
    Prog (Store Data Lock Session) α → Prop
  | .done _ => True
  | .step ready run next => ∀ store, ready store = true →
      ActStep session allowed store (run store) ∧ Acts session allowed (next store)

namespace Acts

variable {session : Session} {allowed : Data → Int → Data → Prop}

theorem pure (value : α) :
    Acts session allowed (Pure.pure value : Prog (Store Data Lock Session) α) :=
  trivial

/-- What follows may rely on what the first program returns. -/
theorem bindWhen {meets : α → Prop} {first : Prog (Store Data Lock Session) α}
    {rest : α → Prog (Store Data Lock Session) β} (acts : Acts session allowed first)
    (returns : first.Returns meets)
    (actsRest : ∀ value, meets value → Acts session allowed (rest value)) :
    Acts session allowed (first >>= rest) := by
  induction first with
  | done value => exact actsRest value returns
  | step ready run next ih =>
    intro store isReady
    obtain ⟨step, actsNext⟩ := acts store isReady
    exact ⟨step, ih store actsNext (returns store isReady)⟩

theorem bind {first : Prog (Store Data Lock Session) α}
    {rest : α → Prog (Store Data Lock Session) β} (acts : Acts session allowed first)
    (actsRest : ∀ value, Acts session allowed (rest value)) :
    Acts session allowed (first >>= rest) := by
  induction first with
  | done value => exact actsRest value
  | step ready run next ih =>
    intro store isReady
    obtain ⟨step, actsNext⟩ := acts store isReady
    exact ⟨step, ih store actsNext⟩

variable {Error : Type}

theorem andThen {first : Prog (Store Data Lock Session) (Except Error α)}
    {rest : α → Prog (Store Data Lock Session) (Except Error β)}
    (acts : Acts session allowed first) (actsRest : ∀ value, Acts session allowed (rest value)) :
    Acts session allowed (first.andThen rest) := by
  apply acts.bind
  intro result
  cases result with
  | error error => exact pure _
  | ok value => exact actsRest value

theorem of_quiet {prog : Prog (Store Data Lock Session) α} (quiet : Quiet session prog) :
    Acts session allowed prog := by
  induction prog with
  | done value => trivial
  | step ready run next ih =>
    intro store isReady
    obtain ⟨step, quietNext⟩ := quiet store isReady
    exact ⟨⟨step.now, .inl step.data, step.others⟩, ih store quietNext⟩

theorem query (view : Data → Int → α) :
    Acts session allowed (Transaction.query view : Prog (Store Data Lock Session) α) :=
  of_quiet (Quiet.query view)

theorem found {view : Data → Int → Option α} {rest : Option α → Prog (Store Data Lock Session) β}
    (absent : Acts session allowed (rest none))
    (actsRest : ∀ value, Acts session allowed (rest (some value))) :
    Acts session allowed (Transaction.query view >>= rest) :=
  (query view).bind fun
    | none => absent
    | some value => actsRest value

theorem runs {access : Access Data Lock Session}
    {prog : Prog (Store Data Lock Session) (Except Error α)} (acts : Acts session allowed prog)
    (keeps : ∀ free data now data', access.inv data now → allowed data now data' →
      access.meets session free now data data' → access.inv data' now ∧ access.writes free data data') :
    access.Serves session prog := by
  induction prog with
  | done value => exact Access.ends_pure value
  | step ready run next ih =>
    have none_ : ∀ store : Store Data Lock Session,
        Access.Knows session ∅ (fun _ _ => True) store :=
      fun _ => ⟨fun lock member => absurd member (Set.notMem_empty lock), trivial⟩
    have stays : ∀ store, access.inv store.data store.now → ready store = true →
        access.discipline.meets session store (run store) →
          access.discipline.inv (run store) ∧ access.discipline.guar session store (run store) := by
      intro store inv isReady meets
      obtain ⟨step, -⟩ := acts store isReady
      have kept : access.inv (run store).data store.now ∧
          access.writes (store.free session) store.data (run store).data := by
        rcases step.data with unchanged | written
        · rw [unchanged]
          exact ⟨inv, access.writes_refl _ _⟩
        · exact keeps _ _ _ _ inv written meets
      refine ⟨?_, step.now, kept.2, step.others⟩
      change access.inv (run store).data (run store).now
      rw [step.now]
      exact kept.1
    apply Discipline.Triple.step (Access.protects_const True).stable
    · exact fun store inv _ isReady meets => stays store inv isReady meets
    · intro store inv _ isReady meets
      exact ih store (acts store isReady).2 (run store) (stays store inv isReady meets).1 (none_ _)

theorem mono {weaker : Data → Int → Data → Prop} {prog : Prog (Store Data Lock Session) α}
    (acts : Acts session allowed prog)
    (weakens : ∀ data now data', allowed data now data' → weaker data now data') :
    Acts session weaker prog := by
  induction prog with
  | done value => trivial
  | step ready run next ih =>
    intro store isReady
    obtain ⟨step, actsNext⟩ := acts store isReady
    exact ⟨⟨step.now, step.data.imp_right (weakens _ _ _), step.others⟩, ih store actsNext⟩

variable [DecidableEq Session]

theorem commit {view : Data → Int → α} {change : Data → Int → Data}
    (writes : ∀ data now, change data now = data ∨ allowed data now (change data now)) :
    Acts session allowed
      (Transaction.commit session view change : Prog (Store Data Lock Session) α) := by
  intro store _
  constructor
  · exact ⟨rfl, writes store.data store.now, Access.release_keeps _⟩
  · trivial

theorem commitUnless {refusal : Data → Option Error} {view : Data → Int → α}
    {change : Data → Int → Data} (writes : ∀ data now, refusal (change data now) = none →
      change data now = data ∨ allowed data now (change data now)) :
    Acts session allowed (Transaction.commitUnless session refusal view change :
      Prog (Store Data Lock Session) (Except Error α)) := by
  apply commit
  intro data now
  cases refused : refusal (change data now) with
  | none => simpa using writes data now refused
  | some error => simp

theorem transactWhen {meets : Except Error α → Prop}
    {body : Prog (Store Data Lock Session) (Except Error α)} {refusal : Data → Option Error}
    {view : α → Data → Int → β} {change : α → Data → Int → Data}
    (acts : Acts session allowed body) (returns : body.Returns meets)
    (writes : ∀ plan data now, meets (.ok plan) → refusal (change plan data now) = none →
      change plan data now = data ∨ allowed data now (change plan data now)) :
    Acts session allowed (Transaction.transact session body refusal view change) := by
  apply acts.bindWhen returns
  intro decided met
  cases decided with
  | error error => exact commit fun _ _ => .inl rfl
  | ok plan => exact commitUnless fun data now accepted => writes plan data now met accepted

theorem transact {body : Prog (Store Data Lock Session) (Except Error α)}
    {refusal : Data → Option Error} {view : α → Data → Int → β} {change : α → Data → Int → Data}
    (acts : Acts session allowed body)
    (writes : ∀ plan data now, refusal (change plan data now) = none →
      change plan data now = data ∨ allowed data now (change plan data now)) :
    Acts session allowed (Transaction.transact session body refusal view change) := by
  apply acts.bind
  intro decided
  cases decided with
  | error error => exact commit fun _ _ => .inl rfl
  | ok plan => exact commitUnless (writes plan)

end Acts

/-- As long as it finds the data to meet an assumption, every step of the program writes what is
allowed. -/
def ActsWhile (session : Session) (assumed : Data → Int → Prop)
    (allowed : Data → Int → Data → Prop) : Prog (Store Data Lock Session) α → Prop
  | .done _ => True
  | .step ready run next => ∀ store, ready store = true → assumed store.data store.now →
      ActStep session allowed store (run store) ∧ ActsWhile session assumed allowed (next store)

namespace ActsWhile

variable {session : Session} {assumed : Data → Int → Prop} {allowed : Data → Int → Data → Prop}

theorem of_acts {prog : Prog (Store Data Lock Session) α} (acts : Acts session allowed prog) :
    ActsWhile session assumed allowed prog := by
  induction prog with
  | done value => trivial
  | step ready run next ih =>
    intro store isReady _
    obtain ⟨step, actsNext⟩ := acts store isReady
    exact ⟨step, ih store actsNext⟩

/-- What a read returns is as the assumption says. -/
theorem query {view : Data → Int → β} {rest : β → Prog (Store Data Lock Session) α}
    (actsRest : ∀ data now, assumed data now →
      ActsWhile session assumed allowed (rest (view data now))) :
    ActsWhile session assumed allowed (Transaction.query view >>= rest) := by
  intro store _ holds
  constructor
  · exact ⟨rfl, .inl rfl, fun _ _ _ owned => owned⟩
  · exact actsRest store.data store.now holds

theorem bind {first : Prog (Store Data Lock Session) α}
    {rest : α → Prog (Store Data Lock Session) β} (acts : ActsWhile session assumed allowed first)
    (actsRest : ∀ value, ActsWhile session assumed allowed (rest value)) :
    ActsWhile session assumed allowed (first >>= rest) := by
  induction first with
  | done value => exact actsRest value
  | step ready run next ih =>
    intro store isReady holds
    obtain ⟨step, actsNext⟩ := acts store isReady holds
    exact ⟨step, ih store actsNext⟩

/-- What a commit returns is as the assumption says. -/
theorem commit [DecidableEq Session] {view : Data → Int → β} {change : Data → Int → Data}
    {rest : β → Prog (Store Data Lock Session) α}
    (writes : ∀ data now, assumed data now →
      change data now = data ∨ allowed data now (change data now))
    (actsRest : ∀ data now, assumed data now →
      ActsWhile session assumed allowed (rest (view data now))) :
    ActsWhile session assumed allowed (Transaction.commit session view change >>= rest) := by
  intro store _ holds
  constructor
  · exact ⟨rfl, writes store.data store.now holds, Access.release_keeps _⟩
  · exact actsRest store.data store.now holds

end ActsWhile

section

variable [DecidableEq Session] {code : Session → Prog (Store Data Lock Session) α}
variable {allowed : Session → Data → Int → Data → Prop}
variable {first c : Config Session (Store Data Lock Session) α}
variable {moves : List (Move Session (Store Data Lock Session))}

theorem actSteps_while {among : Session → Prop} {assumed : Data → Int → Prop}
    (acts : ∀ session, among session → ActsWhile session assumed (allowed session) (code session))
    (running : ∀ session prog, among session → first.procs session = some prog →
      ActsWhile session assumed (allowed session) prog)
    (run : (system code).Run first moves c) (holds : ∀ move ∈ moves, among move.session →
      assumed move.before.data move.before.now) :
    ∀ move ∈ moves, among move.session →
      ActStep move.session (allowed move.session) move.before move.after := by
  suffices kept : (∀ session prog, among session → c.procs session = some prog →
      ActsWhile session assumed (allowed session) prog) ∧
      ∀ move ∈ moves, among move.session →
        ActStep move.session (allowed move.session) move.before move.after from kept.2
  induction run with
  | nil => exact ⟨running, fun _ impossible => nomatch impossible⟩
  | start i _ _ ih =>
    refine ⟨fun session prog isAmong running => ?_, (ih holds).2⟩
    by_cases same : session = i
    · subst same
      cases (Function.update_self session _ _).symm.trans running
      exact acts session isAmong
    · exact (ih holds).1 session prog isAmong ((Function.update_of_ne same _ _).symm.trans running)
  | act i _ atStep isReady ih =>
    obtain ⟨earlierProcs, earlierMoves⟩ := ih fun move isMove =>
      holds move (List.mem_append_left _ isMove)
    have holdsLast := holds _ (List.mem_append_right _ (List.mem_singleton_self _))
    constructor
    · intro session prog isAmong running
      by_cases same : session = i
      · subst same
        cases (Function.update_self session _ _).symm.trans running
        exact (earlierProcs session _ isAmong atStep _ isReady (holdsLast isAmong)).2
      · exact earlierProcs session prog isAmong ((Function.update_of_ne same _ _).symm.trans running)
    · intro move isMove isAmong
      rcases List.mem_append.1 isMove with earlier | last
      · exact earlierMoves move earlier isAmong
      · cases List.mem_singleton.1 last
        exact (earlierProcs i _ isAmong atStep _ isReady (holdsLast isAmong)).1
  | crash i _ _ ih =>
    refine ⟨fun session prog isAmong running => ?_, (ih holds).2⟩
    by_cases same : session = i
    · subst same
      cases (Function.update_self session _ _).symm.trans running
    · exact (ih holds).1 session prog isAmong ((Function.update_of_ne same _ _).symm.trans running)
  | tick _ _ ih => exact ih holds

theorem actSteps_of_run (acts : ∀ session, Acts session (allowed session) (code session))
    {store : Store Data Lock Session} (run : (system code).Run (.initial store) moves c) :
    ∀ move ∈ moves, ActStep move.session (allowed move.session) move.before move.after := by
  have codes : ∀ session, True →
      ActsWhile session (fun _ _ => True) (allowed session) (code session) :=
    fun session _ => ActsWhile.of_acts (acts session)
  have idle : ∀ session prog, True →
      (Config.initial store : Config Session (Store Data Lock Session) α).procs session = some prog →
        ActsWhile session (fun _ _ => True) (allowed session) prog := by
    intro session prog _ running
    cases running
  have steps := actSteps_while codes idle run fun _ _ _ => trivial
  exact fun move isMove => steps move isMove trivial

end

/-! ## A part of a store -/

structure Portion (Data Lock Sub SubLock : Type) where
  get : Data → Sub
  put : Sub → Data → Data
  lock : SubLock → Lock
  unlock : Lock → Option SubLock
  put_get : ∀ data, put (get data) data = data
  lock_of_unlock : ∀ {held sub}, unlock held = some sub → lock sub = held

namespace Portion

variable (portion : Portion Data Lock Sub SubLock)

def view (store : Store Data Lock Session) : Store Sub SubLock Session where
  data := portion.get store.data
  now := store.now
  owner sub := store.owner (portion.lock sub)

def write (sub : Store Sub SubLock Session) (store : Store Data Lock Session) :
    Store Data Lock Session where
  data := portion.put sub.data store.data
  now := sub.now
  owner held := (portion.unlock held).elim (store.owner held) sub.owner

/-- A program over the part, run over the whole. -/
def within (prog : Prog (Store Sub SubLock Session) α) : Prog (Store Data Lock Session) α :=
  Prog.within portion.view portion.write prog

variable {portion} {session : Session}

theorem within_bind (first : Prog (Store Sub SubLock Session) α)
    (rest : α → Prog (Store Sub SubLock Session) β) :
    (portion.within (first >>= rest) : Prog (Store Data Lock Session) β) =
      portion.within first >>= fun value => portion.within (rest value) :=
  Prog.within_bind _ _ first rest

theorem write_view (store : Store Data Lock Session) :
    portion.write (portion.view store) store = store := by
  have sameOwner : ∀ held, (portion.unlock held).elim (store.owner held)
      (fun lock => store.owner (portion.lock lock)) = store.owner held := by
    intro held
    cases unlocked : portion.unlock held with
    | none => rfl
    | some lock => exact congrArg store.owner (portion.lock_of_unlock unlocked)
  simp only [write, view, portion.put_get, sameOwner]

@[simp] theorem run_within_query (look : Sub → Int → α) (store : Store Data Lock Session) :
    (portion.within (Transaction.query look : Prog (Store Sub SubLock Session) α)).run store =
      some (look (portion.get store.data) store.now, store) := by
  simp only [within, Transaction.query, Prog.read, Prog.within, Prog.run, if_true, id]
  rw [write_view]
  rfl

theorem quietStep {store : Store Data Lock Session} {sub : Store Sub SubLock Session}
    (step : QuietStep session (portion.view store) sub) :
    QuietStep session store (portion.write sub store) where
  data := by
    change portion.put sub.data store.data = store.data
    rw [step.data]
    exact portion.put_get store.data
  now := step.now
  mine held owned := by
    cases unlocked : portion.unlock held with
    | none => simpa [write, unlocked] using owned
    | some lock =>
      rw [← portion.lock_of_unlock unlocked] at owned
      simpa [write, unlocked] using step.mine lock owned
  others held other isOther owned := by
    cases unlocked : portion.unlock held with
    | none => simpa [write, unlocked] using owned
    | some lock =>
      rw [← portion.lock_of_unlock unlocked] at owned
      simpa [write, unlocked] using step.others lock other isOther owned

variable {prog : Prog (Store Sub SubLock Session) α}

theorem quiet_within (quiet : Quiet session prog) :
    Quiet session (portion.within prog : Prog (Store Data Lock Session) α) := by
  induction prog with
  | done value => trivial
  | step ready run next ih =>
    intro store isReady
    obtain ⟨step, quietNext⟩ := quiet (portion.view store) isReady
    exact ⟨quietStep step, ih _ quietNext⟩

structure Refines (portion : Portion Data Lock Sub SubLock) (whole : Access Data Lock Session)
    (part : Access Sub SubLock Session) : Prop where
  get_put : ∀ sub data, portion.get (portion.put sub data) = sub
  unlock_lock : ∀ lock, portion.unlock (portion.lock lock) = some lock
  inv : ∀ {data now}, whole.inv data now → part.inv (portion.get data) now
  writes : ∀ {free data data' now}, whole.inv data now → whole.inv data' now →
    whole.writes free data data' →
      part.writes { lock | portion.lock lock ∈ free } (portion.get data) (portion.get data')
  acts : ∀ {free data now sub}, whole.inv data now → part.inv sub now →
    part.writes { lock | portion.lock lock ∈ free } (portion.get data) sub →
      whole.inv (portion.put sub data) now ∧ whole.writes free data (portion.put sub data)
  meets : ∀ {session free now data sub}, whole.meets session free now data (portion.put sub data) →
    part.meets session { lock | portion.lock lock ∈ free } now (portion.get data) sub

variable {part : Access Sub SubLock Session} {whole : Access Data Lock Session}
  {result : α → Sub → Int → Prop}

theorem Refines.runs_within (refines : portion.Refines whole part) {owned left : Set SubLock}
    {fact : Sub → Int → Prop} (runs : part.Runs session owned fact prog left result) :
    whole.Runs session (portion.lock '' owned) (fun data now => fact (portion.get data) now)
      (portion.within prog) (portion.lock '' left)
      fun value data now => result value (portion.get data) now := by
  have knows : ∀ {owned : Set SubLock} {fact : Sub → Int → Prop} {store : Store Data Lock Session},
      Access.Knows session (portion.lock '' owned) (fun data now => fact (portion.get data) now)
        store ↔ Access.Knows session owned fact (portion.view store) := by
    intro owned fact store
    constructor
    · exact fun known => ⟨fun lock member => known.1 _ ⟨lock, member, rfl⟩, known.2⟩
    · refine fun known => ⟨fun held member => ?_, known.2⟩
      obtain ⟨lock, isOwned, same⟩ := member
      exact same ▸ known.1 lock isOwned
  intro store inv known
  have safe := runs (portion.view store) (refines.inv inv) (knows.1 known)
  refine (Discipline.Safe.within ?_ ?_ ?_ ?_ ?_ safe).mono fun value _ => knows.2
  · intro sub whole
    cases sub
    simp only [view, write, refines.get_put, refines.unlock_lock, Option.elim_some]
  · exact fun store inv => refines.inv inv
  · intro store store' rely
    obtain ⟨inv, inv', moved⟩ := rely
    refine ⟨refines.inv inv, refines.inv inv', ?_⟩
    rcases moved with ⟨later, sameData, sameOwner⟩ | ⟨other, isOther, sameNow, writes, keeps⟩
    · left
      refine ⟨later, congrArg portion.get sameData, ?_⟩
      exact funext fun lock => congrFun sameOwner (portion.lock lock)
    · right
      refine ⟨other, isOther, sameNow, ?_, fun lock => keeps (portion.lock lock)⟩
      have inv'' : whole.inv store'.data store.now := sameNow ▸ inv'
      exact refines.writes inv inv'' writes
  · intro store sub met
    exact refines.meets met
  · intro store sub inv invSub guar
    obtain ⟨sameNow, writes, keeps⟩ := guar
    have invSub' : part.inv sub.data store.now := sameNow ▸ invSub
    change part.writes { lock | portion.lock lock ∈ store.free session } _ _ at writes
    obtain ⟨invPut, writesPut⟩ := refines.acts inv invSub' writes
    refine ⟨?_, sameNow, writesPut, ?_⟩
    · change whole.inv (portion.put sub.data store.data) sub.now
      rw [sameNow]
      exact invPut
    · intro held other isOther owned
      cases unlocked : portion.unlock held with
      | none => simpa [write, unlocked] using owned
      | some lock =>
        rw [← portion.lock_of_unlock unlocked] at owned
        simpa [write, unlocked] using keeps lock other isOther owned

/-- Without locks to start from or to end with. -/
theorem Refines.runs_within_free (refines : portion.Refines whole part) {fact : Sub → Int → Prop}
    (runs : part.Runs session ∅ fact prog ∅ result) :
    whole.Runs session ∅ (fun data now => fact (portion.get data) now) (portion.within prog) ∅
      fun value data now => result value (portion.get data) now := by
  have none_ : portion.lock '' (∅ : Set SubLock) ⊆ (∅ : Set Lock) := by
    intro held isHeld
    obtain ⟨lock, impossible, -⟩ := isHeld
    exact impossible
  exact (refines.runs_within runs).weaken none_ (Set.empty_subset _) (fun _ _ _ => id)
    fun _ _ _ => id

end Portion

end Transaction
