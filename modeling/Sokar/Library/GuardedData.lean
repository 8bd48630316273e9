import Sokar.Library.Transaction

/-!
# Data guarded part by part

Each lock guards a part of the data that only its owner changes, and all data evolves
one way whoever writes it.  A fact about the part a session has locked, or one that the
evolution of the data keeps, stays true until the session commits.

A transaction decides under its locks what it will write, or stops; the writes are made
when it commits, unless a constraint refuses what they lead to.
-/

namespace Transaction

open Process

variable {Data Lock Session Error α β : Type}

/-- The part of the data each lock guards, given by when two versions of the data agree
on it, and how versions follow each other. -/
structure Parts (Data Lock : Type) where
  same : Lock → Data → Data → Prop
  evolves : Data → Data → Prop
  same_refl : ∀ lock data, same lock data data
  evolves_refl : ∀ data, evolves data data
  same_trans : ∀ {lock data data' data''}, same lock data data' → same lock data' data'' →
    same lock data data''
  evolves_trans : ∀ {data data' data''}, evolves data data' → evolves data' data'' →
    evolves data data''

namespace Parts

variable (parts : Parts Data Lock)

structure Writes (owned : Set Lock) (data data' : Data) : Prop where
  evolves : parts.evolves data data'
  same : ∀ lock ∉ owned, parts.same lock data data'

/-- Writes that keep to the owned parts and, under a condition, an invariant of the data
and the clock. -/
def timedAccess (inv : Data → Int → Prop)
    (inv_later : ∀ {data now later}, now ≤ later → inv data now → inv data later)
    (meets : Session → Set Lock → Int → Data → Data → Prop) : Access Data Lock Session where
  inv
  meets
  writes := parts.Writes
  inv_later
  writes_refl _ data := ⟨parts.evolves_refl data, fun lock _ => parts.same_refl lock data⟩
  writes_mono sub writes := ⟨writes.evolves, fun lock outside => writes.same lock (outside <| sub ·)⟩

/-- Writes that keep to the owned parts and, under a condition, an invariant of the
data. -/
def accessWhen (inv : Data → Prop) (meets : Session → Set Lock → Int → Data → Data → Prop) :
    Access Data Lock Session :=
  parts.timedAccess (fun data _ => inv data) (fun _ holds => holds) meets

/-- Writes that keep to the owned parts and to an invariant of the data, and are each as a
relation says. -/
def accessAlong (inv : Data → Prop) (steps : Data → Data → Prop)
    (steps_refl : ∀ data, steps data data) : Access Data Lock Session where
  inv data _ := inv data
  writes owned data data' := parts.Writes owned data data' ∧ steps data data'
  inv_later _ holds := holds
  writes_refl _ data :=
    ⟨⟨parts.evolves_refl data, fun lock _ => parts.same_refl lock data⟩, steps_refl data⟩
  writes_mono sub writes :=
    ⟨⟨writes.1.evolves, fun lock outside => writes.1.same lock (outside <| sub ·)⟩, writes.2⟩

variable {parts} {inv : Data → Prop} {meets : Session → Set Lock → Int → Data → Data → Prop}
variable {owned : Set Lock} {fact : Data → Prop} {data data' data'' : Data}

theorem Writes.refl (owned : Set Lock) (data : Data) : parts.Writes owned data data where
  evolves := parts.evolves_refl data
  same lock _ := parts.same_refl lock data

theorem Writes.mono {more : Set Lock} (writes : parts.Writes owned data data')
    (sub : owned ⊆ more) : parts.Writes more data data' where
  evolves := writes.evolves
  same lock outside := writes.same lock (outside <| sub ·)

theorem Writes.trans (first : parts.Writes owned data data')
    (second : parts.Writes owned data' data'') : parts.Writes owned data data'' where
  evolves := parts.evolves_trans first.evolves second.evolves
  same lock outside := parts.same_trans (first.same lock outside) (second.same lock outside)

theorem protects {lock : Lock} (isOwned : lock ∈ owned)
    (kept : ∀ {data data'}, parts.same lock data data' → fact data → fact data') :
    (parts.accessWhen inv meets).Protects owned fun data _ => fact data where
  writes _ _ writes holds := kept (writes.same lock fun outside => outside isOwned) holds
  clock _ holds := holds

theorem protects_of_evolves
    (kept : ∀ {data data'}, parts.evolves data data' → fact data → fact data') :
    (parts.accessWhen inv meets).Protects owned fun data _ => fact data where
  writes _ _ writes holds := kept writes.evolves holds
  clock _ holds := holds

section

variable {steps : Data → Data → Prop} {steps_refl : ∀ data, steps data data}

theorem protects_along {lock : Lock} (isOwned : lock ∈ owned)
    (kept : ∀ {data data'}, parts.same lock data data' → fact data → fact data') :
    (parts.accessAlong inv steps steps_refl : Access Data Lock Session).Protects owned
      fun data _ => fact data where
  writes _ _ writes holds := kept (writes.1.same lock fun outside => outside isOwned) holds
  clock _ holds := holds

theorem protects_along_of_evolves
    (kept : ∀ {data data'}, parts.evolves data data' → fact data → fact data') :
    (parts.accessAlong inv steps steps_refl : Access Data Lock Session).Protects owned
      fun data _ => fact data where
  writes _ _ writes holds := kept writes.1.evolves holds
  clock _ holds := holds

end

end Parts

/-! ## Transactions that decide, then write -/

namespace Access

variable {access : Access Data Lock Session} {session : Session} {owned : Set Lock}
variable {fact : Data → Int → Prop} {locks : α → Set Lock} {planned : α → Data → Int → Prop}

/-- A program that either stops at an error or decides on a plan; it then owns the locks
of the plan and knows what the plan rests on. -/
def Decides (access : Access Data Lock Session) (session : Session) (owned : Set Lock)
    (fact : Data → Int → Prop) (body : Prog (Store Data Lock Session) (Except Error α))
    (locks : α → Set Lock) (planned : α → Data → Int → Prop) : Prop :=
  access.discipline.Triple session (Knows session owned fact) body fun decided store =>
    ∀ plan, decided = .ok plan → Knows session (locks plan) (planned plan) store

theorem Decides.ok {plan : α} (sub : locks plan ⊆ owned)
    (protects : access.Protects (locks plan) (planned plan))
    (holds : ∀ data now, access.inv data now → fact data now → planned plan data now) :
    access.Decides session owned fact
      (Pure.pure (.ok plan) : Prog (Store Data Lock Session) (Except Error α)) locks planned := by
  apply Discipline.Triple.pure
  · rintro store store' rely knows _ ⟨⟩
    exact protects.stable store store' rely (knows plan rfl)
  · rintro store inv knows _ ⟨⟩
    exact ⟨fun lock member => knows.1 lock (sub member), holds _ _ inv knows.2⟩

theorem Decides.error (error : Error) : access.Decides session owned fact
      (Pure.pure (.error error) : Prog (Store Data Lock Session) (Except Error α)) locks
      planned :=
  Discipline.Triple.pure (fun _ _ _ _ _ impossible => nomatch impossible)
    fun _ _ _ _ impossible => nomatch impossible

variable {body : Prog (Store Data Lock Session) (Except Error α)}

/-- A consequence of the fact that says nothing about the data can be used at once. -/
theorem Decides.assuming {condition : Prop}
    (implies : ∀ data now, access.inv data now → fact data now → condition)
    (decides : condition → access.Decides session owned fact body locks planned) :
    access.Decides session owned fact body locks planned :=
  fun store inv knows => decides (implies _ _ inv knows.2) store inv knows

theorem Decides.knowing {more : Set Lock} {stronger : Data → Int → Prop} (sub : owned ⊆ more)
    (implies : ∀ data now, access.inv data now → stronger data now → fact data now)
    (decides : access.Decides session owned fact body locks planned) :
    access.Decides session more stronger body locks planned :=
  Discipline.Triple.weaken decides
    (fun _ inv knows => ⟨fun lock member => knows.1 lock (sub member), implies _ _ inv knows.2⟩)
    fun _ _ => id

variable {rest : β → Prog (Store Data Lock Session) (Except Error α)}

variable {between : β → Data → Int → Prop}

/-- A statement that never fails comes first. -/
theorem Decides.bind {mid : Set Lock} {first : Prog (Store Data Lock Session) β}
    (firstRuns : access.Runs session owned fact first mid between)
    (restDecides : ∀ value, access.Decides session mid (between value) (rest value) locks planned) :
    access.Decides session owned fact (first >>= rest) locks planned :=
  Discipline.Triple.bind firstRuns restDecides

theorem Decides.andThen {firstLocks : β → Set Lock}
    {first : Prog (Store Data Lock Session) (Except Error β)}
    (firstDecides : access.Decides session owned fact first firstLocks between)
    (restDecides : ∀ value, access.Decides session (firstLocks value) (between value)
      (rest value) locks planned) :
    access.Decides session owned fact (first.andThen rest) locks planned := by
  apply Discipline.Triple.bind firstDecides
  intro decided
  cases decided with
  | error error =>
    apply Discipline.Triple.pure
    · exact fun _ _ _ _ _ impossible => nomatch impossible
    · exact fun _ _ _ _ impossible => nomatch impossible
  | ok value => exact (restDecides value).weaken (fun store _ knows => knows value rfl) fun _ _ => id

theorem Decides.query {view : Data → Int → β} {learned : β → Data → Int → Prop}
    (protects : access.Protects owned fact)
    (protectsLearned : ∀ value, access.Protects owned (learned value))
    (holds : ∀ data now, access.inv data now → fact data now →
      learned (view data now) data now) (restDecides : ∀ value, access.Decides session owned
      (fun data now => fact data now ∧ learned value data now) (rest value) locks planned) :
    access.Decides session owned fact (Transaction.query view >>= rest) locks planned :=
  Decides.bind (Runs.read protects protectsLearned holds) restDecides

theorem Decides.glance {view : Data → Int → β} (protects : access.Protects owned fact)
    (restDecides : ∀ value, access.Decides session owned fact (rest value) locks planned) :
    access.Decides session owned fact (Transaction.query view >>= rest) locks planned :=
  Decides.bind (Runs.look protects) restDecides

end Access

section

variable [DecidableEq Session]

/-- Commit, unless a constraint refuses what the writes lead to. -/
def commitUnless (session : Session) (refusal : Data → Option Error) (view : Data → Int → β)
    (change : Data → Int → Data) : Prog (Store Data Lock Session) (Except Error β) :=
  commit session
    (fun data now => match refusal (change data now) with
      | none => .ok (view data now)
      | some error => .error error)
    fun data now => if (refusal (change data now)).isNone then change data now else data

def transact (session : Session) (body : Prog (Store Data Lock Session) (Except Error α))
    (refusal : Data → Option Error) (view : α → Data → Int → β)
    (change : α → Data → Int → Data) : Prog (Store Data Lock Session) (Except Error β) := do
  let decided ← body
  match decided with
  | .error error => rollback session (.error error)
  | .ok plan => commitUnless session refusal (view plan) (change plan)

variable {body : Prog (Store Data Lock Session) (Except Error α)}
  {store store' : Store Data Lock Session} {refusal : Data → Option Error} {session : Session}

section

variable {view : α → Data → Int → β} {change : α → Data → Int → Data}

theorem run_transact_error {error : Error} (ran : body.run store = some (.error error, store')) :
    (transact session body refusal view change).run store =
      some (.error error, store'.release session) := by
  simp only [transact, Prog.run_bind, ran, Option.bind_some, run_rollback]

/-- A transaction that succeeds has carried out its plan. -/
theorem ok_of_run_transact {result : β}
    (ran : (transact session body refusal view change).run store = some (.ok result, store')) :
    ∃ plan middle, body.run store = some (.ok plan, middle) ∧
      refusal (change plan middle.data middle.now) = none ∧
        result = view plan middle.data middle.now ∧
          store' = Store.release session
            { middle with data := change plan middle.data middle.now } := by
  rw [transact, Prog.run_bind] at ran
  obtain ⟨⟨decided, middle⟩, ranBody, ranRest⟩ := Option.bind_eq_some_iff.1 ran
  cases decided with
  | error error =>
    cases ranRest
  | ok plan =>
    simp only [commitUnless, commit, Prog.run_update] at ranRest
    cases accepted : refusal (change plan middle.data middle.now) with
    | some error =>
      rw [accepted] at ranRest
      cases ranRest
    | none =>
      rw [accepted] at ranRest
      cases ranRest
      exact ⟨plan, middle, ranBody, accepted, rfl, rfl⟩

/-- A plan whose writes no constraint refuses is carried out. -/
theorem run_transact_ok {plan : α} (ran : body.run store = some (.ok plan, store'))
    (accepted : refusal (change plan store'.data store'.now) = none) :
    (transact session body refusal view change).run store =
      some (.ok (view plan store'.data store'.now),
        Store.release session { store' with data := change plan store'.data store'.now }) := by
  simp only [transact, Prog.run_bind, ran, Option.bind_some, commitUnless, commit, Prog.run_update,
    accepted, Option.isNone_none, if_true]

theorem run_transact_refused {plan : α} {error : Error}
    (ran : body.run store = some (.ok plan, store'))
    (refused : refusal (change plan store'.data store'.now) = some error) :
    (transact session body refusal view change).run store =
      some (.error error, store'.release session) := by
  simp only [transact, Prog.run_bind, ran, Option.bind_some, commitUnless, commit, Prog.run_update,
    refused, Option.isNone_some, Bool.false_eq_true, if_false]

end

namespace Access

variable {access : Access Data Lock Session} {session : Session} {owned : Set Lock}
variable {fact : Data → Int → Prop} {locks : α → Set Lock} {planned : α → Data → Int → Prop}

theorem Decides.acquire [DecidableEq Lock] {lock : Lock}
    {rest : Unit → Prog (Store Data Lock Session) (Except Error α)}
    (protects : access.Protects owned fact)
    (restDecides : access.Decides session (insert lock owned) fact (rest ()) locks planned) :
    access.Decides session owned fact (Transaction.acquire session lock >>= rest) locks planned :=
  Decides.bind (Runs.take protects) fun _ => restDecides

variable {refusal : Data → Option Error} {goal : β → Data → Int → Prop}

theorem Runs.commitUnlessFree {view : Data → Int → β} {change : Data → Int → Data}
    (protects : access.Protects owned fact)
    (protectsGoal : ∀ value, access.Protects ∅ (goal value))
    (keeps : ∀ free data now, owned ⊆ free → access.inv data now → fact data now →
      refusal (change data now) = none → access.meets session free now data (change data now) →
        access.inv (change data now) now ∧ access.writes free data (change data now) ∧
          goal (view data now) (change data now) now) :
    access.Runs session owned fact (commitUnless session refusal view change) ∅ (OnOk goal) := by
  apply Runs.commitFree protects (Protects.onOk protectsGoal)
  · intro free data now sub inv holds meets
    cases refused : refusal (change data now) with
    | none =>
      simp only [refused, Option.isNone_none, if_true] at meets ⊢
      obtain ⟨inv', writes, -⟩ := keeps free data now sub inv holds refused meets
      exact ⟨inv', writes⟩
    | some error => exact ⟨inv, access.writes_refl free data⟩
  · intro free data now sub inv holds meets
    cases refused : refusal (change data now) with
    | none =>
      simp only [refused, Option.isNone_none, if_true] at meets ⊢
      exact (keeps free data now sub inv holds refused meets).2.2
    | some error => trivial

theorem Runs.commitUnless {view : Data → Int → β} {change : Data → Int → Data}
    (protects : access.Protects owned fact)
    (protectsGoal : ∀ value, access.Protects ∅ (goal value))
    (keeps : ∀ data now, access.inv data now → fact data now →
      refusal (change data now) = none → access.Meets session now data (change data now) →
        access.inv (change data now) now ∧ access.writes owned data (change data now) ∧
          goal (view data now) (change data now) now) :
    access.Runs session owned fact (commitUnless session refusal view change) ∅ (OnOk goal) := by
  apply Runs.commitUnlessFree protects protectsGoal
  intro free data now sub inv holds accepted meets
  obtain ⟨inv', writes, reached⟩ := keeps data now inv holds accepted ⟨free, meets⟩
  exact ⟨inv', access.writes_mono sub writes, reached⟩

/-- What was decided still holds when its writes are made. -/
theorem Runs.transact {body : Prog (Store Data Lock Session) (Except Error α)}
    {view : α → Data → Int → β} {change : α → Data → Int → Data}
    (decides : access.Decides session owned fact body locks planned)
    (protects : ∀ plan, access.Protects (locks plan) (planned plan))
    (protectsGoal : ∀ value, access.Protects ∅ (goal value))
    (keeps : ∀ plan data now, access.inv data now → planned plan data now →
      refusal (change plan data now) = none → access.Meets session now data (change plan data now) →
        access.inv (change plan data now) now ∧
          access.writes (locks plan) data (change plan data now) ∧
          goal (view plan data now) (change plan data now) now) :
    access.Runs session owned fact (transact session body refusal view change) ∅ (OnOk goal) := by
  apply Discipline.Triple.bind decides
  intro decided
  cases decided with
  | error error =>
    have stops : access.Runs session ∅ (fun _ _ => True)
        (Transaction.rollback session (Except.error error)) ∅ (OnOk goal) :=
      Runs.rollback (protects_const True) (Protects.onOk protectsGoal) fun _ _ _ _ => trivial
    exact Discipline.Triple.weaken stops
      (fun store _ _ => ⟨fun lock member => absurd member (Set.notMem_empty lock), trivial⟩)
      fun _ _ => id
  | ok plan =>
    have commits : access.Runs session (locks plan) (planned plan)
        (Transaction.commitUnless session refusal (view plan) (change plan)) ∅ (OnOk goal) :=
      Runs.commitUnless (protects plan) protectsGoal (keeps plan)
    exact Discipline.Triple.weaken commits (fun store _ knows => knows plan rfl) fun _ _ => id

end Access

end

end Transaction
