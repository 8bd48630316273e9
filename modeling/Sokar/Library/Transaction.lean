import Mathlib.Data.List.Chain
import Mathlib.Order.BooleanAlgebra.Set
import Sokar.Library.Process

/-!
# Transactions over a committed store

The store holds the committed data, the clock and the owner of each lock.  A
transaction takes locks, reads the last committed data one statement at a time,
and commits all its writes in one step that also gives its locks back; a rollback
or a crash only gives the locks back.  This is the read-committed regime: nothing
keeps what was read from changing, except locks.

What a session knows between two statements is a set of locks it owns and a fact
about the data.  A fact is protected by the locks when no write that others may
make without them can falsify it.
-/

namespace Transaction

open Process

variable {Data Lock Session α β : Type}

structure Store (Data Lock Session : Type) where
  data : Data
  now : Int
  owner : Lock → Option Session

section

variable [DecidableEq Lock] [DecidableEq Session]

namespace Store

def release (session : Session) (store : Store Data Lock Session) : Store Data Lock Session :=
  { store with
    owner := fun lock => if store.owner lock = some session then none else store.owner lock }

/-- The locks that no other session owns. -/
def free (session : Session) (store : Store Data Lock Session) : Set Lock :=
  { lock | store.owner lock = none ∨ store.owner lock = some session }

def isFreeFor (session : Session) (lock : Lock) (store : Store Data Lock Session) : Bool :=
  store.owner lock == none || store.owner lock == some session

def take (session : Session) (lock : Lock) (store : Store Data Lock Session) :
    Store Data Lock Session :=
  { store with owner := Function.update store.owner lock (some session) }

end Store

def acquire (session : Session) (lock : Lock) : Prog (Store Data Lock Session) Unit :=
  .await (Store.isFreeFor session lock) (Store.take session lock)

def acquireAll (session : Session) : List Lock → Prog (Store Data Lock Session) Unit
  | [] => pure ()
  | lock :: rest => acquire session lock >>= fun _ => acquireAll session rest

/-- Take a lock if nobody else owns it, and tell whether it was taken. -/
def tryAcquire (session : Session) (lock : Lock) : Prog (Store Data Lock Session) Bool :=
  .update (Store.isFreeFor session lock) fun store =>
    if store.isFreeFor session lock then store.take session lock else store

def query (view : Data → Int → α) : Prog (Store Data Lock Session) α :=
  .read fun store => view store.data store.now

/-- Apply the writes of a transaction and end it. -/
def commit (session : Session) (view : Data → Int → α) (change : Data → Int → Data) :
    Prog (Store Data Lock Session) α :=
  .update (fun store => view store.data store.now) fun store =>
    Store.release session { store with data := change store.data store.now }

def rollback (session : Session) (value : α) : Prog (Store Data Lock Session) α :=
  commit session (fun _ _ => value) fun data _ => data

def Ticks (store store' : Store Data Lock Session) : Prop :=
  store.now ≤ store'.now ∧ store'.data = store.data ∧ store'.owner = store.owner

/-- Sessions that run transactions: a crash gives the locks back and the clock
advances. -/
def system (code : Session → Prog (Store Data Lock Session) α) :
    System Session (Store Data Lock Session) α where
  code
  crash := Store.release
  tick := Ticks

omit [DecidableEq Lock] [DecidableEq Session] in
@[simp] theorem run_query (view : Data → Int → α) (store : Store Data Lock Session) :
    (query view).run store = some (view store.data store.now, store) := rfl

theorem run_tryAcquire (session : Session) (lock : Lock) (store : Store Data Lock Session) :
    (tryAcquire session lock).run store = some (store.isFreeFor session lock,
        if store.isFreeFor session lock then store.take session lock else store) := rfl

variable {store store' : Store Data Lock Session} {session : Session}

/-- A lock is taken only when it is free; the data and the clock stay. -/
theorem run_acquire {lock : Lock} {value : Unit}
    (ran : (acquire session lock).run store = some (value, store')) :
    store' = store.take session lock := by
  simp only [acquire, Prog.await, Prog.run] at ran
  split at ran
  · cases ran
    rfl
  · cases ran

theorem run_acquire_of_free {lock : Lock} {store : Store Data Lock Session}
    (isFree : store.isFreeFor session lock = true) :
    (acquire session lock).run store = some ((), store.take session lock) := by
  simp [acquire, Prog.await, Prog.run, isFree]

theorem isFreeFor_take {held : Lock} {store : Store Data Lock Session}
    (isFree : store.isFreeFor session held = true) (lock : Lock) :
    (store.take session lock).isFreeFor session held = true := by
  by_cases same : held = lock
  · subst same
    simp [Store.isFreeFor, Store.take]
  · simpa [Store.isFreeFor, Store.take, Function.update_of_ne same] using isFree

/-- A session has taken and given back locks only, and no other owns one. -/
structure OnlyLocks (session : Session) (store store' : Store Data Lock Session) : Prop where
  data : store'.data = store.data
  now : store'.now = store.now
  free : ∀ lock, store'.isFreeFor session lock = true

theorem OnlyLocks.take (only : OnlyLocks session store store') (lock : Lock) :
    OnlyLocks session store (store'.take session lock) :=
  ⟨only.data, only.now, fun other => isFreeFor_take (only.free other) lock⟩

section

omit [DecidableEq Lock]

theorem OnlyLocks.release (only : OnlyLocks session store store') :
    OnlyLocks session store (store'.release session) := by
  refine ⟨only.data, only.now, fun lock => ?_⟩
  have isFree := only.free lock
  simp only [Store.isFreeFor, Store.release, Bool.or_eq_true, beq_iff_eq] at isFree ⊢
  rcases isFree with none_ | own
  · simp [none_]
  · simp [own]

theorem run_commit (session : Session) (view : Data → Int → α) (change : Data → Int → Data)
    (store : Store Data Lock Session) :
    (commit session view change).run store = some (view store.data store.now,
      Store.release session { store with data := change store.data store.now }) :=
  rfl

theorem run_rollback (session : Session) (value : α) (store : Store Data Lock Session) :
    (rollback session value).run store = some (value, store.release session) :=
  rfl

end

end

section

variable [DecidableEq Session] {code : Session → Prog (Store Data Lock Session) α}
variable {first c : Config Session (Store Data Lock Session) α}
variable {moves : List (Move Session (Store Data Lock Session))}

def history (first : Data) (moves : List (Move Session (Store Data Lock Session))) : List Data :=
  first :: moves.map fun move => move.after.data

omit [DecidableEq Session] in
theorem history_append (data : Data) (move : Move Session (Store Data Lock Session)) :
    history data (moves ++ [move]) = history data moves ++ [move.after.data] := by
  simp [history]

theorem history_getLast (run : (system code).Run first moves c) :
    (history first.shared.data moves).getLast? = some c.shared.data := by
  induction run with
  | nil => rfl
  | start i _ _ ih => exact ih
  | act i _ _ _ _ => simp [history_append]
  | crash i _ _ ih => exact ih
  | tick _ ticks ih => exact ih.trans (congrArg some ticks.2.1.symm)

variable {related : Data → Data → Prop}

theorem history_isChain (run : (system code).Run first moves c)
    (moved : ∀ move ∈ moves, related move.before.data move.after.data) :
    (history first.shared.data moves).IsChain related := by
  induction run with
  | nil => exact .singleton _
  | start i _ _ ih => exact ih moved
  | act i run _ _ ih =>
    rw [history_append, List.isChain_append]
    refine ⟨ih fun move isMove => moved move (List.mem_append_left _ isMove), .singleton _, ?_⟩
    intro before isLast after isNext
    rw [history_getLast run] at isLast
    cases isLast
    cases isNext
    exact moved _ (List.mem_append_right _ (List.mem_singleton_self _))
  | crash i _ _ ih => exact ih moved
  | tick _ _ ih => exact ih moved

theorem history_pairwise (trans : ∀ {data data' data''}, related data data' → related data' data'' →
      related data data'') (run : (system code).Run first moves c)
    (moved : ∀ move ∈ moves, related move.before.data move.after.data) :
    (history first.shared.data moves).Pairwise related := by
  have isTrans : IsTrans Data related := ⟨fun _ _ _ => trans⟩
  exact List.isChain_iff_pairwise.1 (history_isChain run moved)

structure MovesRelated (related : Data → Data → Prop) (start finish : Data)
    (moves : List (Move Session (Store Data Lock Session))) : Prop where
  overall : related start finish
  ofStart : ∀ move ∈ moves, related start move.before.data
  toEnd : ∀ move ∈ moves, related move.after.data finish
  between : moves.Pairwise fun earlier later => related earlier.after.data later.before.data

theorem moves_related (refl : ∀ data, related data data)
    (trans : ∀ {data data' data''}, related data data' → related data' data'' →
      related data data'') (run : (system code).Run first moves c)
    (moved : ∀ move ∈ moves, related move.before.data move.after.data) :
    MovesRelated related first.shared.data c.shared.data moves := by
  have onStores : StatesRelated
      (fun store store' : Store Data Lock Session => related store.data store'.data)
      first.shared c.shared moves := by
    apply run.related
    · exact fun store => refl store.data
    · exact fun step step' => trans step step'
    · exact fun _ store => refl store.data
    · intro store store' ticks
      rw [ticks.2.1]
      exact refl store.data
    · exact moved
  exact ⟨onStores.overall, onStores.ofStart, onStores.toEnd, onStores.between⟩

theorem kept_of_moves {inv : Data → Prop} (start : inv first.shared.data)
    (run : (system code).Run first moves c)
    (keeps : ∀ move ∈ moves, inv move.before.data → inv move.after.data) :
    (∀ move ∈ moves, inv move.before.data) ∧ ∀ data ∈ history first.shared.data moves, inv data := by
  have related : MovesRelated (fun data data' => inv data → inv data') first.shared.data
      c.shared.data moves := by
    refine moves_related ?_ ?_ run keeps
    · exact fun _ holds => holds
    · exact fun first second holds => second (first holds)
  have before : ∀ move ∈ moves, inv move.before.data :=
    fun move isMove => related.ofStart move isMove start
  refine ⟨before, fun data isData => ?_⟩
  rcases List.mem_cons.1 isData with rfl | isAfter
  · exact start
  · obtain ⟨move, isMove, rfl⟩ := List.mem_map.1 isAfter
    exact keeps move isMove (before move isMove)

theorem countP_raised (flag : Data → Bool) (run : (system code).Run first moves c)
    (stays : ∀ move ∈ moves, flag move.before.data = true → flag move.after.data = true) :
    moves.countP (fun move => !flag move.before.data && flag move.after.data) +
      (flag first.shared.data).toNat = (flag c.shared.data).toNat := by
  induction run with
  | nil => exact Nat.zero_add _
  | start i _ _ ih => exact ih stays
  | act i _ _ _ ih =>
    have earlier := ih fun move isMove => stays move (List.mem_append_left _ isMove)
    have last := stays _ (List.mem_append_right _ (List.mem_singleton_self _))
    rw [List.countP_append, List.countP_singleton, Nat.add_right_comm, earlier]
    revert last
    cases flag _ <;> cases flag _ <;> simp
  | crash i _ _ ih => exact ih stays
  | tick _ ticks ih => exact ticks.2.1 ▸ ih stays

end

/-- An invariant of the committed data, and the writes a session may make while nobody else
owns the locks of a set, as long as every step meets a condition, which may depend on these
locks. -/
structure Access (Data Lock Session : Type) where
  inv : Data → Int → Prop
  writes : Set Lock → Data → Data → Prop
  meets : Session → Set Lock → Int → Data → Data → Prop := fun _ _ _ _ _ => True
  inv_later : ∀ {data now later}, now ≤ later → inv data now → inv data later
  writes_refl : ∀ owned data, writes owned data data
  writes_mono : ∀ {owned more data data'}, owned ⊆ more → writes owned data data' →
    writes more data data'

namespace Access

variable (access : Access Data Lock Session)

/-- What a session may do to the store: writes its locks allow, and changes to its
own locks. -/
def discipline : Discipline Session (Store Data Lock Session) where
  inv store := access.inv store.data store.now
  meets session store store' := access.meets session (store.free session) store.now store.data store'.data
  guar session store store' :=
    store'.now = store.now ∧
    access.writes (store.free session) store.data store'.data ∧
    ∀ lock other, other ≠ session →
      store.owner lock = some other → store'.owner lock = some other
  tick := Ticks

def Knows (session : Session) (owned : Set Lock) (fact : Data → Int → Prop)
    (store : Store Data Lock Session) : Prop :=
  (∀ lock ∈ owned, store.owner lock = some session) ∧ fact store.data store.now

/-- The locks keep others from falsifying the fact, and so does the clock. -/
structure Protects (owned : Set Lock) (fact : Data → Int → Prop) : Prop where
  writes : ∀ {data data' now}, access.inv data now → access.inv data' now →
    access.writes ownedᶜ data data' → fact data now → fact data' now
  clock : ∀ {data now later}, now ≤ later → fact data now → fact data later

variable {access} {session : Session} {owned : Set Lock} {fact : Data → Int → Prop}

theorem Protects.and {other : Data → Int → Prop} (left : access.Protects owned fact)
    (right : access.Protects owned other) :
    access.Protects owned fun data now => fact data now ∧ other data now where
  writes inv inv' change both :=
    ⟨left.writes inv inv' change both.1, right.writes inv inv' change both.2⟩
  clock later both := ⟨left.clock later both.1, right.clock later both.2⟩

theorem protects_const (constant : Prop) : access.Protects owned fun _ _ => constant where
  writes _ _ _ holds := holds
  clock _ holds := holds

theorem Protects.all {ι : Sort*} {facts : ι → Data → Int → Prop}
    (protects : ∀ index, access.Protects owned (facts index)) :
    access.Protects owned fun data now => ∀ index, facts index data now where
  writes inv inv' change holds index := (protects index).writes inv inv' change (holds index)
  clock later holds index := (protects index).clock later (holds index)

/-- What matters only under a condition that says nothing about the data. -/
theorem Protects.when {condition : Prop} (protects : access.Protects owned fact) :
    access.Protects owned fun data now => condition → fact data now where
  writes inv inv' change holds met := protects.writes inv inv' change (holds met)
  clock later holds met := protects.clock later (holds met)

theorem Protects.more {more : Set Lock} (protects : access.Protects owned fact)
    (sub : owned ⊆ more) : access.Protects more fact where
  writes inv inv' change holds :=
    protects.writes inv inv' (access.writes_mono (Set.compl_subset_compl.2 sub) change) holds
  clock later holds := protects.clock later holds

/-- What the locks of a session protect, no interference falsifies. -/
theorem Protects.stable (protects : access.Protects owned fact) :
    access.discipline.Stable session (Knows session owned fact) := by
  rintro store store' ⟨inv, inv', moved⟩ ⟨owns, holds⟩
  rcases moved with ⟨later, sameData, sameOwner⟩ | ⟨other, isOther, sameNow, change, keeps⟩
  · refine ⟨fun lock member => ?_, ?_⟩
    · rw [sameOwner]
      exact owns lock member
    · rw [sameData]
      exact protects.clock later holds
  · refine ⟨fun lock member => keeps lock session isOther.symm (owns lock member), ?_⟩
    change access.inv store'.data store'.now at inv'
    rw [sameNow] at inv' ⊢
    refine protects.writes inv inv' (access.writes_mono ?_ change) holds
    intro lock isFree member
    have mine := owns lock member
    rcases isFree with unowned | taken
    · rw [mine] at unowned
      cases unowned
    · rw [mine, Option.some.injEq] at taken
      exact isOther taken.symm

theorem Knows.mono {fewer : Set Lock} {weaker : Data → Int → Prop}
    {store : Store Data Lock Session} (knows : Knows session owned fact store)
    (sub : fewer ⊆ owned) (implied : fact store.data store.now → weaker store.data store.now) :
    Knows session fewer weaker store :=
  ⟨fun lock member => knows.1 lock (sub member), implied knows.2⟩

theorem guar_of_locks {store : Store Data Lock Session} {owner : Lock → Option Session}
    (keeps : ∀ lock other, other ≠ session → store.owner lock = some other →
      owner lock = some other) :
    access.discipline.guar session store { store with owner } :=
  ⟨rfl, access.writes_refl _ _, keeps⟩

theorem discipline_quiet (store : Store Data Lock Session) :
    access.discipline.guar session store store :=
  guar_of_locks fun _ _ _ owned => owned

/-- Started with some locks owned and a fact, the program keeps to the discipline and
ends with the locks `left` and its result. -/
def Runs (access : Access Data Lock Session) (session : Session) (owned : Set Lock)
    (fact : Data → Int → Prop) (prog : Prog (Store Data Lock Session) α) (left : Set Lock)
    (result : α → Data → Int → Prop) : Prop :=
  access.discipline.Triple session (Knows session owned fact) prog
    fun value => Knows session left (result value)

variable {left : Set Lock} {result : α → Data → Int → Prop}

variable {stronger : Data → Int → Prop}

theorem Runs.weaken {more fewer : Set Lock} {weaker : α → Data → Int → Prop}
    {prog : Prog (Store Data Lock Session) α}
    (runs : access.Runs session owned fact prog left result) (subOwned : owned ⊆ more)
    (subLeft : fewer ⊆ left)
    (implies : ∀ data now, access.inv data now → stronger data now → fact data now)
    (implied : ∀ value data now, result value data now → weaker value data now) :
    access.Runs session more stronger prog fewer weaker := by
  apply Discipline.Triple.weaken runs
  · exact fun store inv knows => knows.mono subOwned (implies _ _ inv)
  · exact fun value store knows => knows.mono subLeft (implied value _ _)

theorem Runs.knowing {prog : Prog (Store Data Lock Session) α}
    (implies : ∀ data now, access.inv data now → stronger data now → fact data now)
    (runs : access.Runs session owned fact prog left result) :
    access.Runs session owned stronger prog left result :=
  runs.weaken subset_rfl subset_rfl implies fun _ _ _ holds => holds

/-- A consequence of the fact that says nothing about the data can be used at once. -/
theorem Runs.assuming {condition : Prop} {prog : Prog (Store Data Lock Session) α}
    (implies : ∀ data now, access.inv data now → fact data now → condition)
    (runs : condition → access.Runs session owned fact prog left result) :
    access.Runs session owned fact prog left result :=
  fun store inv knows => runs (implies _ _ inv knows.2) store inv knows

variable {final : β → Data → Int → Prop}

theorem Runs.bind {mid : Set Lock} {between : α → Data → Int → Prop}
    {first : Prog (Store Data Lock Session) α} {rest : α → Prog (Store Data Lock Session) β}
    (firstRuns : access.Runs session owned fact first mid between)
    (restRuns : ∀ value, access.Runs session mid (between value) (rest value) left final) :
    access.Runs session owned fact (first >>= rest) left final :=
  Discipline.Triple.bind firstRuns restRuns

/-- What no write makes false, whoever makes it, still holds in the end. -/
theorem Runs.frame {kept : Data → Int → Prop} {prog : Prog (Store Data Lock Session) α}
    (runs : access.Runs session owned fact prog left result)
    (keeps : ∀ free data data' now, access.writes free data data' → kept data now → kept data' now)
    (clock : ∀ data now later, now ≤ later → kept data now → kept data later) :
    access.Runs session owned (fun data now => fact data now ∧ kept data now) prog left
      fun value data now => result value data now ∧ kept data now := by
  have guarantees : ∀ session (store store' : Store Data Lock Session),
      access.discipline.guar session store store' → kept store.data store.now →
        kept store'.data store'.now := by
    intro session store store' guar holds
    rw [guar.1]
    exact keeps _ _ _ _ guar.2.1 holds
  have stable : access.discipline.Stable session fun store => kept store.data store.now := by
    rintro store store' ⟨-, -, moved⟩ holds
    rcases moved with ⟨later, sameData, -⟩ | ⟨other, -, guar⟩
    · rw [sameData]
      exact clock _ _ _ later holds
    · exact guarantees other store store' guar holds
  intro store inv knows
  have safe := runs store inv ⟨knows.1, knows.2.1⟩
  exact (safe.frame (guarantees session) stable knows.2.2).mono
    fun value store both => ⟨both.1.1, both.1.2, both.2⟩

/-- A program that returns at once leaves the locks as they are. -/
theorem Runs.pure {value : α} (protects : access.Protects owned (result value))
    (holds : ∀ data now, access.inv data now → fact data now → result value data now) :
    access.Runs session owned fact (Pure.pure value) owned result := by
  apply Discipline.Triple.pure
  · exact protects.stable
  · exact fun store inv knows => ⟨knows.1, holds _ _ inv knows.2⟩

variable {ε : Type}

/-- A result that matters only when there is no error. -/
def OnOk (goal : α → Data → Int → Prop) : Except ε α → Data → Int → Prop
  | .ok value => goal value
  | .error _ => fun _ _ => True

theorem OnOk.imp {goal weaker : α → Data → Int → Prop} {result : Except ε α} {data : Data}
    {now : Int} (holds : OnOk goal result data now)
    (implied : ∀ value, goal value data now → weaker value data now) :
    OnOk weaker result data now := by
  cases result with
  | ok value => exact implied value holds
  | error _ => trivial

variable {goal : α → Data → Int → Prop}

theorem Protects.onOk (protects : ∀ value, access.Protects owned (goal value))
    (result : Except ε α) :
    access.Protects owned (OnOk goal result) := by
  cases result with
  | ok value => exact protects value
  | error _ => exact protects_const True

/-- A program that stops at an error has nothing to show. -/
theorem Runs.error (error : ε) (sub : left ⊆ owned) : access.Runs session owned fact
      (Pure.pure (Except.error error) : Prog (Store Data Lock Session) (Except ε α)) left
      (OnOk goal) := by
  have stops : access.Runs session owned (fun _ _ => True)
      (Pure.pure (Except.error error) : Prog (Store Data Lock Session) (Except ε α)) owned
      (OnOk goal) :=
    Runs.pure (protects_const True) fun _ _ _ _ => trivial
  exact stops.weaken subset_rfl sub (fun _ _ _ _ => trivial) fun _ _ _ holds => holds

/-- An error ends the program with the locks it has then. -/
theorem Runs.andThen {mid : Set Lock} {first : Prog (Store Data Lock Session) (Except ε α)}
    {rest : α → Prog (Store Data Lock Session) (Except ε β)}
    (firstRuns : access.Runs session owned fact first mid (OnOk goal)) (sub : left ⊆ mid)
    (restRuns : ∀ value, access.Runs session mid (goal value) (rest value) left (OnOk final)) :
    access.Runs session owned fact (first.andThen rest) left (OnOk final) := by
  apply Runs.bind firstRuns
  intro result
  cases result with
  | ok value => exact restRuns value
  | error error => exact Runs.error error sub

/-- Nothing is said about how a program ends. -/
abbrev Ends {ε : Type} : Except ε α → Data → Int → Prop :=
  OnOk fun _ _ _ => True

/-- The program starts and ends without locks. -/
abbrev Serves (access : Access Data Lock Session) (session : Session) {ε : Type}
    (prog : Prog (Store Data Lock Session) (Except ε α)) : Prop :=
  access.Runs session ∅ (fun _ _ => True) prog ∅ Ends

theorem Ends.of (result : Except ε α) (data : Data) (now : Int) : Ends result data now := by
  cases result with
  | ok value => trivial
  | error _ => trivial

theorem protects_ends (result : Except ε α) :
    access.Protects owned (Ends result : Data → Int → Prop) :=
  Protects.onOk (fun _ => protects_const True) result

theorem ends_pure (result : Except ε α) : access.Runs session owned fact
      (Pure.pure result : Prog (Store Data Lock Session) (Except ε α)) owned Ends :=
  Runs.pure (protects_ends result) fun data now _ _ => .of result data now

theorem ends_map {prog : Prog (Store Data Lock Session) (Except ε α)} {answer : α → β}
    (runs : access.Runs session owned fact prog left Ends) :
    access.Runs session owned fact
      (prog.andThen fun value => Pure.pure (.ok (answer value))) left Ends :=
  Runs.andThen runs subset_rfl fun value => ends_pure (.ok (answer value))

variable {view : Data → Int → α} {learned : α → Data → Int → Prop}

/-- A read that meets the condition establishes what its result says, when the locks protect
it. -/
theorem Runs.readWhen (protects : access.Protects owned fact)
    (protectsLearned : ∀ value, access.Protects owned (learned value))
    (holds : ∀ free data now, access.inv data now → fact data now →
      access.meets session free now data data → learned (view data now) data now) :
    access.Runs session owned fact (Transaction.query view) owned
      fun value data now => fact data now ∧ learned value data now := by
  apply Discipline.Triple.readWhen protects.stable discipline_quiet
  · exact fun value => (protects.and (protectsLearned value)).stable
  · exact fun store inv knows meets => ⟨knows.1, knows.2, holds _ _ _ inv knows.2 meets⟩

/-- A statement that reads establishes what its result says, when the locks protect
it. -/
theorem Runs.read (protects : access.Protects owned fact)
    (protectsLearned : ∀ value, access.Protects owned (learned value))
    (holds : ∀ data now, access.inv data now → fact data now → learned (view data now) data now) :
    access.Runs session owned fact (Transaction.query view) owned
      fun value data now => fact data now ∧ learned value data now := by
  apply Discipline.Triple.read protects.stable discipline_quiet
  · exact fun value => (protects.and (protectsLearned value)).stable
  · exact fun store inv knows => ⟨knows.1, knows.2, holds _ _ inv knows.2⟩

theorem Runs.query {rest : α → Prog (Store Data Lock Session) β}
    (protects : access.Protects owned fact)
    (protectsLearned : ∀ value, access.Protects owned (learned value))
    (holds : ∀ data now, access.inv data now → fact data now →
      learned (view data now) data now) (restRuns : ∀ value, access.Runs session owned
      (fun data now => fact data now ∧ learned value data now) (rest value) left final) :
    access.Runs session owned fact (Transaction.query view >>= rest) left final :=
  Runs.bind (Runs.read protects protectsLearned holds) restRuns

/-- A statement whose result is not relied on. -/
theorem Runs.look (protects : access.Protects owned fact) :
    access.Runs session owned fact (Transaction.query view) owned fun _ => fact := by
  apply Discipline.Triple.read protects.stable discipline_quiet
  · exact fun _ => protects.stable
  · exact fun store _ knows => knows

theorem Runs.glance {rest : α → Prog (Store Data Lock Session) β}
    (protects : access.Protects owned fact)
    (restRuns : ∀ value, access.Runs session owned fact (rest value) left final) :
    access.Runs session owned fact (Transaction.query view >>= rest) left final :=
  Runs.bind (Runs.look protects) restRuns

theorem Runs.found {view : Data → Int → Option α}
    {rest : Option α → Prog (Store Data Lock Session) β} (protects : access.Protects owned fact)
    (absent : access.Runs session owned fact (rest none) left final)
    (restRuns : ∀ value, access.Runs session owned fact (rest (some value)) left final) :
    access.Runs session owned fact (Transaction.query view >>= rest) left final :=
  Runs.glance protects fun
    | none => absent
    | some value => restRuns value

section

variable [DecidableEq Session]

theorem release_keeps (store : Store Data Lock Session) (lock : Lock) (other : Session)
    (isOther : other ≠ session) (owned : store.owner lock = some other) :
    (store.release session).owner lock = some other := by
  simp only [Store.release, owned, Option.some.injEq, isOther, if_false]

variable {store : Store Data Lock Session}

omit [DecidableEq Session] in
theorem Knows.free (knows : Knows session owned fact store) : owned ⊆ store.free session :=
  fun lock member => .inr (knows.1 lock member)

variable {change : Data → Int → Data} {view : Data → Int → α}

/-- A commit that meets the condition must keep the invariant and write only what the
locks that nobody else owns allow. -/
theorem Runs.commitFree (protects : access.Protects owned fact)
    (protectsResult : ∀ value, access.Protects ∅ (result value))
    (keeps : ∀ free data now, owned ⊆ free → access.inv data now → fact data now →
      access.meets session free now data (change data now) →
        access.inv (change data now) now ∧ access.writes free data (change data now))
    (holds : ∀ free data now, owned ⊆ free → access.inv data now → fact data now →
      access.meets session free now data (change data now) →
        result (view data now) (change data now) now) :
    access.Runs session owned fact (Transaction.commit session view change) ∅ result := by
  apply Discipline.Triple.updateWhen protects.stable
  · exact fun value => (protectsResult value).stable
  · intro store inv knows meets
    obtain ⟨inv', change⟩ := keeps _ _ _ knows.free inv knows.2 meets
    refine ⟨inv', rfl, change, ?_⟩
    exact fun lock other isOther owned => release_keeps _ lock other isOther owned
  · exact fun store inv knows meets => ⟨fun lock member => absurd member (Set.notMem_empty lock),
      holds _ _ _ knows.free inv knows.2 meets⟩

/-- The condition on steps, whatever locks are free. -/
def Meets (access : Access Data Lock Session) (session : Session) (now : Int)
    (data data' : Data) : Prop :=
  ∃ free, access.meets session free now data data'

/-- A commit that meets the condition must keep the invariant and write only what the
owned locks allow. -/
theorem Runs.commitWhen (protects : access.Protects owned fact)
    (protectsResult : ∀ value, access.Protects ∅ (result value))
    (keeps : ∀ data now, access.inv data now → fact data now →
      access.Meets session now data (change data now) →
        access.inv (change data now) now ∧ access.writes owned data (change data now))
    (holds : ∀ data now, access.inv data now → fact data now →
      access.Meets session now data (change data now) →
        result (view data now) (change data now) now) :
    access.Runs session owned fact (Transaction.commit session view change) ∅ result := by
  apply Runs.commitFree protects protectsResult
  · intro free data now sub inv known meets
    obtain ⟨inv', writes⟩ := keeps data now inv known ⟨free, meets⟩
    exact ⟨inv', access.writes_mono sub writes⟩
  · exact fun free data now _ inv known meets => holds data now inv known ⟨free, meets⟩

/-- A commit must keep the invariant and write only what the owned locks allow. -/
theorem Runs.commit (protects : access.Protects owned fact)
    (protectsResult : ∀ value, access.Protects ∅ (result value))
    (keeps : ∀ data now, access.inv data now → fact data now →
      access.inv (change data now) now ∧ access.writes owned data (change data now))
    (holds : ∀ data now, access.inv data now → fact data now →
      result (view data now) (change data now) now) :
    access.Runs session owned fact (Transaction.commit session view change) ∅ result :=
  Runs.commitWhen protects protectsResult (fun data now inv known _ => keeps data now inv known)
    fun data now inv known _ => holds data now inv known

theorem Runs.rollback {value : α} (protects : access.Protects owned fact)
    (protectsResult : ∀ value, access.Protects ∅ (result value))
    (holds : ∀ data now, access.inv data now → fact data now → result value data now) :
    access.Runs session owned fact (Transaction.rollback session value) ∅ result :=
  Runs.commit protects protectsResult (fun data _ inv _ => ⟨inv, access.writes_refl owned data⟩)
    holds

variable [DecidableEq Lock]

variable {lock : Lock}

theorem take_keeps (isFree : store.isFreeFor session lock = true) (held : Lock) (other : Session)
    (isOther : other ≠ session) (owned : store.owner held = some other) :
    (store.take session lock).owner held = some other := by
  by_cases same : held = lock
  · subst same
    simp only [Store.isFreeFor, owned, Bool.or_eq_true, beq_iff_eq, Option.some.injEq,
      reduceCtorEq, isOther, or_self] at isFree
  · exact (Function.update_of_ne same ..).trans owned

omit [DecidableEq Session] in
theorem Knows.take (knows : Knows session owned fact store) (lock : Lock) :
    Knows session (insert lock owned) fact (store.take session lock) := by
  refine ⟨fun held member => ?_, knows.2⟩
  by_cases same : held = lock
  · subst same
    exact Function.update_self ..
  · exact (Function.update_of_ne same ..).trans (knows.1 held (member.resolve_left same))

theorem Runs.take (protects : access.Protects owned fact) :
    access.Runs session owned fact (Transaction.acquire session lock) (insert lock owned)
      fun _ => fact := by
  apply Discipline.Triple.await protects.stable
  · exact (protects.more (Set.subset_insert lock owned)).stable
  · exact fun store inv _ isFree => ⟨inv, guar_of_locks (take_keeps isFree)⟩
  · exact fun store _ knows _ => knows.take lock

theorem Runs.acquire {final : β → Data → Int → Prop}
    {rest : Unit → Prog (Store Data Lock Session) β} (protects : access.Protects owned fact)
    (restRuns : access.Runs session (insert lock owned) fact (rest ()) left final) :
    access.Runs session owned fact (Transaction.acquire session lock >>= rest) left final :=
  Runs.bind (Runs.take protects) fun _ => restRuns

theorem Runs.acquireAll {locks : List Lock} (protects : access.Protects owned fact) :
    access.Runs session owned fact (Transaction.acquireAll session locks)
      (owned ∪ { lock | lock ∈ locks }) fun _ => fact := by
  induction locks generalizing owned with
  | nil =>
    have none_ : { lock : Lock | lock ∈ ([] : List Lock) } = ∅ := by
      ext lock
      simp
    rw [none_, Set.union_empty]
    exact Runs.pure protects fun _ _ _ known => known
  | cons lock rest ih =>
    have all : owned ∪ { held | held ∈ lock :: rest } =
        insert lock owned ∪ { held | held ∈ rest } := by
      ext held
      simp only [List.mem_cons, Set.mem_union, Set.mem_insert_iff, Set.mem_ofPred_eq]
      rw [or_left_comm, or_assoc]
    rw [all]
    exact Runs.acquire protects (ih (protects.more (Set.subset_insert lock owned)))

theorem Runs.tryAcquire {final : β → Data → Int → Prop}
    {rest : Bool → Prog (Store Data Lock Session) β} (protects : access.Protects owned fact)
    (restRuns : ∀ taken, access.Runs session owned fact (rest taken) left final) :
    access.Runs session owned fact (Transaction.tryAcquire session lock >>= rest) left final := by
  refine Runs.bind ?_ restRuns
  apply Discipline.Triple.update protects.stable
  · exact fun _ => protects.stable
  · intro store inv _
    split
    next isFree => exact ⟨inv, guar_of_locks (take_keeps isFree)⟩
    next => exact ⟨inv, discipline_quiet store⟩
  · intro store _ knows
    split
    next => exact (knows.take lock).mono (Set.subset_insert lock owned) id
    next => exact knows

omit [DecidableEq Lock] in
theorem governs {code : Session → Prog (Store Data Lock Session) α}
    {outcome : Session → α → Data → Int → Prop}
    (runs : ∀ session, access.Runs session ∅ (fun _ _ => True) (code session) ∅ (outcome session)) :
    access.discipline.Governs (system code) fun session value => Knows session ∅ (outcome session value) where
  code session store inv :=
    runs session store inv ⟨fun lock member => absurd member (Set.notMem_empty lock), trivial⟩
  crash _ _ inv :=
    ⟨inv, guar_of_locks fun lock other isOther owned => release_keeps _ lock other isOther owned⟩
  tick store store' inv ticks := by
    refine ⟨?_, ticks⟩
    change access.inv store'.data store'.now
    rw [ticks.2.1]
    exact access.inv_later ticks.1 inv

structure Written (access : Access Data Lock Session)
    (move : Move Session (Store Data Lock Session)) : Prop where
  inv : access.inv move.before.data move.before.now
  inv' : access.inv move.after.data move.after.now
  writes : access.writes (move.before.free move.session) move.before.data move.after.data

/-- A configuration from which checked sessions go on as they should. -/
def Sound (access : Access Data Lock Session) (outcome : Session → α → Data → Int → Prop)
    (c : Config Session (Store Data Lock Session) α) : Prop :=
  access.discipline.Sound (fun session value => Knows session ∅ (outcome session value)) c

variable {c : Config Session (Store Data Lock Session) α}

section

omit [DecidableEq Session] [DecidableEq Lock]

theorem Sound.inv {outcome : Session → α → Data → Int → Prop} (sound : access.Sound outcome c) :
    access.inv c.shared.data c.shared.now :=
  Discipline.Sound.inv sound

theorem Sound.outcome {outcome : Session → α → Data → Int → Prop} (sound : access.Sound outcome c)
    {session : Session} {value : α} (finished : c.procs session = some (.done value)) :
    outcome session value c.shared.data c.shared.now :=
  (Discipline.Sound.finished sound finished).2

theorem sound_initial {outcome : Session → α → Data → Int → Prop}
    (inv : access.inv store.data store.now) :
    access.Sound outcome (.initial store) :=
  Discipline.sound_initial inv

end

section

variable {code : Session → Prog (Store Data Lock Session) α}
variable {outcome : Session → α → Data → Int → Prop}

variable {moves : List (Move Session (Store Data Lock Session))}
  {first c : Config Session (Store Data Lock Session) α}

omit [DecidableEq Lock] in
theorem run_sound
    (runs : ∀ session, access.Runs session ∅ (fun _ _ => True) (code session) ∅ (outcome session))
    (sound : access.Sound outcome first) (run : (system code).Run first moves c)
    (meets : ∀ move ∈ moves, access.meets move.session (move.before.free move.session)
      move.before.now move.before.data move.after.data) :
    access.Sound outcome c ∧ ∀ move ∈ moves, access.Written move := by
  obtain ⟨soundHere, kept⟩ := Discipline.sound_of_run (governs runs) sound run meets
  exact ⟨soundHere, fun move isMove =>
    ⟨(kept move isMove).inv, (kept move isMove).inv', (kept move isMove).guar.2.1⟩⟩

omit [DecidableEq Lock] in
/-- Sessions whose programs run without locks or facts to start from keep the
invariant in every reachable configuration, and their results are as stated. -/
theorem reaches_sound
    (runs : ∀ session, access.Runs session ∅ (fun _ _ => True) (code session) ∅ (outcome session))
    (always : ∀ session free now data data', access.meets session free now data data')
    {store : Store Data Lock Session} (inv : access.inv store.data store.now)
    {c : Config Session (Store Data Lock Session) α}
    (reaches : (system code).Reaches (.initial store) c) :
    access.inv c.shared.data c.shared.now ∧
      ∀ session value, c.procs session = some (.done value) →
        outcome session value c.shared.data c.shared.now := by
  obtain ⟨moves, run⟩ := reaches.run
  have soundEnd := (run_sound runs (sound_initial inv) run fun _ _ => always _ _ _ _ _).1
  exact ⟨soundEnd.inv, fun _ _ finished => soundEnd.outcome finished⟩

def DataRelated (related : Data → Data → Prop) (store store' : Store Data Lock Session) : Prop :=
  related store.data store'.data

omit [DecidableEq Lock] in
theorem run_related
    (runs : ∀ session, access.Runs session ∅ (fun _ _ => True) (code session) ∅ (outcome session))
    (related : Data → Data → Prop) (refl : ∀ data, related data data)
    (trans : ∀ {data data' data''}, related data data' → related data' data'' → related data data'')
    (writes : ∀ {owned data data'}, access.writes owned data data' → related data data')
    (sound : access.Sound outcome first) (run : (system code).Run first moves c)
    (meets : ∀ move ∈ moves, access.meets move.session (move.before.free move.session)
      move.before.now move.before.data move.after.data) :
    related first.shared.data c.shared.data := by
  have ticks : ∀ {s s' : Store Data Lock Session}, access.discipline.tick s s' →
      DataRelated related s s' := by
    intro s s' ticks
    rw [DataRelated, ticks.2.1]
    exact refl _
  have acts : ∀ {i : Session} {s s' : Store Data Lock Session}, access.discipline.inv s →
      access.discipline.inv s' → access.discipline.guar i s s' → DataRelated related s s' :=
    fun _ _ act => writes act.2.1
  exact Discipline.run_related (governs runs) (DataRelated related) (fun s => refl s.data)
    (fun first second => trans first second) ticks acts sound run meets

end

end

end Access

end Transaction
