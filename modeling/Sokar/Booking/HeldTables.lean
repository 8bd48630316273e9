import Sokar.Booking.ClaimAccess
import Sokar.FloorPlan.AllocationPlan

/-!
# Holds on tables that the checks accept

The checks leave holds that have run out aside.  The search for a hold of the same slot does not,
and it comes before the insertion whose conflict would have such a hold expired.
-/

namespace Sokar

open Process Transaction

/-! ## What the checks accept -/

/-- No active reservation and no live hold meets the window on the table. -/
def isUnclaimed (db : Database) (now : Instant) (check : TableAvailabilityCheck) : Bool :=
  !hasConflictingReservation db check && !hasConflictingHold db now check

variable (args : CreateHoldArgs)

def CreateHoldArgs.allocation : AllocateTableInput where
  restaurantId := args.restaurantId
  partySize := args.partySize
  startsAt := args.slotStart
  endsAt := args.slotEnd
  preferredSectionId := args.preferredSectionId
  excludeTableIds := []
  excludeReservationId := none

def CreateHoldArgs.seating (tableId : Id) : SeatingArgs where
  restaurantId := args.restaurantId
  tableId
  partySize := args.partySize
  startsAt := args.slotStart
  endsAt := args.slotEnd
  excludeReservationId := none

/-- A hold of the same slot on the table that is active, whether it has run out or not. -/
def CreateHoldArgs.slotTaken (db : Database) (tableId : Id) : Bool :=
  db.agenticHolds.any fun row => row.status == .ACTIVE && row.type == .HOLD &&
    row.tableId == some tableId && row.slotStart == args.slotStart

variable (input : AllocateTableInput)

section

variable [Icu]

def SeatingArgs.accepts (args : SeatingArgs) (db : Database) (now : Instant) : Bool :=
  !(findUnassignedSeatingConflict db
      (args.allocation.seatingRequest (some args.tableId) now)).conflict &&
    ((findSeatingTable db args.restaurantId args.tableId).any fun table =>
      (seatingTableError? table args.partySize).isNone) && isUnclaimed db now args.check

variable [Postgres]

/-- The first candidate that the checks accept. -/
def AllocateTableInput.accepted (db : Database) (now : Instant) : Option Table :=
  if (findUnassignedSeatingConflict db (input.seatingRequest none now)).conflict then none
  else (findCandidateTables db input).find? fun table => isUnclaimed db now (input.check table)

/-- The table for a hold: the one asked for, or the first candidate, if the checks accept it. -/
def CreateHoldArgs.accepted (args : CreateHoldArgs) (db : Database) (now : Instant) : Option Id :=
  match truthy args.tableId with
  | none => (args.allocation.accepted db now).map (·.id)
  | some tableId => if (args.seating tableId).accepts db now then some tableId else none

end

section

variable {session : SessionId} {store store' : BookingStore} {args : CreateHoldArgs}

theorem run_tryCandidates_alone (candidates : List Table) (only : OnlyLocks session store store') :
    ∃ last, (tryCandidates session store.now input candidates).run store' =
        some (candidates.find? fun table => isUnclaimed store.data store.now (input.check table),
          last) ∧ OnlyLocks session store last := by
  induction candidates generalizing store' with
  | nil => exact ⟨store', rfl, only⟩
  | cons table rest ih =>
    have isFree := only.free (.table table.id)
    have taken := only.take (.table table.id)
    simp only [tryCandidates, Prog.run_bind, run_tryAcquire, isFree, Option.bind_some, if_true,
      Bool.not_true, Bool.false_eq_true, if_false, run_isTableAvailable, taken.data]
    rw [List.find?_cons, ← isUnclaimed]
    cases isUnclaimed store.data store.now (input.check table) with
    | true => exact ⟨_, rfl, taken⟩
    | false => exact ih taken

theorem run_lockFreeTable_alone (check : TableAvailabilityCheck)
    (only : OnlyLocks session store store')
    (isTable : (store.data.tables.any fun table => table.id == check.tableId) = true) :
    ∃ last, (lockFreeTable session id store.now check).run store' =
        some (isUnclaimed store.data store.now check, last) ∧ OnlyLocks session store last := by
  have taken := only.take (.table check.tableId)
  simp only [lockFreeTable, lockTable, Prog.run_bind, run_acquire_of_free (only.free _),
    Option.bind_some, run_query, taken.data, isTable, Bool.not_true, Bool.false_eq_true, if_false,
    run_isTableAvailable]
  exact ⟨_, rfl, taken⟩

theorem findSeatingTable_some {db : Database} {restaurantId tableId : Id} {table : Table}
    (found : findSeatingTable db restaurantId tableId = some table) :
    (db.tables.any fun table => table.id == tableId) = true := by
  have isTable := List.find?_some found
  exact List.any_eq_true.2
    ⟨table, List.mem_of_find?_eq_some found, (Bool.and_eq_true_iff.1 isTable).1⟩

variable [Icu]

theorem run_allocate_alone [Postgres] (only : OnlyLocks session store store') :
    ∃ last, (allocate session store.now input).run store' =
        some (input.accepted store.data store.now, last) ∧ OnlyLocks session store last := by
  have taken := only.take (.capacity input.restaurantId)
  simp only [allocate, lockRestaurantCapacity, Prog.run_bind, run_acquire_of_free (only.free _),
    Option.bind_some, run_hasGlobalCapacityConflict, taken.data, taken.now,
    AllocateTableInput.accepted]
  split
  next => exact ⟨_, rfl, taken⟩
  next =>
    simp only [Prog.run_bind, run_query, Option.bind_some, taken.data]
    exact run_tryCandidates_alone input _ taken

theorem run_assertTableAvailableForSeating_alone (seating : SeatingArgs)
    (only : OnlyLocks session store store') :
    ∃ result last, (assertTableAvailableForSeating session store.now seating).run store' =
        some (result, last) ∧ OnlyLocks session store last ∧
      (result = .ok () ↔ seating.accepts store.data store.now = true) := by
  have taken := only.take (.capacity seating.restaurantId)
  simp only [assertTableAvailableForSeating, lockRestaurantCapacity, Prog.run_bind,
    run_acquire_of_free (only.free _), Option.bind_some, run_hasGlobalCapacityConflict, taken.data,
    taken.now, SeatingArgs.accepts]
  cases (findUnassignedSeatingConflict store.data
      (seating.allocation.seatingRequest (some seating.tableId) store.now)).conflict with
  | true => exact ⟨_, _, rfl, taken, by simp⟩
  | false =>
    simp only [Bool.false_eq_true, if_false, Prog.run_bind, run_query, taken.data, Option.bind_some]
    cases found : findSeatingTable store.data seating.restaurantId seating.tableId with
    | none => exact ⟨_, _, rfl, taken, by simp⟩
    | some table =>
      dsimp only
      cases isError : seatingTableError? table seating.partySize with
      | some code => exact ⟨_, _, rfl, taken, by simp [isError]⟩
      | none =>
        obtain ⟨last, ran, locked⟩ :=
          run_lockFreeTable_alone seating.check taken (findSeatingTable_some found)
        simp only [Prog.run_bind, ran, Option.bind_some]
        refine ⟨_, _, rfl, locked, ?_⟩
        cases isUnclaimed store.data store.now seating.check <;> simp [isError]

variable [Postgres]

theorem run_holdTable_alone (only : OnlyLocks session store store') :
    ∃ last, (holdTable session store.now args).run store' =
        some (args.accepted store.data store.now, last) ∧ OnlyLocks session store last := by
  unfold holdTable CreateHoldArgs.accepted
  cases truthy args.tableId with
  | none =>
    obtain ⟨last, ran, locked⟩ := run_allocate_alone args.allocation only
    refine ⟨last, ?_, locked⟩
    change (allocate session store.now args.allocation >>= _).run store' = _
    rw [Prog.run_bind, ran]
    rfl
  | some tableId =>
    obtain ⟨result, last, ran, locked, isOk⟩ :=
      run_assertTableAvailableForSeating_alone (args.seating tableId) only
    refine ⟨last, ?_, locked⟩
    change (assertTableAvailableForSeating session store.now (args.seating tableId) >>= _).run
      store' = _
    rw [Prog.run_bind, ran]
    cases result with
    | ok value => simp [← isOk]
    | error code => simp [← isOk]

theorem run_createHoldAttempt_alone (attempt : Nat) (expiresAt : Instant) {tableId : Id}
    (only : OnlyLocks session store store')
    (accepted : args.accepted store.data store.now = some tableId) :
    ∃ last, OnlyLocks session store last ∧
      (createHoldAttempt session args expiresAt attempt).run store' =
        (if store.data.agenticHolds.any (args.sameSlot tableId) then
            rollback session (.refused .HoldConflict)
          else do
            let created ← commitChecked session (args.newId attempt) fun db now =>
              db.insertHold (args.row attempt tableId expiresAt now)
            pure (match created with
              | .ok holdId => .created holdId
              | .error (.constraint .unique) => .taken tableId
              | .error error => .refused error)).run last := by
  have alone : ∃ last, (holdTable session store.now args).run store' =
      some (args.accepted store.data store.now, last) ∧ OnlyLocks session store last :=
    run_holdTable_alone only
  obtain ⟨last, ran, locked⟩ := alone
  refine ⟨last, locked, ?_⟩
  rw [accepted] at ran
  simp only [createHoldAttempt, clock, Prog.run_bind, run_query, Option.bind_some, only.now, ran]
  exact locked.data ▸ rfl

end

section

variable {args : CreateHoldArgs} {db : Database} {attempt : Nat} {tableId : Id}
  {expiresAt createdAt : Instant}

theorem sameHoldSlot_row (hold : AgenticHold) :
    sameHoldSlot hold (args.row attempt tableId expiresAt createdAt) =
      (hold.status == .ACTIVE && hold.type == .HOLD && hold.tableId == some tableId &&
        hold.slotStart == args.slotStart) := by
  unfold sameHoldSlot CreateHoldArgs.row
  grind

/-- The hold that is found before the insertion is one that the index would refuse. -/
theorem slotTaken_of_sameSlot (isSame : db.agenticHolds.any (args.sameSlot tableId) = true) :
    args.slotTaken db tableId = true := by
  obtain ⟨hold, isHold, same⟩ := List.any_eq_true.1 isSame
  refine List.any_eq_true.2 ⟨hold, isHold, ?_⟩
  simp only [CreateHoldArgs.sameSlot, Bool.and_eq_true] at same ⊢
  obtain ⟨⟨⟨⟨-, slot⟩, type⟩, active⟩, table⟩ := same
  exact ⟨⟨⟨active, type⟩, table⟩, slot⟩

theorem violation?_insertHold_taken (taken : args.slotTaken db tableId = true) :
    violation? (db.insertHold (args.row attempt tableId expiresAt createdAt)) = some .unique := by
  obtain ⟨hold, isHold, same⟩ := List.any_eq_true.1 taken
  have notUnique :
      holdSlotsUnique (db.insertHold (args.row attempt tableId expiresAt createdAt)) = false := by
    rw [holdSlotsUnique, decide_eq_false_iff_not]
    intro apart
    have differs := (List.pairwise_append.1 apart).2.2 hold isHold _ (List.mem_singleton_self _)
    rw [sameHoldSlot_row, same] at differs
    cases differs
  rw [violation?, notUnique, Bool.not_false, Bool.or_true, if_pos rfl]

theorem violation?_insertHold_free (valid : violation? db = none)
    (isNew : ∀ hold ∈ db.agenticHolds, hold.id ≠ args.newId attempt)
    (isTable : (db.tables.any fun table => table.id == tableId) = true)
    (free : args.slotTaken db tableId = false) :
    violation? (db.insertHold (args.row attempt tableId expiresAt createdAt)) = none := by
  obtain ⟨keys, slots, tables, noOverlap⟩ := violation?_eq_none.1 valid
  refine violation?_eq_none.2 ⟨?_, ?_, ?_, noOverlap⟩
  · simp only [keysUnique, Bool.and_eq_true, decide_eq_true_eq] at keys ⊢
    obtain ⟨⟨⟨tableKeys, reservationKeys⟩, holdKeys⟩, consumed⟩ := keys
    refine ⟨⟨⟨tableKeys, reservationKeys⟩, ?_⟩, consumed⟩
    rw [Database.insertHold, List.map_append, List.nodup_append]
    refine ⟨holdKeys, List.nodup_singleton _, ?_⟩
    simpa [CreateHoldArgs.row] using isNew
  · rw [holdSlotsUnique, decide_eq_true_eq] at slots ⊢
    refine List.pairwise_append.2 ⟨slots, List.pairwise_singleton _ _, ?_⟩
    intro hold isHold row isRow
    cases List.mem_singleton.1 isRow
    rw [sameHoldSlot_row]
    exact Bool.eq_false_iff.2 (List.any_eq_false.1 free hold isHold)
  · simp only [tableKeysExist, Database.insertHold, Bool.and_eq_true, List.all_append] at tables ⊢
    refine ⟨tables.1, tables.2, ?_⟩
    simpa [CreateHoldArgs.row] using isTable

end

section

variable [Icu] [Postgres] {session : SessionId} {store store' : BookingStore}
  {args : CreateHoldArgs} {expiresAt : Instant} {tableId : Id}

theorem isTable_of_accepted {db : Database} {now : Instant}
    (accepted : args.accepted db now = some tableId) :
    (db.tables.any fun table => table.id == tableId) = true := by
  unfold CreateHoldArgs.accepted at accepted
  split at accepted
  next =>
    obtain ⟨table, isAccepted, rfl⟩ := Option.map_eq_some_iff.1 accepted
    unfold AllocateTableInput.accepted at isAccepted
    split at isAccepted
    next => cases isAccepted
    next =>
      have isCandidate := List.mem_of_find?_eq_some isAccepted
      exact List.any_eq_true.2 ⟨table, (qualifies_of_candidate isCandidate).row, beq_self_eq_true _⟩
  next asked _ =>
    split at accepted
    next accepts =>
      cases accepted
      simp only [SeatingArgs.accepts, Bool.and_eq_true, Option.any_eq_true] at accepts
      obtain ⟨⟨-, table, found, -⟩, -⟩ := accepts
      exact findSeatingTable_some found
    next => cases accepted

section

variable (attempt : Nat) (expiresAt : Instant) (only : OnlyLocks session store store')
include only

theorem run_createHoldAttempt_taken (accepted : args.accepted store.data store.now = some tableId)
    (taken : args.slotTaken store.data tableId = true) :
    ∃ last, OnlyLocks session store last ∧
      (createHoldAttempt session args expiresAt attempt).run store' =
        some (if store.data.agenticHolds.any (args.sameSlot tableId) then .refused .HoldConflict
          else .taken tableId, last) := by
  obtain ⟨last, locked, ran⟩ := run_createHoldAttempt_alone attempt expiresAt only accepted
  refine ⟨_, locked.release, ran.trans ?_⟩
  split
  next => exact run_rollback session _ last
  next =>
    have same : { data := store.data, now := store.now, owner := last.owner } = last := by
      rw [← locked.data, ← locked.now]
    simp only [commitChecked, Prog.run_bind, run_commit, Option.bind_some, locked.data, locked.now,
      violation?_insertHold_taken taken, Option.isNone_some, Bool.false_eq_true, if_false, same]
    rfl

theorem run_createHoldAttempt_free (valid : violation? store.data = none)
    (isNew : ∀ hold ∈ store.data.agenticHolds, hold.id ≠ args.newId attempt)
    (accepted : args.accepted store.data store.now = some tableId)
    (free : args.slotTaken store.data tableId = false) :
    ∃ last, last.data = store.data.insertHold (args.row attempt tableId expiresAt store.now) ∧
      (createHoldAttempt session args expiresAt attempt).run store' =
        some (.created (args.newId attempt), last) := by
  obtain ⟨last, locked, ran⟩ := run_createHoldAttempt_alone attempt expiresAt only accepted
  have noSame : store.data.agenticHolds.any (args.sameSlot tableId) = false := by
    rw [← Bool.not_eq_true]
    intro isSame
    rw [slotTaken_of_sameSlot isSame] at free
    cases free
  have noViolation :
      violation? (store.data.insertHold (args.row attempt tableId expiresAt store.now)) = none :=
    violation?_insertHold_free valid isNew (isTable_of_accepted accepted) free
  rw [noSame, if_neg Bool.false_ne_true] at ran
  simp only [commitChecked, Prog.run_bind, run_commit, Option.bind_some, locked.data, locked.now,
    noViolation] at ran
  exact ⟨_, rfl, ran⟩

end

theorem run_createHoldLoop_taken (accepted : args.accepted store.data store.now = some tableId)
    (taken : args.slotTaken store.data tableId = true) (remaining attempt : Nat)
    (only : OnlyLocks session store store') :
    ∃ last, last.data = store.data ∧
      (createHoldLoop session args expiresAt remaining attempt).run store' =
        some (.error .HoldConflict, last) := by
  induction remaining generalizing attempt store' with
  | zero => exact ⟨store', only.data, rfl⟩
  | succ remaining ih =>
    obtain ⟨last, locked, ran⟩ :=
      run_createHoldAttempt_taken attempt expiresAt only accepted taken
    simp only [createHoldLoop, Prog.run_bind, ran, Option.bind_some]
    cases isSame : store.data.agenticHolds.any (args.sameSlot tableId) with
    | true =>
      exact ⟨last, locked.data, rfl⟩
    | false =>
      have noneExpired : (store.data.agenticHolds.any fun row =>
          args.sameSlot tableId row && decide (row.expiresAt < store.now)) = false := by
        rw [List.any_eq_false] at isSame ⊢
        intro row isRow
        simp [isSame row isRow]
      simp only [Bool.false_eq_true, if_false, Prog.run_bind, run_query, Option.bind_some,
        locked.data, locked.now, noneExpired]
      split
      · exact ih (attempt + 1) locked
      · exact ⟨last, locked.data, rfl⟩

/-- A request for a table that the checks accept ends in a hold, unless an active hold of the same
slot is on the table. -/
theorem run_createHold (alone : ∀ lock, store.isFreeFor session lock = true)
    (valid : violation? store.data = none)
    (isNew : ∀ hold ∈ store.data.agenticHolds, hold.id ≠ args.newId 0)
    (accepted : args.accepted store.data store.now = some tableId) :
    ∃ last, (createHold session args).run store =
        some (if args.slotTaken store.data tableId then .error .HoldConflict
          else .ok (.hold (args.newId 0)), last) ∧
      last.data = if args.slotTaken store.data tableId then store.data else store.data.insertHold
          (args.row 0 tableId (store.now + args.holdTtlSeconds * 1000) store.now) := by
  have only : OnlyLocks session store store := ⟨rfl, rfl, alone⟩
  simp only [createHold, clock, Prog.run_bind, run_query, Option.bind_some]
  cases taken : args.slotTaken store.data tableId with
  | true =>
    obtain ⟨last, same, ran⟩ := run_createHoldLoop_taken accepted taken _ 0 only
    exact ⟨last, ran, same⟩
  | false =>
    have attempts : ∃ more, (if (truthy args.tableId).isSome then 2 else 4) = more + 1 := by
      split <;> exact ⟨_, rfl⟩
    obtain ⟨more, isMore⟩ := attempts
    obtain ⟨last, inserted, ran⟩ := run_createHoldAttempt_free 0
      (store.now + args.holdTtlSeconds * 1000) only valid isNew accepted taken
    simp only [isMore, createHoldLoop, Prog.run_bind, ran, Option.bind_some]
    exact ⟨last, rfl, inserted⟩

/-- The hold that a request ends in claims the table for its window. -/
def EndsInHold (session : SessionId) (store : BookingStore) (args : CreateHoldArgs) (tableId : Id) :
    Prop :=
  ∃ holdId last, (createHold session args).run store = some (.ok (.hold holdId), last) ∧
    ∃ hold ∈ last.data.agenticHolds, hold.id = holdId ∧
      hold.claim = some { tableId, window := { start := args.slotStart, finish := args.slotEnd } }

/-- A request that runs alone for a table that the checks accept ends in a hold exactly when no
hold of the same slot is active on the table, not even one that has run out. -/
theorem createHold_of_accepted_iff (session : SessionId) (store : BookingStore)
    (args : CreateHoldArgs) (tableId : Id) (alone : ∀ lock, store.isFreeFor session lock = true)
    (valid : violation? store.data = none)
    (isNew : ∀ hold ∈ store.data.agenticHolds, hold.id ≠ args.newId 0)
    (accepted : args.accepted store.data store.now = some tableId) :
    EndsInHold session store args tableId ↔ ∀ hold ∈ store.data.agenticHolds,
      hold.status = .ACTIVE → hold.type = .HOLD → hold.tableId = some tableId →
        hold.slotStart ≠ args.slotStart := by
  have free_iff : args.slotTaken store.data tableId = false ↔
      ∀ hold ∈ store.data.agenticHolds, hold.status = .ACTIVE → hold.type = .HOLD →
        hold.tableId = some tableId → hold.slotStart ≠ args.slotStart := by
    simp [CreateHoldArgs.slotTaken, List.any_eq_false]
  rw [← free_iff]
  obtain ⟨last, ran, data⟩ := run_createHold alone valid isNew accepted
  cases taken : args.slotTaken store.data tableId with
  | true =>
    rw [taken, if_pos rfl] at ran
    refine iff_of_false ?_ (by simp)
    rintro ⟨holdId, other, ended, -⟩
    rw [ran] at ended
    cases ended
  | false =>
    rw [taken, if_neg Bool.false_ne_true] at ran data
    have inserted : args.row 0 tableId (store.now + args.holdTtlSeconds * 1000) store.now ∈
        last.data.agenticHolds := by
      rw [data]
      exact List.mem_append_right _ (List.mem_singleton_self _)
    exact iff_of_true ⟨_, last, ran, _, inserted, rfl, rfl⟩ rfl

end

/-! ## A hold that nothing has expired yet -/

section

attribute [local instance] Icu.utc Postgres.c

/-- A hold on the small table from 19:00 to 21:00, which has run out. -/
def overdueHold : AgenticHold where
  id := "h"
  restaurantId := "r"
  type := .HOLD
  status := .ACTIVE
  partySize := 2
  tableId := some "t-2"
  slotStart := 68400000
  slotEnd := 75600000
  expiresAt := -1
  createdAt := -300001
  holdToken := some "token"
  reservationId := none

def overdueStore : BookingStore :=
  idleStore { twoTables [] with agenticHolds := [overdueHold] }

def holdForTwo (tableId : Option Id) (slotStart : Instant) : CreateHoldArgs where
  restaurantId := "r"
  partySize := 2
  slotStart
  slotEnd := slotStart + 7200000
  tableId
  preferredSectionId := none
  holdTtlSeconds := 300
  newId := fun attempt => s!"new-{attempt}"
  newToken := fun attempt => s!"token-{attempt}"

/-- An hour later the small table can be held. -/
theorem createHold_of_accepted_later : EndsInHold 0 overdueStore (holdForTwo none 72000000) "t-2" :=
  (createHold_of_accepted_iff 0 overdueStore (holdForTwo none 72000000) "t-2" (fun _ => rfl)
    (by decide +kernel) (by decide +kernel) (by decide +kernel)).2 (by decide +kernel)

/-- At the same hour the checks accept the small table, and the request is refused. -/
theorem createHold_refuses_accepted :
    ∃ (store : BookingStore) (args : CreateHoldArgs) (tableId : Id),
    (∀ lock, store.isFreeFor 0 lock = true) ∧ violation? store.data = none ∧
      (∀ hold ∈ store.data.agenticHolds, hold.id ≠ args.newId 0 ∧ hold.expiresAt < store.now) ∧
      args.accepted store.data store.now = some tableId ∧
      (∃ last, (createHold 0 args).run store = some (.error .HoldConflict, last)) ∧
      ¬ EndsInHold 0 store args tableId := by
  have accepted : (holdForTwo (some "t-2") 68400000).accepted overdueStore.data overdueStore.now =
      some "t-2" := by decide +kernel
  have alone : ∀ lock, overdueStore.isFreeFor (0 : SessionId) lock = true := fun _ => rfl
  obtain ⟨last, ran, -⟩ := run_createHold alone (by decide +kernel) (by decide +kernel) accepted
  refine ⟨overdueStore, holdForTwo (some "t-2") 68400000, "t-2", fun _ => rfl, by decide +kernel,
    by decide +kernel, accepted, ⟨last, ran⟩, ?_⟩
  rintro ⟨holdId, other, ended, -⟩
  cases ended

end

end Sokar
