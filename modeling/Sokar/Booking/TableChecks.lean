import Sokar.Booking.ReservationOperations
import Sokar.Booking.ClaimAccess

/-!
# What the checks on a table establish

Each check of the booking operations, run under the capacity lock, leaves the
session with a fact that the lock protects until the commit.
-/

namespace Sokar

open Process Transaction Access

/-! ## From the conflict queries to the claims -/

def TableAvailabilityCheck.claim (check : TableAvailabilityCheck) : TableClaim :=
  { tableId := check.tableId, window := { start := check.startsAt, finish := check.endsAt } }

theorem tsrangesOverlap_iff (left right : Interval) :
    tsrangesOverlap left.start left.finish right.start right.finish = true ↔
      left.Overlaps right := by
  rw [left.overlaps_iff right]
  simp only [tsrangesOverlap, Int.cast_lt, Bool.and_eq_true, decide_eq_true_eq, and_assoc]

theorem Reservation.claim_eq_some {row : Reservation} {claim : TableClaim} :
    row.claim = some claim ↔ row.isTest = false ∧ isActiveReservationState row.state = true ∧
      row.tableId = some claim.tableId ∧ row.startsAt = some claim.window.start ∧
      row.endsAt = some claim.window.finish := by
  obtain ⟨tableId, start, finish⟩ := claim
  unfold Reservation.claim
  cases row.isTest <;> cases isActiveReservationState row.state <;> cases row.tableId <;>
    cases row.startsAt <;> cases row.endsAt <;> simp

theorem AgenticHold.claim_eq_some {hold : AgenticHold} {claim : TableClaim} :
    hold.claim = some claim ↔ hold.status = .ACTIVE ∧ hold.tableId = some claim.tableId ∧
      hold.slotStart = claim.window.start ∧ hold.slotEnd = claim.window.finish := by
  obtain ⟨tableId, start, finish⟩ := claim
  unfold AgenticHold.claim
  split
  next active => cases hold.tableId <;> simp [active]
  next inactive => simp [inactive]

theorem clearOfReservations_of_check {db : Database} {check : TableAvailabilityCheck}
    (noConflict : hasConflictingReservation db check = false) :
    ClearOfReservations check.excludeReservationId check.claim db := by
  rintro _ _ other ⟨row, isRow, rfl, rfl, isClaim⟩ included ⟨sameTable, overlap⟩
  obtain ⟨isReal, active, onTable, starts, ends⟩ := Reservation.claim_eq_some.1 isClaim
  have conflict : hasConflictingReservation db check = true := by
    simp only [hasConflictingReservation, List.any_eq_true, Bool.and_eq_true]
    refine ⟨row, isRow, ⟨⟨⟨?_, ?_⟩, active⟩, ?_⟩, included⟩
    · rw [onTable, ← sameTable]
      exact beq_self_eq_true _
    · rw [isReal]
      rfl
    · rw [starts, ends]
      obtain ⟨instant, inCheck, inOther⟩ := overlap
      exact (tsrangesOverlap_iff other.window check.claim.window).2 ⟨instant, inOther, inCheck⟩
  rw [noConflict] at conflict
  cases conflict

theorem notExcluded_of_ne {excluded : Option Id} {id : Id} (different : excluded ≠ some id) :
    notExcluded excluded id = true := by
  unfold notExcluded truthy
  cases excluded with
  | none => rfl
  | some other =>
    have apart : id ≠ other := fun same => different (congrArg some same.symm)
    by_cases empty : other = "" <;> simp [Option.filter, empty, apart]

/-- The pending writes of a transaction, as far as the conflict queries can tell. -/
structure PendingWrites (own : Database → Database) (since : Instant) (excluded : Option Id) :
    Prop where
  reservations : ∀ db check,
    hasConflictingReservation (own db) check = hasConflictingReservation db check
  holds : ∀ db, ∀ hold ∈ db.agenticHolds, since < hold.expiresAt → excluded ≠ some hold.id →
    hold ∈ (own db).agenticHolds

theorem PendingWrites.nothing (since : Instant) (excluded : Option Id) :
    PendingWrites id since excluded where
  reservations _ _ := rfl
  holds _ _ isHold _ _ := isHold

theorem clearOfHolds_of_check {own : Database → Database} {db : Database}
    {transactionStart since : Instant} {check : TableAvailabilityCheck}
    (pending : PendingWrites own since check.excludeHoldId) (started : transactionStart ≤ since)
    (noConflict : hasConflictingHold (own db) transactionStart check = false) :
    ClearOfHolds since check.excludeHoldId check.claim db := by
  rintro _ _ other ⟨hold, isHold, rfl, rfl, isClaim⟩ live included ⟨sameTable, overlap⟩
  obtain ⟨active, onTable, starts, ends⟩ := AgenticHold.claim_eq_some.1 isClaim
  have conflict : hasConflictingHold (own db) transactionStart check = true := by
    simp only [hasConflictingHold, List.any_eq_true, Bool.and_eq_true, decide_eq_true_eq]
    refine ⟨hold, pending.holds db hold isHold live included, ⟨⟨⟨?_, ?_⟩, ?_⟩, ?_⟩,
      notExcluded_of_ne included⟩
    · rw [onTable, ← sameTable]
      exact beq_self_eq_true _
    · rw [active]
      rfl
    · exact started.trans_lt live
    · rw [starts, ends]
      obtain ⟨instant, inCheck, inOther⟩ := overlap
      exact (tsrangesOverlap_iff other.window check.claim.window).2 ⟨instant, inOther, inCheck⟩
  rw [noConflict] at conflict
  cases conflict

structure TableFree (restaurantId : Id) (since : Instant) (check : TableAvailabilityCheck)
    (db : Database) : Prop where
  belongs : BelongsTo check.tableId restaurantId db
  reservations : ClearOfReservations check.excludeReservationId check.claim db
  holds : ClearOfHolds since check.excludeHoldId check.claim db

section

variable {session : SessionId} {owned left : Set BookingLock} {fact : Database → Instant → Prop}
  {α β : Type}

variable {restaurantId : Id}

theorem protects_tableFree (locked : BookingLock.capacity restaurantId ∈ owned) (since : Instant)
    (check : TableAvailabilityCheck) :
    bookingAccess.Protects owned fun db _ => TableFree restaurantId since check db where
  writes bookable bookable' writes free :=
    { belongs := (BelongsTo.of_same writes.tables writes.floorPlans).2 free.belongs
      reservations := ((protects_clearOfReservations locked check.claim check.excludeReservationId).writes
        bookable bookable' writes ⟨free.belongs, free.reservations⟩).2
      holds := ((protects_clearOfHolds locked check.claim since check.excludeHoldId).writes
        bookable bookable' writes ⟨free.belongs, free.holds⟩).2 }
  clock _ free := free

/-- Free of the holds that outlived some instant before now. -/
def FreeSoFar (restaurantId : Id) (check : TableAvailabilityCheck) (db : Database)
    (now : Instant) : Prop :=
  ∃ since ≤ now, TableFree restaurantId since check db

theorem protects_freeSoFar (locked : BookingLock.capacity restaurantId ∈ owned)
    (check : TableAvailabilityCheck) :
    bookingAccess.Protects owned (FreeSoFar restaurantId check) where
  writes bookable bookable' writes known := by
    obtain ⟨since, begun, free⟩ := known
    exact ⟨since, begun, (protects_tableFree locked since check).writes bookable bookable' writes free⟩
  clock advanced known := by
    obtain ⟨since, begun, free⟩ := known
    exact ⟨since, begun.trans advanced, free⟩

variable {check : TableAvailabilityCheck} {db : Database}

theorem TableFree.soFar {since now : Instant} (free : TableFree restaurantId since check db)
    (begun : since ≤ now) :
    FreeSoFar restaurantId check db now :=
  ⟨since, begun, free⟩

theorem FreeSoFar.guarded {now : Instant} (free : FreeSoFar restaurantId check db now)
    (locked : BookingLock.capacity restaurantId ∈ owned) : Guarded owned db check.tableId := by
  obtain ⟨_, _, free⟩ := free
  exact ⟨restaurantId, free.belongs, locked⟩

theorem FreeSoFar.clearOfHolds {now : Instant} (free : FreeSoFar restaurantId check db now)
    (noneExcluded : check.excludeHoldId = none) (excluded : Option Id) :
    ClearOfHolds now excluded check.claim db := by
  obtain ⟨since, begun, free⟩ := free
  intro holdId expiresAt other claims live _
  apply free.holds _ _ _ claims (begun.trans_lt live)
  rw [noneExcluded]
  exact nofun

theorem protects_available (locked : BookingLock.capacity restaurantId ∈ owned) (since : Instant)
    (check : TableAvailabilityCheck) (available : Bool) :
    bookingAccess.Protects owned fun db _ =>
      available = true → TableFree restaurantId since check db :=
  Protects.all fun _ => protects_tableFree locked since check

variable {final : β → Database → Instant → Prop}

theorem clock_runs {rest : Instant → BookingProg β} (protects : bookingAccess.Protects owned fact)
    (restRuns : ∀ since, bookingAccess.Runs session owned
      (fun db now => fact db now ∧ since ≤ now) (rest since) left final) :
    bookingAccess.Runs session owned fact (clock >>= rest) left final := by
  have reads : ∀ (db : Database) (now : Instant), Bookable db now → fact db now → now ≤ now :=
    fun _ _ _ _ => le_rfl
  exact Runs.query protects protects_since reads restRuns

/-- The clock read when a transaction begins, and then by its body. -/
theorem clocks_runs {rest : Instant → Instant → BookingProg β}
    (protects : bookingAccess.Protects owned fact)
    (restRuns : ∀ transactionStart since, transactionStart ≤ since →
      bookingAccess.Runs session owned (fun db now => fact db now ∧ since ≤ now)
        (rest transactionStart since) left final) :
    bookingAccess.Runs session owned fact
      (clock >>= fun transactionStart => clock >>= rest transactionStart) left final := by
  apply clock_runs protects
  intro transactionStart
  have started : bookingAccess.Protects owned _ := protects_since transactionStart
  have inOrder : ∀ since : Instant, bookingAccess.Protects owned fun _ now =>
      transactionStart ≤ since ∧ since ≤ now :=
    fun since => (protects_const _).and (protects_since since)
  have reads : ∀ (db : Database) (now : Instant), Bookable db now →
      fact db now ∧ transactionStart ≤ now → transactionStart ≤ now ∧ now ≤ now :=
    fun _ _ _ known => ⟨known.2, le_rfl⟩
  apply Runs.query (protects.and started) inOrder reads
  intro since
  apply Runs.assuming (fun _ _ _ known => known.2.1)
  intro ordered
  exact (restRuns transactionStart since ordered).knowing fun _ _ _ known => ⟨known.1.1, known.2.2⟩

/-- A commit whose constraints hold must be admissible; otherwise it writes nothing. -/
theorem commitChecked_runs {value : α} {change : Writes}
    (protects : bookingAccess.Protects owned fact)
    (admissible : ∀ db now, Bookable db now → fact db now → violation? (change db now) = none →
      Admissible owned db (change db now) now) :
    bookingAccess.Runs session owned fact (commitChecked session value change) ∅
      fun _ _ _ => True := by
  apply Runs.commit protects
  · exact fun _ => protects_const True
  · intro db now bookable known
    split
    next valid =>
      rw [Option.isNone_iff_eq_none] at valid
      have admitted := admissible db now bookable known valid
      refine ⟨⟨valid, ?_, admitted.apart⟩, admitted.writes⟩
      rw [admitted.writes.tables]
      exact bookable.named
    next => exact ⟨bookable, .refl owned db⟩
  · exact fun _ _ _ _ => trivial

theorem rollback_runs {value : α} :
    bookingAccess.Runs session owned fact (rollback session value) ∅ fun _ _ _ => True := by
  have quiet : bookingAccess.Runs session owned (fun _ _ => True) (rollback session value) ∅
      fun _ _ _ => True :=
    Runs.rollback (protects_const True) (fun _ => protects_const True) fun _ _ _ _ => trivial
  exact quiet.knowing fun _ _ _ _ => trivial

theorem transaction_runs {goal : α → Database → Instant → Prop}
    {body : BookingProg (Except BookingError α)} {value : α → β} {writes : α → Writes}
    (bodyRuns : bookingAccess.Runs session owned fact body left (OnOk goal))
    (protects : ∀ plan, bookingAccess.Protects left (goal plan))
    (admissible : ∀ plan db now, Bookable db now → goal plan db now →
      violation? (writes plan db now) = none → Admissible left db (writes plan db now) now) :
    bookingAccess.Runs session owned fact (transaction session body value writes) ∅
      fun _ _ _ => True := by
  apply Runs.bind bodyRuns
  intro result
  cases result with
  | error error => exact rollback_runs
  | ok plan => exact commitChecked_runs (protects plan) (admissible plan)

theorem pure_runs (value : α) (protects : bookingAccess.Protects owned fact) :
    bookingAccess.Runs session owned fact (pure value) owned fun _ => fact :=
  Runs.pure protects fun _ _ _ known => known

theorem result_runs {ε : Type} (result : Except ε α)
    (protects : bookingAccess.Protects owned fact) :
    bookingAccess.Runs session owned fact (pure result) owned (OnOk fun _ => fact) := by
  cases result with
  | ok value => exact Runs.pure (Protects.onOk (fun _ => protects) (.ok value)) fun _ _ _ known => known
  | error error => exact Runs.error error subset_rfl

theorem acquireHolds_runs (holdIds : List Id) (protects : bookingAccess.Protects owned fact) :
    bookingAccess.Runs session owned fact (acquireHolds session holdIds) owned fun _ => fact := by
  induction holdIds generalizing owned with
  | nil => exact pure_runs () protects
  | cons holdId rest ih =>
    apply Runs.acquire protects
    have wider := ih (protects.more (Set.subset_insert (.hold holdId) owned))
    exact wider.weaken subset_rfl (Set.subset_insert _ _) (fun _ _ _ known => known)
      fun _ _ _ known => known

variable {transactionStart since : Instant}

section

variable {own : Database → Database} (protects : bookingAccess.Protects owned fact)
variable (locked : BookingLock.capacity restaurantId ∈ owned)
variable (belongs : ∀ db now, fact db now → BelongsTo check.tableId restaurantId db)
variable (pending : PendingWrites own since check.excludeHoldId)
variable (started : transactionStart ≤ since)
include protects locked belongs pending started

theorem isTableAvailable_runs :
    bookingAccess.Runs session owned fact (isTableAvailable own transactionStart check) owned
      fun available db now => fact db now ∧
        (available = true → TableFree restaurantId since check db) := by
  have reservationsKept : ∀ conflict : Bool, bookingAccess.Protects owned fun db _ =>
      conflict = false → BelongsTo check.tableId restaurantId db ∧
        ClearOfReservations check.excludeReservationId check.claim db :=
    fun _ => Protects.all fun _ => protects_clearOfReservations locked check.claim _
  have holdsKept : ∀ conflict : Bool, bookingAccess.Protects owned fun db _ =>
      conflict = false → BelongsTo check.tableId restaurantId db ∧
        ClearOfHolds since check.excludeHoldId check.claim db :=
    fun _ => Protects.all fun _ => protects_clearOfHolds locked check.claim since _
  apply Runs.query protects reservationsKept
  · intro db now _ known noConflict
    rw [pending.reservations] at noConflict
    exact ⟨belongs db now known, clearOfReservations_of_check noConflict⟩
  intro reservationConflict
  apply Runs.query (protects.and (reservationsKept reservationConflict)) holdsKept
  · intro db now _ known noConflict
    exact ⟨belongs db now known.1, clearOfHolds_of_check pending started noConflict⟩
  intro holdConflict
  apply Runs.pure
  · exact protects.and (protects_available locked since check _)
  · intro db now _ known
    obtain ⟨⟨known, noReservation⟩, noHold⟩ := known
    refine ⟨known, fun available => ?_⟩
    rw [Bool.and_eq_true, Bool.not_eq_true', Bool.not_eq_true'] at available
    exact ⟨belongs db now known, (noReservation available.1).2, (noHold available.2).2⟩

/-- Locking the row as well changes nothing to what is learnt. -/
theorem lockFreeTable_runs :
    bookingAccess.Runs session owned fact (lockFreeTable session own transactionStart check) owned
      fun available db now => fact db now ∧
        (available = true → TableFree restaurantId since check db) := by
  have wide := Set.subset_insert (BookingLock.table check.tableId) owned
  have kept := protects.more wide
  have locks : bookingAccess.Runs session owned fact (lockTable session check.tableId)
      (insert (.table check.tableId) owned) fun _ => fact := by
    apply Runs.acquire protects
    have finds : bookingAccess.Runs session (insert (.table check.tableId) owned) fact
        (query (fun db _ => db.tables.any fun table => table.id == check.tableId) >>= pure)
        (insert (.table check.tableId) owned) fun _ => fact :=
      Runs.glance kept fun found => pure_runs found kept
    exact finds
  apply Runs.bind locks
  intro found
  cases found with
  | false =>
    have refused : bookingAccess.Runs session (insert (.table check.tableId) owned) fact
        (pure false) _ fun available db now => fact db now ∧
          (available = true → TableFree restaurantId since check db) :=
      Runs.pure (kept.and (protects_available (wide locked) since check false))
        fun db now _ known => ⟨known, fun isTrue => nomatch isTrue⟩
    exact refused.weaken subset_rfl wide (fun _ _ _ known => known) fun _ _ _ known => known
  | true =>
    exact (isTableAvailable_runs kept (wide locked) belongs pending started).weaken subset_rfl
      wide (fun _ _ _ known => known) fun _ _ _ known => known

end

/-! ## Checks that read several statements -/

/-- A table an allocation may return. -/
structure Allocated (transactionStart : Instant) (input : AllocateTableInput) (table : Table)
    (db : Database) : Prop where
  qualifies : Qualifies db input.restaurantId input.partySize table
  free : TableFree input.restaurantId transactionStart (input.check table) db

theorem Qualifies.belongsTo {partySize : Int} {table : Table}
    (qualifies : Qualifies db restaurantId partySize table) :
    BelongsTo table.id restaurantId db := by
  obtain ⟨plan, isPlan, onPlan, ofRestaurant, -⟩ := qualifies.plan
  exact ⟨table, qualifies.row, rfl, plan, isPlan, onPlan, ofRestaurant⟩

theorem protects_allocated {transactionStart : Instant} {input : AllocateTableInput}
    (locked : BookingLock.capacity input.restaurantId ∈ owned) (result : Option Table) :
    bookingAccess.Protects owned fun db _ =>
      ∀ table, result = some table → Allocated transactionStart input table db := by
  apply Protects.all
  intro table
  apply Protects.all
  intro _
  have qualifies : bookingAccess.Protects owned _ :=
    protects_qualifies input.restaurantId input.partySize table
  have free := protects_tableFree locked transactionStart (input.check table)
  exact
    { writes := fun bookable bookable' writes known =>
        ⟨qualifies.writes bookable bookable' writes known.qualifies,
          free.writes bookable bookable' writes known.free⟩
      clock := fun _ known => known }

theorem tryCandidates_runs {transactionStart : Instant} {input : AllocateTableInput}
    (candidates : List Table) (protects : bookingAccess.Protects owned fact)
    (locked : BookingLock.capacity input.restaurantId ∈ owned)
    (qualify : ∀ db now, fact db now → ∀ table ∈ candidates,
      Qualifies db input.restaurantId input.partySize table) :
    bookingAccess.Runs session owned fact
      (tryCandidates session transactionStart input candidates) owned
      fun result db now => fact db now ∧
        ∀ table, result = some table → Allocated transactionStart input table db := by
  induction candidates with
  | nil =>
    apply Runs.pure (protects.and (protects_allocated locked none))
    exact fun db now _ known => ⟨known, fun table isSome => nomatch isSome⟩
  | cons table rest ih =>
    have skip := ih fun db now known other isOther =>
      qualify db now known other (List.mem_cons_of_mem _ isOther)
    apply Runs.tryAcquire protects
    intro taken
    cases taken with
    | false => exact skip
    | true =>
      have belongs : ∀ db now, fact db now →
          BelongsTo (input.check table).tableId input.restaurantId db :=
        fun db now known => (qualify db now known table List.mem_cons_self).belongsTo
      apply Runs.bind (isTableAvailable_runs protects locked belongs
        (PendingWrites.nothing transactionStart _) le_rfl)
      intro available
      cases available with
      | false =>
        exact skip.knowing fun _ _ _ known => known.1
      | true =>
        apply Runs.pure (protects.and (protects_allocated locked (some table)))
        rintro db now _ ⟨known, free⟩
        refine ⟨known, ?_⟩
        rintro _ ⟨⟩
        exact ⟨qualify db now known table List.mem_cons_self, free rfl⟩

theorem belongsTo_of_findSeatingTable {restaurantId tableId : Id} {table : Table}
    (found : findSeatingTable db restaurantId tableId = some table) :
    BelongsTo tableId restaurantId db := by
  have accepted := List.find?_some found
  simp only [Bool.and_eq_true, beq_iff_eq, Option.any_eq_true] at accepted
  obtain ⟨sameId, plan, isPlan, ofRestaurant⟩ := accepted
  have onPlan := List.find?_some isPlan
  rw [beq_iff_eq] at onPlan
  exact ⟨table, List.mem_of_find?_eq_some found, sameId, plan, List.mem_of_find?_eq_some isPlan,
    onPlan, ofRestaurant⟩

section

variable [Icu]

theorem seatingConflict_runs (request : Instant → SeatingRequest)
    (protects : bookingAccess.Protects owned fact) :
    bookingAccess.Runs session owned fact (seatingConflict request) owned fun _ => fact := by
  apply Runs.glance protects
  intro now
  apply Runs.glance protects
  intro settings
  apply Runs.glance protects
  intro reservations
  apply Runs.glance protects
  intro agenticHolds
  exact pure_runs _ protects

theorem hasGlobalCapacityConflict_runs (input : AllocateTableInput) (tableId : Option Id)
    (protects : bookingAccess.Protects owned fact) :
    bookingAccess.Runs session owned fact (hasGlobalCapacityConflict input tableId) owned
      fun _ => fact := by
  apply Runs.bind (seatingConflict_runs _ protects)
  exact fun verdict => pure_runs _ protects

theorem assertTableAvailableForSeating_runs {transactionStart : Instant} {args : SeatingArgs}
    (protects : bookingAccess.Protects owned fact) :
    bookingAccess.Runs session owned fact
      (assertTableAvailableForSeating session transactionStart args)
      (insert (.capacity args.restaurantId) owned)
      (OnOk fun _ db now => fact db now ∧
        TableFree args.restaurantId transactionStart args.check db) := by
  have locked : BookingLock.capacity args.restaurantId ∈
      insert (BookingLock.capacity args.restaurantId) owned := Set.mem_insert _ _
  have kept := protects.more (Set.subset_insert (.capacity args.restaurantId) owned)
  apply Runs.acquire protects
  apply Runs.bind (hasGlobalCapacityConflict_runs _ _ kept)
  intro conflict
  cases conflict with
  | true => exact Runs.error _ subset_rfl
  | false =>
    have belongsKept : ∀ found : Option Table, bookingAccess.Protects
        (insert (BookingLock.capacity args.restaurantId) owned) fun db _ =>
        found.isSome = true → BelongsTo args.tableId args.restaurantId db :=
      fun found => Protects.all fun _ => protects_belongsTo _ _
    apply Runs.query kept belongsKept
    · intro db now _ _ isSome
      obtain ⟨table, found⟩ := Option.isSome_iff_exists.1 isSome
      exact belongsTo_of_findSeatingTable found
    intro found
    cases found with
    | none => exact Runs.error _ subset_rfl
    | some table =>
      dsimp only
      cases seatingTableError? table args.partySize with
      | some code => exact Runs.error _ subset_rfl
      | none =>
        apply Runs.bind (lockFreeTable_runs (kept.and (belongsKept (some table))) locked
          (fun db now known => known.2 rfl) (PendingWrites.nothing transactionStart _) le_rfl)
        intro available
        cases available with
        | false => exact Runs.error _ subset_rfl
        | true =>
          apply Runs.pure
          · exact kept.and (protects_tableFree locked transactionStart args.check)
          · exact fun db now _ known => ⟨known.1.1, known.2 rfl⟩

variable [Postgres]

theorem allocate_runs {transactionStart : Instant} {input : AllocateTableInput}
    (protects : bookingAccess.Protects owned fact) :
    bookingAccess.Runs session owned fact (allocate session transactionStart input)
      (insert (.capacity input.restaurantId) owned)
      fun result db now => fact db now ∧
        ∀ table, result = some table → Allocated transactionStart input table db := by
  have locked : BookingLock.capacity input.restaurantId ∈
      insert (BookingLock.capacity input.restaurantId) owned := Set.mem_insert _ _
  have kept := protects.more (Set.subset_insert (.capacity input.restaurantId) owned)
  apply Runs.acquire protects
  apply Runs.bind (hasGlobalCapacityConflict_runs input none kept)
  intro conflict
  cases conflict with
  | true =>
    apply Runs.pure (kept.and (protects_allocated locked none))
    exact fun db now _ known => ⟨known, fun table isSome => nomatch isSome⟩
  | false =>
    have candidatesQualify : ∀ (db : Database) (now : Instant), Bookable db now → fact db now →
        ∀ table ∈ findCandidateTables db input,
          Qualifies db input.restaurantId input.partySize table :=
      fun _ _ _ _ _ => qualifies_of_candidate
    have qualifyKept : ∀ candidates : List Table, bookingAccess.Protects
        (insert (BookingLock.capacity input.restaurantId) owned) fun db _ =>
        ∀ table ∈ candidates, Qualifies db input.restaurantId input.partySize table :=
      fun candidates => Protects.all fun table => Protects.all fun _ => protects_qualifies _ _ table
    apply Runs.query kept qualifyKept candidatesQualify
    intro candidates
    have tried : bookingAccess.Runs session _ _
        (tryCandidates session transactionStart input candidates) _ _ :=
      tryCandidates_runs candidates (kept.and (qualifyKept candidates)) locked
        fun db now known => known.2
    exact tried.weaken subset_rfl subset_rfl (fun _ _ _ known => known)
      fun _ _ _ known => ⟨known.1.1, known.2⟩

end

end

end Sokar
