import Sokar.FloorPlan.AllocationPlan
import Sokar.Booking.TableChecks

/-!
# No double booking

Every booking operation, in any interleaving with the others, with crashes and
retries, keeps the claims on tables apart.
-/

namespace Sokar

open Process Transaction Access

variable (args : CreateHoldArgs)

variable (input : CreateReservationInput)

section

variable {session : SessionId} {α β : Type}

/-- Started with nothing known, the program keeps to the discipline. -/
abbrev Keeps (session : SessionId) (prog : BookingProg α) : Prop :=
  bookingAccess.Runs session ∅ (fun _ _ => True) prog ∅ fun _ _ _ => True

theorem known_nothing {owned : Set BookingLock} : bookingAccess.Protects owned fun _ _ => True :=
  protects_const True

theorem Keeps.then {first : BookingProg α} {rest : α → BookingProg β} (keeps : Keeps session first)
    (restKeeps : ∀ value, Keeps session (rest value)) : Keeps session (first >>= rest) :=
  Runs.bind keeps restKeeps

theorem Keeps.pure (value : α) : Keeps session (pure value : BookingProg α) :=
  pure_runs value known_nothing

theorem expireOverdueWhere_keeps (selected : AgenticHold → Bool) :
    Keeps session (expireOverdueWhere session selected) := by
  apply Runs.glance known_nothing
  intro now
  apply Runs.glance known_nothing
  intro overdue
  apply Runs.bind (acquireHolds_runs overdue known_nothing)
  intro _
  apply commitChecked_runs known_nothing
  intro db later bookable _ _
  exact Admissible.updateHolds bookable.apart _ fun hold => by simp

theorem releaseHold_keeps (holdId : Id) : Keeps session (releaseHold session holdId) := by
  apply Runs.glance known_nothing
  intro hold
  split
  · apply Runs.acquire known_nothing
    apply commitChecked_runs known_nothing
    intro db now bookable _ _
    exact Admissible.updateHolds bookable.apart _ fun hold => by simp
  · exact rollback_runs

theorem consumeHold_keeps (holdId reservationId : Id) :
    Keeps session (consumeHold session holdId reservationId) := by
  apply Runs.glance known_nothing
  intro hold
  apply Runs.glance known_nothing
  intro now
  cases hold with
  | none => exact rollback_runs
  | some hold =>
    dsimp only
    split
    · exact rollback_runs
    · split
      · exact rollback_runs
      · apply Runs.acquire known_nothing
        apply Runs.glance known_nothing
        intro later
        apply Runs.glance known_nothing
        intro latest
        split
        · apply commitChecked_runs known_nothing
          intro db now bookable _ _
          exact Admissible.updateHolds bookable.apart _ fun hold => by simp
        · split
          · exact rollback_runs
          · exact rollback_runs

namespace CreateReservationInput

/-- The window of a creation, checked on a table. -/
def check (consumption : Consumption) (tableId : Id) : TableAvailabilityCheck :=
  { tableId
    startsAt := input.startsAt
    endsAt := input.endsAt
    excludeReservationId := none
    excludeHoldId := consumption.consumedHoldId input }

end CreateReservationInput

variable {db : Database}

theorem mem_updateHolds {selected : AgenticHold → Bool} {update : AgenticHold → AgenticHold}
    {hold : AgenticHold} (isHold : hold ∈ db.agenticHolds) (spared : selected hold = false) :
    hold ∈ (db.updateHolds selected update).agenticHolds := by
  simp only [Database.updateHolds, List.mem_map]
  exact ⟨hold, isHold, by rw [spared]; rfl⟩

theorem mem_expireListed {holdIds : List Id} {now : Instant} {hold : AgenticHold}
    (isHold : hold ∈ db.agenticHolds) (live : now < hold.expiresAt) :
    hold ∈ (db.expireListed holdIds now).agenticHolds := by
  apply mem_updateHolds isHold
  rw [decide_eq_false live.asymm, Bool.and_false]

/-- What a creation has written so far hides no live hold but the one it consumes. -/
theorem PendingWrites.consumption (input : CreateReservationInput) (now : Instant)
    (consumption : Consumption) :
    PendingWrites (fun db => consumption.pending input now db) now
      (consumption.consumedHoldId input) where
  reservations db check := by
    cases consumption with
    | nothing => rfl
    | hold holdId => rfl
    | synthetic overdue => rfl
  holds db hold isHold live included := by
    cases consumption with
    | nothing => exact isHold
    | hold holdId =>
      apply mem_updateHolds isHold
      exact beq_eq_false_iff_ne.2 fun same => included (congrArg some same.symm)
    | synthetic overdue => exact List.mem_append_left _ (mem_expireListed isHold live)

theorem Consumption.admissible (taken now : Instant) (consumption : Consumption)
    (apart : HoldsApart db now) :
    Admissible ∅ db (consumption.final input taken db) now := by
  cases consumption with
  | nothing => exact ⟨.refl ∅ db, apart⟩
  | hold holdId => exact Admissible.updateHolds apart _ fun hold => by simp
  | synthetic overdue =>
    have expired : Admissible ∅ db (db.expireListed overdue taken) now :=
      Admissible.updateHolds apart _ fun hold => by simp
    have inserted : Admissible ∅ (db.expireListed overdue taken)
        ((db.expireListed overdue taken).insertHold
          (input.syntheticHold .CONSUMED (some input.newReservationId) taken)) now :=
      Admissible.insertHold expired.apart fun claim isClaim => nomatch isClaim
    exact ⟨expired.writes.trans inserted.writes, inserted.apart⟩

section

variable [Icu] [Postgres]

def CreateHoldArgs.check (tableId : Id) : TableAvailabilityCheck :=
  { tableId
    startsAt := args.slotStart
    endsAt := args.slotEnd
    excludeReservationId := none
    excludeHoldId := none }

theorem holdTable_runs {transactionStart : Instant} {args : CreateHoldArgs} :
    bookingAccess.Runs session ∅ (fun _ _ => True) (holdTable session transactionStart args)
      (insert (.capacity args.restaurantId) ∅) fun result db _ => ∀ tableId,
        result = some tableId → TableFree args.restaurantId transactionStart (args.check tableId) db := by
  have locked : BookingLock.capacity args.restaurantId ∈
      insert (BookingLock.capacity args.restaurantId) ∅ := Set.mem_insert _ _
  have freeKept : ∀ result : Option Id, bookingAccess.Protects
      (insert (BookingLock.capacity args.restaurantId) ∅) fun db _ => ∀ tableId,
        result = some tableId → TableFree args.restaurantId transactionStart (args.check tableId) db :=
    fun result => Protects.all fun tableId => Protects.all fun _ =>
      protects_tableFree locked transactionStart (args.check tableId)
  unfold holdTable
  cases truthy args.tableId with
  | none =>
    apply Runs.bind (allocate_runs known_nothing)
    intro table
    apply Runs.pure (freeKept _)
    intro db now _ known tableId isSome
    obtain ⟨allocated, found, rfl⟩ := Option.map_eq_some_iff.1 isSome
    exact (known.2 allocated found).free
  | some tableId =>
    apply Runs.bind (assertTableAvailableForSeating_runs known_nothing)
    intro checked
    apply Runs.pure (freeKept _)
    intro db now _ known other isSome
    cases checked with
    | error _ => cases isSome
    | ok _ =>
      cases isSome
      exact known.2

theorem createHoldAttempt_keeps (expiresAt : Instant) (attempt : Nat) :
    Keeps session (createHoldAttempt session args expiresAt attempt) := by
  have locked : BookingLock.capacity args.restaurantId ∈
      insert (BookingLock.capacity args.restaurantId) ∅ := Set.mem_insert _ _
  apply Runs.glance known_nothing
  intro transactionStart
  apply Runs.bind holdTable_runs
  intro table
  cases table with
  | none => exact rollback_runs
  | some tableId =>
    have kept := protects_tableFree locked transactionStart (args.check tableId)
    apply Runs.knowing fun _ _ _ known => known tableId rfl
    apply Runs.glance kept
    intro existingHold
    cases existingHold with
    | true => exact rollback_runs
    | false =>
      apply Runs.bind (commitChecked_runs kept ?_) fun created => Keeps.pure _
      intro db now bookable free _
      apply Admissible.insertHold bookable.apart
      rintro ⟨claimed, start, finish⟩ isClaim
      obtain ⟨-, onTable, starts, ends⟩ := AgenticHold.claim_eq_some.1 isClaim
      cases onTable
      cases starts
      cases ends
      exact ⟨⟨args.restaurantId, free.belongs, locked⟩, free.reservations⟩

theorem createHoldLoop_keeps (expiresAt : Instant) (remaining : Nat) :
    ∀ attempt, Keeps session (createHoldLoop session args expiresAt remaining attempt) := by
  induction remaining with
  | zero => exact fun _ => Keeps.pure _
  | succ remaining ih =>
    intro attempt
    apply Keeps.then (createHoldAttempt_keeps args expiresAt attempt)
    intro outcome
    cases outcome with
    | created _ => exact Keeps.pure _
    | refused _ => exact Keeps.pure _
    | taken tableId =>
      apply Runs.glance known_nothing
      intro expiredConflict
      split
      · apply Keeps.then (expireOverdueWhere_keeps _)
        intro expired
        cases expired with
        | error _ => exact Keeps.pure _
        | ok _ => exact ih (attempt + 1)
      · split
        · exact ih (attempt + 1)
        · exact Keeps.pure _

theorem createHold_keeps : Keeps session (createHold session args) := by
  apply Runs.glance known_nothing
  intro now
  exact createHoldLoop_keeps args _ _ 0

section

variable {owned : Set BookingLock} {fact : Database → Instant → Prop}
  {input : CreateReservationInput} (protects : bookingAccess.Protects owned fact)

include protects

omit [Postgres] in
theorem creationSeating_runs (tableId holdId : Option Id) (now : Instant) :
    bookingAccess.Runs session owned fact (creationSeating input tableId holdId now) owned
      (OnOk fun _ => fact) := by
  unfold creationSeating
  split
  · exact result_runs _ protects
  · apply Runs.bind (seatingConflict_runs _ protects)
    exact fun seating => result_runs _ protects

theorem staffTable_runs {transactionStart : Instant} (tableId : Option Id)
    (locked : BookingLock.capacity input.restaurantId ∈ owned) :
    bookingAccess.Runs session owned fact (staffTable session transactionStart input tableId)
      owned (OnOk fun _ => fact) := by
  unfold staffTable
  split
  · apply Runs.glance protects
    intro hasTables
    split
    · apply Runs.bind (allocate_runs protects)
      rw [show BookingLock.capacity input.allocation.restaurantId =
        BookingLock.capacity input.restaurantId from rfl, Set.insert_eq_of_mem locked]
      intro table
      cases table with
      | none => exact Runs.error _ subset_rfl
      | some table => exact (result_runs _ protects).knowing fun _ _ _ known => known.1
    · exact result_runs _ protects
  · exact result_runs _ protects

section

omit [Icu] [Postgres]

theorem takeSlot_runs (now : Instant) (holdId : Option Id) :
    bookingAccess.Runs session owned fact (takeSlot session input now holdId) owned
      (OnOk fun _ => fact) := by
  unfold takeSlot
  split
  next holdId _ =>
    refine Runs.found protects (result_runs _ protects) fun hold => ?_
    dsimp only
    split
    · exact result_runs _ protects
    · split
      · exact result_runs _ protects
      · split
        · exact result_runs _ protects
        · have wide := Set.subset_insert (BookingLock.hold holdId) owned
          apply Runs.acquire protects
          apply Runs.glance (protects.more wide)
          intro isLive
          exact (result_runs _ protects).weaken wide subset_rfl (fun _ _ _ known => known)
            fun _ _ _ known => known
  next =>
    split
    · exact result_runs _ protects
    · apply Runs.glance protects
      intro overdue
      apply Runs.bind (acquireHolds_runs overdue protects)
      intro _
      apply Runs.glance protects
      intro violation
      exact result_runs _ protects

theorem checkWholeRestaurant_runs (now : Instant) (consumption : Consumption) :
    bookingAccess.Runs session owned fact (checkWholeRestaurant input now consumption) owned
      (OnOk fun _ => fact) := by
  apply Runs.glance protects
  intro blockingReservation
  split
  · exact result_runs _ protects
  · apply Runs.glance protects
    exact fun blockingHold => result_runs _ protects

theorem recheckTable_runs {transactionStart now : Instant} {consumption : Consumption}
    {tableId : Id} (locked : BookingLock.capacity input.restaurantId ∈ owned)
    (started : transactionStart ≤ now) :
    bookingAccess.Runs session owned fact
      (recheckTable session transactionStart now input consumption tableId) owned
      (OnOk fun _ db later => fact db later ∧
        TableFree input.restaurantId now (input.check consumption tableId) db) := by
  have belongsKept : ∀ belongs : Bool, bookingAccess.Protects owned fun db _ =>
      belongs = true → BelongsTo tableId input.restaurantId db :=
    fun _ => Protects.all fun _ => protects_belongsTo _ _
  unfold recheckTable
  apply Runs.query protects belongsKept
  · intro db later _ _ belongs
    simp only [List.any_eq_true, Bool.and_eq_true, beq_iff_eq] at belongs
    obtain ⟨table, isTable, ⟨rfl, -⟩, onPlan⟩ := belongs
    obtain ⟨plan, isPlan, sameId, ofRestaurant, -⟩ := onActivePlan_iff onPlan
    exact ⟨table, isTable, rfl, plan, isPlan, sameId, ofRestaurant⟩
  intro belongs
  cases belongs with
  | false => exact Runs.error _ subset_rfl
  | true =>
    apply Runs.bind (lockFreeTable_runs (protects.and (belongsKept true)) locked
      (fun db later known => known.2 rfl) (PendingWrites.consumption input now consumption) started)
    intro available
    cases available with
    | false => exact Runs.error _ subset_rfl
    | true =>
      apply Runs.pure
      · exact protects.and (protects_tableFree locked now (input.check consumption tableId))
      · exact fun db later _ known => ⟨known.1.1, known.2 rfl⟩

theorem recheckSlot_runs {transactionStart now : Instant} {consumption : Consumption}
    {hasTables : Bool} {tableId : Option Id}
    (locked : BookingLock.capacity input.restaurantId ∈ owned)
    (started : transactionStart ≤ now) :
    bookingAccess.Runs session owned fact
      (recheckSlot session transactionStart now input consumption hasTables tableId) owned
      (OnOk fun _ db later => fact db later ∧ ∀ taken, truthy tableId = some taken →
        TableFree input.restaurantId now (input.check consumption taken) db) := by
  unfold recheckSlot
  cases chosen : truthy tableId with
  | none =>
    have untaken : ∀ (db : Database) taken, none = some taken →
        TableFree input.restaurantId now (input.check consumption taken) db :=
      fun _ _ isSome => nomatch isSome
    have passes : bookingAccess.Runs session owned fact
        (if input.allowOverbook || hasTables then pure (.ok ())
          else checkWholeRestaurant input now consumption) owned (OnOk fun _ => fact) := by
      split
      · exact result_runs _ protects
      · exact checkWholeRestaurant_runs protects now consumption
    exact passes.weaken subset_rfl subset_rfl (fun _ _ _ known => known)
      fun _ db _ known => known.imp fun _ known => ⟨known, untaken db⟩
  | some taken =>
    have checks : bookingAccess.Runs session owned fact
        (recheckTable session transactionStart now input consumption taken) owned _ :=
      recheckTable_runs protects locked started
    exact checks.weaken subset_rfl subset_rfl (fun _ _ _ known => known)
      fun _ db _ known => known.imp fun _ known => ⟨known.1, by rintro _ ⟨⟩; exact known.2⟩

theorem syntheticIsLive_runs (now : Instant) (consumption : Consumption) :
    bookingAccess.Runs session owned fact (syntheticIsLive input now consumption) owned
      (OnOk fun _ => fact) := by
  cases consumption with
  | nothing => exact result_runs _ protects
  | hold holdId => exact result_runs _ protects
  | synthetic overdue => exact result_runs _ protects

end

end

structure CreationPlan.Checked (input : CreateReservationInput) (plan : CreationPlan)
    (db : Database) (now : Instant) : Prop where
  begun : plan.now ≤ now
  free : ∀ tableId, truthy plan.tableId = some tableId →
    TableFree input.restaurantId plan.now (input.check plan.consumption tableId) db

omit [Icu] [Postgres] in
theorem CreationPlan.protects (plan : CreationPlan) :
    bookingAccess.Protects (insert (.capacity input.restaurantId) ∅) (plan.Checked input) := by
  have locked := Set.mem_insert (BookingLock.capacity input.restaurantId) ∅
  have free := fun tableId =>
    protects_tableFree locked plan.now (input.check plan.consumption tableId)
  exact
    { writes := fun bookable bookable' writes known =>
        ⟨known.begun, fun tableId taken =>
          (free tableId).writes bookable bookable' writes (known.free tableId taken)⟩
      clock := fun advanced known => ⟨known.begun.trans advanced, known.free⟩ }

theorem planCreation_runs (tableId holdId : Option Id) :
    bookingAccess.Runs session ∅ (fun _ _ => True) (planCreation session input tableId holdId)
      (insert (.capacity input.restaurantId) ∅) (OnOk fun plan => plan.Checked input) := by
  have locked := Set.mem_insert (BookingLock.capacity input.restaurantId) ∅
  apply clocks_runs known_nothing
  intro transactionStart now started
  apply Runs.knowing fun _ _ _ known => known.2
  apply Runs.acquire (protects_since now)
  apply Runs.andThen (creationSeating_runs (protects_since now) tableId holdId now) subset_rfl
  intro hasTables
  apply Runs.andThen (staffTable_runs (protects_since now) tableId locked) subset_rfl
  intro tableId
  apply Runs.andThen (takeSlot_runs (protects_since now) now holdId) subset_rfl
  intro consumption
  apply Runs.andThen (recheckSlot_runs (protects_since now) locked started) subset_rfl
  intro _
  have kept := CreationPlan.protects input { now, tableId, consumption }
  have checked : ∀ db later, (now ≤ later ∧ ∀ taken, truthy tableId = some taken →
      TableFree input.restaurantId now (input.check consumption taken) db) →
      CreationPlan.Checked input { now, tableId, consumption } db later :=
    fun _ _ known => ⟨known.1, known.2⟩
  apply Runs.knowing fun _ _ _ known => checked _ _ known
  apply Runs.andThen (syntheticIsLive_runs kept now consumption) subset_rfl
  intro _
  exact Runs.pure kept fun _ _ _ known => known

variable {db : Database}

omit [Icu] [Postgres] in
/-- A table that exists is a table the checks look at. -/
theorem truthy_tableId (valid : violation? db = none) (named : ∀ table ∈ db.tables, table.id ≠ "")
    {row : Reservation} (isRow : row ∈ db.reservations) {tableId : Id}
    (onTable : row.tableId = some tableId) :
    truthy row.tableId = some tableId := by
  have exist := (violation?_eq_none.1 valid).2.2.1
  simp only [tableKeysExist, Bool.and_eq_true, List.all_eq_true] at exist
  have found := exist.1 row isRow
  rw [onTable, Option.all_some, List.any_eq_true] at found
  obtain ⟨table, isTable, sameId⟩ := found
  rw [beq_iff_eq] at sameId
  have notEmpty : tableId ≠ "" := sameId ▸ named table isTable
  simp [truthy, onTable, notEmpty]

omit [Icu] [Postgres] in
theorem CreationPlan.admissible {input : CreateReservationInput} {plan : CreationPlan}
    {now : Instant} (bookable : Bookable db now) (checked : plan.Checked input db now)
    (valid : violation? (plan.writes input db now) = none) :
    Admissible (insert (.capacity input.restaurantId) ∅) db (plan.writes input db now) now := by
  have closed := plan.consumption.admissible input plan.now now bookable.apart
  have inserted : Admissible (insert (.capacity input.restaurantId) ∅)
      (plan.consumption.final input plan.now db) (plan.writes input db now) now := by
    apply Admissible.insertReservation closed.apart
    rintro ⟨claimed, start, finish⟩ isClaim
    obtain ⟨-, -, onTable, starts, ends⟩ := Reservation.claim_eq_some.1 isClaim
    cases starts
    cases ends
    have named : ∀ table ∈ (plan.writes input db now).tables, table.id ≠ "" :=
      closed.writes.tables ▸ bookable.named
    have free := checked.free claimed
      (truthy_tableId valid named (List.mem_append_right _ List.mem_cons_self) onTable)
    have belongs := (BelongsTo.of_same closed.writes.tables closed.writes.floorPlans).2 free.belongs
    refine ⟨⟨input.restaurantId, belongs, Set.mem_insert _ _⟩, ?_⟩
    intro holdId expiresAt other claims live notConsumed
    rcases closed.writes.holds _ _ _ claims with inherited | ⟨_, -, unlocked⟩
    · exact free.holds _ _ _ inherited (checked.begun.trans_lt live) notConsumed
    · exact absurd unlocked (Set.notMem_empty _)
  exact ⟨(closed.writes.mono (Set.empty_subset _)).trans inserted.writes, inserted.apart⟩

theorem createReservation_keeps : Keeps session (createReservation session input) := by
  have transacts : ∀ tableId holdId,
      Keeps session (createReservationTransaction session input tableId holdId) :=
    fun tableId holdId => transaction_runs (planCreation_runs input tableId holdId)
      (CreationPlan.protects input) fun plan db now bookable checked valid =>
        CreationPlan.admissible bookable checked valid
  apply Runs.glance known_nothing
  intro now
  split
  · exact Keeps.pure _
  · dsimp only
    split
    · exact transacts _ _
    · refine Runs.found known_nothing (Keeps.pure _) fun hold => ?_
      dsimp only
      split
      · exact Keeps.pure _
      · exact transacts _ _

variable {fact : Database → Instant → Prop}

omit [Postgres] in
theorem checkMove_runs {args : ReallocateArgs} {seating : SeatingArgs}
    (protects : bookingAccess.Protects ∅ fact)
    (belongs : ∀ db now, fact db now → BelongsTo seating.tableId seating.restaurantId db) :
    bookingAccess.Runs session ∅ fact (checkMove session args seating)
      (insert (.capacity seating.restaurantId) ∅)
      (OnOk fun _ db now => fact db now ∧ FreeSoFar seating.restaurantId seating.check db now) := by
  have locked := Set.mem_insert (BookingLock.capacity seating.restaurantId) ∅
  apply clock_runs protects
  intro transactionStart
  have started := protects.and (protects_since transactionStart)
  have kept := started.more (Set.subset_insert (.capacity seating.restaurantId) ∅)
  apply Runs.acquire started
  apply Runs.bind (hasGlobalCapacityConflict_runs _ _ kept)
  intro conflict
  cases conflict with
  | true => exact Runs.error _ subset_rfl
  | false =>
    apply Runs.bind (lockFreeTable_runs kept locked (fun db now known => belongs db now known.1)
      (PendingWrites.nothing transactionStart _) le_rfl)
    intro available
    cases available with
    | false => exact Runs.error _ subset_rfl
    | true =>
      have free := (protects.more (Set.empty_subset _)).and
        (protects_freeSoFar locked seating.check)
      apply Runs.knowing fun _ _ _ known =>
        And.intro known.1.1 ((known.2 rfl).soFar known.1.2)
      apply Runs.acquire free
      have wide := Set.subset_insert (BookingLock.reservation args.reservationId)
        (insert (BookingLock.capacity seating.restaurantId) ∅)
      exact (result_runs (.ok ()) (free.more wide)).weaken subset_rfl wide
        (fun _ _ _ known => known) fun _ _ _ known => known

omit [Icu] [Postgres] in
theorem ReallocateArgs.admissible {args : ReallocateArgs} {seen : Reservation}
    {startsAt endsAt : Instant} {now : Instant} (bookable : Bookable db now)
    (isSeen : seen.id = args.reservationId) (starts : seen.startsAt = some startsAt)
    (ends : seen.endsAt = some endsAt) (kept : ∃ row ∈ db.reservations, SameBooking seen row)
    (free : FreeSoFar seen.restaurantId (seen.seating args.newTableId startsAt endsAt).check db now) :
    Admissible (insert (.capacity seen.restaurantId) ∅) db (args.writes db now) now := by
  apply Admissible.updateReservation bookable.apart
  intro row isRow sameId
  obtain ⟨current, isCurrent, same⟩ := kept
  have isSame : row = current := by
    apply reservation_unique bookable.valid isRow isCurrent
    rw [sameId, same.id, isSeen]
  subst isSame
  have moved : ∀ claim, { row with tableId := some args.newTableId }.claim = some claim →
      claim = (seen.seating args.newTableId startsAt endsAt).check.claim := by
    rintro ⟨claimed, start, finish⟩ isClaim
    obtain ⟨-, -, onTable, starts', ends'⟩ := Reservation.claim_eq_some.1 isClaim
    cases onTable
    cases (starts.symm.trans (same.startsAt.symm.trans starts'))
    cases (ends.symm.trans (same.endsAt.symm.trans ends'))
    rfl
  exact
    { same := ⟨rfl, rfl, rfl⟩
      consumedHoldId := rfl
      state := .inl rfl
      fresh := by
        intro claim isClaim
        cases moved claim isClaim
        exact .inr ⟨free.guarded (Set.mem_insert _ _), free.clearOfHolds rfl _⟩ }

/-- The row read before the transaction is still there, and the table is the
restaurant's. -/
def MayMove (args : ReallocateArgs) (seen : Reservation) (db : Database) (_ : Instant) : Prop :=
  (seen.id = args.reservationId ∧ ∃ row ∈ db.reservations, SameBooking seen row) ∧
    BelongsTo args.newTableId seen.restaurantId db

omit [Icu] [Postgres] in
theorem protects_mayMove {owned : Set BookingLock} (args : ReallocateArgs) (seen : Reservation) :
    bookingAccess.Protects owned (MayMove args seen) :=
  ((protects_const _).and (protects_booking seen)).and (protects_belongsTo _ _)

omit [Postgres] in
theorem move_runs {args : ReallocateArgs} {seen : Reservation} {startsAt endsAt : Instant}
    (starts : seen.startsAt = some startsAt) (ends : seen.endsAt = some endsAt) :
    bookingAccess.Runs session ∅ (MayMove args seen)
      (transaction session (checkMove session args (seen.seating args.newTableId startsAt endsAt))
        (fun _ => BookingValue.reservation args.reservationId) fun _ => args.writes) ∅
      fun _ _ _ => True := by
  have locked := Set.mem_insert (BookingLock.capacity seen.restaurantId) ∅
  apply transaction_runs (checkMove_runs (protects_mayMove args seen) fun db now known => known.2)
  · exact fun _ => (protects_mayMove args seen).and (protects_freeSoFar locked _)
  · intro _ db now bookable known _
    exact ReallocateArgs.admissible bookable known.1.1.1 starts ends known.1.1.2 known.2

omit [Postgres] in
theorem reallocate_keeps (args : ReallocateArgs) : Keeps session (reallocate session args) := by
  have seenKept : ∀ found : Option Reservation, bookingAccess.Protects ∅ fun db _ =>
      ∀ seen, found = some seen → seen.id = args.reservationId ∧
        ∃ row ∈ db.reservations, SameBooking seen row :=
    fun found => Protects.all fun seen => Protects.all fun _ =>
      (protects_const _).and (protects_booking seen)
  apply Runs.query known_nothing seenKept
  · intro db now _ _ seen found
    have isRow := List.mem_of_find?_eq_some found
    have sameId := List.find?_some found
    rw [beq_iff_eq] at sameId
    exact ⟨sameId, seen, isRow, .refl seen⟩
  intro found
  cases found with
  | none => exact (Keeps.pure _).knowing fun _ _ _ _ => trivial
  | some seen =>
    dsimp only
    split
    · exact (Keeps.pure _).knowing fun _ _ _ _ => trivial
    · have tableKept : ∀ found : Option (Table × FloorPlan), bookingAccess.Protects ∅
          fun db _ => ∀ table plan, found = some (table, plan) →
            BelongsTo args.newTableId plan.restaurantId db :=
        fun found => Protects.all fun table => Protects.all fun plan => Protects.all fun _ =>
          protects_belongsTo _ _
      apply Runs.query (known_nothing.and (seenKept (some seen))) tableKept
      · intro db now _ _ table plan found
        obtain ⟨other, isTable, onPlan⟩ := Option.bind_eq_some_iff.1 found
        obtain ⟨isPlan, samePlan, sameTable⟩ := Option.map_eq_some_iff.1 onPlan
        cases sameTable
        have tableId := List.find?_some isTable
        have planId := List.find?_some samePlan
        rw [beq_iff_eq] at tableId planId
        exact ⟨table, List.mem_of_find?_eq_some isTable, tableId, plan,
          List.mem_of_find?_eq_some samePlan, planId, rfl⟩
      intro found
      cases found with
      | none => exact (Keeps.pure _).knowing fun _ _ _ _ => trivial
      | some found =>
        obtain ⟨table, plan⟩ := found
        dsimp only
        split
        · exact (Keeps.pure _).knowing fun _ _ _ _ => trivial
        · split
          · exact (Keeps.pure _).knowing fun _ _ _ _ => trivial
          next sameRestaurant =>
            rw [not_ne_iff] at sameRestaurant
            split
            · exact (Keeps.pure _).knowing fun _ _ _ _ => trivial
            · split
              next startsAt endsAt starts ends =>
                apply Runs.knowing _ (move_runs starts ends)
                intro db now _ known
                exact ⟨known.1.2 seen rfl, sameRestaurant ▸ known.2 table plan rfl⟩
              next => exact (Keeps.pure _).knowing fun _ _ _ _ => trivial

omit [Icu] [Postgres] in
theorem releaseTable_keeps (reservationId : Id) :
    Keeps session (releaseTable session reservationId) := by
  refine Runs.found known_nothing rollback_runs fun reservation => ?_
  dsimp only
  split
  · exact rollback_runs
  · apply Runs.acquire known_nothing
    apply commitChecked_runs known_nothing
    intro db now bookable _ _
    apply Admissible.updateReservation bookable.apart
    intro row _ _
    exact
      { same := ⟨rfl, rfl, rfl⟩
        consumedHoldId := rfl
        state := .inl rfl
        fresh := fun claim isClaim => nomatch (Reservation.claim_eq_some.1 isClaim).2.2.1 }

omit [Postgres] in
theorem seatOn_runs {owned : Set BookingLock} {transactionStart : Instant} {args : SeatingArgs}
    (protects : bookingAccess.Protects owned fact)
    (begun : ∀ db now, fact db now → transactionStart ≤ now) :
    bookingAccess.Runs session owned fact (seatOn session transactionStart args)
      (insert (.capacity args.restaurantId) owned)
      (OnOk fun _ db now => fact db now ∧ FreeSoFar args.restaurantId args.check db now) := by
  have locked := Set.mem_insert (BookingLock.capacity args.restaurantId) owned
  have wide := Set.subset_insert (BookingLock.capacity args.restaurantId) owned
  apply Runs.bind (assertTableAvailableForSeating_runs protects)
  intro checked
  cases checked with
  | error code => exact Runs.error _ subset_rfl
  | ok _ =>
    apply Runs.pure ((protects.more wide).and (protects_freeSoFar locked args.check))
    exact fun db now _ known => ⟨known.1, known.2.soFar (begun db now known.1)⟩

omit [Postgres] in
theorem checkWalkIn_runs (args : WalkInArgs) (now endsAt : Instant) :
    bookingAccess.Runs session ∅ (fun _ _ => True) (checkWalkIn session args now endsAt)
      (insert (.capacity args.restaurantId) ∅)
      (OnOk fun _ db later => FreeSoFar args.restaurantId (args.seating now endsAt).check db later) := by
  apply clock_runs known_nothing
  intro transactionStart
  have seats : bookingAccess.Runs session ∅ (fun _ now => True ∧ transactionStart ≤ now)
      (seatOn session transactionStart (args.seating now endsAt)) _ _ :=
    seatOn_runs (known_nothing.and (protects_since transactionStart)) fun db now known => known.2
  exact seats.weaken subset_rfl subset_rfl (fun _ _ _ known => known)
    fun _ _ _ known => known.imp fun _ known => known.2

omit [Icu] [Postgres] in
theorem WalkInArgs.admissible {args : WalkInArgs} {now endsAt later : Instant}
    (bookable : Bookable db later)
    (free : FreeSoFar args.restaurantId (args.seating now endsAt).check db later) :
    Admissible (insert (.capacity args.restaurantId) ∅) db
      (db.insertReservation (args.row now endsAt later)) later := by
  apply Admissible.insertReservation bookable.apart
  rintro ⟨claimed, start, finish⟩ isClaim
  obtain ⟨-, -, onTable, starts, ends⟩ := Reservation.claim_eq_some.1 isClaim
  cases onTable
  cases starts
  cases ends
  exact ⟨free.guarded (Set.mem_insert _ _), free.clearOfHolds rfl _⟩

omit [Postgres] in
theorem createWalkIn_keeps (args : WalkInArgs) : Keeps session (createWalkIn session args) := by
  have locked := Set.mem_insert (BookingLock.capacity args.restaurantId) ∅
  apply Runs.glance known_nothing
  intro now
  apply Runs.glance known_nothing
  intro specials
  apply transaction_runs (checkWalkIn_runs args now _)
  · exact fun _ => protects_freeSoFar locked _
  · exact fun _ db later bookable free _ => WalkInArgs.admissible bookable free

end

theorem active_of_canTransition {fromState toState : ReservationState}
    (allowed : canTransition fromState toState = true)
    (active : isActiveReservationState toState = true) :
    isActiveReservationState fromState = true := by
  cases fromState <;> cases toState <;> first | rfl | cases allowed

/-- The row is in a state that may change as asked. -/
def MayChange (args : TransitionArgs) (fromState : Option ReservationState) (db : Database)
    (_ : Instant) : Prop :=
  ∀ state, fromState = some state → canTransition state args.toState = true ∧
    ∃ row ∈ db.reservations, row.id = args.reservationId ∧ row.state = state

theorem protects_mayChange {owned : Set BookingLock} {args : TransitionArgs}
    (locked : BookingLock.reservation args.reservationId ∈ owned)
    (fromState : Option ReservationState) :
    bookingAccess.Protects owned (MayChange args fromState) :=
  Protects.all fun state => Protects.all fun _ =>
    (protects_const _).and (protects_state args.reservationId state locked)

theorem TransitionArgs.admissible {args : TransitionArgs} {fromState : Option ReservationState}
    {now : Instant} (bookable : Bookable db now) (may : MayChange args fromState db now) :
    Admissible (insert (.reservation args.reservationId) ∅) db (args.writes fromState db now)
      now := by
  cases fromState with
  | none => exact ⟨.refl _ db, bookable.apart⟩
  | some state =>
    obtain ⟨allowed, current, isCurrent, currentId, isState⟩ := may state rfl
    apply Admissible.updateReservation bookable.apart
    intro row isRow sameId
    cases reservation_unique bookable.valid isRow isCurrent (sameId.trans currentId.symm)
    exact
      { same := ⟨rfl, rfl, rfl⟩
        consumedHoldId := rfl
        state := .inr (sameId ▸ Set.mem_insert _ _)
        fresh := by
          intro claim isClaim
          obtain ⟨isReal, active, onTable, starts, ends⟩ := Reservation.claim_eq_some.1 isClaim
          have wasActive := active_of_canTransition allowed active
          rw [← isState] at wasActive
          exact .inl (Reservation.claim_eq_some.2 ⟨isReal, wasActive, onTable, starts, ends⟩) }

theorem canTransition_of_assert {row : Reservation} {toState : ReservationState} {now : Instant}
    (accepted : assertCanTransition row toState now = .ok ()) :
    canTransition row.state toState = true := by
  unfold assertCanTransition at accepted
  cases allowed : canTransition row.state toState with
  | true => rfl
  | false => simp [allowed] at accepted

section

variable [Icu]

theorem checkSeated_runs {owned : Set BookingLock} {fact : Database → Instant → Prop}
    {transactionStart : Instant} {args : TransitionArgs} {previous : Reservation}
    (protects : bookingAccess.Protects owned fact) :
    bookingAccess.Runs session owned fact (checkSeated session transactionStart args previous)
      owned (OnOk fun _ => fact) := by
  have seats : ∀ seating : SeatingArgs, bookingAccess.Runs session owned fact
      (seatOn session transactionStart seating) owned (OnOk fun _ => fact) := by
    intro seating
    have wide := Set.subset_insert (BookingLock.capacity seating.restaurantId) owned
    apply Runs.bind (assertTableAvailableForSeating_runs protects)
    intro checked
    cases checked with
    | error code => exact Runs.error _ wide
    | ok _ =>
      exact (result_runs (.ok ()) (protects.more wide)).weaken subset_rfl wide
        (fun _ _ _ known => known.1) fun _ _ _ known => known
  unfold checkSeated
  split
  · exact result_runs _ protects
  · split
    · exact result_runs _ protects
    · apply Runs.glance protects
      intro now
      split
      · exact result_runs _ protects
      · exact seats _

theorem planTransition_runs (args : TransitionArgs) :
    bookingAccess.Runs session ∅ (fun _ _ => True) (planTransition session args)
      (insert (.reservation args.reservationId) ∅) (OnOk fun state => MayChange args state) := by
  have locked := Set.mem_insert (BookingLock.reservation args.reservationId) ∅
  have unchanged : ∀ fact : Database → Instant → Prop, bookingAccess.Runs session
      (insert (.reservation args.reservationId) ∅) fact
      (pure (.ok none) : BookingProg (Except BookingError (Option ReservationState)))
      (insert (.reservation args.reservationId) ∅) (OnOk fun state => MayChange args state) :=
    fun _ => Runs.pure (protects_mayChange locked none) fun _ _ _ _ _ isSome => nomatch isSome
  have seenKept : ∀ previous : Option Reservation, bookingAccess.Protects
      (insert (.reservation args.reservationId) ∅) fun db _ => ∀ row, previous = some row →
        ∃ current ∈ db.reservations, current.id = args.reservationId ∧ current.state = row.state :=
    fun _ => Protects.all fun row => Protects.all fun _ => protects_state _ row.state locked
  apply Runs.glance known_nothing
  intro transactionStart
  apply Runs.acquire known_nothing
  apply Runs.query known_nothing seenKept
  · intro db now _ _ row found
    have isRow := List.mem_of_find?_eq_some found
    have accepted := List.find?_some found
    rw [Bool.and_eq_true, beq_iff_eq] at accepted
    exact ⟨row, isRow, accepted.1, rfl⟩
  intro previous
  cases previous with
  | none => exact Runs.error _ subset_rfl
  | some previous =>
    dsimp only
    split
    · exact unchanged _
    · split
      · split
        · exact unchanged _
        · exact Runs.error _ subset_rfl
      · apply Runs.glance (known_nothing.and (seenKept (some previous)))
        intro now
        split
        · exact Runs.error _ subset_rfl
        next accepted =>
          have allowed := canTransition_of_assert accepted
          apply Runs.andThen (checkSeated_runs (known_nothing.and (seenKept (some previous))))
            subset_rfl
          intro _
          refine Runs.pure (protects_mayChange locked (some previous.state)) ?_
          rintro db later _ ⟨-, seen⟩ _ ⟨⟩
          exact ⟨allowed, seen previous rfl⟩

theorem transition_keeps (args : TransitionArgs) : Keeps session (transition session args) := by
  have locked := Set.mem_insert (BookingLock.reservation args.reservationId) ∅
  apply transaction_runs (planTransition_runs args)
  · exact protects_mayChange locked
  · exact fun fromState db now bookable may _ => TransitionArgs.admissible bookable may

end

end

/-- A table that an allocation returned qualifies for it. -/
def AllocationHonest (call : BookingCall) (result : BookingResult) (db : Database)
    (_ : Instant) : Prop :=
  ∀ input table, call = .allocate input → result = .ok (.table (some table)) →
    Qualifies db input.restaurantId input.partySize table

theorem protects_allocationHonest {owned : Set BookingLock} (call : BookingCall)
    (result : BookingResult) : bookingAccess.Protects owned (AllocationHonest call result) :=
  Protects.all fun _ => Protects.all fun table => Protects.all fun _ => Protects.all fun _ =>
    protects_qualifies _ _ table

theorem Keeps.honest {session : SessionId} {call : BookingCall} {prog : BookingProg BookingResult}
    (keeps : Keeps session prog) (other : ∀ input, call ≠ .allocate input) :
    bookingAccess.Runs session ∅ (fun _ _ => True) prog ∅ (AllocationHonest call) :=
  keeps.weaken subset_rfl subset_rfl (fun _ _ _ known => known)
    fun _ _ _ _ input _ isAllocation => absurd isAllocation (other input)

theorem Keeps.unit {session : SessionId} {prog : BookingProg (Except BookingError Unit)}
    (keeps : Keeps session prog) :
    Keeps session (prog >>= fun result => Pure.pure (unitResult result)) :=
  keeps.then fun _ => Keeps.pure _

variable (calls : SessionId → BookingCall)

variable (session : SessionId)

section

variable [Icu] [Postgres]

theorem allocateCall_runs (input : AllocateTableInput) :
    bookingAccess.Runs session ∅ (fun _ _ => True) ((BookingCall.allocate input).prog session) ∅
      (AllocationHonest (.allocate input)) := by
  have locked := Set.mem_insert (BookingLock.capacity input.restaurantId) ∅
  apply Runs.glance known_nothing
  intro transactionStart
  apply Runs.bind (allocate_runs known_nothing)
  intro table
  apply Runs.rollback (known_nothing.and (protects_allocated locked table))
    (protects_allocationHonest _)
  rintro db now _ ⟨-, allocated⟩ _ found ⟨⟩ isTable
  cases isTable
  exact (allocated found rfl).qualifies

omit [Postgres] in
theorem assertCall_keeps (args : SeatingArgs) : Keeps session (clock >>= fun transactionStart =>
      seatOn session transactionStart args >>= fun seated =>
        rollback session (unitResult seated)) := by
  apply clock_runs known_nothing
  intro transactionStart
  apply Runs.bind (seatOn_runs (known_nothing.and (protects_since transactionStart))
    fun _ _ known => known.2)
  exact fun _ => rollback_runs

theorem BookingCall.prog_runs (call : BookingCall) :
    bookingAccess.Runs session ∅ (fun _ _ => True) (call.prog session) ∅
      (AllocationHonest call) := by
  cases call with
  | allocate input => exact allocateCall_runs session input
  | assertTableAvailableForSeating args => exact (assertCall_keeps session args).honest nofun
  | createHold args => exact (createHold_keeps args).honest nofun
  | createReservation input => exact (createReservation_keeps input).honest nofun
  | reallocate args => exact (reallocate_keeps args).honest nofun
  | releaseTable reservationId => exact (releaseTable_keeps reservationId).honest nofun
  | createWalkIn args => exact (createWalkIn_keeps args).honest nofun
  | transition args => exact (transition_keeps args).honest nofun
  | releaseHold holdId => exact (releaseHold_keeps holdId).unit.honest nofun
  | consumeHold holdId reservationId =>
    exact (consumeHold_keeps holdId reservationId).unit.honest nofun
  | expireOverdue => exact (expireOverdueWhere_keeps _).unit.honest nofun
  | expireOne holdId expectedType => exact (expireOverdueWhere_keeps _).unit.honest nofun
  | expireOverdueForSlot restaurantId slotStart =>
    exact (expireOverdueWhere_keeps _).unit.honest nofun

/-- The sessions that run the calls of the booking services. -/
def bookingSystem :=
  system fun session => (calls session).prog session

/-- In every reachable configuration no table is booked twice, and every table that an
allocation returned is active, of the restaurant and fits the party. -/
theorem bookings_apart {store : BookingStore} (valid : violation? store.data = none)
    (named : ∀ table ∈ store.data.tables, table.id ≠ "")
    (apart : NoDoubleBooking store.data store.now) {c : Config SessionId BookingStore BookingResult}
    (run : (bookingSystem calls).Reaches (.initial store) c) :
    NoDoubleBooking c.shared.data c.shared.now ∧
      ∀ session input table, calls session = .allocate input →
        c.procs session = some (.done (.ok (.table (some table)))) →
          Qualifies c.shared.data input.restaurantId input.partySize table := by
  obtain ⟨bookable, outcomes⟩ :=
    reaches_sound (fun session => (calls session).prog_runs session) (fun _ _ _ _ _ => trivial)
      (show bookingAccess.inv store.data store.now from ⟨valid, named, .of_noDoubleBooking apart⟩) run
  constructor
  · exact .of_holdsApart (violation?_eq_none.1 bookable.valid).2.2.2 bookable.apart
  · intro session input table isAllocation finished
    exact outcomes session _ finished input table isAllocation rfl

end

section

attribute [local instance] Icu.utc Postgres.c

/-- Two from 19:00 to 21:00 on the small table. -/
def seatedPair : Reservation :=
  ⟨"a", "r", false, .CONFIRMED, 2, some "t-2", some 68400000, some 75600000, 68400000, 1, none⟩

/-- With the small table taken, an allocation that runs to its end gets the large one. -/
theorem bookings_apart_pair : ∃ c, (bookingSystem fun _ => .allocate tableForTwo).Reaches
        (.initial (idleStore (twoTables [seatedPair]))) c ∧
      NoDoubleBooking c.shared.data c.shared.now ∧
      Qualifies c.shared.data "r" 2 ⟨"t-4", "p", none, "4", 4, 2, true⟩ := by
  have apart : NoDoubleBooking (twoTables [seatedPair]) 0 :=
    { reservations := (noOverlapActive_iff _).1 (by decide +kernel)
      holds := fun hold isHold => by cases isHold }
  obtain ⟨store, ran⟩ : ∃ store, ((BookingCall.allocate tableForTwo).prog 0).run
      (idleStore (twoTables [seatedPair])) =
        some (.ok (.table (some ⟨"t-4", "p", none, "4", 4, 2, true⟩)), store) := ⟨_, rfl⟩
  have runs := (bookingSystem fun _ => .allocate tableForTwo).reaches_alone 0 ran
  obtain ⟨keeps, honest⟩ := bookings_apart (fun _ => .allocate tableForTwo) (by decide +kernel)
    (by decide) apart runs
  exact ⟨_, runs, keeps, honest 0 tableForTwo _ rfl rfl⟩

end

end Sokar
