import Sokar.Booking.HoldOperations

/-!
# Which writes may claim a table

Every write either keeps the claims it finds or is made under the capacity lock of
the restaurant the table belongs to.  What the lock's owner learns about the claims
on such a table therefore stays true until it commits.
-/

namespace Sokar

open Process Transaction

def ReservationClaims (db : Database) (reservationId : Id) (consumedHoldId : Option Id)
    (claim : TableClaim) : Prop :=
  ∃ row ∈ db.reservations, row.id = reservationId ∧ row.consumedHoldId = consumedHoldId ∧
    row.claim = some claim

def HoldClaims (db : Database) (holdId : Id) (expiresAt : Instant) (claim : TableClaim) : Prop :=
  ∃ hold ∈ db.agenticHolds, hold.id = holdId ∧ hold.expiresAt = expiresAt ∧
    hold.claim = some claim

/-- No reservation claims the table on the window, leaving one out. -/
def ClearOfReservations (excluded : Option Id) (claim : TableClaim) (db : Database) : Prop :=
  ∀ reservationId consumedHoldId other,
    ReservationClaims db reservationId consumedHoldId other →
      notExcluded excluded reservationId = true → ¬ claim.Conflicts other

/-- No hold that outlives an instant claims the table on the window, leaving one out. -/
def ClearOfHolds (since : Instant) (excluded : Option Id) (claim : TableClaim)
    (db : Database) : Prop :=
  ∀ holdId expiresAt other, HoldClaims db holdId expiresAt other → since < expiresAt →
    excluded ≠ some holdId → ¬ claim.Conflicts other

/-- No live hold claims a table a reservation claims, unless it was consumed by it. -/
def HoldsApart (db : Database) (now : Instant) : Prop :=
  ∀ reservationId consumedHoldId claim,
    ReservationClaims db reservationId consumedHoldId claim →
      ClearOfHolds now consumedHoldId claim db

theorem TableClaim.Conflicts.symm {left right : TableClaim} (conflicts : left.Conflicts right) :
    right.Conflicts left := by
  obtain ⟨sameTable, instant, inLeft, inRight⟩ := conflicts
  exact ⟨sameTable.symm, instant, inRight, inLeft⟩

variable {db : Database}

theorem HoldsApart.later {now later : Instant} (apart : HoldsApart db now)
    (advanced : now ≤ later) : HoldsApart db later := by
  intro reservationId consumedHoldId claim claims holdId expiresAt other held live
  exact apart _ _ _ claims _ _ _ held (advanced.trans_lt live)

theorem NoDoubleBooking.of_holdsApart {now : Instant} (exclusive : noOverlapActive db = true)
    (apart : HoldsApart db now) :
    NoDoubleBooking db now where
  reservations := (noOverlapActive_iff db).1 exclusive
  holds hold isHold live row isRow notConsumed claim isClaim other isOther conflicts :=
    apart row.id row.consumedHoldId other ⟨row, isRow, rfl, rfl, isOther⟩ hold.id hold.expiresAt
      claim ⟨hold, isHold, rfl, rfl, isClaim⟩ live notConsumed conflicts.symm

theorem HoldsApart.of_noDoubleBooking {now : Instant} (apart : NoDoubleBooking db now) :
    HoldsApart db now := by
  rintro _ _ claim ⟨row, isRow, rfl, rfl, isClaim⟩ _ _ other ⟨hold, isHold, rfl, rfl, isOther⟩
    live notConsumed conflicts
  exact apart.holds hold isHold live row isRow notConsumed other isOther claim isClaim
    conflicts.symm

/-! ## The restaurant of a table -/

/-- The table stands on a floor plan of the restaurant. -/
def BelongsTo (tableId restaurantId : Id) (db : Database) : Prop :=
  ∃ table ∈ db.tables, table.id = tableId ∧
    ∃ plan ∈ db.floorPlans, plan.id = table.floorPlanId ∧ plan.restaurantId = restaurantId

theorem violation?_eq_none :
    violation? db = none ↔ keysUnique db = true ∧ holdSlotsUnique db = true ∧
      tableKeysExist db = true ∧ noOverlapActive db = true := by
  unfold violation?
  cases keysUnique db <;> cases holdSlotsUnique db <;> cases tableKeysExist db <;>
    cases noOverlapActive db <;> simp

theorem reservation_unique (valid : violation? db = none) {left right : Reservation}
    (isLeft : left ∈ db.reservations) (isRight : right ∈ db.reservations)
    (same : left.id = right.id) : left = right := by
  have keys := (violation?_eq_none.1 valid).1
  simp only [keysUnique, Bool.and_eq_true, decide_eq_true_eq] at keys
  exact List.inj_on_of_nodup_map keys.1.1.2 isLeft isRight same

theorem BelongsTo.unique (valid : violation? db = none) {tableId left right : Id}
    (toLeft : BelongsTo tableId left db) (toRight : BelongsTo tableId right db) : left = right := by
  have keys := (violation?_eq_none.1 valid).1
  simp only [keysUnique, Bool.and_eq_true, decide_eq_true_eq] at keys
  obtain ⟨table, isTable, tableKey, plan, isPlan, planKey, rfl⟩ := toLeft
  obtain ⟨other, isOther, otherKey, otherPlan, isOtherPlan, otherPlanKey, rfl⟩ := toRight
  have sameTable : table = other :=
    List.inj_on_of_nodup_map keys.1.1.1.1 isTable isOther (tableKey.trans otherKey.symm)
  subst sameTable
  have samePlan : plan = otherPlan :=
    List.inj_on_of_nodup_map keys.1.1.1.2 isPlan isOtherPlan (planKey.trans otherPlanKey.symm)
  rw [samePlan]

/-- No operation here changes when a reservation is. -/
structure SameBooking (row row' : Reservation) : Prop where
  id : row'.id = row.id
  startsAt : row'.startsAt = row.startsAt
  endsAt : row'.endsAt = row.endsAt

theorem SameBooking.refl (row : Reservation) : SameBooking row row :=
  ⟨rfl, rfl, rfl⟩

theorem SameBooking.trans {row row' row'' : Reservation} (first : SameBooking row row')
    (second : SameBooking row' row'') : SameBooking row row'' where
  id := second.id.trans first.id
  startsAt := second.startsAt.trans first.startsAt
  endsAt := second.endsAt.trans first.endsAt

/-- The capacity lock of the table's restaurant is among the locks. -/
def Guarded (owned : Set BookingLock) (db : Database) (tableId : Id) : Prop :=
  ∃ restaurantId, BelongsTo tableId restaurantId db ∧ BookingLock.capacity restaurantId ∈ owned

/-- What a commit may write under a set of locks: tables stay, bookings keep their
fields, a state changes under its row lock, and new claims come under the capacity
lock. -/
structure BookingWrites (owned : Set BookingLock) (db db' : Database) : Prop where
  tables : db'.tables = db.tables
  floorPlans : db'.floorPlans = db.floorPlans
  rows : ∀ row ∈ db.reservations, ∃ row' ∈ db'.reservations, SameBooking row row' ∧
    (row'.state = row.state ∨ BookingLock.reservation row.id ∈ owned)
  reservations : ∀ reservationId consumedHoldId claim,
    ReservationClaims db' reservationId consumedHoldId claim →
      ReservationClaims db reservationId consumedHoldId claim ∨ Guarded owned db claim.tableId
  holds : ∀ holdId expiresAt claim, HoldClaims db' holdId expiresAt claim →
    HoldClaims db holdId expiresAt claim ∨ Guarded owned db claim.tableId

theorem BelongsTo.of_same {db db' : Database} {tableId restaurantId : Id}
    (sameTables : db'.tables = db.tables) (samePlans : db'.floorPlans = db.floorPlans) :
    BelongsTo tableId restaurantId db' ↔ BelongsTo tableId restaurantId db := by
  simp only [BelongsTo, sameTables, samePlans]

theorem Guarded.mono {owned more : Set BookingLock} {tableId : Id}
    (guarded : Guarded owned db tableId) (sub : owned ⊆ more) : Guarded more db tableId :=
  ⟨guarded.choose, guarded.choose_spec.1, sub guarded.choose_spec.2⟩

namespace BookingWrites

variable {owned : Set BookingLock} {db db' db'' : Database}

theorem refl (owned : Set BookingLock) (db : Database) : BookingWrites owned db db where
  tables := rfl
  floorPlans := rfl
  rows row isRow := ⟨row, isRow, .refl row, .inl rfl⟩
  reservations _ _ _ := .inl
  holds _ _ _ := .inl

theorem mono {more : Set BookingLock} (writes : BookingWrites owned db db')
    (sub : owned ⊆ more) : BookingWrites more db db' where
  tables := writes.tables
  floorPlans := writes.floorPlans
  rows row isRow := by
    obtain ⟨row', isRow', same, state⟩ := writes.rows row isRow
    exact ⟨row', isRow', same, state.imp_right fun locked => sub locked⟩
  reservations _ _ _ claims :=
    (writes.reservations _ _ _ claims).imp_right fun guarded => guarded.mono sub
  holds _ _ _ claims := (writes.holds _ _ _ claims).imp_right fun guarded => guarded.mono sub

theorem trans (first : BookingWrites owned db db') (second : BookingWrites owned db' db'') :
    BookingWrites owned db db'' where
  tables := second.tables.trans first.tables
  floorPlans := second.floorPlans.trans first.floorPlans
  rows row isRow := by
    obtain ⟨row', isRow', same, state⟩ := first.rows row isRow
    obtain ⟨row'', isRow'', same', state'⟩ := second.rows row' isRow'
    refine ⟨row'', isRow'', same.trans same', ?_⟩
    rw [same.id] at state'
    rcases state with kept | locked
    · rcases state' with kept' | locked
      · exact .inl (kept'.trans kept)
      · exact .inr locked
    · exact .inr locked
  reservations _ _ _ claims := by
    rcases second.reservations _ _ _ claims with inherited | ⟨restaurantId, belongs, locked⟩
    · exact first.reservations _ _ _ inherited
    · exact .inr ⟨restaurantId, (BelongsTo.of_same first.tables first.floorPlans).1 belongs, locked⟩
  holds _ _ _ claims := by
    rcases second.holds _ _ _ claims with inherited | ⟨restaurantId, belongs, locked⟩
    · exact first.holds _ _ _ inherited
    · exact .inr ⟨restaurantId, (BelongsTo.of_same first.tables first.floorPlans).1 belongs, locked⟩

end BookingWrites

/-- A change that keeps to the discipline, once the constraints hold after it. -/
structure Admissible (owned : Set BookingLock) (db db' : Database) (now : Instant) : Prop where
  writes : BookingWrites owned db db'
  apart : HoldsApart db' now

section

variable {owned : Set BookingLock} {db db' : Database} {now : Instant}

/-- Claims are either inherited or clear of those of the other kind. -/
theorem HoldsApart.of_claims (apart : HoldsApart db now)
    (reservations : ∀ reservationId consumedHoldId claim,
      ReservationClaims db' reservationId consumedHoldId claim →
        ReservationClaims db reservationId consumedHoldId claim ∨
          ClearOfHolds now consumedHoldId claim db')
    (holds : ∀ holdId expiresAt claim, HoldClaims db' holdId expiresAt claim →
      HoldClaims db holdId expiresAt claim ∨ ClearOfReservations none claim db') :
    HoldsApart db' now := by
  intro reservationId consumedHoldId claim claims
  rcases reservations _ _ _ claims with inherited | clear
  · intro holdId expiresAt other held live notConsumed conflicts
    rcases holds _ _ _ held with inheritedHold | clear
    · exact apart _ _ _ inherited _ _ _ inheritedHold live notConsumed conflicts
    · exact clear _ _ _ claims rfl conflicts.symm
  · exact clear

theorem claim_of_closed {hold : AgenticHold} (closed : hold.status ≠ .ACTIVE) :
    hold.claim = none := by
  unfold AgenticHold.claim
  rw [if_neg closed]

variable {claim : TableClaim}

theorem HoldClaims.of_updateHolds {selected : AgenticHold → Bool}
    {update : AgenticHold → AgenticHold} (closes : ∀ hold, (update hold).status ≠ .ACTIVE)
    {holdId : Id} {expiresAt : Instant}
    (claims : HoldClaims (db.updateHolds selected update) holdId expiresAt claim) :
    HoldClaims db holdId expiresAt claim := by
  obtain ⟨row, isRow, sameId, sameExpiry, isClaim⟩ := claims
  simp only [Database.updateHolds, List.mem_map] at isRow
  obtain ⟨hold, isHold, rfl⟩ := isRow
  split at isClaim
  next => simp only [claim_of_closed (closes hold), reduceCtorEq] at isClaim
  next unselected =>
    rw [if_neg unselected] at sameId sameExpiry
    exact ⟨hold, isHold, sameId, sameExpiry, isClaim⟩

theorem Admissible.updateHolds (apart : HoldsApart db now) (selected : AgenticHold → Bool)
    {update : AgenticHold → AgenticHold} (closes : ∀ hold, (update hold).status ≠ .ACTIVE) :
    Admissible owned db (db.updateHolds selected update) now where
  writes :=
    { BookingWrites.refl owned db with
      holds := fun _ _ _ claims => .inl (claims.of_updateHolds closes) }
  apart := apart.of_claims (fun _ _ _ claims => .inl claims)
    fun _ _ _ claims => .inl (claims.of_updateHolds closes)

theorem HoldClaims.of_insertHold {row : AgenticHold} {holdId : Id} {expiresAt : Instant}
    (claims : HoldClaims (db.insertHold row) holdId expiresAt claim) :
    HoldClaims db holdId expiresAt claim ∨ row.claim = some claim := by
  obtain ⟨hold, isHold, sameId, sameExpiry, isClaim⟩ := claims
  rcases List.mem_append.1 isHold with kept | added
  · exact .inl ⟨hold, kept, sameId, sameExpiry, isClaim⟩
  · cases List.mem_singleton.1 added
    exact .inr isClaim

theorem Admissible.insertHold (apart : HoldsApart db now) {row : AgenticHold}
    (fresh : ∀ claim, row.claim = some claim →
      Guarded owned db claim.tableId ∧ ClearOfReservations none claim db) :
    Admissible owned db (db.insertHold row) now where
  writes :=
    { BookingWrites.refl owned db with
      holds := fun _ _ _ claims => claims.of_insertHold.imp_right fun isNew => (fresh _ isNew).1 }
  apart := apart.of_claims (fun _ _ _ claims => .inl claims)
    fun _ _ _ claims => claims.of_insertHold.imp_right fun isNew => (fresh _ isNew).2

variable {reservationId : Id}

theorem ReservationClaims.of_insertReservation {row : Reservation} {consumedHoldId : Option Id}
    (claims : ReservationClaims (db.insertReservation row) reservationId consumedHoldId claim) :
    ReservationClaims db reservationId consumedHoldId claim ∨
      row.consumedHoldId = consumedHoldId ∧ row.claim = some claim := by
  obtain ⟨other, isOther, sameId, sameHold, isClaim⟩ := claims
  rcases List.mem_append.1 isOther with kept | added
  · exact .inl ⟨other, kept, sameId, sameHold, isClaim⟩
  · cases List.mem_singleton.1 added
    exact .inr ⟨sameHold, isClaim⟩

theorem Admissible.insertReservation (apart : HoldsApart db now) {row : Reservation}
    (fresh : ∀ claim, row.claim = some claim →
      Guarded owned db claim.tableId ∧ ClearOfHolds now row.consumedHoldId claim db) :
    Admissible owned db (db.insertReservation row) now where
  writes :=
    { BookingWrites.refl owned db with
      rows := fun kept isRow =>
        ⟨kept, List.mem_append_left _ isRow, .refl kept, .inl rfl⟩
      reservations := fun _ _ _ claims =>
        claims.of_insertReservation.imp_right fun isNew => (fresh _ isNew.2).1 }
  apart := by
    apply apart.of_claims
    · intro _ _ _ claims
      apply claims.of_insertReservation.imp_right
      rintro ⟨rfl, isNew⟩
      exact (fresh _ isNew).2
    · exact fun _ _ _ claims => .inl claims

/-- An update of one row under its identifier. -/
structure Revises (owned : Set BookingLock) (db : Database) (now : Instant)
    (row row' : Reservation) : Prop where
  same : SameBooking row row'
  consumedHoldId : row'.consumedHoldId = row.consumedHoldId
  state : row'.state = row.state ∨ BookingLock.reservation row.id ∈ owned
  fresh : ∀ claim, row'.claim = some claim → row.claim = some claim ∨
    Guarded owned db claim.tableId ∧ ClearOfHolds now row.consumedHoldId claim db

theorem ReservationClaims.of_updateReservation {update : Reservation → Reservation}
    (revises : ∀ row ∈ db.reservations, row.id = reservationId →
      Revises owned db now row (update row)) {rowId : Id} {consumedHoldId : Option Id}
    (claims : ReservationClaims (db.updateReservation reservationId update) rowId consumedHoldId
      claim) :
    ReservationClaims db rowId consumedHoldId claim ∨
      Guarded owned db claim.tableId ∧ ClearOfHolds now consumedHoldId claim db := by
  obtain ⟨row', isRow', sameId, sameHold, isClaim⟩ := claims
  simp only [Database.updateReservation, List.mem_map] at isRow'
  obtain ⟨row, isRow, rfl⟩ := isRow'
  split at isClaim
  next chosen =>
    have revised := revises row isRow chosen
    rw [if_pos chosen] at sameId sameHold
    rcases revised.fresh claim isClaim with kept | fresh
    · exact .inl ⟨row, isRow, revised.same.id.symm.trans sameId,
        revised.consumedHoldId.symm.trans sameHold, kept⟩
    · rw [revised.consumedHoldId] at sameHold
      exact .inr (sameHold ▸ fresh)
  next unchosen =>
    rw [if_neg unchosen] at sameId sameHold
    exact .inl ⟨row, isRow, sameId, sameHold, isClaim⟩

theorem Admissible.updateReservation (apart : HoldsApart db now)
    {update : Reservation → Reservation}
    (revises : ∀ row ∈ db.reservations, row.id = reservationId →
      Revises owned db now row (update row)) :
    Admissible owned db (db.updateReservation reservationId update) now where
  writes :=
    { BookingWrites.refl owned db with
      rows := by
        intro row isRow
        refine ⟨_, List.mem_map_of_mem isRow, ?_⟩
        split
        next chosen => exact ⟨(revises row isRow chosen).same, (revises row isRow chosen).state⟩
        next => exact ⟨.refl row, .inl rfl⟩
      reservations := fun _ _ _ claims =>
        (claims.of_updateReservation revises).imp_right And.left }
  apart := by
    apply apart.of_claims
    · exact fun _ _ _ claims => (claims.of_updateReservation revises).imp_right And.right
    · exact fun _ _ _ claims => .inl claims

end

/-- The database satisfies its constraints, tables have proper identifiers, and holds
and reservations are apart. -/
structure Bookable (db : Database) (now : Instant) : Prop where
  valid : violation? db = none
  named : ∀ table ∈ db.tables, table.id ≠ ""
  apart : HoldsApart db now

def bookingAccess : Access Database BookingLock SessionId where
  inv := Bookable
  writes := BookingWrites
  inv_later advanced bookable := ⟨bookable.valid, bookable.named, bookable.apart.later advanced⟩
  writes_refl := .refl
  writes_mono sub writes := writes.mono sub

/-! ## What the locks protect -/

section

variable {owned : Set BookingLock}

theorem protects_since (since : Instant) :
    bookingAccess.Protects owned fun _ now => since ≤ now where
  writes _ _ _ holds := holds
  clock advanced holds := holds.trans advanced

theorem protects_belongsTo (tableId restaurantId : Id) :
    bookingAccess.Protects owned fun db _ => BelongsTo tableId restaurantId db where
  writes _ _ writes belongs := (BelongsTo.of_same writes.tables writes.floorPlans).2 belongs
  clock _ belongs := belongs

theorem protects_qualifies (restaurantId : Id) (partySize : Int) (table : Table) :
    bookingAccess.Protects owned fun db _ => Qualifies db restaurantId partySize table where
  writes _ _ writes qualifies := by
    obtain ⟨row, active, fits, plan⟩ := qualifies
    exact ⟨by rwa [writes.tables], active, fits, by rwa [writes.floorPlans]⟩
  clock _ qualifies := qualifies

theorem protects_booking (seen : Reservation) :
    bookingAccess.Protects owned fun db _ => ∃ row ∈ db.reservations, SameBooking seen row where
  writes _ _ writes seenRow := by
    obtain ⟨row, isRow, same⟩ := seenRow
    obtain ⟨row', isRow', same', -⟩ := writes.rows row isRow
    exact ⟨row', isRow', same.trans same'⟩
  clock _ seenRow := seenRow

theorem protects_state (reservationId : Id) (state : ReservationState)
    (locked : BookingLock.reservation reservationId ∈ owned) :
    bookingAccess.Protects owned fun db _ =>
      ∃ row ∈ db.reservations, row.id = reservationId ∧ row.state = state where
  writes _ _ writes seenRow := by
    obtain ⟨row, isRow, rfl, rfl⟩ := seenRow
    obtain ⟨row', isRow', same, kept | byOther⟩ := writes.rows row isRow
    · exact ⟨row', isRow', same.id, kept⟩
    · exact absurd locked byOther
  clock _ seenRow := seenRow

theorem not_guarded {db : Database} {tableId restaurantId : Id} (valid : violation? db = none)
    (belongs : BelongsTo tableId restaurantId db)
    (locked : BookingLock.capacity restaurantId ∈ owned) : ¬ Guarded ownedᶜ db tableId := by
  rintro ⟨other, toOther, byOther⟩
  rw [belongs.unique valid toOther] at locked
  exact byOther locked

variable {restaurantId : Id} (locked : BookingLock.capacity restaurantId ∈ owned)
  (claim : TableClaim)

include locked

theorem protects_clearOfReservations (excluded : Option Id) :
    bookingAccess.Protects owned fun db _ => BelongsTo claim.tableId restaurantId db ∧
      ClearOfReservations excluded claim db where
  writes bookable _ writes known := by
    obtain ⟨belongs, clear⟩ := known
    refine ⟨(BelongsTo.of_same writes.tables writes.floorPlans).2 belongs, ?_⟩
    intro reservationId consumedHoldId other claims notExcluded conflicts
    rcases writes.reservations _ _ _ claims with inherited | guarded
    · exact clear _ _ _ inherited notExcluded conflicts
    · exact not_guarded bookable.valid belongs locked (conflicts.1 ▸ guarded)
  clock _ known := known

theorem protects_clearOfHolds (since : Instant) (excluded : Option Id) :
    bookingAccess.Protects owned fun db _ => BelongsTo claim.tableId restaurantId db ∧
      ClearOfHolds since excluded claim db where
  writes bookable _ writes known := by
    obtain ⟨belongs, clear⟩ := known
    refine ⟨(BelongsTo.of_same writes.tables writes.floorPlans).2 belongs, ?_⟩
    intro holdId expiresAt other claims live notExcluded conflicts
    rcases writes.holds _ _ _ claims with inherited | guarded
    · exact clear _ _ _ inherited live notExcluded conflicts
    · exact not_guarded bookable.valid belongs locked (conflicts.1 ▸ guarded)
  clock _ known := known

end

end Sokar
