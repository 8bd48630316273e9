import Sokar.FloorPlan.TableAllocation

/-!
# Claims on tables

An active reservation, or an active hold, on a table claims the table for its
window.  The database keeps the claims of reservations apart by an exclusion
constraint; nothing in it keeps holds and reservations apart, which is left to the
restaurant's capacity lock.
-/

namespace Sokar

open Process Transaction

structure TableClaim where
  tableId : Id
  window : Interval
  deriving DecidableEq

def Interval.Overlaps (left right : Interval) : Prop :=
  ∃ instant, (left.start ≤ instant ∧ instant < left.finish) ∧
    (right.start ≤ instant ∧ instant < right.finish)

def TableClaim.Conflicts (left right : TableClaim) : Prop :=
  left.tableId = right.tableId ∧ left.window.Overlaps right.window

/-- An active reservation that is not a test claims its table between its two
instants. -/
def Reservation.claim (row : Reservation) : Option TableClaim :=
  if row.isTest || !isActiveReservationState row.state then none
  else
    match row.tableId, row.startsAt, row.endsAt with
    | some tableId, some start, some finish => some { tableId, window := { start, finish } }
    | _, _, _ => none

def AgenticHold.claim (row : AgenticHold) : Option TableClaim :=
  if row.status = .ACTIVE then
    row.tableId.map fun tableId =>
      { tableId, window := { start := row.slotStart, finish := row.slotEnd } }
  else none

/-- No two reservations claim a table for overlapping windows, and no live hold claims
a table a reservation claims, unless that reservation consumed it. -/
structure NoDoubleBooking (db : Database) (now : Instant) : Prop where
  reservations : ∀ first ∈ db.reservations, ∀ second ∈ db.reservations, first.id ≠ second.id →
    ∀ claim ∈ first.claim, ∀ other ∈ second.claim, ¬ claim.Conflicts other
  holds : ∀ hold ∈ db.agenticHolds, now < hold.expiresAt → ∀ row ∈ db.reservations,
    row.consumedHoldId ≠ some hold.id →
    ∀ claim ∈ hold.claim, ∀ other ∈ row.claim, ¬ claim.Conflicts other

theorem Interval.overlaps_iff (left right : Interval) : left.Overlaps right ↔
      left.start < left.finish ∧ right.start < right.finish ∧ left.start < right.finish ∧
        right.start < left.finish := by
  constructor
  · rintro ⟨instant, ⟨leftStarts, leftGoes⟩, rightStarts, rightGoes⟩
    exact ⟨leftStarts.trans_lt leftGoes, rightStarts.trans_lt rightGoes,
      leftStarts.trans_lt rightGoes, rightStarts.trans_lt leftGoes⟩
  · rintro ⟨leftProper, rightProper, startsBefore, endsAfter⟩
    rcases le_total left.start right.start with leftFirst | rightFirst
    · exact ⟨right.start, ⟨leftFirst, endsAfter⟩, le_rfl, rightProper⟩
    · exact ⟨left.start, ⟨le_rfl, leftProper⟩, rightFirst, startsBefore⟩

instance (left right : Interval) : Decidable (left.Overlaps right) :=
  decidable_of_iff _ (left.overlaps_iff right).symm

instance (left right : TableClaim) : Decidable (left.Conflicts right) :=
  inferInstanceAs (Decidable (_ ∧ _))

variable (db : Database)

/-- Primary keys, and the hold a reservation consumed. -/
def keysUnique : Bool :=
  decide (db.tables.map (·.id)).Nodup && decide (db.floorPlans.map (·.id)).Nodup &&
    decide (db.reservations.map (·.id)).Nodup && decide (db.agenticHolds.map (·.id)).Nodup &&
    decide (db.reservations.filterMap (·.consumedHoldId)).Nodup

/-- `one_active_hold_per_table_slot` and `one_active_hold_per_slot_no_table`. -/
def sameHoldSlot (left right : AgenticHold) : Bool :=
  left.status == .ACTIVE && left.type == .HOLD && right.status == .ACTIVE && right.type == .HOLD &&
    left.slotStart == right.slotStart && left.tableId == right.tableId &&
    (left.tableId.isSome ||
      left.restaurantId == right.restaurantId && left.partySize == right.partySize)

def holdSlotsUnique : Bool :=
  decide (db.agenticHolds.Pairwise fun left right => sameHoldSlot left right = false)

/-- `reservations_no_overlap_active`. -/
def noOverlapActive : Bool :=
  db.reservations.all fun first => db.reservations.all fun second =>
    first.id == second.id ||
      first.claim.all fun claim => second.claim.all fun other => !decide (claim.Conflicts other)

/-- The table of a reservation or hold exists. -/
def tableKeysExist : Bool :=
  let exists_ := fun tableId : Option Id => tableId.all fun tableId =>
    db.tables.any fun table => table.id == tableId
  db.reservations.all (fun row => exists_ row.tableId) &&
    db.agenticHolds.all fun row => exists_ row.tableId

inductive ConstraintViolation where
  | unique
  | foreignKey
  | exclusion
  deriving DecidableEq

/-- The constraint a state of the database would violate. -/
def violation? : Option ConstraintViolation :=
  if !keysUnique db || !holdSlotsUnique db then some .unique
  else if !tableKeysExist db then some .foreignKey
  else if !noOverlapActive db then some .exclusion
  else none

theorem noOverlapActive_iff : noOverlapActive db = true ↔
      ∀ first ∈ db.reservations, ∀ second ∈ db.reservations, first.id ≠ second.id →
        ∀ claim ∈ first.claim, ∀ other ∈ second.claim, ¬ claim.Conflicts other := by
  simp only [noOverlapActive, List.all_eq_true, Bool.or_eq_true, beq_iff_eq, Option.all_eq_true,
    Bool.not_eq_true', decide_eq_false_iff_not, Option.mem_def]
  constructor
  · intro apart first firstRow second secondRow different claim isClaim other isOther
    exact (apart first firstRow second secondRow).resolve_left different claim isClaim other isOther
  · intro apart first firstRow second secondRow
    by_cases same : first.id = second.id
    · exact .inl same
    · exact .inr (apart first firstRow second secondRow same)

end Sokar
