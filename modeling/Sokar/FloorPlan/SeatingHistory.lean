import Sokar.Library.StableSort
import Sokar.FloorPlan.SeatingAdmission

/-!
# Runs of creations without a table

Each creation is admitted on the items of its own local day and the next one.
The plan over all the active items of the restaurant keeps absorbing every group
as long as each admission sees everything that bears on its group.
-/

namespace Sokar

open FirstFit (Problem Load)

structure UnassignedDraft where
  id : Id
  restaurantId : Id
  partySize : Int
  startsAt : Instant
  endsAt : Instant
  createdAt : Instant
  requireManualValidation : Bool
  deriving DecidableEq

variable (draft : UnassignedDraft)

namespace UnassignedDraft

def item : SeatingItem :=
  { partySize := draft.partySize, start := draft.startsAt, finish := draft.endsAt
    tableId := none }

def row : Reservation :=
  { id := draft.id
    restaurantId := draft.restaurantId
    isTest := false
    state := if draft.requireManualValidation then .PENDING else .CONFIRMED
    partySize := draft.partySize
    tableId := none
    startsAt := some draft.startsAt
    endsAt := some draft.endsAt
    reservedAt := draft.startsAt
    createdAt := draft.createdAt
    consumedHoldId := none }

def request (now : Instant) : SeatingRequest :=
  { restaurantId := draft.restaurantId
    partySize := draft.partySize
    startsAt := draft.startsAt
    endsAt := draft.endsAt
    tableId := none
    now
    excludeReservationId := none
    excludeHoldId := none }

theorem row_seats : seatsRestaurant draft.restaurantId none draft.row = true := by
  cases pending : draft.requireManualValidation <;>
    simp [row, pending, seatsRestaurant, notExcluded, truthy, isActiveReservationState,
      ACTIVE_RESERVATION_STATES]

end UnassignedDraft

variable (db : Database)

variable (restaurantId : Id)

/-- The arrivals of all the active rows of a restaurant, whatever their day. -/
def allArrivals (now : Instant) : List Arrival :=
  let serviceDurationMinutes := resolveServiceDurationMinutes (db.capacitySpecials? restaurantId)
  (db.reservations.filter (seatsRestaurant restaurantId none)).map
      (reservationArrival serviceDurationMinutes) ++
    (db.agenticHolds.filter (holdsRestaurant restaurantId now none)).map holdArrival

section

variable [Icu]

/-- The effect of a creation without token, table or overbooking at a restaurant
with tables: the verdict on its own day window decides, then the row is inserted. -/
def createUnassigned (now : Instant) (draft : UnassignedDraft) : Option Database :=
  if (findUnassignedSeatingConflict db (draft.request now)).conflict then none
  else some { db with reservations := db.reservations ++ [draft.row] }

/-- The items of all the active rows of a restaurant, in order of arrival. -/
def allSeatingItems (now : Instant) : List SeatingItem :=
  (arrivalOrder (allArrivals db restaurantId now)).map (·.item)

structure SeatingState where
  db : Database
  now : Instant

/-- The plan over every day at once absorbs every group. -/
def SeatingState.Absorbed (s : SeatingState) : Prop :=
  Absorbs (loadSeatingTables s.db restaurantId false) (allSeatingItems s.db restaurantId s.now)

structure Creation (restaurantId : Id) (draft : UnassignedDraft) (s s' : SeatingState) :
    Prop where
  restaurant : draft.restaurantId = restaurantId
  clock : s.now ≤ s'.now
  admitted : createUnassigned s.db s'.now draft = some s'.db

/-- An item bears on a new group: it can keep the group off a table, directly or
through a chain of items each able to keep the next one off a table. -/
def BearsOn (tables : List SeatingTable) (items : List SeatingItem)
    (target item : SeatingItem) : Prop :=
  (seatingProblem tables).Influences (fixedOn items) (unassigned items ++ [target]) item target

/-- The span of instants the verdict on a draft covers. -/
def UnassignedDraft.span (db : Database) : LoadSpan :=
  let timeZone := restaurantTimeZone db draft.restaurantId
  loadSpan (utcToZonedParts draft.startsAt timeZone).date timeZone

/-- The conditions under which one admission decides as the whole plan would. -/
structure SeesBearing (restaurantId : Id) (draft : UnassignedDraft) (s s' : SeatingState) :
    Prop where
  /-- No live hold lapses since the previous creation. -/
  noLapse : ∀ hold ∈ s.db.agenticHolds, holdsRestaurant restaurantId s.now none hold = true →
    s'.now < hold.expiresAt
  /-- The new row arrives after all the others. -/
  arrivesLast : ∀ arrival ∈ allArrivals s.db restaurantId s'.now,
    arrival.createdAt < draft.createdAt
  /-- A reservation that bears on the group meets the span of the verdict. -/
  reservations : ∀ row ∈ s.db.reservations, seatsRestaurant restaurantId none row = true →
    BearsOn (loadSeatingTables s.db restaurantId false)
      (allSeatingItems s.db restaurantId s'.now) draft.item
      (reservationArrival
        (resolveServiceDurationMinutes (s.db.capacitySpecials? restaurantId)) row).item →
    reservationOverlapWhere (draft.span s.db).lower (draft.span s.db).upper
      (resolveServiceDurationMinutes (s.db.capacitySpecials? restaurantId)) row = true
  /-- A hold that bears on the group meets the span of the verdict. -/
  holds : ∀ row ∈ s.db.agenticHolds, holdsRestaurant restaurantId s'.now none row = true →
    BearsOn (loadSeatingTables s.db restaurantId false)
      (allSeatingItems s.db restaurantId s'.now) draft.item (holdArrival row).item →
    row.slotStart < (draft.span s.db).upper ∧ (draft.span s.db).lower < row.slotEnd

/-- A creation whose admission sees everything that bears on its group. -/
def ClearSightedCreation (s s' : SeatingState) : Prop :=
  ∃ draft, Creation restaurantId draft s s' ∧ SeesBearing restaurantId draft s s'

omit [Icu] in
theorem isLE_total {α : Type*} (cmp : α → α → Ordering) [Std.OrientedCmp cmp] (left right : α) :
    (cmp left right).isLE = true ∨ (cmp right left).isLE = true := by
  have swapped : cmp right left = (cmp left right).swap := Std.OrientedCmp.eq_swap
  rw [swapped]
  cases cmp left right <;> simp

instance : Std.TransCmp compareArrival := by
  have byId : Std.TransCmp fun left right : Arrival => Icu.localeCompare left.id right.id :=
    { eq_swap := Icu.collation.eq_swap
      isLE_trans := Icu.collation.isLE_trans }
  exact inferInstanceAs (Std.TransCmp (compareLex (compareOn Arrival.createdAt)
    fun left right => Icu.localeCompare left.id right.id))

instance : Std.Total fun left right => (compareArrival left right).isLE = true :=
  ⟨isLE_total compareArrival⟩

instance : IsTrans Arrival fun left right => (compareArrival left right).isLE = true :=
  ⟨fun _ _ _ => Std.TransCmp.isLE_trans⟩

theorem compareArrival_of_lt {left right : Arrival} (earlier : left.createdAt < right.createdAt) :
    compareArrival left right = .lt := by
  rw [compareArrival, compare_lt_iff_lt.2 earlier]
  rfl

theorem compareArrival_of_gt {left right : Arrival} (later : right.createdAt < left.createdAt) :
    compareArrival left right = .gt := by
  rw [compareArrival, compare_gt_iff_gt.2 later]
  rfl

theorem countP_arrivalOrder (keep : SeatingItem → Bool) (arrived : List Arrival) :
    ((arrivalOrder arrived).map (·.item)).countP keep =
      arrived.countP fun arrival => keep arrival.item := by
  rw [List.countP_map]
  exact (List.perm_insertionSort _ arrived).countP_eq _

/-- An admission loads part of the active items, in the same order. -/
theorem loadSeatingItems_sublist (draft : UnassignedDraft) (now : Instant) :
    (loadSeatingItems db (conflictLoadArgs db (draft.request now))).Sublist
      (allSeatingItems db draft.restaurantId now) := by
  apply List.Sublist.map
  apply StableSort.insertionSort_sublist
  apply List.Sublist.append
  · apply List.Sublist.map
    apply List.monotone_filter_right
    intro row kept
    exact (Bool.and_eq_true_iff.1 kept).1
  · apply List.Sublist.map
    apply List.monotone_filter_right
    intro row kept
    exact (Bool.and_eq_true_iff.1 (Bool.and_eq_true_iff.1 kept).1).1

theorem loadSeatingItems_filter (db : Database) (draft : UnassignedDraft) (now : Instant)
    (keep : SeatingItem → Bool)
    (reservations : ∀ row ∈ db.reservations, seatsRestaurant draft.restaurantId none row = true →
      keep (reservationArrival
        (resolveServiceDurationMinutes (db.capacitySpecials? draft.restaurantId)) row).item = true →
      reservationOverlapWhere (draft.span db).lower (draft.span db).upper
        (resolveServiceDurationMinutes (db.capacitySpecials? draft.restaurantId)) row = true)
    (holds : ∀ row ∈ db.agenticHolds, holdsRestaurant draft.restaurantId now none row = true →
      keep (holdArrival row).item = true →
      row.slotStart < (draft.span db).upper ∧ (draft.span db).lower < row.slotEnd) :
    (loadSeatingItems db (conflictLoadArgs db (draft.request now))).filter keep =
      (allSeatingItems db draft.restaurantId now).filter keep := by
  apply ((loadSeatingItems_sublist db draft now).filter keep).eq_of_length
  rw [← List.countP_eq_length_filter, ← List.countP_eq_length_filter, allSeatingItems,
    countP_arrivalOrder]
  refine (countP_arrivalOrder keep _).trans ?_
  simp only [allArrivals, List.countP_append, List.countP_map, List.countP_filter]
  congr 1
  · apply List.countP_congr
    intro row member
    simp only [Function.comp_apply, Bool.and_eq_true]
    constructor
    · rintro ⟨kept, seats, -⟩
      exact ⟨kept, seats⟩
    · rintro ⟨kept, seats⟩
      exact ⟨kept, seats, reservations row member seats kept⟩
  · apply List.countP_congr
    intro row member
    simp only [Function.comp_apply, Bool.and_eq_true, decide_eq_true_eq]
    constructor
    · rintro ⟨kept, ⟨live, -⟩, -⟩
      exact ⟨kept, live⟩
    · rintro ⟨kept, live⟩
      obtain ⟨startsBefore, endsAfter⟩ := holds row member live kept
      exact ⟨kept, ⟨live, startsBefore⟩, endsAfter⟩

/-- Adding a group last keeps every group absorbed when the plan has a table for
it. -/
theorem Absorbs.append_unassigned {tables : List SeatingTable} {items : List SeatingItem}
    {item : SeatingItem} (loose : truthy item.tableId = none) (absorbed : Absorbs tables items)
    (seat : ((seatingProblem tables).choose (seatingLoad tables items) item).isSome = true) :
    Absorbs tables (items ++ [item]) := by
  obtain ⟨table, chosen⟩ := Option.isSome_iff_exists.1 seat
  rw [absorbs_iff] at absorbed ⊢
  have sameFixed : fixedOn (items ++ [item]) = fixedOn items := by
    funext tableId
    simp [fixedOn, loose]
  have considered : unassigned (items ++ [item]) = unassigned items ++ [item] := by
    simp [unassigned, loose]
  rw [seatingDecisions] at absorbed
  rw [seatingLoad] at chosen
  rw [seatingDecisions, sameFixed, considered, Problem.decisions_append,
    Problem.turnedAway_append, absorbed]
  simp [Problem.decisions, chosen, Problem.turnedAway]

/-- The seat test on a plan asks whether the planner would place the group last. -/
theorem hasSeatFor_eq_choose (tables : List SeatingTable) (items : List SeatingItem)
    (item : SeatingItem) :
    hasSeatFor (planUnassignedSeating tables items) tables
        { start := item.start, finish := item.finish, partySize := item.partySize
          sectionId := none } =
      ((seatingProblem tables).choose (seatingLoad tables items) item).isSome := by
  rw [Bool.eq_iff_iff, Problem.choose_isSome_iff]
  simp only [hasSeatFor, truthy, planUnassignedSeating_eq, isFree_map tables, List.any_eq_true]
  constructor
  · rintro ⟨table, member, accepted⟩
    simp only [Option.filter_none, Option.isNone_none, Bool.true_or, Bool.true_and,
      Bool.and_eq_true] at accepted
    exact ⟨table, mem_bySize.2 member, accepted⟩
  · rintro ⟨table, member, fits, free⟩
    refine ⟨table, mem_bySize.1 member, ?_⟩
    simp only [Option.filter_none, Option.isNone_none, Bool.true_or, Bool.true_and,
      Bool.and_eq_true]
    exact ⟨fits, free⟩

theorem choose_of_bearsOn {tables : List SeatingTable} {part all : List SeatingItem}
    {target : SeatingItem} (sub : part.Sublist all)
    (keeps : ∀ keep : SeatingItem → Bool,
      (∀ item, keep item = true → BearsOn tables all target item) →
      part.filter keep = all.filter keep) :
    (seatingProblem tables).choose (seatingLoad tables part) target =
      (seatingProblem tables).choose (seatingLoad tables all) target := by
  apply Problem.choose_of_influences
  · exact fun tableId item member => (sub.filter _).subset member
  · exact sub.filter _
  · intro tableId region bears
    simp only [fixedOn, List.filter_filter]
    apply keeps
    exact fun item kept => bears item (Bool.and_eq_true_iff.1 kept).1
  · intro region bears
    simp only [unassigned, List.filter_filter]
    apply keeps
    exact fun item kept => bears item (Bool.and_eq_true_iff.1 kept).1

variable {draft : UnassignedDraft}

theorem allSeatingItems_insert {db : Database} {now : Instant}
    (arrivesLast : ∀ arrival ∈ allArrivals db draft.restaurantId now,
      arrival.createdAt < draft.createdAt) :
    allSeatingItems { db with reservations := db.reservations ++ [draft.row] }
        draft.restaurantId now =
      allSeatingItems db draft.restaurantId now ++ [draft.item] := by
  let arrival := reservationArrival
    (resolveServiceDurationMinutes (db.capacitySpecials? draft.restaurantId))
  let front := (db.reservations.filter (seatsRestaurant draft.restaurantId none)).map arrival
  let back := (db.agenticHolds.filter (holdsRestaurant draft.restaurantId now none)).map holdArrival
  have arrived : allArrivals { db with reservations := db.reservations ++ [draft.row] }
        draft.restaurantId now = front ++ arrival draft.row :: back := by
    simp [allArrivals, List.filter_append, draft.row_seats, Database.capacitySpecials?, arrival,
      front, back]
  have beforeLast : ∀ other ∈ front, (compareArrival other (arrival draft.row)).isLE = true := by
    intro other member
    rw [compareArrival_of_lt (arrivesLast other (List.mem_append_left _ member))]
    rfl
  have after : ∀ other ∈ back, ¬ (compareArrival (arrival draft.row) other).isLE = true := by
    intro other member
    rw [compareArrival_of_gt (arrivesLast other (List.mem_append_right _ member))]
    exact Bool.noConfusion
  rw [allSeatingItems, arrived, arrivalOrder,
    StableSort.insertionSort_insert_last _ beforeLast after, List.map_append]
  rfl

variable {restaurantId : Id}

theorem allSeatingItems_of_noLapse {db : Database} {now later : Instant} (clock : now ≤ later)
    (noLapse : ∀ hold ∈ db.agenticHolds, holdsRestaurant restaurantId now none hold = true →
      later < hold.expiresAt) :
    allSeatingItems db restaurantId later = allSeatingItems db restaurantId now := by
  have sameHolds : db.agenticHolds.filter (holdsRestaurant restaurantId later none) =
      db.agenticHolds.filter (holdsRestaurant restaurantId now none) := by
    apply List.filter_congr
    intro hold member
    have still := noLapse hold member
    rw [Bool.eq_iff_iff]
    simp only [holdsRestaurant, Bool.and_eq_true, decide_eq_true_eq] at still ⊢
    constructor
    · rintro ⟨⟨held, live⟩, kept⟩
      exact ⟨⟨held, clock.trans_lt live⟩, kept⟩
    · rintro ⟨⟨held, live⟩, kept⟩
      exact ⟨⟨held, still ⟨⟨held, live⟩, kept⟩⟩, kept⟩
  rw [allSeatingItems, allArrivals, sameHolds]
  rfl

theorem createUnassigned_eq_some {db db' : Database} {now : Instant} :
    createUnassigned db now draft = some db' ↔
      (findUnassignedSeatingConflict db (draft.request now)).conflict = false ∧
        db' = { db with reservations := db.reservations ++ [draft.row] } := by
  unfold createUnassigned
  cases (findUnassignedSeatingConflict db (draft.request now)).conflict with
  | true => simp
  | false => simp [eq_comm]

/-- At a restaurant with tables, a positive verdict has found a table for the group. -/
theorem seat_of_verdict {tables : List SeatingTable} {items : List SeatingItem} {now : Instant}
    (hasTables : tables ≠ [])
    (verdict : (seatingVerdict tables items (draft.request now)).conflict = false) :
    ((seatingProblem tables).choose (seatingLoad tables items) draft.item).isSome = true := by
  rw [← hasSeatFor_eq_choose]
  simp only [seatingVerdict, UnassignedDraft.request, truthy, Option.filter_none,
    Option.isSome_none, Bool.false_eq_true, if_false, Bool.or_eq_false_iff, Bool.and_eq_false_iff,
    Bool.not_eq_false', List.isEmpty_iff, hasTables, false_or] at verdict
  exact verdict.2

variable {s s' : SeatingState}

/-- A verdict that sees everything bearing on a group has found a table that the
whole plan offers too. -/
theorem seat_of_creation (creation : Creation restaurantId draft s s')
    (sees : SeesBearing restaurantId draft s s')
    (tables : loadSeatingTables s.db restaurantId false ≠ []) :
    ((seatingProblem (loadSeatingTables s.db restaurantId false)).choose
      (seatingLoad (loadSeatingTables s.db restaurantId false)
        (allSeatingItems s.db restaurantId s'.now)) draft.item).isSome = true := by
  obtain ⟨rfl, -, admitted⟩ := creation
  have seat := seat_of_verdict tables (createUnassigned_eq_some.1 admitted).1
  rw [← choose_of_bearsOn (loadSeatingItems_sublist s.db draft s'.now)]
  · exact seat
  intro keep bears
  apply loadSeatingItems_filter
  · exact fun row member seats kept => sees.reservations row member seats (bears _ kept)
  · exact fun row member live kept => sees.holds row member live (bears _ kept)

theorem ClearSightedCreation.absorbed (step : ClearSightedCreation restaurantId s s')
    (tables : loadSeatingTables s.db restaurantId false ≠ []) (absorbed : s.Absorbed restaurantId) :
    s'.Absorbed restaurantId := by
  obtain ⟨draft, creation, sees⟩ := step
  have seat := seat_of_creation creation sees tables
  obtain ⟨rfl, clock, admitted⟩ := creation
  have inserted := (createUnassigned_eq_some.1 admitted).2
  rw [SeatingState.Absorbed, inserted, allSeatingItems_insert sees.arrivesLast]
  rw [SeatingState.Absorbed, ← allSeatingItems_of_noLapse clock sees.noLapse] at absorbed
  exact absorbed.append_unassigned rfl seat

theorem ClearSightedCreation.tables (step : ClearSightedCreation restaurantId s s') :
    loadSeatingTables s'.db restaurantId false = loadSeatingTables s.db restaurantId false := by
  obtain ⟨draft, creation, -⟩ := step
  rw [(createUnassigned_eq_some.1 creation.admitted).2]
  rfl

/-- Along a run of clear-sighted creations the plan over all active items absorbs
every group. -/
theorem clearSighted_run_absorbs (restaurantId : Id) (s s' : SeatingState)
    (tables : loadSeatingTables s.db restaurantId false ≠ [])
    (absorbed : (planUnassignedSeating (loadSeatingTables s.db restaurantId false)
      (allSeatingItems s.db restaurantId s.now)).blocked = [])
    (run : Relation.ReflTransGen (ClearSightedCreation restaurantId) s s') :
    (planUnassignedSeating (loadSeatingTables s'.db restaurantId false)
      (allSeatingItems s'.db restaurantId s'.now)).blocked = [] := by
  have kept : loadSeatingTables s'.db restaurantId false ≠ [] ∧ s'.Absorbed restaurantId := by
    induction run with
    | refl => exact ⟨tables, absorbed⟩
    | tail _ step ih =>
      constructor
      · rw [step.tables]
        exact ih.1
      · exact step.absorbed ih.1 ih.2
  exact kept.2

end

section

attribute [local instance] Icu.utc

/-- A table for two, one for four, and the rows of some drafts. -/
def smallHouse (drafts : List UnassignedDraft) : Database where
  restaurants := [⟨"r", "UTC", []⟩]
  exposureSettings := []
  floorPlans := [⟨"p", "r", true, true⟩]
  tables := [⟨"t-2", "p", none, "2", 2, 1, true⟩, ⟨"t-4", "p", none, "4", 4, 1, true⟩]
  reservations := drafts.map UnassignedDraft.row
  agenticHolds := []

def eveningDraft : UnassignedDraft := ⟨"a", "r", 2, 75600000, 84600000, 1, false⟩

def midnightDraft : UnassignedDraft := ⟨"b", "r", 2, 82800000, 90000000, 2, false⟩

/-- Four from 00:30 to 02:30 on the second day. -/
def nightDraft : UnassignedDraft := ⟨"c", "r", 4, 88200000, 95400000, 3, false⟩

theorem evening_creation :
    Creation "r" eveningDraft ⟨smallHouse [], 0⟩ ⟨smallHouse [eveningDraft], 1⟩ :=
  ⟨rfl, by decide, createUnassigned_eq_some.2 ⟨by decide +kernel, rfl⟩⟩

theorem midnight_creation : Creation "r" midnightDraft ⟨smallHouse [eveningDraft], 1⟩
      ⟨smallHouse [eveningDraft, midnightDraft], 2⟩ :=
  ⟨rfl, by decide, createUnassigned_eq_some.2 ⟨by decide +kernel, rfl⟩⟩

theorem night_creation : Creation "r" nightDraft ⟨smallHouse [eveningDraft, midnightDraft], 2⟩
      ⟨smallHouse [eveningDraft, midnightDraft, nightDraft], 3⟩ :=
  ⟨rfl, by decide, createUnassigned_eq_some.2 ⟨by decide +kernel, rfl⟩⟩

/-- Three admitted creations leave the last group without a table: its own day does
not show the first group, which sends the second to the large table. -/
theorem midnight_run_oversells : ∃ s : SeatingState,
      Relation.ReflTransGen (fun s s' => ∃ draft, Creation "r" draft s s') ⟨smallHouse [], 0⟩ s ∧
      (planUnassignedSeating (loadSeatingTables s.db "r" false)
        (allSeatingItems s.db "r" s.now)).blocked = [nightDraft.item.interval] := by
  refine ⟨⟨smallHouse [eveningDraft, midnightDraft, nightDraft], 3⟩, ?_, by decide +kernel⟩
  exact ((Relation.ReflTransGen.single ⟨_, evening_creation⟩).tail
    ⟨_, midnight_creation⟩).tail ⟨_, night_creation⟩

/-- The first two creations see everything that bears on their groups. -/
theorem evening_run_absorbs :
    (planUnassignedSeating (loadSeatingTables (smallHouse [eveningDraft, midnightDraft]) "r" false)
      (allSeatingItems (smallHouse [eveningDraft, midnightDraft]) "r" 2)).blocked = [] := by
  refine clearSighted_run_absorbs "r" ⟨smallHouse [], 0⟩
    ⟨smallHouse [eveningDraft, midnightDraft], 2⟩ (by decide) (by decide +kernel) ?_
  refine .tail (.single ⟨_, evening_creation, ?first⟩) ⟨_, midnight_creation, ?second⟩
  case first =>
    constructor
    · exact fun hold member => absurd member List.not_mem_nil
    · exact fun arrival member => absurd member List.not_mem_nil
    · exact fun row member => absurd member List.not_mem_nil
    · exact fun row member => absurd member List.not_mem_nil
  case second =>
    constructor
    · exact fun hold member => absurd member List.not_mem_nil
    · decide +kernel
    · intro row member _ _
      obtain rfl := List.mem_singleton.1 member
      decide +kernel
    · exact fun row member => absurd member List.not_mem_nil

end

end Sokar
