import Sokar.FloorPlan.UnassignedSeating

/-!
# The seating plan as a first-fit run

The planner is the first-fit algorithm over the tables in size order, started on
the load of the items whose table is fixed.  Soundness of the plan follows from
the general properties of first-fit runs.
-/

namespace Sokar

open FirstFit (Problem Load)

def SeatingItem.overlaps (left right : SeatingItem) : Bool :=
  intervalsOverlap left.start left.finish right.start right.finish

variable (items : List SeatingItem)

def fixedOn (tableId : Id) : List SeatingItem :=
  items.filter fun item => decide (truthy item.tableId = some tableId)

/-- The items left to the virtual placement, in list order. -/
def unassigned : List SeatingItem :=
  items.filter fun item => (truthy item.tableId).isNone

theorem fixedOn_append (left right : List SeatingItem) (tableId : Id) :
    fixedOn (left ++ right) tableId = fixedOn left tableId ++ fixedOn right tableId :=
  List.filter_append ..

theorem mem_unassigned {items : List SeatingItem} {item : SeatingItem} :
    item ∈ unassigned items ↔ item ∈ items ∧ truthy item.tableId = none := by
  simp [unassigned]

variable (load : Load Id SeatingItem)

/-- A load as the planner's map records it: intervals only. -/
def intervals : Id → List Interval :=
  fun tableId => (load tableId).map SeatingItem.interval

theorem occupy_intervals (tableId : Id) (item : SeatingItem) :
    occupy (intervals load) tableId item.interval =
      intervals (Function.update load tableId (load tableId ++ [item])) := by
  funext id
  by_cases here : id = tableId
  · subst here
    simp [occupy, intervals]
  · simp [occupy, intervals, Function.update_of_ne here]

/-- The first loop appends the fixed items of each table. -/
theorem occupyFixed_foldl : items.foldl occupyFixed (intervals load) =
      intervals fun tableId => load tableId ++ fixedOn items tableId := by
  induction items generalizing load with
  | nil => simp [fixedOn]
  | cons item rest ih =>
    rw [List.foldl_cons]
    cases fixed : truthy item.tableId with
    | none =>
      simp only [occupyFixed, fixed, ih]
      simp [fixedOn, fixed]
    | some tableId =>
      simp only [occupyFixed, fixed, occupy_intervals, ih]
      congr 1
      funext id
      by_cases here : id = tableId
      · subst here
        simp [fixedOn, fixed]
      · simp [fixedOn, fixed, Function.update_of_ne here, Ne.symm here]

theorem fitsParty_iff (table : SeatingTable) (partySize : Int) : fitsParty table partySize = true ↔
      table.minCapacity ≤ partySize ∧ partySize ≤ table.capacity := by
  simp [fitsParty, and_comm]

variable (tables : List SeatingTable)

section

variable [Icu]

def seatingProblem : Problem SeatingTable Id SeatingItem where
  bins := bySize tables
  key := (·.id)
  admits table item := fitsParty table item.partySize
  clash := SeatingItem.overlaps

/-- The decision taken for each unassigned item. -/
def seatingDecisions (items : List SeatingItem) : List (SeatingItem × Option SeatingTable) :=
  (seatingProblem tables).decisions (fixedOn items) (unassigned items)

/-- The items of each table once the plan is complete. -/
def seatingLoad (items : List SeatingItem) : Load Id SeatingItem :=
  (seatingProblem tables).loadAfter (fixedOn items) (unassigned items)

@[simp] theorem mem_bySize {tables : List SeatingTable} {table : SeatingTable} :
    table ∈ bySize tables ↔ table ∈ tables :=
  List.mem_insertionSort _

section

variable (tables : List SeatingTable)

theorem isFree_map (load : Load Id SeatingItem) (table : SeatingTable) (item : SeatingItem) :
    isFree (intervals load table.id) item.start item.finish =
      (seatingProblem tables).isFree load table item := by
  simp [intervals, isFree, Problem.isFree, seatingProblem, SeatingItem.overlaps, SeatingItem.interval,
    Function.comp_def]

section

variable (items : List SeatingItem)

theorem placeUnassigned_foldl (load : Load Id SeatingItem) (blocked : List Interval) :
    items.foldl (placeUnassigned (bySize tables)) { busyByTable := intervals load, blocked } =
      { busyByTable := intervals ((seatingProblem tables).loadAfter load (unassigned items))
        blocked := blocked ++
          (Problem.turnedAway ((seatingProblem tables).decisions load (unassigned items))).map
            SeatingItem.interval } := by
  induction items generalizing load blocked with
  | nil => simp [unassigned, Problem.loadAfter, Problem.decisions, Problem.turnedAway]
  | cons item rest ih =>
    rw [List.foldl_cons]
    cases fixed : truthy item.tableId with
    | some tableId =>
      have skipped : unassigned (item :: rest) = unassigned rest := by
        simp [unassigned, fixed]
      simp [placeUnassigned, fixed, skipped, ih]
    | none =>
      have considered : unassigned (item :: rest) = item :: unassigned rest := by
        simp [unassigned, fixed]
      have choice : (bySize tables).find? (fun table =>
            fitsParty table item.partySize &&
              isFree (intervals load table.id) item.start item.finish) =
            (seatingProblem tables).choose load item := by
        simp only [isFree_map tables]
        rfl
      simp only [placeUnassigned, fixed, choice, considered, Problem.loadAfter, Problem.decisions]
      cases chosen : (seatingProblem tables).choose load item with
      | none => simp [ih, Problem.put, Problem.turnedAway]
      | some table =>
        simp [occupy_intervals, ih, Problem.put, Problem.turnedAway, seatingProblem]

theorem planUnassignedSeating_eq : planUnassignedSeating tables items =
      { busyByTable := intervals (seatingLoad tables items)
        blocked :=
          (Problem.turnedAway (seatingDecisions tables items)).map SeatingItem.interval } := by
  have fixed := occupyFixed_foldl items fun _ => []
  rw [planUnassignedSeating, show (fun _ => []) = intervals fun _ => [] from rfl, fixed]
  exact placeUnassigned_foldl tables items (fixedOn items) []

theorem blocked_eq : (planUnassignedSeating tables items).blocked =
      (Problem.turnedAway (seatingDecisions tables items)).map SeatingItem.interval := by
  rw [planUnassignedSeating_eq]

theorem busyByTable_eq (tableId : Id) : (planUnassignedSeating tables items).busyByTable tableId =
      (seatingLoad tables items tableId).map SeatingItem.interval := by
  simp only [planUnassignedSeating_eq, intervals]

end

end

theorem mem_unassigned_of_turnedAway {tables : List SeatingTable} {items : List SeatingItem}
    {item : SeatingItem}
    (away : item ∈ Problem.turnedAway (seatingDecisions tables items)) :
    item ∈ unassigned items := by
  simp only [Problem.turnedAway, List.mem_filterMap] at away
  obtain ⟨decision, taken, isAway⟩ := away
  have placed : decision.1 ∈ (seatingDecisions tables items).map Prod.fst :=
    List.mem_map_of_mem taken
  rw [seatingDecisions, Problem.decisions_items] at placed
  split at isAway
  · cases isAway
    exact placed
  · cases isAway

structure SoundPlacement (tables : List SeatingTable) (items : List SeatingItem)
    (plan : SeatingPlan) (taken : List (SeatingItem × Option SeatingTable)) : Prop where
  /-- No two intervals of one table overlap. -/
  disjoint : ∀ tableId, (plan.busyByTable tableId).Pairwise fun first second =>
    intervalsOverlap first.start first.finish second.start second.finish = false
  considered : taken.map Prod.fst = unassigned items
  fits : ∀ item table, (item, some table) ∈ taken →
    table ∈ tables ∧ table.minCapacity ≤ item.partySize ∧ item.partySize ≤ table.capacity
  /-- A table carries the items fixed on it and those placed on it, nothing else. -/
  busy : ∀ tableId, plan.busyByTable tableId =
    (fixedOn items tableId ++
      taken.filterMap fun decision =>
        if decision.2.map (·.id) = some tableId then some decision.1 else none).map
      SeatingItem.interval
  /-- The blocked intervals are those of the items without a table. -/
  blocked : plan.blocked =
    (taken.filterMap fun decision =>
      if decision.2.isNone then some decision.1 else none).map SeatingItem.interval
  /-- When an item was turned away, every table that fits it carried an interval
  overlapping it. -/
  justified : ∀ before item after, taken = before ++ (item, none) :: after →
    ∀ table ∈ tables, table.minCapacity ≤ item.partySize → item.partySize ≤ table.capacity →
      ∃ placed ∈ fixedOn items table.id ++
          before.filterMap fun decision =>
            if decision.2.map (·.id) = some table.id then some decision.1 else none,
        intervalsOverlap placed.start placed.finish item.start item.finish = true

/-- The plan is a sound and lossless placement as soon as the fixed items of each
table do not overlap. -/
theorem planUnassignedSeating_sound (tables : List SeatingTable) (items : List SeatingItem)
    (fixedDisjoint : ∀ tableId, (fixedOn items tableId).Pairwise fun first second =>
      intervalsOverlap first.start first.finish second.start second.finish = false) :
    SoundPlacement tables items (planUnassignedSeating tables items)
      (seatingDecisions tables items) where
  disjoint := by
    intro tableId
    rw [busyByTable_eq, List.pairwise_map]
    exact (seatingProblem tables).loadAfter_pairwise _ _ fixedDisjoint tableId
  considered := Problem.decisions_items ..
  fits := by
    intro item table taken
    obtain ⟨before, after, split⟩ := List.append_of_mem taken
    have chosen := (seatingProblem tables).decision_eq_choose split
    obtain ⟨member, admitted, -⟩ := (seatingProblem tables).choose_some chosen.symm
    exact ⟨mem_bySize.1 member, (fitsParty_iff table item.partySize).1 admitted⟩
  busy := by
    intro tableId
    rw [busyByTable_eq, seatingLoad, Problem.loadAfter_apply]
    rfl
  blocked := blocked_eq tables items
  justified := by
    intro before item after split table member atLeast atMost
    have chosen := (seatingProblem tables).decision_eq_choose split
    exact ((seatingProblem tables).choose_none_iff _ item).1 chosen.symm table
      (mem_bySize.2 member) ((fitsParty_iff table item.partySize).2 ⟨atLeast, atMost⟩)

end

section

attribute [local instance] Icu.utc

/-- A table for two, one for four with a reservation on it, and two loose groups. -/
theorem planUnassignedSeating_sound_evening :
    let tables : List SeatingTable := [⟨"t-4", none, 4, 1⟩, ⟨"t-2", none, 2, 1⟩]
    let items : List SeatingItem :=
      [⟨4, 19, 21, some "t-4"⟩, ⟨2, 19, 21, none⟩, ⟨2, 20, 22, none⟩]
    SoundPlacement tables items (planUnassignedSeating tables items)
        (seatingDecisions tables items) ∧
      (planUnassignedSeating tables items).blocked = [⟨20, 22⟩] := by
  refine ⟨planUnassignedSeating_sound _ _ ?_, by decide⟩
  intro tableId
  by_cases here : tableId = "t-4"
  · subst here
    decide
  · have empty : fixedOn [⟨4, 19, 21, some "t-4"⟩, ⟨2, 19, 21, none⟩, ⟨2, 20, 22, none⟩]
        tableId = [] := by
      simp [fixedOn, truthy, Ne.symm here]
    rw [empty]
    exact .nil

end

end Sokar
