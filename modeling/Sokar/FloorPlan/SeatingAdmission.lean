import Sokar.FloorPlan.SeatingPlan

/-!
# What a verdict for a table guarantees

A request with a table is admitted when no group left without a table meets the
requested window.  The groups it displaces may lie elsewhere: this module bounds
them and gives a condition under which a positive verdict strands nobody.
-/

namespace Sokar

open FirstFit (Problem Load)

/-- The requested window, as an item to compare the others with. -/
def SeatingRequest.window (request : SeatingRequest) : SeatingItem :=
  { request.fixed with tableId := none }

variable (tables : List SeatingTable)

variable (items : List SeatingItem)

section

variable [Icu]

/-- The planner absorbs every unassigned item. -/
def Absorbs : Prop :=
  (planUnassignedSeating tables items).blocked = []

/-- The unassigned items that fixing an item can displace: it can keep the first
of them off a table, and each of them the next. -/
def Displaceable (fixed : SeatingItem) : SeatingItem → Prop :=
  (seatingProblem tables).Influences (fixedOn (items ++ [fixed])) (unassigned items) fixed

/-- Once an item is fixed, a table that fits the other one remains that nobody who
can use it overlaps. -/
def HasSpareTable (fixed item : SeatingItem) : Prop :=
  (seatingProblem tables).Spare (fixedOn (items ++ [fixed])) (unassigned items) item

theorem absorbs_iff :
    Absorbs tables items ↔ Problem.turnedAway (seatingDecisions tables items) = [] := by
  rw [Absorbs, blocked_eq, List.map_eq_nil_iff]

variable {items : List SeatingItem} {fixed : SeatingItem} {table : Id}

omit [Icu] in
theorem fixedOn_append_fixed (onTable : truthy fixed.tableId = some table) (tableId : Id) :
    fixedOn (items ++ [fixed]) tableId =
      fixedOn items tableId ++ if tableId = table then [fixed] else [] := by
  rw [fixedOn_append]
  by_cases here : tableId = table
  · subst here
    simp [fixedOn, onTable]
  · simp [fixedOn, onTable, here, Ne.symm here]

omit [Icu] in
theorem unassigned_append_fixed (onTable : truthy fixed.tableId = some table) :
    unassigned (items ++ [fixed]) = unassigned items := by
  simp [unassigned, onTable]

section

variable {tables : List SeatingTable} (onTable : truthy fixed.tableId = some table)
variable (absorbed : Absorbs tables items)
include onTable absorbed

theorem displaceable_of_turnedAway {item : SeatingItem}
    (away : item ∈ Problem.turnedAway (seatingDecisions tables (items ++ [fixed]))) :
    Displaceable tables items fixed item ∧ ¬ HasSpareTable tables items fixed item := by
  have loose := (mem_unassigned.1 (mem_unassigned_of_turnedAway away)).2
  have notFixed : item ≠ fixed := by
    rintro rfl
    rw [onTable] at loose
    cases loose
  rw [seatingDecisions, unassigned_append_fixed onTable] at away
  constructor
  · have nobody := (absorbs_iff tables items).1 absorbed
    have outcome : item ∈ Problem.turnedAway (seatingDecisions tables items) ∨
        Displaceable tables items fixed item := by
      refine (seatingProblem tables).turnedAway_of_extra ?_ ?_ notFixed away
      · intro tableId region excluded
        rw [fixedOn_append_fixed onTable]
        split <;> simp [excluded]
      · intro tableId other loaded
        rw [fixedOn_append]
        exact List.mem_append_left _ loaded
    rw [nobody] at outcome
    exact outcome.resolve_left List.not_mem_nil
  · intro spare
    exact (seatingProblem tables).not_turnedAway_of_spare spare away

theorem Absorbs.append_fixed
    (spare : ∀ item, Displaceable tables items fixed item → HasSpareTable tables items fixed item) :
    Absorbs tables (items ++ [fixed]) := by
  rw [absorbs_iff]
  by_contra stranded
  obtain ⟨item, away⟩ := List.exists_mem_of_ne_nil _ stranded
  obtain ⟨displaced, crowded⟩ := displaceable_of_turnedAway onTable absorbed away
  exact crowded (spare item displaced)

end

/-- A positive verdict for a table keeps every group absorbed as soon as each group
that fixing the table can displace has a spare table or meets the requested
window. -/
theorem fixed_verdict_absorbs (tables : List SeatingTable) (items : List SeatingItem)
    (request : SeatingRequest) (onTable : (truthy request.tableId).isSome = true)
    (absorbed : (planUnassignedSeating tables items).blocked = [])
    (verdict : (seatingVerdict tables items request).conflict = false)
    (nearby : ∀ item, Displaceable tables items request.fixed item →
      HasSpareTable tables items request.fixed item ∨ item.overlaps request.window = true) :
    (planUnassignedSeating tables (items ++ [request.fixed])).blocked = [] := by
  obtain ⟨table, onTable⟩ := Option.isSome_iff_exists.1 onTable
  refine (absorbs_iff tables _).2 ?_
  by_contra stranded
  obtain ⟨item, away⟩ := List.exists_mem_of_ne_nil _ stranded
  obtain ⟨displaced, crowded⟩ := displaceable_of_turnedAway onTable absorbed away
  have meets := (nearby item displaced).resolve_left crowded
  simp only [seatingVerdict, onTable, Option.isSome_some, if_true, isWindowBlocked,
    List.any_eq_false, blocked_eq, List.mem_map] at verdict
  have apart := verdict item.interval ⟨item, away, rfl⟩
  exact apart meets

end

section

attribute [local instance] Icu.utc

/-- Two tables and two loose groups that overlap only each other: fixing the small
table from 19 to 21 moves the first group to the large table and strands the
second, after the window. -/
theorem fixed_verdict_strands :
    let tables : List SeatingTable := [⟨"t-2", none, 2, 1⟩, ⟨"t-4", none, 4, 1⟩]
    let items : List SeatingItem := [⟨2, 20, 23, none⟩, ⟨4, 22, 24, none⟩]
    let request : SeatingRequest := ⟨"r", 2, 19, 21, some "t-2", 0, none, none⟩
    (planUnassignedSeating tables items).blocked = [] ∧
      (seatingVerdict tables items request).conflict = false ∧
      (planUnassignedSeating tables (items ++ [request.fixed])).blocked = [⟨22, 24⟩] := by
  decide

/-- A loose group of two that meets the window moves to the table for four. -/
theorem fixed_verdict_absorbs_evening :
    let tables : List SeatingTable := [⟨"t-2", none, 2, 1⟩, ⟨"t-4", none, 4, 1⟩]
    let items : List SeatingItem := [⟨2, 20, 23, none⟩]
    let request : SeatingRequest := ⟨"r", 2, 19, 21, some "t-2", 0, none, none⟩
    (planUnassignedSeating tables (items ++ [request.fixed])).blocked = [] := by
  intro tables items request
  refine fixed_verdict_absorbs tables items request (by decide) (by decide) (by decide) ?_
  intro item displaced
  right
  have member : item ∈ [⟨2, 20, 23, none⟩] := displaced.mem
  rw [List.mem_singleton] at member
  subst member
  decide

end

end Sokar
