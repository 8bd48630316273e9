import Sokar.Library.KeyedRows
import Sokar.Library.StableSort
import Sokar.FloorPlan.TableAllocation

/-!
# Suggested tables

`suggest` walks through the candidate tables, those of the preferred section first, and stops at its
limit; only then it sorts what it has by score.
-/

namespace Sokar

open Process Transaction StableSort

structure AllocationSuggestion where
  id : Id
  name : String
  capacity : Int
  minCapacity : Int
  sectionId : Option Id
  score : Int
  reasons : List String
  deriving DecidableEq

namespace AllocateTableInput

variable (input : AllocateTableInput)

variable (table : Table)

def prefers : Bool :=
  (truthy input.preferredSectionId).any fun sectionId => table.sectionId == some sectionId

def scoreCandidate : Int :=
  100 - (table.capacity - input.partySize) * 10 + if input.prefers table then 15 else 0

def buildCandidateReasons : List String :=
  let spare := table.capacity - input.partySize
  (if spare = 0 then [s!"Capacité exacte pour {input.partySize} couverts"]
    else [s!"Table de {table.capacity} couverts pour {input.partySize} personnes"]) ++
  (if input.prefers table then ["Dans votre section préférée"] else []) ++
  if spare = 0 then ["Optimise votre remplissage"] else []

def suggestion : AllocationSuggestion where
  id := table.id
  name := table.name
  capacity := table.capacity
  minCapacity := table.minCapacity
  sectionId := table.sectionId
  score := input.scoreCandidate table
  reasons := input.buildCandidateReasons table

/-- What the availability of a suggested table is checked with: nothing is left out. -/
def plainCheck : TableAvailabilityCheck where
  tableId := table.id
  startsAt := input.startsAt
  endsAt := input.endsAt
  excludeReservationId := none
  excludeHoldId := none

/-- No reservation conflicts with the window on the table, and no hold that lives. -/
def isFreeTable (db : Database) (now : Instant) (table : Table) : Bool :=
  !hasConflictingReservation db (input.plainCheck table) &&
    !hasConflictingHold db now (input.plainCheck table)

/-- The loop over the candidates.  Outside a transaction each statement has its own `NOW()`. -/
def collectSuggestions (limit : Nat) :
    List Table → List AllocationSuggestion → BookingProg (List AllocationSuggestion)
  | [], suggestions => pure suggestions
  | table :: rest, suggestions => do
      let hasReservationConflict ← query fun db _ =>
        hasConflictingReservation db (input.plainCheck table)
      let hasHoldConflict ← query fun db now => hasConflictingHold db now (input.plainCheck table)
      if hasReservationConflict || hasHoldConflict then
        collectSuggestions limit rest suggestions
      else
        let suggestions := suggestions ++ [input.suggestion table]
        if limit ≤ suggestions.length then pure suggestions
        else collectSuggestions limit rest suggestions

end AllocateTableInput

section

variable [Postgres]

def suggest (input : AllocateTableInput) (limit : Nat) :
    BookingProg (List AllocationSuggestion) := do
  let tables ← query fun db _ => findCandidateTables db input
  let suggestions ← input.collectSuggestions limit tables []
  pure (suggestions.insertionSort fun first second => second.score ≤ first.score)

/-- The candidates that are free, in the order of the queries. -/
def AllocateTableInput.available (input : AllocateTableInput) (db : Database) (now : Instant) :
    List Table :=
  (findCandidateTables db input).filter (input.isFreeTable db now)

end

variable {input : AllocateTableInput} {limit : Nat}

/-- The loop stops once there are as many suggestions as asked for, but never before the first. -/
theorem run_collectSuggestions (store : BookingStore) (tables : List Table)
    (suggestions : List AllocationSuggestion)
    (room : suggestions.length < max limit 1) :
    (input.collectSuggestions limit tables suggestions).run store =
      some (suggestions ++ ((tables.filter (input.isFreeTable store.data store.now)).take
        (max limit 1 - suggestions.length)).map input.suggestion, store) := by
  induction tables generalizing suggestions with
  | nil => simp [AllocateTableInput.collectSuggestions]
  | cons table rest ih =>
    simp only [AllocateTableInput.collectSuggestions, Prog.run_bind, run_query, Option.bind_some]
    cases isFree : input.isFreeTable store.data store.now table with
    | false =>
      have isTaken : (hasConflictingReservation store.data (input.plainCheck table) ||
          hasConflictingHold store.data store.now (input.plainCheck table)) = true := by
        simpa [AllocateTableInput.isFreeTable, or_iff_not_imp_left] using isFree
      rw [if_pos isTaken, ih suggestions room, List.filter_cons_of_neg (by simp [isFree])]
    | true =>
      have notTaken : ¬ (hasConflictingReservation store.data (input.plainCheck table) ||
          hasConflictingHold store.data store.now (input.plainCheck table)) = true := by
        simpa [AllocateTableInput.isFreeTable] using isFree
      rw [if_neg notTaken, List.filter_cons_of_pos isFree]
      have more : max limit 1 - suggestions.length =
          max limit 1 - (suggestions ++ [input.suggestion table]).length + 1 := by
        simp only [List.length_append, List.length_singleton]
        omega
      rw [more, List.take_succ_cons, List.map_cons]
      split
      next full =>
        have none_ : max limit 1 - (suggestions ++ [input.suggestion table]).length = 0 := by
          omega
        rw [none_, List.take_zero]
        rfl
      next notFull =>
        rw [ih _ (by omega)]
        simp

section

/-- Between tables that are both preferred, or both not, the smaller one has the higher score. -/
theorem scoreCandidate_le_iff {first second : Table}
    (alike : input.prefers first = input.prefers second) :
    input.scoreCandidate second ≤ input.scoreCandidate first ↔ first.capacity ≤ second.capacity := by
  simp only [AllocateTableInput.scoreCandidate, alike]
  omega

/-- The bonus of the preferred section is worth one seat and a half. -/
theorem scoreCandidate_le_of_preferred {first second : Table} (prefers : input.prefers first = true)
    (other : input.prefers second = false) :
    input.scoreCandidate second ≤ input.scoreCandidate first ↔
      first.capacity ≤ second.capacity + 1 := by
  simp only [AllocateTableInput.scoreCandidate, prefers, other, Bool.false_eq_true, if_true, if_false]
  omega

/-- A candidate comes before one of lower or equal score, or is preferred to it by its section. -/
def Precedes (input : AllocateTableInput) (first second : Table) : Prop :=
  (input.prefers first = true ∧ input.prefers second = false) ∨
    input.scoreCandidate second ≤ input.scoreCandidate first

variable [Postgres] {db : Database}

theorem precedes_of_alike {tables : List Table} {preferred : Bool}
    (alike : ∀ table ∈ tables, input.prefers table = preferred) :
    (orderCandidates tables).Pairwise (Precedes input) := by
  have byCapacity : (orderCandidates tables).Pairwise
      fun first second => first.capacity ≤ second.capacity := by
    refine pairwise_insertionSort_of_key _ Table.capacity ?_ ?_ tables
    · intro first second isBefore
      by_contra larger
      rw [not_le, ← compare_gt_iff_gt] at larger
      simp [compareCandidates, larger] at isBefore
    · intro first second notBefore
      by_contra smaller
      rw [not_le, ← compare_lt_iff_lt] at smaller
      simp [compareCandidates, smaller] at notBefore
  refine byCapacity.imp_of_mem fun isFirst isSecond smaller => .inr ?_
  have same := (alike _ (mem_orderCandidates.1 isFirst)).trans
    (alike _ (mem_orderCandidates.1 isSecond)).symm
  exact (scoreCandidate_le_iff same).2 smaller

/-- The tables of the preferred section are all among the first query. -/
theorem findCandidateTables_precedes (unique : (db.floorPlans.map (·.id)).Nodup) :
    (findCandidateTables db input).Pairwise (Precedes input) := by
  unfold findCandidateTables
  cases isSection : truthy input.preferredSectionId with
  | none =>
    have noneIsPreferred : ∀ table, input.prefers table = false := by
      simp [AllocateTableInput.prefers, isSection]
    cases defaultFloorPlan? db input.restaurantId with
    | none => exact List.Pairwise.nil
    | some plan => exact precedes_of_alike fun table _ => noneIsPreferred table
  | some sectionId =>
    have prefers_iff : ∀ table, input.prefers table = (table.sectionId == some sectionId) := by
      simp [AllocateTableInput.prefers, isSection]
    have first : ∀ table ∈ db.tables.filter fun table =>
        table.sectionId == some sectionId && onActivePlan db input.restaurantId table &&
          capacityFilter input table, input.prefers table = true := by
      intro table isTable
      rw [prefers_iff]
      exact (Bool.and_eq_true_iff.1 (Bool.and_eq_true_iff.1 (List.mem_filter.1 isTable).2).1).1
    cases isPlan : defaultFloorPlan? db input.restaurantId with
    | none => exact precedes_of_alike first
    | some plan =>
      dsimp only
      generalize isPreferred : orderCandidates (db.tables.filter fun table =>
        table.sectionId == some sectionId && onActivePlan db input.restaurantId table &&
          capacityFilter input table) = preferred
      have later : ∀ table ∈ db.tables.filter fun table =>
          table.floorPlanId == plan.id && capacityFilter input table &&
            !(preferred.map (·.id)).contains table.id, input.prefers table = false := by
        intro table isTable
        obtain ⟨isRow, passes⟩ := List.mem_filter.1 isTable
        simp only [Bool.and_eq_true, beq_iff_eq, Bool.not_eq_true', List.contains_eq_mem,
          decide_eq_false_iff_not] at passes
        obtain ⟨⟨onPlan, fits⟩, fresh⟩ := passes
        rw [prefers_iff, Bool.eq_false_iff]
        intro inSection
        refine fresh (List.mem_map_of_mem ?_)
        have found := KeyedRows.lookup_of_mem unique (List.mem_of_find?_eq_some isPlan)
        have accepted := List.find?_some isPlan
        simp only [Bool.and_eq_true] at accepted
        have onActive : onActivePlan db input.restaurantId table = true := by
          rw [onActivePlan, Database.floorPlanOf?, onPlan]
          rw [KeyedRows.lookup] at found
          rw [found]
          simpa using accepted.1
        rw [← isPreferred, mem_orderCandidates, List.mem_filter, inSection, onActive, fits]
        exact ⟨isRow, rfl⟩
      refine List.pairwise_append.2 ⟨isPreferred ▸ precedes_of_alike first,
        precedes_of_alike later, ?_⟩
      intro one isOne other isOther
      rw [← isPreferred, mem_orderCandidates] at isOne
      exact .inl ⟨first one isOne, later other (mem_orderCandidates.1 isOther)⟩

theorem available_precedes {now : Instant} (unique : (db.floorPlans.map (·.id)).Nodup) :
    (input.available db now).Pairwise (Precedes input) :=
  (findCandidateTables_precedes unique).sublist List.filter_sublist

/-- No free table outside the preferred section that comes after the limit has two seats less than a
free table of the section before it. -/
def KeepsBest (db : Database) (now : Instant) (input : AllocateTableInput) (limit : Nat) : Prop :=
  ∀ one ∈ (input.available db now).take limit, ∀ other ∈ (input.available db now).drop limit,
    input.prefers one = true → input.prefers other = false → one.capacity ≤ other.capacity + 1

theorem keepsBest_iff {now : Instant} (unique : (db.floorPlans.map (·.id)).Nodup) :
    KeepsBest db now input limit ↔
      ∀ one ∈ (input.available db now).take limit, ∀ other ∈ (input.available db now).drop limit,
        input.scoreCandidate other ≤ input.scoreCandidate one := by
  have precedes : ∀ one ∈ (input.available db now).take limit,
      ∀ other ∈ (input.available db now).drop limit, Precedes input one other := by
    have parts : ((input.available db now).take limit ++
        (input.available db now).drop limit).Pairwise (Precedes input) := by
      rw [List.take_append_drop]
      exact available_precedes unique
    exact (List.pairwise_append.1 parts).2.2
  constructor
  · intro keeps one isOne other isOther
    rcases precedes one isOne other isOther with ⟨prefers, notPreferred⟩ | lower
    · exact (scoreCandidate_le_of_preferred prefers notPreferred).2
        (keeps one isOne other isOther prefers notPreferred)
    · exact lower
  · intro lower one isOne other isOther prefers notPreferred
    exact (scoreCandidate_le_of_preferred prefers notPreferred).1 (lower one isOne other isOther)

end

section

variable [Postgres] {store : BookingStore}

theorem run_suggest : (suggest input limit).run store =
    some ((((input.available store.data store.now).map input.suggestion).take
      (max limit 1)).insertionSort fun first second => second.score ≤ first.score, store) := by
  have room : ([] : List AllocationSuggestion).length < max limit 1 := by simp
  simp only [suggest, Prog.run_bind, run_query, Option.bind_some,
    run_collectSuggestions store (findCandidateTables store.data input) [] room]
  rw [List.nil_append, List.length_nil, Nat.sub_zero, List.map_take]
  rfl

/-- The suggestions are the best of the free tables, and each is of a table that fits the party
and has no conflict on the window. -/
structure SuggestsBest (db : Database) (now : Instant) (input : AllocateTableInput) (limit : Nat)
    (suggestions : List AllocationSuggestion) : Prop where
  best : IsBest AllocationSuggestion.score limit ((input.available db now).map input.suggestion)
    suggestions
  fitting : ∀ suggestion ∈ suggestions, ∃ table, suggestion = input.suggestion table ∧
    Qualifies db input.restaurantId input.partySize table ∧
      hasConflictingReservation db (input.plainCheck table) = false ∧
        hasConflictingHold db now (input.plainCheck table) = false

theorem fitting_of_available {db : Database} {now : Instant} {suggestion : AllocationSuggestion}
    (isFree : suggestion ∈ (input.available db now).map input.suggestion) :
    ∃ table, suggestion = input.suggestion table ∧
      Qualifies db input.restaurantId input.partySize table ∧
        hasConflictingReservation db (input.plainCheck table) = false ∧
          hasConflictingHold db now (input.plainCheck table) = false := by
  obtain ⟨table, isTable, rfl⟩ := List.mem_map.1 isFree
  obtain ⟨isCandidate, free⟩ := List.mem_filter.1 isTable
  simp only [AllocateTableInput.isFreeTable, Bool.and_eq_true, Bool.not_eq_true'] at free
  exact ⟨table, rfl, qualifies_of_candidate isCandidate, free⟩

end

section

attribute [local instance] Postgres.c

/-- A section with a table for eight, and a table for two elsewhere. -/
def sectionStore : BookingStore where
  data :=
    { restaurants := []
      exposureSettings := []
      floorPlans := [⟨"p", "r", true, true⟩]
      tables := [⟨"t-8", "p", some "s", "8", 8, 1, true⟩, ⟨"t-2", "p", none, "2", 2, 1, true⟩]
      reservations := []
      agenticHolds := [] }
  now := 0
  owner _ := none

def pairInSection : AllocateTableInput where
  restaurantId := "r"
  partySize := 2
  startsAt := 3600000
  endsAt := 7200000
  preferredSectionId := some "s"
  excludeTableIds := []
  excludeReservationId := none

end

end Sokar
