import Sokar.FloorPlan.Availability
import Sokar.FloorPlan.Suggestions

/-!
# The next available slot

`findNextAvailable` of `service-copilot-simulation.service`, without a preferred section.  Of each
day it asks for a table at the first slot that is offered, and goes on to the next day.
-/

namespace Sokar

open Process Transaction

/-- The first elements lead to the same one as all do if and only if no other passes before. -/
theorem find?_heads_eq_iff {α : Type} {passes : α → Bool} {groups : List (List α)}
    (apart : groups.Pairwise List.Disjoint) :
    (groups.filterMap List.head?).find? passes = groups.flatten.find? passes ↔
      ∀ group ∈ groups.takeWhile fun group => !group.head?.any passes,
        ∀ other ∈ group, passes other = false := by
  induction groups with
  | nil => simp
  | cons group rest ih =>
    obtain ⟨notLater, restApart⟩ := List.pairwise_cons.1 apart
    have ih := ih restApart
    cases group with
    | nil => simpa using ih
    | cons first others =>
      cases firstPasses : passes first with
      | true => simp [firstPasses]
      | false =>
        rw [List.filterMap_cons_some List.head?_cons, List.flatten_cons,
          List.find?_append, List.find?_cons_of_neg (by simp [firstPasses]),
          List.takeWhile_cons_of_pos (by simp [firstPasses]), List.forall_mem_cons]
        cases found : (first :: others).find? passes with
        | none =>
          have nonePass := List.find?_eq_none.1 found
          simp only [Bool.not_eq_true] at nonePass
          rw [Option.none_or, ih]
          exact ⟨fun rest => ⟨nonePass, rest⟩, And.right⟩
        | some chosen =>
          have isChosen := List.mem_of_find?_eq_some found
          refine iff_of_false (fun same => ?_) fun nonePass => ?_
          · obtain ⟨later, isLater, isHead⟩ :=
              List.mem_filterMap.1 (List.mem_of_find?_eq_some same)
            exact notLater later isLater isChosen (List.mem_of_head? isHead)
          · exact absurd (List.find?_some found) (by simp [nonePass.1 chosen isChosen])

section

variable [Icu]

def formatZonedTime (date : Instant) (timeZone : String) : String :=
  let time := (utcToZonedParts date timeZone).time
  formatTime (time.hour * 60 + time.minute)

def addDaysToZonedDate (date : LocalDate) (days : Nat) (timeZone : String) : LocalDate :=
  let base := zonedTimeToUtc date ⟨12, 0⟩ timeZone
  (utcToZonedParts (base + days * msPerDay) timeZone).date

structure FindNextArgs where
  restaurantId : Id
  partySize : Int
  startsAt : Instant
  serviceDurationMinutes : Nat
  timeZone : String

/-- A slot of the day that lies an offset after the first one. -/
structure DaySlot where
  offset : Nat
  time : String
  deriving DecidableEq

structure NextAvailable where
  slot : DaySlot
  nextAvailableAt : Instant
  nextAvailableSectionId : Option Id

namespace FindNextArgs

variable (args : FindNextArgs) (availability : LocalDate → List AvailabilitySlot)

def date (offset : Nat) : LocalDate :=
  let startDate := (utcToZonedParts args.startsAt args.timeZone).date
  if offset = 0 then startDate else addDaysToZonedDate startDate offset args.timeZone

def slotStart (slot : DaySlot) : Instant :=
  zonedTimeToUtc (args.date slot.offset) (clockTime slot.time) args.timeZone

/-- What is offered on a day; on the first one, from the instant's minute on. -/
def offered (offset : Nat) : List DaySlot :=
  ((availability (args.date offset)).filter fun slot => slot.available &&
    !(offset == 0 && slot.time < formatZonedTime args.startsAt args.timeZone)).map
      fun slot => ⟨offset, slot.time⟩

def days : List (List DaySlot) :=
  (List.range 8).map (args.offered availability)

def request (slot : DaySlot) : AllocateTableInput where
  restaurantId := args.restaurantId
  partySize := args.partySize
  startsAt := args.slotStart slot
  endsAt := addMinutes (args.slotStart slot) args.serviceDurationMinutes
  preferredSectionId := none
  excludeTableIds := []
  excludeReservationId := none

variable [Postgres]

/-- The loop over the days. -/
def tryDays : List (List DaySlot) → BookingProg (Option NextAvailable)
  | [] => pure none
  | day :: rest =>
    match day.head? with
    | none => tryDays rest
    | some slot => do
      let suggestions ← suggest (args.request slot) 1
      match suggestions with
      | [] => tryDays rest
      | suggestion :: _ => pure (some ⟨slot, args.slotStart slot, suggestion.sectionId⟩)

def findNextAvailable : BookingProg (Option NextAvailable) :=
  args.tryDays (args.days availability)

/-- `suggest` finds a table. -/
def seats (store : BookingStore) (slot : DaySlot) : Bool :=
  ((suggest (args.request slot) 1).run store).any fun found => !found.1.isEmpty

theorem run_tryDays (store : BookingStore) (days : List (List DaySlot)) :
    ∃ result, (args.tryDays days).run store = some (result, store) ∧
      result.map (·.slot) = (days.filterMap List.head?).find? (args.seats store) := by
  induction days with
  | nil => exact ⟨none, rfl, rfl⟩
  | cons day rest ih =>
    cases day with
    | nil => exact ih
    | cons slot others =>
      obtain ⟨suggestions, suggested⟩ : ∃ suggestions,
          (suggest (args.request slot) 1).run store = some (suggestions, store) :=
        ⟨_, run_suggest⟩
      rw [tryDays, List.head?_cons, List.filterMap_cons_some List.head?_cons]
      dsimp only
      rw [Prog.run_bind, suggested, Option.bind_some]
      cases suggestions with
      | nil =>
        have notSeated : args.seats store slot = false := by
          rw [seats, suggested]
          rfl
        rw [List.find?_cons_of_neg (by simp [notSeated])]
        exact ih
      | cons suggestion more =>
        have seated : args.seats store slot = true := by
          rw [seats, suggested]
          rfl
        rw [List.find?_cons_of_pos seated]
        exact ⟨_, rfl, rfl⟩

omit [Postgres] in
theorem days_apart : (args.days availability).Pairwise List.Disjoint := by
  rw [days, List.pairwise_map]
  refine List.nodup_range.imp fun apart slot isSlot isOther => apart ?_
  obtain ⟨_, _, rfl⟩ := List.mem_map.1 isSlot
  obtain ⟨_, _, same⟩ := List.mem_map.1 isOther
  exact (congrArg DaySlot.offset same).symm

/-- The slot is the earliest one with a table if and only if, on no day up to the first one whose
first slot has one, another slot has. -/
theorem findNextAvailable_earliest_iff (store : BookingStore) :
    (∃ result, (args.findNextAvailable availability).run store = some (result, store) ∧
      result.map (·.slot) = (args.days availability).flatten.find? (args.seats store)) ↔
      ∀ day ∈ (args.days availability).takeWhile fun day => !day.head?.any (args.seats store),
        ∀ slot ∈ day, args.seats store slot = false := by
  rw [← find?_heads_eq_iff (args.days_apart availability)]
  obtain ⟨result, ran, isHead⟩ := args.run_tryDays store (args.days availability)
  rw [findNextAvailable, ran]
  simp [← isHead]

end FindNextArgs

end

section

attribute [local instance] Icu.utc Postgres.c

/-- Of two tables, the one on the default plan is taken early on the evening of 1 January 1970. -/
def eveningStore : BookingStore where
  data :=
    { restaurants := [⟨"r", "UTC", [⟨4, "18:00", "23:00", none⟩]⟩]
      exposureSettings := []
      floorPlans := [⟨"p", "r", true, true⟩, ⟨"q", "r", true, false⟩]
      tables := [⟨"t", "p", none, "1", 2, 1, true⟩, ⟨"u", "q", none, "2", 2, 1, true⟩]
      reservations :=
        [⟨"b", "r", false, .CONFIRMED, 2, some "t", some 64800000, some 68400000, 64800000, 0,
          none⟩]
      agenticHolds := [] }
  now := 0
  owner _ := none

def eveningSlots (date : LocalDate) : List AvailabilitySlot :=
  (getAvailability eveningStore.data (.plain "r" date 2 0)).slots

def forTwo : FindNextArgs := ⟨"r", 2, 0, 60, "UTC"⟩

/-- The other table is offered early, so that the slots at which the table is free are missed. -/
theorem findNextAvailable_misses_evening :
    ¬ ∀ (args : FindNextArgs) (availability : LocalDate → List AvailabilitySlot)
      (store : BookingStore), ∃ result,
        (args.findNextAvailable availability).run store = some (result, store) ∧
          result.map (·.slot) = (args.days availability).flatten.find? (args.seats store) := by
  intro claim
  obtain ⟨result, ran, isEarliest⟩ := claim forTwo eveningSlots eveningStore
  obtain ⟨tried, ranTried, isHead⟩ :=
    forTwo.run_tryDays eveningStore (forTwo.days eveningSlots)
  rw [FindNextArgs.findNextAvailable, ranTried] at ran
  cases ran
  rw [isHead] at isEarliest
  exact absurd isEarliest (by decide +kernel)

end

end Sokar
