import Sokar.FloorPlan.SeatingHistory

/-!
# Availability by physical tables

The slots of a date and whether each can take a party, computed on the plan that
creation uses.  This is the raw answer, before slots in the past or too close are
marked.
-/

namespace Sokar

structure AvailabilitySlot where
  time : String
  available : Bool
  deriving DecidableEq

structure AvailabilityDto where
  restaurantId : Id
  date : LocalDate
  partySize : Int
  slots : List AvailabilitySlot
  deriving DecidableEq

structure AvailabilityArgs where
  restaurantId : Id
  date : LocalDate
  partySize : Int
  preferredSectionId : Option Id
  now : Instant
  excludeReservationId : Option Id
  defaultFloorOnly : Bool
  allowWithoutTables : Bool
  deriving DecidableEq

def SLOT_MINUTES : Nat := 30

/-- Day 0 of the epoch is a Thursday, and Sunday has index 0. -/
def computeDayOfWeek (date : LocalDate) : Nat :=
  ((date + 4) % 7).toNat

/-- The distinct booking slots of a day, in order. -/
def slotsOfDay (openingHours : List OpeningPeriod) (date : LocalDate) : List String :=
  let dayHours := openingHours.filter fun period => period.dayIndex == computeDayOfWeek date
  (dayHours.flatMap fun period => bookingSlotsOf period SLOT_MINUTES).dedup.insertionSort
    fun left right => (compare left right).isLE = true

def emptyAvailability (args : AvailabilityArgs) : AvailabilityDto :=
  { restaurantId := args.restaurantId, date := args.date, partySize := args.partySize
    slots := [] }

variable (db : Database)

/-- No table of the restaurant is active, which matters only to callers that allow
it. -/
def noActiveTables (args : AvailabilityArgs) : Bool :=
  args.allowWithoutTables && (loadSeatingTables db args.restaurantId false).isEmpty

variable (restaurantId : Id)

section

variable [Icu]

def slotWindow (timeZone : String) (date : LocalDate) (time : String) : Interval :=
  let serviceDurationMinutes := resolveServiceDurationMinutes (db.capacitySpecials? restaurantId)
  let start := zonedTimeToUtc date (clockTime time) timeZone
  { start, finish := addMinutes start serviceDurationMinutes }

def getAvailability (args : AvailabilityArgs) : AvailabilityDto :=
  match db.restaurant? args.restaurantId with
  | none => emptyAvailability args
  | some restaurant =>
    let tables := loadSeatingTables db args.restaurantId args.defaultFloorOnly
    let items := loadSeatingItems db
      { restaurantId := args.restaurantId
        date := args.date
        timeZone := restaurant.timezone
        serviceDurationMinutes :=
          resolveServiceDurationMinutes (db.capacitySpecials? args.restaurantId)
        now := args.now
        excludeReservationId := args.excludeReservationId
        excludeHoldId := none }
    let plan := planUnassignedSeating tables items
    let slots := (slotsOfDay restaurant.openingHours args.date).map fun time =>
      let window := slotWindow db args.restaurantId restaurant.timezone args.date time
      let candidate : SeatingCandidate :=
        { start := window.start, finish := window.finish, partySize := args.partySize
          sectionId := args.preferredSectionId }
      { time
        available := !isWindowBlocked plan window.start window.finish &&
          (hasSeatFor plan tables candidate || noActiveTables db args) }
    { emptyAvailability args with slots }

/-- The arguments of a caller that sets no option. -/
def AvailabilityArgs.plain (date : LocalDate) (partySize : Int) (now : Instant) :
    AvailabilityArgs :=
  { restaurantId, date, partySize, now
    preferredSectionId := none
    excludeReservationId := none
    defaultFloorOnly := false
    allowWithoutTables := false }

def creationRequest (partySize : Int) (now : Instant) (window : Interval) : SeatingRequest :=
  { restaurantId, partySize, now
    startsAt := window.start
    endsAt := window.finish
    tableId := none
    excludeReservationId := none
    excludeHoldId := none }

theorem seatingVerdict_conflict_eq {tables : List SeatingTable} (hasTables : tables ≠ [])
    (items : List SeatingItem) (restaurantId : Id) (partySize : Int) (now : Instant)
    (window : Interval) :
    (seatingVerdict tables items (creationRequest restaurantId partySize now window)).conflict =
      !(!isWindowBlocked (planUnassignedSeating tables items) window.start window.finish &&
        hasSeatFor (planUnassignedSeating tables items) tables
          { start := window.start, finish := window.finish, partySize, sectionId := none }) := by
  have some : tables.isEmpty = false := by simpa using hasTables
  simp [seatingVerdict, creationRequest, truthy, some, Bool.not_and]

theorem available_eq {db : Database} {restaurantId : Id} {date : LocalDate} {partySize : Int}
    {now : Instant} {restaurant : Restaurant} {slot : AvailabilitySlot}
    (found : db.restaurant? restaurantId = some restaurant)
    (member : slot ∈ (getAvailability db (.plain restaurantId date partySize now)).slots) :
    let tables := loadSeatingTables db restaurantId false
    let plan := planUnassignedSeating tables (loadSeatingItems db
      { restaurantId, date, now
        timeZone := restaurant.timezone
        serviceDurationMinutes := resolveServiceDurationMinutes (db.capacitySpecials? restaurantId)
        excludeReservationId := none
        excludeHoldId := none })
    let window := slotWindow db restaurantId restaurant.timezone date slot.time
    slot.available =
      (!isWindowBlocked plan window.start window.finish &&
        hasSeatFor plan tables
          { start := window.start, finish := window.finish, partySize, sectionId := none }) := by
  unfold getAvailability AvailabilityArgs.plain at member
  simp only [found, List.mem_map] at member
  obtain ⟨time, -, rfl⟩ := member
  simp [noActiveTables]

end

section

attribute [local instance] Icu.utc

/-- A Monday dinner with one table and a group expected on it from 19:00 to 21:00. -/
def mondayHouse : Database where
  restaurants := [⟨"r", "UTC", [⟨1, "19:00", "22:00", none⟩]⟩]
  exposureSettings := []
  floorPlans := [⟨"p", "r", true, true⟩]
  tables := [⟨"t-2", "p", none, "2", 2, 1, true⟩]
  reservations := [(⟨"a", "r", 2, 414000000, 421200000, 1, false⟩ : UnassignedDraft).row]
  agenticHolds := []

end

end Sokar
