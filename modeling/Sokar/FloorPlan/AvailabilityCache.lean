import Sokar.FloorPlan.Availability
import Sokar.Library.KeyedRows
import Sokar.Library.Transaction

/-!
# The cache of availability

`getAvailability` of the capacity-aware service with its cache in Redis, statement by statement,
beside calls that change the database and then invalidate the cache of the restaurant.  A counter
for each restaurant is part of the keys of its answers; the counter and the answers run out.

How often the cache was invalidated, and what an answer was computed from, is not in Redis; it is
kept beside it.
-/

namespace Sokar

open Process Transaction

def AVAILABILITY_CACHE_TTL_SECONDS : Nat := 30

def AVAILABILITY_VERSION_TTL_SECONDS : Nat := 120

/-! ## Slots in the past or too close -/

/-- A slot as it is shown; whether it is past is told to those who ask. -/
structure MarkedSlot where
  time : String
  available : Bool
  past : Option Bool
  deriving DecidableEq

structure MarkedAvailability where
  restaurantId : Id
  date : LocalDate
  partySize : Int
  slots : List MarkedSlot
  deriving DecidableEq

def AvailabilityDto.unmarked (dto : AvailabilityDto) : MarkedAvailability where
  restaurantId := dto.restaurantId
  date := dto.date
  partySize := dto.partySize
  slots := dto.slots.map fun slot =>
    { time := slot.time, available := slot.available, past := none }

def MAX_UTC_OFFSET_AHEAD_MS : Int := 14 * 60 * 60 * 1000

def MAX_UTC_OFFSET_BEHIND_MS : Int := 12 * 60 * 60 * 1000

section

variable [Icu]

def isSlotTooSoonAt (date : LocalDate) (time timeZone : String) (minLeadTimeMinutes : Int)
    (now : Instant) : Bool :=
  isSlotTooSoon (zonedTimeToUtc date (clockTime time) timeZone) minLeadTimeMinutes now

def markTooSoonSlotsUnavailable (dto : AvailabilityDto) (timeZone : String) (now : Instant)
    (minLeadTimeMinutes : Int) (includePast : Bool) : MarkedAvailability :=
  let dayStart := dto.date * msPerDay
  let lead := max 0 minLeadTimeMinutes
  let earliestBookableMs := now + lead * msPerMinute
  let earliestStartMs := dayStart - MAX_UTC_OFFSET_AHEAD_MS
  if !includePast && decide (now < earliestStartMs) &&
      decide (earliestBookableMs ≤ earliestStartMs) then dto.unmarked
  else
    let allTooSoon := decide (dayStart + msPerDay + MAX_UTC_OFFSET_BEHIND_MS ≤ earliestBookableMs)
    let slots := dto.slots.map fun slot =>
      let past := includePast &&
        decide (zonedTimeToUtc dto.date (clockTime slot.time) timeZone ≤ now)
      let tooSoon := allTooSoon || isSlotTooSoonAt dto.date slot.time timeZone lead now
      { time := slot.time
        available := slot.available && !(tooSoon || past)
        past := if includePast then some past else none : MarkedSlot }
    { dto.unmarked with slots }

/-- The zone is never more than twelve hours behind UTC, nor fourteen ahead. -/
def BoundedZone (timeZone : String) : Prop :=
  ∀ instant, -MAX_UTC_OFFSET_BEHIND_MS ≤ Icu.utcOffset timeZone instant ∧
    Icu.utcOffset timeZone instant ≤ MAX_UTC_OFFSET_AHEAD_MS

def AvailabilitySlot.marked (slot : AvailabilitySlot) (date : LocalDate) (timeZone : String)
    (now : Instant) (minLeadTimeMinutes : Int) (includePast : Bool) : MarkedSlot :=
  let start := zonedTimeToUtc date (clockTime slot.time) timeZone
  { time := slot.time
    available :=
      slot.available && !decide (start ≤ now ∨ start < now + minLeadTimeMinutes * msPerMinute)
    past := if includePast then some (decide (start ≤ now)) else none }

theorem zonedTimeToUtc_bounds {timeZone : String} (bounded : BoundedZone timeZone)
    (date : LocalDate) (time : ClockTime) :
    date * msPerDay + time.ms - MAX_UTC_OFFSET_AHEAD_MS ≤ zonedTimeToUtc date time timeZone ∧
      zonedTimeToUtc date time timeZone ≤ date * msPerDay + time.ms + MAX_UTC_OFFSET_BEHIND_MS := by
  have offsets := bounded (date * msPerDay + time.ms)
  simp only [zonedTimeToUtc]
  simp only [Instant, LocalDate, MAX_UTC_OFFSET_AHEAD_MS, MAX_UTC_OFFSET_BEHIND_MS, msPerDay,
    msPerMinute, ClockTime.ms] at *
  omega

theorem isSlotTooSoonAt_iff {date : LocalDate} {time timeZone : String} {minLeadTimeMinutes : Int}
    {now : Instant} :
    isSlotTooSoonAt date time timeZone (max 0 minLeadTimeMinutes) now = true ↔
      zonedTimeToUtc date (clockTime time) timeZone ≤ now ∨
        zonedTimeToUtc date (clockTime time) timeZone < now + minLeadTimeMinutes * msPerMinute := by
  simp only [isSlotTooSoonAt, isSlotTooSoon, isSlotStartPast, Bool.or_eq_true, decide_eq_true_eq]
  simp only [Instant, msPerMinute]
  omega

section

variable {timeZone : String} {date : LocalDate} {now : Instant} {minLeadTimeMinutes : Int}

theorem marked_of_early (bounded : BoundedZone timeZone)
    (early : now < date * msPerDay - MAX_UTC_OFFSET_AHEAD_MS)
    (earlyBookable : now + max 0 minLeadTimeMinutes * msPerMinute ≤
      date * msPerDay - MAX_UTC_OFFSET_AHEAD_MS)
    (slot : AvailabilitySlot) :
    slot.marked date timeZone now minLeadTimeMinutes false =
      { time := slot.time, available := slot.available, past := none } := by
  have begins := (zonedTimeToUtc_bounds bounded date (clockTime slot.time)).1
  have onDay := (clockTime_ms_bounds slot.time).1
  have notSoon : ¬ (zonedTimeToUtc date (clockTime slot.time) timeZone ≤ now ∨
      zonedTimeToUtc date (clockTime slot.time) timeZone <
        now + minLeadTimeMinutes * msPerMinute) := by
    simp only [Instant, LocalDate, msPerMinute] at *
    omega
  simp [AvailabilitySlot.marked, notSoon]

theorem isSlotTooSoonAt_of_late (bounded : BoundedZone timeZone)
    (late : date * msPerDay + msPerDay + MAX_UTC_OFFSET_BEHIND_MS ≤
      now + max 0 minLeadTimeMinutes * msPerMinute)
    (time : String) :
    isSlotTooSoonAt date time timeZone (max 0 minLeadTimeMinutes) now = true := by
  have ends := (zonedTimeToUtc_bounds bounded date (clockTime time)).2
  have onDay := (clockTime_ms_bounds time).2
  rw [isSlotTooSoonAt_iff]
  simp only [Instant, LocalDate, msPerMinute] at *
  omega

end

/-- In every zone, and whichever way is taken, the slots are marked one by one: they stay as many
and in order, and none becomes available. -/
theorem markTooSoonSlotsUnavailable_eq (dto : AvailabilityDto) (timeZone : String) (now : Instant)
    (minLeadTimeMinutes : Int) (includePast : Bool) (bounded : BoundedZone timeZone) :
    markTooSoonSlotsUnavailable dto timeZone now minLeadTimeMinutes includePast =
        { dto.unmarked with
          slots := dto.slots.map fun slot =>
            slot.marked dto.date timeZone now minLeadTimeMinutes includePast } ∧
      dto.slots.Forall₂ (fun slot marked =>
          marked.time = slot.time ∧ (marked.available = true → slot.available = true))
        (markTooSoonSlotsUnavailable dto timeZone now minLeadTimeMinutes includePast).slots := by
  have agrees : markTooSoonSlotsUnavailable dto timeZone now minLeadTimeMinutes includePast =
      { dto.unmarked with
        slots := dto.slots.map fun slot =>
          slot.marked dto.date timeZone now minLeadTimeMinutes includePast } := by
    rw [markTooSoonSlotsUnavailable]
    split
    next early =>
      simp only [Bool.and_eq_true, Bool.not_eq_true', decide_eq_true_eq] at early
      obtain ⟨⟨rfl, early⟩, earlyBookable⟩ := early
      simp only [marked_of_early bounded early earlyBookable]
      rfl
    next =>
      dsimp only
      congr 1
      refine List.map_congr_left fun slot _ => ?_
      have tooSoon : (decide (dto.date * msPerDay + msPerDay + MAX_UTC_OFFSET_BEHIND_MS ≤
          now + max 0 minLeadTimeMinutes * msPerMinute) ||
            isSlotTooSoonAt dto.date slot.time timeZone (max 0 minLeadTimeMinutes) now) =
          isSlotTooSoonAt dto.date slot.time timeZone (max 0 minLeadTimeMinutes) now := by
        rw [Bool.or_eq_right_iff_imp, decide_eq_true_eq]
        exact fun late => isSlotTooSoonAt_of_late bounded late slot.time
      simp only [tooSoon, AvailabilitySlot.marked]
      rw [Bool.eq_iff_iff.2 (isSlotTooSoonAt_iff.trans (decide_eq_true_iff).symm)]
      cases includePast <;> simp
      grind
  refine ⟨agrees, ?_⟩
  rw [agrees]
  refine List.forall₂_map_right_iff.2 (List.forall₂_same.2 fun slot _ => ⟨rfl, ?_⟩)
  exact fun available => (Bool.and_eq_true_iff.1 available).1

end

/-- Fourteen hours ahead of UTC. -/
@[reducible] def Icu.ahead : Icu where
  localeCompare := compare
  collation := Icu.utc.collation
  utcOffset _ _ := MAX_UTC_OFFSET_AHEAD_MS

theorem boundedZone_ahead : @BoundedZone Icu.ahead "Pacific/Kiritimati" := by
  have reaches : -MAX_UTC_OFFSET_BEHIND_MS ≤ MAX_UTC_OFFSET_AHEAD_MS := by decide
  exact fun _ => ⟨reaches, le_refl _⟩

/-- There, at midnight, the first slot of the day has begun and the next one is half an hour away.
-/
theorem markTooSoonSlotsUnavailable_midnight :
    (@markTooSoonSlotsUnavailable Icu.ahead ⟨"r", 4, 2, [⟨"00:00", true⟩, ⟨"00:30", true⟩]⟩
      "Pacific/Kiritimati" (4 * msPerDay - MAX_UTC_OFFSET_AHEAD_MS) 30 false).slots =
        [⟨"00:00", false, none⟩, ⟨"00:30", true, none⟩] :=
  (congrArg MarkedAvailability.slots
    (@markTooSoonSlotsUnavailable_eq Icu.ahead ⟨"r", 4, 2, [⟨"00:00", true⟩, ⟨"00:30", true⟩]⟩
      "Pacific/Kiritimati" (4 * msPerDay - MAX_UTC_OFFSET_AHEAD_MS) 30 false
      boundedZone_ahead).1).trans (by decide +kernel)

/-- The counter of a restaurant; it has no end between `INCR` and `EXPIRE`. -/
structure VersionCounter where
  value : Nat
  expiresAt : Option Instant
  deriving DecidableEq

/-- `cacheKey`, by its parts. -/
structure AvailabilityKey where
  restaurantId : Id
  date : LocalDate
  partySize : Int
  preferredSectionId : Option Id
  version : Nat
  deriving DecidableEq

structure CachedAvailability where
  timeZone : String
  dto : AvailabilityDto
  deriving DecidableEq

structure AvailabilityEntry where
  key : AvailabilityKey
  value : CachedAvailability
  expiresAt : Instant
  /-- How many invalidations there had been when the version was read. -/
  readAt : Nat
  /-- The revision of the database that the value was computed from. -/
  revision : Nat
  deriving DecidableEq

/-- An `INCR` of the counter of a restaurant, with the revision of the database that the change
before it had made. -/
structure Invalidation where
  restaurantId : Id
  version : Nat
  revision : Nat
  deriving DecidableEq

/-- The database and Redis, and beside them how often the database was changed and the
invalidations so far. -/
structure AvailabilityData where
  db : Database
  counters : Id → Option VersionCounter
  entries : List AvailabilityEntry
  revision : Nat
  invalidations : List Invalidation

abbrev AvailabilityCallId := Nat

abbrev AvailabilityStore := Store AvailabilityData Empty AvailabilityCallId

abbrev AvailabilityProg := Prog AvailabilityStore

namespace AvailabilityData

variable (data : AvailabilityData) (now : Instant)

def counter? (restaurantId : Id) : Option VersionCounter :=
  (data.counters restaurantId).filter fun counter =>
    counter.expiresAt.all fun expiresAt => decide (now < expiresAt)

/-- `GET` of the counter: 0 when there is none. -/
def getVersion (restaurantId : Id) : Nat :=
  ((data.counter? now restaurantId).map (·.value)).getD 0

def cached? (key : AvailabilityKey) : Option AvailabilityEntry :=
  (KeyedRows.lookup AvailabilityEntry.key data.entries key).filter fun entry =>
    decide (now < entry.expiresAt)

/-- `SET` with `EX`. -/
def cache (entry : AvailabilityEntry) : AvailabilityData :=
  { data with entries := entry :: data.entries.filter (·.key != entry.key) }

/-- `INCR`: a counter that is there keeps its end. -/
def incr (restaurantId : Id) (revision : Nat) : AvailabilityData :=
  let counter : VersionCounter := match data.counter? now restaurantId with
    | some counter => { counter with value := counter.value + 1 }
    | none => { value := 1, expiresAt := none }
  { data with
    counters := Function.update data.counters restaurantId (some counter)
    invalidations := data.invalidations ++ [⟨restaurantId, counter.value, revision⟩] }

/-- `EXPIRE`, which does nothing to a counter that is gone. -/
def expire (restaurantId : Id) : AvailabilityData :=
  match data.counter? now restaurantId with
  | some counter =>
    { data with
      counters := Function.update data.counters restaurantId
        (some { counter with
          expiresAt := some (now + AVAILABILITY_VERSION_TTL_SECONDS * 1000) }) }
  | none => data

def mutated (change : Database → Instant → Database) : AvailabilityData :=
  { data with db := change data.db now, revision := data.revision + 1 }

end AvailabilityData

section

variable [Icu]

/-- The arguments of `getAvailability`, and whether it runs in a transaction of its caller. -/
structure GetAvailabilityInput where
  restaurantId : Id
  date : LocalDate
  partySize : Int
  preferredSectionId : Option Id
  now : Option Instant
  excludeReservationId : Option Id
  defaultFloorOnly : Bool
  allowWithoutTables : Bool
  includePast : Bool
  minLeadTimeMinutes : Int
  inTransaction : Bool

/-- What a call answers, and the revision of the value that it found in the cache. -/
structure AvailabilityAnswer where
  availability : MarkedAvailability
  cached : Option Nat
  deriving DecidableEq

namespace GetAvailabilityInput

variable (input : GetAvailabilityInput) (call : AvailabilityCallId)

def args (now : Instant) : AvailabilityArgs where
  restaurantId := input.restaurantId
  date := input.date
  partySize := input.partySize
  preferredSectionId := input.preferredSectionId
  now
  excludeReservationId := input.excludeReservationId
  defaultFloorOnly := input.defaultFloorOnly
  allowWithoutTables := input.allowWithoutTables

def privatePreview : Bool :=
  (truthy input.excludeReservationId).isSome || input.inTransaction || input.defaultFloorOnly ||
    input.allowWithoutTables

def cacheKey (version : Nat) : AvailabilityKey where
  restaurantId := input.restaurantId
  date := input.date
  partySize := input.partySize
  preferredSectionId := truthy input.preferredSectionId
  version

def compute (restaurant : Restaurant) (capacitySpecials : Option Json)
    (tables : List SeatingTable) (items : List SeatingItem) (noActiveTables : Bool) :
    AvailabilityDto :=
  let plan := planUnassignedSeating tables items
  let slots := (slotsOfDay restaurant.openingHours input.date).map fun time =>
    let start := zonedTimeToUtc input.date (clockTime time) restaurant.timezone
    let finish := addMinutes start (resolveServiceDurationMinutes capacitySpecials)
    let candidate : SeatingCandidate :=
      { start, finish, partySize := input.partySize, sectionId := input.preferredSectionId }
    { time
      available := !isWindowBlocked plan start finish &&
        (hasSeatFor plan tables candidate || noActiveTables) }
  { restaurantId := input.restaurantId, date := input.date, partySize := input.partySize, slots }

def loadArgs (restaurant : Restaurant) (capacitySpecials : Option Json) (now : Instant) :
    LoadSeatingArgs where
  restaurantId := input.restaurantId
  date := input.date
  timeZone := restaurant.timezone
  serviceDurationMinutes := resolveServiceDurationMinutes capacitySpecials
  now
  excludeReservationId := input.excludeReservationId
  excludeHoldId := none

def mark (value : CachedAvailability) (now : Instant) : MarkedAvailability :=
  markTooSoonSlotsUnavailable value.dto value.timeZone now input.minLeadTimeMinutes
    input.includePast

/-- The restaurant with its settings, and the revision they are read at. -/
def restaurantAt (data : AvailabilityData) (_now : Instant) :
    Option (Restaurant × Option Json) × Nat :=
  ((data.db.restaurant? input.restaurantId).map fun restaurant =>
    (restaurant, data.db.capacitySpecials? input.restaurantId), data.revision)

/-- The answer is computed, and cached unless it is a private preview. -/
def recompute (now : Instant) (version readAt : Nat) : AvailabilityProg AvailabilityAnswer := do
  let empty := (emptyAvailability (input.args now)).unmarked
  let found ← query input.restaurantAt
  match found with
  | (none, _) => pure { availability := empty, cached := none }
  | (some (restaurant, capacitySpecials), revision) =>
    if (slotsOfDay restaurant.openingHours input.date).isEmpty then
      pure { availability := empty, cached := none }
    else do
      let tables ← query fun data _ =>
        loadSeatingTables data.db input.restaurantId input.defaultFloorOnly
      let items ← query fun data now =>
        loadSeatingItems data.db (input.loadArgs restaurant capacitySpecials now)
      let noTables ← query fun data now => noActiveTables data.db (input.args now)
      let value : CachedAvailability :=
        { timeZone := restaurant.timezone
          dto := input.compute restaurant capacitySpecials tables items noTables }
      commit call (fun _ _ => ()) fun data now =>
        if input.privatePreview then data
        else data.cache
          { key := input.cacheKey version
            value
            expiresAt := now + AVAILABILITY_CACHE_TTL_SECONDS * 1000
            readAt
            revision }
      pure { availability := input.mark value now, cached := none }

def getAvailability : AvailabilityProg AvailabilityAnswer := do
  let clock ← query fun _ now => now
  let now := input.now.getD clock
  if input.privatePreview then input.recompute call now 0 0
  else do
    let version ← query fun data now =>
      (data.getVersion now input.restaurantId, data.invalidations.length)
    let hit ← query fun data now => data.cached? now (input.cacheKey version.1)
    match hit with
    | some entry => pure { availability := input.mark entry.value now, cached := some entry.revision }
    | none => input.recompute call now version.1 version.2

end GetAvailabilityInput

/-- A call that changes the database and then invalidates the availability of the restaurant. -/
structure AvailabilityMutation where
  restaurantId : Id
  change : Database → Instant → Database

def invalidateAvailability (call : AvailabilityCallId) (restaurantId : Id) (revision : Nat) :
    AvailabilityProg Unit := do
  commit call (fun _ _ => ()) fun data now => data.incr now restaurantId revision
  commit call (fun _ _ => ()) fun data now => data.expire now restaurantId

/-- The revision that the call has made of the database. -/
def AvailabilityMutation.mutate (mutation : AvailabilityMutation) (call : AvailabilityCallId) :
    AvailabilityProg Nat := do
  let revision ← commit call (fun data _ => data.revision + 1) fun data now =>
    data.mutated now mutation.change
  invalidateAvailability call mutation.restaurantId revision
  pure revision

inductive AvailabilityCall where
  | getAvailability (input : GetAvailabilityInput)
  | mutate (mutation : AvailabilityMutation)

inductive AvailabilityResult where
  | answered (answer : AvailabilityAnswer)
  | mutated (revision : Nat)
  deriving DecidableEq

def AvailabilityCall.prog (call : AvailabilityCallId) :
    AvailabilityCall → AvailabilityProg AvailabilityResult
  | .getAvailability input => do
      let answer ← input.getAvailability call
      pure (.answered answer)
  | .mutate mutation => do
      let revision ← mutation.mutate call
      pure (.mutated revision)

def availabilitySystem (calls : AvailabilityCallId → AvailabilityCall) :
    System AvailabilityCallId AvailabilityStore AvailabilityResult :=
  system fun call => (calls call).prog call

end

end Sokar
