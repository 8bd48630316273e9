import Sokar.Customers.CustomerMerge
import Sokar.Library.Aggregates
import Sokar.Shared.ReservationStates

/-!
# Metric snapshots

What the visits of a guest amount to, counted from the reservations, and how a merge makes one
snapshot of those of several profiles.
-/

namespace Sokar.Customers

open Aggregates

/-- The columns of a reservation that are counted. -/
structure MetricReservation where
  restaurantId : Id
  customerId : Option Id
  state : ReservationState
  status : ReservationStatus
  reservedAt : Instant
  startsAt : Option Instant
  partySize : Int
  estimatedRevenue : Option ℚ
  confirmedRevenue : Option ℚ
  deriving DecidableEq

@[ext] structure CustomerMetricValues where
  lastHonoredAt : Option Instant
  nextReservationAt : Option Instant
  honored30d : Nat
  honored90d : Nat
  honored365d : Nat
  cancelled365d : Nat
  noShow365d : Nat
  covers365d : Int
  estimatedSpend365d : ℚ
  actualSpend365d : Option ℚ
  actualLifetimeSpend : Option ℚ
  deriving DecidableEq

structure CustomerMetricSnapshot extends CustomerMetricValues where
  projectionVersion : Nat
  calculatedAt : Instant
  deriving DecidableEq

def dateInWindow (date start stop : Instant) : Bool :=
  start ≤ date && date ≤ stop

namespace MetricReservation

variable (now : Instant) (row : MetricReservation)

def reservationDate : Instant :=
  row.startsAt.getD row.reservedAt

def isUpcoming : Bool :=
  now ≤ row.reservationDate && [.PENDING, .CONFIRMED, .SEATED].contains row.state

def isHonored : Bool :=
  row.state == .HONORED && row.reservationDate ≤ now

def isHonoredWithin (days : Int) : Bool :=
  row.isHonored now && dateInWindow row.reservationDate (now - days * 86400000) now

def isCancelled : Bool :=
  dateInWindow row.reservationDate (now - 365 * 86400000) now &&
    (row.state == .CANCELLED || row.status == .CANCELLED)

def isNoShow : Bool :=
  dateInWindow row.reservationDate (now - 365 * 86400000) now &&
    (row.state == .NO_SHOW || row.status == .NO_SHOW)

end MetricReservation

structure MetricLoop where
  honored30d : Nat := 0
  honored90d : Nat := 0
  honored365d : Nat := 0
  cancelled365d : Nat := 0
  noShow365d : Nat := 0
  covers365d : Int := 0
  estimatedSpend365d : ℚ := 0
  actualSpend365d : ℚ := 0
  actualLifetimeSpend : ℚ := 0
  actual365dCount : Nat := 0
  actualLifetimeCount : Nat := 0
  lastHonoredAt : Option Instant := none
  nextReservationAt : Option Instant := none

def MetricLoop.next (now : Instant) (loop : MetricLoop) (row : MetricReservation) : MetricLoop where
  nextReservationAt :=
    if row.isUpcoming now &&
        (match loop.nextReservationAt with
          | none => true
          | some next => row.reservationDate < next) then
      some row.reservationDate
    else loop.nextReservationAt
  lastHonoredAt :=
    if row.isHonored now &&
        (match loop.lastHonoredAt with
          | none => true
          | some last => last < row.reservationDate) then
      some row.reservationDate
    else loop.lastHonoredAt
  honored30d := if row.isHonoredWithin now 30 then loop.honored30d + 1 else loop.honored30d
  honored90d := if row.isHonoredWithin now 90 then loop.honored90d + 1 else loop.honored90d
  honored365d := if row.isHonoredWithin now 365 then loop.honored365d + 1 else loop.honored365d
  covers365d :=
    if row.isHonoredWithin now 365 then loop.covers365d + row.partySize else loop.covers365d
  estimatedSpend365d :=
    match row.isHonoredWithin now 365, row.estimatedRevenue with
    | true, some revenue => loop.estimatedSpend365d + revenue
    | _, _ => loop.estimatedSpend365d
  actualSpend365d :=
    match row.isHonoredWithin now 365, row.confirmedRevenue with
    | true, some revenue => loop.actualSpend365d + revenue
    | _, _ => loop.actualSpend365d
  actual365dCount :=
    match row.isHonoredWithin now 365, row.confirmedRevenue with
    | true, some _ => loop.actual365dCount + 1
    | _, _ => loop.actual365dCount
  actualLifetimeSpend :=
    match row.isHonored now, row.confirmedRevenue with
    | true, some revenue => loop.actualLifetimeSpend + revenue
    | _, _ => loop.actualLifetimeSpend
  actualLifetimeCount :=
    match row.isHonored now, row.confirmedRevenue with
    | true, some _ => loop.actualLifetimeCount + 1
    | _, _ => loop.actualLifetimeCount
  cancelled365d := if row.isCancelled now then loop.cancelled365d + 1 else loop.cancelled365d
  noShow365d := if row.isNoShow now then loop.noShow365d + 1 else loop.noShow365d

def MetricLoop.values (loop : MetricLoop) : CustomerMetricValues where
  lastHonoredAt := loop.lastHonoredAt
  nextReservationAt := loop.nextReservationAt
  honored30d := loop.honored30d
  honored90d := loop.honored90d
  honored365d := loop.honored365d
  cancelled365d := loop.cancelled365d
  noShow365d := loop.noShow365d
  covers365d := loop.covers365d
  estimatedSpend365d := loop.estimatedSpend365d
  actualSpend365d := if 0 < loop.actual365dCount then some loop.actualSpend365d else none
  actualLifetimeSpend :=
    if 0 < loop.actualLifetimeCount then some loop.actualLifetimeSpend else none

def calculateCustomerMetricSnapshot (reservations : List MetricReservation)
    (restaurantId customerId : Id) (now : Instant) : CustomerMetricValues :=
  let read := reservations.filter fun row =>
    row.restaurantId = restaurantId ∧ row.customerId = some customerId
  (read.foldl (MetricLoop.next now) {}).values

def decimalSum (values : List (Option ℚ)) : ℚ :=
  values.foldl (fun total value =>
    match value with
    | none => total
    | some value => total + value) 0

def decimalOrNull (values : List (Option ℚ)) : Option ℚ :=
  if values.any Option.isSome then some (decimalSum values) else none

def metricMerge (target : Option CustomerMetricSnapshot)
    (sources : List (Option CustomerMetricSnapshot)) (now : Instant) :
    Option CustomerMetricSnapshot :=
  let all := (target :: sources).filterMap id
  if all.isEmpty then none
  else some
    { lastHonoredAt := maxDate (all.map (·.lastHonoredAt))
      nextReservationAt := minDate (all.map (·.nextReservationAt))
      honored30d := all.foldl (fun sum metric => sum + metric.honored30d) 0
      honored90d := all.foldl (fun sum metric => sum + metric.honored90d) 0
      honored365d := all.foldl (fun sum metric => sum + metric.honored365d) 0
      cancelled365d := all.foldl (fun sum metric => sum + metric.cancelled365d) 0
      noShow365d := all.foldl (fun sum metric => sum + metric.noShow365d) 0
      covers365d := all.foldl (fun sum metric => sum + metric.covers365d) 0
      estimatedSpend365d := decimalSum (all.map fun metric => some metric.estimatedSpend365d)
      actualSpend365d := decimalOrNull (all.map (·.actualSpend365d))
      actualLifetimeSpend := decimalOrNull (all.map (·.actualLifetimeSpend))
      projectionVersion := (all.map (·.projectionVersion)).foldl max 1 + 1
      calculatedAt := now }

variable (restaurantId target : Id)

variable (sources : List Id)

def MetricReservation.moved (row : MetricReservation) : MetricReservation :=
  if row.restaurantId = restaurantId ∧ row.customerId ∈ sources.map some then
    { row with customerId := some target }
  else row

/-- The merge moves the reservations of the sources to the target. -/
def moveReservations (reservations : List MetricReservation) : List MetricReservation :=
  reservations.map (MetricReservation.moved restaurantId target sources)

/-- A sum that is absent as long as nothing has been added. -/
abbrev addPresent : Option ℚ → Option ℚ → Option ℚ :=
  Option.merge (· + ·)

abbrev latest : Option Instant → Option Instant → Option Instant :=
  Option.merge max

abbrev earliest : Option Instant → Option Instant → Option Instant :=
  Option.merge min

theorem maxDate_eq_aggregate (values : List (Option Instant)) :
    maxDate values = aggregate latest none values := by
  rw [maxDate, aggregate]
  congr 1
  funext current value
  cases value with
  | none => cases current <;> rfl
  | some value =>
    cases current with
    | none => rfl
    | some last =>
      change some (if last < value then value else last) = some (max last value)
      split
      next later => rw [max_eq_right later.le]
      next earlier => rw [max_eq_left (not_lt.1 earlier)]

theorem minDate_eq_aggregate (values : List (Option Instant)) :
    minDate values = aggregate earliest none values := by
  rw [minDate, aggregate]
  congr 1
  funext current value
  cases value with
  | none => cases current <;> rfl
  | some value =>
    cases current with
    | none => rfl
    | some first =>
      change some (if value < first then value else first) = some (min first value)
      split
      next sooner => rw [min_eq_right sooner.le]
      next later => rw [min_eq_left (not_lt.1 later)]

theorem decimalSum_eq_aggregate (values : List (Option ℚ)) :
    decimalSum values = aggregate (· + ·) 0 (values.map (·.getD 0)) := by
  rw [decimalSum, aggregate, List.foldl_map]
  congr 1
  funext total value
  cases value with
  | none => exact (add_zero total).symm
  | some value => rfl

theorem decimalSum_cons (value : Option ℚ) (values : List (Option ℚ)) :
    decimalSum (value :: values) = value.getD 0 + decimalSum values := by
  rw [decimalSum_eq_aggregate, decimalSum_eq_aggregate, List.map_cons, aggregate_cons]

theorem decimalSum_eq_zero {values : List (Option ℚ)}
    (absent : values.any Option.isSome = false) : decimalSum values = 0 := by
  induction values with
  | nil => rfl
  | cons value values ih =>
    obtain ⟨isNone, others⟩ := Bool.or_eq_false_iff.1 (List.any_cons ▸ absent)
    rw [decimalSum_cons, ih others]
    cases value with
    | none => exact add_zero 0
    | some value => exact absurd isNone (Bool.eq_false_iff.1 · rfl)

theorem decimalOrNull_eq_aggregate (values : List (Option ℚ)) :
    decimalOrNull values = aggregate addPresent none values := by
  induction values with
  | nil => rfl
  | cons value values ih =>
    rw [aggregate_cons, ← ih, decimalOrNull, decimalOrNull, List.any_cons, decimalSum_cons]
    cases value with
    | none => simp
    | some value =>
      cases more : values.any Option.isSome with
      | true => rfl
      | false =>
        rw [decimalSum_eq_zero more]
        exact congrArg some (add_zero value)

namespace MetricReservation

variable (now : Instant) (row : MetricReservation)

def honoredDate : Option Instant :=
  if row.isHonored now then some row.reservationDate else none

def upcomingDate : Option Instant :=
  if row.isUpcoming now then some row.reservationDate else none

def estimatedSpend : ℚ :=
  if row.isHonoredWithin now 365 then row.estimatedRevenue.getD 0 else 0

def actualSpend : Option ℚ :=
  if row.isHonoredWithin now 365 then row.confirmedRevenue else none

def lifetimeSpend : Option ℚ :=
  if row.isHonored now then row.confirmedRevenue else none

def count (counts : Bool) : Nat :=
  if counts then 1 else 0

end MetricReservation

open MetricReservation

def metricsOf (now : Instant) (rows : List MetricReservation) : CustomerMetricValues where
  lastHonoredAt := aggregate latest none (rows.map (honoredDate now))
  nextReservationAt := aggregate earliest none (rows.map (upcomingDate now))
  honored30d := aggregate (· + ·) 0 (rows.map fun row => count (row.isHonoredWithin now 30))
  honored90d := aggregate (· + ·) 0 (rows.map fun row => count (row.isHonoredWithin now 90))
  honored365d := aggregate (· + ·) 0 (rows.map fun row => count (row.isHonoredWithin now 365))
  cancelled365d := aggregate (· + ·) 0 (rows.map fun row => count (row.isCancelled now))
  noShow365d := aggregate (· + ·) 0 (rows.map fun row => count (row.isNoShow now))
  covers365d := aggregate (· + ·) 0
    (rows.map fun row => if row.isHonoredWithin now 365 then row.partySize else 0)
  estimatedSpend365d := aggregate (· + ·) 0 (rows.map (estimatedSpend now))
  actualSpend365d := aggregate addPresent none (rows.map (actualSpend now))
  actualLifetimeSpend := aggregate addPresent none (rows.map (lifetimeSpend now))

theorem add_count (counts : Bool) (before : Nat) :
    (if counts = true then before + 1 else before) = before + count counts := by
  cases counts <;> rfl

section

variable {counter : Nat} {sum : ℚ} (empty : counter = 0 → sum = 0) (counts : Bool)
variable (value : Option ℚ)
include empty

theorem shown_next : (if 0 < (match counts, value with
        | true, some _ => counter + 1
        | _, _ => counter) then
      some (match counts, value with
        | true, some value => sum + value
        | _, _ => sum)
    else none) =
      addPresent (if 0 < counter then some sum else none) (if counts then value else none) := by
  cases counts with
  | false => exact (Option.merge_none_right).symm
  | true =>
    cases value with
    | none => exact (Option.merge_none_right).symm
    | some value =>
      by_cases started : 0 < counter
      · rw [if_pos started]
        rfl
      · rw [if_neg started, empty (Nat.eq_zero_of_not_pos started)]
        exact congrArg some (zero_add value)

/-- Nothing counted, nothing added. -/
structure MetricLoop.Sound (loop : MetricLoop) : Prop where
  actual : loop.actual365dCount = 0 → loop.actualSpend365d = 0
  lifetime : loop.actualLifetimeCount = 0 → loop.actualLifetimeSpend = 0

theorem unshown_next
    (none : (match counts, value with | true, some _ => counter + 1 | _, _ => counter) = 0) :
    (match counts, value with
      | true, some value => sum + value
      | _, _ => sum) = 0 := by
  cases counts with
  | false => exact empty none
  | true =>
    cases value with
    | none => exact empty none
    | some value => exact absurd none (Nat.succ_ne_zero counter)

end

theorem MetricLoop.Sound.next (now : Instant) (loop : MetricLoop) (row : MetricReservation)
    (sound : loop.Sound) : (loop.next now row).Sound :=
  ⟨unshown_next sound.actual _ _, unshown_next sound.lifetime _ _⟩

theorem later_next (last : Option Instant) (counts : Bool) (date : Instant) :
    (if counts && (match last with
        | none => true
        | some last => decide (last < date)) then some date else last) =
      latest last (if counts then some date else none) := by
  cases counts with
  | false => exact (Option.merge_none_right).symm
  | true =>
    cases last with
    | none => rfl
    | some last =>
      change (if decide (last < date) = true then some date else some last) = some (max last date)
      by_cases later : last < date
      · rw [if_pos (decide_eq_true later), max_eq_right later.le]
      · rw [if_neg (by simpa using later), max_eq_left (not_lt.1 later)]

theorem sooner_next (next : Option Instant) (counts : Bool) (date : Instant) :
    (if counts && (match next with
        | none => true
        | some next => decide (date < next)) then some date else next) =
      earliest next (if counts then some date else none) := by
  cases counts with
  | false => exact (Option.merge_none_right).symm
  | true =>
    cases next with
    | none => rfl
    | some next =>
      change (if decide (date < next) = true then some date else some next) = some (min next date)
      by_cases sooner : date < next
      · rw [if_pos (decide_eq_true sooner), min_eq_right sooner.le]
      · rw [if_neg (by simpa using sooner), min_eq_left (not_lt.1 sooner)]

theorem estimated_next (sum : ℚ) (counts : Bool) (value : Option ℚ) : (match counts, value with
      | true, some value => sum + value
      | _, _ => sum) = sum + if counts then value.getD 0 else 0 := by
  cases counts with
  | false => exact (add_zero sum).symm
  | true =>
    cases value with
    | none => exact (add_zero sum).symm
    | some value => rfl

theorem values_foldl (now : Instant) (rows : List MetricReservation) :
    (rows.foldl (MetricLoop.next now) {}).values = metricsOf now rows := by
  have start : MetricLoop.Sound {} := ⟨fun _ => rfl, fun _ => rfl⟩
  have counted (field : MetricLoop → Nat) (counts : MetricReservation → Bool)
      (updates : ∀ loop row, field (MetricLoop.next now loop row) =
        if counts row = true then field loop + 1 else field loop) (zero : field {} = 0) :
      field (rows.foldl (MetricLoop.next now) {}) =
        aggregate (· + ·) 0 (rows.map fun row => count (counts row)) :=
    field_foldl_unit _ _ field (fun loop row => (updates loop row).trans (add_count _ _)) rows zero
  rw [MetricLoop.values, metricsOf]
  congr 1
  · exact field_foldl_unit _ _ MetricLoop.lastHonoredAt
      (fun loop row => later_next loop.lastHonoredAt _ _) rows rfl
  · exact field_foldl_unit _ _ MetricLoop.nextReservationAt
      (fun loop row => sooner_next loop.nextReservationAt _ _) rows rfl
  · exact counted MetricLoop.honored30d _ (fun _ _ => rfl) rfl
  · exact counted MetricLoop.honored90d _ (fun _ _ => rfl) rfl
  · exact counted MetricLoop.honored365d _ (fun _ _ => rfl) rfl
  · exact counted MetricLoop.cancelled365d _ (fun _ _ => rfl) rfl
  · exact counted MetricLoop.noShow365d _ (fun _ _ => rfl) rfl
  · refine field_foldl_unit _ _ MetricLoop.covers365d (fun loop row => ?_) rows rfl
    dsimp only [MetricLoop.next]
    split
    · rfl
    · exact (add_zero _).symm
  · exact field_foldl_unit _ _ MetricLoop.estimatedSpend365d
      (fun loop row => estimated_next loop.estimatedSpend365d _ _) rows rfl
  · exact (field_foldl addPresent none (fun loop : MetricLoop =>
        if 0 < loop.actual365dCount then some loop.actualSpend365d else none)
      MetricLoop.Sound (MetricLoop.Sound.next now)
      (fun loop row sound => shown_next sound.actual _ _) rows start).trans Option.merge_none_left
  · exact (field_foldl addPresent none (fun loop : MetricLoop =>
        if 0 < loop.actualLifetimeCount then some loop.actualLifetimeSpend else none)
      MetricLoop.Sound (MetricLoop.Sound.next now)
      (fun loop row sound => shown_next sound.lifetime _ _) rows start).trans Option.merge_none_left

/-! ## Merging is recomputing -/

section

variable (now : Instant)

def MetricReservation.anonymous (row : MetricReservation) : MetricReservation :=
  { row with customerId := none }

/-- Whose a visit is does not matter for what it contributes. -/
theorem metricsOf_anonymous (rows : List MetricReservation) :
    metricsOf now (rows.map anonymous) = metricsOf now rows := by
  simp only [metricsOf, List.map_map]
  rfl

theorem read_moveReservations (reservations : List MetricReservation) :
    ((moveReservations restaurantId target sources reservations).filter fun row =>
        row.restaurantId = restaurantId ∧ row.customerId = some target).map anonymous =
      ((reservations.filter fun row => row.restaurantId = restaurantId).filter fun row =>
        row.customerId ∈ (target :: sources).map some).map anonymous := by
  have same : anonymous ∘ moved restaurantId target sources = anonymous := by
    funext row
    rw [Function.comp_apply, moved]
    split <;> rfl
  rw [moveReservations, List.filter_map, List.map_map, List.filter_filter, same]
  congr 1
  refine List.filter_congr fun row _ => ?_
  rw [Function.comp_apply, moved]
  split
  next ofSource => simp [ofSource.1, ofSource.2]
  next other =>
    by_cases ours : row.restaurantId = restaurantId
    · have notSource : row.customerId ∉ sources.map some := fun member => other ⟨ours, member⟩
      simp only [List.map_cons, List.mem_cons, ours, notSource]
      simp
    · simp [ours]

variable (reservations : List MetricReservation)

theorem calculate_eq_metricsOf (restaurantId customerId : Id) :
    calculateCustomerMetricSnapshot reservations restaurantId customerId now =
      metricsOf now ((reservations.filter fun row => row.restaurantId = restaurantId).filter
        fun row => row.customerId = some customerId) := by
  rw [calculateCustomerMetricSnapshot, values_foldl, List.filter_filter]
  congr 1
  exact List.filter_congr fun row _ => by rw [Bool.decide_and, Bool.and_comm]

/-- The snapshot that is stored for a profile, in some version. -/
def snapshotOf (restaurantId : Id) (version : Id → Nat) (customerId : Id) :
    CustomerMetricSnapshot :=
  { calculateCustomerMetricSnapshot reservations restaurantId customerId now with
    projectionVersion := version customerId
    calculatedAt := now }

theorem snapshotOf_eq (restaurantId : Id) (version : Id → Nat) (customerId : Id) :
    (snapshotOf now reservations restaurantId version customerId).toCustomerMetricValues =
      metricsOf now ((reservations.filter fun row => row.restaurantId = restaurantId).filter
        fun row => row.customerId = some customerId) :=
  calculate_eq_metricsOf now reservations restaurantId customerId

theorem aggregate_profiles {M : Type} (op : M → M → M) (unit : M) [Std.Associative op]
    [Std.Commutative op] [Std.LawfulIdentity op unit] (contribution : MetricReservation → M)
    {profiles : List Id} (distinct : profiles.Nodup) (rows : List MetricReservation) :
    aggregate op unit (profiles.map fun profile => aggregate op unit
          ((rows.filter fun row => row.customerId = some profile).map contribution)) =
      aggregate op unit
        ((rows.filter fun row => row.customerId ∈ profiles.map some).map contribution) := by
  have owners := aggregate_owners op unit MetricReservation.customerId contribution
    (distinct.map (Option.some_injective Id)) rows
  rw [List.map_map, Function.comp_def] at owners
  convert owners.symm

/-- Merging the snapshots of some profiles, all taken at one instant, gives what counting all
their reservations at that instant gives. -/
theorem metricMerge_eq_calculate (restaurantId target : Id) (sources : List Id)
    (distinct : (target :: sources).Nodup) (mergedAt : Instant) (version : Id → Nat) :
    (metricMerge (some (snapshotOf now reservations restaurantId version target))
        (sources.map fun source => some (snapshotOf now reservations restaurantId version source))
        mergedAt).map (·.toCustomerMetricValues) =
      some (calculateCustomerMetricSnapshot
        (moveReservations restaurantId target sources reservations) restaurantId target now) := by
  have union : calculateCustomerMetricSnapshot
      (moveReservations restaurantId target sources reservations) restaurantId target now =
      metricsOf now ((reservations.filter fun row => row.restaurantId = restaurantId).filter
        fun row => row.customerId ∈ (target :: sources).map some) := by
    rw [calculateCustomerMetricSnapshot, values_foldl, ← metricsOf_anonymous,
      read_moveReservations, metricsOf_anonymous]
  have all : (some (snapshotOf now reservations restaurantId version target) ::
      sources.map fun source =>
        some (snapshotOf now reservations restaurantId version source)).filterMap id =
      (target :: sources).map (snapshotOf now reservations restaurantId version) := by
    simp [List.filterMap_map]
  rw [union, metricMerge, all, if_neg (by simp), Option.map_some]
  have fields := snapshotOf_eq now reservations restaurantId version
  generalize (reservations.filter fun row => row.restaurantId = restaurantId) = ours at fields ⊢
  -- a sum over the snapshots is an aggregate of their fields
  have summed {M : Type} [Add M] [Zero M] (field : CustomerMetricValues → M) :
      ((target :: sources).map (snapshotOf now reservations restaurantId version)).foldl
          (fun sum metric => sum + field metric.toCustomerMetricValues) 0 =
        aggregate (· + ·) 0 ((target :: sources).map fun profile => field (metricsOf now
          (ours.filter fun row => row.customerId = some profile))) := by
    rw [aggregate, List.foldl_map, List.foldl_map]
    simp only [fields]
  have listed {M : Type} (field : CustomerMetricValues → M) :
      ((target :: sources).map (snapshotOf now reservations restaurantId version)).map
          (fun metric => field metric.toCustomerMetricValues) =
        (target :: sources).map fun profile => field (metricsOf now
          (ours.filter fun row => row.customerId = some profile)) := by
    rw [List.map_map]
    exact List.map_congr_left fun profile _ => congrArg field (fields profile)
  refine congrArg some (CustomerMetricValues.ext ?_ ?_ ?_ ?_ ?_ ?_ ?_ ?_ ?_ ?_ ?_)
  · exact (maxDate_eq_aggregate _).trans ((congrArg _ (listed (·.lastHonoredAt))).trans
      (aggregate_profiles latest none _ distinct ours))
  · exact (minDate_eq_aggregate _).trans ((congrArg _ (listed (·.nextReservationAt))).trans
      (aggregate_profiles earliest none _ distinct ours))
  · exact (summed (·.honored30d)).trans (aggregate_profiles (· + ·) 0 _ distinct ours)
  · exact (summed (·.honored90d)).trans (aggregate_profiles (· + ·) 0 _ distinct ours)
  · exact (summed (·.honored365d)).trans (aggregate_profiles (· + ·) 0 _ distinct ours)
  · exact (summed (·.cancelled365d)).trans (aggregate_profiles (· + ·) 0 _ distinct ours)
  · exact (summed (·.noShow365d)).trans (aggregate_profiles (· + ·) 0 _ distinct ours)
  · exact (summed (·.covers365d)).trans (aggregate_profiles (· + ·) 0 _ distinct ours)
  · refine (decimalSum_eq_aggregate _).trans ?_
    rw [listed (fun metric => some metric.estimatedSpend365d), List.map_map]
    exact aggregate_profiles (· + ·) 0 _ distinct ours
  · exact (decimalOrNull_eq_aggregate _).trans ((congrArg _ (listed (·.actualSpend365d))).trans
      (aggregate_profiles addPresent none _ distinct ours))
  · exact (decimalOrNull_eq_aggregate _).trans ((congrArg _ (listed (·.actualLifetimeSpend))).trans
      (aggregate_profiles addPresent none _ distinct ours))

end

/-- Two profiles of one guest, one visit under either. -/
def twoVisits : List MetricReservation :=
  [{ restaurantId := "r", customerId := some "a", state := .HONORED, status := .SEATED
     reservedAt := 1000, startsAt := none, partySize := 2, estimatedRevenue := some 60
     confirmedRevenue := none },
   { restaurantId := "r", customerId := some "b", state := .HONORED, status := .SEATED
     reservedAt := 0, startsAt := some 2000, partySize := 3, estimatedRevenue := none
     confirmedRevenue := some 95 }]

theorem metricMerge_eq_calculate_two :
    (metricMerge (some (snapshotOf 5000 twoVisits "r" (fun _ => 1) "a"))
        (["b"].map fun source => some (snapshotOf 5000 twoVisits "r" (fun _ => 1) source))
        6000).map (·.toCustomerMetricValues) =
      some { lastHonoredAt := some 2000, nextReservationAt := none, honored30d := 2
             honored90d := 2, honored365d := 2, cancelled365d := 0, noShow365d := 0
             covers365d := 5, estimatedSpend365d := 60, actualSpend365d := some 95
             actualLifetimeSpend := some 95 } :=
  (metricMerge_eq_calculate 5000 twoVisits "r" "a" ["b"] (by decide) 6000 fun _ => 1).trans
    (by decide +kernel)

end Sokar.Customers
