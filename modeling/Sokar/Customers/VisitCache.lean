import Mathlib.Data.List.Sort
import Sokar.Shared.ReservationStates

/-!
# The cache of visits

What is said of a guest's visits depends on the clock. A cached answer is kept until the first
instant at which one of its comparisons with the clock may turn out otherwise.
-/

namespace Sokar.Customers

inductive CustomerLifecycleStatus where
  | new | active | regular | at_risk | dormant
  deriving DecidableEq

structure CustomerLifecycle where
  status : CustomerLifecycleStatus
  reason : String
  deriving DecidableEq

def DAY_MS : Int := 86400000

namespace LIFECYCLE_THRESHOLDS

def regularWindowDays : Int := 90
def regularMinVisits : Nat := 3
def rhythmMinVisits : Nat := 3
def atRiskIntervalMultiplier : ℚ := 2
def atRiskMinGapDays : Int := 45
def dormantAfterDays : Int := 180
def newMaxVisits : Nat := 1
def noShowWindowDays : Int := 365

end LIFECYCLE_THRESHOLDS

open LIFECYCLE_THRESHOLDS

structure LifecycleReservation where
  state : ReservationState
  status : Option ReservationStatus
  startsAt : Option Instant
  reservedAt : Instant
  deriving DecidableEq

def LifecycleReservation.date (reservation : LifecycleReservation) : Instant :=
  reservation.startsAt.getD reservation.reservedAt

structure CustomerVisitStats where
  visitDates : List Instant := []
  noShows365d : Nat := 0
  deriving DecidableEq

structure CustomerVisitSummary where
  visits : Nat
  visits365d : Nat
  noShows365d : Nat
  lastVisitAt : Option Instant
  deriving DecidableEq

structure ComputedCustomerVisits where
  lifecycle : CustomerLifecycle
  summary : CustomerVisitSummary
  deriving DecidableEq

def isPastVisitState (state : ReservationState) : Bool :=
  [.HONORED, .SEATED, .CONFIRMED].contains state

def summarizeVisits (stats : CustomerVisitStats) (now : Instant) : CustomerVisitSummary where
  visits := stats.visitDates.length
  visits365d :=
    (stats.visitDates.filter fun date => date ≥ now - noShowWindowDays * DAY_MS).length
  noShows365d := stats.noShows365d
  lastVisitAt := stats.visitDates.getLast?

def CustomerVisitStats.next (now : Instant) (stats : CustomerVisitStats)
    (reservation : LifecycleReservation) : CustomerVisitStats :=
  if reservation.date ≥ now then stats
  else if reservation.state = .NO_SHOW ∨ reservation.status = some .NO_SHOW then
    if reservation.date ≥ now - noShowWindowDays * DAY_MS then
      { stats with noShows365d := stats.noShows365d + 1 }
    else stats
  else if reservation.status = some .CANCELLED ∨ reservation.status = some .NO_SHOW then stats
  else if isPastVisitState reservation.state then
    { stats with visitDates := stats.visitDates ++ [reservation.date] }
  else stats

def sortDates (dates : List Instant) : List Instant :=
  dates.insertionSort (· ≤ ·)

variable (reservations : List LifecycleReservation)

def summarizeLifecycleReservations (now : Instant) : CustomerVisitStats :=
  let stats := reservations.foldl (CustomerVisitStats.next now) {}
  { stats with visitDates := sortDates stats.visitDates }

def medianIntervalDays (visits : List Instant) : ℚ :=
  let gaps := (List.zipWith (fun visit previous : Instant => ((visit - previous : Int) : ℚ) / DAY_MS)
    visits.tail visits).insertionSort (· ≤ ·)
  let middle := gaps.length / 2
  if gaps.length % 2 = 1 then gaps.getD middle 0
  else (gaps.getD (middle - 1) 0 + gaps.getD middle 0) / 2

def rhythmLabel (intervalDays : ℚ) : String :=
  if intervalDays ≤ 10 then "chaque semaine"
  else if intervalDays ≤ 20 then "toutes les deux semaines"
  else if intervalDays ≤ 45 then "tous les mois"
  else "tous les " ++ toString ⌊intervalDays / 30 + 1 / 2⌋ ++ " mois"

def elapsedLabel (days : Int) : String :=
  if days < 1 then "moins d’un jour"
  else if days < 14 then (if days = 1 then "1 jour" else toString days ++ " jours")
  else if days < 60 then toString (days / 7) ++ " semaines"
  else toString (days / 30) ++ " mois"

/-- The days since the last visit, rounded down. -/
def daysSince (last now : Instant) : Int :=
  (now - last) / DAY_MS

def computeCustomerLifecycle (visitDates : List Instant) (now : Instant) : CustomerLifecycle :=
  let visits := sortDates (visitDates.filter fun date => date < now)
  match visits.getLast? with
  | none => { status := .new, reason := "Aucune visite pour l’instant" }
  | some last =>
    let daysSinceLast := daysSince last now
    let interval :=
      if visits.length ≥ rhythmMinVisits then some (medianIntervalDays visits) else none
    let habit :=
      match interval with
      | some days => ", venait " ++ rhythmLabel days
      | none => ""
    let gone := "Dernière visite il y a " ++ elapsedLabel daysSinceLast ++ habit
    let recentVisits :=
      (visits.filter fun date => date ≥ now - regularWindowDays * DAY_MS).length
    if daysSinceLast > dormantAfterDays then { status := .dormant, reason := gone }
    else if daysSinceLast > atRiskMinGapDays ∧
        interval.any (fun days => daysSinceLast > days * atRiskIntervalMultiplier) then
      { status := .at_risk, reason := gone }
    else if recentVisits ≥ regularMinVisits then
      { status := .regular
        reason := toString recentVisits ++ " visites en " ++ toString regularWindowDays ++
          " jours" }
    else if visits.length ≤ newMaxVisits then
      { status := .new, reason := "Première visite il y a " ++ elapsedLabel daysSinceLast }
    else
      { status := .active
        reason := toString visits.length ++ " visites, la dernière il y a " ++
          elapsedLabel daysSinceLast }

/-- What `loadComputedCustomerVisits` computes from the reservations of a guest. -/
def computeVisits (now : Instant) : ComputedCustomerVisits :=
  let stats := summarizeLifecycleReservations reservations now
  { lifecycle := computeCustomerLifecycle stats.visitDates now
    summary := summarizeVisits stats now }

def consider (current validUntil time : Instant) : Instant :=
  if time > current then min validUntil time else validUntil

/-- The instants that are considered, in the order of the loop. -/
def consideredTimes (now : Instant) : List Instant :=
  (reservations.flatMap fun row =>
    [row.date + 1, row.date + regularWindowDays * DAY_MS + 1,
      row.date + noShowWindowDays * DAY_MS + 1]) ++
  (match (summarizeLifecycleReservations reservations now).visitDates.getLast? with
    | some last => [last + (daysSince last now + 1) * DAY_MS]
    | none => [])

def visitsValidUntil (now : Instant) : Instant :=
  (consideredTimes reservations now).foldl (consider now) (now + 300000)

structure VisitCacheEntry where
  computedAt : Instant
  validUntil : Instant
  value : ComputedCustomerVisits

def cachedVisits (now : Instant) : VisitCacheEntry where
  computedAt := now
  validUntil := visitsValidUntil reservations now
  value := computeVisits reservations now

def VisitCacheEntry.read (entry : VisitCacheEntry) (now : Instant) :
    Option ComputedCustomerVisits :=
  if entry.computedAt > now ∨ entry.validUntil ≤ now then none else some entry.value

section

theorem foldl_consider_le (now : Instant) (times : List Instant) (start : Instant) :
    times.foldl (consider now) start ≤ start := by
  induction times generalizing start with
  | nil => exact le_rfl
  | cons time times ih =>
    refine (ih _).trans ?_
    rw [consider]
    split
    · exact min_le_left _ _
    · exact le_rfl

theorem foldl_consider_le_of_mem {now : Instant} {times : List Instant} {time : Instant}
    (member : time ∈ times) (future : now < time) (start : Instant) :
    times.foldl (consider now) start ≤ time := by
  induction times generalizing start with
  | nil => exact absurd member List.not_mem_nil
  | cons first times ih =>
    rcases List.mem_cons.1 member with rfl | later
    · refine (foldl_consider_le now times _).trans ?_
      rw [consider, if_pos future]
      exact min_le_right _ _
    · exact ih later _

variable {reservations : List LifecycleReservation} {now later : Instant}

theorem le_of_considered (valid : later < visitsValidUntil reservations now) {time : Instant}
    (member : time ∈ consideredTimes reservations now) (passed : time ≤ later) : time ≤ now := by
  by_contra future
  have bound := foldl_consider_le_of_mem member (not_le.1 future) (now + 300000)
  exact absurd passed (not_le.2 (valid.trans_le bound))

structure SameAnswers (reservations : List LifecycleReservation) (now later : Instant) :
    Prop where
  past : ∀ row ∈ reservations, row.date < now ↔ row.date < later
  regular : ∀ row ∈ reservations,
    now - regularWindowDays * DAY_MS ≤ row.date ↔ later - regularWindowDays * DAY_MS ≤ row.date
  noShow : ∀ row ∈ reservations,
    now - noShowWindowDays * DAY_MS ≤ row.date ↔ later - noShowWindowDays * DAY_MS ≤ row.date
  days : ∀ last,
    (summarizeLifecycleReservations reservations now).visitDates.getLast? = some last →
      daysSince last now = daysSince last later

theorem window_iff {date now later width : Int} (order : now ≤ later)
    (kept : date + width + 1 ≤ later → date + width + 1 ≤ now) :
    now - width ≤ date ↔ later - width ≤ date := by
  constructor <;> intro inside <;> omega

theorem days_eq {last now later : Int} (order : now ≤ later)
    (sameDay : last + ((now - last) / 86400000 + 1) * 86400000 ≤ later →
      last + ((now - last) / 86400000 + 1) * 86400000 ≤ now) :
    (now - last) / 86400000 = (later - last) / 86400000 := by
  omega

theorem sameAnswers (order : now ≤ later) (valid : later < visitsValidUntil reservations now) :
    SameAnswers reservations now later := by
  have considered (row : LifecycleReservation) (member : row ∈ reservations) (time : Instant)
      (isTime : time ∈ [row.date + 1, row.date + regularWindowDays * DAY_MS + 1,
        row.date + noShowWindowDays * DAY_MS + 1]) (passed : time ≤ later) : time ≤ now :=
    le_of_considered valid
      (List.mem_append_left _ (List.mem_flatMap.2 ⟨row, member, isTime⟩)) passed
  constructor
  · intro row member
    exact ⟨fun before => before.trans_le order, considered row member (row.date + 1) (by simp)⟩
  · intro row member
    exact window_iff order
      (considered row member (row.date + regularWindowDays * DAY_MS + 1) (by simp))
  · intro row member
    exact window_iff order
      (considered row member (row.date + noShowWindowDays * DAY_MS + 1) (by simp))
  · intro last isLast
    refine days_eq order fun passed => le_of_considered valid ?_ passed
    rw [consideredTimes, isLast]
    exact List.mem_append_right _ (List.mem_singleton_self _)

theorem foldl_next_eq (same : SameAnswers reservations now later)
    (stats : CustomerVisitStats) (rows : List LifecycleReservation)
    (areRows : ∀ row ∈ rows, row ∈ reservations) :
    rows.foldl (CustomerVisitStats.next now) stats =
      rows.foldl (CustomerVisitStats.next later) stats := by
  induction rows generalizing stats with
  | nil => rfl
  | cons row rows ih =>
    have isRow := areRows row List.mem_cons_self
    have step : stats.next now row = stats.next later row := by
      have past : (row.date ≥ now) = (row.date ≥ later) := by
        rw [ge_iff_le, ge_iff_le, ← not_lt, ← not_lt, same.past row isRow]
      have noShow : (row.date ≥ now - noShowWindowDays * DAY_MS) =
          (row.date ≥ later - noShowWindowDays * DAY_MS) :=
        propext (same.noShow row isRow)
      simp only [CustomerVisitStats.next, past, noShow]
    rw [List.foldl_cons, List.foldl_cons, step]
    exact ih _ fun other member => areRows other (List.mem_cons_of_mem _ member)

theorem summarizeLifecycleReservations_eq (same : SameAnswers reservations now later) :
    summarizeLifecycleReservations reservations now =
      summarizeLifecycleReservations reservations later := by
  rw [summarizeLifecycleReservations, summarizeLifecycleReservations,
    foldl_next_eq same {} reservations fun _ member => member]

theorem mem_foldl_next {rows : List LifecycleReservation} {stats : CustomerVisitStats}
    {date : Instant} (member : date ∈ (rows.foldl (CustomerVisitStats.next now) stats).visitDates) :
    date ∈ stats.visitDates ∨ ∃ row ∈ rows, row.date = date ∧ date < now := by
  induction rows generalizing stats with
  | nil => exact .inl member
  | cons row rows ih =>
    rcases ih member with here | ⟨other, isRow, isDate⟩
    · rw [CustomerVisitStats.next] at here
      split at here
      next => exact .inl here
      next past =>
        split at here
        next => split at here <;> exact .inl here
        next =>
          split at here
          next => exact .inl here
          next =>
            split at here
            next =>
              rcases List.mem_append.1 here with before | added
              · exact .inl before
              · rw [List.mem_singleton.1 added]
                exact .inr ⟨row, List.mem_cons_self, rfl, not_le.1 past⟩
            next => exact .inl here
    · exact .inr ⟨other, List.mem_cons_of_mem _ isRow, isDate⟩

theorem mem_visitDates {date : Instant}
    (member : date ∈ (summarizeLifecycleReservations reservations now).visitDates) :
    ∃ row ∈ reservations, row.date = date ∧ date < now := by
  rcases mem_foldl_next ((List.mem_insertionSort _).1 member) with none | found
  · exact absurd none List.not_mem_nil
  · exact found

theorem sortDates_filter {visitDates : List Instant} (sorted : visitDates.Pairwise (· ≤ ·))
    (past : ∀ date ∈ visitDates, date < now) :
    sortDates (visitDates.filter fun date => date < now) = visitDates := by
  rw [List.filter_eq_self.2 fun date member => decide_eq_true (past date member)]
  exact sorted.insertionSort_eq

section

variable (same : SameAnswers reservations now later)
include same

theorem computeCustomerLifecycle_eq :
    computeCustomerLifecycle (summarizeLifecycleReservations reservations now).visitDates now =
      computeCustomerLifecycle (summarizeLifecycleReservations reservations now).visitDates
        later := by
  have rows : ∀ date ∈ (summarizeLifecycleReservations reservations now).visitDates,
      ∃ row ∈ reservations, row.date = date ∧ date < now := fun _ member => mem_visitDates member
  have sorted : (summarizeLifecycleReservations reservations now).visitDates.Pairwise (· ≤ ·) :=
    List.pairwise_insertionSort _ _
  have days := same.days
  generalize (summarizeLifecycleReservations reservations now).visitDates = visitDates at *
  have pastNow : ∀ date ∈ visitDates, date < now := fun date member => by
    obtain ⟨_, _, _, past⟩ := rows date member
    exact past
  have pastLater : ∀ date ∈ visitDates, date < later := fun date member => by
    obtain ⟨row, isRow, rfl, past⟩ := rows date member
    exact (same.past row isRow).1 past
  have recent : (visitDates.filter fun date => date ≥ now - regularWindowDays * DAY_MS) =
      visitDates.filter fun date => date ≥ later - regularWindowDays * DAY_MS := by
    refine List.filter_congr fun date member => ?_
    obtain ⟨row, isRow, rfl, _⟩ := rows date member
    exact decide_eq_decide.2 (same.regular row isRow)
  rw [computeCustomerLifecycle, computeCustomerLifecycle, sortDates_filter sorted pastNow,
    sortDates_filter sorted pastLater]
  cases isLast : visitDates.getLast? with
  | none => rfl
  | some last =>
    dsimp only
    rw [days last isLast, recent]

theorem summarizeVisits_eq : summarizeVisits (summarizeLifecycleReservations reservations now) now =
      summarizeVisits (summarizeLifecycleReservations reservations now) later := by
  rw [summarizeVisits, summarizeVisits]
  congr 2
  refine List.filter_congr fun date member => ?_
  obtain ⟨row, isRow, rfl, _⟩ := mem_visitDates member
  exact decide_eq_decide.2 (same.noShow row isRow)

theorem computeVisits_eq : computeVisits reservations now = computeVisits reservations later := by
  rw [computeVisits, computeVisits, ← summarizeLifecycleReservations_eq same,
    computeCustomerLifecycle_eq same, summarizeVisits_eq same]

end

/-- As long as the answer is valid, computing it again gives the same. -/
theorem computeVisits_transparent (reservations : List LifecycleReservation) (now later : Instant)
    (order : now ≤ later) (valid : later < visitsValidUntil reservations now) :
    computeVisits reservations now = computeVisits reservations later :=
  computeVisits_eq (sameAnswers order valid)

/-- A visit an hour ago: the answer is valid for five minutes. -/
theorem computeVisits_transparent_hour : computeVisits [⟨.HONORED, some .SEATED, none, 0⟩] 3600000 =
      computeVisits [⟨.HONORED, some .SEATED, none, 0⟩] 3899999 :=
  computeVisits_transparent _ 3600000 3899999 (by decide) (by decide)

end

end Sokar.Customers
