import Mathlib.Data.Set.Finite.Lemmas
import Mathlib.Data.Set.Finite.List

/-!
# What intervals leave free

Closed intervals over a dense order, and the stretches that none of them covers. A stretch between
two intervals that cannot be prolonged begins where an interval stops and ends where one starts, so
a sweep over the intervals by their starts meets all of them.
-/

namespace Coverage

/-- A closed interval; a single point is one. -/
structure Interval (α : Type*) [LE α] where
  start : α
  stop : α
  ordered : start ≤ stop

variable {α : Type*} [LinearOrder α]

def Covered (intervals : List (Interval α)) (point : α) : Prop :=
  ∃ interval ∈ intervals, interval.start ≤ point ∧ point ≤ interval.stop

/-- No point strictly between the two is covered. -/
def Free (intervals : List (Interval α)) (low high : α) : Prop :=
  ∀ point, low < point → point < high → ¬ Covered intervals point

/-- A free stretch of a range that is part of no longer one. -/
structure IsMaximal (intervals : List (Interval α)) (first last low high : α) : Prop where
  first_le : first ≤ low
  low_lt : low < high
  le_last : high ≤ last
  free : Free intervals low high
  maximal : ∀ low' high', first ≤ low' → low' ≤ low → high ≤ high' → high' ≤ last →
    Free intervals low' high' → low' = low ∧ high' = high

/-- A free stretch from where an interval stops to where one starts. -/
structure IsGap (intervals : List (Interval α)) (low high : α) : Prop where
  low_lt : low < high
  free : Free intervals low high
  stops : ∃ interval ∈ intervals, interval.stop = low
  starts : ∃ interval ∈ intervals, interval.start = high

namespace Covered

section

variable {intervals : List (Interval α)} {interval : Interval α} (member : interval ∈ intervals)
include member

theorem of_stop : Covered intervals interval.stop :=
  ⟨interval, member, interval.ordered, le_rfl⟩

theorem of_start : Covered intervals interval.start :=
  ⟨interval, member, le_rfl, interval.ordered⟩

end

end Covered

namespace Free

theorem mono {intervals more : List (Interval α)} {low high : α} (free : Free more low high)
    (part : ∀ interval ∈ intervals, interval ∈ more) : Free intervals low high := by
  intro point above below covered
  obtain ⟨interval, member, within⟩ := covered
  exact free point above below ⟨interval, part interval member, within⟩

/-- An interval on one side of a point inside a free stretch is wholly on that side. -/
theorem stop_le [DenselyOrdered α] {intervals : List (Interval α)} {low high : α}
    {interval : Interval α} (free : Free intervals low high) (nonempty : low < high)
    (member : interval ∈ intervals) (starts : interval.start < high) : interval.stop ≤ low := by
  by_contra beyond
  have beyond := not_le.1 beyond
  by_cases inside : interval.stop < high
  · exact free interval.stop beyond inside (Covered.of_stop member)
  · obtain ⟨point, above, below⟩ := exists_between (max_lt nonempty starts)
    obtain ⟨aboveLow, aboveStart⟩ := max_lt_iff.1 above
    exact free point aboveLow below
      ⟨interval, member, aboveStart.le, below.le.trans (not_lt.1 inside)⟩

end Free

variable {intervals : List (Interval α)}

theorem covered_concat {last : Interval α} {point : α} : Covered (intervals ++ [last]) point ↔
      Covered intervals point ∨ (last.start ≤ point ∧ point ≤ last.stop) := by
  constructor
  · rintro ⟨interval, member, within⟩
    rcases List.mem_append.1 member with member | member
    · exact .inl ⟨interval, member, within⟩
    · exact .inr (List.mem_singleton.1 member ▸ within)
  · rintro (⟨interval, member, within⟩ | within)
    · exact ⟨interval, List.mem_append_left _ member, within⟩
    · exact ⟨last, List.mem_append_right _ (List.mem_singleton_self _), within⟩

variable {low high : α}

theorem IsGap.of_subset {intervals others : List (Interval α)} (gap : IsGap intervals low high)
    (same : ∀ interval, interval ∈ others ↔ interval ∈ intervals) : IsGap others low high := by
  obtain ⟨stopping, isStopping, stops⟩ := gap.stops
  obtain ⟨starting, isStarting, starts⟩ := gap.starts
  exact ⟨gap.low_lt, gap.free.mono fun interval => (same interval).1,
    ⟨stopping, (same stopping).2 isStopping, stops⟩,
    ⟨starting, (same starting).2 isStarting, starts⟩⟩

theorem isGap_congr {intervals others : List (Interval α)} (perm : intervals.Perm others) :
    IsGap intervals low high ↔ IsGap others low high :=
  ⟨fun gap => gap.of_subset fun _ => perm.mem_iff.symm,
    fun gap => gap.of_subset fun _ => perm.mem_iff⟩

/-! ## Sweeping by starts -/

structure IsEnd (intervals : List (Interval α)) (stop : α) : Prop where
  reached : ∃ interval ∈ intervals, interval.stop = stop
  le : ∀ interval ∈ intervals, interval.stop ≤ stop

theorem IsEnd.singleton (interval : Interval α) : IsEnd [interval] interval.stop where
  reached := ⟨interval, List.mem_singleton_self _, rfl⟩
  le := fun other member => by rw [List.mem_singleton.1 member]

theorem IsEnd.concat {stop : α} (ends : IsEnd intervals stop) (last : Interval α) :
    IsEnd (intervals ++ [last]) (if stop < last.stop then last.stop else stop) := by
  split
  next later =>
    refine ⟨⟨last, List.mem_append_right _ (List.mem_singleton_self _), rfl⟩, ?_⟩
    intro other member
    rcases List.mem_append.1 member with member | member
    · exact (ends.le other member).trans later.le
    · rw [List.mem_singleton.1 member]
  next earlier =>
    obtain ⟨interval, member, stops⟩ := ends.reached
    refine ⟨⟨interval, List.mem_append_left _ member, stops⟩, ?_⟩
    intro other member
    rcases List.mem_append.1 member with member | member
    · exact ends.le other member
    · exact List.mem_singleton.1 member ▸ not_lt.1 earlier

theorem isGap_concat_iff [DenselyOrdered α] {stop : α} {last : Interval α}
    (ends : IsEnd intervals stop) (latest : ∀ interval ∈ intervals, interval.start ≤ last.start) :
    IsGap (intervals ++ [last]) low high ↔
      IsGap intervals low high ∨ (low = stop ∧ high = last.start ∧ stop < last.start) := by
  have isLast : last ∈ intervals ++ [last] :=
    List.mem_append_right _ (List.mem_singleton_self _)
  constructor
  · intro gap
    have free : Free intervals low high :=
      gap.free.mono fun interval member => List.mem_append_left _ member
    obtain ⟨starting, isStarting, starts⟩ := gap.starts
    have bound : high ≤ last.start := by
      rcases List.mem_append.1 isStarting with member | member
      · exact starts ▸ latest starting member
      · rw [← starts, List.mem_singleton.1 member]
    -- the last interval stops too late to begin the stretch
    have stops : ∃ interval ∈ intervals, interval.stop = low := by
      obtain ⟨stopping, isStopping, stops⟩ := gap.stops
      rcases List.mem_append.1 isStopping with member | member
      · exact ⟨stopping, member, stops⟩
      · rw [List.mem_singleton.1 member] at stops
        have after : high ≤ low := stops ▸ bound.trans last.ordered
        exact absurd gap.low_lt (not_lt.2 after)
    by_cases earlier : ∃ interval ∈ intervals, interval.start = high
    · exact .inl ⟨gap.low_lt, free, stops, earlier⟩
    · have atLast : high = last.start := by
        rcases List.mem_append.1 isStarting with member | member
        · exact absurd ⟨starting, member, starts⟩ earlier
        · rw [← starts, List.mem_singleton.1 member]
      have stopsBefore : ∀ interval ∈ intervals, interval.stop ≤ low := by
        intro interval member
        have starts : interval.start ≠ high := fun same => earlier ⟨interval, member, same⟩
        exact free.stop_le gap.low_lt member
          (lt_of_le_of_ne (atLast ▸ latest interval member) starts)
      have atStop : low = stop := by
        obtain ⟨stopping, isStopping, stopsAt⟩ := stops
        obtain ⟨furthest, isFurthest, reaches⟩ := ends.reached
        exact le_antisymm (stopsAt ▸ ends.le stopping isStopping)
          (reaches ▸ stopsBefore furthest isFurthest)
      exact .inr ⟨atStop, atLast, atStop ▸ atLast ▸ gap.low_lt⟩
  · rintro (gap | ⟨rfl, rfl, nonempty⟩)
    · obtain ⟨starting, isStarting, starts⟩ := gap.starts
      obtain ⟨stopping, isStopping, stops⟩ := gap.stops
      refine ⟨gap.low_lt, ?_, ⟨stopping, List.mem_append_left _ isStopping, stops⟩,
        ⟨starting, List.mem_append_left _ isStarting, starts⟩⟩
      intro point above below covered
      rcases covered_concat.1 covered with covered | within
      · exact gap.free point above below covered
      · have tooLate : high ≤ point := (starts ▸ latest starting isStarting).trans within.1
        exact absurd below (not_lt.2 tooLate)
    · obtain ⟨stopping, isStopping, stops⟩ := ends.reached
      refine ⟨nonempty, ?_, ⟨stopping, List.mem_append_left _ isStopping, stops⟩,
        ⟨last, isLast, rfl⟩⟩
      intro point above below covered
      rcases covered_concat.1 covered with ⟨interval, member, within⟩ | within
      · exact absurd above (not_lt.2 (within.2.trans (ends.le interval member)))
      · exact absurd below (not_lt.2 within.1)

theorem not_isGap_singleton {interval : Interval α} : ¬ IsGap [interval] low high := by
  intro gap
  obtain ⟨stopping, isStopping, stops⟩ := gap.stops
  obtain ⟨starting, isStarting, starts⟩ := gap.starts
  rw [List.mem_singleton.1 isStopping] at stops
  rw [List.mem_singleton.1 isStarting] at starts
  exact absurd gap.low_lt (not_lt.2 (stops ▸ starts ▸ interval.ordered))

section

variable {intervals : List (Interval α)} {first last low high : α}

theorem exists_last_stop (some : ∃ interval ∈ intervals, interval.stop ≤ low) :
    ∃ furthest ∈ intervals, furthest.stop ≤ low ∧
      ∀ interval ∈ intervals, interval.stop ≤ low → interval.stop ≤ furthest.stop := by
  have finite : {interval | interval ∈ intervals ∧ interval.stop ≤ low}.Finite :=
    intervals.finite_toSet.subset fun _ member => member.1
  obtain ⟨furthest, ⟨member, stops⟩, others⟩ :=
    Set.exists_max_image _ Interval.stop finite some
  exact ⟨furthest, member, stops, fun interval isOther early => others interval ⟨isOther, early⟩⟩

theorem exists_first_start (some : ∃ interval ∈ intervals, high ≤ interval.start) :
    ∃ nearest ∈ intervals, high ≤ nearest.start ∧
      ∀ interval ∈ intervals, high ≤ interval.start → nearest.start ≤ interval.start := by
  have finite : {interval | interval ∈ intervals ∧ high ≤ interval.start}.Finite :=
    intervals.finite_toSet.subset fun _ member => member.1
  obtain ⟨nearest, ⟨member, starts⟩, others⟩ :=
    Set.exists_min_image _ Interval.start finite some
  exact ⟨nearest, member, starts, fun interval isOther late => others interval ⟨isOther, late⟩⟩

theorem IsGap.isMaximal (gap : IsGap intervals low high)
    (within : ∀ interval ∈ intervals, first ≤ interval.start ∧ interval.stop ≤ last) :
    IsMaximal intervals first last low high := by
  obtain ⟨stopping, isStopping, stops⟩ := gap.stops
  obtain ⟨starting, isStarting, starts⟩ := gap.starts
  refine ⟨?_, gap.low_lt, ?_, gap.free, ?_⟩
  · exact stops ▸ (within stopping isStopping).1.trans stopping.ordered
  · exact starts ▸ starting.ordered.trans (within starting isStarting).2
  · intro low' high' _ earlier later _ free
    constructor
    · by_contra different
      have before : low' < low := lt_of_le_of_ne earlier different
      exact free low before (gap.low_lt.trans_le later) (stops ▸ Covered.of_stop isStopping)
    · by_contra different
      have after : high < high' := lt_of_le_of_ne later (Ne.symm different)
      exact free high (earlier.trans_lt gap.low_lt) after (starts ▸ Covered.of_start isStarting)

theorem IsMaximal.isGap [DenselyOrdered α] (maximal : IsMaximal intervals first last low high)
    (within : ∀ interval ∈ intervals, first ≤ interval.start ∧ interval.stop ≤ last)
    (before : ∃ interval ∈ intervals, interval.stop ≤ low)
    (after : ∃ interval ∈ intervals, high ≤ interval.start) : IsGap intervals low high := by
  obtain ⟨furthest, isFurthest, stops, stopLast⟩ := exists_last_stop before
  obtain ⟨nearest, isNearest, starts, startFirst⟩ := exists_first_start after
  -- the stretch from the last stop to the first start is free, so it is this one
  have free : Free intervals furthest.stop nearest.start := by
    rintro point above below ⟨interval, member, afterStart, beforeStop⟩
    by_cases startsBefore : interval.start < high
    · have stopsBefore := maximal.free.stop_le maximal.low_lt member startsBefore
      exact absurd (beforeStop.trans (stopLast interval member stopsBefore)) (not_le.2 above)
    · have startsAfter := startFirst interval member (not_lt.1 startsBefore)
      exact absurd (startsAfter.trans afterStart) (not_le.2 below)
  obtain ⟨low_eq, high_eq⟩ := maximal.maximal furthest.stop nearest.start
    ((within furthest isFurthest).1.trans furthest.ordered) stops starts
    (nearest.ordered.trans (within nearest isNearest).2) free
  exact ⟨maximal.low_lt, maximal.free, ⟨furthest, isFurthest, low_eq⟩,
    ⟨nearest, isNearest, high_eq⟩⟩

/-- The gaps are the longest free stretches with an interval on either side. -/
theorem isGap_iff [DenselyOrdered α]
    (within : ∀ interval ∈ intervals, first ≤ interval.start ∧ interval.stop ≤ last) :
    IsGap intervals low high ↔ IsMaximal intervals first last low high ∧
        (∃ interval ∈ intervals, interval.stop ≤ low) ∧
        ∃ interval ∈ intervals, high ≤ interval.start := by
  constructor
  · intro gap
    obtain ⟨stopping, isStopping, stops⟩ := gap.stops
    obtain ⟨starting, isStarting, starts⟩ := gap.starts
    exact ⟨gap.isMaximal within, ⟨stopping, isStopping, stops.le⟩,
      ⟨starting, isStarting, starts.ge⟩⟩
  · rintro ⟨maximal, before, after⟩
    exact maximal.isGap within before after

end

end Coverage
