import Sokar.Customers.MergedRefusals

/-!
# What was sent and clicked after a merge

The counts of frequency windows add up in whatever order the rows are read.  The map of attribution
links forgets the clicks that were merged.  The map of dispatches remembers the row that outranks
the held one with its own id, which is that of a row that is deleted, so that nothing can be merged
into it any more.
-/

namespace Sokar.Customers

open Marketing Merging

variable {target : Id} {sources : List Id}

/-- When a link was clicked; without a date never. -/
def MergeAttributionLink.click (row : MergeAttributionLink) : WithTop Instant :=
  match row.clickedAt with
  | none => ⊤
  | some clickedAt => clickedAt

theorem minDate_pair (first second : Instant) :
    minDate [some first, some second] = some (min first second) := by
  simp only [minDate, List.foldl_cons, List.foldl_nil, Option.some.injEq]
  split
  next less => exact (min_eq_right less.le).symm
  next notLess => exact (min_eq_left (not_lt.1 notLess)).symm

theorem click_absorb (held source row : MergeAttributionLink) :
    (linkMerging.absorb held source row).click = min held.click source.click := by
  cases heldAt : held.clickedAt with
  | none =>
    cases sourceAt : source.clickedAt <;>
      simp [linkMerging, MergeAttributionLink.click, heldAt, sourceAt, minDate]
  | some first =>
    cases sourceAt : source.clickedAt with
    | none => simp [linkMerging, MergeAttributionLink.click, heldAt, sourceAt, minDate]
    | some second =>
      simp [linkMerging, MergeAttributionLink.click, heldAt, sourceAt, minDate_pair]

/-! ## What is to hold after a merge -/

/-- The dispatch has the highest status and the earliest date of the profiles' ones. -/
def GoodDispatch (target : Id) (sources : List Id) (rows : List MergeDispatch)
    (key : Id × String) (kept : MergeDispatch) : Prop :=
  IsGreatest ((dispatchMerging target).valuesUnder target sources rows key
      fun row => dispatchRank row.status) (dispatchRank kept.status) ∧
    IsLeast ((dispatchMerging target).valuesUnder target sources rows key
      MergeDispatch.occurredAt) kept.occurredAt

/-- The window counts what was sent to all the profiles. -/
def GoodWindow (target : Id) (sources : List Id) (rows : List MergeFrequencyWindow)
    (key : MarketingChannel × Instant) (kept : MergeFrequencyWindow) : Prop :=
  kept.sendCount =
    ((windowMerging.rowsUnder target sources rows key).map MergeFrequencyWindow.sendCount).sum

/-- The link has the earliest click of the profiles' ones. -/
def GoodLink (target : Id) (sources : List Id) (rows : List MergeAttributionLink)
    (key : Id) (kept : MergeAttributionLink) : Prop :=
  IsLeast (linkMerging.valuesUnder target sources rows key MergeAttributionLink.click) kept.click

/-- The three kinds of rows are merged to the end, and the target has one good row for each key. -/
structure KeepsActivity (target : Id) (sources : List Id) (tables : CustomerTables) : Prop where
  dispatches : ∃ after, mergeAutomationDispatches target sources tables.dispatches = .ok after ∧
    (dispatchMerging target).LeavesOne target sources tables.dispatches
      (GoodDispatch target sources tables.dispatches) after
  frequencyWindows : ∃ after,
    mergeFrequencyWindows target sources tables.frequencyWindows = .ok after ∧
      windowMerging.LeavesOne target sources tables.frequencyWindows
        (GoodWindow target sources tables.frequencyWindows) after
  attributionLinks : ∃ after,
    mergeAttributionLinks target sources tables.attributionLinks = .ok after ∧
      linkMerging.LeavesOne target sources tables.attributionLinks
        (GoodLink target sources tables.attributionLinks) after

/-- The dispatches of a key, the target's first and then those of the sources, one by one: none but
the last one outranks the first, and one of these two is the earliest. -/
def DispatchesSeen (target : Id) (sources : List Id) (rows : List MergeDispatch)
    (key : Id × String) : Prop :=
  ∀ first ∈ ((dispatchMerging target).meeting target sources rows key).head?,
    ∀ last ∈ ((dispatchMerging target).meeting target sources rows key).getLast?,
      (∀ row ∈ ((dispatchMerging target).meeting target sources rows key).tail.dropLast,
        dispatchRank row.status ≤ dispatchRank first.status) ∧
      ∀ row ∈ (dispatchMerging target).meeting target sources rows key,
        min first.occurredAt last.occurredAt ≤ row.occurredAt

/-- The earliest click is that of the first link of a campaign or of the last one. -/
def ClicksSeen (target : Id) (sources : List Id) (rows : List MergeAttributionLink)
    (campaignId : Id) : Prop :=
  ∀ first ∈ (linkMerging.meeting target sources rows campaignId).head?,
    ∀ last ∈ (linkMerging.meeting target sources rows campaignId).getLast?,
      ∀ row ∈ linkMerging.meeting target sources rows campaignId,
        min first.click last.click ≤ row.click

structure CustomerTables.ActivityIndexed (tables : CustomerTables) : Prop where
  dispatchIds : (tables.dispatches.map MergeDispatch.id).Nodup
  dispatches : (tables.dispatches.map fun row => (row.customerId, row.key)).Nodup
  windowIds : (tables.frequencyWindows.map MergeFrequencyWindow.id).Nodup
  windows : (tables.frequencyWindows.map fun row => (row.customerId, row.key)).Nodup
  linkIds : (tables.attributionLinks.map MergeAttributionLink.id).Nodup
  links : (tables.attributionLinks.map fun row => (row.customerId, row.campaignId)).Nodup

theorem rank_dispatchWinner (held source : MergeDispatch) :
    dispatchRank (dispatchWinner held source).status =
      max (dispatchRank held.status) (dispatchRank source.status) := by
  unfold dispatchWinner
  split
  next less => exact (max_eq_right less.le).symm
  next notLess => exact (max_eq_left (not_lt.1 notLess)).symm

/-- The map names the row that is there until another one outranks it. -/
theorem goesThrough_dispatch {cell : Cell MergeDispatch} {taken : List MergeDispatch}
    (isTrue : cell.IsTrue (dispatchMerging target))
    (others : ∀ row ∈ taken, row.id ≠ cell.stored.id) :
    (dispatchMerging target).GoesThrough target (some cell) taken ↔
      ∀ row ∈ taken.dropLast, dispatchRank row.status ≤ dispatchRank cell.entry.status := by
  induction taken generalizing cell with
  | nil => simp [GoesThrough]
  | cons source rest ih =>
    have here : ∀ present, some cell = some present → present.IsTrue (dispatchMerging target) := by
      rintro present ⟨⟩
      exact isTrue
    rw [GoesThrough, and_iff_right here]
    cases rest with
    | nil => simp [GoesThrough]
    | cons next rest =>
      rw [List.dropLast_cons_of_ne_nil (List.cons_ne_nil next rest), List.forall_mem_cons]
      by_cases outranked : dispatchRank cell.entry.status < dispatchRank source.status
      · refine iff_of_false (fun through => ?_) fun ranks => ranks.1.not_gt outranked
        have named := through.1 _ rfl
        apply others source List.mem_cons_self
        simpa [Cell.IsTrue, receive, dispatchMerging, dispatchWinner, outranked] using named
      · have keeps : (dispatchMerging target).remember cell.entry source =
            { cell.entry with customerId := target } := by
          simp [dispatchMerging, dispatchWinner, outranked]
        rw [and_iff_right (not_lt.1 outranked), receive, keeps]
        exact ih isTrue fun row isRow => others row (List.mem_cons_of_mem _ isRow)

theorem goesThrough_dispatches {rows : List MergeDispatch} {key : Id × String}
    (separate : Separate (dispatchMerging target) target sources rows) :
    (dispatchMerging target).GoesThrough target ((dispatchMerging target).startCell target rows key)
        ((dispatchMerging target).ofKey key ((dispatchMerging target).sourceRows sources rows)) ↔
      ∀ first ∈ ((dispatchMerging target).meeting target sources rows key).head?,
        ∀ row ∈ ((dispatchMerging target).meeting target sources rows key).tail.dropLast,
          dispatchRank row.status ≤ dispatchRank first.status := by
  cases meets : (dispatchMerging target).meeting target sources rows key with
  | nil => simpa using goesThrough_of_no_meeting meets
  | cons first rest =>
    obtain ⟨row, isFirst, same⟩ := goesThrough_of_meeting meets
    have rankRow : dispatchRank row.status = dispatchRank first.status := by
      rcases isFirst with rfl | rfl <;> rfl
    have idRow : row.id = first.id := by
      rcases isFirst with rfl | rfl <;> rfl
    have isTrue : Cell.IsTrue (dispatchMerging target) ⟨row, row⟩ := rfl
    rw [same, goesThrough_dispatch isTrue, rankRow]
    · simp
    · intro other isRest
      rw [idRow]
      exact id_ne_of_meeting separate meets isRest

section

variable {rows : List MergeDispatch} {key : Id × String} {cell : Cell MergeDispatch}

theorem isGreatest_rank (present : (dispatchMerging target).cellOf target rows
      ((dispatchMerging target).sourceRows sources rows) key = some cell) :
    IsGreatest {rank | ∃ row ∈ (dispatchMerging target).meeting target sources rows key,
      dispatchRank row.status = rank} (dispatchRank cell.stored.status) := by
  refine isGreatest_of_followed ?_ ?_ (fun _ => rfl) present
  · exact fun held source => rank_dispatchWinner held source
  · exact fun held source _ => rank_dispatchWinner held source

theorem occurredAt_stored {first last : MergeDispatch}
    (present : (dispatchMerging target).cellOf target rows
      ((dispatchMerging target).sourceRows sources rows) key = some cell)
    (isFirst : first ∈ ((dispatchMerging target).meeting target sources rows key).head?)
    (isLast : last ∈ ((dispatchMerging target).meeting target sources rows key).getLast?)
    (ranks : ∀ row ∈ ((dispatchMerging target).meeting target sources rows key).tail.dropLast,
      dispatchRank row.status ≤ dispatchRank first.status) :
    cell.stored.occurredAt = min first.occurredAt last.occurredAt := by
  let value (row : MergeDispatch) : Nat × Instant := (dispatchRank row.status, row.occurredAt)
  let step (held source : Nat × Instant) := if held.1 < source.1 then source else held
  let merge (held source : Nat × Instant) := (max held.1 source.1, min held.2 source.2)
  have remembers : ∀ held source, value ((dispatchMerging target).remember held source) =
      step (value held) (value source) := by
    intro held source
    simp only [dispatchMerging, dispatchWinner, value, step]
    split <;> rfl
  have absorbs : ∀ held source row, value ((dispatchMerging target).absorb held source row) =
      merge (value held) (value source) := by
    intro held source row
    simp only [dispatchMerging, value, merge, rank_dispatchWinner, minDate_pair, Option.getD_some]
  have same : value cell.stored = merge (value first) (value last) := by
    refine value_stored_of_kept step merge remembers absorbs (fun _ => rfl) ?_ present isFirst
      isLast fun row isRow => if_neg (not_lt.2 (ranks row isRow))
    exact fun v => Prod.ext (max_self _) (min_self _)
  exact congrArg Prod.snd same

theorem dispatches_kept_iff (separate : Separate (dispatchMerging target) target sources rows)
    (hasOne : HasOne (dispatchMerging target) target rows key) :
    ((dispatchMerging target).GoesThrough target
          ((dispatchMerging target).startCell target rows key)
          ((dispatchMerging target).ofKey key ((dispatchMerging target).sourceRows sources rows)) ∧
        ∀ cell, (dispatchMerging target).cellOf target rows
            ((dispatchMerging target).sourceRows sources rows) key = some cell →
          GoodDispatch target sources rows key cell.stored) ↔
      DispatchesSeen target sources rows key := by
  rw [goesThrough_dispatches separate]
  simp only [GoodDispatch, ← values_meeting separate hasOne]
  constructor
  · rintro ⟨ranks, good⟩ first isFirst last isLast
    obtain ⟨cell, present⟩ := cell_of_head isFirst
    have isLeast := (good cell present).2
    rw [occurredAt_stored present isFirst isLast (ranks first isFirst)] at isLeast
    exact ⟨ranks first isFirst, (isLeast_min_iff isFirst isLast).1 isLeast⟩
  · intro seen
    constructor
    · intro first isFirst
      obtain ⟨cell, present⟩ := cell_of_head isFirst
      obtain ⟨-, -, last, isLast⟩ := ends_of_cell present
      exact (seen first isFirst last isLast).1
    · intro cell present
      obtain ⟨first, isFirst, last, isLast⟩ := ends_of_cell present
      obtain ⟨ranks, earliest⟩ := seen first isFirst last isLast
      refine ⟨isGreatest_rank present, ?_⟩
      rw [occurredAt_stored present isFirst isLast ranks]
      exact (isLeast_min_iff isFirst isLast).2 earliest

end

theorem windows_kept {rows : List MergeFrequencyWindow} {key : MarketingChannel × Instant}
    {cell : Cell MergeFrequencyWindow} (separate : Separate windowMerging target sources rows)
    (hasOne : HasOne windowMerging target rows key)
    (present : windowMerging.cellOf target rows (windowMerging.sourceRows sources rows) key =
      some cell) :
    GoodWindow target sources rows key cell.stored := by
  obtain ⟨first, rest, meets⟩ := meeting_ne_nil present
  have sums : ∀ (counts : List Nat) (first : Nat),
      counts.foldl (fun held source => held + source) first = (first :: counts).sum := by
    intro counts
    induction counts with
    | nil => exact fun _ => rfl
    | cons next counts ih =>
      intro first
      rw [List.foldl_cons, ih]
      simp [Nat.add_assoc]
  have counts : cell.stored.sendCount =
      ((first :: rest).map MergeFrequencyWindow.sendCount).sum := by
    rw [List.map_cons, ← sums]
    exact value_stored_of_followed (fun held source => held + source) (fun _ _ => rfl)
      (fun _ _ _ => rfl) (fun _ => rfl) meets present
  rw [GoodWindow, counts, ← meets]
  exact ((meeting_perm separate hasOne).map _).sum_eq

theorem links_kept_iff {rows : List MergeAttributionLink} {campaignId : Id}
    (separate : Separate linkMerging target sources rows)
    (hasOne : HasOne linkMerging target rows campaignId) :
    (∀ cell, linkMerging.cellOf target rows (linkMerging.sourceRows sources rows) campaignId =
        some cell → GoodLink target sources rows campaignId cell.stored) ↔
      ClicksSeen target sources rows campaignId := by
  have seenIff : ∀ {cell}, linkMerging.cellOf target rows (linkMerging.sourceRows sources rows)
      campaignId = some cell → (GoodLink target sources rows campaignId cell.stored ↔
        ClicksSeen target sources rows campaignId) := by
    intro cell present
    rw [GoodLink, ← values_meeting separate hasOne]
    exact isGreatest_iff_of_forgotten (β := (WithTop Instant)ᵒᵈ) (fun _ _ => rfl) click_absorb
      (fun _ => rfl) present
  constructor
  · intro good first isFirst last isLast
    obtain ⟨cell, present⟩ := cell_of_head isFirst
    exact (seenIff present).1 (good cell present) first isFirst last isLast
  · exact fun seen cell present => (seenIff present).2 seen

theorem ok_mapError_iff {ε ε' α : Type} {change : ε → ε'} {result : Except ε α} {value : α} :
    result.mapError change = .ok value ↔ result = .ok value := by
  cases result <;> simp [Except.mapError]

/-- The merge ends, with a good row for each key, exactly if of the dispatches that meet none but
the last one outranks the first, and if the earliest dispatch and click are the first or the last.
-/
theorem keepsActivity_iff {tables : CustomerTables} (indexed : tables.ActivityIndexed)
    (apart : target ∉ sources) :
    KeepsActivity target sources tables ↔
      (∀ key, DispatchesSeen target sources tables.dispatches key) ∧
        ∀ campaignId, ClicksSeen target sources tables.attributionLinks campaignId := by
  have separate : Separate (dispatchMerging target) target sources tables.dispatches :=
    ⟨indexed.dispatchIds, apart⟩
  have separateWindows : Separate windowMerging target sources tables.frequencyWindows :=
    ⟨indexed.windowIds, apart⟩
  have separateLinks : Separate linkMerging target sources tables.attributionLinks :=
    ⟨indexed.linkIds, apart⟩
  have hasOne : ∀ key, HasOne (dispatchMerging target) target tables.dispatches key :=
    fun _ => hasOne_of_index indexed.dispatches
  have hasOneWindow : ∀ key, HasOne windowMerging target tables.frequencyWindows key :=
    fun _ => hasOne_of_index indexed.windows
  have hasOneLink : ∀ key, HasOne linkMerging target tables.attributionLinks key :=
    fun _ => hasOne_of_index indexed.links
  have dispatches := merges_iff separate hasOne (GoodDispatch target sources tables.dispatches)
  have windows := merges_iff separateWindows hasOneWindow
    (GoodWindow target sources tables.frequencyWindows)
  have links := merges_iff separateLinks hasOneLink
    (GoodLink target sources tables.attributionLinks)
  have throughWindows : ∀ key, windowMerging.GoesThrough target
      (windowMerging.startCell target tables.frequencyWindows key)
      (windowMerging.ofKey key (windowMerging.sourceRows sources tables.frequencyWindows)) :=
    fun _ => goesThrough_of_id (fun _ _ => rfl) (fun _ => isTrue_startCell) _
  have throughLinks : ∀ key, linkMerging.GoesThrough target
      (linkMerging.startCell target tables.attributionLinks key)
      (linkMerging.ofKey key (linkMerging.sourceRows sources tables.attributionLinks)) :=
    fun _ => goesThrough_of_id (fun _ _ => rfl) (fun _ => isTrue_startCell) _
  simp only [dispatches_kept_iff separate (hasOne _)] at dispatches
  simp only [throughLinks, true_and, links_kept_iff separateLinks (hasOneLink _)] at links
  constructor
  · intro keeps
    have hasDispatches := keeps.dispatches
    have hasLinks := keeps.attributionLinks
    simp only [mergeAutomationDispatches, mergeAttributionLinks, ok_mapError_iff]
      at hasDispatches hasLinks
    exact ⟨dispatches.1 hasDispatches, links.1 hasLinks⟩
  · rintro ⟨seen, clicksSeen⟩
    constructor
    · simpa only [mergeAutomationDispatches, ok_mapError_iff] using dispatches.2 seen
    · simp only [mergeFrequencyWindows, ok_mapError_iff]
      refine windows.2 fun key => ⟨throughWindows key, fun cell present => ?_⟩
      exact windows_kept separateWindows (hasOneWindow key) present
    · simpa only [mergeAttributionLinks, ok_mapError_iff] using links.2 clicksSeen

def dispatched (id customerId : Id) (status : DispatchStatus) : MergeDispatch where
  id := id
  customerId := customerId
  automationId := "automation"
  triggerKey := "first-honored:visit"
  status := status
  reasonCode := none
  occurredAt := 10

variable (first second third : DispatchStatus)

/-- What profiles with dispatches in these states have. -/
def dispatchedThrice : CustomerTables where
  customers := []
  identities := []
  timelineEvents := []
  permissions := []
  suppressions := []
  dispatches :=
    [dispatched "a" "1" first, dispatched "b" "2" second, dispatched "c" "3" third]
  frequencyWindows := []
  attributionLinks := []

theorem activityIndexed_dispatchedThrice :
    (dispatchedThrice first second third).ActivityIndexed := by
  constructor <;> simp [dispatchedThrice, dispatched, MergeDispatch.key]

/-- The second profile's dispatch was sent and outranks the first one; the third is to be merged
into it once it is deleted. -/
theorem not_keepsActivity_dispatchedThrice : mergeAutomationDispatches "1" ["2", "3"]
        (dispatchedThrice .FAILED .SENT .SKIPPED).dispatches = .error .P2025 ∧
      ¬ KeepsActivity "1" ["2", "3"] (dispatchedThrice .FAILED .SENT .SKIPPED) := by
  have fails : mergeAutomationDispatches "1" ["2", "3"]
      (dispatchedThrice .FAILED .SENT .SKIPPED).dispatches = .error .P2025 := by decide +kernel
  refine ⟨fails, fun keeps => ?_⟩
  obtain ⟨after, merged, -⟩ := keeps.dispatches
  rw [fails] at merged
  cases merged

theorem keepsActivity_dispatchedThrice :
    KeepsActivity "1" ["2", "3"] (dispatchedThrice .SENT .FAILED .SKIPPED) ↔
      (∀ key, DispatchesSeen "1" ["2", "3"] (dispatchedThrice .SENT .FAILED .SKIPPED).dispatches
        key) ∧
      ∀ campaignId, ClicksSeen "1" ["2", "3"]
        (dispatchedThrice .SENT .FAILED .SKIPPED).attributionLinks campaignId :=
  keepsActivity_iff (activityIndexed_dispatchedThrice .SENT .FAILED .SKIPPED) (by decide)

end Sokar.Customers
