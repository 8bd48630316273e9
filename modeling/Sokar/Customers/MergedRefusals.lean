import Mathlib.Data.Int.ConditionallyCompleteOrder
import Sokar.Customers.CustomerMerge
import Sokar.Library.MergedRows

/-!
# Refusals after a merge

What each profile has refused is to hold for the one they become.  The map of permissions follows
the rows, and the most restrictive status is kept.  The map of suppressions does not: of three or
more that meet, only the first and the last one decide how long the suppression lasts.
-/

namespace Sokar.Customers

open Marketing Merging

variable {target : Id} {sources : List Id}

/-- When a suppression expires; without a date never. -/
def MergeSuppression.expiry (row : MergeSuppression) : WithTop Instant :=
  match row.expiresAt with
  | none => ⊤
  | some expiresAt => expiresAt

theorem maxDate_pair (first second : Instant) :
    maxDate [some first, some second] = some (max first second) := by
  simp only [maxDate, List.foldl_cons, List.foldl_nil, Option.some.injEq]
  split
  next less => exact (max_eq_right less.le).symm
  next notLess => exact (max_eq_left (not_lt.1 notLess)).symm

theorem expiry_absorb (held source row : MergeSuppression) :
    (suppressionMerging.absorb held source row).expiry = max held.expiry source.expiry := by
  cases heldAt : held.expiresAt with
  | none => simp [suppressionMerging, MergeSuppression.expiry, heldAt]
  | some first =>
    cases sourceAt : source.expiresAt with
    | none => simp [suppressionMerging, MergeSuppression.expiry, heldAt, sourceAt]
    | some second =>
      simp [suppressionMerging, MergeSuppression.expiry, heldAt, sourceAt, maxDate_pair]

theorem statusRank_moreRestrictive (left right : MarketingPermissionStatus) :
    statusRank (moreRestrictiveStatus left right) = max (statusRank left) (statusRank right) := by
  unfold moreRestrictiveStatus
  split
  next less => exact (max_eq_right less.le).symm
  next notLess => exact (max_eq_left (not_lt.1 notLess)).symm

/-! ## What is to hold after a merge -/

def HasGreatest {Row Key β : Type} [Preorder β] (merging : Merging Row Id Id Key)
    (target : Id) (sources : List Id) (value : Row → β) (before after : List Row) (key : Key) :
    Prop :=
  ∃ kept, (∀ row, row ∈ after ∧ merging.owner row = target ∧ merging.key row = key ↔ row = kept) ∧
    IsGreatest (merging.valuesUnder target sources before key value) (value kept)

structure KeepsRefusals (target : Id) (sources : List Id) (before after : CustomerTables) :
    Prop where
  permissions : ∀ channel,
    (∃ row ∈ before.permissions, row.customerId ∈ target :: sources ∧ row.channel = channel) →
      HasGreatest permissionMerging target sources (fun row => statusRank row.status)
        before.permissions after.permissions channel
  suppressions : ∀ key,
    (∃ row ∈ before.suppressions, row.customerId ∈ target :: sources ∧ row.key = key) →
      HasGreatest suppressionMerging target sources MergeSuppression.expiry
        before.suppressions after.suppressions key

/-- The suppressions of a key, the target's first and then those of the sources, one by one; the
one that lasts longest is the first or the last of them. -/
def LongestSeen (target : Id) (sources : List Id) (rows : List MergeSuppression)
    (key : Option MarketingChannel × String) : Prop :=
  HasOne suppressionMerging target rows key ∧
    ∀ first ∈ (suppressionMerging.meeting target sources rows key).head?,
      ∀ last ∈ (suppressionMerging.meeting target sources rows key).getLast?,
        ∀ row ∈ suppressionMerging.meeting target sources rows key,
          row.expiry ≤ max first.expiry last.expiry

/-- The primary keys, and the index of the permissions. -/
structure CustomerTables.RefusalsIndexed (tables : CustomerTables) : Prop where
  permissionIds : (tables.permissions.map MergePermission.id).Nodup
  permissions : (tables.permissions.map fun row => (row.customerId, row.channel)).Nodup
  suppressionIds : (tables.suppressions.map MergeSuppression.id).Nodup

section

variable {Row Key β : Type} [DecidableEq Key] {merging : Merging Row Id Id Key}
variable {rows after : List Row} {key : Key} {value : Row → β}

theorem hasGreatest_iff [LinearOrder β] (separate : Separate merging target sources rows)
    (merged : merging.mergeRows target sources rows = .ok after)
    (keeps : ∀ held source, merging.id (merging.remember held source) = merging.id held)
    {cell : Cell Row}
    (present : merging.cellOf target rows (merging.sourceRows sources rows) key = some cell) :
    HasGreatest merging target sources value rows after key ↔ HasOne merging target rows key ∧
        IsGreatest {v | ∃ row ∈ merging.meeting target sources rows key, value row = v}
          (value cell.stored) := by
  rw [mergeRows_of_id separate keeps, Except.ok.injEq] at merged
  subst merged
  rw [HasGreatest, exists_only_iff separate present fun kept => IsGreatest _ (value kept)]
  exact and_congr_right fun hasOne => by rw [values_meeting separate hasOne]

end

variable {input : MergeInput} {now : Instant} {before after : CustomerTables}

theorem separate_suppressions (indexed : before.RefusalsIndexed)
    (committed : input.Committed now before after) :
    Separate suppressionMerging input.targetCustomerId input.sourceCustomerIds
      before.suppressions :=
  ⟨indexed.suppressionIds, committed.apart⟩

theorem permissions_kept (indexed : before.RefusalsIndexed)
    (committed : input.Committed now before after) (channel : MarketingChannel)
    (merges : ∃ row ∈ before.permissions,
      row.customerId ∈ input.targetCustomerId :: input.sourceCustomerIds ∧
        row.channel = channel) :
    HasGreatest permissionMerging input.targetCustomerId input.sourceCustomerIds
      (fun row => statusRank row.status) before.permissions after.permissions channel := by
  have separate : Separate permissionMerging input.targetCustomerId input.sourceCustomerIds
      before.permissions := ⟨indexed.permissionIds, committed.apart⟩
  obtain ⟨cell, present⟩ := exists_cell permissionMerging merges
  rw [hasGreatest_iff separate committed.permissions (fun _ _ => rfl) present]
  constructor
  · exact hasOne_of_index indexed.permissions
  · refine isGreatest_of_followed ?_ ?_ (fun _ => rfl) present
    · exact fun _ _ => statusRank_moreRestrictive _ _
    · exact fun _ _ _ => statusRank_moreRestrictive _ _

theorem suppressions_kept_iff (indexed : before.RefusalsIndexed)
    (committed : input.Committed now before after) (key : Option MarketingChannel × String)
    (merges : ∃ row ∈ before.suppressions,
      row.customerId ∈ input.targetCustomerId :: input.sourceCustomerIds ∧ row.key = key) :
    HasGreatest suppressionMerging input.targetCustomerId input.sourceCustomerIds
        MergeSuppression.expiry before.suppressions after.suppressions key ↔
      LongestSeen input.targetCustomerId input.sourceCustomerIds before.suppressions key := by
  have separate := separate_suppressions indexed committed
  obtain ⟨cell, present⟩ := exists_cell suppressionMerging merges
  rw [hasGreatest_iff separate committed.suppressions (fun _ _ => rfl) present, LongestSeen]
  refine and_congr_right fun _ => ?_
  exact isGreatest_iff_of_forgotten (fun _ _ => rfl) expiry_absorb (fun _ => rfl) present

/-- A merge that is committed keeps the refusals of the profiles exactly if of the suppressions
that meet the first or the last one lasts longest. -/
theorem keepsRefusals_iff (indexed : before.RefusalsIndexed)
    (merged : input.applyMerge now before = .ok after) :
    KeepsRefusals input.targetCustomerId input.sourceCustomerIds before after ↔
      ∀ key, (∃ row ∈ before.suppressions,
          row.customerId ∈ input.targetCustomerId :: input.sourceCustomerIds ∧ row.key = key) →
        LongestSeen input.targetCustomerId input.sourceCustomerIds before.suppressions key := by
  have committed := MergeInput.committed_of_applyMerge merged
  constructor
  · intro keeps key merges
    exact (suppressions_kept_iff indexed committed key merges).1 (keeps.suppressions key merges)
  · intro seen
    refine ⟨permissions_kept indexed committed, fun key merges => ?_⟩
    exact (suppressions_kept_iff indexed committed key merges).2 (seen key merges)

def mergedProfile (id : Id) : MergeCustomer where
  id := id
  restaurantId := "restaurant"
  phone := "+3300000000" ++ id
  name := none
  archivedAt := none
  mergedIntoId := none

def mergeOfThree : MergeInput where
  restaurantId := "restaurant"
  targetCustomerId := "1"
  sourceCustomerIds := ["2", "3"]
  elsewhere := none

/-- Each profile with a suppression that expires then. -/
def suppressed (first second third : Instant) : CustomerTables where
  customers := [mergedProfile "1", mergedProfile "2", mergedProfile "3"]
  identities := []
  timelineEvents := []
  permissions := []
  suppressions :=
    [⟨"a", "1", some .SMS, "MANUAL", some first⟩, ⟨"b", "2", some .SMS, "MANUAL", some second⟩,
      ⟨"c", "3", some .SMS, "MANUAL", some third⟩]
  dispatches := []
  frequencyWindows := []
  attributionLinks := []

theorem refusalsIndexed_suppressed (first second third : Instant) :
    (suppressed first second third).RefusalsIndexed := by
  constructor <;> simp [suppressed]

/-- What a merge leaves of such profiles. -/
def suppressedOnce (now expiresAt : Instant) : CustomerTables :=
  { suppressed 0 0 0 with
    customers := [mergedProfile "1",
      { mergedProfile "2" with mergedIntoId := some "1", archivedAt := some now },
      { mergedProfile "3" with mergedIntoId := some "1", archivedAt := some now }]
    suppressions := [⟨"a", "1", some .SMS, "MANUAL", some expiresAt⟩] }

/-- The second profile refuses messages until 30, the others not as long, and once they are merged
they are refused until 20. -/
theorem not_keepsRefusals_suppressed :
    ∃ after, mergeOfThree.applyMerge 5 (suppressed 10 30 20) = .ok after ∧
      ¬ KeepsRefusals "1" ["2", "3"] (suppressed 10 30 20) after := by
  refine ⟨suppressedOnce 5 20, by decide +kernel, fun keeps => ?_⟩
  obtain ⟨kept, only, -, isUpper⟩ := keeps.suppressions (some .SMS, "MANUAL")
    ⟨⟨"b", "2", some .SMS, "MANUAL", some 30⟩, by decide, by decide, rfl⟩
  cases (only _).1 ⟨List.mem_singleton_self _, rfl, rfl⟩
  have longer : (((30 : Instant) : WithTop Instant)) ≤ ((20 : Instant) : WithTop Instant) :=
    isUpper ⟨⟨"b", "2", some .SMS, "MANUAL", some 30⟩, by decide, by decide, rfl, rfl⟩
  exact absurd (WithTop.coe_le_coe.1 longer) (by decide)

theorem keepsRefusals_suppressed :
    KeepsRefusals "1" ["2", "3"] (suppressed 10 20 30) (suppressedOnce 5 30) ↔
      ∀ key, (∃ row ∈ (suppressed 10 20 30).suppressions,
          row.customerId ∈ ["1", "2", "3"] ∧ row.key = key) →
        LongestSeen "1" ["2", "3"] (suppressed 10 20 30).suppressions key :=
  @keepsRefusals_iff mergeOfThree 5 (suppressed 10 20 30) (suppressedOnce 5 30)
    (refusalsIndexed_suppressed 10 20 30) (by decide +kernel)

end Sokar.Customers
