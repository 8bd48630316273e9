import Mathlib.Data.List.Sort
import Sokar.Customers.MergedActivity
import Sokar.Library.QuietPrograms

/-!
# The message after the first visit

The automation `AFTER_FIRST_HONORED` of `marketing-automation.service`, beside merges and whatever
is recorded of visits.  An occasion is the visit that is the first one at the time, and a customer
is served once for each: a visit that is recorded later, or comes with another profile, is one
more occasion if it is the earlier one.  Who is eligible, and what the budget of the day leaves,
is an answer of the outside.
-/

namespace Sokar.Customers

open Marketing Merging Process Transaction

structure FirstHonoredAutomation where
  id : Id
  restaurantId : Id
  delayHours : Option Nat
  deriving DecidableEq

structure MarketingAutomationCandidate where
  customerId : Id
  triggerKey : String
  occurredAt : Instant
  deriving DecidableEq

def MAX_AUTOMATION_CANDIDATES : Nat := 10000

inductive CrmFailure where
  | merge (error : CustomerMergeError)
  | AUTOMATION_CANDIDATES_TOO_LARGE
  deriving DecidableEq

abbrev CrmSession := Nat

abbrev CrmStore := Store CustomerTables Empty CrmSession

abbrev CrmProg := Prog CrmStore

def CustomerTimelineEvent.isBefore (first second : CustomerTimelineEvent) : Prop :=
  first.occurredAt < second.occurredAt ∨
    first.occurredAt = second.occurredAt ∧ first.id ≤ second.id

instance : DecidableRel CustomerTimelineEvent.isBefore := fun _ _ =>
  inferInstanceAs (Decidable (_ ∨ _ ∧ _))

def CustomerTimelineEvent.triggerKey (event : CustomerTimelineEvent) : String :=
  "first-honored:" ++ event.sourceId.getD event.id

namespace CustomerTables

variable (tables : CustomerTables)

def firstVisit (customerId : Id) (cutoff : Instant) : Option CustomerTimelineEvent :=
  let visits := tables.timelineEvents.filter fun event =>
    event.customerId == customerId && event.eventType == "RESERVATION_HONORED" &&
      decide (event.occurredAt ≤ cutoff)
  (visits.insertionSort CustomerTimelineEvent.isBefore).head?

variable (automation : FirstHonoredAutomation)

def collectAutomationCandidates (now : Instant) : List MarketingAutomationCandidate :=
  let cutoff := now - automation.delayHours.getD 24 * 3600000
  tables.customers.filterMap fun customer =>
    if customer.restaurantId == automation.restaurantId && customer.archivedAt.isNone &&
        customer.mergedIntoId.isNone then
      (tables.firstVisit customer.id cutoff).map fun visit =>
        { customerId := customer.id
          triggerKey := visit.triggerKey
          occurredAt := visit.occurredAt }
    else none

def isServed (candidate : MarketingAutomationCandidate) : Bool :=
  tables.dispatches.any fun dispatch =>
    dispatch.automationId == automation.id && dispatch.customerId == candidate.customerId &&
      dispatch.triggerKey == candidate.triggerKey

end CustomerTables

/-- An evaluation: what the check of eligibility and the budget leave of the candidates, and the ids
of what is created. -/
structure EvaluateInput where
  automation : FirstHonoredAutomation
  now : Option Instant
  takes : MarketingAutomationCandidate → Bool
  newId : Id → Id

namespace EvaluateInput

variable (input : EvaluateInput)

def dispatch (candidate : MarketingAutomationCandidate) : MergeDispatch where
  id := input.newId candidate.customerId
  customerId := candidate.customerId
  automationId := input.automation.id
  triggerKey := candidate.triggerKey
  status := .QUEUED
  reasonCode := none
  occurredAt := candidate.occurredAt

/-- `skipDuplicates`. -/
def createDispatch (dispatches : List MergeDispatch) (candidate : MarketingAutomationCandidate) :
    List MergeDispatch :=
  let row := input.dispatch candidate
  if dispatches.any fun other =>
      other.id == row.id || (other.customerId == row.customerId && other.key == row.key) then
    dispatches
  else dispatches ++ [row]

def createDispatches (candidates : List MarketingAutomationCandidate) (tables : CustomerTables) :
    CustomerTables :=
  { tables with dispatches := candidates.foldl input.createDispatch tables.dispatches }

def findMarketingAutomationCandidates (now : Instant) :
    CrmProg (Except CrmFailure (List MarketingAutomationCandidate)) := do
  let candidates ← query fun tables _ => tables.collectAutomationCandidates input.automation now
  if MAX_AUTOMATION_CANDIDATES < candidates.length then
    pure (.error .AUTOMATION_CANDIDATES_TOO_LARGE)
  else do
    let served ← query fun tables _ => candidates.filter (tables.isServed input.automation)
    pure (.ok (candidates.filter fun candidate => decide (candidate ∉ served)))

/-- The number of dispatches that are created. -/
def evaluateMarketingAutomation (session : CrmSession) : CrmProg (Except CrmFailure Nat) := do
  let clock ← query fun _ now => now
  (input.findMarketingAutomationCandidates (input.now.getD clock)).andThen fun candidates =>
    let selected := candidates.filter input.takes
    if selected.isEmpty then pure (.ok 0)
    else do
      let created ← commit session
        (fun tables _ =>
          (input.createDispatches selected tables).dispatches.length - tables.dispatches.length)
        fun tables _ => input.createDispatches selected tables
      pure (.ok created)

end EvaluateInput

/-- Visits are recorded or corrected in whatever way, profiles are merged, automations evaluated. -/
inductive CrmCall where
  | record (change : List CustomerTimelineEvent → List CustomerTimelineEvent)
  | merge (input : MergeInput)
  | evaluate (input : EvaluateInput)

/-- The transaction, which is serializable. -/
def MergeInput.mergeCustomerProfiles (input : MergeInput) (session : CrmSession) :
    CrmProg (Except CrmFailure Unit) :=
  commit session
    (fun tables now => (input.applyMerge now tables).map (fun _ => ()) |>.mapError .merge)
    fun tables now =>
      match input.applyMerge now tables with
      | .ok merged => merged
      | .error _ => tables

def CrmCall.prog (session : CrmSession) : CrmCall → CrmProg (Except CrmFailure Nat)
  | .record change =>
    commit session (fun _ _ => .ok 0) fun tables _ =>
      { tables with timelineEvents := change tables.timelineEvents }
  | .merge input => do
      let merged ← input.mergeCustomerProfiles session
      pure (merged.map fun _ => 0)
  | .evaluate input => input.evaluateMarketingAutomation session

def crmSystem (calls : CrmSession → CrmCall) : System CrmSession CrmStore (Except CrmFailure Nat) :=
  system fun session => (calls session).prog session

def MergeDispatch.isActive (dispatch : MergeDispatch) : Bool :=
  dispatch.status == .QUEUED || dispatch.status == .SENT

variable (tables : CustomerTables)

/-- The profile was merged into the other one. -/
def CustomerTables.MergesInto (source target : Id) : Prop :=
  ∃ customer ∈ tables.customers, customer.id = source ∧ customer.mergedIntoId = some target

open Classical in
/-- The dispatches of an automation that are queued or sent for a customer, or for a profile that
was merged into it. -/
noncomputable def CustomerTables.fired (automationId customerId : Id) : Nat :=
  tables.dispatches.countP fun dispatch =>
    dispatch.automationId == automationId &&
      decide (Relation.ReflTransGen tables.MergesInto dispatch.customerId customerId) &&
        dispatch.isActive

/-- What a dispatch that is created, and dispatches that a merge brings together, are about. -/
structure SameOccasion (calls : CrmSession → CrmCall) (move : Move CrmSession CrmStore) : Prop where
  /-- A dispatch is created for a profile that is not merged, and what is queued or sent to it by
  the automation is for the same visit. -/
  created : ∀ input, calls move.session = .evaluate input →
    ∀ dispatch ∈ move.after.data.dispatches, dispatch ∉ move.before.data.dispatches →
      (∀ customerId, ¬ move.before.data.MergesInto dispatch.customerId customerId) ∧
        ∀ other ∈ move.before.data.dispatches, other.automationId = dispatch.automationId →
          other.customerId = dispatch.customerId → other.isActive = true →
            other.triggerKey = dispatch.triggerKey
  /-- What is queued or sent to the profiles of a merge by an automation is for the same visit. -/
  merged : ∀ input after, calls move.session = .merge input →
    input.applyMerge move.before.now move.before.data = .ok after →
      ∀ dispatch ∈ move.before.data.dispatches, ∀ other ∈ move.before.data.dispatches,
        dispatch.customerId ∈ input.targetCustomerId :: input.sourceCustomerIds →
          other.customerId ∈ input.targetCustomerId :: input.sourceCustomerIds →
            dispatch.automationId = other.automationId → dispatch.isActive = true →
              other.isActive = true → dispatch.triggerKey = other.triggerKey

def CustomerTables.OneRow : Prop :=
  (tables.customers.map MergeCustomer.id).Nodup

/-- No profile is served twice by an automation, and none that was merged. -/
structure CustomerTables.ServedOnce (tables : CustomerTables) : Prop where
  customers : tables.OneRow
  ids : (tables.dispatches.map MergeDispatch.id).Nodup
  index : (tables.dispatches.map fun row => (row.customerId, row.key)).Nodup
  living : ∀ dispatch ∈ tables.dispatches, dispatch.isActive = true → ∀ customerId,
    ¬ tables.MergesInto dispatch.customerId customerId
  once : ∀ dispatch ∈ tables.dispatches, ∀ other ∈ tables.dispatches, dispatch.isActive = true →
    other.isActive = true → dispatch.automationId = other.automationId →
      dispatch.customerId = other.customerId → dispatch = other

namespace CustomerTables

variable {tables : CustomerTables}

theorem countP_le_one {α : Type} {items : List α} (nodup : items.Nodup) {counted : α → Bool}
    (only : ∀ item ∈ items, ∀ other ∈ items, counted item = true → counted other = true →
      item = other) : items.countP counted ≤ 1 := by
  rw [List.countP_eq_length_filter]
  have filtered := nodup.filter counted
  cases found : items.filter counted with
  | nil => exact Nat.zero_le 1
  | cons first rest =>
    cases rest with
    | nil => exact le_rfl
    | cons second rest =>
      rw [found] at filtered
      have isFirst := List.mem_filter.1 (found ▸ List.mem_cons_self : first ∈ _)
      have isSecond := List.mem_filter.1
        (found ▸ List.mem_cons_of_mem _ List.mem_cons_self : second ∈ _)
      have same := only first isFirst.1 second isSecond.1 isFirst.2 isSecond.2
      exact absurd (same ▸ List.mem_cons_self) (List.nodup_cons.1 filtered).1

theorem ServedOnce.fired_le (served : tables.ServedOnce) (automationId customerId : Id) :
    tables.fired automationId customerId ≤ 1 := by
  have owner : ∀ dispatch ∈ tables.dispatches, dispatch.isActive = true →
      Relation.ReflTransGen tables.MergesInto dispatch.customerId customerId →
        dispatch.customerId = customerId := by
    intro dispatch isDispatch isActive leads
    rcases leads.cases_head with same | ⟨next, merged, -⟩
    · exact same
    · exact absurd merged (served.living dispatch isDispatch isActive next)
  refine countP_le_one served.ids.of_map ?_
  intro dispatch isDispatch other isOther counted counted'
  simp only [Bool.and_eq_true, beq_iff_eq, decide_eq_true_eq] at counted counted'
  obtain ⟨⟨isAutomations, leads⟩, isActive⟩ := counted
  obtain ⟨⟨isAutomations', leads'⟩, isActive'⟩ := counted'
  refine served.once dispatch isDispatch other isOther isActive isActive' ?_ ?_
  · exact isAutomations.trans isAutomations'.symm
  · exact (owner dispatch isDispatch isActive leads).trans
      (owner other isOther isActive' leads').symm

section

variable {input : EvaluateInput} {dispatches : List MergeDispatch}
variable {candidate : MarketingAutomationCandidate}

theorem nodup_map_createDispatch {Value : Type} {column : MergeDispatch → Value}
    (clashes : ∀ other, column other = column (input.dispatch candidate) →
      (other.id == (input.dispatch candidate).id ||
        (other.customerId == (input.dispatch candidate).customerId &&
          other.key == (input.dispatch candidate).key)) = true)
    (unique : (dispatches.map column).Nodup) :
    ((input.createDispatch dispatches candidate).map column).Nodup := by
  unfold EvaluateInput.createDispatch
  dsimp only
  split
  next => exact unique
  next free =>
    rw [List.map_append, List.map_singleton, ← List.concat_eq_append]
    refine unique.concat fun isThere => free ?_
    obtain ⟨other, isOther, same⟩ := List.mem_map.1 isThere
    exact List.any_eq_true.2 ⟨other, isOther, clashes other same⟩

variable {candidates : List MarketingAutomationCandidate}

theorem mem_createDispatches {dispatch : MergeDispatch}
    (created : dispatch ∈ (input.createDispatches candidates tables).dispatches) :
    dispatch ∈ tables.dispatches ∨ ∃ candidate ∈ candidates, dispatch = input.dispatch candidate := by
  change dispatch ∈ candidates.foldl input.createDispatch tables.dispatches at created
  generalize tables.dispatches = dispatches at created ⊢
  induction candidates generalizing dispatches with
  | nil => exact .inl created
  | cons candidate rest ih =>
    rcases ih _ created with earlier | ⟨other, isOther, same⟩
    · unfold EvaluateInput.createDispatch at earlier
      dsimp only at earlier
      split at earlier
      next => exact .inl earlier
      next =>
        rcases List.mem_append.1 earlier with earlier | isLast
        · exact .inl earlier
        · exact .inr ⟨candidate, List.mem_cons_self, List.mem_singleton.1 isLast⟩
    · exact .inr ⟨other, List.mem_cons_of_mem _ isOther, same⟩

theorem nodup_createDispatches (ids : (dispatches.map MergeDispatch.id).Nodup)
    (index : (dispatches.map fun row => (row.customerId, row.key)).Nodup) :
    ((candidates.foldl input.createDispatch dispatches).map MergeDispatch.id).Nodup ∧
      ((candidates.foldl input.createDispatch dispatches).map
        fun row => (row.customerId, row.key)).Nodup := by
  induction candidates generalizing dispatches with
  | nil => exact ⟨ids, index⟩
  | cons candidate rest ih =>
    apply ih
    · refine nodup_map_createDispatch (fun other same => ?_) ids
      rw [same, beq_self_eq_true, Bool.true_or]
    · refine nodup_map_createDispatch (fun other same => ?_) index
      obtain ⟨sameCustomer, sameKey⟩ := Prod.mk.inj same
      rw [sameCustomer, sameKey, beq_self_eq_true, beq_self_eq_true, Bool.and_true, Bool.or_true]

theorem subset_createDispatches (candidates : List MarketingAutomationCandidate) :
    tables.dispatches ⊆ (input.createDispatches candidates tables).dispatches := by
  intro dispatch isDispatch
  change dispatch ∈ candidates.foldl input.createDispatch tables.dispatches
  generalize tables.dispatches = dispatches at isDispatch
  induction candidates generalizing dispatches with
  | nil => exact isDispatch
  | cons candidate rest ih =>
    apply ih
    unfold EvaluateInput.createDispatch
    dsimp only
    split
    next => exact isDispatch
    next => exact List.mem_append_left _ isDispatch

theorem ServedOnce.createDispatches (served : tables.ServedOnce)
    (distinct : (candidates.map MarketingAutomationCandidate.customerId).Nodup)
    (fits : ∀ dispatch ∈ (input.createDispatches candidates tables).dispatches,
      dispatch ∉ tables.dispatches →
        (∀ customerId, ¬ tables.MergesInto dispatch.customerId customerId) ∧
          ∀ other ∈ tables.dispatches, other.automationId = dispatch.automationId →
            other.customerId = dispatch.customerId → other.isActive = true →
              other.triggerKey = dispatch.triggerKey) :
    (input.createDispatches candidates tables).ServedOnce := by
  have unique := @nodup_createDispatches input tables.dispatches candidates served.ids served.index
  have sameKey : ∀ dispatch ∈ (input.createDispatches candidates tables).dispatches,
      dispatch ∉ tables.dispatches → ∀ other ∈ tables.dispatches, other.isActive = true →
        other.automationId = dispatch.automationId → other.customerId = dispatch.customerId →
          other = dispatch := by
    intro dispatch created isNew other isOther isActive sameAutomation sameCustomer
    have sameTrigger :=
      (fits dispatch created isNew).2 other isOther sameAutomation sameCustomer isActive
    refine List.inj_on_of_nodup_map unique.2 (subset_createDispatches candidates isOther) created ?_
    simp [MergeDispatch.key, sameCustomer, sameAutomation, sameTrigger]
  refine ⟨served.customers, unique.1, unique.2, ?_, ?_⟩
  · intro dispatch created isActive
    by_cases isOld : dispatch ∈ tables.dispatches
    · exact served.living dispatch isOld isActive
    · exact (fits dispatch created isOld).1
  · intro dispatch created other created' isActive isActive' sameAutomation sameCustomer
    by_cases isOld : dispatch ∈ tables.dispatches
    · by_cases isOld' : other ∈ tables.dispatches
      · exact served.once dispatch isOld other isOld' isActive isActive' sameAutomation sameCustomer
      · exact sameKey other created' isOld' dispatch isOld isActive sameAutomation sameCustomer
    · by_cases isOld' : other ∈ tables.dispatches
      · exact (sameKey dispatch created isOld other isOld' isActive' sameAutomation.symm
          sameCustomer.symm).symm
      · -- both are new, and one candidate is as many customers as it has dispatches
        obtain ⟨candidate, isCandidate, rfl⟩ := (mem_createDispatches created).resolve_left isOld
        obtain ⟨candidate', isCandidate', rfl⟩ := (mem_createDispatches created').resolve_left isOld'
        rw [List.inj_on_of_nodup_map distinct isCandidate isCandidate' sameCustomer]

end

section

variable {input : MergeInput} {now : Instant} {after : CustomerTables}

theorem mergesInto_merged (committed : input.Committed now tables after) {source target : Id}
    (merged : after.MergesInto source target) :
    tables.MergesInto source target ∨ source ∈ input.sourceCustomerIds := by
  obtain ⟨customer, isCustomer, rfl, into⟩ := merged
  rw [committed.customers] at isCustomer
  obtain ⟨named, isNamed, rfl⟩ := List.mem_map.1 isCustomer
  obtain ⟨before, isBefore, same⟩ := List.mem_map.1 isNamed
  have stays : named.id = before.id ∧ named.mergedIntoId = before.mergedIntoId := by
    rw [← same]
    split <;> exact ⟨rfl, rfl⟩
  split at into
  next isSource =>
    right
    rw [if_pos isSource]
    exact of_decide_eq_true (Bool.and_eq_true_iff.1 isSource).2
  next other =>
    left
    rw [if_neg other]
    exact ⟨before, isBefore, stays.1.symm, stays.2.symm.trans into⟩

theorem ids_mergeCustomers (committed : input.Committed now tables after) :
    after.customers.map MergeCustomer.id = tables.customers.map MergeCustomer.id := by
  rw [committed.customers, MergeInput.mergeCustomers, KeyedRows.map_update, KeyedRows.map_update]
  · exact fun _ => rfl
  · exact fun _ => rfl

theorem active_of_stored {rows : List MergeDispatch} {target : Id} {sources : List Id}
    {key : Id × String} {cell : Cell MergeDispatch}
    (separate : Separate (dispatchMerging target) target sources rows)
    (hasOne : HasOne (dispatchMerging target) target rows key)
    (present : (dispatchMerging target).cellOf target rows
      ((dispatchMerging target).sourceRows sources rows) key = some cell)
    (isActive : cell.stored.isActive = true) :
    ∃ row ∈ rows, row.customerId ∈ target :: sources ∧ row.key = key ∧ row.isActive = true := by
  have active_iff (dispatch : MergeDispatch) :
      dispatch.isActive = true ↔ 3 ≤ dispatchRank dispatch.status := by
    cases same : dispatch.status <;> simp [MergeDispatch.isActive, dispatchRank, same]
  obtain ⟨⟨row, isMet, sameRank⟩, -⟩ := isGreatest_rank present
  rw [(meeting_perm separate hasOne).mem_iff] at isMet
  simp only [rowsUnder, List.mem_filter, Bool.and_eq_true, decide_eq_true_eq, beq_iff_eq] at isMet
  refine ⟨row, isMet.1, isMet.2.1, isMet.2.2, ?_⟩
  rw [active_iff, sameRank]
  exact (active_iff cell.stored).1 isActive

theorem ServedOnce.merge (served : tables.ServedOnce)
    (merged : input.applyMerge now tables = .ok after)
    (sameOccasion : ∀ dispatch ∈ tables.dispatches, ∀ other ∈ tables.dispatches,
      dispatch.customerId ∈ input.targetCustomerId :: input.sourceCustomerIds →
        other.customerId ∈ input.targetCustomerId :: input.sourceCustomerIds →
          dispatch.automationId = other.automationId → dispatch.isActive = true →
            other.isActive = true → dispatch.triggerKey = other.triggerKey) :
    after.ServedOnce := by
  have committed := MergeInput.committed_of_applyMerge merged
  have separate : Separate (dispatchMerging input.targetCustomerId) input.targetCustomerId
      input.sourceCustomerIds tables.dispatches := ⟨served.ids, committed.apart⟩
  have hasOne : ∀ key, HasOne (dispatchMerging input.targetCustomerId) input.targetCustomerId
      tables.dispatches key := fun _ => hasOne_of_index served.index
  have same := mergeRows_ok separate committed.dispatches
  have cases_ : ∀ dispatch ∈ after.dispatches, _ := fun dispatch isDispatch =>
    merged_cases separate hasOne (same ▸ isDispatch)
  refine ⟨?_, ?_, ?_, ?_, ?_⟩
  · rw [OneRow, ids_mergeCustomers committed]
    exact served.customers
  · rw [same]
    exact ids_merged separate
  · rw [same]
    exact index_merged separate served.index
  · intro dispatch isDispatch isActive customerId merged
    rcases mergesInto_merged committed merged with earlier | isSource
    · rcases cases_ dispatch isDispatch with ⟨cell, -, -, isTargets⟩ | ⟨isOld, -, -⟩
      · -- the target is not merged, and a profile is one row
        obtain ⟨customer, isCustomer, isOwner, into⟩ := earlier
        obtain ⟨target, isTarget, ofRestaurant, isId⟩ :=
          committed.found input.targetCustomerId List.mem_cons_self
        have sameId : customer.id = target.id := isOwner.trans (isTargets.trans isId.symm)
        cases List.inj_on_of_nodup_map served.customers isCustomer isTarget sameId
        have unmerged := (committed.active customer isTarget ofRestaurant
          (isId ▸ List.mem_cons_self)).2
        exact nomatch unmerged.symm.trans into
      · exact served.living dispatch isOld isActive customerId earlier
    · rcases cases_ dispatch isDispatch with ⟨cell, -, -, isTargets⟩ | ⟨-, -, notSource⟩
      · exact committed.apart (isTargets ▸ isSource)
      · exact notSource isSource
  · intro dispatch isDispatch other isOther isActive isActive' sameAutomation sameCustomer
    rcases cases_ dispatch isDispatch with ⟨cell, present, isStored, isTargets⟩ | old
    · rcases cases_ other isOther with ⟨cell', present', isStored', -⟩ | old'
      · -- both were folded from dispatches that were active, and so for one visit
        obtain ⟨row, isRow, isOwned, isKey, wasActive⟩ :=
          active_of_stored separate (hasOne _) present (isStored ▸ isActive)
        obtain ⟨row', isRow', isOwned', isKey', wasActive'⟩ :=
          active_of_stored separate (hasOne _) present' (isStored' ▸ isActive')
        obtain ⟨automation, trigger⟩ := Prod.mk.inj isKey
        obtain ⟨automation', trigger'⟩ := Prod.mk.inj isKey'
        have sameTrigger := sameOccasion row isRow row' isRow' isOwned isOwned'
          (automation.trans (sameAutomation.trans automation'.symm)) wasActive wasActive'
        have sameKey : dispatch.key = other.key :=
          Prod.ext sameAutomation (trigger.symm.trans (sameTrigger.trans trigger'))
        change (dispatchMerging input.targetCustomerId).cellOf _ _ _ dispatch.key = _ at present
        rw [sameKey] at present
        rw [isStored, isStored', Option.some.inj (present.symm.trans present')]
      · exact absurd (sameCustomer.symm.trans isTargets) old'.2.1
    · rcases cases_ other isOther with ⟨cell', -, -, isTargets⟩ | old'
      · exact absurd (sameCustomer.trans isTargets) old.2.1
      · exact served.once dispatch old.1 other old'.1 isActive isActive' sameAutomation sameCustomer

end

end CustomerTables

def CrmCall.Writes : CrmCall → CustomerTables → Instant → CustomerTables → Prop
  | .record change => fun tables _ tables' =>
    tables' = { tables with timelineEvents := change tables.timelineEvents }
  | .merge input => fun tables now tables' => input.applyMerge now tables = .ok tables'
  | .evaluate input => fun tables _ tables' => ∃ candidates,
      (candidates.map MarketingAutomationCandidate.customerId).Nodup ∧
        tables' = input.createDispatches candidates tables

section

variable {session : CrmSession}

theorem CrmCall.merge_acts (input : MergeInput) :
    Acts session (CrmCall.merge input).Writes (input.mergeCustomerProfiles session) := by
  apply Acts.commit
  intro tables now
  split
  next merged applied => exact .inr applied
  next => exact .inl rfl

theorem CrmCall.prog_keepsIds (call : CrmCall) : Acts session (fun tables _ tables' =>
      tables'.customers.map MergeCustomer.id = tables.customers.map MergeCustomer.id)
      (call.prog session) := by
  cases call with
  | record change =>
    unfold prog
    exact Acts.commit fun _ _ => .inr rfl
  | merge input =>
    apply Acts.bind
    · apply Acts.commit
      intro tables now
      split
      next merged applied =>
        exact .inr (CustomerTables.ids_mergeCustomers (MergeInput.committed_of_applyMerge applied))
      next => exact .inl rfl
    · exact fun _ => Acts.pure _
  | evaluate input =>
    apply Acts.bind (Acts.query _)
    intro clock
    apply Acts.andThen
    · apply Acts.bind (Acts.query _)
      intro candidates
      split
      · exact Acts.pure _
      · exact Acts.bind (Acts.query _) fun _ => Acts.pure _
    intro candidates
    dsimp only
    split
    · exact Acts.pure _
    · exact Acts.bind (Acts.commit fun _ _ => .inr rfl) fun _ => Acts.pure _

theorem nodup_collectAutomationCandidates {tables : CustomerTables}
    (oneRow : tables.OneRow) (automation : FirstHonoredAutomation)
    (now : Instant) :
    ((tables.collectAutomationCandidates automation now).map
      MarketingAutomationCandidate.customerId).Nodup := by
  refine oneRow.sublist (KeyedRows.map_filterMap_sublist fun customer candidate isCandidate => ?_)
  split at isCandidate
  next =>
    obtain ⟨visit, -, rfl⟩ := Option.map_eq_some_iff.1 isCandidate
    rfl
  next => cases isCandidate

theorem CrmCall.prog_actsWhile (call : CrmCall) :
    ActsWhile session (fun tables _ => tables.OneRow) call.Writes (call.prog session) := by
  cases call with
  | record change =>
    unfold prog
    exact ActsWhile.of_acts (Acts.commit fun _ _ => .inr rfl)
  | merge input =>
    exact ActsWhile.of_acts (Acts.bind (CrmCall.merge_acts input) fun _ => Acts.pure _)
  | evaluate input =>
    apply ActsWhile.query
    intro _ clock _
    unfold EvaluateInput.findMarketingAutomationCandidates Prog.andThen
    rw [Prog.bind_assoc]
    apply ActsWhile.query
    intro tables _ oneRow
    have distinct := nodup_collectAutomationCandidates oneRow input.automation
      (input.now.getD clock)
    split
    · trivial
    rw [Prog.bind_assoc]
    apply ActsWhile.query
    intro later _ _
    change ActsWhile session _ _ (if _ then _ else _)
    split
    · trivial
    · apply ActsWhile.commit
      · refine fun _ _ _ => .inr ⟨_, ?_, rfl⟩
        exact distinct.sublist ((List.filter_sublist.trans List.filter_sublist).map _)
      · exact fun _ _ _ => trivial

variable {calls : CrmSession → CrmCall} {store : CrmStore} {moves : List (Move CrmSession CrmStore)}
variable {c : Config CrmSession CrmStore (Except CrmFailure Nat)}

theorem servedOnce_of_move {move : Move CrmSession CrmStore}
    (step : ActStep move.session (calls move.session).Writes move.before move.after)
    (sameOccasion : SameOccasion calls move) (served : move.before.data.ServedOnce) :
    move.after.data.ServedOnce := by
  rcases step.data with unchanged | written
  · rw [unchanged]
    exact served
  cases isCall : calls move.session with
  | record change =>
    rw [isCall] at written
    rw [show move.after.data = _ from written]
    exact ⟨served.customers, served.ids, served.index, served.living, served.once⟩
  | merge input =>
    rw [isCall] at written
    exact served.merge written (sameOccasion.merged input move.after.data isCall written)
  | evaluate input =>
    rw [isCall] at written
    obtain ⟨candidates, distinct, created⟩ := written
    have fits := sameOccasion.created input isCall
    rw [created] at fits ⊢
    exact served.createDispatches distinct fits

end

/-! ## A visit that is recorded later -/

def honoredVisit (visit : Id) (occurredAt : Instant) : CustomerTimelineEvent where
  id := visit
  customerId := "1"
  eventType := "RESERVATION_HONORED"
  sourceId := some visit
  occurredAt := occurredAt

def firstVisitEvaluation (newId : Id) : EvaluateInput where
  automation := ⟨"automation", "restaurant", none⟩
  now := some 1000000000
  takes _ := true
  newId _ := newId

/-- The automation is evaluated, another visit is recorded, and it is evaluated again. -/
def visitsRecorded (later : CustomerTimelineEvent) (session : CrmSession) : CrmCall :=
  if session = 1 then .record fun events => events ++ [later]
  else .evaluate (firstVisitEvaluation (if session = 0 then "d" else "e"))

/-- A customer whose second visit is the first one to be recorded. -/
def visitedOnce : CrmStore where
  data := { suppressed 0 0 0 with
    customers := [mergedProfile "1"]
    timelineEvents := [honoredVisit "second" 500]
    suppressions := [] }
  now := 1000000000
  owner _ := none

theorem servedOnce_visitedOnce : visitedOnce.data.ServedOnce where
  customers := List.nodup_singleton _
  ids := List.nodup_nil
  index := List.nodup_nil
  living _ isDispatch := nomatch isDispatch
  once _ isDispatch := nomatch isDispatch

end Sokar.Customers
