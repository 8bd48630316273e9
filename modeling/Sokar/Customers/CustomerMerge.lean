import Sokar.Library.Merging
import Sokar.Marketing.Register

/-!
# The merge of customer profiles

`applyMerge` of `customer-merge.service`, within its transaction: what was recorded of the sources
is given to the target, kind by kind, and the sources are archived.  The profiles' own texts,
preferences, tags and figures are left out, and so are the rows' restaurants, which are those of
their customers.
-/

namespace Sokar.Customers

open Marketing

inductive CustomerMergeError where
  | MERGE_TARGET_IN_SOURCES
  | CUSTOMER_NOT_FOUND
  | CRM_TENANT_MISMATCH
  | CUSTOMER_NOT_ACTIVE
  | MERGE_PREFERENCE_RESOLUTION_REQUIRED
  | P2002
  | P2025
  deriving DecidableEq

inductive CustomerIdentityType where
  | PHONE | EMAIL
  deriving DecidableEq

inductive DispatchStatus where
  | QUEUED | SENT | SKIPPED | FAILED
  deriving DecidableEq

structure MergeCustomer where
  id : Id
  restaurantId : Id
  phone : String
  name : Option String
  archivedAt : Option Instant
  mergedIntoId : Option Id
  deriving DecidableEq

structure CustomerIdentity where
  id : Id
  restaurantId : Id
  customerId : Id
  type : CustomerIdentityType
  normalizedValue : String
  deriving DecidableEq

structure CustomerTimelineEvent where
  id : Id
  customerId : Id
  eventType : String
  sourceId : Option Id
  occurredAt : Instant
  deriving DecidableEq

structure MergePermission where
  id : Id
  customerId : Id
  channel : MarketingChannel
  status : MarketingPermissionStatus
  source : String
  proofVersion : Option String
  proofHash : Option String
  consentedAt : Option Instant
  withdrawnAt : Option Instant
  deriving DecidableEq

structure MergeSuppression where
  id : Id
  customerId : Id
  channel : Option MarketingChannel
  reason : String
  expiresAt : Option Instant
  deriving DecidableEq

structure MergeDispatch where
  id : Id
  customerId : Id
  automationId : Id
  triggerKey : String
  status : DispatchStatus
  reasonCode : Option String
  occurredAt : Instant
  deriving DecidableEq

structure MergeFrequencyWindow where
  id : Id
  customerId : Id
  channel : MarketingChannel
  windowStart : Instant
  windowEnd : Instant
  sendCount : Nat
  deriving DecidableEq

structure MergeAttributionLink where
  id : Id
  customerId : Id
  campaignId : Id
  clickedAt : Option Instant
  deriving DecidableEq

structure CustomerTables where
  customers : List MergeCustomer
  identities : List CustomerIdentity
  timelineEvents : List CustomerTimelineEvent
  permissions : List MergePermission
  suppressions : List MergeSuppression
  dispatches : List MergeDispatch
  frequencyWindows : List MergeFrequencyWindow
  attributionLinks : List MergeAttributionLink
  deriving DecidableEq

def maxDate (values : List (Option Instant)) : Option Instant :=
  values.foldl (fun current value =>
    match value, current with
    | none, _ => current
    | some value, none => some value
    | some value, some latest => some (if latest < value then value else latest)) none

def minDate (values : List (Option Instant)) : Option Instant :=
  values.foldl (fun current value =>
    match value, current with
    | none, _ => current
    | some value, none => some value
    | some value, some earliest => some (if value < earliest then value else earliest)) none

def statusRank : MarketingPermissionStatus → Nat
  | .OPTED_IN => 1
  | .UNKNOWN => 2
  | .OPTED_OUT => 3

def moreRestrictiveStatus (left right : MarketingPermissionStatus) : MarketingPermissionStatus :=
  if statusRank left < statusRank right then right else left

def MergePermission.restrict (held source row : MergePermission) : MergePermission :=
  let restrictive := moreRestrictiveStatus held.status source.status
  let winner := if restrictive = source.status then source else held
  { row with
    status := restrictive
    source := if restrictive = held.status then held.source else "MERGE_RESTRICTIVE"
    proofVersion := winner.proofVersion
    proofHash := winner.proofHash
    consentedAt := if restrictive = .OPTED_IN then winner.consentedAt else none
    withdrawnAt :=
      if restrictive = .OPTED_OUT then maxDate [held.withdrawnAt, source.withdrawnAt] else none }

def permissionMerging : Merging MergePermission Id Id MarketingChannel where
  id := MergePermission.id
  owner := MergePermission.customerId
  key := MergePermission.channel
  isIndexed _ := true
  give target row := { row with customerId := target }
  absorb := MergePermission.restrict
  remember held source := held.restrict source held
  id_give _ _ := rfl
  owner_give _ _ := rfl
  key_give _ _ := rfl
  id_absorb _ _ _ := rfl
  owner_absorb _ _ _ := rfl
  key_absorb _ _ _ := rfl
  id_remember _ _ := .inl rfl

def MergeSuppression.key (row : MergeSuppression) : Option MarketingChannel × String :=
  (row.channel, row.reason)

/-- Without a channel the index does not hold, and what is remembered of a row that another one was
merged into is what it was before. -/
def suppressionMerging : Merging MergeSuppression Id Id (Option MarketingChannel × String) where
  id := MergeSuppression.id
  owner := MergeSuppression.customerId
  key := MergeSuppression.key
  isIndexed key := key.1.isSome
  give target row := { row with customerId := target }
  absorb held source row :=
    { row with
      expiresAt :=
        if held.expiresAt = none ∨ source.expiresAt = none then none
        else maxDate [held.expiresAt, source.expiresAt] }
  remember held _ := held
  id_give _ _ := rfl
  owner_give _ _ := rfl
  key_give _ _ := rfl
  id_absorb _ _ _ := rfl
  owner_absorb _ _ _ := rfl
  key_absorb _ _ _ := rfl
  id_remember _ _ := .inl rfl

def dispatchRank : DispatchStatus → Nat
  | .FAILED => 1
  | .SKIPPED => 2
  | .QUEUED => 3
  | .SENT => 4

def dispatchWinner (held source : MergeDispatch) : MergeDispatch :=
  if dispatchRank held.status < dispatchRank source.status then source else held

def MergeDispatch.key (row : MergeDispatch) : Id × String :=
  (row.automationId, row.triggerKey)

/-- What is remembered is the winner as a whole, with its id. -/
def dispatchMerging (target : Id) : Merging MergeDispatch Id Id (Id × String) where
  id := MergeDispatch.id
  owner := MergeDispatch.customerId
  key := MergeDispatch.key
  isIndexed _ := true
  give target row := { row with customerId := target }
  absorb held source row :=
    { row with
      status := (dispatchWinner held source).status
      reasonCode := (dispatchWinner held source).reasonCode
      occurredAt := (minDate [held.occurredAt, source.occurredAt]).getD held.occurredAt }
  remember held source := { dispatchWinner held source with customerId := target }
  id_give _ _ := rfl
  owner_give _ _ := rfl
  key_give _ _ := rfl
  id_absorb _ _ _ := rfl
  owner_absorb _ _ _ := rfl
  key_absorb _ _ _ := rfl
  id_remember held source := by
    unfold dispatchWinner
    split
    · exact .inr rfl
    · exact .inl rfl

def MergeFrequencyWindow.key (row : MergeFrequencyWindow) : MarketingChannel × Instant :=
  (row.channel, row.windowStart)

def windowMerging : Merging MergeFrequencyWindow Id Id (MarketingChannel × Instant) where
  id := MergeFrequencyWindow.id
  owner := MergeFrequencyWindow.customerId
  key := MergeFrequencyWindow.key
  isIndexed _ := true
  give target row := { row with customerId := target }
  absorb held source row :=
    { row with
      sendCount := held.sendCount + source.sendCount
      windowEnd := (maxDate [held.windowEnd, source.windowEnd]).getD held.windowEnd }
  remember held source := { held with sendCount := held.sendCount + source.sendCount }
  id_give _ _ := rfl
  owner_give _ _ := rfl
  key_give _ _ := rfl
  id_absorb _ _ _ := rfl
  owner_absorb _ _ _ := rfl
  key_absorb _ _ _ := rfl
  id_remember _ _ := .inl rfl

def linkMerging : Merging MergeAttributionLink Id Id Id where
  id := MergeAttributionLink.id
  owner := MergeAttributionLink.customerId
  key := MergeAttributionLink.campaignId
  isIndexed _ := true
  give target row := { row with customerId := target }
  absorb held source row := { row with clickedAt := minDate [held.clickedAt, source.clickedAt] }
  remember held _ := held
  id_give _ _ := rfl
  owner_give _ _ := rfl
  key_give _ _ := rfl
  id_absorb _ _ _ := rfl
  owner_absorb _ _ _ := rfl
  key_absorb _ _ _ := rfl
  id_remember _ _ := .inl rfl

def rowFailure : Merging.RowError → CustomerMergeError
  | .missing => .P2025
  | .taken => .P2002

section

variable (targetCustomerId : Id) (sourceCustomerIds : List Id)

def mergePermissions (rows : List MergePermission) :
    Except CustomerMergeError (List MergePermission) :=
  (permissionMerging.mergeRows targetCustomerId sourceCustomerIds rows).mapError rowFailure

def mergeSuppressions (rows : List MergeSuppression) :
    Except CustomerMergeError (List MergeSuppression) :=
  (suppressionMerging.mergeRows targetCustomerId sourceCustomerIds rows).mapError rowFailure

def mergeAutomationDispatches (rows : List MergeDispatch) :
    Except CustomerMergeError (List MergeDispatch) :=
  ((dispatchMerging targetCustomerId).mergeRows targetCustomerId sourceCustomerIds rows).mapError
    rowFailure

def mergeFrequencyWindows (rows : List MergeFrequencyWindow) :
    Except CustomerMergeError (List MergeFrequencyWindow) :=
  (windowMerging.mergeRows targetCustomerId sourceCustomerIds rows).mapError rowFailure

def mergeAttributionLinks (rows : List MergeAttributionLink) :
    Except CustomerMergeError (List MergeAttributionLink) :=
  (linkMerging.mergeRows targetCustomerId sourceCustomerIds rows).mapError rowFailure

def CustomerIdentity.key (identity : CustomerIdentity) : CustomerIdentityType × String :=
  (identity.type, identity.normalizedValue)

/-- An identity that the target has is dropped, and any other one moved. -/
def mergeIdentity (state : List CustomerIdentity × List (CustomerIdentityType × String))
    (identity : CustomerIdentity) :
    List CustomerIdentity × List (CustomerIdentityType × String) :=
  if identity.key ∈ state.2 then
    (state.1.filter fun row => row.id != identity.id, state.2)
  else
    (KeyedRows.update (fun row => row.id == identity.id)
      (fun row => { row with customerId := targetCustomerId }) state.1, identity.key :: state.2)

def mergeIdentities (customers : List MergeCustomer) (identities : List CustomerIdentity) :
    List CustomerIdentity :=
  let identitiesOf (customerId : Id) :=
    identities.filter fun identity => identity.customerId == customerId
  let sources := customers.filter fun customer =>
    decide (customer.id ∈ sourceCustomerIds) && customer.id != targetCustomerId
  ((sources.flatMap fun customer => identitiesOf customer.id).foldl
    (mergeIdentity targetCustomerId)
    (identities, (identitiesOf targetCustomerId).map CustomerIdentity.key)).1

end

structure MergeInput where
  restaurantId : Id
  targetCustomerId : Id
  sourceCustomerIds : List Id
  /-- What the statements about preferences, tags and figures end in. -/
  elsewhere : Option CustomerMergeError
  deriving DecidableEq

namespace MergeInput

variable (input : MergeInput) (now : Instant)

def merges (customerId : Id) : Bool :=
  decide (customerId ∈ input.sourceCustomerIds)

/-- The profiles of the restaurant that are merged. -/
def loadMergeContext (customers : List MergeCustomer) : List MergeCustomer :=
  customers.filter fun customer =>
    customer.restaurantId == input.restaurantId &&
      decide (customer.id ∈ input.targetCustomerId :: input.sourceCustomerIds)

def assertMergeContext (context : List MergeCustomer) : Except CustomerMergeError Unit := do
  if input.targetCustomerId ∈ input.sourceCustomerIds then throw .MERGE_TARGET_IN_SOURCES
  unless (input.targetCustomerId :: input.sourceCustomerIds).all fun id =>
      context.any fun customer => customer.id == id do
    throw .CUSTOMER_NOT_FOUND
  if context.any fun customer => customer.restaurantId != input.restaurantId then
    throw .CRM_TENANT_MISMATCH
  if context.any fun customer => customer.archivedAt.isSome || customer.mergedIntoId.isSome then
    throw .CUSTOMER_NOT_ACTIVE

/-- The name of the target, or else the first one of a source. -/
def mergedName (context : List MergeCustomer) (name : Option String) : Option String :=
  name.or <| input.sourceCustomerIds.findSome? fun id =>
    (KeyedRows.lookup MergeCustomer.id context id).bind fun source =>
      source.name.filter fun name => !name.isEmpty

def mergeCustomers (context customers : List MergeCustomer) : List MergeCustomer :=
  let named := KeyedRows.update (fun customer => customer.id == input.targetCustomerId)
    (fun customer => { customer with name := input.mergedName context customer.name }) customers
  KeyedRows.update
    (fun customer => customer.restaurantId == input.restaurantId && input.merges customer.id)
    (fun customer =>
      { customer with mergedIntoId := some input.targetCustomerId, archivedAt := some now }) named

def moveTimeline (events : List CustomerTimelineEvent) : List CustomerTimelineEvent :=
  KeyedRows.update (fun event => input.merges event.customerId)
    (fun event => { event with customerId := input.targetCustomerId }) events

def applyMerge (tables : CustomerTables) : Except CustomerMergeError CustomerTables := do
  let target := input.targetCustomerId
  let sources := input.sourceCustomerIds
  let context := input.loadMergeContext tables.customers
  input.assertMergeContext context
  if let some error := input.elsewhere then throw error
  let permissions ← mergePermissions target sources tables.permissions
  let suppressions ← mergeSuppressions target sources tables.suppressions
  let dispatches ← mergeAutomationDispatches target sources tables.dispatches
  let frequencyWindows ← mergeFrequencyWindows target sources tables.frequencyWindows
  let attributionLinks ← mergeAttributionLinks target sources tables.attributionLinks
  return {
    customers := input.mergeCustomers now context tables.customers
    identities := mergeIdentities target sources context tables.identities
    timelineEvents := input.moveTimeline tables.timelineEvents
    permissions
    suppressions
    dispatches
    frequencyWindows
    attributionLinks }

end MergeInput

namespace MergeInput

variable {input : MergeInput} {now : Instant} {before after : CustomerTables}

theorem ok_of_mapError {ε ε' α : Type} {result : Except ε α} {change : ε → ε'} {value : α}
    (ran : result.mapError change = .ok value) : result = .ok value := by
  cases result with
  | error failure => cases ran
  | ok found =>
    cases ran
    rfl

structure Committed (input : MergeInput) (now : Instant) (before after : CustomerTables) :
    Prop where
  apart : input.targetCustomerId ∉ input.sourceCustomerIds
  active : ∀ customer ∈ before.customers, customer.restaurantId = input.restaurantId →
    customer.id ∈ input.targetCustomerId :: input.sourceCustomerIds →
      customer.archivedAt = none ∧ customer.mergedIntoId = none
  found : ∀ customerId ∈ input.targetCustomerId :: input.sourceCustomerIds,
    ∃ customer ∈ before.customers, customer.restaurantId = input.restaurantId ∧
      customer.id = customerId
  permissions : permissionMerging.mergeRows input.targetCustomerId input.sourceCustomerIds
    before.permissions = .ok after.permissions
  suppressions : suppressionMerging.mergeRows input.targetCustomerId input.sourceCustomerIds
    before.suppressions = .ok after.suppressions
  dispatches : (dispatchMerging input.targetCustomerId).mergeRows input.targetCustomerId
    input.sourceCustomerIds before.dispatches = .ok after.dispatches
  frequencyWindows : windowMerging.mergeRows input.targetCustomerId input.sourceCustomerIds
    before.frequencyWindows = .ok after.frequencyWindows
  attributionLinks : linkMerging.mergeRows input.targetCustomerId input.sourceCustomerIds
    before.attributionLinks = .ok after.attributionLinks
  customers : after.customers =
    input.mergeCustomers now (input.loadMergeContext before.customers) before.customers
  identities : after.identities = mergeIdentities input.targetCustomerId input.sourceCustomerIds
    (input.loadMergeContext before.customers) before.identities
  timelineEvents : after.timelineEvents = input.moveTimeline before.timelineEvents

/-- The profiles of the context are there, and neither archived nor merged. -/
theorem active_of_asserted {context : List MergeCustomer}
    (asserted : input.assertMergeContext context = .ok ()) :
    input.targetCustomerId ∉ input.sourceCustomerIds ∧
      (∀ customerId ∈ input.targetCustomerId :: input.sourceCustomerIds,
        ∃ customer ∈ context, customer.id = customerId) ∧
        ∀ customer ∈ context, customer.archivedAt = none ∧ customer.mergedIntoId = none := by
  unfold assertMergeContext at asserted
  by_cases inSources : input.targetCustomerId ∈ input.sourceCustomerIds
  · rw [if_pos inSources] at asserted
    cases asserted
  rw [if_neg inSources] at asserted
  by_cases found : ((input.targetCustomerId :: input.sourceCustomerIds).all fun customerId =>
      context.any fun customer => customer.id == customerId) = true
  swap
  · rw [if_neg found] at asserted
    cases asserted
  rw [if_pos found] at asserted
  by_cases foreign : (context.any fun customer =>
      customer.restaurantId != input.restaurantId) = true
  · rw [if_pos foreign] at asserted
    cases asserted
  rw [if_neg foreign] at asserted
  by_cases inactive : (context.any fun customer =>
      customer.archivedAt.isSome || customer.mergedIntoId.isSome) = true
  · rw [if_pos inactive] at asserted
    cases asserted
  refine ⟨inSources, ?_, ?_⟩
  · intro customerId isId
    obtain ⟨customer, isCustomer, isSame⟩ :=
      List.any_eq_true.1 (List.all_eq_true.1 found customerId isId)
    exact ⟨customer, isCustomer, beq_iff_eq.1 isSame⟩
  · intro customer isCustomer
    have isActive := List.any_eq_false.1 (Bool.eq_false_iff.2 inactive) customer isCustomer
    simpa using isActive

theorem committed_of_applyMerge (merged : input.applyMerge now before = .ok after) :
    input.Committed now before after := by
  obtain ⟨_, asserted, merged⟩ := ok_of_bind merged
  obtain ⟨apart, found, active⟩ := active_of_asserted asserted
  cases elsewhere : input.elsewhere with
  | some error =>
    rw [elsewhere] at merged
    cases merged
  | none =>
    rw [elsewhere] at merged
    obtain ⟨permissions, hasPermissions, merged⟩ := ok_of_bind merged
    obtain ⟨suppressions, hasSuppressions, merged⟩ := ok_of_bind merged
    obtain ⟨dispatches, hasDispatches, merged⟩ := ok_of_bind merged
    obtain ⟨frequencyWindows, hasWindows, merged⟩ := ok_of_bind merged
    obtain ⟨attributionLinks, hasLinks, merged⟩ := ok_of_bind merged
    cases merged
    exact {
      apart
      active customer isCustomer ofRestaurant isMerged :=
        active customer (List.mem_filter.2 ⟨isCustomer, by simp [ofRestaurant, isMerged]⟩)
      found customerId isId := by
        obtain ⟨customer, isCustomer, isSame⟩ := found customerId isId
        obtain ⟨isRow, meets⟩ := List.mem_filter.1 isCustomer
        exact ⟨customer, isRow, beq_iff_eq.1 (Bool.and_eq_true_iff.1 meets).1, isSame⟩
      permissions := ok_of_mapError hasPermissions
      suppressions := ok_of_mapError hasSuppressions
      dispatches := ok_of_mapError hasDispatches
      frequencyWindows := ok_of_mapError hasWindows
      attributionLinks := ok_of_mapError hasLinks
      customers := rfl
      identities := rfl
      timelineEvents := rfl }

end MergeInput

end Sokar.Customers
