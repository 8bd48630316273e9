import Sokar.Customers.CustomerMerge
import Sokar.Loyalty.GrantLimits

/-!
# Grants of merged profiles

A merge gives the reservations of the sources to the target, and leaves their grants where they
are.  So the grant of a source is not redeemed with its own reservation any more, and does not count
against the target.  As long as no profile that has grants is merged into another one, and no grant
is inserted for a profile that was merged meanwhile, neither is noticed.
-/

namespace Sokar

open Customers Process Transaction

def LoyaltyCustomer.profile (customer : LoyaltyCustomer) : MergeCustomer where
  id := customer.id
  restaurantId := customer.restaurantId
  phone := ""
  name := none
  archivedAt := customer.archivedAt
  mergedIntoId := customer.mergedIntoId

variable (data : LoyaltyData)

namespace Customers.MergeInput

variable (input : MergeInput) (rebuiltSpend : Option ℚ)

def loyaltyRefusal? (data : LoyaltyData) : Except CustomerMergeError Unit := do
  input.assertMergeContext (input.loadMergeContext (data.customers.map LoyaltyCustomer.profile))
  if let some error := input.elsewhere then throw error

/-- The sources' reservations, in the restaurant. -/
def movesReservation (reservation : VisitReservation) : Bool :=
  reservation.restaurantId == input.restaurantId &&
    reservation.customerId.any fun customerId => input.merges customerId

def loyaltySources (data : LoyaltyData) : List LoyaltyCustomer :=
  input.sourceCustomerIds.filterMap <| KeyedRows.lookup LoyaltyCustomer.id <|
    data.customers.filter fun customer => customer.restaurantId == input.restaurantId

/-- What the target has of its sources; the spending is measured again. -/
def mergeTraits (data : LoyaltyData) (customer : LoyaltyCustomer) : LoyaltyCustomer :=
  { customer with
    isVip := customer.isVip || (input.loyaltySources data).any LoyaltyCustomer.isVip
    birthMonth := customer.birthMonth.or
      ((input.loyaltySources data).findSome? LoyaltyCustomer.birthMonth)
    estimatedSpend365d := rebuiltSpend }

/-- The merge of the rows that benefits are given by. -/
def mergeLoyalty (now : Instant) (data : LoyaltyData) : LoyaltyData :=
  { data with
    reservations := KeyedRows.update input.movesReservation
      (fun reservation => { reservation with customerId := some input.targetCustomerId })
      data.reservations
    customers := KeyedRows.update
      (fun customer => customer.restaurantId == input.restaurantId && input.merges customer.id)
      (fun customer =>
        { customer with mergedIntoId := some input.targetCustomerId, archivedAt := some now })
      (KeyedRows.update (fun customer => customer.id == input.targetCustomerId)
        (input.mergeTraits rebuiltSpend data) data.customers) }

/-- The transaction, which is serializable. -/
def mergeLoyaltyProfiles (call : LoyaltyCallId) : LoyaltyProg (Except CustomerMergeError Unit) :=
  commit call (fun data _ => input.loyaltyRefusal? data) fun data now =>
    match input.loyaltyRefusal? data with
    | .error _ => data
    | .ok _ => input.mergeLoyalty rebuiltSpend now data

end Customers.MergeInput

/-- A call of the loyalty service, or a merge. -/
inductive LoyaltyTraffic where
  | loyalty (call : LoyaltyCall)
  | merge (input : MergeInput) (rebuiltSpend : Option ℚ)

abbrev LoyaltyTrafficAnswer := Except LoyaltyFailure LoyaltyAnswer ⊕ Except CustomerMergeError Unit

section

variable [Sha256] [UnicodeCase]

def LoyaltyTraffic.prog (call : LoyaltyCallId) : LoyaltyTraffic → LoyaltyProg LoyaltyTrafficAnswer
  | .loyalty asked => do
      let answer ← asked.prog call
      return .inl answer
  | .merge input rebuiltSpend => do
      let answer ← input.mergeLoyaltyProfiles rebuiltSpend call
      return .inr answer

def loyaltyTrafficSystem (traffic : LoyaltyCallId → LoyaltyTraffic) :
    System LoyaltyCallId LoyaltyStore LoyaltyTrafficAnswer :=
  system fun call => (traffic call).prog call

end

/-- The profile was merged into the other one. -/
def LoyaltyData.MergesInto (source target : Id) : Prop :=
  ∃ customer ∈ data.customers, customer.id = source ∧ customer.mergedIntoId = some target

open Classical in
noncomputable def LoyaltyData.usedOfProfiles (restaurantId benefitId customerId : Id) : Nat :=
  data.grants.countP fun grant =>
    grant.restaurantId == restaurantId && grant.benefitId == benefitId &&
      decide (Relation.ReflTransGen data.MergesInto grant.customerId customerId) && grant.isUsed

/-- The grant is accepted with the reservation that is given, nothing else going on. -/
def RedeemLoyaltyGrantInput.Accepted [Sha256] [UnicodeCase] (input : RedeemLoyaltyGrantInput)
    (call : LoyaltyCallId) (store : LoyaltyStore) : Prop :=
  ∃ result store', (input.redeemLoyaltyGrant call).run store = some (.ok result, store')

structure GrantsSurvive [Sha256] [UnicodeCase] (traffic : LoyaltyCallId → LoyaltyTraffic)
    (start : LoyaltyData) (moves : List (Move LoyaltyCallId LoyaltyStore)) : Prop where
  /-- An issued grant that is redeemed with a reservation before a merge is so after it. -/
  accepted : ∀ move ∈ moves, ∀ merged rebuiltSpend,
    traffic move.session = .merge merged rebuiltSpend → ∀ (input : RedeemLoyaltyGrantInput) call grant,
      move.before.data.grantOf? input.restaurantId input.grantId = some grant →
        grant.status = .ISSUED → input.Accepted call move.before → input.Accepted call move.after
  /-- The grants that are counted for a customer are those of all profiles merged into it. -/
  counted : ∀ data ∈ history start moves, ∀ restaurantId benefitId customerId,
    data.used restaurantId benefitId customerId =
      data.usedOfProfiles restaurantId benefitId customerId

/-- A merge that is committed finds no grant of a source that counts, and a grant that is inserted
is one of a profile that is not merged. -/
structure SparesGrants (traffic : LoyaltyCallId → LoyaltyTraffic)
    (move : Move LoyaltyCallId LoyaltyStore) : Prop where
  merge : ∀ input rebuiltSpend, traffic move.session = .merge input rebuiltSpend →
    input.loyaltyRefusal? move.before.data = .ok () → ∀ grant ∈ move.before.data.grants,
      grant.isUsed = true → grant.customerId ∉ input.sourceCustomerIds
  issue : ∀ input, traffic move.session = .loyalty (.issue input) →
    move.after.data ≠ move.before.data →
      ∀ customerId, ¬ move.before.data.MergesInto input.customerId customerId

section

variable {store : LoyaltyStore} {grant : LoyaltyGrant}

/-- The reservation is one of the customer and stands. -/
def LoyaltyData.hasReservation (restaurantId customerId : Id) (reservationId : Option Id) : Prop :=
  ∀ wanted, reservationId.filter (· != "") = some wanted →
    ∃ reservation ∈ data.reservations, reservation.id = wanted ∧
      reservation.restaurantId = restaurantId ∧ reservation.customerId = some customerId ∧
        reservation.state ≠ .CANCELLED ∧ reservation.state ≠ .NO_SHOW

theorem run_assertReservationForCustomer (restaurantId customerId : Id)
    (reservationId : Option Id) :
    ∃ result, (assertReservationForCustomer restaurantId customerId reservationId).run store =
        some (result, store) ∧
      (result = .ok () ↔ store.data.hasReservation restaurantId customerId reservationId) := by
  unfold assertReservationForCustomer
  cases asked : reservationId.filter (· != "") with
  | none =>
    refine ⟨.ok (), rfl, iff_of_true rfl ?_⟩
    intro wanted isWanted
    rw [asked] at isWanted
    cases isWanted
  | some wanted =>
    refine ⟨_, rfl, ?_⟩
    constructor
    · intro stands
      split at stands
      next isThere =>
        simp only [List.any_eq_true, Bool.and_eq_true, beq_iff_eq, bne_iff_ne] at isThere
        obtain ⟨reservation, isRow, ⟨⟨⟨isId, ofRestaurant⟩, ofCustomer⟩, active⟩, shown⟩ := isThere
        intro other isOther
        cases asked.symm.trans isOther
        exact ⟨reservation, isRow, isId, ofRestaurant, ofCustomer, active, shown⟩
      next => cases stands
    · intro has
      obtain ⟨reservation, isRow, isId, ofRestaurant, ofCustomer, active, shown⟩ := has wanted asked
      refine if_pos ?_
      simp only [List.any_eq_true, Bool.and_eq_true, beq_iff_eq, bne_iff_ne]
      exact ⟨reservation, isRow, ⟨⟨⟨isId, ofRestaurant⟩, ofCustomer⟩, active⟩, shown⟩

theorem run_loyaltyNow (given : Option Instant) :
    (loyaltyNow given).run store = some (given.getD store.now, store) := by
  cases given <;> rfl

namespace RedeemLoyaltyGrantInput

variable [Sha256] (input : RedeemLoyaltyGrantInput) {call : LoyaltyCallId}

theorem run_redeem (note : Option (Option String)) {now : Instant}
    (found : store.data.grantOf? input.restaurantId input.grantId = some grant)
    (isIssued : grant.status = .ISSUED) (inTime : now < grant.expiresAt) :
    ∃ result store', (input.redeem call grant note now).run store = some (.ok result, store') := by
  simp only [LoyaltyData.grantOf?, Option.filter_eq_some_iff, beq_iff_eq] at found
  obtain ⟨isFound, ofRestaurant⟩ := found
  have isThere : (store.data.grants.any (input.redeems grant now)) = true := by
    rw [List.any_eq_true]
    refine ⟨grant, KeyedRows.mem_of_lookup isFound, ?_⟩
    simp [redeems, ofRestaurant, isIssued, inTime]
  have row : ((store.data.updateGrants (input.redeems grant now)
      (·.redeemed now (hashLoyaltyActor input.actor) input.reservationId note)).grantOf?
        input.restaurantId grant.id).isSome = true := by
    have sameId : grant.id = input.grantId := KeyedRows.key_of_lookup isFound
    rw [LoyaltyData.grantOf?, (input.redeems_changes grant now _ note).grant?_updateGrants, sameId,
      isFound, Option.map_some]
    simp only [Option.isSome_filter, Option.any_some]
    split
    · exact beq_iff_eq.2 ofRestaurant
    · exact beq_iff_eq.2 ofRestaurant
  obtain ⟨redeemed, isRow⟩ := Option.isSome_iff_exists.1 row
  rw [redeem, Prog.run_bind, run_commit, Option.bind_some, Prog.run_bind, run_query,
    Option.bind_some]
  dsimp only [Store.release]
  rw [isThere, isRow]
  exact ⟨_, _, rfl⟩

theorem accepted_iff_isOk [UnicodeCase] : input.Accepted call store ↔
      ((input.redeemLoyaltyGrant call).run store).map (fun ran => ran.1.isOk) = some true := by
  constructor
  · rintro ⟨result, store', ran⟩
    rw [ran]
    rfl
  · intro isOk
    obtain ⟨⟨answer, store'⟩, ran, isOk⟩ := Option.map_eq_some_iff.1 isOk
    cases answer with
    | error failure => cases isOk
    | ok result => exact ⟨result, store', ran⟩

/-- What an issued grant needs to be redeemed. -/
structure Redeemable (store : LoyaltyStore) (grant : LoyaltyGrant) [UnicodeCase] : Prop where
  code : ∃ code, normalizeCode input.code = .ok code ∧ grant.codeHash = hashLoyaltyCode code
  note : ∃ note, normalizeNote input.note = .ok note
  reservation : store.data.hasReservation input.restaurantId grant.customerId input.reservationId
  inTime : input.now.getD store.now < grant.expiresAt

theorem accepted_iff [UnicodeCase]
    (found : store.data.grantOf? input.restaurantId input.grantId = some grant)
    (isIssued : grant.status = .ISSUED) :
    input.Accepted call store ↔ input.Redeemable store grant := by
  obtain ⟨checked, ranCheck, isChecked⟩ := @run_assertReservationForCustomer store
    input.restaurantId grant.customerId input.reservationId
  rw [Accepted, redeemLoyaltyGrant, Prog.run_bind, run_loyaltyNow, Option.bind_some]
  cases isCode : normalizeCode input.code with
  | error failure =>
    refine iff_of_false ?_ fun can => ?_
    · rintro ⟨result, store', impossible⟩
      cases impossible
    · obtain ⟨code, hasCode, -⟩ := can.code
      cases isCode.symm.trans hasCode
  | ok code =>
  cases isNote : normalizeNote input.note with
  | error failure =>
    refine iff_of_false ?_ fun can => ?_
    · rintro ⟨result, store', impossible⟩
      cases impossible
    · obtain ⟨note, hasNote⟩ := can.note
      cases isNote.symm.trans hasNote
  | ok note =>
  rw [Prog.run_bind, run_query, Option.bind_some]
  rw [found]
  dsimp only
  by_cases sameCode : grant.codeHash = hashLoyaltyCode code
  · rw [if_neg (by simpa using sameCode), Prog.andThen, Prog.run_bind, ranCheck, Option.bind_some]
    simp only [isIssued, reduceCtorEq, if_false, false_or]
    cases checked with
    | error failure =>
      refine iff_of_false ?_ fun can => ?_
      · rintro ⟨result, store', impossible⟩
        cases impossible
      · cases isChecked.2 can.reservation
    | ok _ =>
      dsimp only
      split
      next isOver =>
        refine iff_of_false ?_ fun can => absurd can.inTime (not_lt.2 isOver)
        rintro ⟨result, store', impossible⟩
        cases impossible
      next inTime =>
        refine iff_of_true (input.run_redeem note found isIssued (not_le.1 inTime)) ?_
        exact ⟨⟨code, isCode, sameCode⟩, ⟨note, isNote⟩, isChecked.1 rfl, not_le.1 inTime⟩
  · rw [if_pos (by simpa using sameCode)]
    refine iff_of_false ?_ fun can => ?_
    · rintro ⟨result, store', impossible⟩
      cases impossible
    · obtain ⟨other, hasCode, isSame⟩ := can.code
      cases isCode.symm.trans hasCode
      exact sameCode isSame

end RedeemLoyaltyGrantInput

end

variable (input : IssueLoyaltyGrantInput)

def IssueLoyaltyGrantInput.Inserts [Sha256] (data : LoyaltyData) (_ : Instant) (data' : LoyaltyData)
    : Prop :=
  ∃ benefit idempotencyKey now, data' = data.insertGrant (input.grant benefit idempotencyKey now)

/-- What a merge that is not refused leaves. -/
def Customers.MergeInput.Merges (input : MergeInput) (rebuiltSpend : Option ℚ) (data : LoyaltyData)
    (now : Instant) (data' : LoyaltyData) : Prop :=
  input.loyaltyRefusal? data = .ok () ∧ data' = input.mergeLoyalty rebuiltSpend now data

def LoyaltyTraffic.Writes [Sha256] : LoyaltyTraffic → LoyaltyData → Instant → LoyaltyData → Prop
  | .loyalty (.issue input) => input.Inserts
  | .loyalty _ => LoyaltyWrite
  | .merge input rebuiltSpend => input.Merges rebuiltSpend

section

variable [Sha256] {call : LoyaltyCallId}

omit [Sha256] in
theorem IssueLoyaltyGrantInput.limited_quiet (benefit : LoyaltyBenefit) :
    Quiet call (input.limited call benefit) :=
  Quiet.bind (Quiet.acquire _) fun _ => Quiet.bind (Quiet.query _) fun _ => Quiet.pure _

theorem IssueLoyaltyGrantInput.create_acts (benefit : LoyaltyBenefit)
    (idempotencyKey : Option String) (now : Instant) :
    Acts call input.Inserts (input.create call benefit idempotencyKey now) := by
  apply Acts.bind
  · apply Acts.transact (Acts.of_quiet (input.limited_quiet benefit))
    exact fun _ data at_ _ => .inr ⟨benefit, idempotencyKey, now, rfl⟩
  intro created
  split
  · exact Acts.bind (Acts.query _) fun _ => Acts.pure _
  · exact Acts.pure _

theorem IssueLoyaltyGrantInput.issueLoyaltyGrant_acts :
    Acts call input.Inserts (input.issueLoyaltyGrant call) := by
  apply Acts.bind (Acts.of_quiet (quiet_loyaltyNow input.now))
  intro now
  split
  · exact Acts.pure _
  next rawKey _ =>
    refine Acts.found ?_ fun _ => Acts.pure _
    refine Acts.found (Acts.pure _) fun benefit => ?_
    apply (Acts.of_quiet (quiet_assertCustomerEligible _ _ _ _)).andThen
    intro _
    apply (Acts.of_quiet (quiet_assertReservationForCustomer _ _ _)).andThen
    intro _
    exact input.create_acts benefit _ now

omit [Sha256] in
theorem Customers.MergeInput.mergeLoyaltyProfiles_acts (input : MergeInput)
    (rebuiltSpend : Option ℚ) :
    Acts call (input.Merges rebuiltSpend) (input.mergeLoyaltyProfiles rebuiltSpend call) := by
  apply Acts.commit
  intro data now
  split
  · exact .inl rfl
  next accepted => exact .inr ⟨accepted, rfl⟩

variable [UnicodeCase]

theorem LoyaltyTraffic.prog_acts (traffic : LoyaltyTraffic) :
    Acts call traffic.Writes (traffic.prog call) := by
  cases traffic with
  | merge input rebuiltSpend =>
    exact Acts.bind (input.mergeLoyaltyProfiles_acts rebuiltSpend) fun _ => Acts.pure _
  | loyalty asked =>
    refine Acts.bind ?_ fun _ => Acts.pure _
    cases asked with
    | issue input => exact input.issueLoyaltyGrant_acts.andThen fun _ => Acts.pure _
    | redeem input => exact input.redeemLoyaltyGrant_acts.andThen fun _ => Acts.pure _
    | void input => exact input.voidLoyaltyGrant_acts.andThen fun _ => Acts.pure _
    | expire input => exact input.expireLoyaltyGrants_acts.andThen fun _ => Acts.pure _
    | update input => exact input.updateLoyaltyBenefit_acts.andThen fun _ => Acts.pure _

end

namespace LoyaltyData

variable {data : LoyaltyData}

/-- No profile that was merged has a grant that counts. -/
def Unmerged (data : LoyaltyData) : Prop :=
  ∀ grant ∈ data.grants, grant.isUsed = true → ∀ customerId,
    ¬ data.MergesInto grant.customerId customerId

theorem Unmerged.counted (unmerged : data.Unmerged) (restaurantId benefitId customerId : Id) :
    data.used restaurantId benefitId customerId =
      data.usedOfProfiles restaurantId benefitId customerId := by
  apply List.countP_congr
  intro grant isGrant
  simp only [Bool.and_eq_true, beq_iff_eq, decide_eq_true_eq]
  constructor
  · rintro ⟨⟨located, rfl⟩, isUsed⟩
    exact ⟨⟨located, .refl⟩, isUsed⟩
  · rintro ⟨⟨located, leads⟩, isUsed⟩
    refine ⟨⟨located, ?_⟩, isUsed⟩
    rcases leads.cases_head with same | ⟨next, merged, -⟩
    · exact same
    · exact absurd merged (unmerged grant isGrant isUsed next)

theorem Unmerged.updateGrants {selected : LoyaltyGrant → Bool}
    {change : LoyaltyGrant → LoyaltyGrant} (unmerged : data.Unmerged)
    (changes : GrantChange selected change) : (data.updateGrants selected change).Unmerged := by
  intro grant isGrant isUsed
  obtain ⟨before, isBefore, rfl⟩ := List.mem_map.1 isGrant
  split
  next isSelected =>
    rw [(changes.follows before).customerId]
    exact unmerged before isBefore (changes.isUsed isSelected)
  next unselected =>
    rw [if_neg unselected] at isUsed
    exact unmerged before isBefore isUsed

theorem Unmerged.insertGrant {grant : LoyaltyGrant} (unmerged : data.Unmerged)
    (isOwn : ∀ customerId, ¬ data.MergesInto grant.customerId customerId) :
    (data.insertGrant grant).Unmerged := by
  intro other isOther isUsed
  rcases List.mem_append.1 isOther with earlier | isLast
  · exact unmerged other earlier isUsed
  · cases List.mem_singleton.1 isLast
    exact isOwn

theorem mergesInto_mergeLoyalty {input : MergeInput} {rebuiltSpend : Option ℚ} {now : Instant}
    {source target : Id} (merged : (input.mergeLoyalty rebuiltSpend now data).MergesInto source target) :
    data.MergesInto source target ∨ source ∈ input.sourceCustomerIds := by
  obtain ⟨customer, isCustomer, rfl, into⟩ := merged
  obtain ⟨traded, isTraded, rfl⟩ := List.mem_map.1 isCustomer
  obtain ⟨before, isBefore, same⟩ := List.mem_map.1 isTraded
  have stays : traded.id = before.id ∧ traded.mergedIntoId = before.mergedIntoId := by
    rw [← same]
    split <;> exact ⟨rfl, rfl⟩
  split at into
  next isSource =>
    right
    rw [if_pos isSource]
    exact of_decide_eq_true (Bool.and_eq_true_iff.1 isSource).2
  next other =>
    left
    rw [if_neg other]
    exact ⟨before, isBefore, stays.1.symm, stays.2.symm.trans into⟩

theorem Unmerged.mergeLoyalty {input : MergeInput} {rebuiltSpend : Option ℚ} {now : Instant}
    (unmerged : data.Unmerged) (spares : ∀ grant ∈ data.grants, grant.isUsed = true →
      grant.customerId ∉ input.sourceCustomerIds) :
    (input.mergeLoyalty rebuiltSpend now data).Unmerged := by
  intro grant isGrant isUsed customerId merged
  rcases mergesInto_mergeLoyalty merged with earlier | isSource
  · exact unmerged grant isGrant isUsed customerId earlier
  · exact spares grant isGrant isUsed isSource

end LoyaltyData

section

variable [Sha256] {traffic : LoyaltyCallId → LoyaltyTraffic}

theorem unmerged_of_move {move : Move LoyaltyCallId LoyaltyStore}
    (step : ActStep move.session (traffic move.session).Writes move.before move.after)
    (spares : SparesGrants traffic move) (unmerged : move.before.data.Unmerged) :
    move.after.data.Unmerged := by
  rcases step.data with unchanged | written
  · rw [unchanged]
    exact unmerged
  have kept : ∀ {data data' : LoyaltyData} {now : Instant}, data.Unmerged →
      LoyaltyWrite data now data' → data'.Unmerged := by
    intro data data' now unmerged write
    cases write with
    | grants changes => exact unmerged.updateGrants changes
    | benefit changed update => exact unmerged
  cases isTraffic : traffic move.session with
  | merge input rebuiltSpend =>
    rw [isTraffic] at written
    obtain ⟨accepted, merged⟩ := written
    rw [merged]
    exact unmerged.mergeLoyalty (spares.merge input rebuiltSpend isTraffic accepted)
  | loyalty asked =>
    rw [isTraffic] at written
    cases asked with
    | issue input =>
      obtain ⟨benefit, idempotencyKey, now, inserted⟩ := written
      by_cases unchanged : move.after.data = move.before.data
      · rw [unchanged]
        exact unmerged
      · rw [inserted]
        exact unmerged.insertGrant (spares.issue input isTraffic unchanged)
    | redeem | void | expire | update => exact kept unmerged written

variable [UnicodeCase]

theorem accepted_of_merge {input : MergeInput} {rebuiltSpend : Option ℚ}
    {move : Move LoyaltyCallId LoyaltyStore} (isMerge : traffic move.session = .merge input rebuiltSpend)
    (step : ActStep move.session (traffic move.session).Writes move.before move.after)
    (spares : SparesGrants traffic move) {redeem : RedeemLoyaltyGrantInput} {call : LoyaltyCallId}
    {grant : LoyaltyGrant}
    (found : move.before.data.grantOf? redeem.restaurantId redeem.grantId = some grant)
    (isIssued : grant.status = .ISSUED) (accepted : redeem.Accepted call move.before) :
    redeem.Accepted call move.after := by
  have isUsed : grant.isUsed = true := by simp [LoyaltyGrant.isUsed, isIssued]
  have isFound := (Option.filter_eq_some_iff.1 found).1
  rw [redeem.accepted_iff found isIssued] at accepted
  have written := step.data
  rw [isMerge] at written
  rcases written with unchanged | ⟨allowed, merged⟩
  · rw [← unchanged] at found
    rw [redeem.accepted_iff found isIssued]
    exact ⟨accepted.code, accepted.note, unchanged ▸ accepted.reservation, step.now ▸ accepted.inTime⟩
  have isOther := spares.merge input rebuiltSpend isMerge allowed grant
    (KeyedRows.mem_of_lookup isFound) isUsed
  have found' : move.after.data.grantOf? redeem.restaurantId redeem.grantId = some grant := by
    rw [merged]
    exact found
  rw [redeem.accepted_iff found' isIssued]
  refine ⟨accepted.code, accepted.note, ?_, step.now ▸ accepted.inTime⟩
  intro wanted isWanted
  obtain ⟨reservation, isRow, isId, ofRestaurant, ofCustomer, stands⟩ :=
    accepted.reservation wanted isWanted
  refine ⟨reservation, ?_, isId, ofRestaurant, ofCustomer, stands⟩
  rw [merged]
  refine List.mem_map.2 ⟨reservation, isRow, if_neg ?_⟩
  simp [MergeInput.movesReservation, MergeInput.merges, ofCustomer, isOther]

variable {store : LoyaltyStore} {moves : List (Move LoyaltyCallId LoyaltyStore)}
variable {c : Config LoyaltyCallId LoyaltyStore LoyaltyTrafficAnswer}

/-- As long as no profile with grants is merged, grants are redeemed and counted as before. -/
theorem grants_survive (unmerged : store.data.Unmerged)
    (run : (loyaltyTrafficSystem traffic).Run (.initial store) moves c)
    (spares : ∀ move ∈ moves, SparesGrants traffic move) :
    GrantsSurvive traffic store.data moves := by
  have steps := actSteps_of_run (fun call => (traffic call).prog_acts) run
  have kept : ∀ move ∈ moves, move.before.data.Unmerged → move.after.data.Unmerged :=
    fun move isMove => unmerged_of_move (steps move isMove) (spares move isMove)
  constructor
  · intro move isMove merged rebuiltSpend isMerge input call grant found isIssued accepted
    exact accepted_of_merge isMerge (steps move isMove) (spares move isMove) found isIssued accepted
  · intro data isData
    exact ((kept_of_moves unmerged run kept).2 data isData).counted

end

section

attribute [local instance] UnicodeCase.ascii Sha256.plain

/-- Two profiles of one guest; one of them has a coffee and a table. -/
def guestTwice (owner : Id) : LoyaltyStore where
  data :=
    { benefits := [⟨"b", "r", "cafe", "Café", none, .ANY, none, none, "EUR", 30, 1, .ACTIVE⟩]
      grants := [{
        id := "g", restaurantId := "r", benefitId := "b", customerId := owner
        reservationId := none, idempotencyKey := none
        codeHash := hashLoyaltyCode "0123456789AB", status := .ISSUED, issuedAt := 0
        expiresAt := 100, redeemedAt := none, voidedAt := none, redemptionNote := none
        issuedByHash := "staff", redeemedByHash := none }]
      customers := [⟨"s", "r", none, none, false, none, none⟩, ⟨"t", "r", none, none, false, none, none⟩]
      reservations := [⟨"v", "r", some owner, .CONFIRMED, .CONFIRMED, some 50, 0⟩] }
  now := 10
  owner _ := none

def guestOnce (_ : LoyaltyCallId) : LoyaltyTraffic :=
  .merge ⟨"r", "t", ["s"], none⟩ none

def coffeeAtTable : RedeemLoyaltyGrantInput where
  restaurantId := "r"
  grantId := "g"
  code := "0123456789AB"
  reservationId := some "v"
  actor := "staff"
  note := none
  now := none

/-- The coffee of the source is not had at its table any more, once the table is the target's. -/
theorem not_grantsSurvive_guestOnce :
    ∃ moves c, (loyaltyTrafficSystem guestOnce).Run (.initial (guestTwice "s")) moves c ∧
      ¬ GrantsSurvive guestOnce (guestTwice "s").data moves := by
  obtain ⟨moves, c, run, move, isMove, before, after, issued⟩ :=
    (loyaltyTrafficSystem guestOnce).exists_run_of_schedule [0, 0] (.initial (guestTwice "s"))
      (fun moves _ => ∃ move ∈ moves,
        ((coffeeAtTable.redeemLoyaltyGrant 1).run move.before).map (·.1.isOk) = some true ∧
        ((coffeeAtTable.redeemLoyaltyGrant 1).run move.after).map (·.1.isOk) = some false ∧
        (move.before.data.grantOf? "r" "g").map (·.status) = some .ISSUED) (by decide +kernel)
  refine ⟨moves, c, run, fun survive => ?_⟩
  obtain ⟨grant, isGrant, isIssued⟩ := Option.map_eq_some_iff.1 issued
  have accepted := survive.accepted move isMove _ _ rfl coffeeAtTable 1 grant
    isGrant isIssued (coffeeAtTable.accepted_iff_isOk.2 before)
  rw [coffeeAtTable.accepted_iff_isOk, after] at accepted
  cases accepted

theorem unmerged_guestTwice (owner : Id) : (guestTwice owner).data.Unmerged := by
  rintro grant _ _ customerId ⟨customer, isCustomer, -, into⟩
  simp only [guestTwice, List.mem_cons, List.not_mem_nil, or_false] at isCustomer
  rcases isCustomer with rfl | rfl <;> cases into

/-- The target keeps what it has. -/
theorem grants_survive_guestOnce :
    ∃ moves c, (loyaltyTrafficSystem guestOnce).Run (.initial (guestTwice "t")) moves c ∧
      moves ≠ [] ∧ GrantsSurvive guestOnce (guestTwice "t").data moves := by
  obtain ⟨moves, c, run, acted, owners⟩ :=
    (loyaltyTrafficSystem guestOnce).exists_run_of_schedule [0, 0] (.initial (guestTwice "t"))
      (fun moves _ => moves ≠ [] ∧
        ∀ move ∈ moves, move.before.data.grants.map (·.customerId) = ["t"]) (by decide +kernel)
  refine ⟨moves, c, run, acted, ?_⟩
  refine grants_survive (unmerged_guestTwice "t") run fun move isMove => ?_
  constructor
  · intro input rebuiltSpend isMerge _ grant isGrant _
    cases isMerge
    have isOwner := List.mem_map_of_mem (f := (·.customerId)) isGrant
    rw [owners move isMove, List.mem_singleton] at isOwner
    simp [isOwner]
  · intro input isIssue
    cases isIssue

end

end Sokar
