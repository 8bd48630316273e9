import Sokar.Library.QuietPrograms
import Sokar.Loyalty.Benefits

/-!
# The limit of a benefit

Any number of calls issue, redeem, void and expire grants and change benefits, statement by
statement in any interleaving.  Whoever issues a grant counts those of the customer under a
lock; without it, fewer of them count.  So as long as the limit of a benefit is not lowered,
no customer has more grants of it than that.

Only an issued grant is ever changed.  So no grant is redeemed twice, or once it was voided or
has expired.
-/

namespace Sokar

open Process Transaction Transaction.Access

inductive LoyaltyCall where
  | issue (input : IssueLoyaltyGrantInput)
  | redeem (input : RedeemLoyaltyGrantInput)
  | void (input : VoidLoyaltyGrantInput)
  | expire (input : ExpireLoyaltyGrantsInput)
  | update (input : UpdateLoyaltyBenefitInput)

inductive LoyaltyAnswer where
  | grant (result : LoyaltyGrantMutationResult)
  | voided (grant : LoyaltyGrant)
  | expired (count : Nat)
  | benefit (benefit : LoyaltyBenefit)
  deriving DecidableEq

section

variable [Sha256] [UnicodeCase]

def LoyaltyCall.prog (call : LoyaltyCallId) :
    LoyaltyCall → LoyaltyProg (Except LoyaltyFailure LoyaltyAnswer)
  | .issue input => (input.issueLoyaltyGrant call).andThen fun result => pure (.ok (.grant result))
  | .redeem input =>
    (input.redeemLoyaltyGrant call).andThen fun result => pure (.ok (.grant result))
  | .void input => (input.voidLoyaltyGrant call).andThen fun grant => pure (.ok (.voided grant))
  | .expire input =>
    (input.expireLoyaltyGrants call).andThen fun count => pure (.ok (.expired count))
  | .update input =>
    (input.updateLoyaltyBenefit call).andThen fun benefit => pure (.ok (.benefit benefit))

def loyaltySystem (calls : LoyaltyCallId → LoyaltyCall) :
    System LoyaltyCallId LoyaltyStore (Except LoyaltyFailure LoyaltyAnswer) :=
  system fun call => (calls call).prog call

end

/-- What an issued grant may be changed to. -/
structure LoyaltyGrant.Follows (before after : LoyaltyGrant) : Prop where
  id : after.id = before.id
  restaurantId : after.restaurantId = before.restaurantId
  benefitId : after.benefitId = before.benefitId
  customerId : after.customerId = before.customerId

def LoyaltyGrant.InTime (grant : LoyaltyGrant) : Prop :=
  ∃ redeemedAt, grant.redeemedAt = some redeemedAt ∧ redeemedAt < grant.expiresAt

namespace LoyaltyData

variable {data data' data'' : LoyaltyData} {benefitId : Id}

/-- The grants of a benefit that count against the limit of a customer, in any restaurant. -/
def usesOf (data : LoyaltyData) (benefitId customerId : Id) : Nat :=
  data.grants.countP fun grant =>
    grant.benefitId == benefitId && grant.customerId == customerId && grant.isUsed

/-- The benefit is one of a restaurant, and each of its customers may have as many. -/
def Offers (data : LoyaltyData) (restaurantId benefitId : Id) (uses : Nat) : Prop :=
  ∃ benefit, data.benefit? benefitId = some benefit ∧ benefit.restaurantId = restaurantId ∧
    uses ≤ benefit.maxUsesPerCustomer

def KeepsLimit (benefitId : Id) (data data' : LoyaltyData) : Prop :=
  ∀ benefit, data.benefit? benefitId = some benefit → ∃ benefit',
    data'.benefit? benefitId = some benefit' ∧
      benefit.maxUsesPerCustomer ≤ benefit'.maxUsesPerCustomer

/-- No customer has more grants of the benefit than its limit. -/
def WithinLimit (benefitId : Id) (data : LoyaltyData) : Prop :=
  ∀ benefit, data.benefit? benefitId = some benefit → ∀ customerId,
    data.usesOf benefitId customerId ≤ benefit.maxUsesPerCustomer

/-- The grants of the benefit are of its restaurant. -/
def Located (benefitId : Id) (data : LoyaltyData) : Prop :=
  ∀ benefit, data.benefit? benefitId = some benefit → ∀ grant ∈ data.grants,
    grant.benefitId = benefitId → grant.restaurantId = benefit.restaurantId

/-- What holds of the grants of a benefit at any time. -/
structure Sound (benefitId : Id) (data : LoyaltyData) : Prop where
  located : data.Located benefitId
  within : data.WithinLimit benefitId

/-- A grant that is redeemed was so before, or was then issued and had not run out. -/
def RedeemsIssued (data data' : LoyaltyData) : Prop :=
  ∀ grantId grant, data'.grant? grantId = some grant → grant.status = .REDEEMED →
    data.grant? grantId = some grant ∨
      grant.InTime ∧ ∀ before, data.grant? grantId = some before → before.status = .ISSUED

/-- The benefit stays on offer, and only issued grants are changed. -/
structure Evolves (benefitId : Id) (data data' : LoyaltyData) : Prop where
  offers : ∀ {restaurantId uses}, data.Offers restaurantId benefitId uses →
    data'.Offers restaurantId benefitId uses
  ended : ∀ {grantId grant}, data.grant? grantId = some grant → grant.status ≠ .ISSUED →
    data'.grant? grantId = some grant
  redeems : RedeemsIssued data data'

theorem Evolves.refl (benefitId : Id) (data : LoyaltyData) : Evolves benefitId data data where
  offers isOffered := isOffered
  ended found _ := found
  redeems _ _ found _ := .inl found

theorem Evolves.trans (first : Evolves benefitId data data')
    (second : Evolves benefitId data' data'') : Evolves benefitId data data'' where
  offers isOffered := second.offers (first.offers isOffered)
  ended found notIssued := second.ended (first.ended found notIssued) notIssued
  redeems grantId grant found isRedeemed := by
    rcases second.redeems grantId grant found isRedeemed with stood | ⟨inTime, issued⟩
    · exact first.redeems grantId grant stood isRedeemed
    · refine .inr ⟨inTime, fun before isBefore => ?_⟩
      by_contra notIssued
      exact notIssued (issued before (first.ended isBefore notIssued))

end LoyaltyData

open LoyaltyData

/-- Without the lock of a customer and a benefit, no grants are added to those that count. -/
def loyaltyParts (benefitId : Id) : Parts LoyaltyData LoyaltyLock where
  same
    | .uses restaurantId benefitId customerId => fun data data' =>
      data'.used restaurantId benefitId customerId ≤ data.used restaurantId benefitId customerId
  evolves := Evolves benefitId
  same_refl
    | .uses _ _ _, _ => le_rfl
  evolves_refl := .refl benefitId
  same_trans {lock _ _ _} first second := by
    cases lock with
    | uses restaurantId benefitId customerId => exact le_trans second first
  evolves_trans := Evolves.trans

/-- Calls that keep to the limit of a benefit as long as it is not lowered. -/
def loyaltyAccess (benefitId : Id) : Access LoyaltyData LoyaltyLock LoyaltyCallId :=
  (loyaltyParts benefitId).accessWhen (Sound benefitId)
    fun _ _ _ data data' => KeepsLimit benefitId data data'

/-- The grants stay within the limit, and only those whose lock is held are added to. -/
structure LimitKept (benefitId : Id) (owned : Set LoyaltyLock) (data data' : LoyaltyData) : Prop where
  sound : data'.Sound benefitId
  writes : (loyaltyParts benefitId).Writes owned data data'

section

variable {data data' : LoyaltyData} {benefitId : Id} {owned : Set LoyaltyLock}

/-- Only issued grants are changed, and redeemed only before they run out. -/
structure GrantChange (selected : LoyaltyGrant → Bool) (change : LoyaltyGrant → LoyaltyGrant) :
    Prop where
  follows : ∀ grant : LoyaltyGrant, grant.Follows (change grant)
  issued : ∀ grant, selected grant = true → grant.status = .ISSUED
  inTime : ∀ grant, selected grant = true → (change grant).status = .REDEEMED →
    (change grant).InTime

namespace GrantChange

variable {selected : LoyaltyGrant → Bool} {change : LoyaltyGrant → LoyaltyGrant}

section

variable (changes : GrantChange selected change)
include changes

theorem isUsed {grant : LoyaltyGrant} (isSelected : selected grant = true) :
    grant.isUsed = true := by
  simp [LoyaltyGrant.isUsed, changes.issued grant isSelected]

theorem usesOf_le (benefitId customerId : Id) :
    (data.updateGrants selected change).usesOf benefitId customerId ≤
      data.usesOf benefitId customerId := by
  apply KeyedRows.countP_update_le
  intro grant _ isSelected isCounted
  have follows := changes.follows grant
  simp only [follows.benefitId, follows.customerId, Bool.and_eq_true] at isCounted ⊢
  exact ⟨isCounted.1, changes.isUsed isSelected⟩

theorem used_le (restaurantId benefitId customerId : Id) :
    (data.updateGrants selected change).used restaurantId benefitId customerId ≤
      data.used restaurantId benefitId customerId := by
  apply KeyedRows.countP_update_le
  intro grant _ isSelected isCounted
  have follows := changes.follows grant
  simp only [follows.restaurantId, follows.benefitId, follows.customerId, Bool.and_eq_true]
    at isCounted ⊢
  exact ⟨isCounted.1, changes.isUsed isSelected⟩

theorem grant?_updateGrants (grantId : Id) : (data.updateGrants selected change).grant? grantId =
      (data.grant? grantId).map fun grant => if selected grant then change grant else grant :=
  KeyedRows.lookup_update selected fun grant => (changes.follows grant).id

theorem located (located : data.Located benefitId) :
    (data.updateGrants selected change).Located benefitId := by
  intro benefit found grant isGrant ofBenefit
  obtain ⟨before, isBefore, same⟩ := List.mem_map.1 isGrant
  subst same
  by_cases isSelected : selected before = true
  · rw [if_pos isSelected, (changes.follows before).benefitId] at ofBenefit
    rw [if_pos isSelected, (changes.follows before).restaurantId]
    exact located benefit found before isBefore ofBenefit
  · rw [if_neg isSelected] at ofBenefit ⊢
    exact located benefit found before isBefore ofBenefit

theorem evolves : Evolves benefitId data (data.updateGrants selected change) := by
  constructor
  · exact fun isOffered => isOffered
  · intro grantId grant found notIssued
    have unselected : ¬selected grant = true :=
      fun isSelected => notIssued (changes.issued grant isSelected)
    rw [changes.grant?_updateGrants, found, Option.map_some, if_neg unselected]
  · intro grantId grant found isRedeemed
    rw [changes.grant?_updateGrants, Option.map_eq_some_iff] at found
    obtain ⟨before, isBefore, same⟩ := found
    split at same
    next isSelected =>
      subst same
      refine .inr ⟨changes.inTime before isSelected isRedeemed, fun other isOther => ?_⟩
      cases isBefore.symm.trans isOther
      exact changes.issued before isSelected
    next => exact .inl (same ▸ isBefore)

theorem kept (sound : data.Sound benefitId) :
    LimitKept benefitId owned data (data.updateGrants selected change) := by
  constructor
  · constructor
    · exact changes.located sound.located
    · intro benefit found customerId
      exact (changes.usesOf_le benefitId customerId).trans (sound.within benefit found customerId)
  · constructor
    · exact changes.evolves
    · intro lock _
      cases lock with
      | uses restaurantId benefitId customerId => exact changes.used_le _ _ _

end

end GrantChange

theorem benefit?_updateBenefit (data : LoyaltyData) (changed : Id) (update : LoyaltyBenefitUpdate)
    (benefitId : Id) :
    (data.updateBenefit changed update.set).benefit? benefitId =
      if benefitId = changed then (data.benefit? benefitId).map update.set
      else data.benefit? benefitId :=
  KeyedRows.lookup_update_key changed fun _ => rfl

theorem exists_of_updateBenefit {changed : Id} {update : LoyaltyBenefitUpdate}
    {benefit' : LoyaltyBenefit}
    (found : (data.updateBenefit changed update.set).benefit? benefitId = some benefit') :
    ∃ benefit, data.benefit? benefitId = some benefit ∧
      benefit'.restaurantId = benefit.restaurantId := by
  rw [benefit?_updateBenefit] at found
  split at found
  · obtain ⟨benefit, isBenefit, same⟩ := Option.map_eq_some_iff.1 found
    exact ⟨benefit, isBenefit, same ▸ rfl⟩
  · exact ⟨benefit', found, rfl⟩

theorem LimitKept.updateBenefit {changed : Id} {update : LoyaltyBenefitUpdate}
    (sound : data.Sound benefitId)
    (keepsLimit : KeepsLimit benefitId data (data.updateBenefit changed update.set)) :
    LimitKept benefitId owned data (data.updateBenefit changed update.set) := by
  constructor
  · constructor
    · intro benefit' found' grant isGrant ofBenefit
      obtain ⟨benefit, found, sameRestaurant⟩ := exists_of_updateBenefit found'
      rw [sameRestaurant]
      exact sound.located benefit found grant isGrant ofBenefit
    · intro benefit' found' customerId
      obtain ⟨benefit, found, -⟩ := exists_of_updateBenefit found'
      obtain ⟨later, isLater, notLower⟩ := keepsLimit benefit found
      cases found'.symm.trans isLater
      exact (sound.within benefit found customerId).trans notLower
  · constructor
    · constructor
      · intro restaurantId uses ⟨benefit, found, ofRestaurant, enough⟩
        obtain ⟨benefit', found', notLower⟩ := keepsLimit benefit found
        obtain ⟨before, isBefore, sameRestaurant⟩ := exists_of_updateBenefit found'
        cases found.symm.trans isBefore
        exact ⟨benefit', found', sameRestaurant.trans ofRestaurant, enough.trans notLower⟩
      · exact fun found _ => found
      · exact fun _ _ found _ => .inl found
    · intro lock _
      exact (loyaltyParts benefitId).same_refl lock data

theorem usesOf_eq_used (located : data.Located benefitId) {benefit : LoyaltyBenefit}
    (found : data.benefit? benefitId = some benefit) (customerId : Id) :
    data.usesOf benefitId customerId = data.used benefit.restaurantId benefitId customerId := by
  apply List.countP_congr
  intro grant isGrant
  simp only [Bool.and_eq_true, beq_iff_eq]
  constructor
  · intro counted
    exact ⟨⟨⟨located benefit found grant isGrant counted.1.1, counted.1.1⟩, counted.1.2⟩, counted.2⟩
  · exact fun counted => ⟨⟨counted.1.1.2, counted.1.2⟩, counted.2⟩

/-- The customer has fewer grants of a benefit than an offer allows. -/
structure MayIssue (benefitId : Id) (grant : LoyaltyGrant) (uses : Nat) (data : LoyaltyData) :
    Prop where
  offered : grant.benefitId = benefitId → data.Offers grant.restaurantId benefitId uses
  fewer : data.used grant.restaurantId grant.benefitId grant.customerId < uses

theorem LimitKept.insertGrant {grant : LoyaltyGrant} {uses : Nat} (sound : data.Sound benefitId)
    (mayIssue : MayIssue benefitId grant uses data) (isIssued : grant.status = .ISSUED)
    (locked : .uses grant.restaurantId grant.benefitId grant.customerId ∈ owned) :
    LimitKept benefitId owned data (data.insertGrant grant) := by
  have added : ∀ counted : LoyaltyGrant → Bool, (data.insertGrant grant).grants.countP counted =
      data.grants.countP counted + if counted grant then 1 else 0 := by
    intro counted
    simp [LoyaltyData.insertGrant, List.countP_append, List.countP_singleton]
  have found? : ∀ grantId, (data.insertGrant grant).grant? grantId =
      (data.grant? grantId).or (if grant.id = grantId then some grant else none) :=
    fun _ => KeyedRows.lookup_append grant
  constructor
  · constructor
    · intro benefit found other isOther ofBenefit
      rcases List.mem_append.1 isOther with before | last
      · exact sound.located benefit found other before ofBenefit
      · cases List.mem_singleton.1 last
        obtain ⟨offered, isOffered, ofRestaurant, -⟩ := mayIssue.offered ofBenefit
        cases found.symm.trans isOffered
        exact ofRestaurant.symm
    · intro benefit found customerId
      have before := sound.within benefit found customerId
      rw [usesOf, added]
      split
      next counts =>
        -- the new grant counts for this customer, who has fewer than the benefit allows
        simp only [Bool.and_eq_true, beq_iff_eq] at counts
        obtain ⟨⟨ofBenefit, ofCustomer⟩, -⟩ := counts
        obtain ⟨offered, isOffered, ofRestaurant, enough⟩ := mayIssue.offered ofBenefit
        cases found.symm.trans isOffered
        have fewer := mayIssue.fewer
        rw [ofBenefit, ofCustomer, ← ofRestaurant, ← usesOf_eq_used sound.located found] at fewer
        exact (Nat.succ_le_of_lt fewer).trans enough
      next => exact before
  · constructor
    · constructor
      · exact fun isOffered => isOffered
      · intro grantId other found _
        rw [found?, found, Option.some_or]
      · intro grantId other found isRedeemed
        rw [found?, Option.or_eq_some_iff] at found
        rcases found with before | ⟨-, last⟩
        · exact .inl before
        · split at last
          · cases last
            cases isIssued.symm.trans isRedeemed
          · cases last
    · intro lock outside
      cases lock with
      | uses restaurantId other customerId =>
        have uncounted : ¬(grant.restaurantId == restaurantId && grant.benefitId == other &&
            grant.customerId == customerId && grant.isUsed) = true := by
          intro counts
          simp only [Bool.and_eq_true, beq_iff_eq] at counts
          obtain ⟨⟨⟨rfl, rfl⟩, rfl⟩, -⟩ := counts
          exact outside locked
        change (data.insertGrant grant).used restaurantId other customerId ≤ _
        rw [used, added, if_neg uncounted]
        exact le_rfl

end

/-- What calls other than those that issue write. -/
inductive LoyaltyWrite : LoyaltyData → Instant → LoyaltyData → Prop where
  | grants {selected : LoyaltyGrant → Bool} {change : LoyaltyGrant → LoyaltyGrant}
      (changes : GrantChange selected change) (data : LoyaltyData) (now : Instant) :
      LoyaltyWrite data now (data.updateGrants selected change)
  | benefit (changed : Id) (update : LoyaltyBenefitUpdate) (data : LoyaltyData) (now : Instant) :
      LoyaltyWrite data now (data.updateBenefit changed update.set)

theorem GrantChange.of_expired {selected : LoyaltyGrant → Bool}
    (issued : ∀ grant, selected grant = true → grant.status = .ISSUED) :
    GrantChange selected (·.expired) where
  follows _ := ⟨rfl, rfl, rfl, rfl⟩
  issued := issued
  inTime _ _ isRedeemed := by cases isRedeemed

variable {call : LoyaltyCallId}

theorem quiet_loyaltyNow (given : Option Instant) : Quiet call (loyaltyNow given) := by
  cases given with
  | none => exact Quiet.query fun _ now => now
  | some now => exact Quiet.pure _

theorem quiet_assertCustomerEligible (restaurantId customerId : Id) (benefit : LoyaltyBenefit)
    (now : Instant) : Quiet call (assertCustomerEligible restaurantId customerId benefit now) := by
  refine Quiet.found (Quiet.pure _) fun customer => ?_
  cases benefit.rule with
  | MIN_VISITS => exact Quiet.bind (Quiet.query _) fun visits => Quiet.pure _
  | ANY | VIP | BIRTHDAY_MONTH | MIN_ESTIMATED_SPEND => exact Quiet.pure _

theorem quiet_assertReservationForCustomer (restaurantId customerId : Id)
    (reservationId : Option Id) :
    Quiet call (assertReservationForCustomer restaurantId customerId reservationId) := by
  unfold assertReservationForCustomer
  split
  · exact Quiet.pure _
  · exact Quiet.bind (Quiet.query _) fun stands => Quiet.pure _

namespace RedeemLoyaltyGrantInput

variable (input : RedeemLoyaltyGrantInput)

variable (current : LoyaltyGrant)

theorem expires_changes : GrantChange (input.expires current) (·.expired) := by
  apply GrantChange.of_expired
  intro grant isSelected
  simp only [expires, Bool.and_eq_true, beq_iff_eq] at isSelected
  exact isSelected.2

theorem redeems_changes (now : Instant) (actorHash : String) (note : Option (Option String)) :
    GrantChange (input.redeems current now) (·.redeemed now actorHash input.reservationId note) := by
  constructor
  · exact fun _ => ⟨rfl, rfl, rfl, rfl⟩
  · intro grant isSelected
    simp only [redeems, Bool.and_eq_true, beq_iff_eq] at isSelected
    exact isSelected.1.1.2
  · intro grant isSelected _
    simp only [redeems, Bool.and_eq_true, decide_eq_true_eq] at isSelected
    exact ⟨now, rfl, isSelected.1.2⟩

variable [Sha256]

theorem redeem_acts (note : Option (Option String)) (now : Instant) :
    Acts call LoyaltyWrite (input.redeem call current note now) := by
  apply Acts.bind
  · exact Acts.commit fun data at_ =>
      .inr (.grants (input.redeems_changes current now _ note) data at_)
  intro updated
  apply Acts.bind (Acts.query _)
  intro row
  split
  · exact Acts.pure _
  · exact Acts.pure _

theorem redeemLoyaltyGrant_acts [UnicodeCase] :
    Acts call LoyaltyWrite (input.redeemLoyaltyGrant call) := by
  apply Acts.bind (Acts.of_quiet (quiet_loyaltyNow input.now))
  intro now
  split
  · exact Acts.pure _
  · exact Acts.pure _
  next code note _ _ =>
    refine Acts.found (Acts.pure _) fun current => ?_
    dsimp only
    split
    · exact Acts.pure _
    apply (Acts.of_quiet (quiet_assertReservationForCustomer _ _ _)).andThen
    intro _
    split
    · exact Acts.pure _
    split
    · exact Acts.pure _
    split
    · apply Acts.bind
      · exact Acts.commit fun data at_ => .inr (.grants (input.expires_changes current) data at_)
      · exact fun _ => Acts.pure _
    · exact input.redeem_acts current note now

end RedeemLoyaltyGrantInput

theorem VoidLoyaltyGrantInput.voids_changes (input : VoidLoyaltyGrantInput) (now : Instant)
    (note : Option (Option String)) (actorHash : String) :
    GrantChange input.voids (·.voided now note actorHash) := by
  constructor
  · exact fun _ => ⟨rfl, rfl, rfl, rfl⟩
  · intro grant isSelected
    simp only [voids, Bool.and_eq_true, beq_iff_eq] at isSelected
    exact isSelected.2
  · exact fun _ _ isRedeemed => nomatch isRedeemed

theorem VoidLoyaltyGrantInput.voidLoyaltyGrant_acts [Sha256] (input : VoidLoyaltyGrantInput) :
    Acts call LoyaltyWrite (input.voidLoyaltyGrant call) := by
  unfold voidLoyaltyGrant
  split
  · exact Acts.pure _
  next note _ =>
    apply Acts.bind (Acts.of_quiet (quiet_loyaltyNow input.now))
    intro voidedAt
    apply Acts.bind
    · exact Acts.commit fun data now => .inr (.grants (input.voids_changes voidedAt note _) data now)
    intro updated
    exact Acts.bind (Acts.query _) fun row => Acts.pure _

theorem ExpireLoyaltyGrantsInput.expireLoyaltyGrants_acts (input : ExpireLoyaltyGrantsInput) :
    Acts call LoyaltyWrite (input.expireLoyaltyGrants call) := by
  apply Acts.bind (Acts.of_quiet (quiet_loyaltyNow input.now))
  intro now
  apply Acts.bind (Acts.query _)
  intro rows
  split
  · exact Acts.pure _
  · apply Acts.bind
    · apply Acts.commit
      intro data at_
      refine .inr (.grants (GrantChange.of_expired ?_) data at_)
      intro grant isSelected
      simp only [Bool.and_eq_true, beq_iff_eq] at isSelected
      exact isSelected.2
    · exact fun count => Acts.pure _

theorem UpdateLoyaltyBenefitInput.updateLoyaltyBenefit_acts [UnicodeCase]
    (input : UpdateLoyaltyBenefitInput) :
    Acts call LoyaltyWrite (input.updateLoyaltyBenefit call) := by
  refine Acts.found (Acts.pure _) fun current => ?_
  dsimp only
  split
  · exact Acts.pure _
  split
  · exact Acts.pure _
  apply Acts.andThen
  · exact Acts.commitUnless fun data now _ => .inr (.benefit current.id _ data now)
  · exact fun row => Acts.pure _

variable {benefitId : Id}

theorem LoyaltyWrite.kept {data data' : LoyaltyData} {now : Instant} {owned : Set LoyaltyLock}
    (write : LoyaltyWrite data now data') (sound : data.Sound benefitId)
    (keepsLimit : KeepsLimit benefitId data data') : LimitKept benefitId owned data data' := by
  cases write with
  | grants changes => exact changes.kept sound
  | benefit changed update => exact LimitKept.updateBenefit sound keepsLimit

theorem runs_of_acts {α : Type} {prog : LoyaltyProg (Except LoyaltyFailure α)}
    (acts : Acts call LoyaltyWrite prog) : (loyaltyAccess benefitId).Serves call prog := by
  apply acts.runs
  intro owned data now data' sound write keepsLimit
  have kept : LimitKept benefitId owned data data' := write.kept sound keepsLimit
  exact ⟨kept.sound, kept.writes⟩

namespace IssueLoyaltyGrantInput

variable (input : IssueLoyaltyGrantInput)

/-- The benefit that was read is still on offer, if it is the one. -/
def Offered (benefitId : Id) (benefit : LoyaltyBenefit) (data : LoyaltyData) : Prop :=
  benefit.id = benefitId →
    data.Offers input.restaurantId benefitId benefit.maxUsesPerCustomer

variable (benefitId) in
theorem protects_offered (benefit : LoyaltyBenefit) (owned : Set LoyaltyLock) :
    (loyaltyAccess benefitId).Protects owned fun data _ => input.Offered benefitId benefit data :=
  Parts.protects_of_evolves fun evolves offered isBenefit => evolves.offers (offered isBenefit)

/-- The customer has fewer grants than the benefit allows. -/
def Fewer (benefit : LoyaltyBenefit) (data : LoyaltyData) : Prop :=
  data.used input.restaurantId benefit.id input.customerId < benefit.maxUsesPerCustomer

variable (benefitId) in
theorem protects_fewer (benefit : LoyaltyBenefit) :
    (loyaltyAccess benefitId).Protects {.uses input.restaurantId benefit.id input.customerId}
      fun data _ => input.Fewer benefit data :=
  Parts.protects (Set.mem_singleton _) fun same fewer => lt_of_le_of_lt same fewer

theorem limited_decides (benefit : LoyaltyBenefit) :
    (loyaltyAccess benefitId).Decides call ∅ (fun data _ => input.Offered benefitId benefit data)
      (input.limited call benefit)
      (fun _ => {.uses input.restaurantId benefit.id input.customerId})
      fun _ data _ => input.Offered benefitId benefit data ∧ input.Fewer benefit data := by
  have isOffered := input.protects_offered benefitId benefit
  have isFewer := input.protects_fewer benefitId benefit
  apply Decides.acquire (isOffered ∅)
  rw [insert_empty_eq]
  have learns : ∀ used, (loyaltyAccess benefitId).Protects
      {.uses input.restaurantId benefit.id input.customerId}
      fun data _ => used < benefit.maxUsesPerCustomer → input.Fewer benefit data :=
    fun used => isFewer.when
  apply Decides.query (isOffered _) learns
  · exact fun data _ _ _ fewer => fewer
  intro used
  split
  · exact Decides.error _
  next notReached =>
    apply Decides.ok
    · exact subset_refl _
    · exact (isOffered _).and isFewer
    · intro data now _ ⟨offered, fewer⟩
      exact ⟨offered, fewer (not_le.1 notReached)⟩

variable [Sha256]

theorem create_runs (benefit : LoyaltyBenefit) (idempotencyKey : Option String) (now : Instant) :
    (loyaltyAccess benefitId).Runs call ∅ (fun data _ => input.Offered benefitId benefit data)
      (input.create call benefit idempotencyKey now) ∅ Ends := by
  have isOffered := input.protects_offered benefitId benefit
  have isFewer := input.protects_fewer benefitId benefit
  have inserts : (loyaltyAccess benefitId).Runs call ∅
      (fun data _ => input.Offered benefitId benefit data)
      (transact call (input.limited call benefit) LoyaltyData.violation? (fun _ _ _ =>
          { grant := input.grant benefit idempotencyKey now
            code := some input.code
            replayed := false : LoyaltyGrantMutationResult })
        fun _ data _ => data.insertGrant (input.grant benefit idempotencyKey now)) ∅ Ends := by
    apply Runs.transact (input.limited_decides benefit)
    · exact fun _ => (isOffered _).and isFewer
    · exact fun _ => protects_const True
    · intro _ data at_ sound ⟨offered, fewer⟩ _ _
      have mayIssue : MayIssue benefitId (input.grant benefit idempotencyKey now)
          benefit.maxUsesPerCustomer data := ⟨offered, fewer⟩
      have kept : LimitKept benefitId
          {.uses input.restaurantId benefit.id input.customerId} data _ :=
        LimitKept.insertGrant sound mayIssue rfl (Set.mem_singleton _)
      exact ⟨kept.sound, kept.writes, trivial⟩
  apply Runs.bind inserts
  intro created
  split
  · exact Runs.glance (protects_ends _) fun raced => (ends_pure _).knowing fun _ _ _ _ => trivial
  · exact ends_pure _

theorem issueLoyaltyGrant_runs :
    (loyaltyAccess benefitId).Serves call (input.issueLoyaltyGrant call) := by
  have nothing : (loyaltyAccess benefitId).Protects ∅ fun _ _ => True := protects_const True
  apply Runs.bind ((quiet_loyaltyNow input.now).runs nothing)
  intro now
  split
  · exact ends_pure _
  next rawKey _ =>
    refine Runs.found nothing ?_ fun _ => ends_pure _
    have learns : ∀ found : Option LoyaltyBenefit, (loyaltyAccess benefitId).Protects ∅
        fun data _ => ∀ benefit, found = some benefit →
          input.Offered benefitId benefit data := by
      intro found
      apply Protects.all
      intro benefit
      exact (input.protects_offered benefitId benefit ∅).when
    apply Runs.query nothing learns
    · intro data _ _ _ benefit found isBenefit
      simp only [LoyaltyData.benefitOf?, Option.filter_eq_some_iff, beq_iff_eq] at found
      obtain ⟨⟨isFound, ofRestaurant⟩, -⟩ := found
      have sameId : benefit.id = input.benefitId := KeyedRows.key_of_lookup isFound
      rw [← sameId, isBenefit] at isFound
      exact ⟨benefit, isFound, ofRestaurant, le_rfl⟩
    intro found
    cases found with
    | none => exact ends_pure _
    | some benefit =>
      have isOffered : (loyaltyAccess benefitId).Protects ∅
          fun data _ => input.Offered benefitId benefit data :=
        input.protects_offered benefitId benefit ∅
      have isKnown : ∀ data now, (loyaltyAccess benefitId).inv data now →
          (True ∧ ∀ other, some benefit = some other → input.Offered benefitId other data) →
            input.Offered benefitId benefit data :=
        fun data _ _ known => known.2 benefit rfl
      apply Runs.knowing isKnown
      apply Runs.bind ((quiet_assertCustomerEligible _ _ _ _).runs isOffered)
      intro eligible
      cases eligible with
      | error failure => exact ends_pure _
      | ok _ =>
        apply Runs.bind ((quiet_assertReservationForCustomer _ _ _).runs isOffered)
        intro linked
        cases linked with
        | error failure => exact ends_pure _
        | ok _ => exact input.create_runs benefit _ now

end IssueLoyaltyGrantInput

variable (call) (benefitId) in
theorem LoyaltyCall.prog_runs [Sha256] [UnicodeCase] (loyalty : LoyaltyCall) :
    (loyaltyAccess benefitId).Serves call (loyalty.prog call) := by
  cases loyalty with
  | issue input => exact ends_map input.issueLoyaltyGrant_runs
  | redeem input => exact ends_map (runs_of_acts input.redeemLoyaltyGrant_acts)
  | void input => exact ends_map (runs_of_acts input.voidLoyaltyGrant_acts)
  | expire input => exact ends_map (runs_of_acts input.expireLoyaltyGrants_acts)
  | update input => exact ends_map (runs_of_acts input.updateLoyaltyBenefit_acts)

structure Redeems (grantId : Id) (grant : LoyaltyGrant)
    (move : Move LoyaltyCallId LoyaltyStore) : Prop where
  after : move.after.data.grant? grantId = some grant
  redeemed : grant.status = .REDEEMED
  before : move.before.data.grant? grantId ≠ some grant

/-- What holds of the grants of a benefit along a run. -/
structure LoyaltyKept (benefitId : Id) (start : LoyaltyData)
    (moves : List (Move LoyaltyCallId LoyaltyStore)) : Prop where
  /-- No customer ever has more grants of the benefit than its limit. -/
  limited : ∀ data ∈ history start moves, ∀ benefit, data.benefit? benefitId = some benefit →
    ∀ customerId, data.usesOf benefitId customerId ≤ benefit.maxUsesPerCustomer
  once : moves.Pairwise fun earlier later => ∀ grantId grant, Redeems grantId grant earlier →
    ∀ grant', ¬Redeems grantId grant' later
  issued : ∀ move ∈ moves, ∀ grantId grant, Redeems grantId grant move → grant.InTime ∧
    ∀ before, move.before.data.grant? grantId = some before → before.status = .ISSUED
  /-- A grant that is redeemed, void or expired stays as it is. -/
  ended : (history start moves).Pairwise fun earlier later => ∀ grantId grant,
    earlier.grant? grantId = some grant → grant.status ≠ .ISSUED →
      later.grant? grantId = some grant

section

variable [Sha256] [UnicodeCase] {calls : LoyaltyCallId → LoyaltyCall}
variable {store : LoyaltyStore} {moves : List (Move LoyaltyCallId LoyaltyStore)}
variable {c : Config LoyaltyCallId LoyaltyStore (Except LoyaltyFailure LoyaltyAnswer)}

theorem loyalty_kept (sound : store.data.Sound benefitId)
    (run : (loyaltySystem calls).Run (.initial store) moves c)
    (keepsLimit : ∀ move ∈ moves, KeepsLimit benefitId move.before.data move.after.data) :
    LoyaltyKept benefitId store.data moves := by
  have runs := fun call => (calls call).prog_runs call benefitId
  have written := (run_sound runs (sound_initial sound) run keepsLimit).2
  have evolves : ∀ move ∈ moves, Evolves benefitId move.before.data move.after.data :=
    fun move isMove => (written move isMove).writes.evolves
  have issued : ∀ move ∈ moves, ∀ grantId grant, Redeems grantId grant move → grant.InTime ∧
      ∀ before, move.before.data.grant? grantId = some before → before.status = .ISSUED := by
    intro move isMove grantId grant redeems
    rcases (evolves move isMove).redeems grantId grant redeems.after redeems.redeemed with
      stood | found
    · exact absurd stood redeems.before
    · exact found
  constructor
  · intro data isData
    rcases List.mem_cons.1 isData with rfl | isAfter
    · exact sound.within
    · obtain ⟨move, isMove, rfl⟩ := List.mem_map.1 isAfter
      exact (written move isMove).inv'.within
  · have related := moves_related (Evolves.refl benefitId)
      (fun first second => first.trans second) run evolves
    apply related.between.imp_of_mem
    intro earlier later _ isLater between grantId grant redeemed grant' again
    have notIssued : grant.status ≠ .ISSUED := by
      rw [redeemed.redeemed]
      exact fun impossible => nomatch impossible
    exact notIssued
      ((issued later isLater grantId grant' again).2 grant (between.ended redeemed.after notIssued))
  · exact issued
  · have follows := history_pairwise (fun first second => first.trans second) run evolves
    apply follows.imp
    intro earlier later evolves grantId grant found notIssued
    exact evolves.ended found notIssued

end

section

attribute [local instance] UnicodeCase.ascii Sha256.plain

/-- One coffee for each customer, and one customer. -/
def coffeeOffered : LoyaltyStore where
  data :=
    { benefits := [⟨"b", "r", "cafe", "Café", none, .ANY, none, none, "EUR", 30, 1, .ACTIVE⟩]
      grants := []
      customers := [⟨"c", "r", none, none, false, none, none⟩]
      reservations := [] }
  now := 0
  owner _ := none

/-- The coffee is issued by one call and redeemed by another. -/
def coffeeCalls (call : LoyaltyCallId) : LoyaltyCall :=
  if call = 0 then .issue ⟨"r", "b", "c", none, none, "staff", none, "g", "0123456789AB"⟩
  else .redeem ⟨"r", "g", "0123 4567 89ab", none, "staff", none, none⟩

theorem coffeeOffered_sound : coffeeOffered.data.Sound "b" := by
  constructor
  · intro benefit _ grant isGrant
    cases isGrant
  · intro benefit _ customerId
    exact Nat.zero_le _

theorem loyalty_kept_coffee :
    ∃ moves c, (loyaltySystem coffeeCalls).Run (.initial coffeeOffered) moves c ∧
      c.shared.data.grants.map (·.status) = [.REDEEMED] ∧
        LoyaltyKept "b" coffeeOffered.data moves := by
  obtain ⟨moves, c, run, redeemed, unchanged⟩ := (loyaltySystem coffeeCalls).exists_run_of_schedule
    (List.replicate 8 0 ++ List.replicate 5 1) (.initial coffeeOffered)
    (fun moves c => c.shared.data.grants.map (·.status) = [.REDEEMED] ∧
      ∀ move ∈ moves, move.after.data.benefits = move.before.data.benefits) (by decide +kernel)
  refine ⟨moves, c, run, redeemed, loyalty_kept coffeeOffered_sound run ?_⟩
  intro move isMove benefit found
  refine ⟨benefit, ?_, le_rfl⟩
  rw [LoyaltyData.benefit?, unchanged move isMove]
  exact found

end

end Sokar
