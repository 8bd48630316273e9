import Sokar.CustomerGroups.Memberships
import Sokar.Library.StepRelations

/-!
# Revoked groups

A customer is in one group of an account, whatever calls are running: an index says so.  That a
group without consent has no members depends on the order of statements.  A link checks the consent
in one statement and inserts in another; the transaction that revokes it deletes the members it
finds in one statement and ends in another.
-/

namespace Sokar.CustomerGroups

open Process Transaction

/-! ## What holds of groups -/

/-- A group without consent has no members, and a customer is in one group of an account. -/
structure GroupTables.Private (tables : GroupTables) : Prop where
  revoked : ∀ group ∈ tables.groups, group.consentStatus = .OPTED_OUT →
    ∀ membership ∈ tables.memberships, membership.groupProfileId ≠ group.id
  oneGroup : ∀ membership ∈ tables.memberships, ∀ other ∈ tables.memberships,
    ∀ group ∈ tables.groups, membership.groupProfileId = group.id →
      ∀ otherGroup ∈ tables.groups, other.groupProfileId = otherGroup.id →
        group.accountId = otherGroup.accountId → membership.customerId = other.customerId →
          group = otherGroup

/-- The accounts of the groups, which never change. -/
def GroupTables.accounts (tables : GroupTables) : List (Id × Id) :=
  tables.groups.map fun group => (group.id, group.accountId)

structure GroupTables.Sound (accounts : List (Id × Id)) (tables : GroupTables) : Prop where
  groupIds : (accounts.map Prod.fst).Nodup
  groups : tables.accounts = accounts
  memberships : (tables.memberships.map fun membership =>
    (membership.accountId, membership.customerId)).Nodup
  ofAccount : ∀ membership ∈ tables.memberships,
    (membership.groupProfileId, membership.accountId) ∈ accounts
  revoked : ∀ group ∈ tables.groups, group.consentStatus = .OPTED_OUT →
    ∀ membership ∈ tables.memberships, membership.groupProfileId ≠ group.id

variable {accounts : List (Id × Id)} {tables : GroupTables} {session : GroupSession}
  {store store' : GroupStore}

theorem GroupTables.Sound.private (sound : tables.Sound accounts) : tables.Private := by
  refine ⟨sound.revoked, ?_⟩
  intro membership isMembership other isOther group isGroup inGroup otherGroup isOtherGroup
    inOther sameAccount sameCustomer
  have ids : (tables.groups.map CustomerGroupProfile.id).Nodup := by
    have nodup := sound.groupIds
    rwa [← sound.groups, GroupTables.accounts, List.map_map] at nodup
  have account : ∀ membership ∈ tables.memberships, ∀ group ∈ tables.groups,
      membership.groupProfileId = group.id → membership.accountId = group.accountId := by
    intro membership isMembership group isGroup inGroup
    have listed := sound.ofAccount membership isMembership
    rw [← sound.groups] at listed
    obtain ⟨found, isFound, same⟩ := List.mem_map.1 listed
    obtain ⟨sameId, sameAccount⟩ := Prod.mk.inj same
    rw [← sameAccount, List.inj_on_of_nodup_map ids isFound isGroup (sameId.trans inGroup)]
  have same : membership = other := by
    refine List.inj_on_of_nodup_map sound.memberships isMembership isOther (Prod.ext ?_ sameCustomer)
    exact (account membership isMembership group isGroup inGroup).trans <|
      sameAccount.trans (account other isOther otherGroup isOtherGroup inOther).symm
  refine List.inj_on_of_nodup_map ids isGroup isOtherGroup (inGroup.symm.trans ?_)
  rw [same]
  exact inOther

/-- Nothing is written, a member is linked to a group of its account or unlinked, or a consent is
set and what the session is deleting goes. -/
inductive GroupCall.Writes (accounts : List (Id × Id)) (session : GroupSession)
    (store store' : GroupStore) : Prop where
  | nothing (same : store'.data = store.data)
  | linked (membership : CustomerGroupMembership)
      (ofAccount : (membership.groupProfileId, membership.accountId) ∈ accounts)
      (free : ∀ row ∈ store.data.memberships, membership.conflicts row = false)
      (added : store'.data = { store.data with
        memberships := store.data.memberships ++ [membership] })
  | unlinked (key : MembershipKey) (removed : store'.data = { store.data with
      memberships := store.data.memberships.filter fun row => row.key != key })
  | consented (groupId : Id) (consentStatus : CustomerGroupConsentStatus)
      (consentedAt : Option Instant) (set : store'.data = { store.data with
        groups := KeyedRows.update (fun group => group.id == groupId)
          (fun group => { group with consentStatus, consentedAt }) store.data.groups
        memberships := keptMemberships session store })

/-- A member is linked to a group whose consent is not revoked, and when it is revoked, all members
of the group are being deleted. -/
structure Undisturbed (move : Move GroupSession GroupStore) : Prop where
  linked : ∀ membership ∈ move.after.data.memberships, membership ∉ move.before.data.memberships →
    ∀ group ∈ move.before.data.groups, group.id = membership.groupProfileId →
      group.consentStatus ≠ .OPTED_OUT
  revoked : ∀ group ∈ move.before.data.groups, group.consentStatus ≠ .OPTED_OUT →
    (∃ revoked ∈ move.after.data.groups, revoked.id = group.id ∧
      revoked.consentStatus = .OPTED_OUT) →
    ∀ membership ∈ move.before.data.memberships, membership.groupProfileId = group.id →
      move.before.owner membership.key = some move.session

instance (move : Move GroupSession GroupStore) : Decidable (Undisturbed move) :=
  decidable_of_iff
    ((∀ membership ∈ move.after.data.memberships, membership ∉ move.before.data.memberships →
      ∀ group ∈ move.before.data.groups, group.id = membership.groupProfileId →
        group.consentStatus ≠ .OPTED_OUT) ∧
    ∀ group ∈ move.before.data.groups, group.consentStatus ≠ .OPTED_OUT →
      (∃ revoked ∈ move.after.data.groups, revoked.id = group.id ∧
        revoked.consentStatus = .OPTED_OUT) →
      ∀ membership ∈ move.before.data.memberships, membership.groupProfileId = group.id →
        move.before.owner membership.key = some move.session)
    ⟨fun meets => ⟨meets.1, meets.2⟩, fun meets => ⟨meets.linked, meets.revoked⟩⟩

theorem conflicts_self (membership : CustomerGroupMembership) :
    membership.conflicts membership = true := by
  simp [CustomerGroupMembership.conflicts]

theorem accounts_update (groupId : Id) (consentStatus : CustomerGroupConsentStatus)
    (consentedAt : Option Instant) (groups : List CustomerGroupProfile) :
    (KeyedRows.update (fun group => group.id == groupId)
      (fun group => { group with consentStatus, consentedAt }) groups).map
        (fun group => (group.id, group.accountId)) =
      groups.map fun group => (group.id, group.accountId) :=
  KeyedRows.map_update _ _ fun _ => rfl

theorem GroupTables.Sound.fewer (sound : tables.Sound accounts)
    (memberships : List CustomerGroupMembership) (fewer : memberships.Sublist tables.memberships) :
    ({ tables with memberships } : GroupTables).Sound accounts where
  groupIds := sound.groupIds
  groups := sound.groups
  memberships := sound.memberships.sublist (fewer.map _)
  ofAccount membership isMembership := sound.ofAccount membership (fewer.subset isMembership)
  revoked group isGroup out membership isMembership :=
    sound.revoked group isGroup out membership (fewer.subset isMembership)

/-- An undisturbed step keeps groups without consent empty. -/
theorem sound_of_writes {move : Move GroupSession GroupStore} (undisturbed : Undisturbed move)
    (sound : move.before.data.Sound accounts)
    (writes : GroupCall.Writes accounts move.session move.before move.after) :
    move.after.data.Sound accounts := by
  cases writes with
  | nothing same => exact same ▸ sound
  | linked membership ofAccount free added =>
    have isNew : membership ∉ move.before.data.memberships := fun isThere =>
      Bool.false_ne_true ((free membership isThere).symm.trans (conflicts_self membership))
    have consents := undisturbed.linked membership (by simp [added]) isNew
    rw [added]
    refine ⟨sound.groupIds, sound.groups, ?_, ?_, ?_⟩
    · refine KeyedRows.nodup_append sound.memberships fun row isRow same => ?_
      obtain ⟨sameAccount, sameCustomer⟩ := Prod.mk.inj same
      have apart := free row isRow
      simp [CustomerGroupMembership.conflicts, sameAccount, sameCustomer] at apart
    · exact List.forall_mem_append.2 ⟨sound.ofAccount, List.forall_mem_singleton.2 ofAccount⟩
    · intro group isGroup out
      refine List.forall_mem_append.2 ⟨sound.revoked group isGroup out, ?_⟩
      exact List.forall_mem_singleton.2 fun inGroup => consents group isGroup inGroup.symm out
  | unlinked key removed =>
    rw [removed]
    exact sound.fewer _ List.filter_sublist
  | consented groupId consentStatus consentedAt set =>
    have fewer := sound.fewer (keptMemberships move.session move.before) List.filter_sublist
    rw [set]
    refine ⟨sound.groupIds, ?_, fewer.memberships, fewer.ofAccount, ?_⟩
    · exact (accounts_update ..).trans sound.groups
    · intro group isGroup out membership isKept inGroup
      obtain ⟨old, isOld, becomes⟩ := List.mem_map.1 isGroup
      have sameId : group.id = old.id := by
        rw [← becomes]
        split <;> rfl
      by_cases wasOut : old.consentStatus = .OPTED_OUT
      · exact fewer.revoked old isOld wasOut membership isKept (inGroup.trans sameId)
      · obtain ⟨isMembership, kept⟩ := List.mem_filter.1 isKept
        have deleted := undisturbed.revoked old isOld wasOut
          ⟨group, by rw [set]; exact isGroup, sameId, out⟩ membership isMembership
          (inGroup.trans sameId)
        simp [deleted] at kept

section

variable {α β : Type}

theorem steps_query {view : GroupTables → Int → β} {rest : β → GroupProg α}
    (stepsRest : ∀ tables now, tables.Sound accounts → (rest (view tables now)).StepsWhile
      (fun store => store.data.Sound accounts) (GroupCall.Writes accounts session)) :
    (query view >>= rest).StepsWhile (fun store => store.data.Sound accounts)
      (GroupCall.Writes accounts session) :=
  Prog.StepsWhile.read (fun _ _ => .nothing rfl) fun store sound =>
    stepsRest store.data store.now sound

theorem steps_assertAccountSite (accountId : Option Id) (restaurantId : Id) :
    (assertAccountSite accountId restaurantId).StepsWhile (fun store => store.data.Sound accounts)
      (GroupCall.Writes accounts session) := by
  cases accountId with
  | none => trivial
  | some accountId => exact fun _ _ _ => ⟨.nothing rfl, trivial⟩

theorem steps_lockRows (keys : List MembershipKey) :
    (lockRows session keys).StepsWhile (fun store => store.data.Sound accounts)
      (GroupCall.Writes accounts session) := by
  induction keys with
  | nil => trivial
  | cons key rest ih =>
    intro store _ _
    refine ⟨.nothing ?_, ih⟩
    dsimp only
    split <;> rfl

theorem steps_consent (input : UpdateConsentInput) :
    (input.updateCustomerGroupConsent session).StepsWhile (fun store => store.data.Sound accounts)
      (GroupCall.Writes accounts session) := by
  refine (steps_assertAccountSite _ _).andThen fun accountId => ?_
  refine steps_query fun tables now _ => ?_
  cases tables.group? accountId input.groupId with
  | none => trivial
  | some existing =>
    have update : (commitConsent session existing.id input.consentStatus >>= fun view =>
        (pure (.ok view) : GroupProg (Except CustomerGroupError CustomerGroupView))).StepsWhile
          (fun store => store.data.Sound accounts) (GroupCall.Writes accounts session) :=
      fun store _ _ => ⟨.consented existing.id input.consentStatus _ rfl, trivial⟩
    dsimp only
    split
    · refine Prog.StepsWhile.bind ?_ fun _ => update
      exact steps_query fun _ _ _ => steps_lockRows _
    · exact update

theorem steps_insert (group : CustomerGroupProfile) {membership : CustomerGroupMembership}
    (ofAccount : (membership.groupProfileId, membership.accountId) ∈ accounts) :
    (insertMembership session group membership).StepsWhile
      (fun store => store.data.Sound accounts) (GroupCall.Writes accounts session) := by
  refine Prog.StepsWhile.bind ?_ fun result => ?_
  · intro store _ _
    refine ⟨?_, trivial⟩
    dsimp only
    by_cases taken : store.data.memberships.any membership.conflicts = true
    · rw [if_pos taken]
      exact .nothing rfl
    · rw [if_neg taken]
      refine .linked membership ofAccount (fun row isRow => ?_) rfl
      exact Bool.eq_false_iff.2 fun conflict => taken (List.any_eq_true.2 ⟨row, isRow, conflict⟩)
  · cases result with
    | ok value => trivial
    | error error =>
      refine steps_query fun tables _ _ => ?_
      cases tables.membership? membership.accountId membership.customerId <;> trivial

theorem steps_link [UnicodeCase] (input : LinkInput) :
    (input.linkCustomerToGroup session).StepsWhile (fun store => store.data.Sound accounts)
      (GroupCall.Writes accounts session) := by
  refine (steps_assertAccountSite _ _).andThen fun accountId => ?_
  refine steps_query fun tables now sound => ?_
  cases found : tables.group? accountId input.groupId with
  | none => trivial
  | some group =>
    have meets := List.find?_some found
    simp only [Bool.and_eq_true, beq_iff_eq] at meets
    have ofAccount : (group.id, accountId) ∈ accounts := by
      rw [← sound.groups, ← meets.2]
      exact List.mem_map_of_mem (List.mem_of_find?_eq_some found)
    dsimp only
    split
    · trivial
    refine steps_query fun tables now _ => ?_
    cases tables.customer? accountId input.restaurantId input.customerId with
    | none => trivial
    | some customer =>
      dsimp only
      split
      · trivial
      · trivial
      refine steps_query fun tables now _ => ?_
      cases tables.membership? accountId customer.id with
      | some existing => trivial
      | none => exact steps_insert group ofAccount

theorem steps_unlink (input : UnlinkInput) :
    (input.unlinkCustomerFromGroup session).StepsWhile (fun store => store.data.Sound accounts)
      (GroupCall.Writes accounts session) := by
  refine (steps_assertAccountSite _ _).andThen fun accountId => ?_
  refine steps_query fun tables now _ => ?_
  split
  · trivial
  next membership _ =>
    refine Prog.StepsWhile.andThen ?_ fun _ => trivial
    exact fun store _ _ => ⟨.unlinked membership.key rfl, trivial⟩

end

section

variable [UnicodeCase] {calls : GroupSession → GroupCall} {moves : List (Move GroupSession GroupStore)}
  {c : Config GroupSession GroupStore (Except CustomerGroupError GroupAnswer)}

theorem steps_prog (call : GroupCall) :
    (call.prog session).StepsWhile (fun store => store.data.Sound accounts)
      (GroupCall.Writes accounts session) := by
  cases call with
  | consent input => exact (steps_consent input).andThen fun _ => trivial
  | link input => exact (steps_link input).andThen fun _ => trivial
  | unlink input => exact (steps_unlink input).andThen fun _ => trivial

end

section

attribute [local instance] UnicodeCase.ascii

def consentingGroup : GroupStore where
  data := {
    sites := [⟨"r", some "a", true⟩]
    customers := [⟨"c", "r"⟩]
    groups := [⟨"g", "a", .OPTED_IN, some 0⟩]
    memberships := [] }
  now := 0
  owner _ := none

theorem sound_consentingGroup : consentingGroup.data.Sound [("g", "a")] where
  groupIds := List.nodup_singleton _
  groups := rfl
  memberships := List.nodup_nil
  ofAccount _ isMembership := nomatch isMembership
  revoked _ _ _ _ isMembership := nomatch isMembership

/-- The customer is linked while the consent is revoked. -/
def linkAndRevoke (session : GroupSession) : GroupCall :=
  if session = 0 then .link ⟨some "a", "r", "g", "c", "MANUAL", none⟩
  else .consent ⟨some "a", "r", "g", .OPTED_OUT⟩

end

end Sokar.CustomerGroups
