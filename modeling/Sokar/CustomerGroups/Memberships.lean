import Sokar.Library.KeyedRows
import Sokar.Library.Transaction
import Sokar.Shared.Text

/-!
# Customer groups

`updateCustomerGroupConsent`, `linkCustomerToGroup` and `unlinkCustomerFromGroup` of
`customer-group.service`, statement by statement.  A row that a transaction is about to delete is
locked until the transaction ends; whoever wants to delete it too, or to insert a row that
conflicts with it, waits.  Names, hashes, sources and figures that nothing reads are left out.
-/

namespace Sokar.CustomerGroups

open Process Transaction

inductive CustomerGroupConsentStatus where
  | UNKNOWN | OPTED_IN | OPTED_OUT
  deriving DecidableEq

inductive CustomerGroupError where
  | CUSTOMER_GROUP_ACCOUNT_REQUIRED
  | CUSTOMER_GROUP_ACCOUNT_MISMATCH
  | CUSTOMER_GROUP_NOT_FOUND
  | CUSTOMER_GROUP_CONSENT_REQUIRED
  | CUSTOMER_GROUP_CUSTOMER_NOT_FOUND
  | CUSTOMER_GROUP_SOURCE_INVALID
  | CUSTOMER_GROUP_CONFIDENCE_INVALID
  | CUSTOMER_GROUP_MEMBER_ALREADY_LINKED
  | P2002
  | P2025
  deriving DecidableEq

/-- A restaurant; it is open unless it is archived or suspended. -/
structure AccountSite where
  id : Id
  accountId : Option Id
  isOpen : Bool
  deriving DecidableEq

structure SiteCustomer where
  id : Id
  restaurantId : Id
  deriving DecidableEq

structure CustomerGroupProfile where
  id : Id
  accountId : Id
  consentStatus : CustomerGroupConsentStatus
  consentedAt : Option Instant
  deriving DecidableEq

structure CustomerGroupMembership where
  accountId : Id
  groupProfileId : Id
  restaurantId : Id
  customerId : Id
  deriving DecidableEq

abbrev MembershipKey := Id × Id × Id

structure GroupTables where
  sites : List AccountSite
  customers : List SiteCustomer
  groups : List CustomerGroupProfile
  memberships : List CustomerGroupMembership
  deriving DecidableEq

abbrev GroupSession := Nat

abbrev GroupStore := Store GroupTables MembershipKey GroupSession

abbrev GroupProg := Prog GroupStore

namespace CustomerGroupMembership

def key (membership : CustomerGroupMembership) : MembershipKey :=
  (membership.groupProfileId, membership.restaurantId, membership.customerId)

/-- Two rows cannot both be there: the primary key, and one group of an account for a customer. -/
def conflicts (membership row : CustomerGroupMembership) : Bool :=
  row.key == membership.key ||
    (row.accountId == membership.accountId && row.customerId == membership.customerId)

end CustomerGroupMembership

namespace GroupTables

variable (tables : GroupTables) (accountId : Id)

def openSite? (restaurantId : Id) : Option AccountSite :=
  tables.sites.find? fun site =>
    site.id == restaurantId && site.accountId == some accountId && site.isOpen

def group? (groupId : Id) : Option CustomerGroupProfile :=
  tables.groups.find? fun group => group.id == groupId && group.accountId == accountId

def customer? (restaurantId customerId : Id) : Option SiteCustomer :=
  tables.customers.find? fun customer =>
    customer.id == customerId && customer.restaurantId == restaurantId &&
      (tables.openSite? accountId restaurantId).isSome

def membership? (customerId : Id) : Option CustomerGroupMembership :=
  tables.memberships.find? fun membership =>
    membership.accountId == accountId && membership.customerId == customerId

end GroupTables

variable (session : GroupSession)

/-- The row is locked to be deleted, if it is still there. -/
def lockRow (key : MembershipKey) : GroupProg Unit :=
  .await (Store.isFreeFor session key) fun store =>
    if store.data.memberships.any fun row => row.key == key then store.take session key else store

def lockRows : List MembershipKey → GroupProg Unit
  | [] => pure ()
  | key :: rest => lockRow session key >>= fun _ => lockRows rest

def deleteMany (accountId groupId : Id) : GroupProg Unit :=
  (query fun (tables : GroupTables) _ => (tables.memberships.filter fun membership =>
      membership.accountId == accountId && membership.groupProfileId == groupId).map
        CustomerGroupMembership.key) >>= fun found => lockRows session found

structure CustomerGroupView where
  consentStatus : CustomerGroupConsentStatus
  consentedAt : Option Instant
  memberCount : Nat
  deriving DecidableEq

/-- The memberships that the transaction leaves. -/
def keptMemberships (store : GroupStore) : List CustomerGroupMembership :=
  store.data.memberships.filter fun row => store.owner row.key != some session

/-- The update of the group, with which the deletions are committed. -/
def commitConsent (groupId : Id) (consentStatus : CustomerGroupConsentStatus) :
    GroupProg CustomerGroupView :=
  let consentedAt (store : GroupStore) : Option Instant :=
    if consentStatus = .OPTED_IN then some store.now else none
  .update
    (fun store => {
      consentStatus
      consentedAt := consentedAt store
      memberCount := (keptMemberships session store).countP fun row =>
        row.groupProfileId == groupId })
    fun store => Store.release session { store with
      data := { store.data with
        groups := KeyedRows.update (fun group => group.id == groupId)
          (fun group => { group with consentStatus, consentedAt := consentedAt store })
          store.data.groups
        memberships := keptMemberships session store } }

/-- Whether a conflicting row is there is known once nobody is deleting it. -/
def createMembership (membership : CustomerGroupMembership) :
    GroupProg (Except CustomerGroupError Unit) :=
  let isTaken (store : GroupStore) : Bool := store.data.memberships.any membership.conflicts
  .step
    (fun store => store.data.memberships.all fun row =>
      !membership.conflicts row || store.isFreeFor session row.key)
    (fun store => if isTaken store then store else { store with
      data := { store.data with memberships := store.data.memberships ++ [membership] } })
    fun store => .done (if isTaken store then .error .P2002 else .ok ())

def deleteMembership (key : MembershipKey) : GroupProg (Except CustomerGroupError Unit) :=
  .step (Store.isFreeFor session key)
    (fun store => { store with
      data := { store.data with
        memberships := store.data.memberships.filter fun row => row.key != key } })
    fun store => .done <|
      if store.data.memberships.any fun row => row.key == key then .ok () else .error .P2025

def assertAccountSite (accountId : Option Id) (restaurantId : Id) :
    GroupProg (Except CustomerGroupError Id) :=
  match accountId with
  | none => pure (.error .CUSTOMER_GROUP_ACCOUNT_REQUIRED)
  | some accountId =>
    query fun tables _ =>
      if (tables.openSite? accountId restaurantId).isSome then .ok accountId
      else .error .CUSTOMER_GROUP_ACCOUNT_MISMATCH

structure UpdateConsentInput where
  accountId : Option Id
  restaurantId : Id
  groupId : Id
  consentStatus : CustomerGroupConsentStatus
  deriving DecidableEq

def UpdateConsentInput.updateCustomerGroupConsent (input : UpdateConsentInput) :
    GroupProg (Except CustomerGroupError CustomerGroupView) :=
  (assertAccountSite input.accountId input.restaurantId).andThen fun accountId =>
    (query fun tables _ => tables.group? accountId input.groupId) >>= fun
      | none => pure (.error .CUSTOMER_GROUP_NOT_FOUND)
      | some existing =>
        let update := commitConsent session existing.id input.consentStatus >>= fun view =>
          pure (.ok view)
        if input.consentStatus = .OPTED_OUT then
          deleteMany session accountId existing.id >>= fun _ => update
        else update

structure LinkInput where
  accountId : Option Id
  restaurantId : Id
  groupId : Id
  customerId : Id
  source : String
  confidence : Option ℚ
  deriving DecidableEq

section

variable [UnicodeCase]

/-- `/^[A-Z][A-Z0-9_.-]{1,31}$/`. -/
def isSource (source : String) : Bool :=
  match source.toList with
  | [] => false
  | first :: rest =>
    (('A' ≤ first && first ≤ 'Z') && rest.all fun char =>
      ('A' ≤ char && char ≤ 'Z') || char.isDigit || ['_', '.', '-'].contains char) &&
        1 ≤ rest.length && rest.length ≤ 31

def normalizeSource (value : String) : Except CustomerGroupError String :=
  let source := UnicodeCase.toUpperCase (trim value)
  if isSource source then .ok source else .error .CUSTOMER_GROUP_SOURCE_INVALID

def normalizeConfidence (value : Option ℚ) : Except CustomerGroupError ℚ :=
  let confidence := value.getD 1
  if 0 ≤ confidence ∧ confidence ≤ 1 then .ok confidence
  else .error .CUSTOMER_GROUP_CONFIDENCE_INVALID

structure LinkResult where
  membership : MembershipKey
  idempotent : Bool
  deriving DecidableEq

def alreadyLinked (group : CustomerGroupProfile) (existing : CustomerGroupMembership) :
    Except CustomerGroupError LinkResult :=
  if existing.groupProfileId ≠ group.id then .error .CUSTOMER_GROUP_MEMBER_ALREADY_LINKED
  else .ok ⟨existing.key, true⟩

/-- The insertion; when another one came first, its row is read. -/
def insertMembership (group : CustomerGroupProfile) (membership : CustomerGroupMembership) :
    GroupProg (Except CustomerGroupError LinkResult) :=
  createMembership session membership >>= fun
    | .ok () => pure (.ok ⟨membership.key, false⟩)
    | .error error =>
      (query fun tables _ => tables.membership? membership.accountId membership.customerId) >>= fun
        | none => pure (.error error)
        | some raced => pure (alreadyLinked group raced)

def LinkInput.linkCustomerToGroup (input : LinkInput) :
    GroupProg (Except CustomerGroupError LinkResult) :=
  (assertAccountSite input.accountId input.restaurantId).andThen fun accountId =>
    (query fun tables _ => tables.group? accountId input.groupId) >>= fun
      | none => pure (.error .CUSTOMER_GROUP_NOT_FOUND)
      | some group =>
        if group.consentStatus ≠ .OPTED_IN then pure (.error .CUSTOMER_GROUP_CONSENT_REQUIRED)
        else (query fun tables _ =>
            tables.customer? accountId input.restaurantId input.customerId) >>= fun
          | none => pure (.error .CUSTOMER_GROUP_CUSTOMER_NOT_FOUND)
          | some customer =>
            match normalizeSource input.source, normalizeConfidence input.confidence with
            | .error error, _ => pure (.error error)
            | .ok _, .error error => pure (.error error)
            | .ok _, .ok _ =>
              (query fun tables _ => tables.membership? accountId customer.id) >>= fun
                | some existing => pure (alreadyLinked group existing)
                | none => insertMembership session group
                    ⟨accountId, group.id, customer.restaurantId, customer.id⟩

end

structure UnlinkInput where
  accountId : Option Id
  restaurantId : Id
  groupId : Id
  customerId : Id
  deriving DecidableEq

def UnlinkInput.unlinkCustomerFromGroup (input : UnlinkInput) :
    GroupProg (Except CustomerGroupError Bool) :=
  (assertAccountSite input.accountId input.restaurantId).andThen fun accountId =>
    (query fun tables _ => tables.memberships.find? fun membership =>
        membership.accountId == accountId &&
          membership.key == (input.groupId, input.restaurantId, input.customerId)) >>= fun
      | none => pure (.ok false)
      | some membership =>
        (deleteMembership session membership.key).andThen fun _ => pure (.ok true)

inductive GroupCall where
  | consent (input : UpdateConsentInput)
  | link (input : LinkInput)
  | unlink (input : UnlinkInput)

inductive GroupAnswer where
  | group (view : CustomerGroupView)
  | linked (result : LinkResult)
  | removed (removed : Bool)
  deriving DecidableEq

variable [UnicodeCase]

def GroupCall.prog : GroupCall → GroupProg (Except CustomerGroupError GroupAnswer)
  | .consent input =>
    (input.updateCustomerGroupConsent session).andThen fun view => pure (.ok (.group view))
  | .link input =>
    (input.linkCustomerToGroup session).andThen fun result => pure (.ok (.linked result))
  | .unlink input =>
    (input.unlinkCustomerFromGroup session).andThen fun removed => pure (.ok (.removed removed))

def groupSystem (calls : GroupSession → GroupCall) :
    System GroupSession GroupStore (Except CustomerGroupError GroupAnswer) :=
  system fun session => (calls session).prog session

end Sokar.CustomerGroups
