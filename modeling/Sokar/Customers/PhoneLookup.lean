import Sokar.Customers.CustomerMerge
import Sokar.Customers.PhoneForms

/-!
# The profile behind a phone number

`CustomerService.lookupOrCreate` and `findCustomerForPhone`, beside merges and erasures.  A number
is looked up in the cache, then among the identities, then among the stored numbers, in several
forms; else a profile is created under its normal form, or the one that has that number is taken.
-/

namespace Sokar.Customers

open Marketing

structure CachedContext where
  restaurantId : Id
  phone : String
  customerId : Id
  expiresAt : Instant
  deriving DecidableEq

structure CustomerDirectory where
  tables : CustomerTables
  cache : List CachedContext
  now : Instant
  deriving DecidableEq

def MergeCustomer.isLiving (customer : MergeCustomer) : Bool :=
  customer.archivedAt.isNone && customer.mergedIntoId.isNone

namespace CustomerTables

variable (tables : CustomerTables) (restaurantId : Id)

def customer? (customerId : Id) : Option MergeCustomer :=
  KeyedRows.lookup MergeCustomer.id tables.customers customerId

def phoneIdentity? (normalizedValue : String) : Option CustomerIdentity :=
  tables.identities.find? fun identity =>
    identity.restaurantId == restaurantId && identity.type == .PHONE &&
      identity.normalizedValue == normalizedValue

/-- Whom an identity is of, unless it is archived or merged. -/
def identifiedCustomer (normalizedValue : String) : Option Id :=
  ((tables.phoneIdentity? restaurantId normalizedValue).bind fun identity =>
    (tables.customer? identity.customerId).filter fun customer =>
      customer.restaurantId == restaurantId && customer.isLiving).map MergeCustomer.id

/-- Without an order, any of the rows may be the first one: `turn` says which. -/
def findCustomerForPhone (turn : Nat) (phone : String) (normalizedPhone : Option String) :
    Option Id :=
  let values := customerPhoneLookupValues phone
  let identified := match normalizedPhone with
    | none => none
    | some _ => (values.filter isCompactPhone).findSome? (tables.identifiedCustomer restaurantId)
  let stored := tables.customers.filter fun customer =>
    customer.restaurantId == restaurantId && decide (customer.phone ∈ values) && customer.isLiving
  identified.or ((stored.rotate turn).head?.map MergeCustomer.id)

end CustomerTables

namespace CustomerDirectory

variable (directory : CustomerDirectory)

variable (restaurantId : Id)

def getCachedContext (phone : String) : Option Id :=
  (directory.cache.find? fun context =>
    context.restaurantId == restaurantId && context.phone == phone).map CachedContext.customerId

def deleteCached (phone : String) : CustomerDirectory :=
  { directory with
    cache := directory.cache.filter fun context =>
      !(context.restaurantId == restaurantId && context.phone == phone) }

/-- `EX` 300. -/
def setCachedContext (phone : String) (customerId : Id) : CustomerDirectory :=
  { directory with
    cache := ⟨restaurantId, phone, customerId, directory.now + 300000⟩ ::
      (directory.deleteCached restaurantId phone).cache }

/-- Time passes, and contexts expire. -/
def wait (elapsed : Nat) : CustomerDirectory :=
  { directory with
    cache := directory.cache.filter fun context =>
      decide (directory.now + elapsed < context.expiresAt)
    now := directory.now + elapsed }

end CustomerDirectory

structure LookupInput where
  restaurantId : Id
  phone : String
  rawName : Option String
  keepExistingName : Bool
  turn : Nat
  /-- The ids that are generated, and whether the identity can be written at all. -/
  newCustomerId : Id
  newIdentityId : Id
  reachesIdentities : Bool
  deriving DecidableEq

namespace LookupInput

variable (input : LookupInput)

def name : Option String :=
  (input.rawName.map trim).filter fun name => !name.isEmpty

def normalizedPhone : Option String :=
  normalizeCustomerPhone input.phone

def cachePhone : String :=
  input.normalizedPhone.getD input.phone

def touch (customer : MergeCustomer) : MergeCustomer :=
  match input.name with
  | some name => if input.keepExistingName then customer else { customer with name := some name }
  | none => customer

/-- A name that is kept is only set where there is none. -/
def touchFound (customer : MergeCustomer) : MergeCustomer :=
  let touched := input.touch customer
  if input.keepExistingName then { touched with name := touched.name.or input.name } else touched

def created (storedPhone : String) : MergeCustomer where
  id := input.newCustomerId
  restaurantId := input.restaurantId
  phone := storedPhone
  name := input.name
  archivedAt := none
  mergedIntoId := none

def setCustomers (tables : CustomerTables) (customers : List MergeCustomer) : CustomerTables :=
  { tables with customers }

/-- The profile that is touched, taken or created. -/
def resolve (tables : CustomerTables) : Except CustomerMergeError (Id × CustomerTables) :=
  match tables.findCustomerForPhone input.restaurantId input.turn input.phone
      input.normalizedPhone with
  | some customerId =>
    .ok (customerId, setCustomers tables <|
      KeyedRows.update
        (fun customer => customer.id == customerId && customer.restaurantId == input.restaurantId)
        input.touchFound tables.customers)
  | none =>
    let isStored (customer : MergeCustomer) : Bool :=
      customer.restaurantId == input.restaurantId && customer.phone == input.cachePhone
    match tables.customers.find? isStored with
    | some customer =>
      .ok (customer.id, setCustomers tables (KeyedRows.update isStored input.touch tables.customers))
    | none =>
      if tables.customers.any fun customer => customer.id == input.newCustomerId then
        .error .P2002
      else
        .ok (input.newCustomerId,
          setCustomers tables (tables.customers ++ [input.created input.cachePhone]))

/-- An identity is never moved; what goes wrong here is not reported. -/
def upsertCustomerIdentity (customerId : Id) (tables : CustomerTables) : CustomerTables :=
  match input.normalizedPhone with
  | none => tables
  | some normalizedValue =>
    if !input.reachesIdentities || 320 < utf16Length (trim input.phone) ||
        (tables.phoneIdentity? input.restaurantId normalizedValue).isSome ||
        (tables.identities.any fun identity => identity.id == input.newIdentityId) then tables
    else
      { tables with
        identities := tables.identities ++
          [⟨input.newIdentityId, input.restaurantId, customerId, .PHONE, normalizedValue⟩] }

def lookupOrCreate (directory : CustomerDirectory) :
    Except CustomerMergeError (Id × CustomerDirectory) :=
  let cached := if input.name.isSome then none
    else directory.getCachedContext input.restaurantId input.cachePhone
  match cached with
  | some customerId => .ok (customerId, directory)
  | none => do
      let (customerId, tables) ← input.resolve directory.tables
      let identified := input.upsertCustomerIdentity customerId tables
      return (customerId,
        { directory with tables := identified }.setCachedContext input.restaurantId
          input.cachePhone customerId)

end LookupInput

/-- The contexts under the stored numbers of the profiles are dropped once they are merged. -/
def MergeInput.mergeInDirectory (input : MergeInput) (directory : CustomerDirectory) :
    Except CustomerMergeError CustomerDirectory := do
  let tables ← input.applyMerge directory.now directory.tables
  let merged := tables.customers.filter fun customer =>
    customer.restaurantId == input.restaurantId &&
      decide (customer.id ∈ input.targetCustomerId :: input.sourceCustomerIds)
  return merged.foldl
    (fun directory customer => directory.deleteCached input.restaurantId
      ((normalizeCustomerPhone customer.phone).getD customer.phone))
    { directory with tables }

structure EraseInput where
  subject : String
  subjectHash : String
  deriving DecidableEq

namespace EraseInput

variable (input : EraseInput)

/-- The profiles that have the subject for their number, or its normal form for an identity. -/
def erases (tables : CustomerTables) (customer : MergeCustomer) : Bool :=
  customer.phone == input.subject || tables.identities.any fun identity =>
    identity.customerId == customer.id && identity.type == .PHONE &&
      normalizeCustomerPhone input.subject == some identity.normalizedValue

def erased (now : Instant) (customer : MergeCustomer) : MergeCustomer :=
  { customer with
    phone := "erased:" ++ input.subjectHash ++ ":" ++
      String.ofList (customer.id.toList.drop (customer.id.length - 16))
    name := some "ANON"
    archivedAt := some now }

def eraseSubject (directory : CustomerDirectory) : CustomerDirectory :=
  let tables := directory.tables
  let ids := (tables.customers.filter (input.erases tables)).map MergeCustomer.id
  { directory with
    tables := {
      customers := KeyedRows.update (fun customer => decide (customer.id ∈ ids))
        (input.erased directory.now) tables.customers
      identities := tables.identities.filter fun identity => decide (identity.customerId ∉ ids)
      timelineEvents := tables.timelineEvents
      permissions := tables.permissions.filter fun row => decide (row.customerId ∉ ids)
      suppressions := tables.suppressions.filter fun row => decide (row.customerId ∉ ids)
      dispatches := tables.dispatches.filter fun row => decide (row.customerId ∉ ids)
      frequencyWindows := tables.frequencyWindows.filter fun row => decide (row.customerId ∉ ids)
      attributionLinks := tables.attributionLinks.filter fun row => decide (row.customerId ∉ ids) } }

end EraseInput

end Sokar.Customers
