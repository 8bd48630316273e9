import Sokar.Customers.PhoneLookup

/-!
# Numbers and living profiles

As long as whatever a number may lead to is known to an identity, a number leads to the living
profile its identity is of.  A merge moves identities and drops the contexts under the stored
numbers of its profiles, but neither what is only stored in a profile nor the contexts under
numbers that came with an earlier merge.
-/

namespace Sokar.Customers

open Marketing

/-! ## Profiles and the owners of numbers -/

def MergeCustomer.unnamed (customer : MergeCustomer) : MergeCustomer :=
  { customer with name := none }

namespace CustomerTables

variable (tables : CustomerTables) (restaurantId : Id)

def profiles : List MergeCustomer :=
  tables.customers.map MergeCustomer.unnamed

def IsLiving (customerId : Id) : Prop :=
  ∃ customer ∈ tables.profiles, customer.id = customerId ∧ customer.restaurantId = restaurantId ∧
    customer.isLiving = true

def owner? (value : String) : Option Id :=
  (tables.phoneIdentity? restaurantId value).map CustomerIdentity.customerId

/-- Whom the first identity of a number is of. -/
def numberOwner (phone : String) : Option Id :=
  ((customerPhoneLookupValues phone).filter isCompactPhone).findSome? (tables.owner? restaurantId)

/-- A living profile that has a number, in one of its forms. -/
def hasNumber (phone : String) (customer : MergeCustomer) : Bool :=
  customer.restaurantId == restaurantId &&
    decide (customer.phone ∈ customerPhoneLookupValues phone) && customer.isLiving

/-- Rows are told apart, identities are of living profiles, and those of the numbers of all others
are there. -/
structure Sound : Prop where
  profileIds : (tables.profiles.map MergeCustomer.id).Nodup
  identityIds : (tables.identities.map CustomerIdentity.id).Nodup
  identityKeys : (tables.identities.map fun identity => (identity.restaurantId, identity.key)).Nodup
  owned : ∀ identity ∈ tables.identities, tables.IsLiving identity.restaurantId identity.customerId
  covered : ∀ customer ∈ tables.profiles, customer.isLiving = false →
    normalizeCustomerPhone customer.phone = some customer.phone →
      (tables.numberOwner customer.restaurantId customer.phone).isSome

end CustomerTables

/-- A context names the profile that the identity of its number is of. -/
structure CustomerDirectory.Sound (directory : CustomerDirectory) : Prop where
  tables : directory.tables.Sound
  cached : ∀ context ∈ directory.cache,
    normalizeCustomerPhone context.phone = some context.phone ∧
      directory.tables.numberOwner context.restaurantId context.phone = some context.customerId

section

variable {tables : CustomerTables} {restaurantId : Id} {phone normalized : String}

variable {customerId : Id}

theorem numberOwner_of_normal (isNormal : normalizeCustomerPhone phone = some normalized)
    (owns : tables.numberOwner restaurantId normalized = some customerId) :
    tables.numberOwner restaurantId phone = some customerId := by
  unfold CustomerTables.numberOwner at owns ⊢
  rw [lookupValues_eq isNormal]
  split
  · exact owns
  · rw [List.filter_append, List.findSome?_append, owns]
    rfl

theorem phoneIdentity?_some {value : String} {identity : CustomerIdentity}
    (found : tables.phoneIdentity? restaurantId value = some identity) :
    identity ∈ tables.identities ∧ identity.restaurantId = restaurantId ∧
      identity.key = (.PHONE, value) := by
  have meets := List.find?_some found
  simp only [Bool.and_eq_true, beq_iff_eq] at meets
  exact ⟨List.mem_of_find?_eq_some found, meets.1.1, Prod.ext meets.1.2 meets.2⟩

theorem phoneIdentity?_of_mem
    (keys : (tables.identities.map fun identity => (identity.restaurantId, identity.key)).Nodup)
    {identity : CustomerIdentity}
    (isIdentity : identity ∈ tables.identities) (isPhone : identity.type = .PHONE) :
    tables.phoneIdentity? identity.restaurantId identity.normalizedValue = some identity := by
  have found : (tables.phoneIdentity? identity.restaurantId identity.normalizedValue).isSome :=
    List.find?_isSome.2 ⟨identity, isIdentity, by simp [isPhone]⟩
  obtain ⟨other, isOther⟩ := Option.isSome_iff_exists.1 found
  obtain ⟨isRow, ofRestaurant, hasKey⟩ := phoneIdentity?_some isOther
  have same : other = identity := List.inj_on_of_nodup_map keys isRow isIdentity (by
    rw [ofRestaurant, hasKey, CustomerIdentity.key, isPhone])
  rw [isOther, same]

theorem living_of_owner (sound : tables.Sound) {value : String}
    (owns : tables.owner? restaurantId value = some customerId) :
    tables.IsLiving restaurantId customerId := by
  obtain ⟨identity, found, rfl⟩ := Option.map_eq_some_iff.1 owns
  obtain ⟨isIdentity, rfl, -⟩ := phoneIdentity?_some found
  exact sound.owned identity isIdentity

theorem identifiedCustomer_eq (sound : tables.Sound) :
    tables.identifiedCustomer restaurantId = tables.owner? restaurantId := by
  funext value
  unfold CustomerTables.identifiedCustomer CustomerTables.owner?
  cases found : tables.phoneIdentity? restaurantId value with
  | none => rfl
  | some identity =>
    obtain ⟨isIdentity, rfl, -⟩ := phoneIdentity?_some found
    obtain ⟨_, isProfile, isOwner, ofRestaurant, living⟩ := sound.owned identity isIdentity
    obtain ⟨customer, isCustomer, rfl⟩ := List.mem_map.1 isProfile
    have ids : (tables.customers.map MergeCustomer.id).Nodup := by
      have nodup := sound.profileIds
      rwa [CustomerTables.profiles, List.map_map] at nodup
    have looked : tables.customer? identity.customerId = some customer := by
      rw [← isOwner]
      exact KeyedRows.lookup_of_mem ids isCustomer
    have chosen : (customer.restaurantId == identity.restaurantId && customer.isLiving) = true :=
      Bool.and_eq_true_iff.2 ⟨beq_iff_eq.2 ofRestaurant, living⟩
    simp only [Option.bind_some, looked, Option.filter_some, chosen, if_true, Option.map_some]
    exact congrArg some isOwner

/-- A number leads to the owner of an identity of it, or else to a living profile that has it. -/
theorem findCustomerForPhone_eq (sound : tables.Sound) (turn : Nat) :
    tables.findCustomerForPhone restaurantId turn phone (some normalized) =
      (tables.numberOwner restaurantId phone).or
        (((tables.customers.filter (CustomerTables.hasNumber restaurantId phone)).rotate
          turn).head?.map MergeCustomer.id) := by
  unfold CustomerTables.findCustomerForPhone CustomerTables.numberOwner
  rw [← identifiedCustomer_eq sound]
  rfl

theorem stored_of_head {turn : Nat}
    (isHead : ((tables.customers.filter (CustomerTables.hasNumber restaurantId phone)).rotate
      turn).head?.map MergeCustomer.id = some customerId) :
    ∃ customer ∈ tables.customers, customer.id = customerId ∧
      customer.restaurantId = restaurantId ∧ customer.phone ∈ customerPhoneLookupValues phone ∧
        customer.isLiving = true := by
  obtain ⟨customer, isHead, isSame⟩ := Option.map_eq_some_iff.1 isHead
  have isKept := List.mem_rotate.1 (List.mem_of_mem_head? isHead)
  obtain ⟨isCustomer, meets⟩ := List.mem_filter.1 isKept
  simp only [CustomerTables.hasNumber, Bool.and_eq_true, beq_iff_eq, decide_eq_true_eq] at meets
  exact ⟨customer, isCustomer, isSame, meets.1.1, meets.1.2, meets.2⟩

theorem living_of_find (sound : tables.Sound) {turn : Nat} {found : Option String}
    (leads : tables.findCustomerForPhone restaurantId turn phone found = some customerId) :
    tables.IsLiving restaurantId customerId := by
  have ofStored : ((tables.customers.filter (CustomerTables.hasNumber restaurantId phone)).rotate
      turn).head?.map MergeCustomer.id = some customerId →
        tables.IsLiving restaurantId customerId := by
    intro isHead
    obtain ⟨customer, isCustomer, isSame, ofRestaurant, -, living⟩ := stored_of_head isHead
    exact ⟨customer.unnamed, List.mem_map_of_mem isCustomer, isSame, ofRestaurant, living⟩
  cases found with
  | none => exact ofStored leads
  | some normalized =>
    rw [findCustomerForPhone_eq sound] at leads
    rcases Option.or_eq_some_iff.1 leads with owns | ⟨-, isHead⟩
    · obtain ⟨value, -, owns⟩ := List.exists_of_findSome?_eq_some owns
      exact living_of_owner sound owns
    · exact ofStored isHead

/-- A number that leads nowhere is stored nowhere. -/
theorem unstored_of_find_none (sound : tables.Sound)
    (isNormal : normalizeCustomerPhone phone = some normalized) {turn : Nat}
    (leads : tables.findCustomerForPhone restaurantId turn phone (some normalized) = none) :
    ∀ customer ∈ tables.customers, customer.restaurantId = restaurantId →
      customer.phone ≠ normalized := by
  rintro customer isCustomer rfl rfl
  rw [findCustomerForPhone_eq sound, Option.or_eq_none_iff, Option.map_eq_none_iff,
    List.head?_eq_none_iff, List.rotate_eq_nil_iff, List.filter_eq_nil_iff] at leads
  obtain ⟨unowned, unstored⟩ := leads
  have own := normal_of_normalized isNormal
  cases living : customer.isLiving with
  | true =>
    have isForm : customer.phone ∈ customerPhoneLookupValues phone := by
      have isForm := mem_lookupValues_of_normal own
      rw [lookupValues_eq isNormal]
      split
      · exact isForm
      · exact List.mem_append_left _ isForm
    exact unstored customer isCustomer (by simp [CustomerTables.hasNumber, isForm, living])
  | false =>
    obtain ⟨owner, owns⟩ := Option.isSome_iff_exists.1 <|
      sound.covered customer.unnamed (List.mem_map_of_mem isCustomer) living own
    exact Option.some_ne_none owner ((numberOwner_of_normal isNormal owns).symm.trans unowned)

end

section

variable {tables tables' : CustomerTables} {restaurantId : Id}

theorem numberOwner_congr (same : tables'.identities = tables.identities) :
    tables'.numberOwner = tables.numberOwner := by
  unfold CustomerTables.numberOwner CustomerTables.owner? CustomerTables.phoneIdentity?
  rw [same]

variable {identityId customerId : Id} {normalized : String}

section

variable
    (added : tables'.identities = tables.identities ++ [⟨identityId, restaurantId, customerId, .PHONE, normalized⟩])
include added

theorem owner?_append (otherId : Id) (value : String) :
    tables'.owner? otherId value = (tables.owner? otherId value).or
      (if restaurantId = otherId ∧ normalized = value then some customerId else none) := by
  unfold CustomerTables.owner? CustomerTables.phoneIdentity?
  rw [added, List.find?_append]
  cases List.find? _ tables.identities with
  | some identity => rfl
  | none =>
    by_cases same : restaurantId = otherId ∧ normalized = value
    · simp [same]
    · simp [same]

theorem numberOwner_isSome_append {otherId : Id} {phone : String}
    (owned : (tables.numberOwner otherId phone).isSome) :
    (tables'.numberOwner otherId phone).isSome := by
  obtain ⟨value, isForm, isOwned⟩ := List.findSome?_isSome_iff.1 owned
  refine List.findSome?_isSome_iff.2 ⟨value, isForm, ?_⟩
  rw [owner?_append added, Option.isSome_or, isOwned, Bool.true_or]

/-- The identity is only found for the number it is written for. -/
theorem numberOwner_append_of_ne (isNormal : normalizeCustomerPhone normalized = some normalized)
    {otherId : Id} {other : String} (isOther : normalizeCustomerPhone other = some other)
    (apart : ¬(restaurantId = otherId ∧ normalized = other)) :
    tables'.numberOwner otherId other = tables.numberOwner otherId other := by
  unfold CustomerTables.numberOwner
  rw [← List.head?_filterMap, ← List.head?_filterMap]
  refine congrArg List.head? (List.filterMap_congr fun value isForm => ?_)
  rw [owner?_append added, if_neg, Option.or_none]
  rintro ⟨rfl, rfl⟩
  have isForm := normalized_of_mem_lookupValues isOther (List.mem_of_mem_filter isForm)
  rw [isNormal, Option.some.injEq] at isForm
  exact apart ⟨rfl, isForm⟩

theorem numberOwner_append_self (isNormal : normalizeCustomerPhone normalized = some normalized)
    (free : tables.phoneIdentity? restaurantId normalized = none) :
    tables'.numberOwner restaurantId normalized = some customerId := by
  have owns : tables'.owner? restaurantId normalized = some customerId := by
    rw [owner?_append added, CustomerTables.owner?, free]
    simp
  have compact := isCompactPhone_of_normal isNormal (mem_lookupValues_of_normal isNormal)
  unfold CustomerTables.numberOwner
  rw [lookupValues_of_normal isNormal]
  split <;> rw [List.filter_cons_of_pos compact, List.findSome?_cons, owns]

end

end

namespace LookupInput

variable {input : LookupInput} {tables resolved : CustomerTables} {customerId : Id}
  {normalized : String}

/-- The identity of the number is written unless it is there. -/
def writesIdentity (input : LookupInput) (tables : CustomerTables) : Bool :=
  input.reachesIdentities && decide (utf16Length (trim input.phone) ≤ 320) &&
    !(tables.identities.any fun identity => identity.id == input.newIdentityId)

theorem unnamed_touch (input : LookupInput) (customer : MergeCustomer) :
    (input.touch customer).unnamed = customer.unnamed := by
  unfold touch
  split
  · split <;> rfl
  · rfl

theorem unnamed_touchFound (input : LookupInput) (customer : MergeCustomer) :
    (input.touchFound customer).unnamed = customer.unnamed := by
  have touched := unnamed_touch input customer
  unfold touchFound
  split
  · rw [← touched]
    rfl
  · exact touched

theorem resolve_cases (sound : tables.Sound) (isNormal : input.normalizedPhone = some normalized)
    (ran : input.resolve tables = .ok (customerId, resolved)) :
    resolved.identities = tables.identities ∧
      (tables.findCustomerForPhone input.restaurantId input.turn input.phone (some normalized) =
          some customerId ∧ resolved.profiles = tables.profiles ∨
        tables.findCustomerForPhone input.restaurantId input.turn input.phone (some normalized) =
          none ∧ customerId = input.newCustomerId ∧
            resolved.profiles = tables.profiles ++ [(input.created normalized).unnamed] ∧
              ∀ customer ∈ tables.profiles, customer.id ≠ input.newCustomerId) := by
  unfold resolve at ran
  rw [isNormal] at ran
  have stored : input.cachePhone = normalized := by
    rw [cachePhone, isNormal, Option.getD_some]
  cases leads : tables.findCustomerForPhone input.restaurantId input.turn input.phone
      (some normalized) with
  | some found =>
    rw [leads] at ran
    cases ran
    exact ⟨rfl, .inl ⟨rfl, KeyedRows.map_update _ _ input.unnamed_touchFound⟩⟩
  | none =>
    rw [leads] at ran
    dsimp only at ran
    rw [stored] at ran
    have unstored := unstored_of_find_none sound isNormal leads
    have none : tables.customers.find? (fun customer =>
        customer.restaurantId == input.restaurantId && customer.phone == normalized) = none := by
      refine List.find?_eq_none.2 fun customer isCustomer => ?_
      simp only [Bool.and_eq_true, beq_iff_eq, not_and]
      exact unstored customer isCustomer
    rw [none] at ran
    dsimp only at ran
    split at ran
    · cases ran
    next free =>
      cases ran
      refine ⟨rfl, .inr ⟨rfl, rfl, ?_, ?_⟩⟩
      · simp only [CustomerTables.profiles, setCustomers, List.map_append, List.map_cons,
          List.map_nil]
      · intro customer isProfile
        obtain ⟨row, isRow, rfl⟩ := List.mem_map.1 isProfile
        exact fun taken => free (List.any_eq_true.2 ⟨row, isRow, beq_iff_eq.2 taken⟩)

theorem isLiving_congr {tables' : CustomerTables} (same : tables'.profiles = tables.profiles) :
    tables'.IsLiving = tables.IsLiving := by
  unfold CustomerTables.IsLiving
  rw [same]

theorem sound_of_resolve (sound : tables.Sound) (isNormal : input.normalizedPhone = some normalized)
    (ran : input.resolve tables = .ok (customerId, resolved)) :
    resolved.Sound ∧ resolved.IsLiving input.restaurantId customerId := by
  obtain ⟨identities, ⟨leads, profiles⟩ | ⟨-, rfl, profiles, fresh⟩⟩ :=
    resolve_cases sound isNormal ran
  · have owners := numberOwner_congr identities
    rw [isLiving_congr profiles]
    refine ⟨⟨?_, ?_, ?_, ?_, ?_⟩, living_of_find sound leads⟩
    · exact profiles ▸ sound.profileIds
    · exact identities ▸ sound.identityIds
    · exact identities ▸ sound.identityKeys
    · rw [identities, isLiving_congr profiles]
      exact sound.owned
    · rw [profiles, owners]
      exact sound.covered
  · have created : (input.created normalized).unnamed ∈ resolved.profiles := by
      rw [profiles]
      exact List.mem_append_right _ List.mem_cons_self
    refine ⟨⟨?_, ?_, ?_, ?_, ?_⟩, ⟨_, created, rfl, rfl, rfl⟩⟩
    · rw [profiles]
      exact KeyedRows.nodup_append sound.profileIds fresh
    · exact identities ▸ sound.identityIds
    · exact identities ▸ sound.identityKeys
    · rw [identities]
      intro identity isIdentity
      obtain ⟨customer, isCustomer, meets⟩ := sound.owned identity isIdentity
      exact ⟨customer, profiles ▸ List.mem_append_left _ isCustomer, meets⟩
    · rw [profiles, numberOwner_congr identities]
      intro customer isCustomer
      rcases List.mem_append.1 isCustomer with isCustomer | isCreated
      · exact sound.covered customer isCustomer
      · rw [List.mem_singleton.1 isCreated]
        exact fun dead => absurd (show true = false from dead) (by decide)

/-- The identity is written for the profile, or all stays. -/
theorem upsert_cases (customerId : Id) (tables : CustomerTables)
    (isNormal : input.normalizedPhone = some normalized) :
    input.upsertCustomerIdentity customerId tables = tables ∧
        ¬(input.writesIdentity tables = true ∧
          tables.phoneIdentity? input.restaurantId normalized = none) ∨
      (tables.phoneIdentity? input.restaurantId normalized = none ∧
        (tables.identities.any fun identity => identity.id == input.newIdentityId) = false ∧
          input.upsertCustomerIdentity customerId tables = { tables with
              identities := tables.identities ++
                [⟨input.newIdentityId, input.restaurantId, customerId, .PHONE, normalized⟩] }) := by
  unfold upsertCustomerIdentity writesIdentity
  rw [isNormal]
  dsimp only
  split
  next kept =>
    refine .inl ⟨rfl, fun ⟨writes, free⟩ => ?_⟩
    simp only [Bool.and_eq_true, decide_eq_true_eq, Bool.not_eq_true'] at writes
    obtain ⟨⟨reaches, short⟩, fresh⟩ := writes
    rw [reaches, free, fresh] at kept
    exact absurd kept (by simpa using short)
  next writes =>
    refine .inr ?_
    simp only [Bool.or_eq_true, not_or, Bool.not_eq_true, Option.isSome_eq_false_iff,
      Option.isNone_iff_eq_none] at writes
    exact ⟨writes.1.2, writes.2, rfl⟩

/-- What a lookup needs for its answer to be found again: that an identity leads to the number, or
that one can be written. -/
def KeepsNumber (input : LookupInput) (directory : CustomerDirectory) : Prop :=
  ∀ normalized, input.normalizedPhone = some normalized →
    (directory.tables.numberOwner input.restaurantId normalized).isSome ∨
      input.writesIdentity directory.tables = true

theorem sound_of_upsert (sound : tables.Sound) (isNormal : input.normalizedPhone = some normalized)
    (living : tables.IsLiving input.restaurantId customerId) :
    (input.upsertCustomerIdentity customerId tables).Sound ∧
      (input.upsertCustomerIdentity customerId tables).IsLiving input.restaurantId customerId := by
  obtain ⟨kept, -⟩ | ⟨free, fresh, written⟩ :=
    upsert_cases customerId tables isNormal
  · rw [kept]
    exact ⟨sound, living⟩
  rw [written]
  refine ⟨⟨sound.profileIds, ?_, ?_, ?_, ?_⟩, living⟩
  · refine KeyedRows.nodup_append sound.identityIds fun identity isIdentity same => ?_
    exact List.any_eq_false.1 fresh identity isIdentity (beq_iff_eq.2 same)
  · refine KeyedRows.nodup_append sound.identityKeys fun identity isIdentity same => ?_
    simp only [CustomerIdentity.key, Prod.mk.injEq] at same
    exact List.find?_eq_none.1 free identity isIdentity (by simp [same])
  · intro identity isIdentity
    rcases List.mem_append.1 isIdentity with isIdentity | isNew
    · exact sound.owned identity isIdentity
    · rw [List.mem_singleton.1 isNew]
      exact living
  · intro customer isCustomer dead own
    exact numberOwner_isSome_append rfl (sound.covered customer isCustomer dead own)

theorem owner_of_upsert (sound : tables.Sound) (isNormal : input.normalizedPhone = some normalized)
    (ran : input.resolve tables = .ok (customerId, resolved))
    (keeps : (tables.numberOwner input.restaurantId normalized).isSome ∨
      input.writesIdentity tables = true) :
    (input.upsertCustomerIdentity customerId resolved).numberOwner input.restaurantId normalized =
      some customerId := by
  obtain ⟨identities, found⟩ := resolve_cases sound isNormal ran
  have own := normal_of_normalized (show normalizeCustomerPhone input.phone = _ from isNormal)
  have ofOwner : ∀ owner, tables.numberOwner input.restaurantId normalized = some owner →
      owner = customerId := by
    intro owner owns
    have leads : tables.findCustomerForPhone input.restaurantId input.turn input.phone
        (some normalized) = some owner := by
      rw [findCustomerForPhone_eq sound, numberOwner_of_normal isNormal owns, Option.some_or]
    rcases found with ⟨same, -⟩ | ⟨none, -⟩
    · exact Option.some.inj (leads.symm.trans same)
    · exact absurd (leads.symm.trans none) (Option.some_ne_none owner)
  obtain ⟨kept, unwritten⟩ | ⟨free, -, written⟩ :=
    upsert_cases customerId resolved isNormal
  · rw [kept, numberOwner_congr identities]
    cases owns : tables.numberOwner input.restaurantId normalized with
    | some owner => rw [ofOwner owner owns]
    | none =>
      rw [owns] at keeps
      have writes : input.writesIdentity resolved = true := by
        unfold writesIdentity
        rw [identities]
        exact keeps.resolve_left Bool.false_ne_true
      refine absurd ⟨writes, ?_⟩ unwritten
      have unowned := List.findSome?_eq_none_iff.1 owns normalized <| List.mem_filter.2
        ⟨mem_lookupValues_of_normal own,
          isCompactPhone_of_normal own (mem_lookupValues_of_normal own)⟩
      unfold CustomerTables.phoneIdentity? at unowned ⊢
      rw [identities]
      exact Option.map_eq_none_iff.1 unowned
  · rw [written]
    exact numberOwner_append_self rfl own free

theorem numberOwner_of_upsert (isNormal : input.normalizedPhone = some normalized)
    {otherId : Id} {other : String} (isOther : normalizeCustomerPhone other = some other)
    (apart : ¬(input.restaurantId = otherId ∧ normalized = other)) :
    (input.upsertCustomerIdentity customerId tables).numberOwner otherId other =
      tables.numberOwner otherId other := by
  have own := normal_of_normalized (show normalizeCustomerPhone input.phone = _ from isNormal)
  obtain ⟨kept, -⟩ | ⟨-, -, written⟩ :=
    upsert_cases customerId tables isNormal
  · rw [kept]
  · rw [written]
    exact numberOwner_append_of_ne rfl own isOther apart

variable {directory after : CustomerDirectory}

variable {restaurantId : Id}

theorem owner_of_cached (sound : directory.Sound) {phone : String}
    (isCached : directory.getCachedContext restaurantId phone = some customerId) :
    directory.tables.numberOwner restaurantId phone = some customerId := by
  obtain ⟨context, found, rfl⟩ := Option.map_eq_some_iff.1 isCached
  have meets := List.find?_some found
  simp only [Bool.and_eq_true, beq_iff_eq] at meets
  rw [← meets.1, ← meets.2]
  exact (sound.cached context (List.mem_of_find?_eq_some found)).2

theorem tables_setCachedContext {phone : String} :
    ({ directory with tables }.setCachedContext restaurantId phone customerId).tables = tables :=
  rfl

theorem mem_setCachedContext {phone : String} {context : CachedContext}
    (isContext : context ∈ (directory.setCachedContext restaurantId phone customerId).cache) :
    context.restaurantId = restaurantId ∧ context.phone = phone ∧
        context.customerId = customerId ∨ context ∈ directory.cache := by
  rcases List.mem_cons.1 isContext with rfl | isContext
  · exact .inl ⟨rfl, rfl, rfl⟩
  · exact .inr (List.mem_of_mem_filter isContext)

section

variable (sound : directory.Sound) (isNormal : input.normalizedPhone = some normalized)
include sound isNormal

theorem lookup_cases (ran : input.lookupOrCreate directory = .ok (customerId, after)) :
    after = directory ∧
        directory.tables.numberOwner input.restaurantId normalized = some customerId ∨
      ∃ resolved, input.resolve directory.tables = .ok (customerId, resolved) ∧
        after = { directory with
          tables := input.upsertCustomerIdentity customerId resolved }.setCachedContext
            input.restaurantId normalized customerId := by
  have stored : input.cachePhone = normalized := by
    rw [cachePhone, isNormal, Option.getD_some]
  unfold lookupOrCreate at ran
  rw [stored] at ran
  dsimp only at ran
  split at ran
  next isCached =>
    cases ran
    split at isCached
    · cases isCached
    · exact .inl ⟨rfl, owner_of_cached sound isCached⟩
  next =>
    obtain ⟨⟨found, resolved⟩, resolves, ran⟩ := ok_of_bind ran
    cases ran
    exact .inr ⟨resolved, resolves, rfl⟩

/-- The number of an identity leads to whom it is of. -/
theorem lookup_of_owner
    (owns : directory.tables.numberOwner input.restaurantId input.phone = some customerId) :
    (input.lookupOrCreate directory).map Prod.fst = .ok customerId := by
  have stored : input.cachePhone = normalized := by
    rw [cachePhone, isNormal, Option.getD_some]
  unfold lookupOrCreate
  rw [stored]
  dsimp only
  split
  next cached isCached =>
    split at isCached
    · cases isCached
    · have same := numberOwner_of_normal isNormal (owner_of_cached sound isCached)
      rw [owns, Option.some.injEq] at same
      rw [same]
      rfl
  next =>
    have leads : directory.tables.findCustomerForPhone input.restaurantId input.turn input.phone
        input.normalizedPhone = some customerId := by
      rw [isNormal, findCustomerForPhone_eq sound.tables, owns, Option.some_or]
    unfold resolve
    rw [leads]
    rfl

theorem living_of_lookup (ran : input.lookupOrCreate directory = .ok (customerId, after)) :
    after.tables.IsLiving input.restaurantId customerId := by
  obtain ⟨rfl, owns⟩ | ⟨resolved, resolves, rfl⟩ := lookup_cases sound isNormal ran
  · obtain ⟨value, -, owns⟩ := List.exists_of_findSome?_eq_some owns
    exact living_of_owner sound.tables owns
  · obtain ⟨soundly, living⟩ := sound_of_resolve sound.tables isNormal resolves
    rw [tables_setCachedContext]
    exact (sound_of_upsert soundly isNormal living).2

theorem owner_kept_of_lookup (ran : input.lookupOrCreate directory = .ok (customerId, after))
    {otherId owner : Id} {other : String} (isOther : normalizeCustomerPhone other = some other)
    (owns : directory.tables.numberOwner otherId other = some owner) :
    after.tables.numberOwner otherId other = some owner := by
  obtain ⟨rfl, -⟩ | ⟨resolved, resolves, rfl⟩ := lookup_cases sound isNormal ran
  · exact owns
  rw [tables_setCachedContext]
  by_cases apart : input.restaurantId = otherId ∧ normalized = other
  · obtain ⟨rfl, rfl⟩ := apart
    have answers := lookup_of_owner sound isNormal (numberOwner_of_normal isNormal owns)
    rw [ran] at answers
    cases answers
    exact owner_of_upsert sound.tables isNormal resolves (.inl (by rw [owns]; rfl))
  · rw [numberOwner_of_upsert isNormal isOther apart,
      numberOwner_congr (resolve_cases sound.tables isNormal resolves).1]
    exact owns

theorem sound_of_lookup (keeps : input.KeepsNumber directory)
    (ran : input.lookupOrCreate directory = .ok (customerId, after)) :
    after.Sound ∧ after.tables.numberOwner input.restaurantId normalized = some customerId := by
  have kept : ∀ context ∈ directory.cache, normalizeCustomerPhone context.phone =
      some context.phone ∧ after.tables.numberOwner context.restaurantId context.phone =
        some context.customerId := by
    intro context isContext
    obtain ⟨isOther, owns⟩ := sound.cached context isContext
    exact ⟨isOther, owner_kept_of_lookup sound isNormal ran isOther owns⟩
  obtain ⟨rfl, owns⟩ | ⟨resolved, resolves, rfl⟩ := lookup_cases sound isNormal ran
  · exact ⟨sound, owns⟩
  have own := normal_of_normalized (show normalizeCustomerPhone input.phone = _ from isNormal)
  have owns := owner_of_upsert sound.tables isNormal resolves (keeps normalized isNormal)
  obtain ⟨soundly, living⟩ := sound_of_resolve sound.tables isNormal resolves
  refine ⟨⟨?_, fun context isContext => ?_⟩, ?_⟩
  · rw [tables_setCachedContext]
    exact (sound_of_upsert soundly isNormal living).1
  · rcases mem_setCachedContext isContext with ⟨ofRestaurant, ofPhone, isSame⟩ | isContext
    · rw [ofRestaurant, ofPhone, isSame, tables_setCachedContext]
      exact ⟨own, owns⟩
    · exact kept context isContext
  · rw [tables_setCachedContext]
    exact owns

end

end LookupInput

theorem foldl_mergeIdentity {target : Id} {taken rows : List CustomerIdentity}
    {seen : List (CustomerIdentityType × String)}
    (keys : (taken.map CustomerIdentity.key).Nodup)
    (unseen : ∀ identity ∈ taken, identity.key ∉ seen) :
    (taken.foldl (mergeIdentity target) (rows, seen)).1 =
      KeyedRows.update (fun row => decide (row.id ∈ taken.map CustomerIdentity.id))
        (fun row => { row with customerId := target }) rows := by
  induction taken generalizing rows seen with
  | nil => simp [KeyedRows.update]
  | cons identity rest ih =>
    rw [List.map_cons, List.nodup_cons] at keys
    rw [List.foldl_cons, mergeIdentity, if_neg (unseen identity List.mem_cons_self), ih keys.2]
    · simp only [KeyedRows.update, List.map_map]
      refine List.map_congr_left fun row _ => ?_
      by_cases here : row.id = identity.id
      · simp [here]
      · simp [here]
    · intro other isOther isSeen
      rcases List.mem_cons.1 isSeen with same | isSeen
      · exact keys.1 (same ▸ List.mem_map_of_mem isOther)
      · exact unseen other (List.mem_cons_of_mem _ isOther) isSeen

namespace MergeInput

variable {input : MergeInput} {now : Instant} {before after : CustomerTables}

/-- Whom what was someone's is of after a merge. -/
def heir (input : MergeInput) (customerId : Id) : Id :=
  if customerId ∈ input.sourceCustomerIds then input.targetCustomerId else customerId

def moveIdentity (input : MergeInput) (identity : CustomerIdentity) : CustomerIdentity :=
  { identity with customerId := input.heir identity.customerId }

def mergeProfile (input : MergeInput) (now : Instant) (customer : MergeCustomer) : MergeCustomer :=
  if customer.restaurantId = input.restaurantId ∧ customer.id ∈ input.sourceCustomerIds then
    { customer with mergedIntoId := some input.targetCustomerId, archivedAt := some now }
  else customer

variable {restaurantId customerId : Id}

section

variable (sound : before.Sound) (committed : input.Committed now before after)
include sound committed

theorem restaurant_of_merged (living : before.IsLiving restaurantId customerId)
    (isMerged : customerId ∈ input.targetCustomerId :: input.sourceCustomerIds) :
    restaurantId = input.restaurantId := by
  obtain ⟨profile, isProfile, isSame, rfl, -⟩ := living
  obtain ⟨customer, isCustomer, ofRestaurant, isId⟩ := committed.found customerId isMerged
  have same : profile = customer.unnamed :=
    List.inj_on_of_nodup_map sound.profileIds isProfile (List.mem_map_of_mem isCustomer)
      (isSame.trans isId.symm)
  rw [same]
  exact ofRestaurant

/-- An identity of a source is moved to the target, and all others stay. -/
theorem identities_of_merge : after.identities = before.identities.map input.moveIdentity := by
  have customerIds : (before.customers.map MergeCustomer.id).Nodup := by
    have nodup := sound.profileIds
    rwa [CustomerTables.profiles, List.map_map] at nodup
  have same : ∀ first ∈ before.identities, ∀ second ∈ before.identities,
      first.customerId ∈ input.targetCustomerId :: input.sourceCustomerIds →
        second.customerId ∈ input.targetCustomerId :: input.sourceCustomerIds →
          first.key = second.key → first = second := by
    intro first isFirst second isSecond firstMerged secondMerged sameKey
    refine List.inj_on_of_nodup_map sound.identityKeys isFirst isSecond (Prod.ext ?_ sameKey)
    exact (restaurant_of_merged sound committed (sound.owned first isFirst) firstMerged).trans
      (restaurant_of_merged sound committed (sound.owned second isSecond) secondMerged).symm
  rw [committed.identities]
  unfold mergeIdentities
  dsimp only
  generalize taking : List.flatMap _ _ = taken
  have isTaken : ∀ identity, identity ∈ taken ↔
      identity ∈ before.identities ∧ identity.customerId ∈ input.sourceCustomerIds := by
    intro identity
    simp only [← taking, List.mem_flatMap, List.mem_filter, loadMergeContext, beq_iff_eq,
      Bool.and_eq_true, decide_eq_true_eq, bne_iff_ne]
    constructor
    · rintro ⟨customer, ⟨-, isSource, -⟩, isIdentity, isOwner⟩
      exact ⟨isIdentity, isOwner ▸ isSource⟩
    · rintro ⟨isIdentity, isSource⟩
      obtain ⟨customer, isCustomer, ofRestaurant, isSame⟩ :=
        committed.found _ (List.mem_cons_of_mem _ isSource)
      refine ⟨customer, ⟨⟨isCustomer, ofRestaurant, ?_⟩, ?_, ?_⟩, isIdentity, isSame.symm⟩
      · exact isSame ▸ List.mem_cons_of_mem _ isSource
      · exact isSame ▸ isSource
      · exact fun isTarget => committed.apart (isTarget ▸ isSame ▸ isSource)
  have nodup : taken.Nodup := by
    rw [← taking]
    have rows : before.identities.Nodup := List.Nodup.of_map _ sound.identityIds
    refine List.nodup_flatMap.2 ⟨fun _ _ => rows.filter _, ?_⟩
    have distinct := (List.pairwise_map.1 customerIds).filter fun customer =>
      customer.restaurantId == input.restaurantId &&
        decide (customer.id ∈ input.targetCustomerId :: input.sourceCustomerIds)
    refine (distinct.filter _).imp fun apart identity isFirst isSecond => apart ?_
    have first := (List.mem_filter.1 isFirst).2
    have second := (List.mem_filter.1 isSecond).2
    exact (beq_iff_eq.1 first).symm.trans (beq_iff_eq.1 second)
  rw [foldl_mergeIdentity]
  · refine List.map_congr_left fun identity isIdentity => ?_
    have taken_iff : identity.id ∈ taken.map CustomerIdentity.id ↔
        identity.customerId ∈ input.sourceCustomerIds := by
      constructor
      · intro isId
        obtain ⟨other, isOther, sameId⟩ := List.mem_map.1 isId
        have isRow := (isTaken other).1 isOther
        rw [← List.inj_on_of_nodup_map sound.identityIds isRow.1 isIdentity sameId]
        exact isRow.2
      · exact fun isSource => List.mem_map_of_mem ((isTaken identity).2 ⟨isIdentity, isSource⟩)
    simp only [taken_iff, decide_eq_true_eq, moveIdentity, heir]
    split <;> rfl
  · refine nodup.map_on fun first isFirst second isSecond => ?_
    have isFirst := (isTaken first).1 isFirst
    have isSecond := (isTaken second).1 isSecond
    exact same first isFirst.1 second isSecond.1 (List.mem_cons_of_mem _ isFirst.2)
      (List.mem_cons_of_mem _ isSecond.2)
  · intro identity isMoved isHeld
    have isMoved := (isTaken identity).1 isMoved
    obtain ⟨held, isHeld, sameKey⟩ := List.mem_map.1 isHeld
    obtain ⟨isRow, ofTarget⟩ := List.mem_filter.1 isHeld
    have ofTarget := beq_iff_eq.1 ofTarget
    have isSame := same held isRow identity isMoved.1 (ofTarget ▸ List.mem_cons_self)
      (List.mem_cons_of_mem _ isMoved.2) sameKey
    exact committed.apart (ofTarget ▸ isSame ▸ isMoved.2)

end

theorem profiles_of_merge (committed : input.Committed now before after) :
    after.profiles = before.profiles.map (input.mergeProfile now) := by
  unfold CustomerTables.profiles
  rw [committed.customers]
  simp only [mergeCustomers, KeyedRows.update, List.map_map]
  refine List.map_congr_left fun customer _ => ?_
  simp only [Function.comp_apply, mergeProfile, merges, MergeCustomer.unnamed, Bool.and_eq_true,
    beq_iff_eq, decide_eq_true_eq]
  by_cases isTarget : customer.id = input.targetCustomerId
  · simp only [isTarget, if_true]
    split <;> rfl
  · simp only [isTarget, if_false]
    by_cases isSource : customer.restaurantId = input.restaurantId ∧
        customer.id ∈ input.sourceCustomerIds
    · simp [isSource]
    · simp only [if_neg isSource]
      exact (if_neg isSource).symm

/-- What a number leads to is moved from a source to the target. -/
theorem numberOwner_of_merge (sound : before.Sound) (committed : input.Committed now before after)
    (restaurantId : Id) (phone : String) :
    after.numberOwner restaurantId phone =
      (before.numberOwner restaurantId phone).map input.heir := by
  have owners : after.owner? restaurantId = fun value =>
      (before.owner? restaurantId value).map input.heir := by
    funext value
    unfold CustomerTables.owner? CustomerTables.phoneIdentity?
    rw [identities_of_merge sound committed, List.find?_map, Option.map_map, Option.map_map]
    rfl
  unfold CustomerTables.numberOwner
  rw [owners, List.map_findSome?]
  rfl

theorem living_of_unmerged (committed : input.Committed now before after)
    (living : before.IsLiving restaurantId customerId)
    (unmerged : customerId ∉ input.sourceCustomerIds) : after.IsLiving restaurantId customerId := by
  obtain ⟨profile, isProfile, rfl, ofRestaurant, isLiving⟩ := living
  have kept : input.mergeProfile now profile = profile := if_neg fun merged => unmerged merged.2
  refine ⟨profile, ?_, rfl, ofRestaurant, isLiving⟩
  rw [profiles_of_merge committed, ← kept]
  exact List.mem_map_of_mem isProfile

theorem living_target (committed : input.Committed now before after) :
    after.IsLiving input.restaurantId input.targetCustomerId := by
  obtain ⟨customer, isCustomer, ofRestaurant, isSame⟩ :=
    committed.found _ List.mem_cons_self
  obtain ⟨archived, merged⟩ :=
    committed.active customer isCustomer ofRestaurant (isSame ▸ List.mem_cons_self)
  refine living_of_unmerged committed ⟨customer.unnamed, List.mem_map_of_mem isCustomer, isSame,
    ofRestaurant, ?_⟩ committed.apart
  simp [MergeCustomer.isLiving, MergeCustomer.unnamed, archived, merged]

theorem living_heir (sound : before.Sound) (committed : input.Committed now before after)
    (living : before.IsLiving restaurantId customerId) :
    after.IsLiving restaurantId (input.heir customerId) := by
  unfold heir
  split
  next isSource =>
    rw [restaurant_of_merged sound committed living (List.mem_cons_of_mem _ isSource)]
    exact living_target committed
  next unmerged => exact living_of_unmerged committed living unmerged

/-- What a merge needs for the numbers of its sources to be found: that identities lead to the
stored ones, and that the contexts of the sources are under stored numbers. -/
structure KeepsNumbers (input : MergeInput) (directory : CustomerDirectory) : Prop where
  stored : ∀ customer ∈ directory.tables.customers, customer.restaurantId = input.restaurantId →
    customer.id ∈ input.sourceCustomerIds → ∀ normalized,
      normalizeCustomerPhone customer.phone = some normalized →
        (directory.tables.numberOwner input.restaurantId normalized).isSome
  contexts : ∀ context ∈ directory.cache, context.customerId ∈ input.sourceCustomerIds →
    ∃ customer ∈ directory.tables.customers, customer.restaurantId = input.restaurantId ∧
      customer.id ∈ input.targetCustomerId :: input.sourceCustomerIds ∧
        context.phone = (normalizeCustomerPhone customer.phone).getD customer.phone

theorem sound_of_merge {directory : CustomerDirectory} (sound : directory.tables.Sound)
    (committed : input.Committed now directory.tables after) (keeps : input.KeepsNumbers directory) :
    after.Sound := by
  have identities := identities_of_merge sound committed
  have profiles := profiles_of_merge committed
  refine ⟨?_, ?_, ?_, ?_, ?_⟩
  · rw [profiles, List.map_map]
    have kept : MergeCustomer.id ∘ input.mergeProfile now = MergeCustomer.id := by
      funext profile
      simp only [Function.comp_apply, mergeProfile]
      split <;> rfl
    rw [kept]
    exact sound.profileIds
  · rw [identities, List.map_map]
    exact sound.identityIds
  · rw [identities, List.map_map]
    exact sound.identityKeys
  · rw [identities]
    intro identity isIdentity
    obtain ⟨moved, isMoved, rfl⟩ := List.mem_map.1 isIdentity
    exact living_heir sound committed (sound.owned moved isMoved)
  · rw [profiles]
    intro profile isProfile dead own
    obtain ⟨old, isOld, rfl⟩ := List.mem_map.1 isProfile
    rw [numberOwner_of_merge sound committed, Option.isSome_map]
    unfold mergeProfile at dead own ⊢
    split at dead
    next isSource =>
      rw [if_pos isSource] at own ⊢
      obtain ⟨customer, isCustomer, rfl⟩ := List.mem_map.1 isOld
      have ofRestaurant : customer.restaurantId = input.restaurantId := isSource.1
      have owned := keeps.stored customer isCustomer isSource.1 isSource.2 _ own
      rw [← ofRestaurant] at owned
      exact owned
    next unmerged =>
      rw [if_neg unmerged] at own ⊢
      exact sound.covered old isOld dead own

variable {directory merged : CustomerDirectory}

/-- Contexts under the numbers of some profiles are dropped. -/
theorem mem_deleteCached (restaurantId : Id) (customers : List MergeCustomer)
    (start : CustomerDirectory) :
    (customers.foldl (fun directory customer => directory.deleteCached restaurantId
        ((normalizeCustomerPhone customer.phone).getD customer.phone)) start).tables =
          start.tables ∧
      ∀ context ∈ (customers.foldl (fun directory customer => directory.deleteCached restaurantId
          ((normalizeCustomerPhone customer.phone).getD customer.phone)) start).cache,
        context ∈ start.cache ∧ ∀ customer ∈ customers, ¬(context.restaurantId = restaurantId ∧
          context.phone = (normalizeCustomerPhone customer.phone).getD customer.phone) := by
  induction customers generalizing start with
  | nil => exact ⟨rfl, fun _ isContext => ⟨isContext, fun _ isCustomer => by cases isCustomer⟩⟩
  | cons first rest ih =>
    obtain ⟨tables, contexts⟩ := ih (start.deleteCached restaurantId
      ((normalizeCustomerPhone first.phone).getD first.phone))
    refine ⟨tables, fun context isContext => ?_⟩
    obtain ⟨isKept, others⟩ := contexts context isContext
    obtain ⟨isContext, apart⟩ := List.mem_filter.1 isKept
    refine ⟨isContext, List.forall_mem_cons.2 ⟨?_, others⟩⟩
    rintro ⟨ofRestaurant, ofPhone⟩
    simp [ofRestaurant, ofPhone] at apart

theorem mergeInDirectory_cases (ran : input.mergeInDirectory directory = .ok merged) :
    input.Committed directory.now directory.tables merged.tables ∧
      ∀ context ∈ merged.cache, context ∈ directory.cache ∧
        ∀ customer ∈ merged.tables.customers, customer.restaurantId = input.restaurantId →
          customer.id ∈ input.targetCustomerId :: input.sourceCustomerIds →
            ¬(context.restaurantId = input.restaurantId ∧
              context.phone = (normalizeCustomerPhone customer.phone).getD customer.phone) := by
  obtain ⟨tables, applied, ran⟩ := ok_of_bind ran
  cases ran
  obtain ⟨same, contexts⟩ := mem_deleteCached input.restaurantId
    (tables.customers.filter fun customer =>
      customer.restaurantId == input.restaurantId &&
        decide (customer.id ∈ input.targetCustomerId :: input.sourceCustomerIds))
    { directory with tables }
  rw [same]
  refine ⟨committed_of_applyMerge applied, fun context isContext => ?_⟩
  obtain ⟨isContext, dropped⟩ := contexts context isContext
  exact ⟨isContext, fun customer isCustomer ofRestaurant isMerged =>
    dropped customer (List.mem_filter.2 ⟨isCustomer, by simp [ofRestaurant, isMerged]⟩)⟩

theorem sound_of_mergeInDirectory (sound : directory.Sound) (keeps : input.KeepsNumbers directory)
    (ran : input.mergeInDirectory directory = .ok merged) : merged.Sound := by
  obtain ⟨committed, contexts⟩ := mergeInDirectory_cases ran
  refine ⟨sound_of_merge sound.tables committed keeps, fun context isContext => ?_⟩
  obtain ⟨isContext, dropped⟩ := contexts context isContext
  obtain ⟨own, owns⟩ := sound.cached context isContext
  refine ⟨own, ?_⟩
  have unmerged : context.customerId ∉ input.sourceCustomerIds := by
    intro isSource
    obtain ⟨customer, isCustomer, ofRestaurant, isMerged, ofPhone⟩ :=
      keeps.contexts context isContext isSource
    obtain ⟨value, -, valueOwns⟩ := List.exists_of_findSome?_eq_some owns
    have living := living_of_owner sound.tables valueOwns
    have isHere := restaurant_of_merged sound.tables committed living
      (List.mem_cons_of_mem _ isSource)
    have isRow : input.mergeProfile directory.now customer.unnamed ∈ merged.tables.profiles := by
      rw [profiles_of_merge committed]
      exact List.mem_map_of_mem (List.mem_map_of_mem isCustomer)
    obtain ⟨row, isRow, same⟩ := List.mem_map.1 isRow
    have kept : row.id = customer.id ∧ row.restaurantId = customer.restaurantId ∧
        row.phone = customer.phone := by
      have columns := congrArg (fun profile : MergeCustomer =>
        (profile.id, profile.restaurantId, profile.phone)) same
      have stays : ∀ profile : MergeCustomer, ((input.mergeProfile directory.now profile).id,
            (input.mergeProfile directory.now profile).restaurantId,
              (input.mergeProfile directory.now profile).phone) =
                (profile.id, profile.restaurantId, profile.phone) := by
        intro profile
        unfold mergeProfile
        split <;> rfl
      rw [stays] at columns
      simpa [MergeCustomer.unnamed] using columns
    refine dropped row isRow (kept.2.1.trans ofRestaurant) (kept.1 ▸ isMerged) ⟨isHere, ?_⟩
    rw [kept.2.2]
    exact ofPhone
  rw [numberOwner_of_merge sound.tables committed, owns, Option.map_some, heir, if_neg unmerged]

theorem owner_of_source (sound : directory.Sound) (keeps : input.KeepsNumbers directory)
    (committed : input.Committed directory.now directory.tables merged.tables)
    {phone normalized : String} (isNormal : normalizeCustomerPhone phone = some normalized)
    {turn : Nat}
    (leads : directory.tables.findCustomerForPhone restaurantId turn phone (some normalized) =
      some customerId) (isSource : customerId ∈ input.sourceCustomerIds) :
    directory.tables.numberOwner restaurantId phone = some customerId := by
  have living := living_of_find sound.tables leads
  have isHere := restaurant_of_merged sound.tables committed living (List.mem_cons_of_mem _ isSource)
  rw [findCustomerForPhone_eq sound.tables] at leads
  rcases Option.or_eq_some_iff.1 leads with owns | ⟨unowned, isHead⟩
  · exact owns
  · obtain ⟨customer, isCustomer, isSame, ofRestaurant, isForm, -⟩ := stored_of_head isHead
    have owned := keeps.stored customer isCustomer (ofRestaurant.trans isHere) (isSame ▸ isSource)
      normalized (normalized_of_mem_lookupValues isNormal isForm)
    obtain ⟨owner, owns⟩ := Option.isSome_iff_exists.1 owned
    rw [← isHere] at owns
    exact absurd ((numberOwner_of_normal isNormal owns).symm.trans unowned)
      (Option.some_ne_none owner)

theorem moved_of_merge (sound : directory.Sound) (keeps : input.KeepsNumbers directory)
    (ran : input.mergeInDirectory directory = .ok merged) {phone normalized : String}
    (isNormal : normalizeCustomerPhone phone = some normalized)
    (owns : directory.tables.numberOwner restaurantId phone = some customerId)
    (isSource : customerId ∈ input.sourceCustomerIds) :
    (∀ turn, merged.tables.findCustomerForPhone restaurantId turn phone (some normalized) =
        some input.targetCustomerId) ∧
      ∀ lookup : LookupInput, lookup.restaurantId = restaurantId → lookup.phone = phone →
        (lookup.lookupOrCreate merged).map Prod.fst = .ok input.targetCustomerId := by
  have after := sound_of_mergeInDirectory sound keeps ran
  have ownsAfter : merged.tables.numberOwner restaurantId phone = some input.targetCustomerId := by
    rw [numberOwner_of_merge sound.tables (mergeInDirectory_cases ran).1, owns, Option.map_some,
      heir, if_pos isSource]
  constructor
  · intro turn
    rw [findCustomerForPhone_eq after.tables, ownsAfter, Option.some_or]
  · rintro lookup rfl rfl
    exact LookupInput.lookup_of_owner after isNormal ownsAfter

end MergeInput

namespace EraseInput

variable {input : EraseInput} {directory : CustomerDirectory} {restaurantId customerId : Id}

def erasedIds (input : EraseInput) (tables : CustomerTables) : List Id :=
  (tables.customers.filter (input.erases tables)).map MergeCustomer.id

/-- What an erasure needs for the numbers of the other profiles that are not living: identities of
profiles that stay.  No context may name an erased profile. -/
structure KeepsNumbers (input : EraseInput) (directory : CustomerDirectory) : Prop where
  others : ∀ customer ∈ directory.tables.customers,
    customer.id ∉ input.erasedIds directory.tables → customer.isLiving = false →
      normalizeCustomerPhone customer.phone = some customer.phone →
        ∃ form ∈ customerPhoneLookupValues customer.phone,
          ∃ owner ∉ input.erasedIds directory.tables,
            directory.tables.owner? customer.restaurantId form = some owner
  contexts : ∀ context ∈ directory.cache,
    context.customerId ∉ input.erasedIds directory.tables

theorem normalized_of_erased (now : Instant) (customer : MergeCustomer) :
    normalizeCustomerPhone (input.erased now customer).phone = none := by
  unfold erased
  rw [String.append_assoc, String.append_assoc]
  exact normalized_erased _

theorem identityKeys_of_erase (sound : directory.tables.Sound) :
    ((input.eraseSubject directory).tables.identities.map fun identity =>
      (identity.restaurantId, identity.key)).Nodup :=
  sound.identityKeys.sublist (List.filter_sublist.map _)

theorem owner?_of_erase (sound : directory.tables.Sound) {value : String}
    (owns : directory.tables.owner? restaurantId value = some customerId)
    (stays : customerId ∉ input.erasedIds directory.tables) :
    (input.eraseSubject directory).tables.owner? restaurantId value = some customerId := by
  obtain ⟨identity, found, rfl⟩ := Option.map_eq_some_iff.1 owns
  obtain ⟨isIdentity, rfl, hasKey⟩ := phoneIdentity?_some found
  have isKept : identity ∈ (input.eraseSubject directory).tables.identities :=
    List.mem_filter.2 ⟨isIdentity, decide_eq_true stays⟩
  simp only [CustomerIdentity.key, Prod.mk.injEq] at hasKey
  have isFound := phoneIdentity?_of_mem (identityKeys_of_erase sound) isKept hasKey.1
  rw [hasKey.2] at isFound
  rw [CustomerTables.owner?, isFound, Option.map_some]

theorem unowned_of_erase {value : String}
    (unowned : directory.tables.owner? restaurantId value = none) :
    (input.eraseSubject directory).tables.owner? restaurantId value = none := by
  have none := List.find?_eq_none.1 (Option.map_eq_none_iff.1 unowned)
  exact Option.map_eq_none_iff.2 <| List.find?_eq_none.2 fun identity isIdentity =>
    none identity (List.mem_of_mem_filter isIdentity)

theorem numberOwner_of_erase (sound : directory.tables.Sound) {phone : String}
    (owns : directory.tables.numberOwner restaurantId phone = some customerId)
    (stays : customerId ∉ input.erasedIds directory.tables) :
    (input.eraseSubject directory).tables.numberOwner restaurantId phone = some customerId := by
  obtain ⟨front, form, back, forms, formOwns, unowned⟩ := List.findSome?_eq_some_iff.1 owns
  exact List.findSome?_eq_some_iff.2 ⟨front, form, back, forms,
    owner?_of_erase sound formOwns stays, fun value isForm => unowned_of_erase (unowned value isForm)⟩

theorem mem_profiles_of_erase {profile : MergeCustomer}
    (isProfile : profile ∈ (input.eraseSubject directory).tables.profiles) :
    normalizeCustomerPhone profile.phone = none ∨ ∃ customer ∈ directory.tables.customers,
        customer.id ∉ input.erasedIds directory.tables ∧ profile = customer.unnamed := by
  obtain ⟨row, isRow, rfl⟩ := List.mem_map.1 isProfile
  obtain ⟨customer, isCustomer, same⟩ := List.mem_map.1 isRow
  have same : (if decide (customer.id ∈ input.erasedIds directory.tables) = true then
      input.erased directory.now customer else customer) = row := same
  by_cases isErased : customer.id ∈ input.erasedIds directory.tables
  · rw [if_pos (decide_eq_true isErased)] at same
    rw [← same]
    exact .inl (normalized_of_erased directory.now customer)
  · rw [if_neg (by simpa using isErased)] at same
    rw [← same]
    exact .inr ⟨customer, isCustomer, isErased, rfl⟩

theorem profileIds_of_erase : (input.eraseSubject directory).tables.profiles.map MergeCustomer.id =
      directory.tables.profiles.map MergeCustomer.id := by
  unfold CustomerTables.profiles
  rw [List.map_map, List.map_map]
  exact KeyedRows.map_update _ _ fun _ => rfl

theorem living_of_erase (living : directory.tables.IsLiving restaurantId customerId)
    (stays : customerId ∉ input.erasedIds directory.tables) :
    (input.eraseSubject directory).tables.IsLiving restaurantId customerId := by
  obtain ⟨profile, isProfile, rfl, meets⟩ := living
  obtain ⟨customer, isCustomer, rfl⟩ := List.mem_map.1 isProfile
  refine ⟨customer.unnamed, List.mem_map_of_mem ?_, rfl, meets⟩
  exact List.mem_map.2 ⟨customer, isCustomer, if_neg fun isErased =>
    stays (of_decide_eq_true isErased)⟩

theorem sound_of_erase (sound : directory.Sound) (keeps : input.KeepsNumbers directory) :
    (input.eraseSubject directory).Sound := by
  refine ⟨⟨?_, ?_, identityKeys_of_erase sound.tables, ?_, ?_⟩, ?_⟩
  · rw [profileIds_of_erase]
    exact sound.tables.profileIds
  · exact sound.tables.identityIds.sublist (List.filter_sublist.map _)
  · intro identity isIdentity
    obtain ⟨isIdentity, stays⟩ := List.mem_filter.1 isIdentity
    exact living_of_erase (sound.tables.owned identity isIdentity) (of_decide_eq_true stays)
  · intro profile isProfile dead own
    obtain isErased | ⟨customer, isCustomer, stays, rfl⟩ := mem_profiles_of_erase isProfile
    · exact absurd (own.symm.trans isErased) (Option.some_ne_none _)
    · obtain ⟨form, isForm, owner, ownerStays, owns⟩ :=
        keeps.others customer isCustomer stays dead own
      refine List.findSome?_isSome_iff.2 ⟨form, ?_, ?_⟩
      · exact List.mem_filter.2 ⟨isForm, isCompactPhone_of_normal own isForm⟩
      · exact Option.isSome_of_eq_some (owner?_of_erase sound.tables owns ownerStays)
  · intro context isContext
    obtain ⟨own, owns⟩ := sound.cached context isContext
    exact ⟨own, numberOwner_of_erase sound.tables owns (keeps.contexts context isContext)⟩

end EraseInput

/-- A lookup is of a number that has a normal form. -/
inductive DirectoryOp where
  | lookup (input : LookupInput) (accepted : input.normalizedPhone.isSome = true)
  | merge (input : MergeInput)
  | erase (input : EraseInput)
  | wait (elapsed : Nat)

variable (directory : CustomerDirectory)

namespace DirectoryOp

/-- What fails changes nothing. -/
def step : DirectoryOp → CustomerDirectory
  | .lookup input _ =>
    match input.lookupOrCreate directory with
    | .ok (_, after) => after
    | .error _ => directory
  | .merge input =>
    match input.mergeInDirectory directory with
    | .ok merged => merged
    | .error _ => directory
  | .erase input => input.eraseSubject directory
  | .wait elapsed => directory.wait elapsed

def run (ops : List DirectoryOp) : CustomerDirectory :=
  ops.foldl step directory

/-- The numbers that an operation touches are kept. -/
def Keeps : DirectoryOp → Prop
  | .lookup input _ => input.KeepsNumber directory
  | .merge input => (∃ merged, input.mergeInDirectory directory = .ok merged) →
      input.KeepsNumbers directory
  | .erase input => input.KeepsNumbers directory
  | .wait _ => True

def IsLookup : DirectoryOp → Prop
  | .lookup _ _ | .wait _ => True
  | .merge _ | .erase _ => False

/-- Numbers lead to living profiles, spellings of one number to one of them until a merge or an
erasure, and what led to a source of a merge leads to the target. -/
structure NumbersResolve (start : CustomerDirectory) (ops : List DirectoryOp) : Prop where
  living : ∀ past, past <+: ops → ∀ input : LookupInput, input.normalizedPhone.isSome →
    ∀ customerId after, input.lookupOrCreate (run start past) = .ok (customerId, after) →
      after.tables.IsLiving input.restaurantId customerId
  found : ∀ past, past <+: ops → ∀ restaurantId turn phone customerId,
    (run start past).tables.findCustomerForPhone restaurantId turn phone
        (normalizeCustomerPhone phone) = some customerId →
      (run start past).tables.IsLiving restaurantId customerId
  same : ∀ past input accepted between, past ++ .lookup input accepted :: between <+: ops →
    (∀ op ∈ between, op.IsLookup) → ∀ customerId after,
      input.lookupOrCreate (run start past) = .ok (customerId, after) →
        ∀ again : LookupInput, again.restaurantId = input.restaurantId →
          again.normalizedPhone = input.normalizedPhone →
            (again.lookupOrCreate (run start (past ++ .lookup input accepted :: between))).map
              Prod.fst = .ok customerId
  moved : ∀ past input, past ++ [.merge input] <+: ops → ∀ merged,
    input.mergeInDirectory (run start past) = .ok merged → ∀ restaurantId phone,
      (normalizeCustomerPhone phone).isSome → ∀ customerId ∈ input.sourceCustomerIds,
        ((∃ turn, (run start past).tables.findCustomerForPhone restaurantId turn phone
              (normalizeCustomerPhone phone) = some customerId) ∨
            ∃ lookup : LookupInput, lookup.restaurantId = restaurantId ∧ lookup.phone = phone ∧
              (lookup.lookupOrCreate (run start past)).map Prod.fst = .ok customerId) →
          (∀ turn, merged.tables.findCustomerForPhone restaurantId turn phone
              (normalizeCustomerPhone phone) = some input.targetCustomerId) ∧
            ∀ lookup : LookupInput, lookup.restaurantId = restaurantId → lookup.phone = phone →
              (lookup.lookupOrCreate merged).map Prod.fst = .ok input.targetCustomerId

variable {directory start : CustomerDirectory} {ops past : List DirectoryOp}

theorem sound_of_wait (sound : directory.Sound) (elapsed : Nat) : (directory.wait elapsed).Sound :=
  ⟨sound.tables, fun context isContext =>
    sound.cached context (List.mem_of_mem_filter isContext)⟩

theorem sound_of_step (sound : directory.Sound) {op : DirectoryOp} (keeps : op.Keeps directory) :
    (op.step directory).Sound := by
  cases op with
  | lookup input accepted =>
    obtain ⟨normalized, isNormal⟩ := Option.isSome_iff_exists.1 accepted
    simp only [step]
    split
    next ran => exact (LookupInput.sound_of_lookup sound isNormal keeps ran).1
    next => exact sound
  | merge input =>
    simp only [step]
    split
    next ran => exact MergeInput.sound_of_mergeInDirectory sound (keeps ⟨_, ran⟩) ran
    next => exact sound
  | erase input => exact EraseInput.sound_of_erase sound keeps
  | wait elapsed => exact sound_of_wait sound elapsed

theorem sound_of_run (sound : start.Sound)
    (keeps : ∀ past op, past ++ [op] <+: ops → op.Keeps (run start past)) (isPast : past <+: ops) :
    (run start past).Sound := by
  induction past using List.reverseRecOn with
  | nil => exact sound
  | append_singleton past op ih =>
    rw [run, List.foldl_append]
    exact sound_of_step (ih ((List.prefix_append past [op]).trans isPast)) (keeps past op isPast)

theorem owner_of_step (sound : directory.Sound) {op : DirectoryOp} (isLookup : op.IsLookup)
    {restaurantId customerId : Id} {normalized : String}
    (own : normalizeCustomerPhone normalized = some normalized)
    (owns : directory.tables.numberOwner restaurantId normalized = some customerId) :
    (op.step directory).tables.numberOwner restaurantId normalized = some customerId := by
  cases op with
  | lookup input accepted =>
    obtain ⟨_, isNormal⟩ := Option.isSome_iff_exists.1 accepted
    simp only [step]
    split
    next ran => exact LookupInput.owner_kept_of_lookup sound isNormal ran own owns
    next => exact owns
  | merge input => cases isLookup
  | erase input => cases isLookup
  | wait elapsed => exact owns

/-- A number that was looked up leads to its answer until a merge or an erasure. -/
theorem owner_of_lookups (sound : start.Sound)
    (keeps : ∀ past op, past ++ [op] <+: ops → op.Keeps (run start past)) {input : LookupInput}
    {accepted : input.normalizedPhone.isSome = true} {between : List DirectoryOp}
    (isPast : past ++ .lookup input accepted :: between <+: ops)
    (lookups : ∀ op ∈ between, op.IsLookup) {customerId : Id} {after : CustomerDirectory}
    (ran : input.lookupOrCreate (run start past) = .ok (customerId, after)) {normalized : String}
    (isNormal : input.normalizedPhone = some normalized) :
    (run start (past ++ .lookup input accepted :: between)).tables.numberOwner input.restaurantId
      normalized = some customerId := by
  have own := normal_of_normalized (show normalizeCustomerPhone input.phone = _ from isNormal)
  induction between using List.reverseRecOn with
  | nil =>
    have atPast := sound_of_run sound keeps ((List.prefix_append past _).trans isPast)
    have owns := (LookupInput.sound_of_lookup atPast isNormal
      (keeps past (.lookup input accepted) isPast) ran).2
    rw [run, List.foldl_append]
    change (step (run start past) (.lookup input accepted)).tables.numberOwner _ _ = _
    simp only [step, ran]
    exact owns
  | append_singleton between op ih =>
    have isPrefix : past ++ .lookup input accepted :: between <+: ops := by
      refine List.IsPrefix.trans ?_ isPast
      rw [← List.cons_append, ← List.append_assoc]
      exact List.prefix_append _ _
    have owns := ih isPrefix fun op isOp => lookups op (List.mem_append_left _ isOp)
    rw [← List.cons_append, ← List.append_assoc, run, List.foldl_append]
    exact owner_of_step (sound_of_run sound keeps isPrefix)
      (lookups op (List.mem_append_right _ List.mem_cons_self)) own owns

/-- As long as numbers are kept, they lead to living profiles, and follow merges. -/
theorem numbersResolve_of_keeps (sound : start.Sound)
    (keeps : ∀ past op, past ++ [op] <+: ops → op.Keeps (run start past)) :
    NumbersResolve start ops := by
  refine ⟨?_, ?_, ?_, ?_⟩
  · intro past isPast input accepted customerId after ran
    obtain ⟨normalized, isNormal⟩ := Option.isSome_iff_exists.1 accepted
    exact LookupInput.living_of_lookup (sound_of_run sound keeps isPast) isNormal ran
  · intro past isPast restaurantId turn phone customerId leads
    exact living_of_find (sound_of_run sound keeps isPast).tables leads
  · intro past input accepted between isPast lookups customerId after ran again sameRestaurant
      sameNumber
    obtain ⟨normalized, isNormal⟩ := Option.isSome_iff_exists.1 accepted
    have isAgain : again.normalizedPhone = some normalized := sameNumber.trans isNormal
    have owns := owner_of_lookups sound keeps isPast lookups ran isNormal
    rw [← sameRestaurant] at owns
    exact LookupInput.lookup_of_owner (sound_of_run sound keeps isPast) isAgain
      (numberOwner_of_normal isAgain owns)
  · intro past input isPast merged ran restaurantId phone accepted customerId isSource leads
    obtain ⟨normalized, isNormal⟩ := Option.isSome_iff_exists.1 accepted
    have atPast := sound_of_run sound keeps ((List.prefix_append past _).trans isPast)
    have kept : input.KeepsNumbers (run start past) := keeps past (.merge input) isPast ⟨_, ran⟩
    have committed := (MergeInput.mergeInDirectory_cases ran).1
    rw [isNormal] at leads ⊢
    have owns : (run start past).tables.numberOwner restaurantId phone = some customerId := by
      obtain ⟨turn, leads⟩ | ⟨lookup, rfl, rfl, answers⟩ := leads
      · exact MergeInput.owner_of_source atPast kept committed isNormal leads isSource
      · cases ran : lookup.lookupOrCreate (run start past) with
        | error failure =>
          rw [ran] at answers
          cases answers
        | ok answer =>
          rw [ran] at answers
          cases answers
          obtain ⟨-, owns⟩ | ⟨resolved, resolves, -⟩ :=
            LookupInput.lookup_cases atPast isNormal ran
          · exact numberOwner_of_normal isNormal owns
          · obtain ⟨-, ⟨leads, -⟩ | ⟨-, isNew, -, fresh⟩⟩ :=
              LookupInput.resolve_cases atPast.tables isNormal resolves
            · exact MergeInput.owner_of_source atPast kept committed isNormal leads isSource
            · obtain ⟨customer, isCustomer, -, isSame⟩ :=
                committed.found _ (List.mem_cons_of_mem _ isSource)
              exact absurd (isSame.trans isNew)
                (fresh customer.unnamed (List.mem_map_of_mem isCustomer))
    exact MergeInput.moved_of_merge atPast kept ran isNormal owns isSource

section

def emptyDirectory : CustomerDirectory where
  tables := ⟨[], [], [], [], [], [], [], []⟩
  cache := []
  now := 0

theorem sound_emptyDirectory : emptyDirectory.Sound := by
  refine ⟨⟨List.nodup_nil, List.nodup_nil, List.nodup_nil, ?_, ?_⟩, ?_⟩ <;>
    exact List.forall_mem_nil _

def call (phone customerId identityId : String) : LookupInput :=
  ⟨"r", phone, none, false, 0, customerId, identityId, true⟩

def mergeOf (target source : Id) : MergeInput :=
  ⟨"r", target, [source], none⟩

def twoCallers : List DirectoryOp :=
  [.lookup (call "06 00 00 00 01" "a" "ia") (by decide +kernel),
    .lookup (call "+33600000002" "b" "ib") (by decide +kernel), .merge (mergeOf "b" "a")]

theorem twoCallers_resolve : NumbersResolve emptyDirectory twoCallers := by
  refine numbersResolve_of_keeps sound_emptyDirectory fun past op isPast => ?_
  have writes : ∀ {directory : CustomerDirectory} {input : LookupInput},
      input.writesIdentity directory.tables = true → input.KeepsNumber directory :=
    fun writes _ _ => .inr writes
  rcases past with _ | ⟨_, _ | ⟨_, _ | ⟨_, rest⟩⟩⟩ <;>
    simp only [List.nil_append, List.cons_append, twoCallers, List.cons_prefix_cons,
      List.prefix_nil, List.append_eq_nil_iff, reduceCtorEq, and_false, List.nil_prefix,
      and_true] at isPast
  · subst isPast
    exact writes (by decide +kernel)
  · obtain ⟨rfl, rfl⟩ := isPast
    exact writes (by decide +kernel)
  · obtain ⟨rfl, rfl, rfl⟩ := isPast
    refine fun _ => ⟨?_, ?_⟩
    · decide +kernel
    · decide +kernel

/-- The second profile has the number of the third one, which was merged into it, and is itself
merged: the context under that number is not dropped. -/
def chainedMerges : List DirectoryOp :=
  [.lookup (call "+33600000001" "a" "ia") (by decide +kernel),
    .lookup (call "+33600000002" "b" "ib") (by decide +kernel),
    .lookup (call "+33600000003" "c" "ic") (by decide +kernel), .merge (mergeOf "a" "c"),
    .lookup (call "+33600000003" "d" "id") (by decide +kernel), .merge (mergeOf "b" "a")]

/-- A cached context leads to a merged profile. -/
theorem merged_profile_found : ∃ (start : CustomerDirectory) (ops : List DirectoryOp),
    start.Sound ∧ ¬ NumbersResolve start ops := by
  refine ⟨emptyDirectory, chainedMerges, sound_emptyDirectory, fun resolves => ?_⟩
  have answers : (call "+33600000003" "d" "id").lookupOrCreate (run emptyDirectory chainedMerges) =
      .ok ("a", run emptyDirectory chainedMerges) := by
    decide +kernel
  have dead : ∀ customer ∈ (run emptyDirectory chainedMerges).tables.profiles,
      customer.id = "a" → customer.isLiving = false := by
    decide +kernel
  obtain ⟨customer, isCustomer, isSame, -, living⟩ := resolves.living chainedMerges
    (List.prefix_refl _) (call "+33600000003" "d" "id") (by decide +kernel) "a" _ answers
  exact Bool.false_ne_true ((dead customer isCustomer isSame).symm.trans living)

end

end DirectoryOp

end Sokar.Customers
