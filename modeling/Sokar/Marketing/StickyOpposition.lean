import Sokar.Marketing.UnopposedSends

/-!
# Opposition is sticky

The opt-out register over any sequence of permission changes, oppositions that come from
elsewhere, purges, changes of all other tables and campaign workers.  An entry goes only through
an opt-in that lifts the opposition or after its retention date; while it is there, other opt-ins
are refused, and no worker writes to the address.  Its retention date stays or moves later, unless
an opposition is registered whose own date would come earlier.
-/

namespace Sokar.Marketing

open Process Transaction

namespace MarketingOptOut

/-- No entry that stays is kept for less long. -/
def Retained (optOuts optOuts' : List MarketingOptOut) : Prop :=
  ∀ entry ∈ optOuts, ∀ entry' ∈ optOuts', entry'.key = entry.key →
    entry.retainUntil ≤ entry'.retainUntil

def KeysUnique (optOuts : List MarketingOptOut) : Prop :=
  (optOuts.map key).Nodup

variable {optOuts optOuts' : List MarketingOptOut} {now : Instant}

theorem retained_of_subset (unique : KeysUnique optOuts) (sub : optOuts' ⊆ optOuts) :
    Retained optOuts optOuts' := by
  intro entry isEntry entry' isEntry' sameKey
  rw [List.inj_on_of_nodup_map unique (sub isEntry') isEntry sameKey]

theorem unique_filter (unique : KeysUnique optOuts) (kept : MarketingOptOut → Bool) :
    KeysUnique (optOuts.filter kept) :=
  List.Sublist.nodup ((List.filter_sublist).map key) unique

end MarketingOptOut

open MarketingOptOut

section

variable [UnicodeLetters] [MarketingEnv] {input : OptOutInput} {now : Instant}
variable {optOuts : List MarketingOptOut} {entry : MarketingOptOut}

def OptOutInput.recipient (input : OptOutInput) : Recipient where
  restaurantId := input.restaurantId
  channel := input.channel
  address := input.address

/-- The retention date that an opposition is registered with. -/
def OptOutInput.retainUntil (input : OptOutInput) (now : Instant) : Instant :=
  marketingOptOutRetainUntil (input.occurredAt.getD now)

/-- What a registration leaves of the entries that were there: those of the address have its
retention date, and the others are the same. -/
def OptOutInput.registered (input : OptOutInput) (now : Instant) (addressHash : String)
    (entry : MarketingOptOut) : MarketingOptOut :=
  if entry.key = (input.restaurantId, input.channel, addressHash) then
    { entry with
      reason := input.reason
      source := input.source
      optedOutAt := input.occurredAt.getD now
      retainUntil := input.retainUntil now }
  else entry

omit [UnicodeLetters] [MarketingEnv] in
theorem registered_key (addressHash : String) :
    (input.registered now addressHash entry).key = entry.key := by
  unfold OptOutInput.registered
  split <;> rfl

theorem register_of_no_hash
    (hashed : marketingOptOutHash input.restaurantId input.channel input.address = none) :
    (registerMarketingOptOut input now optOuts).2 = optOuts := by
  unfold registerMarketingOptOut
  rw [hashed]
  split <;> rfl

theorem register_of_hash {addressHash : String}
    (hashed : marketingOptOutHash input.restaurantId input.channel input.address =
      some addressHash) :
    ((registerMarketingOptOut input now optOuts).2 =
        optOuts.map (input.registered now addressHash)) ∨
      (∀ entry ∈ optOuts, entry.key ≠ (input.restaurantId, input.channel, addressHash)) ∧
        ∃ created : MarketingOptOut,
          created.key = (input.restaurantId, input.channel, addressHash) ∧
            (registerMarketingOptOut input now optOuts).2 = optOuts ++ [created] := by
  have configured : isMarketingOptOutRegisterConfigured = true := by
    obtain ⟨secret, isSecret, -⟩ := Option.bind_eq_some_iff.1 hashed
    exact Option.isSome_iff_exists.2 ⟨secret, isSecret⟩
  unfold registerMarketingOptOut
  rw [configured, hashed]
  cases found : KeyedRows.lookup key optOuts (input.restaurantId, input.channel, addressHash) with
  | some entry =>
    left
    simp only [Bool.not_true, Bool.false_eq_true, if_false, KeyedRows.upsert, found,
      Option.isSome_some, if_true, KeyedRows.update, beq_iff_eq]
    rfl
  | none =>
    right
    refine ⟨KeyedRows.lookup_eq_none.1 found, ?_⟩
    simp only [KeyedRows.upsert, found]
    exact ⟨_, rfl, rfl⟩

theorem register_of_no_key
    (skipped : (registerMarketingOptOut input now optOuts).1 = .SKIPPED_NO_KEY) :
    (registerMarketingOptOut input now optOuts).2 = optOuts := by
  unfold registerMarketingOptOut at skipped ⊢
  split at skipped
  next unconfigured => rw [if_pos unconfigured]
  next => split at skipped <;> cases skipped

theorem register_keeps (isEntry : entry ∈ optOuts) :
    ∃ entry' ∈ (registerMarketingOptOut input now optOuts).2, entry'.key = entry.key := by
  cases hashed : marketingOptOutHash input.restaurantId input.channel input.address with
  | none =>
    rw [register_of_no_hash hashed]
    exact ⟨entry, isEntry, rfl⟩
  | some addressHash =>
    rcases register_of_hash hashed with same | ⟨-, created, -, same⟩
    · rw [same]
      exact ⟨_, List.mem_map_of_mem isEntry, registered_key addressHash⟩
    · rw [same]
      exact ⟨entry, List.mem_append_left _ isEntry, rfl⟩

theorem register_unique (unique : KeysUnique optOuts) :
    KeysUnique (registerMarketingOptOut input now optOuts).2 := by
  cases hashed : marketingOptOutHash input.restaurantId input.channel input.address with
  | none =>
    rw [register_of_no_hash hashed]
    exact unique
  | some addressHash =>
    rcases register_of_hash hashed with same | ⟨absent, created, isKey, same⟩
    · rw [same, KeysUnique, List.map_map]
      have sameKeys : key ∘ input.registered now addressHash = key :=
        funext fun _ => registered_key addressHash
      rw [sameKeys]
      exact unique
    · rw [same]
      exact KeyedRows.nodup_append unique fun entry isEntry => isKey ▸ absent entry isEntry

/-- A registration shortens no retention just when its own date is not before that of the
address. -/
theorem register_retained_iff (unique : KeysUnique optOuts) :
    Retained optOuts (registerMarketingOptOut input now optOuts).2 ↔
      ∀ entry ∈ optOuts, entry.covers input.recipient →
        entry.retainUntil ≤ input.retainUntil now := by
  cases hashed : marketingOptOutHash input.restaurantId input.channel input.address with
  | none =>
    rw [register_of_no_hash hashed]
    constructor
    · rintro - entry - ⟨addressHash, isHash, -⟩
      cases hashed.symm.trans isHash
    · exact fun _ => retained_of_subset unique (List.Subset.refl _)
  | some addressHash =>
    have covers_iff : ∀ entry : MarketingOptOut, entry.covers input.recipient ↔
        entry.key = (input.restaurantId, input.channel, addressHash) := by
      intro entry
      constructor
      · rintro ⟨other, isHash, isKey⟩
        cases hashed.symm.trans isHash
        exact isKey
      · exact fun isKey => ⟨addressHash, hashed, isKey⟩
    simp only [covers_iff]
    rcases register_of_hash hashed with same | ⟨absent, created, isKey, same⟩
    · rw [same]
      constructor
      · intro retained entry isEntry isKey
        have after := retained entry isEntry _ (List.mem_map_of_mem isEntry)
          (registered_key addressHash)
        simpa [OptOutInput.registered, isKey] using after
      · intro later entry isEntry entry' isEntry' sameKey
        obtain ⟨other, isOther, rfl⟩ := List.mem_map.1 isEntry'
        rw [registered_key] at sameKey
        rw [List.inj_on_of_nodup_map unique isOther isEntry sameKey]
        unfold OptOutInput.registered
        split
        next isKey => exact later entry isEntry isKey
        next => exact le_rfl
    · rw [same]
      constructor
      · exact fun _ entry isEntry isKey' => absurd isKey' (absent entry isEntry)
      · intro _ entry isEntry entry' isEntry' sameKey
        rcases List.mem_append.1 isEntry' with old | new
        · rw [List.inj_on_of_nodup_map unique old isEntry sameKey]
        · rw [List.mem_singleton.1 new, isKey] at sameKey
          exact absurd sameKey.symm (absent entry isEntry)

theorem clear_eq_filter (restaurantId : Id) (channel : MarketingChannel) (address : Option String)
    (optOuts : List MarketingOptOut) : ∃ kept : MarketingOptOut → Bool,
      clearMarketingOptOut restaurantId channel address optOuts = optOuts.filter kept ∧
        ∀ entry, kept entry = false → entry.covers ⟨restaurantId, channel, address⟩ := by
  unfold clearMarketingOptOut
  split
  next => exact ⟨fun _ => true, by simp, fun _ impossible => nomatch impossible⟩
  next addressHash hashed =>
    refine ⟨_, rfl, fun entry isCleared => ⟨addressHash, hashed, ?_⟩⟩
    simpa using isCleared

end

variable (change : PermissionChange)

section

variable [UnicodeLetters] [MarketingEnv] [Sha256] {input : MarketingPermissionInput}
variable {available : Bool} {now : Instant} {tables : MarketingTables}

omit [MarketingEnv] in
theorem normalizePermission_ok {change : PermissionChange}
    (normalized : normalizePermission input now = .ok change) :
    change.restaurantId = input.restaurantId ∧ change.customerId = input.customerId ∧
      change.channel = input.channel ∧ change.status = input.status ∧
      change.liftsOpposition = input.liftsOpposition := by
  unfold normalizePermission at normalized
  obtain ⟨source, -, normalized⟩ := ok_of_bind normalized
  dsimp only at normalized
  split at normalized
  · cases normalized
  obtain ⟨proofHash, -, normalized⟩ := ok_of_bind normalized
  split at normalized
  · cases normalized
  split at normalized
  · cases normalized
  · cases normalized
    exact ⟨rfl, rfl, rfl, rfl, rfl⟩

/-- The permission of another restaurant's customer is in the way. -/
def isForeignPermission (tables : MarketingTables) : Bool :=
  (KeyedRows.lookup MarketingPermission.key tables.permissions change.row.key).any
    fun permission => permission.restaurantId ≠ change.restaurantId

def PermissionChange.write (tables : MarketingTables) : MarketingTables :=
  { tables with
    permissions := KeyedRows.upsert MarketingPermission.key change.row.key change.row
      (fun _ => change.row) tables.permissions
    permissionEvents := tables.permissionEvents ++ [change.event] }

section

variable {change : PermissionChange} {contact : Customer} {error : MarketingError}

theorem upsert_of_refused (refused : normalizePermission input now = .error error) :
    upsertMarketingPermission input available now tables = (.error error, tables) := by
  unfold upsertMarketingPermission
  rw [refused]
  rfl

theorem upsert_of_no_customer (normalized : normalizePermission input now = .ok change)
    (absent : assertCustomerTenant change.customerId change.restaurantId tables.customers =
      .error error) :
    upsertMarketingPermission input available now tables = (.error error, tables) := by
  unfold upsertMarketingPermission
  rw [normalized]
  simp only [bind, Except.bind, absent]

variable (normalized : normalizePermission input now = .ok change)
variable (found : assertCustomerTenant change.customerId change.restaurantId tables.customers =
  .ok contact)

include normalized found

theorem upsert_of_foreign (foreign : isForeignPermission change tables = true) :
    upsertMarketingPermission input available now tables = (.error .P2002, tables) := by
  unfold isForeignPermission at foreign
  unfold upsertMarketingPermission
  rw [normalized]
  simp only [bind, Except.bind, found, foreign, if_true]

variable (own : isForeignPermission change tables = false)

include own

theorem upsert_of_synced {optOuts : List MarketingOptOut}
    (synced : syncOptOutRegister change contact available now tables.optOuts = .ok optOuts) :
    upsertMarketingPermission input available now tables =
      (.ok change.row, { change.write tables with optOuts }) := by
  unfold isForeignPermission at own
  unfold upsertMarketingPermission
  rw [normalized]
  simp only [bind, Except.bind, found, own, Bool.false_eq_true, if_false, synced]
  rfl

/-- Where the register fails, a withdrawal is kept, and anything else undone. -/
theorem upsert_of_unsynced
    (failed : syncOptOutRegister change contact available now tables.optOuts = .error error) :
    upsertMarketingPermission input available now tables =
      if change.status ≠ .OPTED_OUT then (.error error, tables)
      else (.error .MARKETING_OPTOUT_REGISTER_UNAVAILABLE, change.write tables) := by
  unfold isForeignPermission at own
  unfold upsertMarketingPermission
  rw [normalized]
  simp only [bind, Except.bind, found, own, Bool.false_eq_true, if_false, failed]
  by_cases withdraws : change.status = .OPTED_OUT
  · simp only [ne_eq, withdraws, not_true_eq_false, if_false]
    rfl
  · simp only [ne_eq, withdraws, not_false_eq_true, if_true]

end

def PermissionChange.opposition (contact : Customer) : OptOutInput where
  restaurantId := change.restaurantId
  channel := change.channel
  address := contactAddress change.channel contact.phone contact.emailNormalized
  reason := optOutReasonFor change.source
  source := change.source
  occurredAt := some change.occurredAt

def permissionRegistration (input : MarketingPermissionInput) (available : Bool) (now : Instant)
    (tables : MarketingTables) : Option OptOutInput :=
  match normalizePermission input now with
  | .error _ => none
  | .ok change =>
    match assertCustomerTenant change.customerId change.restaurantId tables.customers with
    | .error _ => none
    | .ok contact =>
      if change.status = .OPTED_OUT ∧ available ∧ !isForeignPermission change tables then
        some (change.opposition contact)
      else none

inductive RegisterChange (input : MarketingPermissionInput) (available : Bool) (now : Instant)
    (tables : MarketingTables) : Prop where
  | left : permissionRegistration input available now tables = none →
      (upsertMarketingPermission input available now tables).2.optOuts = tables.optOuts →
        RegisterChange input available now tables
  | registered (registration : OptOutInput) :
      permissionRegistration input available now tables = some registration →
        (upsertMarketingPermission input available now tables).2.optOuts =
          (registerMarketingOptOut registration now tables.optOuts).2 →
            RegisterChange input available now tables
  | lifted (contact : Customer) :
      permissionRegistration input available now tables = none → input.status = .OPTED_IN →
        input.liftsOpposition = true →
          assertCustomerTenant input.customerId input.restaurantId tables.customers =
            .ok contact →
              (upsertMarketingPermission input available now tables).2.optOuts =
                clearMarketingOptOut input.restaurantId input.channel
                  (contactAddress input.channel contact.phone contact.emailNormalized)
                  tables.optOuts →
                    RegisterChange input available now tables

theorem registerChange (input : MarketingPermissionInput) (available : Bool) (now : Instant)
    (tables : MarketingTables) : RegisterChange input available now tables := by
  cases normalized : normalizePermission input now with
  | error error =>
    apply RegisterChange.left
    · simp only [permissionRegistration, normalized]
    · rw [upsert_of_refused normalized]
  | ok change =>
  cases found : assertCustomerTenant change.customerId change.restaurantId tables.customers with
  | error error =>
    apply RegisterChange.left
    · simp only [permissionRegistration, normalized, found]
    · rw [upsert_of_no_customer normalized found]
  | ok contact =>
  cases own : isForeignPermission change tables with
  | true =>
    apply RegisterChange.left
    · simp [permissionRegistration, normalized, found, own]
    · rw [upsert_of_foreign normalized found own]
  | false =>
  cases status : change.status with
  | UNKNOWN =>
    have synced : syncOptOutRegister change contact available now tables.optOuts =
        .ok tables.optOuts := by
      simp only [syncOptOutRegister, status]
    apply RegisterChange.left
    · simp [permissionRegistration, normalized, found, status]
    · rw [upsert_of_synced normalized found own synced]
  | OPTED_OUT =>
    cases available with
    | false =>
      have failed : syncOptOutRegister change contact false now tables.optOuts =
          .error .MARKETING_OPTOUT_REGISTER_UNAVAILABLE := by
        simp [syncOptOutRegister, status]
      apply RegisterChange.left
      · simp [permissionRegistration, normalized, found]
      · rw [upsert_of_unsynced normalized found own failed, if_neg (not_not.2 status)]
        rfl
    | true =>
      apply RegisterChange.registered (change.opposition contact)
      · simp [permissionRegistration, normalized, found, status, own]
      cases outcome : (registerMarketingOptOut (change.opposition contact) now tables.optOuts).1
      case SKIPPED_NO_KEY =>
        have failed : syncOptOutRegister change contact true now tables.optOuts =
            .error .MARKETING_OPTOUT_REGISTER_UNAVAILABLE := by
          have spread :=
            Prod.mk.eta (p := registerMarketingOptOut (change.opposition contact) now tables.optOuts)
          rw [outcome] at spread
          unfold PermissionChange.opposition at *
          simp only [syncOptOutRegister, status, Bool.not_true, Bool.false_eq_true, if_false]
          rw [← spread]
        rw [upsert_of_unsynced normalized found own failed, if_neg (not_not.2 status),
          register_of_no_key outcome]
        rfl
      all_goals
        have synced : syncOptOutRegister change contact true now tables.optOuts =
            .ok (registerMarketingOptOut (change.opposition contact) now tables.optOuts).2 := by
          have spread :=
            Prod.mk.eta (p := registerMarketingOptOut (change.opposition contact) now tables.optOuts)
          rw [outcome] at spread
          unfold PermissionChange.opposition at *
          simp only [syncOptOutRegister, status, Bool.not_true, Bool.false_eq_true, if_false]
          rw [← spread]
        rw [upsert_of_synced normalized found own synced]
  | OPTED_IN =>
    have none_ : permissionRegistration input available now tables = none := by
      simp [permissionRegistration, normalized, found, status]
    obtain ⟨sameRestaurant, sameCustomer, sameChannel, sameStatus, sameLifts⟩ :=
      normalizePermission_ok normalized
    cases synced : syncOptOutRegister change contact available now tables.optOuts with
    | error error =>
      apply RegisterChange.left none_
      rw [upsert_of_unsynced normalized found own synced, if_pos (by simp [status])]
    | ok optOuts =>
      have after : (upsertMarketingPermission input available now tables).2.optOuts =
          optOuts := by
        rw [upsert_of_synced normalized found own synced]
      simp only [syncOptOutRegister, status] at synced
      split at synced
      · cases synced
      split at synced
      · split at synced
        · cases synced
        · cases synced
          exact RegisterChange.left none_ after
      next lifts =>
        cases synced
        rw [sameRestaurant, sameChannel] at after
        rw [sameCustomer, sameRestaurant] at found
        rw [sameLifts, Bool.not_eq_true, Bool.not_eq_false'] at lifts
        exact RegisterChange.lifted contact none_ (sameStatus.symm.trans status) lifts found after

theorem optIn_refused {contact : Customer} (optsIn : input.status = .OPTED_IN)
    (lifts : input.liftsOpposition = false)
    (found : assertCustomerTenant input.customerId input.restaurantId tables.customers = .ok contact)
    (opposed : (recipientOf input.restaurantId input.channel contact).isOpposed tables.optOuts =
      true) :
    ∃ error, upsertMarketingPermission input available now tables = (.error error, tables) := by
  cases normalized : normalizePermission input now with
  | error error => exact ⟨error, upsert_of_refused normalized⟩
  | ok change =>
    obtain ⟨sameRestaurant, sameCustomer, sameChannel, sameStatus, sameLifts⟩ :=
      normalizePermission_ok normalized
    rw [← sameCustomer, ← sameRestaurant] at found
    rw [← sameRestaurant, ← sameChannel] at opposed
    have status := sameStatus.trans optsIn
    cases own : isForeignPermission change tables with
    | true => exact ⟨_, upsert_of_foreign normalized found own⟩
    | false =>
      have failed : ∃ error, syncOptOutRegister change contact available now tables.optOuts =
          .error error := by
        have isOptedOut : isMarketingOptedOut change.restaurantId change.channel
            (contactAddress change.channel contact.phone contact.emailNormalized)
            tables.optOuts = true :=
          opposed
        cases available with
        | false => simp [syncOptOutRegister, status]
        | true => simp [syncOptOutRegister, status, sameLifts, lifts, isOptedOut]
      obtain ⟨error, failed⟩ := failed
      refine ⟨error, ?_⟩
      rw [upsert_of_unsynced normalized found own failed, if_pos (by simp [status])]

end

inductive OppositionAct where
  | permission (input : MarketingPermissionInput) (available : Bool)
  /-- A complaint, a text message that says stop, an erasure. -/
  | opposition (input : OptOutInput)
  | purge
  /-- Profiles, campaigns and all other tables change. -/
  | others (tables : MarketingTables)
  | workers (jobs : JobId → MarketingJob)

/-- An act, with what it found and left. -/
structure OppositionEvent where
  act : OppositionAct
  now : Instant
  before : MarketingData
  after : MarketingData

variable (data : MarketingData)

def MarketingData.withTables (tables : MarketingTables) : MarketingData :=
  { data with tables }

@[simp] theorem withTables_tables (tables : MarketingTables) :
    (data.withTables tables).tables = tables := rfl

@[simp] theorem withTables_self : data.withTables data.tables = data := rfl

variable (event : OppositionEvent)

section

variable [UnicodeLetters] [WorkerEnv] [Sha256]

inductive OppositionStep (now : Instant) : OppositionAct → MarketingData → MarketingData → Prop where
  | permission (input : MarketingPermissionInput) (available : Bool) (data : MarketingData) :
      OppositionStep now (.permission input available) data
        (data.withTables (upsertMarketingPermission input available now data.tables).2)
  | opposition (input : OptOutInput) (data : MarketingData) :
      OppositionStep now (.opposition input) data
        (data.withTables { data.tables with
          optOuts := (registerMarketingOptOut input now data.tables.optOuts).2 })
  | purge (data : MarketingData) :
      OppositionStep now .purge data
        (data.withTables { data.tables with
          optOuts := purgeExpiredMarketingOptOuts now data.tables.optOuts })
  | others (tables : MarketingTables) (data : MarketingData) :
      tables.optOuts = data.tables.optOuts →
        OppositionStep now (.others tables) data (data.withTables tables)
  | workers (jobs : JobId → MarketingJob) (data : MarketingData)
      (c : Config JobId MarketingStore (Except JobError JobCounts)) :
      (workerSystem jobs).Reaches (.initial { data, now, owner := fun lock => nomatch lock }) c →
        OppositionStep now (.workers jobs) data c.shared.data

inductive OppositionRun (first : MarketingData) : List OppositionEvent → MarketingData → Prop where
  | nil : OppositionRun first [] first
  | step {events : List OppositionEvent} {act : OppositionAct} {now : Instant}
      {data data' : MarketingData} : OppositionRun first events data →
        OppositionStep now act data data' →
          OppositionRun first (events ++ [⟨act, now, data, data'⟩]) data'

/-- The act is an opt-in of a customer at an address. -/
def OppositionEvent.OptsIn (lifts : Bool) (recipient : Recipient) : Prop :=
  ∃ input available contact, event.act = .permission input available ∧ input.status = .OPTED_IN ∧
    input.liftsOpposition = lifts ∧
    assertCustomerTenant input.customerId input.restaurantId event.before.tables.customers =
      .ok contact ∧
    recipient = recipientOf input.restaurantId input.channel contact

/-- A permission change has answered with an error, and changed nothing. -/
def OppositionEvent.Refused : Prop :=
  match event.act with
  | .permission input available =>
    (∃ error, (upsertMarketingPermission input available event.now event.before.tables).1 =
      .error error) ∧ event.after = event.before
  | _ => False

/-- What opposition promises of an act. -/
structure OppositionEvent.Sticky (event : OppositionEvent) : Prop where
  stays : ∀ entry ∈ event.before.tables.optOuts,
    (∃ entry' ∈ event.after.tables.optOuts, entry'.key = entry.key) ∨
      (∃ recipient, event.OptsIn true recipient ∧ entry.covers recipient) ∨
      event.act = .purge ∧ entry.retainUntil < event.now
  retained : Retained event.before.tables.optOuts event.after.tables.optOuts
  refused : ∀ entry ∈ event.before.tables.optOuts, ∀ recipient, event.OptsIn false recipient →
    entry.covers recipient → event.Refused
  unsent : ∃ sent, event.after.recipients = event.before.recipients ++ sent ∧
    ∀ entry ∈ event.before.tables.optOuts, ∀ recipient ∈ sent, ¬ entry.covers recipient

def OppositionEvent.registration : Option OptOutInput :=
  match event.act with
  | .permission input available =>
    permissionRegistration input available event.now event.before.tables
  | .opposition input => some input
  | _ => none

/-- No opposition is registered whose retention date would come before that of its address. -/
def OppositionEvent.Timely : Prop :=
  ∀ input, event.registration = some input → ∀ entry ∈ event.before.tables.optOuts,
    entry.covers input.recipient → entry.retainUntil ≤ input.retainUntil event.now

variable {act : OppositionAct} {now : Instant} {data data' : MarketingData}

theorem step_optOuts (step : OppositionStep now act data data') :
    (∃ input, (⟨act, now, data, data'⟩ : OppositionEvent).registration = some input ∧
      data'.tables.optOuts = (registerMarketingOptOut input now data.tables.optOuts).2) ∨
    (⟨act, now, data, data'⟩ : OppositionEvent).registration = none ∧
      ∃ kept, data'.tables.optOuts = data.tables.optOuts.filter kept ∧
        ∀ entry, kept entry = false →
          (∃ recipient, (⟨act, now, data, data'⟩ : OppositionEvent).OptsIn true recipient ∧
            entry.covers recipient) ∨
          act = .purge ∧ entry.retainUntil < now := by
  have same : ∀ {optOuts : List MarketingOptOut} {goal : MarketingOptOut → Prop},
      optOuts = data.tables.optOuts → ∃ kept, optOuts = data.tables.optOuts.filter kept ∧
        ∀ entry, kept entry = false → goal entry :=
    fun same => ⟨fun _ => true, by simp [same], fun _ impossible => nomatch impossible⟩
  cases step with
  | permission input available =>
    cases registerChange input available now data.tables with
    | left absent left =>
      refine .inr ⟨absent, same ?_⟩
      rw [withTables_tables]
      exact left
    | registered registration isRegistration registered =>
      refine .inl ⟨registration, isRegistration, ?_⟩
      rw [withTables_tables]
      exact registered
    | lifted contact absent optsIn lifts found lifted =>
      obtain ⟨kept, cleared, covers⟩ := clear_eq_filter input.restaurantId input.channel
        (contactAddress input.channel contact.phone contact.emailNormalized) data.tables.optOuts
      refine .inr ⟨absent, kept, ?_, fun entry isCleared => .inl ⟨_, ?_, covers entry isCleared⟩⟩
      · rw [withTables_tables, lifted]
        exact cleared
      · exact ⟨input, available, contact, rfl, optsIn, lifts, found, rfl⟩
  | opposition input => exact .inl ⟨input, rfl, rfl⟩
  | purge =>
    refine .inr ⟨rfl, _, rfl, fun entry isPurged => .inr ⟨rfl, ?_⟩⟩
    simpa using isPurged
  | others tables _ left => exact .inr ⟨rfl, same left⟩
  | workers jobs _ c reaches => exact .inr ⟨rfl, same (workers_unopposed reaches).1⟩

theorem step_unique (unique : KeysUnique data.tables.optOuts)
    (step : OppositionStep now act data data') : KeysUnique data'.tables.optOuts := by
  rcases step_optOuts step with ⟨input, -, registered⟩ | ⟨-, kept, filtered, -⟩
  · rw [registered]
    exact register_unique unique
  · rw [filtered]
    exact unique_filter unique kept

theorem step_stays (step : OppositionStep now act data data') {entry : MarketingOptOut}
    (isEntry : entry ∈ data.tables.optOuts) :
    (∃ entry' ∈ data'.tables.optOuts, entry'.key = entry.key) ∨
      (∃ recipient, (⟨act, now, data, data'⟩ : OppositionEvent).OptsIn true recipient ∧
        entry.covers recipient) ∨ act = .purge ∧ entry.retainUntil < now := by
  rcases step_optOuts step with ⟨input, -, registered⟩ | ⟨-, kept, filtered, gone⟩
  · rw [registered]
    exact .inl (register_keeps isEntry)
  · cases isKept : kept entry with
    | false => exact .inr (gone entry isKept)
    | true =>
      rw [filtered]
      exact .inl ⟨entry, List.mem_filter.2 ⟨isEntry, isKept⟩, rfl⟩

theorem step_retained_iff (unique : KeysUnique data.tables.optOuts)
    (step : OppositionStep now act data data') :
    Retained data.tables.optOuts data'.tables.optOuts ↔
      (⟨act, now, data, data'⟩ : OppositionEvent).Timely := by
  rcases step_optOuts step with ⟨input, isRegistration, registered⟩ | ⟨absent, kept, filtered, -⟩
  · rw [registered, register_retained_iff unique]
    constructor
    · intro later other isOther
      cases isRegistration.symm.trans isOther
      exact later
    · exact fun timely => timely input isRegistration
  · constructor
    · intro _ input isRegistration
      cases absent.symm.trans isRegistration
    · intro _
      rw [filtered]
      exact retained_of_subset unique (List.filter_subset_self _)

theorem step_refused (step : OppositionStep now act data data') {entry : MarketingOptOut}
    (isEntry : entry ∈ data.tables.optOuts) {recipient : Recipient}
    (optsIn : (⟨act, now, data, data'⟩ : OppositionEvent).OptsIn false recipient)
    (covers : entry.covers recipient) :
    (⟨act, now, data, data'⟩ : OppositionEvent).Refused := by
  obtain ⟨input, available, contact, isPermission, optsIn, lifts, found, rfl⟩ := optsIn
  cases step with
  | permission =>
    cases isPermission
    obtain ⟨error, refused⟩ := optIn_refused optsIn lifts found
      (isOpposed_iff.2 ⟨entry, isEntry, covers⟩)
    refine ⟨⟨error, ?_⟩, ?_⟩
    · exact congrArg Prod.fst refused
    · rw [refused, withTables_self]
  | _ => cases isPermission

theorem step_unsent (step : OppositionStep now act data data') :
    ∃ sent, data'.recipients = data.recipients ++ sent ∧
      ∀ entry ∈ data.tables.optOuts, ∀ recipient ∈ sent, ¬ entry.covers recipient := by
  have silent : data'.recipients = data.recipients → ∃ sent,
      data'.recipients = data.recipients ++ sent ∧
        ∀ entry ∈ data.tables.optOuts, ∀ recipient ∈ sent, ¬ entry.covers recipient :=
    fun same => ⟨[], by simpa using same, fun _ _ _ impossible => nomatch impossible⟩
  cases step with
  | workers jobs _ c reaches =>
    obtain ⟨-, sent, called, unopposed⟩ := workers_unopposed reaches
    refine ⟨sent, called, fun entry isEntry recipient isSent => ?_⟩
    exact not_covers_of_unopposed (unopposed recipient isSent) isEntry
  | _ => exact silent rfl

theorem step_sticky_iff (unique : KeysUnique data.tables.optOuts)
    (step : OppositionStep now act data data') :
    (⟨act, now, data, data'⟩ : OppositionEvent).Sticky ↔
      (⟨act, now, data, data'⟩ : OppositionEvent).Timely := by
  constructor
  · exact fun sticky => (step_retained_iff unique step).1 sticky.retained
  · intro timely
    constructor
    · exact fun entry isEntry => step_stays step isEntry
    · exact (step_retained_iff unique step).2 timely
    · exact fun entry isEntry recipient optsIn covers => step_refused step isEntry optsIn covers
    · exact step_unsent step

/-- In a run, opposition is sticky just when every opposition is registered in time. -/
theorem opposition_sticky_iff {first last : MarketingData} {events : List OppositionEvent}
    (unique : KeysUnique first.tables.optOuts) (run : OppositionRun first events last) :
    (∀ event ∈ events, event.Sticky) ↔ ∀ event ∈ events, event.Timely := by
  suffices kept : KeysUnique last.tables.optOuts ∧ ∀ event ∈ events, event.Sticky ↔ event.Timely from
    forall₂_congr kept.2
  induction run with
  | nil => exact ⟨unique, fun _ impossible => nomatch impossible⟩
  | step _ step ih =>
    refine ⟨step_unique ih.1 step, fun event isEvent => ?_⟩
    rcases List.mem_append.1 isEvent with earlier | last
    · exact ih.2 event earlier
    · cases List.mem_singleton.1 last
      exact step_sticky_iff ih.1 step

end

section

/-- Nothing is sent, and the register has a key. -/
@[reducible] def WorkerEnv.idle : WorkerEnv where
  MARKETING_OPTOUT_HASH_SECRET := some "0123456789abcdef0123456789abcdef"
  hmac key text := key ++ text
  MARKETING_SENDS_ENABLED := false
  MARKETING_EMAIL_FROM := none
  MARKETING_WHATSAPP_ENABLED := false
  MARKETING_RECIPIENT_ALLOWLIST := none
  MARKETING_EMAIL_DAILY_BUDGET := 0
  isTargetServiceFull _ _ _ _ := false
  uuid := id

attribute [local instance] UnicodeLetters.ascii Sha256.plain WorkerEnv.idle

def oneGuest : Customer where
  id := "customer"
  restaurantId := "restaurant"
  phone := "+33600000001"
  emailNormalized := none
  archived := false
  mergedIntoId := none

def oneGuestData : MarketingData where
  tables :=
    { customers := [oneGuest]
      permissions := []
      permissionEvents := []
      optOuts := []
      suppressions := []
      customerConsents := []
      campaigns := []
      audience := []
      messages := []
      windows := [] }
  calls := []
  holding _ := none
  reserved := []

def withdrawal (occurredAt : Instant) : MarketingPermissionInput where
  restaurantId := "restaurant"
  customerId := "customer"
  channel := .SMS
  status := .OPTED_OUT
  source := "SMS_STOP"
  proofVersion := none
  proof := none
  proofHash := none
  actorUserId := none
  liftsOpposition := false
  occurredAt := some occurredAt

def MarketingData.withdraw (occurredAt : Instant) : MarketingData :=
  data.withTables (upsertMarketingPermission (withdrawal occurredAt) true 0 data.tables).2

/-- The guest withdraws, at one time and at another. -/
def withdrawals (first second : Instant) : List OppositionEvent :=
  let once := oneGuestData.withdraw first
  [⟨.permission (withdrawal first) true, 0, oneGuestData, once⟩,
    ⟨.permission (withdrawal second) true, 0, once, once.withdraw second⟩]

theorem withdrawals_run (first second : Instant) :
    OppositionRun oneGuestData (withdrawals first second)
      ((oneGuestData.withdraw first).withdraw second) :=
  (OppositionRun.nil.step (.permission (withdrawal first) true _)).step
    (.permission (withdrawal second) true _)

/-- A second withdrawal, a day after the first, comes in time. -/
theorem withdrawals_sticky : (withdrawals 0 msPerDay).Forall OppositionEvent.Sticky := by
  have unique : KeysUnique oneGuestData.tables.optOuts := List.nodup_nil
  refine List.forall_iff_forall_mem.2 <|
    (opposition_sticky_iff unique (withdrawals_run 0 msPerDay)).2 fun event isEvent => ?_
  intro input isRegistration entry isEntry _
  rcases List.mem_cons.1 isEvent with isFirst | isSecond
  · cases isFirst
    cases isEntry
  · cases List.mem_singleton.1 isSecond
    have registers : (permissionRegistration (withdrawal msPerDay) true 0
        (oneGuestData.withdraw 0).tables).map (OptOutInput.retainUntil · 0) =
          some (marketingOptOutRetainUntil msPerDay) := by
      decide +kernel
    have kept : ∀ entry ∈ (oneGuestData.withdraw 0).tables.optOuts,
        entry.retainUntil ≤ marketingOptOutRetainUntil msPerDay := by
      decide +kernel
    have isRegistration : permissionRegistration (withdrawal msPerDay) true 0
        (oneGuestData.withdraw 0).tables = some input := isRegistration
    rw [isRegistration, Option.map_some, Option.some.injEq] at registers
    exact registers ▸ kept entry isEntry

/-- The second withdrawal has happened a day before the first: the opposition is then kept for a
day less. -/
theorem late_withdrawal_shortens : ∃ (first last : MarketingData) (events : List OppositionEvent),
      KeysUnique first.tables.optOuts ∧ OppositionRun first events last ∧
        ∃ event ∈ events, ¬ Retained event.before.tables.optOuts event.after.tables.optOuts := by
  have unique : KeysUnique oneGuestData.tables.optOuts := List.nodup_nil
  refine ⟨_, _, withdrawals msPerDay 0, unique, withdrawals_run msPerDay 0, _,
    List.mem_cons_of_mem _ (List.mem_singleton_self _), fun retained => ?_⟩
  have shortened : ∃ entry ∈ (oneGuestData.withdraw msPerDay).tables.optOuts,
      ∃ entry' ∈ ((oneGuestData.withdraw msPerDay).withdraw 0).tables.optOuts,
        entry'.key = entry.key ∧ entry'.retainUntil < entry.retainUntil := by
    decide +kernel
  obtain ⟨entry, isEntry, entry', isEntry', sameKey, earlier⟩ := shortened
  exact absurd (retained entry isEntry entry' isEntry' sameKey) (not_le_of_gt earlier)

end

end Sokar.Marketing
