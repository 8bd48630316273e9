import Sokar.Loyalty.GrantLimits

/-!
# Keys that are used again

A grant that is issued under a key answers for every later call with that key.  The key is looked
up alone, before anything else of the request is read, and once more when the grant was
refused as a duplicate; neither lookup compares the benefit and the customer of the grant
with those of the request.
-/

namespace Sokar

open Process Transaction

variable (input : IssueLoyaltyGrantInput)

variable (call : LoyaltyCallId)

namespace IssueLoyaltyGrantInput

section

variable [Sha256]

/-- The key under which the grant of the request is stored, if it has one. -/
def storedKey? : Option String :=
  match normalizeLoyaltyIdempotencyKey input.idempotencyKey with
  | .ok rawKey => rawKey.map (hashLoyaltyIdempotencyKey input.restaurantId)
  | .error _ => none

/-- The grant is of the benefit and the customer of the request. -/
def Concerns (grant : LoyaltyGrant) : Prop :=
  grant.benefitId = input.benefitId ∧ grant.customerId = input.customerId

/-- The call succeeds only for a request that the stored grant concerns, and then with that
grant. -/
def RefusesReuse (stored : LoyaltyGrant) (result : Except LoyaltyFailure LoyaltyGrantMutationResult)
    : Prop :=
  ∀ answer, result = .ok answer → input.Concerns stored ∧ answer.grant = stored

variable {input : IssueLoyaltyGrantInput} {store : LoyaltyStore} {stored : LoyaltyGrant}
variable {key : String}

omit [Sha256] in
theorem refusesReuse_iff :
    input.RefusesReuse stored (.ok { grant := stored, code := none, replayed := true }) ↔
      input.Concerns stored :=
  ⟨fun refuses => (refuses _ rfl).1, fun concerns _ same => ⟨concerns, by cases same; rfl⟩⟩

omit [Sha256] in
theorem run_loyaltyNow (given : Option Instant) (store : LoyaltyStore) :
    (loyaltyNow given).run store = some (given.getD store.now, store) := by
  cases given <;> rfl

/-- A grant that is found under the key of the request is the answer to it. -/
theorem run_issueLoyaltyGrant (hasKey : input.storedKey? = some key)
    (isStored : store.data.grantByIdempotency? (some key) = some stored) :
    (input.issueLoyaltyGrant call).run store =
      some (.ok { grant := stored, code := none, replayed := true }, store) := by
  rw [storedKey?] at hasKey
  rw [issueLoyaltyGrant, Prog.run_bind, run_loyaltyNow, Option.bind_some]
  cases normal : normalizeLoyaltyIdempotencyKey input.idempotencyKey with
  | error failure =>
    rw [normal] at hasKey
    cases hasKey
  | ok rawKey =>
    rw [normal] at hasKey
    have sameKey : rawKey.map (hashLoyaltyIdempotencyKey input.restaurantId) = some key := hasKey
    dsimp only
    rw [sameKey, Prog.run_bind, run_query, Option.bind_some, isStored]
    rfl

/-- What `create` does after its transaction. -/
def recover (created : Except LoyaltyFailure LoyaltyGrantMutationResult)
    (idempotencyKey : Option String) :
    LoyaltyProg (Except LoyaltyFailure LoyaltyGrantMutationResult) :=
  match created, idempotencyKey with
  | .error .P2002, some key => do
      let raced ← query fun data _ => data.grantByIdempotency? (some key)
      pure (match raced with
        | some grant => .ok { grant, code := none, replayed := true }
        | none => created)
  | _, _ => pure created

theorem create_eq (benefit : LoyaltyBenefit) (idempotencyKey : Option String) (now : Instant) :
    input.create call benefit idempotencyKey now =
      transact call (input.limited call benefit) LoyaltyData.violation? (fun _ _ _ =>
          { grant := input.grant benefit idempotencyKey now
            code := some input.code
            replayed := false : LoyaltyGrantMutationResult })
        (fun _ data _ => data.insertGrant (input.grant benefit idempotencyKey now)) >>=
      fun created => recover created idempotencyKey := rfl

omit [Sha256] in
/-- So is a grant that is found once the insertion was refused. -/
theorem run_recover (isStored : store.data.grantByIdempotency? (some key) = some stored) :
    (recover (.error .P2002) (some key)).run store =
      some (.ok { grant := stored, code := none, replayed := true }, store) := by
  rw [recover, Prog.run_bind, run_query, Option.bind_some, isStored]
  rfl

omit [Sha256] in
theorem violation?_insertGrant {data : LoyaltyData} {grant : LoyaltyGrant}
    (isStored : data.grantByIdempotency? (some key) = some stored)
    (sameKey : grant.idempotencyKey = some key) :
    (data.insertGrant grant).violation? = some .P2002 := by
  have listed : key ∈ data.grants.filterMap (·.idempotencyKey) := by
    have found := List.mem_of_find?_eq_some isStored
    have hasKey := List.find?_some isStored
    exact List.mem_filterMap.2 ⟨stored, found, beq_iff_eq.1 hasKey⟩
  have twice : ¬((data.insertGrant grant).grants.filterMap (·.idempotencyKey)).Nodup := by
    rw [LoyaltyData.insertGrant, List.filterMap_append, List.filterMap_cons_some sameKey, List.filterMap_nil,
      List.nodup_append]
    exact fun apart => apart.2.2 key listed key (List.mem_singleton_self key) rfl
  have clash : (data.insertGrant grant).keysUnique = false := by
    rw [LoyaltyData.keysUnique, decide_eq_false twice, Bool.and_false, Bool.false_and]
  rw [LoyaltyData.violation?, clash]
  rfl

/-- The insertion that lost the race, when the limit of the customer is not reached. -/
theorem run_create (call : LoyaltyCallId) {benefit : LoyaltyBenefit} (now : Instant)
    (isStored : store.data.grantByIdempotency? (some key) = some stored)
    (isFree : store.isFreeFor call (.uses input.restaurantId benefit.id input.customerId) = true)
    (fewer : store.data.used input.restaurantId benefit.id input.customerId <
      benefit.maxUsesPerCustomer) :
    ∃ after, after.data = store.data ∧
      (input.create call benefit (some key) now).run store =
        some (.ok { grant := stored, code := none, replayed := true }, after) := by
  have limited : (input.limited call benefit).run store =
      some (.ok (), store.take call (.uses input.restaurantId benefit.id input.customerId)) := by
    have notReached : ¬benefit.maxUsesPerCustomer ≤
        store.data.used input.restaurantId benefit.id input.customerId := not_le.2 fewer
    rw [IssueLoyaltyGrantInput.limited, Prog.run_bind, run_acquire_of_free isFree,
      Option.bind_some, Prog.run_bind, run_query, Option.bind_some]
    simp only [Store.take, notReached, if_false]
    rfl
  refine ⟨(store.take call (.uses input.restaurantId benefit.id input.customerId)).release call,
    rfl, ?_⟩
  rw [create_eq, Prog.run_bind, run_transact_refused limited (violation?_insertGrant isStored rfl),
    Option.bind_some]
  exact run_recover isStored

/-- Both lookups refuse the key to another request exactly when the stored grant is not of one:
they ask nothing of it. -/
theorem reuse_refused_iff (input : IssueLoyaltyGrantInput) (call : LoyaltyCallId)
    (store : LoyaltyStore) (key : String) (stored : LoyaltyGrant)
    (hasKey : input.storedKey? = some key)
    (isStored : store.data.grantByIdempotency? (some key) = some stored) :
    (∃ result, (input.issueLoyaltyGrant call).run store = some (result, store) ∧
        (input.RefusesReuse stored result ↔ input.Concerns stored)) ∧
      (∃ result, (recover (.error .P2002) (some key)).run store = some (result, store) ∧
        (input.RefusesReuse stored result ↔ input.Concerns stored)) ∧
      ∀ benefit now, store.isFreeFor call
          (.uses input.restaurantId benefit.id input.customerId) = true →
        store.data.used input.restaurantId benefit.id input.customerId <
          benefit.maxUsesPerCustomer →
        ∃ result after, after.data = store.data ∧
          (input.create call benefit (some key) now).run store = some (result, after) ∧
            (input.RefusesReuse stored result ↔ input.Concerns stored) := by
  refine ⟨⟨_, run_issueLoyaltyGrant call hasKey isStored, refusesReuse_iff⟩,
    ⟨_, run_recover isStored, refusesReuse_iff⟩, ?_⟩
  intro benefit now isFree fewer
  obtain ⟨after, unchanged, ran⟩ := run_create call now isStored isFree fewer
  exact ⟨_, after, unchanged, ran, refusesReuse_iff⟩

end

end IssueLoyaltyGrantInput

section

attribute [local instance] UnicodeCase.ascii Sha256.plain

/-- One coffee for each customer, and two customers. -/
def coffeeForTwo : LoyaltyStore where
  data :=
    { benefits := [⟨"b", "r", "cafe", "Café", none, .ANY, none, none, "EUR", 30, 1, .ACTIVE⟩]
      grants := []
      customers := [⟨"c", "r", none, none, false, none, none⟩,
        ⟨"d", "r", none, none, false, none, none⟩]
      reservations := [] }
  now := 0
  owner _ := none

def coffeeForGuest (customerId grantId : Id) : IssueLoyaltyGrantInput :=
  ⟨"r", "b", customerId, none, some "coffee-key-1", "staff", none, grantId, grantId⟩

/-- Both customers are to have their coffee, under one key. -/
def twoGuests : LoyaltyCall :=
  if call = 0 then .issue (coffeeForGuest "c" "g") else .issue (coffeeForGuest "d" "h")

def answeredCustomer (c : Config LoyaltyCallId LoyaltyStore (Except LoyaltyFailure LoyaltyAnswer)) :
    Option Id :=
  match c.result? 1 with
  | some (.ok (.grant answer)) => some answer.grant.customerId
  | _ => none

def findsGrants (moves : List (Move LoyaltyCallId LoyaltyStore)) : Bool :=
  moves.all fun move => move.session == 0 || !move.before.data.grants.isEmpty

/-- The second call is for one customer and succeeds with the coffee of the other, whether the key
is found at once or after the insertion was refused. -/
theorem reused_key_answers_other :
    (∃ moves c, (loyaltySystem twoGuests).Run (.initial coffeeForTwo) moves c ∧
        findsGrants moves = true ∧ answeredCustomer c = some "c" ∧
          (coffeeForGuest "d" "h").customerId = "d") ∧
      ∃ moves c, (loyaltySystem twoGuests).Run (.initial coffeeForTwo) moves c ∧
        findsGrants moves = false ∧ answeredCustomer c = some "c" ∧
          (coffeeForGuest "d" "h").customerId = "d" := by
  obtain ⟨moves, c, run, finds, answered⟩ := (loyaltySystem twoGuests).exists_run_of_schedule
    (List.replicate 8 0 ++ List.replicate 3 1) (.initial coffeeForTwo)
    (fun moves c => findsGrants moves = true ∧ answeredCustomer c = some "c") (by decide +kernel)
  obtain ⟨moves', c', run', finds', answered'⟩ := (loyaltySystem twoGuests).exists_run_of_schedule
    (List.replicate 5 1 ++ List.replicate 8 0 ++ List.replicate 4 1) (.initial coffeeForTwo)
    (fun moves c => findsGrants moves = false ∧ answeredCustomer c = some "c") (by decide +kernel)
  exact ⟨⟨moves, c, run, finds, answered, rfl⟩, ⟨moves', c', run', finds', answered', rfl⟩⟩

/-- The grant of the first customer, as it is stored. -/
def storedCoffee : LoyaltyGrant :=
  (coffeeForGuest "c" "g").grant
    ⟨"b", "r", "cafe", "Café", none, .ANY, none, none, "EUR", 30, 1, .ACTIVE⟩
    (coffeeForGuest "c" "g").storedKey? 0

/-- A replay for the same customer. -/
theorem reuse_refused_iff_replay : ∃ result, ((coffeeForGuest "c" "h").issueLoyaltyGrant 1).run
          { coffeeForTwo with data := { coffeeForTwo.data with grants := [storedCoffee] } } =
        some (result,
          { coffeeForTwo with data := { coffeeForTwo.data with grants := [storedCoffee] } }) ∧
      ((coffeeForGuest "c" "h").RefusesReuse storedCoffee result ↔
        (coffeeForGuest "c" "h").Concerns storedCoffee) := by
  have key : (coffeeForGuest "c" "h").storedKey? =
      some "sokar:loyalty-idempotency:r:coffee-key-1" := by decide +kernel
  exact ((coffeeForGuest "c" "h").reuse_refused_iff 1
    { coffeeForTwo with data := { coffeeForTwo.data with grants := [storedCoffee] } }
    "sokar:loyalty-idempotency:r:coffee-key-1" storedCoffee key (by decide +kernel)).1

end

end Sokar
