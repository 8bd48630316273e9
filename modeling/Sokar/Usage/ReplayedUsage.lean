import Sokar.Usage.Ledger
import Sokar.Usage.TariffCatalogue

/-!
# Usage delivered again

A delivery of usage that has been recorded finds the recorded event.  It is taken for the same
usage if the quantity has no more than six decimals and the tariffs imported in between give it no
other price.
-/

namespace Sokar.UsageLedger

open UsageTariff (DecimalInput ExistingUsageTariff UsageTariffImportRow inEffect tariffInEffect
  normalizeDimension resolveUsageTariff planUsageTariffImport)
open UsageReconciliation (toMillionths significant)

section

theorem toMillionths_amountOf (millionths : Nat) : toMillionths (amountOf millionths) = millionths := by
  have exact_ : amountOf millionths * 1000000 + 1 / 2 = (millionths : ℚ) + 1 / 2 := by
    rw [amountOf]
    ring
  have floor : ⌊(millionths : ℚ) + 1 / 2⌋ = (millionths : Int) := by
    rw [Int.floor_eq_iff]
    constructor
    · push_cast
      linarith
    · push_cast
      linarith
  rw [toMillionths, exact_, floor, Int.toNat_natCast]

theorem amountOf_nonneg (millionths : Nat) : 0 ≤ amountOf millionths :=
  div_nonneg (Nat.cast_nonneg _) (by norm_num)

def SixDecimals (quantity : ℚ) : Prop :=
  ∃ millionths : Nat, quantity = amountOf millionths

theorem sixDecimals_iff {quantity : ℚ} :
    SixDecimals quantity ↔ amountOf (toMillionths quantity) = quantity := by
  constructor
  · rintro ⟨millionths, rfl⟩
    rw [toMillionths_amountOf]
  · exact fun same => ⟨_, same.symm⟩

theorem amountOf_inj {left right : Nat} : amountOf left = amountOf right ↔ left = right := by
  constructor
  · intro same
    rw [← toMillionths_amountOf left, same, toMillionths_amountOf]
  · exact congrArg amountOf

theorem toMillionths_eq_zero {value : ℚ} : toMillionths value = 0 ↔ value < 1 / 2000000 := by
  rw [toMillionths, Int.toNat_eq_zero, ← Int.lt_add_one_iff, zero_add, Int.floor_lt, Int.cast_one]
  constructor <;> intro small <;> linarith

/-- A product with fifteen decimals below one has no twentieth digit to lose. -/
theorem significant_of_lt_one {amount : Nat} (small : (amount : ℚ) / 10 ^ 15 < 1) :
    significant ((amount : ℚ) / 10 ^ 15) = (amount : ℚ) / 10 ^ 15 := by
  by_cases none : amount = 0
  · simp [none, significant]
  have positive : (0 : ℚ) < amount / 10 ^ 15 := by positivity
  generalize exponent : Int.log 10 ((amount : ℚ) / 10 ^ 15) = log
  have negative : log < 0 := by
    rw [← exponent, ← Int.lt_zpow_iff_log_lt (by norm_num) positive]
    simpa using small
  obtain ⟨digits, rfl⟩ : ∃ digits : Nat, log = 4 - digits := ⟨(4 - log).toNat, by omega⟩
  have scaled : (amount : ℚ) / 10 ^ 15 / 10 ^ ((4 : Int) - digits - 19) =
      ((amount * 10 ^ digits : Nat) : ℚ) := by
    have unit : (10 : ℚ) ^ ((4 : Int) - digits - 19) = (10 ^ 15 * 10 ^ digits)⁻¹ := by
      rw [← pow_add, ← zpow_natCast, ← zpow_neg]
      congr 1
      push_cast
      ring
    rw [unit]
    push_cast
    field_simp
  have floor : ⌊((amount * 10 ^ digits : Nat) : ℚ) + 1 / 2⌋ = ((amount * 10 ^ digits : Nat) : Int) := by
    rw [Int.floor_eq_iff]
    constructor <;> push_cast <;> linarith
  rw [significant, if_neg positive.ne', exponent]
  dsimp only
  rw [scaled, floor, Int.cast_natCast, ← scaled]
  exact div_mul_cancel₀ _ (zpow_ne_zero _ (by norm_num))

theorem one_le_significant {value : ℚ} (large : 1 ≤ value) : 1 ≤ significant value := by
  have positive : 0 < value := lt_of_lt_of_le one_pos large
  generalize exponent : Int.log 10 value = log
  have nonneg : 0 ≤ log := by
    rw [← exponent, ← Int.zpow_le_iff_le_log (by norm_num) positive]
    simpa using large
  have below : (10 : ℚ) ^ log ≤ value := by
    rw [← exponent]
    exact_mod_cast Int.zpow_log_le_self (by norm_num) positive
  have unit : (0 : ℚ) < 10 ^ (log - 19) := zpow_pos (by norm_num) _
  have split : (10 : ℚ) ^ log = 10 ^ 19 * 10 ^ (log - 19) := by
    rw [← zpow_natCast, ← zpow_add₀ (by norm_num)]
    congr 1
    push_cast
    ring
  have digits : (10 ^ 19 : Int) ≤ ⌊value / 10 ^ (log - 19) + 1 / 2⌋ := by
    rw [Int.le_floor]
    push_cast
    have scaled : (10 : ℚ) ^ 19 ≤ value / 10 ^ (log - 19) := by
      rw [le_div_iff₀ unit, ← split]
      exact below
    linarith
  have whole : (10 : ℚ) ^ 19 ≤ (⌊value / 10 ^ (log - 19) + 1 / 2⌋ : ℚ) := by exact_mod_cast digits
  rw [significant, if_neg positive.ne', exponent]
  calc (1 : ℚ) ≤ 10 ^ log := one_le_zpow₀ (by norm_num) nonneg
    _ = 10 ^ 19 * 10 ^ (log - 19) := split
    _ ≤ ⌊value / 10 ^ (log - 19) + 1 / 2⌋ * 10 ^ (log - 19) :=
        mul_le_mul_of_nonneg_right whole unit.le

/-- The cost of a quantity of six decimals rounds to nothing below half a millionth. -/
theorem toMillionths_product {millionths billionths : Nat} :
    toMillionths (significant (amountOf millionths * (billionths / 1000000000))) = 0 ↔
      amountOf millionths * (billionths / 1000000000) < 1 / 2000000 := by
  have product : amountOf millionths * ((billionths : ℚ) / 1000000000) =
      ((millionths * billionths : Nat) : ℚ) / 10 ^ 15 := by
    rw [amountOf]
    push_cast
    ring
  rw [toMillionths_eq_zero, product]
  by_cases small : ((millionths * billionths : Nat) : ℚ) / 10 ^ 15 < 1
  · rw [significant_of_lt_one small]
  · have large := one_le_significant (not_lt.1 small)
    constructor
    · intro below
      linarith
    · intro below
      linarith [not_lt.1 small]

end

section

theorem decimal_ok {value : DecimalInput} {field : String} {amount : ℚ} :
    decimal value field = .ok amount ↔ value = .finite amount ∧ 0 ≤ amount := by
  cases value with
  | unreadable => simp [decimal]
  | notFinite => simp [decimal]
  | finite parsed =>
    by_cases negative : parsed < 0
    · simp only [decimal, if_pos negative, reduceCtorEq, DecimalInput.finite.injEq, false_iff]
      rintro ⟨rfl, nonneg⟩
      exact absurd negative (not_lt.2 nonneg)
    · simp only [decimal, if_neg negative, Except.ok.injEq, DecimalInput.finite.injEq]
      constructor
      · rintro rfl
        exact ⟨rfl, not_lt.1 negative⟩
      · exact fun same => same.1

theorem validateText_ok {value field text : String} {maxLength : Nat}
    (valid : validateText value field maxLength = .ok text) : text = trim value := by
  rw [validateText] at valid
  split at valid
  · cases valid
  · cases valid
    rfl

/-- An input with its texts trimmed. -/
def RecordUsageInput.normalized (input : RecordUsageInput) : RecordUsageInput :=
  { input with
    provider := trim input.provider
    unit := trim input.unit
    sourceType := trim input.sourceType
    sourceId := trim input.sourceId
    sourceEventKey := trim input.sourceEventKey }

/-- What the checks of the recorder find, whatever the ledger. -/
structure Valid (input : RecordUsageInput) (quantity estimatedCost : ℚ) (occurredAt : Instant) :
    Prop where
  quantity : decimal input.quantity "quantity" = .ok quantity
  estimatedCost : decimal input.estimatedCostEur "estimatedCostEur" = .ok estimatedCost
  provider : validateText input.provider "provider" 64 = .ok (trim input.provider)
  unit : validateText input.unit "unit" 32 = .ok (trim input.unit)
  sourceType : validateText input.sourceType "sourceType" 64 = .ok (trim input.sourceType)
  sourceId : validateText input.sourceId "sourceId" 191 = .ok (trim input.sourceId)
  sourceEventKey : validateText input.sourceEventKey "sourceEventKey" 255 =
    .ok (trim input.sourceEventKey)
  occurredAt : input.occurredAt = some occurredAt

variable {input : RecordUsageInput} {outcome : Outcome}

theorem recordUsageEvent_ok {seen events : List UsageEvent} {id : Id} :
    recordUsageEvent input seen events id = .ok outcome ↔
      ∃ quantity estimatedCost occurredAt, Valid input quantity estimatedCost occurredAt ∧
        appendEvent input.normalized quantity estimatedCost occurredAt seen events id =
          .ok outcome := by
  constructor
  · intro recorded
    obtain ⟨quantity, quantityValid, recorded⟩ := ok_of_bind recorded
    obtain ⟨estimatedCost, costValid, recorded⟩ := ok_of_bind recorded
    obtain ⟨provider, providerValid, recorded⟩ := ok_of_bind recorded
    obtain ⟨unit, unitValid, recorded⟩ := ok_of_bind recorded
    obtain ⟨sourceType, typeValid, recorded⟩ := ok_of_bind recorded
    obtain ⟨sourceId, idValid, recorded⟩ := ok_of_bind recorded
    obtain ⟨sourceEventKey, keyValid, recorded⟩ := ok_of_bind recorded
    cases validateText_ok providerValid
    cases validateText_ok unitValid
    cases validateText_ok typeValid
    cases validateText_ok idValid
    cases validateText_ok keyValid
    split at recorded
    · cases recorded
    next occurredAt dated =>
      exact ⟨quantity, estimatedCost, occurredAt, ⟨quantityValid, costValid, providerValid,
        unitValid, typeValid, idValid, keyValid, dated⟩, recorded⟩
  · rintro ⟨quantity, estimatedCost, occurredAt, valid, appended⟩
    rw [recordUsageEvent, valid.quantity, valid.estimatedCost, valid.provider, valid.unit,
      valid.sourceType, valid.sourceId, valid.sourceEventKey, valid.occurredAt]
    exact appended

structure SameUsage (event : UsageEvent) (input : RecordUsageInput) : Prop where
  restaurantId : event.restaurantId = input.restaurantId
  accountId : event.accountId = input.accountId
  category : event.category = input.category
  provider : event.provider = trim input.provider
  unit : event.unit = trim input.unit
  currency : event.currency = "EUR"
  sourceType : event.sourceType = trim input.sourceType
  sourceId : event.sourceId = trim input.sourceId

variable {quantity estimatedCost : ℚ}

theorem sameReplay_iff {event : UsageEvent} : sameReplay event input quantity estimatedCost = true ↔
      SameUsage event input ∧ amountOf event.quantity = quantity ∧
        amountOf event.estimatedCost = estimatedCost := by
  simp only [sameReplay, Bool.and_eq_true, beq_iff_eq]
  constructor
  · rintro ⟨⟨⟨⟨⟨⟨⟨⟨⟨restaurant, account⟩, category⟩, provider⟩, quantity⟩, unit⟩, cost⟩, currency⟩,
      sourceType⟩, sourceId⟩
    exact ⟨⟨restaurant, account, category, provider, unit, currency, sourceType, sourceId⟩,
      quantity, cost⟩
  · rintro ⟨same, quantity, cost⟩
    exact ⟨⟨⟨⟨⟨⟨⟨⟨⟨same.restaurantId, same.accountId⟩, same.category⟩, same.provider⟩, quantity⟩,
      same.unit⟩, cost⟩, same.currency⟩, same.sourceType⟩, same.sourceId⟩

/-- What an accepted delivery leaves in the ledger. -/
structure Kept (input : RecordUsageInput) (quantity estimatedCost : ℚ) (events : List UsageEvent)
    (outcome : Outcome) : Prop where
  listed : outcome.event ∈ outcome.events
  grown : events <+: outcome.events
  key : outcome.event.sourceEventKey = input.sourceEventKey
  same : SameUsage outcome.event input
  quantity : outcome.event.quantity = toMillionths quantity
  estimatedCost : outcome.event.estimatedCost = toMillionths estimatedCost

theorem replay_ok {existing : UsageEvent} {events : List UsageEvent} :
    replay existing input quantity estimatedCost events = .ok outcome ↔
      sameReplay existing input quantity estimatedCost = true ∧
        outcome = ⟨existing, false, events⟩ := by
  by_cases same : sameReplay existing input quantity estimatedCost = true
  · rw [replay, if_pos same, Except.ok.injEq]
    exact ⟨fun replayed => ⟨same, replayed.symm⟩, fun replayed => replayed.2.symm⟩
  · rw [replay, if_neg same]
    simp [same]

theorem kept_of_replay {existing : UsageEvent} {events : List UsageEvent}
    (found : existing ∈ events) (key : existing.sourceEventKey = input.sourceEventKey)
    (replayed : replay existing input quantity estimatedCost events = .ok outcome) :
    Kept input quantity estimatedCost events outcome := by
  obtain ⟨replay, rfl⟩ := replay_ok.1 replayed
  obtain ⟨same, rfl, rfl⟩ := sameReplay_iff.1 replay
  exact ⟨found, List.prefix_rfl, key, same, (toMillionths_amountOf _).symm,
    (toMillionths_amountOf _).symm⟩

theorem kept_of_append {occurredAt : Instant} {seen events : List UsageEvent} {id : Id}
    (grown : seen <+: events)
    (appended : appendEvent input.normalized quantity estimatedCost occurredAt seen events id =
      .ok outcome) :
    Kept input.normalized quantity estimatedCost events outcome := by
  rw [appendEvent] at appended
  split at appended
  next existing found =>
    exact kept_of_replay (grown.subset (KeyedRows.mem_of_lookup found))
      (KeyedRows.key_of_lookup found) appended
  · split at appended
    next raced found =>
      exact kept_of_replay (KeyedRows.mem_of_lookup found) (KeyedRows.key_of_lookup found) appended
    · unfold createEvent at appended
      dsimp only at appended
      split at appended
      · cases appended
      · cases appended
        exact {
          listed := List.mem_append_right _ (List.mem_singleton_self _)
          grown := List.prefix_append _ _
          key := rfl
          same := {
            restaurantId := rfl
            accountId := rfl
            category := rfl
            provider := (trim_trim _).symm
            unit := (trim_trim _).symm
            currency := rfl
            sourceType := (trim_trim _).symm
            sourceId := (trim_trim _).symm }
          quantity := rfl
          estimatedCost := rfl }

end

section

variable [UnicodeLetters]

/-- The catalogue of tariffs and the ledger, whose source keys are unique. -/
structure UsageState where
  tariffs : List ExistingUsageTariff
  events : List UsageEvent
  keysUnique : (events.map UsageEvent.sourceEventKey).Nodup

inductive Step (state after : UsageState) : Prop
  | imported {rows : List UsageTariffImportRow} {created : List ExistingUsageTariff}
      (noIssue : (planUsageTariffImport rows state.tariffs).issues = [])
      (inserted : UsageTariff.Created (planUsageTariffImport rows state.tariffs).inserts created)
      (tariffs : after.tariffs = state.tariffs ++ created) (events : after.events = state.events)
  | recorded {event : UsageEvent} (tariffs : after.tariffs = state.tariffs)
      (events : after.events = state.events ++ [event])

def Reaches : UsageState → UsageState → Prop :=
  Relation.ReflTransGen Step

theorem Reaches.events {state after : UsageState} (reaches : Reaches state after) :
    state.events <+: after.events := by
  induction reaches with
  | refl => exact List.prefix_rfl
  | tail _ step ih =>
    cases step with
    | imported _ _ _ events => rwa [events]
    | recorded _ events =>
      rw [events]
      exact ih.trans (List.prefix_append _ _)

/-- What imports do to a catalogue: a tariff in effect stays the only one, and new prices are not
negative. -/
structure Extends (tariffs later : List ExistingUsageTariff) : Prop where
  inEffect : ∀ category provider unit occurredAt,
    inEffect tariffs category provider unit occurredAt ≠ [] →
      inEffect later category provider unit occurredAt =
        inEffect tariffs category provider unit occurredAt
  price : ∀ tariff ∈ later, tariff ∈ tariffs ∨ 0 ≤ tariff.pricePerUnit

theorem Extends.trans {tariffs later last : List ExistingUsageTariff}
    (first : Extends tariffs later) (second : Extends later last) : Extends tariffs last where
  inEffect category provider unit occurredAt some := by
    have same := first.inEffect category provider unit occurredAt some
    rw [second.inEffect category provider unit occurredAt (same ▸ some), same]
  price tariff listed := by
    rcases second.price tariff listed with old | nonneg
    · exact first.price tariff old
    · exact .inr nonneg

theorem Reaches.tariffs {state after : UsageState} (reaches : Reaches state after) :
    Extends state.tariffs after.tariffs := by
  induction reaches with
  | refl => exact ⟨fun _ _ _ _ _ => rfl, fun _ listed => .inl listed⟩
  | tail _ step ih =>
    apply ih.trans
    cases step with
    | imported noIssue inserted tariffs _ =>
      rw [tariffs]
      refine ⟨fun _ _ _ _ some =>
        (UsageTariff.clean_of_noIssue noIssue).inEffect_append inserted some, ?_⟩
      intro tariff listed
      rcases List.mem_append.1 listed with old | made
      · exact .inl old
      · obtain ⟨row, -, id, rfl⟩ := inserted.mem made
        exact .inr (Int.natCast_nonneg _)
    | recorded tariffs _ =>
      rw [tariffs]
      exact ⟨fun _ _ _ _ _ => rfl, fun _ listed => .inl listed⟩

/-- A delivery of usage: the moments of its three reads and its write. -/
structure Delivery where
  priced : UsageState
  lookedUp : UsageState
  created : UsageState
  pricedFirst : Reaches priced lookedUp
  lookedUpNext : Reaches lookedUp created
  id : Id

def Delivery.result (delivery : Delivery) (input : RecordPricedUsageInput) : Recorded Outcome :=
  recordPricedUsageEvent delivery.priced.tariffs input delivery.lookedUp.events
    delivery.created.events delivery.id

structure Delivery.Accepted (delivery : Delivery) (input : RecordPricedUsageInput)
    (outcome : Outcome) (after : UsageState) : Prop where
  result : delivery.result input = .ok outcome
  tariffs : after.tariffs = delivery.created.tariffs
  events : after.events = outcome.events

def Delivery.tariff (delivery : Delivery) (input : RecordPricedUsageInput)
    (occurredAt : Instant) : Option ExistingUsageTariff :=
  tariffInEffect delivery.priced.tariffs input.category (normalizeDimension input.provider)
    (normalizeDimension input.unit) occurredAt

/-- The cost under the tariff that is found. -/
def costOf (quantity : ℚ) : Option ExistingUsageTariff → Nat
  | none => 0
  | some tariff => toMillionths (significant (quantity * ((tariff.pricePerUnit : ℚ) / 1000000000)))

variable {input : RecordPricedUsageInput} {occurredAt : Instant}

theorem resolve_ok {quantity : ℚ} (finite : input.quantity = .finite quantity)
    (nonneg : 0 ≤ quantity) (dated : input.occurredAt = some occurredAt) (delivery : Delivery)
    (cost : Nat) :
    (∃ resolution, resolveUsageTariff delivery.priced.tariffs input.lookup = .ok resolution ∧
        resolution.estimatedCostEur = cost) ↔
      (∀ tariff, delivery.tariff input occurredAt = some tariff → 0 ≤ tariff.pricePerUnit) ∧
        cost = costOf quantity (delivery.tariff input occurredAt) := by
  have date : input.lookup.occurredAt = some occurredAt := dated
  have amount : input.lookup.quantity = .finite quantity := finite
  have found : tariffInEffect delivery.priced.tariffs input.lookup.category input.lookup.provider
      input.lookup.unit occurredAt = delivery.tariff input occurredAt := rfl
  rw [resolveUsageTariff, date]
  dsimp only
  rw [found, amount]
  cases delivery.tariff input occurredAt with
  | none =>
    constructor
    · rintro ⟨_, resolved, rfl⟩
      cases resolved
      exact ⟨fun _ absent => (nomatch absent), rfl⟩
    · rintro ⟨-, rfl⟩
      exact ⟨_, rfl, rfl⟩
  | some tariff =>
    by_cases negative : tariff.pricePerUnit < 0
    · simp only [if_pos negative, reduceCtorEq, false_and, exists_false, false_iff]
      rintro ⟨positive, -⟩
      exact absurd negative (not_lt.2 (positive tariff rfl))
    · have computed : UsageTariff.calculateUsageCost (.finite quantity) tariff.pricePerUnit =
          .ok (costOf quantity (some tariff)) := by
        rw [UsageTariff.calculateUsageCost, if_neg (not_lt.2 nonneg), if_neg negative]
        rfl
      dsimp only
      rw [if_neg negative, computed]
      constructor
      · rintro ⟨_, resolved, rfl⟩
        cases resolved
        exact ⟨fun _ same => Option.some.inj same ▸ not_lt.1 negative, rfl⟩
      · rintro ⟨-, rfl⟩
        exact ⟨_, rfl, rfl⟩

/-- The checks do not depend on the price that was found. -/
theorem Valid.repriced {resolution other : UsageTariff.UsageTariffResolution}
    {quantity estimatedCost : ℚ}
    (valid : Valid (input.priced resolution) quantity estimatedCost occurredAt) :
    Valid (input.priced other) quantity (amountOf other.estimatedCostEur) occurredAt where
  quantity := valid.quantity
  estimatedCost := decimal_ok.2 ⟨rfl, amountOf_nonneg _⟩
  provider := valid.provider
  unit := valid.unit
  sourceType := valid.sourceType
  sourceId := valid.sourceId
  sourceEventKey := valid.sourceEventKey
  occurredAt := valid.occurredAt

/-- What an accepted delivery has read and written. -/
structure Delivered (delivery : Delivery) (input : RecordPricedUsageInput) (quantity : ℚ)
    (occurredAt : Instant) (outcome : Outcome) : Prop where
  valid : ∀ resolution, Valid (input.priced resolution) quantity
    (amountOf resolution.estimatedCostEur) occurredAt
  finite : input.quantity = .finite quantity
  nonneg : 0 ≤ quantity
  dated : input.occurredAt = some occurredAt
  prices : ∀ tariff, delivery.tariff input occurredAt = some tariff → 0 ≤ tariff.pricePerUnit
  kept : ∀ resolution, SameUsage outcome.event (input.priced resolution).normalized ∧
    outcome.event.sourceEventKey = (input.priced resolution).normalized.sourceEventKey
  listed : outcome.event ∈ outcome.events
  stored : outcome.event.quantity = toMillionths quantity
  cost : outcome.event.estimatedCost = costOf quantity (delivery.tariff input occurredAt)

variable {delivery : Delivery}

theorem Delivery.Accepted.delivered {outcome : Outcome} {after : UsageState}
    (accepted : delivery.Accepted input outcome after) :
    ∃ quantity occurredAt, Delivered delivery input quantity occurredAt outcome := by
  have result := accepted.result
  rw [Delivery.result, recordPricedUsageEvent] at result
  split at result
  · cases result
  next resolution resolved =>
    obtain ⟨quantity, estimatedCost, occurredAt, valid, appended⟩ := recordUsageEvent_ok.1 result
    have finite : input.quantity = .finite quantity := (decimal_ok.1 valid.quantity).1
    have nonneg := (decimal_ok.1 valid.quantity).2
    have cost : estimatedCost = amountOf resolution.estimatedCostEur :=
      (DecimalInput.finite.inj (decimal_ok.1 valid.estimatedCost).1).symm
    have dated : input.occurredAt = some occurredAt := valid.occurredAt
    obtain ⟨prices, priced⟩ :=
      (resolve_ok finite nonneg dated delivery _).1 ⟨resolution, resolved, rfl⟩
    have kept := kept_of_append delivery.lookedUpNext.events appended
    refine ⟨quantity, occurredAt, {
      valid := fun _ => valid.repriced
      finite := finite
      nonneg := nonneg
      dated := dated
      prices := prices
      kept := fun other => ⟨⟨kept.same.restaurantId, kept.same.accountId, kept.same.category,
        kept.same.provider, kept.same.unit, kept.same.currency, kept.same.sourceType,
        kept.same.sourceId⟩, kept.key⟩
      listed := kept.listed
      stored := kept.quantity
      cost := ?_ }⟩
    rw [kept.estimatedCost, cost, toMillionths_amountOf, priced]

/-- A usage that any later delivery is taken for: its quantity has at most six decimals, and a
tariff was in effect for it at first or the one that is in effect by then costs nothing for it. -/
structure Replayable (input : RecordPricedUsageInput) (first again : Delivery) : Prop where
  quantity : ∀ quantity, input.quantity = .finite quantity → SixDecimals quantity
  price : ∀ quantity occurredAt, input.quantity = .finite quantity →
    input.occurredAt = some occurredAt → first.tariff input occurredAt ≠ none ∨
      ∀ tariff, again.tariff input occurredAt = some tariff →
        quantity * ((tariff.pricePerUnit : ℚ) / 1000000000) < 1 / 2000000

theorem tariff_of_mem {tariff : ExistingUsageTariff}
    (found : delivery.tariff input occurredAt = some tariff) :
    tariff ∈ inEffect delivery.priced.tariffs input.category (normalizeDimension input.provider)
      (normalizeDimension input.unit) occurredAt := by
  have sorted := List.mem_of_mem_head? found
  exact (List.mem_insertionSort _).1 sorted

theorem inEffect_ne_nil : delivery.tariff input occurredAt ≠ none ↔
      inEffect delivery.priced.tariffs input.category (normalizeDimension input.provider)
        (normalizeDimension input.unit) occurredAt ≠ [] := by
  rw [Delivery.tariff, tariffInEffect, ne_eq, List.head?_eq_none_iff, ← List.length_eq_zero_iff,
    List.length_insertionSort, List.length_eq_zero_iff]

section

variable {first again : Delivery} (extends_ : Extends first.priced.tariffs again.priced.tariffs)
include extends_

theorem tariff_kept (found : first.tariff input occurredAt ≠ none) :
    again.tariff input occurredAt = first.tariff input occurredAt := by
  rw [Delivery.tariff, tariffInEffect, extends_.inEffect _ _ _ _ (inEffect_ne_nil.1 found)]
  rfl

section

variable
    (prices : ∀ tariff, first.tariff input occurredAt = some tariff → 0 ≤ tariff.pricePerUnit)
include prices

theorem later_price {tariff : ExistingUsageTariff}
    (found : again.tariff input occurredAt = some tariff) :
    0 ≤ tariff.pricePerUnit := by
  by_cases some : first.tariff input occurredAt ≠ none
  · exact prices tariff ((tariff_kept extends_ some).symm.trans found)
  · have listed := tariff_of_mem found
    rcases extends_.price tariff (List.mem_of_mem_filter listed) with old | nonneg
    · have before : tariff ∈ inEffect first.priced.tariffs input.category
          (normalizeDimension input.provider) (normalizeDimension input.unit) occurredAt :=
        List.mem_filter.2 ⟨old, (List.mem_filter.1 listed).2⟩
      exact absurd (inEffect_ne_nil.2 (List.ne_nil_of_mem before)) some
    · exact nonneg

/-- The costs of two deliveries agree if the first found a tariff or the second finds one that
costs nothing. -/
theorem costOf_eq_iff {quantity : ℚ} (decimals : SixDecimals quantity) :
    costOf quantity (first.tariff input occurredAt) =
        costOf quantity (again.tariff input occurredAt) ↔
      first.tariff input occurredAt ≠ none ∨ ∀ tariff, again.tariff input occurredAt = some tariff →
          quantity * ((tariff.pricePerUnit : ℚ) / 1000000000) < 1 / 2000000 := by
  by_cases found : first.tariff input occurredAt ≠ none
  · simp [tariff_kept extends_ found, found]
  · have none := not_not.1 found
    simp only [found, false_or]
    rw [none]
    cases later : again.tariff input occurredAt with
    | none => simp [costOf]
    | some tariff =>
      obtain ⟨millionths, rfl⟩ := decimals
      obtain ⟨billionths, price⟩ := Int.eq_ofNat_of_zero_le (later_price extends_ prices later)
      have product := @toMillionths_product millionths billionths
      simp only [Option.some.injEq, forall_eq', costOf, price, Int.cast_natCast]
      rw [eq_comm]
      exact product

end

end

def OneRow (events : List UsageEvent) (sourceEventKey : String) : Prop :=
  (events.filter fun event => event.sourceEventKey == sourceEventKey).length = 1

omit [UnicodeLetters] in
theorem oneRow_of_mem {state : UsageState} {event : UsageEvent} (listed : event ∈ state.events) :
    OneRow state.events event.sourceEventKey := by
  have counted : (state.events.filter fun other =>
        other.sourceEventKey == event.sourceEventKey).length =
      (state.events.map UsageEvent.sourceEventKey).count event.sourceEventKey := by
    rw [List.count, List.countP_map, List.countP_eq_length_filter]
    rfl
  rw [OneRow, counted]
  exact List.count_eq_one_of_mem state.keysUnique (List.mem_map.2 ⟨event, listed, rfl⟩)

/-- A recorder that finds the event of a delivery replays it if its price agrees and the quantity
was stored as it is. -/
theorem Delivered.recorded_iff {first again : Delivery} {quantity : ℚ} {outcome : Outcome}
    (delivered : Delivered first input quantity occurredAt outcome)
    (listed : outcome.event ∈ again.lookedUp.events)
    (resolution : UsageTariff.UsageTariffResolution) :
    recordUsageEvent (input.priced resolution) again.lookedUp.events again.created.events
          again.id = .ok ⟨outcome.event, false, again.created.events⟩ ↔
      resolution.estimatedCostEur = outcome.event.estimatedCost ∧ SixDecimals quantity := by
  obtain ⟨same, key⟩ := delivered.kept resolution
  have found : findEvent again.lookedUp.events
      (input.priced resolution).normalized.sourceEventKey = some outcome.event := by
    rw [findEvent, ← key]
    exact KeyedRows.lookup_of_mem again.lookedUp.keysUnique listed
  have append : ∀ estimatedCost, appendEvent (input.priced resolution).normalized quantity
        estimatedCost occurredAt again.lookedUp.events again.created.events again.id =
      replay outcome.event (input.priced resolution).normalized quantity estimatedCost
        again.created.events := by
    intro estimatedCost
    rw [appendEvent, found]
  have replays : sameReplay outcome.event (input.priced resolution).normalized quantity
        (amountOf resolution.estimatedCostEur) = true ↔
      resolution.estimatedCostEur = outcome.event.estimatedCost ∧ SixDecimals quantity := by
    rw [sameReplay_iff, delivered.stored, ← sixDecimals_iff, amountOf_inj]
    constructor
    · exact fun agrees => ⟨agrees.2.2.symm, agrees.2.1⟩
    · exact fun agrees => ⟨same, agrees.2, agrees.1.symm⟩
  rw [recordUsageEvent_ok, ← replays]
  constructor
  · rintro ⟨other, estimatedCost, instant, valid, appended⟩
    have here := delivered.valid resolution
    cases Except.ok.inj (here.quantity.symm.trans valid.quantity)
    cases Except.ok.inj (here.estimatedCost.symm.trans valid.estimatedCost)
    cases Option.some.inj (here.occurredAt.symm.trans valid.occurredAt)
    rw [append] at appended
    exact (replay_ok.1 appended).1
  · intro agrees
    refine ⟨quantity, _, occurredAt, delivered.valid resolution, ?_⟩
    rw [append]
    exact replay_ok.2 ⟨agrees, rfl⟩

/-- Once usage has been accepted, a later delivery of it returns the recorded event and leaves its
only row, exactly if the usage is one that can be replayed. -/
theorem replays_iff {input : RecordPricedUsageInput} {first again : Delivery} {outcome : Outcome}
    {after : UsageState} (accepted : first.Accepted input outcome after)
    (later : Reaches after again.priced) :
    (again.result input = .ok ⟨outcome.event, false, again.created.events⟩ ∧
        OneRow again.created.events outcome.event.sourceEventKey) ↔
      Replayable input first again := by
  obtain ⟨quantity, occurredAt, delivered⟩ := accepted.delivered
  have extends_ : Extends first.priced.tariffs again.priced.tariffs := by
    have before := first.pricedFirst.tariffs.trans first.lookedUpNext.tariffs
    rw [← accepted.tariffs] at before
    exact before.trans later.tariffs
  have listed : outcome.event ∈ again.lookedUp.events := by
    have recorded : outcome.event ∈ after.events := by
      rw [accepted.events]
      exact delivered.listed
    exact again.pricedFirst.events.subset (later.events.subset recorded)
  have oneRow : OneRow again.created.events outcome.event.sourceEventKey :=
    oneRow_of_mem (again.lookedUpNext.events.subset listed)
  have result : again.result input = .ok ⟨outcome.event, false, again.created.events⟩ ↔
      (∃ resolution, resolveUsageTariff again.priced.tariffs input.lookup = .ok resolution ∧
        resolution.estimatedCostEur = outcome.event.estimatedCost) ∧ SixDecimals quantity := by
    rw [Delivery.result, recordPricedUsageEvent]
    cases resolveUsageTariff again.priced.tariffs input.lookup with
    | error _ => simp
    | ok resolution => simpa using delivered.recorded_iff listed resolution
  rw [result, and_iff_left oneRow,
    resolve_ok delivered.finite delivered.nonneg delivered.dated again, delivered.cost]
  constructor
  · rintro ⟨⟨-, costs⟩, decimals⟩
    refine ⟨fun other finite => ?_, fun other instant finite dated => ?_⟩
    · cases DecimalInput.finite.inj (delivered.finite.symm.trans finite)
      exact decimals
    · cases DecimalInput.finite.inj (delivered.finite.symm.trans finite)
      cases Option.some.inj (delivered.dated.symm.trans dated)
      exact (costOf_eq_iff extends_ delivered.prices decimals).1 costs
  · intro replayable
    have decimals := replayable.quantity quantity delivered.finite
    have price := replayable.price quantity occurredAt delivered.finite delivered.dated
    exact ⟨⟨fun _ found => later_price extends_ delivered.prices found,
      (costOf_eq_iff extends_ delivered.prices decimals).2 price⟩, decimals⟩

end

section

attribute [local instance] UnicodeLetters.ascii

def failure? (recorded : Recorded Outcome) : Option UsageError :=
  match recorded with
  | .error failure => some failure
  | .ok _ => none

theorem eq_error {recorded : Recorded Outcome} {failure : UsageError}
    (failed : failure? recorded = some failure) : recorded = .error failure := by
  cases recorded with
  | error _ => exact congrArg Except.error (Option.some.inj failed)
  | ok _ => cases failed

/-- The seconds of speech of a call. -/
def sttUsage (quantity : ℚ) : RecordPricedUsageInput where
  restaurantId := "r1"
  accountId := none
  category := .STT_SECONDS
  provider := "deepgram"
  quantity := .finite quantity
  unit := "seconds"
  sourceType := "call"
  sourceId := "c1"
  sourceEventKey := "c1:final"
  occurredAt := some 1789473600000
  «metadata» := []

/-- What is stored of them while no tariff is known. -/
def sttEvent (quantity : Nat) : UsageEvent where
  id := "u1"
  restaurantId := "r1"
  accountId := none
  category := .STT_SECONDS
  provider := "deepgram"
  quantity
  unit := "seconds"
  estimatedCost := 0
  currency := "EUR"
  sourceType := "call"
  sourceId := "c1"
  sourceEventKey := "c1:final"
  occurredAt := 1789473600000
  «metadata» := .obj [("costStatus", .str "UNPRICED")]

def sttPrice : UsageTariffImportRow :=
  ⟨2, .STT_SECONDS, "deepgram", "seconds", 100000, 1788220800000, none, 1, "list"⟩

/-- A catalogue and a ledger with no more than the speech of the call. -/
def speechState (tariffs : List ExistingUsageTariff) (recorded : Option Nat) : UsageState where
  tariffs
  events := (recorded.map sttEvent).toList
  keysUnique := by cases recorded <;> simp

/-- A delivery that nothing comes in between of. -/
def deliveryAt (state : UsageState) : Delivery :=
  ⟨state, state, state, .refl, .refl, "u1"⟩

theorem sixtySeconds_accepted : (deliveryAt (speechState [] none)).Accepted (sttUsage 60)
    ⟨sttEvent 60000000, true, [sttEvent 60000000]⟩ (speechState [] (some 60000000)) where
  result := by
    change recordPricedUsageEvent [] (sttUsage 60) [] [] "u1" = _
    cbv
  tariffs := rfl
  events := rfl

theorem replays_sixtySeconds : ((deliveryAt (speechState [] (some 60000000))).result (sttUsage 60) =
        .ok ⟨sttEvent 60000000, false, [sttEvent 60000000]⟩ ∧
      OneRow [sttEvent 60000000] "c1:final") ↔
      Replayable (sttUsage 60) (deliveryAt (speechState [] none))
        (deliveryAt (speechState [] (some 60000000))) :=
  replays_iff sixtySeconds_accepted .refl

/-- An accepted usage that a later delivery takes for another one. -/
def Conflicts (input : RecordPricedUsageInput) : Prop :=
  ∃ (first again : Delivery) (outcome : Outcome) (after : UsageState),
    first.Accepted input outcome after ∧ Reaches after again.priced ∧
      again.result input = .error (.UsageEventConflictError input.sourceEventKey)

/-- One sample of a call has seven decimals, and a price imported late is not the one that was
recorded. -/
theorem replay_conflicts : Conflicts (sttUsage (1 / 16000)) ∧ Conflicts (sttUsage 60) := by
  constructor
  · refine ⟨deliveryAt (speechState [] none), deliveryAt (speechState [] (some 63)),
      ⟨sttEvent 63, true, [sttEvent 63]⟩, speechState [] (some 63), ⟨?_, rfl, rfl⟩, .refl,
      eq_error ?_⟩
    · change recordPricedUsageEvent [] (sttUsage (1 / 16000)) [] [] "u1" = _
      cbv
    · decide +kernel
  · let price := UsageTariff.toUsageTariffCreateData sttPrice "t1"
    have imported : Step (speechState [] (some 60000000)) (speechState [price] (some 60000000)) := by
      have plan : planUsageTariffImport [sttPrice] [] = ⟨[sttPrice], [], []⟩ := by decide_cbv
      refine @Step.imported _ _ _ [sttPrice] _ ?_ ?_ rfl rfl
      · exact congrArg UsageTariff.UsageTariffImportPlan.issues plan
      · change UsageTariff.Created (planUsageTariffImport [sttPrice] []).inserts [price]
        rw [plan]
        exact .cons ⟨"t1", rfl⟩ .nil
    refine ⟨_, deliveryAt (speechState [price] (some 60000000)), _, _, sixtySeconds_accepted,
      .single imported, eq_error ?_⟩
    decide +kernel

end

end Sokar.UsageLedger
