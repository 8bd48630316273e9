import Sokar.Usage.TelnyxRows

/-!
# Import of usage tariffs

`planUsageTariffImport` compares imported rows with the catalogue of tariffs and with each other:
identical rows are skipped, conflicting versions and overlapping windows are issues.  Prices are
`DECIMAL(18,9)` values, held in billionths of a euro.
-/

namespace Sokar.UsageTariff

structure UsageTariffImportRow where
  rowNumber : Nat
  category : UsageCategory
  provider : String
  unit : String
  pricePerUnit : Nat
  effectiveFrom : Instant
  effectiveTo : Option Instant
  version : Int
  source : String
  deriving DecidableEq

inductive UsageTariffImportIssueCode where
  | DUPLICATE_ROW | EXISTING_CONFLICT | EFFECTIVE_WINDOW_OVERLAP
  deriving DecidableEq

structure UsageTariffImportIssue where
  rowNumber : Nat
  code : UsageTariffImportIssueCode
  message : String
  deriving DecidableEq

structure ExistingUsageTariff where
  id : Id
  category : UsageCategory
  provider : String
  unit : String
  pricePerUnit : Int
  currency : String
  effectiveFrom : Instant
  effectiveTo : Option Instant
  version : Int
  source : String
  deriving DecidableEq

structure UsageTariffSkip where
  rowNumber : Nat
  tariffId : Id
  deriving DecidableEq

structure UsageTariffImportPlan where
  inserts : List UsageTariffImportRow
  skips : List UsageTariffSkip
  issues : List UsageTariffImportIssue
  deriving DecidableEq

/-- What tariffs and rows are compared by. -/
structure Version where
  category : UsageCategory
  provider : String
  unit : String
  version : Int
  deriving DecidableEq

/-- The half-open window in which a tariff is effective; without an end it stays so. -/
structure Window where
  effectiveFrom : Instant
  effectiveTo : Option Instant

variable (row : UsageTariffImportRow)

def UsageTariffImportRow.name : Version :=
  ⟨row.category, row.provider, row.unit, row.version⟩

def ExistingUsageTariff.name (tariff : ExistingUsageTariff) : Version :=
  ⟨tariff.category, tariff.provider, tariff.unit, tariff.version⟩

def UsageTariffImportRow.window : Window :=
  ⟨row.effectiveFrom, row.effectiveTo⟩

def ExistingUsageTariff.window (tariff : ExistingUsageTariff) : Window :=
  ⟨tariff.effectiveFrom, tariff.effectiveTo⟩

def dimensionKey (row : Version) : String :=
  UsageReconciliation.dimensionKey row.category.name row.provider row.unit

def versionKey (row : Version) : String :=
  dimensionKey row ++ "|" ++ toString row.version

def beforeEnd (instant : Instant) (windowEnd : Option Instant) : Bool :=
  windowEnd.all fun windowEnd => instant < windowEnd

def windowsOverlap (left right : Window) : Bool :=
  beforeEnd left.effectiveFrom right.effectiveTo && beforeEnd right.effectiveFrom left.effectiveTo

def Window.contains (window : Window) (instant : Instant) : Bool :=
  window.effectiveFrom ≤ instant && beforeEnd instant window.effectiveTo

theorem Window.disjoint {left right : Window} (apart : windowsOverlap left right = false)
    (instant : Instant) : ¬(left.contains instant = true ∧ right.contains instant = true) := by
  have carries : ∀ {start : Instant} {windowEnd : Option Instant}, start ≤ instant →
      beforeEnd instant windowEnd = true → beforeEnd start windowEnd = true := by
    intro start windowEnd started ends
    cases windowEnd with
    | none => rfl
    | some windowEnd =>
      have inside : instant < windowEnd := by simpa [beforeEnd] using ends
      simpa [beforeEnd] using lt_of_le_of_lt started inside
  rintro ⟨inLeft, inRight⟩
  simp only [Window.contains, Bool.and_eq_true, decide_eq_true_eq] at inLeft inRight
  have both : windowsOverlap left right = true := by
    rw [windowsOverlap, carries inLeft.1 inRight.2, carries inRight.1 inLeft.2]
    rfl
  rw [apart] at both
  exact Bool.false_ne_true both

variable (existing : List ExistingUsageTariff)

variable (candidates : List UsageTariffImportRow)

section

/-- What the loop over the rows has gathered. -/
structure PlanState where
  seen : List (String × UsageTariffImportRow)
  inserts : List UsageTariffImportRow
  skips : List UsageTariffSkip
  issues : List UsageTariffImportIssue

def PlanState.start : PlanState :=
  ⟨[], [], [], []⟩

/-- `existingByVersion`, a map in which the last tariff of a key stays. -/
def existingByVersion (key : String) : Option ExistingUsageTariff :=
  existing.reverse.find? fun tariff => versionKey tariff.name == key

variable [UnicodeLetters]

def sameTariff (existing : ExistingUsageTariff) : Bool :=
  row.category == existing.category &&
    row.provider == UnicodeLetters.toLowerCase (trim existing.provider) &&
    row.unit == UnicodeLetters.toLowerCase (trim existing.unit) &&
    (row.pricePerUnit : Int) == existing.pricePerUnit &&
    UnicodeCase.toUpperCase (trim existing.currency) == "EUR" &&
    row.effectiveFrom == existing.effectiveFrom &&
    row.effectiveTo == existing.effectiveTo &&
    row.version == existing.version &&
    row.source == trim existing.source

def planRow (state : PlanState) (row : UsageTariffImportRow) : PlanState :=
  let key := versionKey row.name
  match state.seen.find? fun entry => entry.1 == key with
  | some (_, duplicate) =>
    { state with issues := state.issues ++ [⟨row.rowNumber, .DUPLICATE_ROW,
        s!"Same dimension/version already appears on row {duplicate.rowNumber}"⟩] }
  | none =>
    let state := { state with seen := state.seen ++ [(key, row)] }
    match existingByVersion existing key with
    | some current =>
      if sameTariff row current then
        { state with skips := state.skips ++ [⟨row.rowNumber, current.id⟩] }
      else
        { state with issues := state.issues ++ [⟨row.rowNumber, .EXISTING_CONFLICT,
            "Dimension/version already exists with different tariff data (" ++ current.id ++
              ")"⟩] }
    | none => { state with inserts := state.inserts ++ [row] }

/-- A candidate whose window overlaps that of another version in the catalogue. -/
def overlapsExisting (candidate : UsageTariffImportRow) (current : ExistingUsageTariff) : Bool :=
  dimensionKey candidate.name == dimensionKey current.name &&
    versionKey candidate.name != versionKey current.name &&
    windowsOverlap candidate.window current.window

def overlapsCandidate (first second : UsageTariffImportRow) : Bool :=
  dimensionKey first.name == dimensionKey second.name &&
    windowsOverlap first.window second.window

def existingOverlaps (existing : List ExistingUsageTariff) : List UsageTariffImportIssue :=
  candidates.flatMap fun candidate =>
    (existing.filter (overlapsExisting candidate)).map fun current =>
      ⟨candidate.rowNumber, .EFFECTIVE_WINDOW_OVERLAP,
        "Effective window overlaps existing tariff " ++ current.id⟩

def candidateOverlaps : List UsageTariffImportIssue :=
  ((orderedPairs candidates).filter fun pair => overlapsCandidate pair.1 pair.2).map fun pair =>
    ⟨pair.2.rowNumber, .EFFECTIVE_WINDOW_OVERLAP,
      s!"Effective window overlaps import row {pair.1.rowNumber}"⟩

def planUsageTariffImport (rows : List UsageTariffImportRow)
    (existing : List ExistingUsageTariff) : UsageTariffImportPlan :=
  let state := rows.foldl (planRow existing) .start
  let issues := state.issues ++ existingOverlaps state.inserts existing ++
    candidateOverlaps state.inserts
  ⟨if issues = [] then state.inserts else [], state.skips, issues⟩

end

def toUsageTariffCreateData (id : Id) : ExistingUsageTariff where
  id
  category := row.category
  provider := row.provider
  unit := row.unit
  pricePerUnit := row.pricePerUnit
  currency := "EUR"
  effectiveFrom := row.effectiveFrom
  effectiveTo := row.effectiveTo
  version := row.version
  source := row.source

variable (tariffs : List ExistingUsageTariff)

section

/-- What `new Prisma.Decimal(value)` makes of a text or a number. -/
inductive DecimalInput where
  | unreadable
  | notFinite
  | finite (value : ℚ)

inductive UsageCostStatus where
  | PRICED | UNPRICED
  deriving DecidableEq

/-- The tariff a resolution names, with its price. -/
structure ResolvedTariff where
  pricePerUnit : Int
  tariffId : Id
  tariffVersion : Int
  tariffSource : String
  deriving DecidableEq

/-- A cost in millionths of a euro, and where it comes from. -/
structure UsageTariffResolution where
  estimatedCostEur : Nat
  costStatus : UsageCostStatus
  tariff : Option ResolvedTariff
  deriving DecidableEq

structure ResolveUsageTariffInput where
  category : UsageCategory
  provider : String
  unit : String
  /-- None where the date is invalid. -/
  occurredAt : Option Instant
  quantity : DecimalInput

/-- `amount.mul(price).toFixed(6)`, for a price in billionths. -/
def calculateUsageCost (quantity : DecimalInput) (pricePerUnit : Int) : Except String Nat :=
  match quantity with
  | .unreadable => .error "[DecimalError] Invalid argument"
  | .notFinite => .error "quantity must be non-negative"
  | .finite amount =>
    if amount < 0 then .error "quantity must be non-negative"
    else if pricePerUnit < 0 then .error "pricePerUnit must be non-negative"
    else .ok (UsageReconciliation.toMillionths
      (UsageReconciliation.significant (amount * (pricePerUnit / 1000000000))))

/-- The order of the lookup: the latest window first, then the highest version. -/
def latestFirst (left right : ExistingUsageTariff) : Bool :=
  right.effectiveFrom < left.effectiveFrom ||
    (left.effectiveFrom == right.effectiveFrom && right.version ≤ left.version)

variable [UnicodeLetters]

def normalizeDimension (value : String) : String :=
  UnicodeLetters.toLowerCase (trim value)

/-- The tariffs of a dimension that are effective at an instant. -/
def inEffect (category : UsageCategory) (provider unit : String) (occurredAt : Instant) :
    List ExistingUsageTariff :=
  tariffs.filter fun tariff =>
    tariff.category == category && tariff.provider == normalizeDimension provider &&
      tariff.unit == normalizeDimension unit && tariff.currency == "EUR" &&
      tariff.window.contains occurredAt

def tariffInEffect (category : UsageCategory) (provider unit : String) (occurredAt : Instant) :
    Option ExistingUsageTariff :=
  ((inEffect tariffs category provider unit occurredAt).insertionSort
    fun left right => latestFirst left right).head?

def resolveUsageTariff (input : ResolveUsageTariffInput) : Except String UsageTariffResolution :=
  match input.occurredAt with
  | none => .error "occurredAt must be a valid date"
  | some occurredAt =>
    match tariffInEffect tariffs input.category input.provider input.unit occurredAt with
    | none => .ok ⟨0, .UNPRICED, none⟩
    | some tariff =>
      if tariff.pricePerUnit < 0 then .error ("Invalid usage tariff " ++ tariff.id)
      else do
        let estimatedCostEur ← calculateUsageCost input.quantity tariff.pricePerUnit
        return ⟨estimatedCostEur, .PRICED,
          some ⟨tariff.pricePerUnit, tariff.id, tariff.version, tariff.source⟩⟩

end

end Sokar.UsageTariff
