import Sokar.Library.Grouping
import Sokar.Store.Rows
import Sokar.Usage.InvoiceImport

/-!
# Reconciliation of usage invoices

`reconcileUsageInvoice` compares the rows of an imported invoice with the events of the usage
ledger.  The quantities and costs of both are `DECIMAL(18,6)` values, held in millionths; their
sums are exact.
-/

namespace Sokar.UsageReconciliation

structure UsageReconciliationEvent where
  restaurantId : Id
  category : UsageCategory
  provider : String
  unit : String
  quantity : Nat
  estimatedCostEur : Nat
  occurredAt : Instant
  «metadata» : Json

inductive UsageReconciliationStatus where
  | MATCH | MISMATCH | INVOICE_ONLY | USAGE_ONLY | UNPRICED_USAGE
  deriving DecidableEq

def UsageReconciliationStatus.name : UsageReconciliationStatus → String
  | .MATCH => "MATCH"
  | .MISMATCH => "MISMATCH"
  | .INVOICE_ONLY => "INVOICE_ONLY"
  | .USAGE_ONLY => "USAGE_ONLY"
  | .UNPRICED_USAGE => "UNPRICED_USAGE"

/-- A row of the report, with its periods as ISO texts. -/
structure UsageReconciliationReportRow where
  status : UsageReconciliationStatus
  category : String
  provider : String
  unit : String
  periodStart : String
  periodEnd : String
  source : Option String
  billedQuantity : Option Nat
  observedQuantity : Nat
  quantityDelta : Option Int
  billedCostEur : Option Nat
  observedCostEur : Nat
  costDeltaEur : Option Int
  eventCount : Nat
  pricedEvents : Nat
  unpricedEvents : Nat
  restaurantIds : List Id
  deriving DecidableEq

structure UsageReconciliationReport where
  rows : List UsageReconciliationReportRow
  counts : UsageReconciliationStatus → Nat

def UsageReconciliationReportRow.dimensionKey (row : UsageReconciliationReportRow) : String :=
  UsageReconciliation.dimensionKey row.category row.provider row.unit

def pricedMetadata (metadata : Json) (estimatedCost : Nat) : Bool :=
  match metadata.field? "costStatus" with
  | some (.str "PRICED") => true
  | some (.str "UNPRICED") => false
  | _ => estimatedCost != 0

def invoiceKey (row : UsageInvoiceImportRow) : String :=
  row.dimensionKey ++ "|" ++ toISOString row.periodStart ++ "|" ++ toISOString row.periodEnd ++
    "|" ++ row.source

/-- The difference is within the tolerance, which counts whole units. -/
def withinTolerance (delta : Int) (tolerance : ℚ) : Bool :=
  ((|delta| : Int) : ℚ) ≤ tolerance * 1000000

/-- The lines of an invoice that share a period, a dimension and a source. -/
structure GroupedInvoice where
  row : UsageInvoiceImportRow
  billedQuantityDecimal : Nat
  billedCostDecimal : Nat

def GroupedInvoice.start (row : UsageInvoiceImportRow) : GroupedInvoice :=
  ⟨row, row.billedQuantity, row.billedCostEur⟩

def GroupedInvoice.add (existing : GroupedInvoice) (row : UsageInvoiceImportRow) : GroupedInvoice :=
  { existing with
    billedQuantityDecimal := existing.billedQuantityDecimal + row.billedQuantity
    billedCostDecimal := existing.billedCostDecimal + row.billedCostEur }

def groupedInvoices (rows : List UsageInvoiceImportRow) : List (String × GroupedInvoice) :=
  Grouping.groupBy GroupedInvoice.start GroupedInvoice.add invoiceKey rows

/-- What a row of the report says of the events it counts. -/
structure Observed where
  quantity : Nat
  cost : Nat
  count : Nat
  priced : Nat
  restaurantIds : List Id

def observe (events : List UsageReconciliationEvent) : Observed where
  quantity := (events.map fun event => event.quantity).sum
  cost := (events.map fun event => event.estimatedCostEur).sum
  count := events.length
  priced := (events.filter fun event => pricedMetadata event.metadata event.estimatedCostEur).length
  restaurantIds := ((events.map fun event => event.restaurantId).dedup).insertionSort
    fun left right => (compare (utf16Units left) (utf16Units right)).isLE

def reportRowForInvoice (invoice : GroupedInvoice) (events : List UsageReconciliationEvent)
    (quantityTolerance costTolerance : ℚ) : UsageReconciliationReportRow :=
  let observed := observe events
  let unpricedEvents := observed.count - observed.priced
  let quantityDelta : Int := observed.quantity - invoice.billedQuantityDecimal
  let costDelta : Int := observed.cost - invoice.billedCostDecimal
  let status : UsageReconciliationStatus :=
    if events.length = 0 then
      if invoice.billedQuantityDecimal = 0 ∧ invoice.billedCostDecimal = 0 then .MATCH
      else .INVOICE_ONLY
    else if 0 < unpricedEvents then .UNPRICED_USAGE
    else if withinTolerance quantityDelta quantityTolerance &&
        withinTolerance costDelta costTolerance then .MATCH
    else .MISMATCH
  { status
    category := invoice.row.category.name
    provider := invoice.row.provider
    unit := invoice.row.unit
    periodStart := toISOString invoice.row.periodStart
    periodEnd := toISOString invoice.row.periodEnd
    source := some invoice.row.source
    billedQuantity := some invoice.billedQuantityDecimal
    observedQuantity := observed.quantity
    quantityDelta := some quantityDelta
    billedCostEur := some invoice.billedCostDecimal
    observedCostEur := observed.cost
    costDeltaEur := some costDelta
    eventCount := observed.count
    pricedEvents := observed.priced
    unpricedEvents
    restaurantIds := observed.restaurantIds }

/-- The names a key of usage gives back: the first three of its parts. -/
def keyNames (key : String) : String × String × String :=
  let parts := splitText '|' key
  (parts.getD 0 "", parts.getD 1 "", parts.getD 2 "")

def reportRowForUsage (key : String) (events : List UsageReconciliationEvent)
    (invoiced : Bool) (scopeStart scopeEnd : Instant) : UsageReconciliationReportRow :=
  let observed := observe events
  let unpricedEvents := observed.count - observed.priced
  { status := if invoiced && 0 < unpricedEvents then .UNPRICED_USAGE else .USAGE_ONLY
    category := (keyNames key).1
    provider := (keyNames key).2.1
    unit := (keyNames key).2.2
    periodStart := toISOString scopeStart
    periodEnd := toISOString scopeEnd
    source := none
    billedQuantity := none
    observedQuantity := observed.quantity
    quantityDelta := none
    billedCostEur := none
    observedCostEur := observed.cost
    costDeltaEur := none
    eventCount := observed.count
    pricedEvents := observed.priced
    unpricedEvents
    restaurantIds := observed.restaurantIds }

variable (event : UsageReconciliationEvent)

variable (invoiceRows : List UsageInvoiceImportRow)

variable (invoices : List (String × GroupedInvoice))

variable (usageEvents : List UsageReconciliationEvent)

variable (events : List (UsageReconciliationEvent × Nat))

section

variable [UnicodeLetters]

def usageKey : String :=
  dimensionKey event.category.name (UnicodeLetters.toLowerCase (trim event.provider))
    (UnicodeLetters.toLowerCase (trim event.unit))

def within (row : UsageInvoiceImportRow) : Bool :=
  usageKey event == row.dimensionKey &&
    row.periodStart ≤ event.occurredAt && event.occurredAt < row.periodEnd

/-- The events an invoice counts, each with its index. -/
def matching (invoice : GroupedInvoice) : List (UsageReconciliationEvent × Nat) :=
  events.filter fun event => within event.1 invoice.row

/-- The indices of the events that some invoice counts. -/
def covered : List Nat :=
  invoices.flatMap fun invoice => (matching events invoice.2).map Prod.snd

/-- The other events, by their key. -/
def usageOnly : List (String × List (UsageReconciliationEvent × Nat)) :=
  Grouping.groupBy (fun event => [event]) (fun bucket event => bucket ++ [event])
    (fun event => usageKey event.1)
    (events.filter fun event => event.2 ∉ covered invoices events)

variable [Icu]

/-- The comparison of `rows.sort`. -/
def reportOrder (left right : UsageReconciliationReportRow) : Ordering :=
  (Icu.localeCompare left.status.name right.status.name).then
    (Icu.localeCompare (left.dimensionKey ++ "|" ++ left.periodStart)
      (right.dimensionKey ++ "|" ++ right.periodStart))

def reportRows (scopeStart scopeEnd : Instant) (quantityTolerance costTolerance : ℚ) :
    List UsageReconciliationReportRow :=
  let invoices := groupedInvoices invoiceRows
  let events := usageEvents.zipIdx
  let invoiceDimensions := invoices.map fun invoice => invoice.2.row.dimensionKey
  let rows := invoices.map (fun invoice =>
      reportRowForInvoice invoice.2 ((matching events invoice.2).map Prod.fst)
        quantityTolerance costTolerance) ++
    (usageOnly invoices events).map fun bucket =>
      reportRowForUsage bucket.1 (bucket.2.map Prod.fst) (invoiceDimensions.contains bucket.1)
        scopeStart scopeEnd
  rows.insertionSort fun left right => reportOrder left right ≠ .gt

def reconcileUsageInvoice (quantityTolerance costToleranceEur : Option ℚ) :
    Except String UsageReconciliationReport :=
  match invoiceRows with
  | [] => .error "invoiceRows must contain at least one row"
  | first :: rest =>
    let quantityTolerance := quantityTolerance.getD 0
    let costTolerance := costToleranceEur.getD 0
    if quantityTolerance < 0 ∨ costTolerance < 0 then
      .error "reconciliation tolerances must be non-negative"
    else
      let scopeStart := rest.foldl (fun start row => min start row.periodStart) first.periodStart
      let scopeEnd := rest.foldl (fun end_ row => max end_ row.periodEnd) first.periodEnd
      let rows := reportRows (first :: rest) usageEvents scopeStart scopeEnd quantityTolerance
        costTolerance
      .ok {
        rows
        counts := fun status => rows.countP fun row => row.status = status }

end

end Sokar.UsageReconciliation
