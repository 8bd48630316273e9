import Mathlib.Data.Int.Log
import Sokar.Usage.InvoiceImport

/-!
# Telnyx usage reports as invoice rows

`telnyxUsageReportToInvoiceRows` turns a usage report of the provider into the rows of the invoice
import, and `serializeTelnyxInvoiceRows` writes rows to the file that the import reads.
-/

namespace Sokar.UsageReconciliation

/-- `Date.parse` of any text; a text of ISO shape is read as one. -/
class DateText where
  parse : String → Option Instant
  parse_iso : ∀ text, ISO_DATE_PATTERN text → parse text = dateFromIso text.toList

/-- A runtime that reads no other texts. -/
@[reducible] def DateText.isoOnly : DateText where
  parse text := if ISO_DATE_PATTERN text then dateFromIso text.toList else none
  parse_iso _ shaped := by rw [if_pos shaped]

structure TelnyxUsageMapping where
  category : UsageCategory
  unit : String
  defaultQuantityMetric : String

def TELNYX_USAGE_PRODUCT_MAPPINGS : List (String × TelnyxUsageMapping) :=
  [("messaging", ⟨.SMS_SEGMENTS, "segments", "parts"⟩),
    ("call-control", ⟨.TELEPHONY_SECONDS, "seconds", "billed_sec"⟩),
    ("sip-trunking", ⟨.TELEPHONY_SECONDS, "seconds", "billed_sec"⟩)]

structure TelnyxUsageReport where
  product : String
  startDate : String
  endDate : String
  data : List (List (String × JsonValue))

structure TelnyxUsageInvoiceRowsInput where
  report : TelnyxUsageReport
  quantityMetric : Option String
  source : String
  requireCurrencyDimension : Option Bool
  allowEmpty : Bool

/-- `/^[A-Za-z0-9_]{1,64}$/`. -/
def METRIC_PATTERN (text : String) : Bool :=
  text ≠ "" && text.toList.length ≤ 64 && text.toList.all fun char => char.isAlphanum || char == '_'

/-- `/^[A-Za-z0-9][A-Za-z0-9-]{0,63}$/`. -/
def PRODUCT_PATTERN (text : String) : Bool :=
  text.toList.head?.any Char.isAlphanum && text.toList.length ≤ 64 &&
    text.toList.all fun char => char.isAlphanum || char == '-'

/-- An error of the connector with its code `INVALID_INPUT`. -/
def invalidInput {α : Type} (message : String) : Except String α :=
  .error message

def validateMetric (metric field : String) : Except String String :=
  if METRIC_PATTERN (trim metric) then .ok (trim metric)
  else invalidInput (field ++ " contains an invalid metric")

/-- The exact value of a decimal text, by its digits before and after the point. -/
def decimalOf (parts : List Char × List Char) : ℚ :=
  (numberOf (parts.1 ++ parts.2) : ℚ) / 10 ^ parts.2.length

/-- A positive value with the twenty significant digits `Decimal` keeps, rounded half up. -/
def significant (value : ℚ) : ℚ :=
  if value = 0 then 0
  else
    let unit : ℚ := 10 ^ (Int.log 10 value - 19)
    ⌊value / unit + 1 / 2⌋ * unit

/-- `toFixed(6)`, in millionths. -/
def toMillionths (value : ℚ) : Nat :=
  ⌊value * 1000000 + 1 / 2⌋.toNat

def providerDecimal (value : JsonValue) (field : String) : Except String ℚ :=
  let raw :=
    match value with
    | .number text => text
    | .string text => trim text
    | _ => ""
  match decimalParts raw with
  | some parts => .ok (decimalOf parts)
  | none => invalidInput ("Telnyx usage field " ++ field ++ " must be a non-negative decimal")

variable (input : TelnyxUsageInvoiceRowsInput)

section

variable [DateText]

def parseTelnyxDate (value field : String) : Except String Instant :=
  let raw := trim value
  let dateOnly := DATE_ONLY_PATTERN raw
  let parsed? :=
    if dateOnly then dateFromIso (raw.toList ++ "T00:00:00.000Z".toList) else DateText.parse value
  match parsed? with
  | none => invalidInput (field ++ " must be a valid date")
  | some parsed =>
    if dateOnly && (toISOString parsed).toList.take 10 != raw.toList then
      invalidInput (field ++ " must be a valid calendar date")
    else .ok parsed

def reportDate (value field : String) : Except String Instant := do
  let parsed ← parseTelnyxDate value field
  if (toISOString parsed).toList.take 10 ≠ value.toList.take 10 then
    invalidInput ("Telnyx report " ++ field ++ " is not a stable UTC date")
  return parsed

variable [UnicodeLetters]

def validateProduct (product : String) : Except String String :=
  let normalized := UnicodeLetters.toLowerCase (trim product)
  if PRODUCT_PATTERN normalized then .ok normalized
  else invalidInput "product contains invalid characters"

def usageCurrency (row : List (String × JsonValue)) : Option String :=
  match cell row "currency" with
  | .string value =>
    if trim value = "" then none else some (UnicodeCase.toUpperCase (trim value))
  | _ => none

/-- What the loop over the rows of a report has gathered. -/
structure TelnyxTotals where
  currencies : List String
  missingCurrency : Bool
  quantity : ℚ
  cost : ℚ

def TelnyxTotals.add (product quantityMetric : String) (totals : TelnyxTotals)
    (row : List (String × JsonValue)) : Except String TelnyxTotals := do
  if let .string rowProduct := cell row "product" then
    if (← validateProduct rowProduct) ≠ product then
      invalidInput "Telnyx usage report contains a row for a different product"
  let rowCurrency := usageCurrency row
  let quantity ← providerDecimal (cell row quantityMetric) quantityMetric
  let cost ← providerDecimal (cell row "cost") "cost"
  return {
    currencies := (totals.currencies ++ rowCurrency.toList).dedup
    missingCurrency := totals.missingCurrency || rowCurrency.isNone
    quantity := significant (totals.quantity + quantity)
    cost := significant (totals.cost + cost) }

def checkCurrencies (totals : TelnyxTotals) : Except String Unit :=
  match totals.currencies with
  | _ :: _ :: _ => invalidInput "Telnyx usage report contains multiple currencies"
  | currencies =>
    if currencies.any (· != "EUR") then
      invalidInput ("Telnyx usage currency is " ++ currencies.headD "" ++ ", expected EUR")
    else if input.requireCurrencyDimension.getD true && totals.missingCurrency then
      invalidInput
        "Telnyx usage report is missing the currency dimension; request dimensions=currency"
    else .ok ()

def telnyxUsageReportToInvoiceRows : Except String (List UsageInvoiceImportRow) := do
  let product ← validateProduct input.report.product
  match (TELNYX_USAGE_PRODUCT_MAPPINGS.find? fun mapping => mapping.1 == product).map Prod.snd with
  | none => invalidInput ("Telnyx product " ++ product ++ " has no Suppernote usage mapping yet")
  | some mapping => do
      let quantityMetric ←
        validateMetric (input.quantityMetric.getD mapping.defaultQuantityMetric) "quantityMetric"
      let source := trim input.source
      if source = "" ∨ 191 < utf16Length source then
        invalidInput "source must contain between 1 and 191 characters"
      let periodStart ← reportDate input.report.startDate "startDate"
      let periodEnd ← reportDate input.report.endDate "endDate"
      if periodEnd ≤ periodStart then
        invalidInput "Telnyx report endDate must be later than startDate"
      let row : UsageInvoiceImportRow := {
        rowNumber := 1
        category := mapping.category
        provider := "telnyx"
        unit := mapping.unit
        periodStart, periodEnd
        billedQuantity := 0
        billedCostEur := 0
        source }
      if input.report.data = [] then
        if input.allowEmpty then return [row]
        else invalidInput "Telnyx usage report contains no data rows"
      else
        let totals ← input.report.data.foldlM (TelnyxTotals.add product quantityMetric)
          ⟨[], false, 0, 0⟩
        checkCurrencies input totals
        return [{ row with
          billedQuantity := toMillionths totals.quantity
          billedCostEur := toMillionths totals.cost }]

end

section

/-- `toFixed(6)` of an amount in millionths. -/
def fixedText (amount : Nat) : String :=
  toString (amount / 1000000) ++ "." ++ String.ofList (lastDigits 6 amount)

def csvCell (value : String) : String :=
  String.ofList ('"' :: value.toList.flatMap (fun char =>
    if char = '"' then ['"', '"'] else [char]) ++ ['"'])

/-- The fields of a row under the names of the columns. -/
def serializableRow (row : UsageInvoiceImportRow) : List (String × String) :=
  [("category", row.category.name), ("provider", row.provider), ("unit", row.unit),
    ("periodStart", toISOString row.periodStart), ("periodEnd", toISOString row.periodEnd),
    ("billedQuantity", fixedText row.billedQuantity),
    ("billedCostEur", fixedText row.billedCostEur), ("currency", row.currency),
    ("source", row.source)]

/-- A line of the CSV file, with the new line that ends it. -/
def csvLine (values : List String) : String :=
  String.intercalate "," (values.map csvCell) ++ "\n"

def serializeTelnyxInvoiceRows (rows : List UsageInvoiceImportRow) (format : InvoiceFormat) :
    String :=
  match format with
  | .json =>
    stringifyJson (.array (rows.map fun row => textObject (serializableRow row))) ++ "\n"
  | .csv =>
    String.join (csvLine USAGE_INVOICE_IMPORT_COLUMNS ::
      rows.map fun row => csvLine ((serializableRow row).map Prod.snd))

end

end Sokar.UsageReconciliation
