import Sokar.Usage.Categories

/-!
# Import of usage invoices

`parseUsageInvoiceImport` of the usage reconciliation: a CSV or JSON file of billed periods, read
row by row, each with its category, dimension, half-open period and amounts.  Amounts have six
decimals and are held in millionths.
-/

namespace Sokar.UsageReconciliation

def USAGE_INVOICE_IMPORT_COLUMNS : List String :=
  ["category", "provider", "unit", "periodStart", "periodEnd", "billedQuantity", "billedCostEur",
    "currency", "source"]

structure UsageInvoiceImportRow where
  rowNumber : Nat
  category : UsageCategory
  provider : String
  unit : String
  periodStart : Instant
  /-- Exclusive UTC end of the billed period. -/
  periodEnd : Instant
  billedQuantity : Nat
  billedCostEur : Nat
  source : String
  deriving DecidableEq

def UsageInvoiceImportRow.currency (_row : UsageInvoiceImportRow) : String :=
  "EUR"

inductive UsageReconciliationIssueCode where
  | MALFORMED_INPUT | MISSING_COLUMN | UNKNOWN_COLUMN | INVALID_CATEGORY | INVALID_PROVIDER
  | INVALID_UNIT | INVALID_DATE | INVALID_WINDOW | INVALID_QUANTITY | INVALID_COST
  | INVALID_CURRENCY | INVALID_SOURCE | INVOICE_WINDOW_OVERLAP
  deriving DecidableEq

structure UsageReconciliationIssue where
  rowNumber : Nat
  code : UsageReconciliationIssueCode
  message : String
  deriving DecidableEq

/-- What the import throws.  The CSV reader is that of the tariff import and throws its error. -/
inductive UsageImportError where
  | UsageReconciliationImportError (issues : List UsageReconciliationIssue)
  | UsageTariffImportError (rowNumber : Nat) (message : String)
  deriving DecidableEq

abbrev Parsed (α : Type) := Except UsageImportError α

def issue {α : Type} (rowNumber : Nat) (code : UsageReconciliationIssueCode) (message : String) :
    Parsed α :=
  .error (.UsageReconciliationImportError [⟨rowNumber, code, message⟩])

def date (value : JsonValue) (rowNumber : Nat) (field : String) : Parsed Instant :=
  match parseIsoDate (rawText value) with
  | some parsed => .ok parsed
  | none => issue rowNumber .INVALID_DATE (field ++ " must be an ISO date or YYYY-MM-DD")

/-- A non-negative decimal of at most eighteen digits, six of them decimals, in millionths. -/
def decimal (value : JsonValue) (rowNumber : Nat) (field : String)
    (code : UsageReconciliationIssueCode) : Parsed Nat :=
  match decimalParts (rawText value) with
  | none => issue rowNumber code (field ++ " must be a non-negative decimal string")
  | some parts =>
    if 18 < parts.1.length + parts.2.length ∨ 6 < parts.2.length then
      issue rowNumber code (field ++ " exceeds DECIMAL(18,6)")
    else .ok (scaledDigits 6 parts)

theorem date_ok {value : JsonValue} {rowNumber : Nat} {field : String} {parsed : Instant} :
    date value rowNumber field = .ok parsed ↔ parseIsoDate (rawText value) = some parsed := by
  rw [date]
  cases parseIsoDate (rawText value) <;> simp [issue]

theorem decimal_ok {value : JsonValue} {rowNumber : Nat} {field : String}
    {code : UsageReconciliationIssueCode} {amount : Nat} :
    decimal value rowNumber field code = .ok amount ↔
      ∃ parts, decimalParts (rawText value) = some parts ∧
        parts.1.length + parts.2.length ≤ 18 ∧ parts.2.length ≤ 6 ∧
        amount = scaledDigits 6 parts := by
  rw [decimal]
  cases decimalParts (rawText value) with
  | none => simp [issue]
  | some parts =>
    by_cases exceeds : 18 < parts.1.length + parts.2.length ∨ 6 < parts.2.length
    · simp only [exceeds, if_true, issue, reduceCtorEq, Option.some.injEq, false_iff]
      rintro ⟨_, rfl, whole, fraction, -⟩
      omega
    · simp only [exceeds, if_false, Except.ok.injEq, Option.some.injEq]
      constructor
      · exact fun same => ⟨parts, rfl, by omega, by omega, same.symm⟩
      · rintro ⟨_, rfl, -, -, same⟩
        exact same.symm

def ensureColumn (seen : List String) (column : String) : Parsed (List String) :=
  let normalized := trim column
  if normalized ∉ USAGE_INVOICE_IMPORT_COLUMNS then
    issue 1 .UNKNOWN_COLUMN ("Unknown invoice column: " ++
      if normalized = "" then "<empty>" else normalized)
  else if normalized ∈ seen then
    issue 1 .MALFORMED_INPUT ("Column appears more than once: " ++ normalized)
  else .ok (seen ++ [normalized])

def ensureColumns (columns : List String) : Parsed Unit := do
  let seen ← columns.foldlM ensureColumn []
  let missing := USAGE_INVOICE_IMPORT_COLUMNS.filter fun column => column ∉ seen
  if missing ≠ [] then
    issue 1 .MISSING_COLUMN ("Missing invoice columns: " ++ String.intercalate ", " missing)
  else .ok ()

def dimensionKey (category provider unit : String) : String :=
  category ++ "|" ++ provider ++ "|" ++ unit

def UsageInvoiceImportRow.dimensionKey (row : UsageInvoiceImportRow) : String :=
  UsageReconciliation.dimensionKey row.category.name row.provider row.unit

def windowsOverlap (leftStart leftEnd rightStart rightEnd : Instant) : Bool :=
  leftStart < rightEnd && rightStart < leftEnd

/-- Two rows of one dimension whose different periods overlap. -/
def windowConflict (first second : UsageInvoiceImportRow) : Bool :=
  first.dimensionKey == second.dimensionKey &&
    (first.periodStart != second.periodStart || first.periodEnd != second.periodEnd) &&
    windowsOverlap first.periodStart first.periodEnd second.periodStart second.periodEnd

def validateInvoiceWindows (rows : List UsageInvoiceImportRow) : Parsed Unit :=
  match (orderedPairs rows).find? fun pair => windowConflict pair.1 pair.2 with
  | some (first, second) =>
    issue second.rowNumber .INVOICE_WINDOW_OVERLAP
      s!"Invoice period overlaps row {first.rowNumber} for the same usage dimension"
  | none => .ok ()

theorem validateInvoiceWindows_ok {rows : List UsageInvoiceImportRow} :
    validateInvoiceWindows rows = .ok () ↔
      rows.Pairwise fun first second => windowConflict first second = false := by
  rw [← forall_orderedPairs, validateInvoiceWindows]
  cases found : (orderedPairs rows).find? fun pair => windowConflict pair.1 pair.2 with
  | none =>
    simpa using found
  | some pair =>
    have conflict := List.find?_some found
    have listed := List.mem_of_find?_eq_some found
    simp only [issue, reduceCtorEq, false_iff, not_forall]
    exact ⟨pair, listed, by simpa using conflict⟩

variable (raw : List (String × JsonValue))

/-- A cell of a raw row; a missing one reads like null. -/
def cell (column : String) : JsonValue :=
  ((raw.find? fun entry => entry.1 == column).map Prod.snd).getD .null

variable (input : String)

section

variable [UnicodeLetters]

def parseInvoiceRow (rowNumber : Nat) : Parsed UsageInvoiceImportRow := do
  let some category :=
      usageCategory? (UnicodeCase.toUpperCase (rawText (cell raw "category")))
    | issue rowNumber .INVALID_CATEGORY
        ("Unknown usage category: " ++ rawText (cell raw "category"))
  let provider := UnicodeLetters.toLowerCase (rawText (cell raw "provider"))
  if provider = "" ∨ 64 < utf16Length provider then
    issue rowNumber .INVALID_PROVIDER "provider must contain between 1 and 64 characters"
  let unit := UnicodeLetters.toLowerCase (rawText (cell raw "unit"))
  if unit = "" ∨ 32 < utf16Length unit then
    issue rowNumber .INVALID_UNIT "unit must contain between 1 and 32 characters"
  let periodStart ← date (cell raw "periodStart") rowNumber "periodStart"
  let periodEnd ← date (cell raw "periodEnd") rowNumber "periodEnd"
  if periodEnd ≤ periodStart then
    issue rowNumber .INVALID_WINDOW "periodEnd must be later than periodStart"
  if UnicodeCase.toUpperCase (rawText (cell raw "currency")) ≠ "EUR" then
    issue rowNumber .INVALID_CURRENCY "Only EUR invoice amounts are supported"
  let source := rawText (cell raw "source")
  if source = "" ∨ 191 < utf16Length source then
    issue rowNumber .INVALID_SOURCE "source must contain between 1 and 191 characters"
  let billedQuantity ←
    decimal (cell raw "billedQuantity") rowNumber "billedQuantity" .INVALID_QUANTITY
  let billedCostEur ← decimal (cell raw "billedCostEur") rowNumber "billedCostEur" .INVALID_COST
  return {
    rowNumber, category, provider, unit, periodStart, periodEnd, billedQuantity, billedCostEur,
    source }

/-- What an accepted raw row says, field by field. -/
structure Reads (raw : List (String × JsonValue)) (row : UsageInvoiceImportRow) : Prop where
  category : usageCategory? (UnicodeCase.toUpperCase (rawText (cell raw "category"))) =
    some row.category
  provider : row.provider = UnicodeLetters.toLowerCase (rawText (cell raw "provider"))
  providerLength : ¬(row.provider = "" ∨ 64 < utf16Length row.provider)
  unit : row.unit = UnicodeLetters.toLowerCase (rawText (cell raw "unit"))
  unitLength : ¬(row.unit = "" ∨ 32 < utf16Length row.unit)
  periodStart : parseIsoDate (rawText (cell raw "periodStart")) = some row.periodStart
  periodEnd : parseIsoDate (rawText (cell raw "periodEnd")) = some row.periodEnd
  window : row.periodStart < row.periodEnd
  currency : UnicodeCase.toUpperCase (rawText (cell raw "currency")) = "EUR"
  source : row.source = rawText (cell raw "source")
  sourceLength : ¬(row.source = "" ∨ 191 < utf16Length row.source)
  billedQuantity : ∃ parts, decimalParts (rawText (cell raw "billedQuantity")) = some parts ∧
    parts.1.length + parts.2.length ≤ 18 ∧ parts.2.length ≤ 6 ∧
    row.billedQuantity = scaledDigits 6 parts
  billedCostEur : ∃ parts, decimalParts (rawText (cell raw "billedCostEur")) = some parts ∧
    parts.1.length + parts.2.length ≤ 18 ∧ parts.2.length ≤ 6 ∧
    row.billedCostEur = scaledDigits 6 parts

variable {row : UsageInvoiceImportRow} {rowNumber : Nat}

theorem parseInvoiceRow_ok {raw : List (String × JsonValue)} :
    parseInvoiceRow raw rowNumber = .ok row ↔ row.rowNumber = rowNumber ∧ Reads raw row := by
  constructor
  · intro parsed
    unfold parseInvoiceRow at parsed
    simp only [issue, bind, Except.bind, pure, Except.pure] at parsed
    split at parsed
    next category named =>
      split at parsed
      · cases parsed
      next provider =>
        split at parsed
        · cases parsed
        next unit =>
          split at parsed
          · cases parsed
          next periodStart started =>
            split at parsed
            · cases parsed
            next periodEnd ended =>
              split at parsed
              · cases parsed
              next window =>
                split at parsed
                · cases parsed
                next currency =>
                  split at parsed
                  · cases parsed
                  next source =>
                    split at parsed
                    · cases parsed
                    next billedQuantity quantity =>
                      split at parsed
                      · cases parsed
                      next billedCostEur cost =>
                        cases parsed
                        exact ⟨rfl, {
                          category := named
                          provider := rfl
                          providerLength := provider
                          unit := rfl
                          unitLength := unit
                          periodStart := date_ok.1 started
                          periodEnd := date_ok.1 ended
                          window := not_le.1 window
                          currency := not_not.1 currency
                          source := rfl
                          sourceLength := source
                          billedQuantity := decimal_ok.1 quantity
                          billedCostEur := decimal_ok.1 cost }⟩
    · cases parsed
  · rintro ⟨rfl, reads⟩
    unfold parseInvoiceRow
    rw [reads.category]
    dsimp only
    rw [← reads.provider, ← reads.unit, ← reads.source, if_neg reads.providerLength,
      if_neg reads.unitLength, date_ok.2 reads.periodStart, date_ok.2 reads.periodEnd]
    dsimp only [bind, Except.bind]
    rw [if_neg (not_le.2 reads.window), if_neg (not_not.2 reads.currency),
      if_neg reads.sourceLength, decimal_ok.2 reads.billedQuantity,
      decimal_ok.2 reads.billedCostEur]
    rfl

/-- `input.replace(/^\uFEFF/, '')`. -/
def withoutMark : String :=
  match input.toList with
  | '\uFEFF' :: rest => String.ofList rest
  | _ => input

/-- The cells of a CSV record by the columns of its header. -/
def rawRecord (headers values : List String) : List (String × JsonValue) :=
  USAGE_INVOICE_IMPORT_COLUMNS.map fun column =>
    (column, .string (values.getD (headers.idxOf column) ""))

def parseCsvRow (headers values : List String) (rowNumber : Nat) : Parsed UsageInvoiceImportRow :=
  if values.length ≠ headers.length then
    issue rowNumber .MALFORMED_INPUT "Invoice row has a different number of columns than the header"
  else parseInvoiceRow (rawRecord headers values) rowNumber

def parseCsv : Parsed (List UsageInvoiceImportRow) :=
  match parseCsvRecords (withoutMark input) with
  | none => .error (.UsageTariffImportError 1 "CSV contains an unclosed quote")
  | some [] => issue 1 .MALFORMED_INPUT "Invoice CSV is empty"
  | some (header :: records) => do
      let headers := header.map trim
      ensureColumns headers
      let rows ← (records.zipIdx 2).mapM fun record => parseCsvRow headers record.1 record.2
      if rows = [] then issue 1 .MALFORMED_INPUT "Invoice CSV contains no data rows"
      validateInvoiceWindows rows
      return rows

/-- Array indices come first in `Object.keys`, in ascending order. -/
def objectKeys (entries : List (String × JsonValue)) : List String :=
  let keys := entries.map Prod.fst
  let index? := fun key : String =>
    key.toNat?.filter fun index => toString index = key && index < 2 ^ 32 - 1
  let indices := (keys.filterMap index?).insertionSort (· ≤ ·)
  indices.map toString ++ keys.filter fun key => (index? key).isNone

def parseJsonRow (value : JsonValue) (rowNumber : Nat) : Parsed UsageInvoiceImportRow :=
  match value with
  | .object entries => do
      ensureColumns (objectKeys entries)
      parseInvoiceRow entries rowNumber
  | _ => issue rowNumber .MALFORMED_INPUT "Each invoice JSON row must be an object"

variable [NumberText]

def parseJson : Parsed (List UsageInvoiceImportRow) :=
  match parseJsonText (withoutMark input) with
  | none => issue 1 .MALFORMED_INPUT "Invoice JSON cannot be parsed"
  | some (.array (first :: rest)) => do
      let rows ← ((first :: rest).zipIdx 1).mapM fun value => parseJsonRow value.1 value.2
      validateInvoiceWindows rows
      return rows
  | some _ => issue 1 .MALFORMED_INPUT "Invoice JSON must be a non-empty array"

inductive InvoiceFormat where
  | csv | json
  deriving DecidableEq

def parseUsageInvoiceImport (format : InvoiceFormat) : Parsed (List UsageInvoiceImportRow) :=
  match format with
  | .json => parseJson input
  | .csv => parseCsv input

structure Accepted (rows : List UsageInvoiceImportRow) : Prop where
  nonempty : rows ≠ []
  reads : ∀ row ∈ rows, ∃ raw, Reads raw row
  windows : rows.Pairwise fun first second => windowConflict first second = false

omit [NumberText] in
theorem reads_of_parseCsvRow {headers values : List String}
    (parsed : parseCsvRow headers values rowNumber = .ok row) :
    ∃ raw, Reads raw row := by
  unfold parseCsvRow at parsed
  split at parsed
  · cases parsed
  · exact ⟨_, (parseInvoiceRow_ok.1 parsed).2⟩

omit [NumberText] in
theorem reads_of_parseJsonRow {value : JsonValue}
    (parsed : parseJsonRow value rowNumber = .ok row) : ∃ raw, Reads raw row := by
  unfold parseJsonRow at parsed
  split at parsed
  next entries =>
    obtain ⟨_, -, parsed⟩ := ok_of_bind parsed
    exact ⟨entries, (parseInvoiceRow_ok.1 parsed).2⟩
  · cases parsed

omit [UnicodeLetters] [NumberText] in
/-- The last step of both readers. -/
theorem windows_of_checked {read rows : List UsageInvoiceImportRow}
    (checked : (validateInvoiceWindows read >>= fun _ => pure read) = .ok rows) :
    read = rows ∧ rows.Pairwise fun first second => windowConflict first second = false := by
  obtain ⟨_, valid, returned⟩ := ok_of_bind checked
  cases returned
  exact ⟨rfl, validateInvoiceWindows_ok.1 valid⟩

variable {rows : List UsageInvoiceImportRow}

omit [NumberText] in
theorem parseCsv_accepted {input : String} (parsed : parseCsv input = .ok rows) :
    Accepted rows := by
  unfold parseCsv at parsed
  split at parsed
  · cases parsed
  · cases parsed
  next header records _ =>
    obtain ⟨_, -, parsed⟩ := ok_of_bind parsed
    obtain ⟨read, each, parsed⟩ := ok_of_bind parsed
    by_cases empty : read = []
    · rw [if_pos empty] at parsed
      cases parsed
    · rw [if_neg empty] at parsed
      obtain ⟨rfl, windows⟩ := windows_of_checked parsed
      refine ⟨empty, fun row listed => ?_, windows⟩
      obtain ⟨record, -, here⟩ := read_of_mem each listed
      exact reads_of_parseCsvRow here

theorem parseJson_accepted {input : String} (parsed : parseJson input = .ok rows) :
    Accepted rows := by
  unfold parseJson at parsed
  split at parsed
  · cases parsed
  next first rest _ =>
    obtain ⟨read, each, parsed⟩ := ok_of_bind parsed
    obtain ⟨rfl, windows⟩ := windows_of_checked parsed
    refine ⟨?_, fun row listed => ?_, windows⟩
    · rintro rfl
      exact absurd (mapM_ok.1 each).length_eq (by simp)
    · obtain ⟨value, -, here⟩ := read_of_mem each listed
      exact reads_of_parseJsonRow here
  · cases parsed

theorem parseUsageInvoiceImport_accepted {input : String} {format : InvoiceFormat}
    (parsed : parseUsageInvoiceImport input format = .ok rows) : Accepted rows := by
  cases format with
  | csv => exact parseCsv_accepted parsed
  | json => exact parseJson_accepted parsed

end

end Sokar.UsageReconciliation
