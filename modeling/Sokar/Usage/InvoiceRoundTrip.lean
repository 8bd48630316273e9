import Mathlib
import Sokar.Usage.CsvRoundTrip

/-!
# Invoice rows written and read back

A row that the import accepts is written with amounts of six decimals, which the import accepts
again only up to twelve digits before the point.  Everything else of a row survives both formats.
-/

namespace Sokar.UsageReconciliation

section

theorem trim_rawText (value : JsonValue) : trim (rawText value) = rawText value := by
  unfold rawText
  split
  · rfl
  · exact trim_trim _

end

variable (amount : Nat)

section

theorem numberOf_append (front back : List Char) :
    numberOf (front ++ back) = numberOf front * 10 ^ back.length + numberOf back := by
  induction back using List.reverseRecOn with
  | nil => simp [numberOf]
  | append_singleton rest digit ih =>
    rw [← List.append_assoc, numberOf_concat, ih, numberOf_concat, List.length_append,
      List.length_singleton, pow_succ]
    ring

theorem isDigit_of_mem_lastDigits {width number : Nat} {char : Char}
    (found : char ∈ lastDigits width number) : char.isDigit = true := by
  induction width generalizing number with
  | zero => cases found
  | succ width ih =>
    rw [lastDigits, List.mem_append, List.mem_singleton] at found
    rcases found with front | rfl
    · exact ih front
    · have digit : ∀ digit < 10, (Nat.digitChar digit).isDigit = true := by decide
      exact digit _ (Nat.mod_lt _ (by decide))

theorem decimalParts_fixedText : decimalParts (fixedText amount) =
      some (Nat.toDigits 10 (amount / 1000000), lastDigits 6 amount) := by
  have text : (fixedText amount).toList =
      Nat.toDigits 10 (amount / 1000000) ++ '.' :: lastDigits 6 amount := by
    simp [fixedText]
  have spanned : (Nat.toDigits 10 (amount / 1000000) ++ '.' :: lastDigits 6 amount).span
      Char.isDigit = (Nat.toDigits 10 (amount / 1000000), '.' :: lastDigits 6 amount) := by
    have digits : ∀ char ∈ Nat.toDigits 10 (amount / 1000000), char.isDigit = true :=
      fun char found => Nat.isDigit_of_mem_toDigits (by decide) (by decide) found
    rw [List.span_eq_takeWhile_dropWhile, List.takeWhile_append_of_pos digits,
      List.dropWhile_append_of_pos digits]
    simp
  have some : lastDigits 6 amount ≠ [] := by
    intro empty
    have := congrArg List.length empty
    cases this
  have digits : (lastDigits 6 amount).all Char.isDigit = true :=
    List.all_eq_true.2 fun char found => isDigit_of_mem_lastDigits found
  rw [decimalParts, text, spanned]
  cases whole : Nat.toDigits 10 (amount / 1000000) with
  | nil => exact absurd whole Nat.toDigits_ne_nil
  | cons first rest => simp [some, digits]

theorem scaledDigits_fixedText :
    scaledDigits 6 (Nat.toDigits 10 (amount / 1000000), lastDigits 6 amount) = amount := by
  have long := length_lastDigits 6 amount
  rw [scaledDigits, List.take_append_of_le_length long.ge, List.take_of_length_le long.le,
    numberOf_append, numberOf_toDigits, numberOf_lastDigits, long]
  omega

/-- The import reads amounts below a million million. -/
theorem length_fixedText :
    (Nat.toDigits 10 (amount / 1000000)).length + (lastDigits 6 amount).length ≤ 18 ↔
      amount < 10 ^ 18 := by
  have digits : (Nat.toDigits 10 (amount / 1000000)).length ≤ 12 ↔ amount / 1000000 < 10 ^ 12 :=
    Nat.length_toDigits_le_iff (by decide) (by decide)
  rw [length_lastDigits]
  omega

end

section

theorem isTrimmedChar_of_isDigit {char : Char} (digit : char.isDigit = true) :
    isTrimmedChar char = false := by
  have low : 48 ≤ char.toNat := by
    simp only [Char.isDigit, Bool.and_eq_true, decide_eq_true_eq] at digit
    exact UInt32.le_iff_toNat_le.1 digit.1
  have high : char.toNat ≤ 57 := by
    simp only [Char.isDigit, Bool.and_eq_true, decide_eq_true_eq] at digit
    exact UInt32.le_iff_toNat_le.1 digit.2
  simp [isTrimmedChar]
  omega

theorem trim_fixedText : trim (fixedText amount) = fixedText amount := by
  apply trim_eq_self
  intro char found
  have text : (fixedText amount).toList =
      Nat.toDigits 10 (amount / 1000000) ++ '.' :: lastDigits 6 amount := by
    simp [fixedText]
  rw [text, List.mem_append, List.mem_cons] at found
  rcases found with whole | rfl | fraction
  · exact isTrimmedChar_of_isDigit (Nat.isDigit_of_mem_toDigits (by decide) (by decide) whole)
  · rfl
  · exact isTrimmedChar_of_isDigit (isDigit_of_mem_lastDigits fraction)

theorem trim_toISOString (instant : Instant) : trim (toISOString instant) = toISOString instant := by
  apply trim_eq_self
  have visible : ∀ width number, ∀ char ∈ lastDigits width number, isTrimmedChar char = false :=
    fun _ _ char found => isTrimmedChar_of_isDigit (isDigit_of_mem_lastDigits found)
  have year : ∀ year, ∀ char ∈ isoYear year, isTrimmedChar char = false := by
    intro year char found
    rw [isoYear] at found
    split at found
    · exact visible _ _ char found
    · rcases List.mem_cons.1 found with rfl | found
      · split <;> rfl
      · exact visible _ _ char found
  intro char found
  simp only [toISOString, String.toList_ofList, List.mem_append, List.mem_cons, List.not_mem_nil,
    or_false] at found
  rcases found with ((((((found | rfl | found) | rfl | found) | rfl | found) | rfl | found) |
    rfl | found) | rfl | found) | rfl
  all_goals first
    | rfl
    | exact visible _ _ char found
    | exact year _ char found

theorem trim_name (category : UsageCategory) : trim category.name = category.name := by
  apply trim_of_noSpace
  cases category <;> decide

end

variable (row : UsageInvoiceImportRow)

section

/-- The raw row the import sees of a row that has been written. -/
def writtenRow : List (String × JsonValue) :=
  (serializableRow row).map fun field => (field.1, .string field.2)

section

variable (row : UsageInvoiceImportRow)

theorem cell_periodStart :
    cell (writtenRow row) "periodStart" = .string (toISOString row.periodStart) := rfl

theorem cell_periodEnd :
    cell (writtenRow row) "periodEnd" = .string (toISOString row.periodEnd) := rfl

theorem cell_billedQuantity :
    cell (writtenRow row) "billedQuantity" = .string (fixedText row.billedQuantity) := rfl

theorem cell_billedCostEur :
    cell (writtenRow row) "billedCostEur" = .string (fixedText row.billedCostEur) := rfl

end

variable [UnicodeLetters]

/-- What the fields of a row have, however it was produced. -/
structure WellFormed (row : UsageInvoiceImportRow) : Prop where
  provider : trim row.provider = row.provider
  providerLower : UnicodeLetters.toLowerCase row.provider = row.provider
  providerLength : ¬(row.provider = "" ∨ 64 < utf16Length row.provider)
  unit : trim row.unit = row.unit
  unitLower : UnicodeLetters.toLowerCase row.unit = row.unit
  unitLength : ¬(row.unit = "" ∨ 32 < utf16Length row.unit)
  window : row.periodStart < row.periodEnd
  source : trim row.source = row.source
  sourceLength : ¬(row.source = "" ∨ 191 < utf16Length row.source)

theorem Reads.wellFormed {raw : List (String × JsonValue)} {row : UsageInvoiceImportRow}
    (reads : Reads raw row) : WellFormed row where
  provider := by rw [reads.provider, UnicodeLetters.lower_trimmed _ (trim_rawText _)]
  providerLower := by rw [reads.provider, UnicodeLetters.lower_lower]
  providerLength := reads.providerLength
  unit := by rw [reads.unit, UnicodeLetters.lower_trimmed _ (trim_rawText _)]
  unitLower := by rw [reads.unit, UnicodeLetters.lower_lower]
  unitLength := reads.unitLength
  window := reads.window
  source := by rw [reads.source, trim_rawText]
  sourceLength := reads.sourceLength

def UsageInvoiceImportRow.content : UsageInvoiceImportRow :=
  { row with rowNumber := 0 }

/-- What of a row the import reads back only within bounds: amounts of twelve digits before the
point and years of four digits. -/
structure Fits (row : UsageInvoiceImportRow) : Prop where
  quantity : row.billedQuantity < 10 ^ 18
  cost : row.billedCostEur < 10 ^ 18
  start : FourDigitYear row.periodStart
  stop : FourDigitYear row.periodEnd

/-- A row within the bounds is read back. -/
theorem Fits.reads {row : UsageInvoiceImportRow} (fit : Fits row) (formed : WellFormed row)
    (rowNumber : Nat) : Reads (writtenRow row) { row with rowNumber } where
  category := by
    change usageCategory? (UnicodeCase.toUpperCase (rawText (.string row.category.name))) = _
    rw [rawText_string, trim_name, UnicodeLetters.upper_ascii _ (isAscii_name _),
      asciiUpperCase_name, usageCategory?_name]
  provider := by
    change row.provider = UnicodeLetters.toLowerCase (rawText (.string row.provider))
    rw [rawText_string, formed.provider, formed.providerLower]
  providerLength := formed.providerLength
  unit := by
    change row.unit = UnicodeLetters.toLowerCase (rawText (.string row.unit))
    rw [rawText_string, formed.unit, formed.unitLower]
  unitLength := formed.unitLength
  periodStart := by
    change parseIsoDate (rawText (.string (toISOString row.periodStart))) = some row.periodStart
    rw [rawText_string, trim_toISOString]
    exact parseIsoDate_toISOString_iff.2 fit.start
  periodEnd := by
    change parseIsoDate (rawText (.string (toISOString row.periodEnd))) = some row.periodEnd
    rw [rawText_string, trim_toISOString]
    exact parseIsoDate_toISOString_iff.2 fit.stop
  window := formed.window
  currency := by
    change UnicodeCase.toUpperCase (rawText (.string "EUR")) = "EUR"
    have trimmed : trim "EUR" = "EUR" := trim_of_noSpace (by decide)
    rw [rawText_string, trimmed, UnicodeLetters.upper_ascii _ (by decide)]
    rfl
  source := by
    change row.source = rawText (.string row.source)
    rw [rawText_string, formed.source]
  sourceLength := formed.sourceLength
  billedQuantity := by
    change ∃ parts, decimalParts (rawText (.string (fixedText row.billedQuantity))) = _ ∧ _
    rw [rawText_string, trim_fixedText, decimalParts_fixedText]
    refine ⟨_, rfl, (length_fixedText _).2 fit.quantity, (length_lastDigits _ _).le, ?_⟩
    exact (scaledDigits_fixedText _).symm
  billedCostEur := by
    change ∃ parts, decimalParts (rawText (.string (fixedText row.billedCostEur))) = _ ∧ _
    rw [rawText_string, trim_fixedText, decimalParts_fixedText]
    refine ⟨_, rfl, (length_fixedText _).2 fit.cost, (length_lastDigits _ _).le, ?_⟩
    exact (scaledDigits_fixedText _).symm

/-- A row that is read back as it was is within the bounds. -/
theorem fits_of_reads {row read : UsageInvoiceImportRow} (reads : Reads (writtenRow row) read)
    (same : read.content = row.content) : Fits row := by
  have amount : ∀ amount, (∃ parts, decimalParts (rawText (.string (fixedText amount))) =
      some parts ∧ parts.1.length + parts.2.length ≤ 18 ∧ parts.2.length ≤ 6 ∧
      amount = scaledDigits 6 parts) → amount < 10 ^ 18 := by
    rintro amount ⟨parts, written, short, -, -⟩
    rw [rawText_string, trim_fixedText, decimalParts_fixedText] at written
    cases written
    exact (length_fixedText amount).1 short
  have date : ∀ instant, parseIsoDate (rawText (.string (toISOString instant))) = some instant →
      FourDigitYear instant := by
    intro instant read
    rw [rawText_string, trim_toISOString] at read
    exact parseIsoDate_toISOString_iff.1 read
  have fields := UsageInvoiceImportRow.mk.inj same
  obtain ⟨-, -, -, -, start, stop, quantity, cost, -⟩ := fields
  have readQuantity := reads.billedQuantity
  have readCost := reads.billedCostEur
  have readStart := reads.periodStart
  have readStop := reads.periodEnd
  rw [cell_billedQuantity, quantity] at readQuantity
  rw [cell_billedCostEur, cost] at readCost
  rw [cell_periodStart, start] at readStart
  rw [cell_periodEnd, stop] at readStop
  exact ⟨amount _ readQuantity, amount _ readCost, date _ readStart, date _ readStop⟩

end

variable (rows : List UsageInvoiceImportRow)

section

theorem withoutMark_of_head {input : String} (bare : input.toList.head? ≠ some '\uFEFF') :
    withoutMark input = input := by
  unfold withoutMark
  split
  next rest marked => exact absurd (by rw [marked]; rfl) bare
  · rfl

theorem trim_column {column : String} (listed : column ∈ USAGE_INVOICE_IMPORT_COLUMNS) :
    trim column = column := by
  apply trim_of_noSpace
  revert column
  decide

theorem ensureColumns_columns : ensureColumns USAGE_INVOICE_IMPORT_COLUMNS = .ok () := by
  have added : ∀ column ∈ USAGE_INVOICE_IMPORT_COLUMNS, ∀ seen : List String, column ∉ seen →
      ensureColumn seen column = .ok (seen ++ [column]) := by
    intro column listed seen fresh
    rw [ensureColumn, trim_column listed, if_neg (not_not.2 listed), if_neg fresh]
  have folded : ∀ columns seen : List String, columns ⊆ USAGE_INVOICE_IMPORT_COLUMNS →
      (seen ++ columns).Nodup → columns.foldlM ensureColumn seen = .ok (seen ++ columns) := by
    intro columns
    induction columns with
    | nil => intro seen _ _; simp; rfl
    | cons column others ih =>
      intro seen listed distinct
      have fresh : column ∉ seen := fun old =>
        (List.nodup_append.1 distinct).2.2 column old column List.mem_cons_self rfl
      rw [List.foldlM_cons, added column (listed List.mem_cons_self) seen fresh]
      have rest := ih (seen ++ [column]) (fun other later =>
        listed (List.mem_cons_of_mem _ later)) (by simpa using distinct)
      rw [List.append_assoc, List.singleton_append] at rest
      exact rest
  have seen := folded USAGE_INVOICE_IMPORT_COLUMNS [] (List.Subset.refl _) (by decide)
  rw [ensureColumns, seen]
  simp [bind, Except.bind]

/-- The values of a written row in the order of the columns. -/
def writtenValues : List String :=
  (serializableRow row).map Prod.snd

theorem rawRecord_writtenValues :
    rawRecord USAGE_INVOICE_IMPORT_COLUMNS (writtenValues row) = writtenRow row := rfl

theorem objectKeys_writtenRow : objectKeys (writtenRow row) = USAGE_INVOICE_IMPORT_COLUMNS := by
  have keys : (writtenRow row).map Prod.fst = USAGE_INVOICE_IMPORT_COLUMNS := rfl
  have named : ∀ column ∈ USAGE_INVOICE_IMPORT_COLUMNS, column.toNat? = none := by decide_cbv
  rw [objectKeys, keys]
  have none : ∀ column ∈ USAGE_INVOICE_IMPORT_COLUMNS,
      (column.toNat?.filter fun index => toString index = column && index < 2 ^ 32 - 1) =
        none := by
    intro column listed
    rw [named column listed]
    rfl
  have empty : (USAGE_INVOICE_IMPORT_COLUMNS.filterMap fun column =>
      column.toNat?.filter fun index => toString index = column && index < 2 ^ 32 - 1) = [] :=
    List.filterMap_eq_nil_iff.2 none
  have all : (USAGE_INVOICE_IMPORT_COLUMNS.filter fun column =>
      (column.toNat?.filter fun index => toString index = column && index < 2 ^ 32 - 1).isNone) =
        USAGE_INVOICE_IMPORT_COLUMNS :=
    List.filter_eq_self.2 fun column listed => by rw [none column listed]; rfl
  rw [empty, all]
  rfl

theorem serialize_csv : serializeTelnyxInvoiceRows rows .csv =
      String.join ((USAGE_INVOICE_IMPORT_COLUMNS :: rows.map writtenValues).map csvLine) := by
  simp only [serializeTelnyxInvoiceRows, List.map_cons, List.map_map]
  rfl

theorem serialize_json : serializeTelnyxInvoiceRows rows .json =
      stringifyJson (.array ((rows.map serializableRow).map textObject)) ++ "\n" := by
  simp only [serializeTelnyxInvoiceRows, List.map_map]
  rfl

theorem name_ne_empty (category : UsageCategory) : category.name ≠ "" := by
  cases category <;> decide

theorem shown_lines : ∀ line ∈ USAGE_INVOICE_IMPORT_COLUMNS :: rows.map writtenValues,
      ∃ value ∈ line, trim value ≠ "" := by
  intro line listed
  rcases List.mem_cons.1 listed with rfl | listed
  · have column : "category" ∈ USAGE_INVOICE_IMPORT_COLUMNS := List.mem_cons_self
    exact ⟨"category", column, by decide⟩
  · obtain ⟨row, -, rfl⟩ := List.mem_map.1 listed
    refine ⟨row.category.name, List.mem_cons_self, ?_⟩
    rw [trim_name]
    exact name_ne_empty _

variable [UnicodeLetters]

def reread (first : Nat) : Parsed (List UsageInvoiceImportRow) := do
  let read ← (rows.zipIdx first).mapM fun row => parseInvoiceRow (writtenRow row.1) row.2
  validateInvoiceWindows read
  return read

theorem parseCsvRow_writtenValues (rowNumber : Nat) :
    parseCsvRow USAGE_INVOICE_IMPORT_COLUMNS (writtenValues row) rowNumber =
      parseInvoiceRow (writtenRow row) rowNumber := by
  have long : (writtenValues row).length = USAGE_INVOICE_IMPORT_COLUMNS.length := by
    simp [writtenValues, serializableRow, USAGE_INVOICE_IMPORT_COLUMNS]
  simp only [parseCsvRow, long, ne_eq, not_true_eq_false, if_false, rawRecord_writtenValues]

theorem parseJsonRow_writtenRow (rowNumber : Nat) :
    parseJsonRow (textObject (serializableRow row)) rowNumber =
      parseInvoiceRow (writtenRow row) rowNumber := by
  have object : textObject (serializableRow row) = .object (writtenRow row) := rfl
  rw [object, parseJsonRow, objectKeys_writtenRow, ensureColumns_columns]
  simp only [bind, Except.bind]

variable {rows : List UsageInvoiceImportRow}

theorem parseCsv_serialize (nonempty : rows ≠ []) :
    parseCsv (serializeTelnyxInvoiceRows rows .csv) = reread rows 2 := by
  have bare : (serializeTelnyxInvoiceRows rows .csv).toList.head? ≠ some '\uFEFF' := by
    rw [serialize_csv]
    simp [String.join_cons, csvLine, csvCell, USAGE_INVOICE_IMPORT_COLUMNS]
  have columns : USAGE_INVOICE_IMPORT_COLUMNS.map trim = USAGE_INVOICE_IMPORT_COLUMNS :=
    (List.map_congr_left fun _ listed => trim_column listed).trans (List.map_id' _)
  rw [parseCsv, withoutMark_of_head bare, serialize_csv,
    parseCsvRecords_csvLines (shown_lines rows)]
  dsimp only
  have each : ((rows.map writtenValues).zipIdx 2).mapM (fun record =>
        parseCsvRow USAGE_INVOICE_IMPORT_COLUMNS record.1 record.2) =
      (rows.zipIdx 2).mapM fun row => parseInvoiceRow (writtenRow row.1) row.2 := by
    rw [List.zipIdx_map, List.mapM_map]
    exact congrArg (List.mapM · _) (funext fun row => parseCsvRow_writtenValues row.1 row.2)
  rw [columns, ensureColumns_columns, each, reread]
  cases read : (rows.zipIdx 2).mapM fun row => parseInvoiceRow (writtenRow row.1) row.2 with
  | error _ => rfl
  | ok found =>
    have some : found ≠ [] := by
      rintro rfl
      have long := (mapM_ok.1 read).length_eq
      rw [List.length_zipIdx, List.length_nil, List.length_eq_zero_iff] at long
      exact nonempty long
    simp only [bind, Except.bind, if_neg some]

variable [NumberText]

theorem parseJson_serialize (nonempty : rows ≠ []) :
    parseJson (serializeTelnyxInvoiceRows rows .json) = reread rows 1 := by
  have bare : (serializeTelnyxInvoiceRows rows .json).toList.head? ≠ some '\uFEFF' := by
    rw [serialize_json]
    match rows, nonempty with
    | row :: others, _ => simp [stringifyJson, valueText]
  have filled : ∀ fields ∈ rows.map serializableRow, fields ≠ [] ∧ (fields.map Prod.fst).Nodup := by
    intro fields listed
    obtain ⟨row, -, rfl⟩ := List.mem_map.1 listed
    have columns : (serializableRow row).map Prod.fst = USAGE_INVOICE_IMPORT_COLUMNS := rfl
    exact ⟨List.cons_ne_nil _ _, by rw [columns]; decide⟩
  rw [parseJson, withoutMark_of_head bare, serialize_json, parseJsonText_table (by simpa) filled]
  have each : (((rows.map serializableRow).map textObject).zipIdx 1).mapM (fun value =>
        parseJsonRow value.1 value.2) =
      (rows.zipIdx 1).mapM fun row => parseInvoiceRow (writtenRow row.1) row.2 := by
    rw [List.map_map, List.zipIdx_map, List.mapM_map]
    exact congrArg (List.mapM · _) (funext fun row => parseJsonRow_writtenRow row.1 row.2)
  rw [reread, ← each]
  obtain ⟨row, others, rfl⟩ := List.exists_cons_of_ne_nil nonempty
  rfl

theorem parse_serialize (nonempty : rows ≠ []) (format : InvoiceFormat) :
    parseUsageInvoiceImport (serializeTelnyxInvoiceRows rows format) format =
      reread rows (match format with | .csv => 2 | .json => 1) := by
  cases format with
  | csv => exact parseCsv_serialize nonempty
  | json => exact parseJson_serialize nonempty

end

section

variable [UnicodeLetters]

variable {rows : List UsageInvoiceImportRow}

theorem reread_of_fits (formed : ∀ row ∈ rows, WellFormed row)
    (windows : rows.Pairwise fun first second => windowConflict first second = false)
    (fits : ∀ row ∈ rows, Fits row) (first : Nat) :
    reread rows first =
      .ok ((rows.zipIdx first).map fun row => { row.1 with rowNumber := row.2 }) := by
  have each : (rows.zipIdx first).mapM (fun row => parseInvoiceRow (writtenRow row.1) row.2) =
      .ok ((rows.zipIdx first).map fun row => { row.1 with rowNumber := row.2 }) := by
    rw [mapM_ok, List.forall₂_map_right_iff, List.forall₂_same]
    intro row listed
    have member := List.fst_mem_of_mem_zipIdx listed
    exact parseInvoiceRow_ok.2 ⟨rfl, (fits _ member).reads (formed _ member) row.2⟩
  have still : ((rows.zipIdx first).map fun row => { row.1 with rowNumber := row.2 }).Pairwise
      fun first second => windowConflict first second = false := by
    have original := windows
    rw [← List.zipIdx_map_fst first rows, List.pairwise_map] at original
    exact List.pairwise_map.2 original
  rw [reread, each]
  simp only [bind, Except.bind, validateInvoiceWindows_ok.2 still]
  rfl

theorem fits_of_reread {rows read : List UsageInvoiceImportRow} {first : Nat}
    (again : reread rows first = .ok read)
    (same : read.map UsageInvoiceImportRow.content = rows.map UsageInvoiceImportRow.content) :
    ∀ row ∈ rows, Fits row := by
  obtain ⟨found, each, checked⟩ := ok_of_bind again
  obtain ⟨rfl, -⟩ := windows_of_checked checked
  have pairs := mapM_ok.1 each
  clear again each checked
  induction rows generalizing found first with
  | nil => simp
  | cons row rows ih =>
    cases pairs with
    | cons here there =>
      rw [List.map_cons, List.map_cons, List.cons.injEq] at same
      intro other listed
      rcases List.mem_cons.1 listed with rfl | later
      · exact fits_of_reads (parseInvoiceRow_ok.1 here).2 same.1
      · exact ih _ same.2 there other later

variable [NumberText]

inductive Produced [DateText] (rows : List UsageInvoiceImportRow) : Prop
  | imported {input : String} {format : InvoiceFormat}
      (parsed : parseUsageInvoiceImport input format = .ok rows)
  | reported {input : TelnyxUsageInvoiceRowsInput}
      (converted : telnyxUsageReportToInvoiceRows input = .ok rows)

/-- A file of the rows gives back the rows, up to their numbers. -/
def RoundTrips (rows : List UsageInvoiceImportRow) (format : InvoiceFormat) : Prop :=
  ∃ read,
    parseUsageInvoiceImport (serializeTelnyxInvoiceRows rows format) format = .ok read ∧
      read.map UsageInvoiceImportRow.content = rows.map UsageInvoiceImportRow.content

theorem roundTrips_iff_fits (nonempty : rows ≠ []) (formed : ∀ row ∈ rows, WellFormed row)
    (windows : rows.Pairwise fun first second => windowConflict first second = false)
    (format : InvoiceFormat) : RoundTrips rows format ↔ ∀ row ∈ rows, Fits row := by
  unfold RoundTrips
  rw [parse_serialize nonempty]
  constructor
  · rintro ⟨read, again, same⟩
    exact fits_of_reread again same
  · intro fits
    refine ⟨_, reread_of_fits formed windows fits _, ?_⟩
    have rows_eq := List.zipIdx_map_fst (match format with | .csv => 2 | .json => 1) rows
    rw [List.map_map, ← rows_eq, List.map_map, rows_eq]
    rfl

section

variable [DateText]

omit [NumberText] [DateText] in
/-- A row of the connector, whatever its amounts. -/
theorem wellFormed_telnyx {mapping : TelnyxUsageMapping}
    (mapped : ∃ product, (product, mapping) ∈ TELNYX_USAGE_PRODUCT_MAPPINGS) {source : String}
    (sourceLength : ¬(trim source = "" ∨ 191 < utf16Length (trim source)))
    {periodStart periodEnd : Instant} (window : periodStart < periodEnd)
    (rowNumber quantity cost : Nat) :
    WellFormed ⟨rowNumber, mapping.category, "telnyx", mapping.unit, periodStart, periodEnd, quantity,
      cost, trim source⟩ := by
  have plain : ∀ text ∈ ["telnyx", "segments", "seconds"], trim text = text ∧
      UnicodeLetters.toLowerCase text = text ∧ ¬(text = "" ∨ 32 < utf16Length text) := by
    intro text listed
    have ascii : isAscii text ∧ asciiLowerCase text = text ∧
        text.toList.any isTrimmedChar = false ∧ ¬(text = "" ∨ 32 < utf16Length text) := by
      revert text
      decide
    obtain ⟨ascii, small, noSpace, length⟩ := ascii
    exact ⟨trim_of_noSpace noSpace, (UnicodeLetters.lower_ascii text ascii).trans small, length⟩
  have units : mapping.unit ∈ ["telnyx", "segments", "seconds"] := by
    obtain ⟨product, listed⟩ := mapped
    simp only [TELNYX_USAGE_PRODUCT_MAPPINGS, List.mem_cons, Prod.mk.injEq, List.not_mem_nil,
      or_false] at listed
    rcases listed with ⟨-, rfl⟩ | ⟨-, rfl⟩ | ⟨-, rfl⟩ <;> simp
  obtain ⟨trimmed, lower, length⟩ := plain "telnyx" List.mem_cons_self
  exact {
    provider := trimmed
    providerLower := lower
    providerLength := fun long => length (long.imp_right (lt_trans (by decide)))
    unit := (plain _ units).1
    unitLower := (plain _ units).2.1
    unitLength := (plain _ units).2.2
    window := window
    source := trim_trim source
    sourceLength := sourceLength }

omit [NumberText] in
theorem wellFormed_of_report {input : TelnyxUsageInvoiceRowsInput}
    {rows : List UsageInvoiceImportRow} (converted : telnyxUsageReportToInvoiceRows input = .ok rows) :
    ∃ row, rows = [row] ∧ WellFormed row := by
  obtain ⟨product, -, converted⟩ := ok_of_bind converted
  split at converted
  · cases converted
  next mapping found =>
    have mapped : ∃ product, (product, mapping) ∈ TELNYX_USAGE_PRODUCT_MAPPINGS := by
      obtain ⟨entry, listed, rfl⟩ := Option.map_eq_some_iff.1 found
      exact ⟨entry.1, List.mem_of_find?_eq_some listed⟩
    obtain ⟨quantityMetric, -, converted⟩ := ok_of_bind converted
    by_cases sourceLength : trim input.source = "" ∨ 191 < utf16Length (trim input.source)
    · rw [if_pos sourceLength] at converted
      cases converted
    rw [if_neg sourceLength] at converted
    obtain ⟨periodStart, -, converted⟩ := ok_of_bind converted
    obtain ⟨periodEnd, -, converted⟩ := ok_of_bind converted
    by_cases window : periodEnd ≤ periodStart
    · rw [if_pos window] at converted
      cases converted
    rw [if_neg window] at converted
    split at converted
    · split at converted
      · cases converted
        exact ⟨_, rfl, wellFormed_telnyx mapped sourceLength (not_le.1 window) _ _ _⟩
      · cases converted
    · obtain ⟨totals, -, converted⟩ := ok_of_bind converted
      obtain ⟨_, -, converted⟩ := ok_of_bind converted
      cases converted
      exact ⟨_, rfl, wellFormed_telnyx mapped sourceLength (not_le.1 window) _ _ _⟩

/-- Rows that were imported or reported survive a file of either format exactly if their amounts
have no more than twelve digits before the point and their years have four. -/
theorem roundTrips_iff {rows : List UsageInvoiceImportRow} (produced : Produced rows)
    (format : InvoiceFormat) : RoundTrips rows format ↔ ∀ row ∈ rows, Fits row := by
  cases produced with
  | imported parsed =>
    have accepted := parseUsageInvoiceImport_accepted parsed
    refine roundTrips_iff_fits accepted.nonempty (fun row listed => ?_) accepted.windows format
    obtain ⟨raw, reads⟩ := accepted.reads row listed
    exact reads.wellFormed
  | reported converted =>
    obtain ⟨row, rfl, formed⟩ := wellFormed_of_report converted
    refine roundTrips_iff_fits (List.cons_ne_nil _ _) (fun other listed => ?_)
      (List.pairwise_singleton _ _) format
    rw [List.mem_singleton.1 listed]
    exact formed

end

end

section

attribute [local instance] UnicodeLetters.ascii NumberText.plain DateText.isoOnly

/-- A month of messages as the provider reports it. -/
def septemberReport (parts : String) : TelnyxUsageInvoiceRowsInput where
  report := {
    product := "messaging"
    startDate := "2026-09-01"
    endDate := "2026-10-01"
    data := [[("parts", .number parts), ("cost", .number "4.5"), ("currency", .string "EUR")]] }
  quantityMetric := none
  source := "invoice:a"
  requireCurrencyDimension := none
  allowEmpty := false

def septemberRow (billedQuantity : Nat) : UsageInvoiceImportRow :=
  ⟨1, .SMS_SEGMENTS, "telnyx", "segments", 1788220800000, 1790812800000, billedQuantity, 4500000,
    "invoice:a"⟩

theorem septemberRow_formed (billedQuantity : Nat) : WellFormed (septemberRow billedQuantity) := by
  have mapped : ∃ product, (product, ⟨.SMS_SEGMENTS, "segments", "parts"⟩) ∈
      TELNYX_USAGE_PRODUCT_MAPPINGS := ⟨"messaging", List.mem_cons_self⟩
  have plain : trim "invoice:a" = "invoice:a" ∧
      ¬(trim "invoice:a" = "" ∨ 191 < utf16Length (trim "invoice:a")) := by decide_cbv
  have formed := wellFormed_telnyx mapped plain.2
    (show (1788220800000 : Instant) < 1790812800000 by decide) 1 billedQuantity 4500000
  exact formed

theorem roundTrips_ten :
    RoundTrips [septemberRow 10000000] .csv ↔ ∀ row ∈ [septemberRow 10000000], Fits row := by
  have converted : telnyxUsageReportToInvoiceRows (septemberReport "10") =
      .ok [septemberRow 10000000] := by decide +kernel
  exact roundTrips_iff (.reported converted) .csv

/-- A quantity of thirteen digits is written with six decimals and refused. -/
theorem longQuantity_lost : ∃ rows,
    Produced rows ∧ ¬RoundTrips rows .csv ∧ ¬RoundTrips rows .json := by
  have converted : telnyxUsageReportToInvoiceRows (septemberReport "1234567890123") =
      .ok [septemberRow 1234567890123000000] := by decide +kernel
  have lost : ∀ format, ¬RoundTrips [septemberRow 1234567890123000000] format := by
    intro format trips
    have fits := (roundTrips_iff_fits (List.cons_ne_nil _ _)
      (fun row listed => List.mem_singleton.1 listed ▸ septemberRow_formed _)
      (List.pairwise_singleton _ _) format).1 trips _ List.mem_cons_self
    have billed : ∀ quantity, (septemberRow quantity).billedQuantity = quantity := fun _ => rfl
    have short := fits.quantity
    rw [billed] at short
    omega
  exact ⟨_, .reported converted, lost .csv, lost .json⟩

end

end Sokar.UsageReconciliation
