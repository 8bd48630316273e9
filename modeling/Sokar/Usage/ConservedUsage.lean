import Sokar.Usage.InvoiceRoundTrip
import Sokar.Usage.Reconciliation

/-!
# Conservation of usage in a reconciliation

A reconciliation counts every event at least once: in each group of invoice rows whose period
and dimension it lies in, else in the usage-only row of its key.  It counts an event exactly once
unless two rows of different source bill the same period of its dimension, and files it under its
own dimension unless the key of a usage-only event has more than three parts.
-/

namespace Sokar.UsageReconciliation

section

theorem toList_dimensionKey (category provider unit : String) :
    (dimensionKey category provider unit).toList =
      ['|'].intercalate [category.toList, provider.toList, unit.toList] := by
  simp [dimensionKey, List.intercalate]

theorem notMem_of_mem_splitOn {α : Type} [BEq α] [LawfulBEq α] {separator : α} {items part : List α}
    (found : part ∈ items.splitOn separator) : separator ∉ part := by
  induction items generalizing part with
  | nil =>
    rw [List.splitOn_nil, List.mem_singleton] at found
    simp [found]
  | cons item rest ih =>
    rw [List.splitOn_cons_eq_if_modifyHead] at found
    split at found
    · rcases List.mem_cons.1 found with rfl | later
      · exact List.not_mem_nil
      · exact ih later
    next differs =>
      cases parts : rest.splitOn separator with
      | nil => exact absurd parts (List.splitOn_ne_nil separator rest)
      | cons head others =>
        rw [parts, List.modifyHead_cons] at found
        rw [parts] at ih
        rcases List.mem_cons.1 found with rfl | later
        · rw [List.mem_cons, not_or]
          refine ⟨fun same => differs ?_, ih List.mem_cons_self⟩
          simp [same]
        · exact ih (List.mem_cons_of_mem _ later)

/-- The dimension under which a report files the usage-only events of a key. -/
def filedUnder (key : String) : String :=
  dimensionKey (keyNames key).1 (keyNames key).2.1 (keyNames key).2.2

variable {key : String}

section

variable (long : 3 ≤ (splitText '|' key).length)
include long

/-- The first three parts of a key, joined again. -/
theorem toList_filedUnder :
    (filedUnder key).toList = ['|'].intercalate ((key.toList.splitOn '|').take 3) := by
  rw [filedUnder, toList_dimensionKey]
  unfold keyNames
  rw [splitText, List.length_map] at long
  rw [splitText]
  match parts : key.toList.splitOn '|', long with
  | first :: second :: third :: rest, _ => simp

theorem splitText_filedUnder : splitText '|' (filedUnder key) = (splitText '|' key).take 3 := by
  rw [splitText, toList_filedUnder long, List.splitOn_intercalate, splitText, List.map_take]
  · exact fun part found => notMem_of_mem_splitOn (List.mem_of_mem_take found)
  · rw [splitText, List.length_map] at long
    intro empty
    have := congrArg List.length empty
    rw [List.length_take] at this
    simp only [List.length_nil] at this
    omega

theorem filedUnder_filedUnder : filedUnder (filedUnder key) = filedUnder key := by
  have parts := splitText_filedUnder long
  have same : keyNames (filedUnder key) = keyNames key := by
    unfold keyNames
    rw [parts]
    simp only [List.getD_eq_getElem?_getD, List.getElem?_take]
    simp
  rw [filedUnder, same, filedUnder]

/-- A key is filed under its own dimension if it has no more than three parts. -/
theorem filedUnder_eq_iff : filedUnder key = key ↔ (splitText '|' key).length = 3 := by
  constructor
  · intro same
    have parts := congrArg List.length (splitText_filedUnder long)
    rw [same, List.length_take] at parts
    omega
  · intro three
    apply String.toList_injective
    rw [toList_filedUnder long, List.take_of_length_le, List.intercalate_splitOn]
    rw [splitText, List.length_map] at three
    exact three.le

end

theorem three_le_parts (category : UsageCategory) (provider unit : String) :
    3 ≤ (splitText '|' (dimensionKey category.name provider unit)).length := by
  rw [splitText, List.length_map, toList_dimensionKey]
  have joined : ['|'].intercalate [category.name.toList, provider.toList, unit.toList] =
      category.name.toList ++ '|' :: (provider.toList ++ '|' :: unit.toList) := by
    simp [List.intercalate]
  rw [joined, List.splitOn_append_cons_self, List.splitOn_append_cons_self, List.length_append,
    List.length_append]
  have nonempty : ∀ text : List Char, 1 ≤ (text.splitOn '|').length := fun text =>
    List.length_pos_iff.2 (List.splitOn_ne_nil '|' text)
  have first := nonempty category.name.toList
  have second := nonempty provider.toList
  have third := nonempty unit.toList
  omega

end

section

variable [UnicodeLetters]

omit [UnicodeLetters] in
/-- Texts that are cut at the first place of a character agree on both sides of it. -/
theorem cut_inj {cut : Char} {firstFront secondFront firstBack secondBack : List Char}
    (absentFirst : cut ∉ firstFront) (absentSecond : cut ∉ secondFront)
    (same : firstFront ++ cut :: firstBack = secondFront ++ cut :: secondBack) :
    firstFront = secondFront ∧ firstBack = secondBack := by
  induction firstFront generalizing secondFront with
  | nil =>
    cases secondFront with
    | nil => exact ⟨rfl, (List.cons.inj same).2⟩
    | cons char rest => exact absurd ((List.cons.inj same).1 ▸ List.mem_cons_self) absentSecond
  | cons char rest ih =>
    cases secondFront with
    | nil => exact absurd ((List.cons.inj same).1.symm ▸ List.mem_cons_self) absentFirst
    | cons other others =>
      rw [List.mem_cons, not_or] at absentFirst absentSecond
      obtain ⟨rfl, tails⟩ := List.cons.inj same
      obtain ⟨rfl, backs⟩ := ih absentFirst.2 absentSecond.2 tails
      exact ⟨rfl, backs⟩

omit [UnicodeLetters] in
/-- The parts of an invoice key, with the instants cut at their `T`. -/
theorem toList_invoiceKey (row : UsageInvoiceImportRow) :
    (invoiceKey row).toList = row.category.name.toList ++ '|' ::
      (row.provider.toList ++ '|' :: (row.unit.toList ++ '|' ::
        ((toISOString row.periodStart).toList ++ '|' ::
          ((toISOString row.periodEnd).toList ++ '|' :: row.source.toList)))) := by
  simp [invoiceKey, UsageInvoiceImportRow.dimensionKey, dimensionKey]

variable {raw : List (String × JsonValue)} {row : UsageInvoiceImportRow}

theorem Reads.capital_notMem (reads : Reads raw row) :
    'T' ∉ row.provider.toList ∧ 'T' ∉ row.unit.toList := by
  constructor
  · intro found
    rw [reads.provider] at found
    exact absurd (UnicodeLetters.lower_noCapital _ _ found) (by decide)
  · intro found
    rw [reads.unit] at found
    exact absurd (UnicodeLetters.lower_noCapital _ _ found) (by decide)

theorem Reads.startIso (reads : Reads raw row) :
    fits isoShape (toISOString row.periodStart).toList ∧
      dateFromIso (toISOString row.periodStart).toList = some row.periodStart :=
  parseIsoDate_iso reads.periodStart

theorem Reads.endIso (reads : Reads raw row) : fits isoShape (toISOString row.periodEnd).toList ∧
      dateFromIso (toISOString row.periodEnd).toList = some row.periodEnd :=
  parseIsoDate_iso reads.periodEnd

omit [UnicodeLetters] in
/-- A text of ISO shape is a date, a `T` and thirteen more characters. -/
theorem cut_of_fits {text : List Char} (fit : fits isoShape text) :
    ∃ day time, text = day ++ 'T' :: time ∧ day.length = 10 ∧ time.length = 13 ∧ 'T' ∉ day := by
  have shape : isoShape = "dddd-dd-dd".toList ++ 'T' :: "dd:dd:dd.dddZ".toList := rfl
  rw [shape] at fit
  obtain ⟨day, rest, rfl, left, right⟩ := fits_append.1 fit
  obtain ⟨char, time, rfl, here, tail⟩ := fits_cons.1 right
  cases here
  exact ⟨day, time, rfl, length_of_fits left, length_of_fits tail,
    notMem_of_fits left rfl (by decide)⟩

/-- What of a row decides which events it counts. -/
def SameWindow (first second : UsageInvoiceImportRow) : Prop :=
  first.dimensionKey = second.dimensionKey ∧ first.periodStart = second.periodStart ∧
    first.periodEnd = second.periodEnd

/-- The parts of a key cannot run into each other: a lower-case dimension holds no `T`, and the
first one after the category stands in the start of the period. -/
theorem invoiceKey_inj {firstRaw secondRaw : List (String × JsonValue)}
    {first second : UsageInvoiceImportRow} (firstReads : Reads firstRaw first)
    (secondReads : Reads secondRaw second) (same : invoiceKey first = invoiceKey second) :
    SameWindow first second ∧ first.source = second.source := by
  have texts := congrArg String.toList same
  rw [toList_invoiceKey, toList_invoiceKey] at texts
  obtain ⟨category, texts⟩ :=
    cut_inj (bar_notMem_name first.category) (bar_notMem_name second.category) texts
  obtain ⟨firstStart, firstNamed⟩ := firstReads.startIso
  obtain ⟨secondStart, secondNamed⟩ := secondReads.startIso
  obtain ⟨firstEnd, firstEndNamed⟩ := firstReads.endIso
  obtain ⟨secondEnd, secondEndNamed⟩ := secondReads.endIso
  obtain ⟨firstDay, firstTime, firstText, firstDayLength, firstTimeLength, firstAbsent⟩ :=
    cut_of_fits firstStart
  obtain ⟨secondDay, secondTime, secondText, secondDayLength, secondTimeLength, secondAbsent⟩ :=
    cut_of_fits secondStart
  have cutAt : ∀ provider unit day time rest : List Char,
      provider ++ '|' :: (unit ++ '|' :: (day ++ 'T' :: time ++ '|' :: rest)) =
        (provider ++ '|' :: (unit ++ '|' :: day)) ++ 'T' :: (time ++ '|' :: rest) := by
    intros
    simp
  have absent : ∀ provider unit day : List Char, 'T' ∉ provider → 'T' ∉ unit → 'T' ∉ day →
      'T' ∉ provider ++ '|' :: (unit ++ '|' :: day) := by
    intro provider unit day notProvider notUnit notDay
    simp [notProvider, notUnit, notDay]
  rw [firstText, secondText, cutAt, cutAt] at texts
  obtain ⟨fronts, backs⟩ := cut_inj
    (absent _ _ _ firstReads.capital_notMem.1 firstReads.capital_notMem.2 firstAbsent)
    (absent _ _ _ secondReads.capital_notMem.1 secondReads.capital_notMem.2 secondAbsent) texts
  have regroup : ∀ provider unit day : List Char,
      provider ++ '|' :: (unit ++ '|' :: day) = (provider ++ '|' :: unit ++ ['|']) ++ day := by
    intros
    simp
  rw [regroup, regroup] at fronts
  obtain ⟨dimensions, days⟩ :=
    List.append_inj' fronts (firstDayLength.trans secondDayLength.symm)
  obtain ⟨times, backs⟩ := List.append_inj backs (firstTimeLength.trans secondTimeLength.symm)
  obtain ⟨ends, sources⟩ := List.append_inj (List.cons.inj backs).2
    ((length_of_fits firstEnd).trans (length_of_fits secondEnd).symm)
  have starts : (toISOString first.periodStart).toList = (toISOString second.periodStart).toList := by
    rw [firstText, secondText, days, times]
  refine ⟨⟨?_, ?_, ?_⟩, String.toList_injective (List.cons.inj sources).2⟩
  · apply String.toList_injective
    have parts : ∀ row : UsageInvoiceImportRow, row.dimensionKey.toList =
        row.category.name.toList ++ '|' :: (row.provider.toList ++ '|' :: row.unit.toList) := by
      intro row
      simp [UsageInvoiceImportRow.dimensionKey, dimensionKey]
    rw [parts, parts, category, List.append_cancel_right dimensions]
  · rw [starts, secondNamed] at firstNamed
    exact (Option.some.inj firstNamed).symm
  · rw [ends, secondEndNamed] at firstEndNamed
    exact (Option.some.inj firstEndNamed).symm

end

section

variable [UnicodeLetters]

/-- How many invoices count an event. -/
def timesInvoiced (rows : List UsageInvoiceImportRow) (event : UsageReconciliationEvent) : Nat :=
  (groupedInvoices rows).countP fun invoice => within event invoice.2.row

variable {rows : List UsageInvoiceImportRow}

theorem SameWindow.within_eq {first second : UsageInvoiceImportRow}
    (same : SameWindow first second) (event : UsageReconciliationEvent) :
    within event first = within event second := by
  rw [within, within, same.1, same.2.1, same.2.2]

omit [UnicodeLetters] in
theorem groupedInvoices_row : ∀ invoice ∈ groupedInvoices rows,
    invoice.2.row ∈ rows ∧ invoiceKey invoice.2.row = invoice.1 := by
  refine Grouping.forall_groupBy (fun key (invoice : GroupedInvoice) =>
    invoice.row ∈ rows ∧ invoiceKey invoice.row = key) ?_ ?_
  · exact fun row listed => ⟨listed, rfl⟩
  · exact fun _ _ _ kept => kept

theorem exists_invoice (accepted : Accepted rows) {row : UsageInvoiceImportRow}
    (listed : row ∈ rows) : ∃ invoice ∈ groupedInvoices rows,
      invoice.1 = invoiceKey row ∧ SameWindow invoice.2.row row := by
  have found : invoiceKey row ∈ (groupedInvoices rows).map Prod.fst :=
    Grouping.mem_keys_groupBy.2 (List.mem_map_of_mem listed)
  obtain ⟨invoice, grouped, key⟩ := List.mem_map.1 found
  obtain ⟨standsIn, sameKey⟩ := groupedInvoices_row invoice grouped
  obtain ⟨_, firstReads⟩ := accepted.reads _ standsIn
  obtain ⟨_, secondReads⟩ := accepted.reads _ listed
  exact ⟨invoice, grouped, key, (invoiceKey_inj firstReads secondReads (sameKey.trans key)).1⟩

omit [UnicodeLetters] in
theorem windowConflict_comm (first second : UsageInvoiceImportRow) :
    windowConflict first second = windowConflict second first := by
  rw [Bool.eq_iff_iff]
  simp only [windowConflict, windowsOverlap, Bool.and_eq_true, beq_iff_eq, Bool.or_eq_true,
    bne_iff_ne, decide_eq_true_eq]
  constructor
  · rintro ⟨⟨key, differ⟩, below, above⟩
    exact ⟨⟨key.symm, differ.imp Ne.symm Ne.symm⟩, above, below⟩
  · rintro ⟨⟨key, differ⟩, below, above⟩
    exact ⟨⟨key.symm, differ.imp Ne.symm Ne.symm⟩, above, below⟩

omit [UnicodeLetters] in
theorem windowConflict_self (row : UsageInvoiceImportRow) : windowConflict row row = false := by
  simp [windowConflict]

/-- Accepted rows that both count an event bill the same period of one dimension. -/
theorem Accepted.sameWindow (accepted : Accepted rows) {event : UsageReconciliationEvent}
    {first second : UsageInvoiceImportRow} (firstIn : first ∈ rows) (secondIn : second ∈ rows)
    (firstWithin : within event first) (secondWithin : within event second) :
    SameWindow first second := by
  simp only [within, Bool.and_eq_true, beq_iff_eq, decide_eq_true_eq] at firstWithin secondWithin
  obtain ⟨⟨firstKey, firstStart⟩, firstEnd⟩ := firstWithin
  obtain ⟨⟨secondKey, secondStart⟩, secondEnd⟩ := secondWithin
  have symmetric : Std.Symm fun first second => windowConflict first second = false :=
    ⟨fun first second clear => windowConflict_comm first second ▸ clear⟩
  have clear := accepted.windows.forall_of_forall (fun row _ => windowConflict_self row)
    firstIn secondIn
  have keys : first.dimensionKey = second.dimensionKey := firstKey.symm.trans secondKey
  have below : first.periodStart < second.periodEnd := lt_of_le_of_lt firstStart secondEnd
  have above : second.periodStart < first.periodEnd := lt_of_le_of_lt secondStart firstEnd
  simp only [windowConflict, windowsOverlap, keys, below, above, beq_self_eq_true, decide_true,
    Bool.and_self, Bool.and_true, Bool.true_and, Bool.or_eq_false_iff, bne_eq_false_iff_eq] at clear
  exact ⟨keys, clear⟩

theorem timesInvoiced_eq_zero (accepted : Accepted rows) (event : UsageReconciliationEvent) :
    timesInvoiced rows event = 0 ↔ ∀ row ∈ rows, within event row = false := by
  rw [timesInvoiced, List.countP_eq_zero]
  constructor
  · intro none row listed
    obtain ⟨invoice, grouped, -, same⟩ := exists_invoice accepted listed
    rw [← same.within_eq event]
    exact Bool.eq_false_iff.2 (none invoice grouped)
  · intro none invoice grouped
    simp [none _ (groupedInvoices_row invoice grouped).1]

theorem timesInvoiced_le_one (accepted : Accepted rows) (event : UsageReconciliationEvent) :
    timesInvoiced rows event ≤ 1 ↔ ∀ first ∈ rows, ∀ second ∈ rows,
      within event first → within event second → first.source = second.source := by
  have nodup : ((groupedInvoices rows).map Prod.fst).Nodup := Grouping.nodup_keys_groupBy _ _
  rw [timesInvoiced, Grouping.countP_le_one nodup]
  constructor
  · intro oneKey first firstIn second secondIn firstWithin secondWithin
    obtain ⟨left, leftIn, leftKey, leftSame⟩ := exists_invoice accepted firstIn
    obtain ⟨right, rightIn, rightKey, rightSame⟩ := exists_invoice accepted secondIn
    rw [← leftSame.within_eq] at firstWithin
    rw [← rightSame.within_eq] at secondWithin
    have keys := oneKey left leftIn right rightIn firstWithin secondWithin
    rw [leftKey, rightKey] at keys
    obtain ⟨_, firstReads⟩ := accepted.reads _ firstIn
    obtain ⟨_, secondReads⟩ := accepted.reads _ secondIn
    exact (invoiceKey_inj firstReads secondReads keys).2
  · intro oneSource left leftIn right rightIn leftWithin rightWithin
    obtain ⟨leftRow, leftKey⟩ := groupedInvoices_row left leftIn
    obtain ⟨rightRow, rightKey⟩ := groupedInvoices_row right rightIn
    obtain ⟨key, starts, ends⟩ := accepted.sameWindow leftRow rightRow leftWithin rightWithin
    rw [← leftKey, ← rightKey, invoiceKey, invoiceKey, key, starts, ends,
      oneSource _ leftRow _ rightRow leftWithin rightWithin]

variable (rows) in
theorem sum_matching (events : List (UsageReconciliationEvent × Nat))
    (weigh : UsageReconciliationEvent × Nat → Nat) :
    ((groupedInvoices rows).map fun invoice => ((matching events invoice.2).map weigh).sum).sum =
      (events.map fun event => timesInvoiced rows event.1 * weigh event).sum := by
  have sums := Grouping.sum_filters (fun (invoice : String × GroupedInvoice)
    (event : UsageReconciliationEvent × Nat) => within event.1 invoice.2.row) weigh
    (groupedInvoices rows) events
  simp only [nsmul_eq_mul, Nat.cast_id] at sums
  exact sums

theorem mem_covered {usageEvents : List UsageReconciliationEvent}
    {event : UsageReconciliationEvent × Nat} (listed : event ∈ usageEvents.zipIdx) :
    event.2 ∈ covered (groupedInvoices rows) usageEvents.zipIdx ↔
      timesInvoiced rows event.1 ≠ 0 := by
  rw [timesInvoiced, Ne, List.countP_eq_zero, covered, List.mem_flatMap]
  constructor
  · rintro ⟨invoice, grouped, found⟩ none
    obtain ⟨other, counted, index⟩ := List.mem_map.1 found
    obtain ⟨otherListed, otherWithin⟩ := List.mem_filter.1 counted
    have same : other.1 = event.1 := by
      rw [List.mem_zipIdx_iff_getElem?] at listed otherListed
      rw [index, listed] at otherListed
      exact (Option.some.inj otherListed).symm
    exact none invoice grouped (same ▸ otherWithin)
  · intro some
    simp only [not_forall, not_not] at some
    obtain ⟨invoice, grouped, counts⟩ := some
    exact ⟨invoice, grouped, List.mem_map.2 ⟨event, List.mem_filter.2 ⟨listed, counts⟩, rfl⟩⟩

variable (rows) in
theorem sum_usageOnly (usageEvents : List UsageReconciliationEvent)
    (weigh : String → UsageReconciliationEvent × Nat → Nat) :
    ((usageOnly (groupedInvoices rows) usageEvents.zipIdx).map fun bucket =>
        (bucket.2.map (weigh bucket.1)).sum).sum =
      (usageEvents.zipIdx.map fun event =>
        if timesInvoiced rows event.1 = 0 then weigh (usageKey event.1) event else 0).sum := by
  rw [usageOnly]
  refine (Grouping.sum_groupBy (fun key (bucket : List (UsageReconciliationEvent × Nat)) =>
    (bucket.map (weigh key)).sum) weigh
    (by simp) (by simp) _ _).trans ?_
  rw [Grouping.sum_filter]
  congr 1
  apply List.map_congr_left
  intro event listed
  by_cases none : timesInvoiced rows event.1 = 0
  · simp [none, (mem_covered listed).not.2 (not_not.2 none)]
  · simp [none, (mem_covered listed).2 none]

end

section

variable [UnicodeLetters]

def timesCounted (invoiceRows : List UsageInvoiceImportRow)
    (usageEvents : List UsageReconciliationEvent) (index : Nat) : Nat :=
  let invoices := groupedInvoices invoiceRows
  let events := usageEvents.zipIdx
  (invoices.map fun invoice =>
      (matching events invoice.2).countP fun event => event.2 == index).sum +
    ((usageOnly invoices events).map fun bucket =>
      bucket.2.countP fun event => event.2 == index).sum

structure ConservesUsage (invoiceRows : List UsageInvoiceImportRow)
    (usageEvents : List UsageReconciliationEvent) (report : UsageReconciliationReport) : Prop where
  once : ∀ index < usageEvents.length, timesCounted invoiceRows usageEvents index = 1
  counts : (report.rows.map fun row => row.eventCount).sum = usageEvents.length
  quantities : ∀ dimension : String,
    ((report.rows.filter fun row => row.dimensionKey == dimension).map
        fun row => row.observedQuantity).sum =
      ((usageEvents.filter fun event => usageKey event == dimension).map
        fun event => event.quantity).sum

variable {rows : List UsageInvoiceImportRow}

variable (rows) in
theorem sum_rows (usageEvents : List UsageReconciliationEvent)
    (invoiced : UsageReconciliationEvent × Nat → Nat)
    (filed : String → UsageReconciliationEvent × Nat → Nat) :
    ((groupedInvoices rows).map fun invoice =>
        ((matching usageEvents.zipIdx invoice.2).map invoiced).sum).sum +
      ((usageOnly (groupedInvoices rows) usageEvents.zipIdx).map fun bucket =>
        (bucket.2.map (filed bucket.1)).sum).sum =
      (usageEvents.zipIdx.map fun event => timesInvoiced rows event.1 * invoiced event +
        if timesInvoiced rows event.1 = 0 then filed (usageKey event.1) event else 0).sum := by
  rw [sum_matching, sum_usageOnly, ← List.sum_map_add]

theorem timesCounted_eq (usageEvents : List UsageReconciliationEvent) (index : Nat) :
    timesCounted rows usageEvents index = (usageEvents.zipIdx.map fun event =>
        timesInvoiced rows event.1 * (if event.2 == index then 1 else 0) +
          if timesInvoiced rows event.1 = 0 then (if event.2 == index then 1 else 0) else 0).sum := by
  simp only [timesCounted, Grouping.countP_eq_sum]
  exact sum_rows rows usageEvents (fun event => if event.2 == index then 1 else 0)
    fun _ event => if event.2 == index then 1 else 0

omit [UnicodeLetters] in
theorem reportRowForUsage_dimensionKey (key : String) (events : List UsageReconciliationEvent)
    (invoiced : Bool) (scopeStart scopeEnd : Instant) :
    (reportRowForUsage key events invoiced scopeStart scopeEnd).dimensionKey = filedUnder key :=
  rfl

omit [UnicodeLetters] in
theorem reportRowForUsage_quantity (key : String)
    (events : List (UsageReconciliationEvent × Nat)) (invoiced : Bool)
    (scopeStart scopeEnd : Instant) :
    (reportRowForUsage key (events.map Prod.fst) invoiced scopeStart scopeEnd).observedQuantity =
      (events.map fun event => event.1.quantity).sum := by
  simp [reportRowForUsage, observe, Function.comp_def]

theorem sum_invoiced (events : List (UsageReconciliationEvent × Nat)) (invoice : GroupedInvoice)
    (dimension : String) :
    (if invoice.row.dimensionKey == dimension then
        ((matching events invoice).map fun event => event.1.quantity).sum else 0) =
      ((matching events invoice).map fun event =>
        if usageKey event.1 == dimension then event.1.quantity else 0).sum := by
  have key : ∀ event ∈ matching events invoice, usageKey event.1 = invoice.row.dimensionKey := by
    intro event counted
    have counts := (List.mem_filter.1 counted).2
    simp only [within, Bool.and_eq_true, beq_iff_eq] at counts
    exact counts.1.1
  by_cases same : invoice.row.dimensionKey == dimension
  · rw [if_pos same]
    congr 1
    apply List.map_congr_left
    intro event counted
    rw [key event counted, if_pos same]
  · rw [if_neg same]
    symm
    apply List.sum_eq_zero
    intro amount found
    obtain ⟨event, counted, rfl⟩ := List.mem_map.1 found
    rw [key event counted, if_neg same]

variable [Icu]

theorem reportRows_perm (usageEvents : List UsageReconciliationEvent)
    (scopeStart scopeEnd : Instant) (quantityTolerance costTolerance : ℚ) :
    (reportRows rows usageEvents scopeStart scopeEnd quantityTolerance costTolerance).Perm
      ((groupedInvoices rows).map (fun invoice =>
          reportRowForInvoice invoice.2 ((matching usageEvents.zipIdx invoice.2).map Prod.fst)
            quantityTolerance costTolerance) ++
        (usageOnly (groupedInvoices rows) usageEvents.zipIdx).map fun bucket =>
          reportRowForUsage bucket.1 (bucket.2.map Prod.fst)
            (((groupedInvoices rows).map fun invoice => invoice.2.row.dimensionKey).contains bucket.1)
            scopeStart scopeEnd) :=
  List.perm_insertionSort _ _

theorem sum_eventCount (usageEvents : List UsageReconciliationEvent)
    (scopeStart scopeEnd : Instant) (quantityTolerance costTolerance : ℚ) :
    ((reportRows rows usageEvents scopeStart scopeEnd quantityTolerance costTolerance).map
        fun row => row.eventCount).sum =
      (usageEvents.zipIdx.map fun event => timesInvoiced rows event.1 * 1 +
        if timesInvoiced rows event.1 = 0 then 1 else 0).sum := by
  rw [((reportRows_perm usageEvents scopeStart scopeEnd quantityTolerance costTolerance).map _).sum_eq,
    List.map_append, List.sum_append, ← sum_rows rows usageEvents (fun _ => 1) fun _ _ => 1]
  simp [reportRowForInvoice, reportRowForUsage, observe, Function.comp_def]

theorem sum_observedQuantity (usageEvents : List UsageReconciliationEvent)
    (scopeStart scopeEnd : Instant) (quantityTolerance costTolerance : ℚ) (dimension : String) :
    (((reportRows rows usageEvents scopeStart scopeEnd quantityTolerance costTolerance).filter
        fun row => row.dimensionKey == dimension).map fun row => row.observedQuantity).sum =
      (usageEvents.zipIdx.map fun event => timesInvoiced rows event.1 *
            (if usageKey event.1 == dimension then event.1.quantity else 0) +
          if timesInvoiced rows event.1 = 0 then
            (if filedUnder (usageKey event.1) == dimension then event.1.quantity else 0)
          else 0).sum := by
  have total := sum_rows rows usageEvents
    (fun event => if usageKey event.1 == dimension then event.1.quantity else 0)
    fun key event => if filedUnder key == dimension then event.1.quantity else 0
  rw [← total, Grouping.sum_filter,
    ((reportRows_perm usageEvents scopeStart scopeEnd quantityTolerance costTolerance).map _).sum_eq,
    List.map_append, List.sum_append, List.map_map, List.map_map]
  congr 2
  · apply List.map_congr_left
    intro invoice _
    rw [← sum_invoiced]
    simp [reportRowForInvoice, observe, UsageReconciliationReportRow.dimensionKey,
      UsageInvoiceImportRow.dimensionKey, Function.comp_def]
  · apply List.map_congr_left
    intro bucket _
    rw [Function.comp_apply, reportRowForUsage_dimensionKey, reportRowForUsage_quantity]
    by_cases same : filedUnder bucket.1 == dimension
    · simp [same]
    · simp [same]

end

section

variable [UnicodeLetters]

/-- The rows that count an event all come from one source. -/
def OneSource (invoiceRows : List UsageInvoiceImportRow)
    (usageEvents : List UsageReconciliationEvent) : Prop :=
  ∀ event ∈ usageEvents, ∀ first ∈ invoiceRows, ∀ second ∈ invoiceRows,
    within event first → within event second → first.source = second.source

/-- The key of an event that no row covers splits into its three names, unless the event weighs
nothing. -/
def NamesKept (invoiceRows : List UsageInvoiceImportRow)
    (usageEvents : List UsageReconciliationEvent) : Prop :=
  ∀ event ∈ usageEvents, (∀ row ∈ invoiceRows, within event row = false) →
    (splitText '|' (usageKey event)).length = 3 ∨ event.quantity = 0

variable {rows : List UsageInvoiceImportRow} {usageEvents : List UsageReconciliationEvent}

theorem oneSource_iff (accepted : Accepted rows) :
    OneSource rows usageEvents ↔ ∀ event ∈ usageEvents, timesInvoiced rows event ≤ 1 :=
  forall₂_congr fun event _ => (timesInvoiced_le_one accepted event).symm

omit [UnicodeLetters] in
theorem forall_zipIdx {property : UsageReconciliationEvent → Prop} :
    (∀ event ∈ usageEvents.zipIdx, property event.1) ↔ ∀ event ∈ usageEvents, property event := by
  constructor
  · intro all event listed
    rw [← List.zipIdx_map_fst 0 usageEvents, List.mem_map] at listed
    obtain ⟨indexed, found, rfl⟩ := listed
    exact all indexed found
  · intro all event found
    exact all event.1 (List.fst_mem_of_mem_zipIdx found)

omit [UnicodeLetters] in
theorem sum_zipIdx (weigh : UsageReconciliationEvent → Nat) :
    (usageEvents.zipIdx.map fun event => weigh event.1).sum = (usageEvents.map weigh).sum := by
  have split : (usageEvents.zipIdx.map fun event => weigh event.1) =
      (usageEvents.zipIdx.map Prod.fst).map weigh := by
    rw [List.map_map]
    rfl
  rw [split, List.zipIdx_map_fst]

theorem counts_iff : (usageEvents.zipIdx.map fun event => timesInvoiced rows event.1 * 1 +
        if timesInvoiced rows event.1 = 0 then 1 else 0).sum = usageEvents.length ↔
      ∀ event ∈ usageEvents, timesInvoiced rows event ≤ 1 := by
  have ones : usageEvents.length = (usageEvents.zipIdx.map fun _ => 1).sum := by simp
  rw [ones, Grouping.sum_eq_iff, ← forall_zipIdx]
  · apply forall₂_congr
    intro event _
    split <;> omega
  · intro event _
    split <;> omega

theorem timesCounted_eq_one (once : ∀ event ∈ usageEvents, timesInvoiced rows event ≤ 1)
    {index : Nat} (inside : index < usageEvents.length) :
    timesCounted rows usageEvents index = 1 := by
  have single : (usageEvents.zipIdx.countP fun event => event.2 == index) = 1 := by
    have counted : (usageEvents.zipIdx.countP fun event => event.2 == index) =
        (usageEvents.zipIdx.map Prod.snd).count index := by
      rw [List.count, List.countP_map]
      rfl
    rw [counted, List.zipIdx_map_snd]
    exact List.count_eq_one_of_mem List.nodup_range' (by simpa [List.mem_range'] using inside)
  rw [Grouping.countP_eq_sum] at single
  rw [timesCounted_eq]
  refine Eq.trans ?_ single
  congr 1
  apply List.map_congr_left
  intro event listed
  have atMost := once event.1 (List.fst_mem_of_mem_zipIdx listed)
  by_cases here : event.2 == index
  · simp only [here, if_true]
    split <;> omega
  · simp [here]

/-- What an event adds to the observed quantity of a dimension. -/
def filedQuantity (rows : List UsageInvoiceImportRow) (dimension : String)
    (event : UsageReconciliationEvent) : Nat :=
  timesInvoiced rows event * (if usageKey event == dimension then event.quantity else 0) +
    if timesInvoiced rows event = 0 then
      (if filedUnder (usageKey event) == dimension then event.quantity else 0)
    else 0

theorem three_le_usageKey (event : UsageReconciliationEvent) :
    3 ≤ (splitText '|' (usageKey event)).length :=
  three_le_parts _ _ _

theorem quantities_iff (accepted : Accepted rows)
    (once : ∀ event ∈ usageEvents, timesInvoiced rows event ≤ 1) :
    (∀ dimension, (usageEvents.map (filedQuantity rows dimension)).sum =
        (usageEvents.map fun event =>
          if usageKey event == dimension then event.quantity else 0).sum) ↔
      NamesKept rows usageEvents := by
  constructor
  · intro sums event listed uncovered
    by_contra misfiled
    rw [not_or] at misfiled
    have apart : filedUnder (usageKey event) ≠ usageKey event := fun same =>
      misfiled.1 ((filedUnder_eq_iff (three_le_usageKey event)).1 same)
    -- no key is filed under this one, so nothing makes up for the event
    have below : ∀ other ∈ usageEvents, filedQuantity rows (usageKey event) other ≤
        if usageKey other == usageKey event then other.quantity else 0 := by
      intro other otherListed
      have atMost := once other otherListed
      have elsewhere : filedUnder (usageKey other) ≠ usageKey event := by
        intro same
        apply apart
        rw [← same]
        exact filedUnder_filedUnder (three_le_usageKey other)
      rw [filedQuantity]
      have notFiled : (filedUnder (usageKey other) == usageKey event) = false := by
        simpa using elsewhere
      simp only [notFiled, Bool.false_eq_true, if_false, ite_self, Nat.add_zero]
      exact (Nat.mul_le_mul_right _ atMost).trans (Nat.one_mul _).le
    have same := (Grouping.sum_eq_iff below).1 (sums (usageKey event)).symm event listed
    have none := (timesInvoiced_eq_zero accepted event).2 uncovered
    apply misfiled.2
    simpa [filedQuantity, none, apart] using same
  · intro kept dimension
    congr 1
    apply List.map_congr_left
    intro event listed
    have atMost := once event listed
    rw [filedQuantity]
    by_cases none : timesInvoiced rows event = 0
    · rw [none, if_pos rfl, Nat.zero_mul, Nat.zero_add]
      rcases kept event listed ((timesInvoiced_eq_zero accepted event).1 none) with three | weightless
      · rw [(filedUnder_eq_iff (three_le_usageKey event)).2 three]
      · simp [weightless]
    · rw [if_neg none, show timesInvoiced rows event = 1 by omega, Nat.one_mul, Nat.add_zero]

variable [Icu] [NumberText]

/-- A reconciliation of an accepted invoice conserves usage exactly if no event lies in two rows
of different source, and no weight is in a usage-only event whose key has more than three
parts. -/
theorem conservesUsage_iff {input : String} {format : InvoiceFormat}
    {invoiceRows : List UsageInvoiceImportRow}
    (parsed : parseUsageInvoiceImport input format = .ok invoiceRows)
    (usageEvents : List UsageReconciliationEvent) {quantityTolerance costToleranceEur : Option ℚ}
    (quantityNonneg : 0 ≤ quantityTolerance.getD 0) (costNonneg : 0 ≤ costToleranceEur.getD 0) :
    ∃ report, reconcileUsageInvoice invoiceRows usageEvents quantityTolerance costToleranceEur =
        .ok report ∧
      (ConservesUsage invoiceRows usageEvents report ↔
        OneSource invoiceRows usageEvents ∧ NamesKept invoiceRows usageEvents) := by
  have accepted := parseUsageInvoiceImport_accepted parsed
  match invoiceRows, accepted.nonempty with
  | first :: rest, _ =>
    rw [reconcileUsageInvoice, if_neg (by simp [quantityNonneg, costNonneg])]
    refine ⟨_, rfl, ?_⟩
    have quantities : ∀ dimension, (usageEvents.zipIdx.map fun event =>
          timesInvoiced (first :: rest) event.1 *
              (if usageKey event.1 == dimension then event.1.quantity else 0) +
            if timesInvoiced (first :: rest) event.1 = 0 then
              (if filedUnder (usageKey event.1) == dimension then event.1.quantity else 0)
            else 0).sum =
        (usageEvents.map (filedQuantity (first :: rest) dimension)).sum := fun dimension =>
      sum_zipIdx (filedQuantity (first :: rest) dimension)
    constructor
    · intro conserves
      have once := counts_iff.1 ((sum_eventCount _ _ _ _ _).symm.trans conserves.counts)
      refine ⟨(oneSource_iff accepted).2 once, (quantities_iff accepted once).1 ?_⟩
      intro dimension
      rw [← quantities, ← sum_observedQuantity, conserves.quantities dimension, Grouping.sum_filter]
    · rintro ⟨oneSource, kept⟩
      have once := (oneSource_iff accepted).1 oneSource
      exact {
        once := fun index inside => timesCounted_eq_one once inside
        counts := (sum_eventCount _ _ _ _ _).trans (counts_iff.2 once)
        quantities := fun dimension => by
          rw [sum_observedQuantity, quantities, (quantities_iff accepted once).2 kept dimension,
            Grouping.sum_filter] }

end

section

attribute [local instance] UnicodeLetters.ascii NumberText.plain Icu.utc

/-- A month of messages billed by a source. -/
def billedBy (rowNumber : Nat) (source : String) (billedQuantity billedCostEur : Nat) :
    UsageInvoiceImportRow :=
  ⟨rowNumber, .SMS_SEGMENTS, "telnyx", "segments", 1788220800000, 1790812800000, billedQuantity,
    billedCostEur, source⟩

/-- One period of one dimension, billed by two sources. -/
def twoSourceRows : List UsageInvoiceImportRow :=
  [billedBy 2 "invoice:a" 4000000 30000, billedBy 3 "invoice:b" 6000000 45000]

def twoSources : String :=
  serializeTelnyxInvoiceRows twoSourceRows .csv

def smsUsage : UsageReconciliationEvent :=
  ⟨"restaurant-1", .SMS_SEGMENTS, "telnyx", "segments", 10000000, 75000, 1789473600000,
    .obj [("costStatus", .str "PRICED")]⟩

theorem twoSources_parsed : parseUsageInvoiceImport twoSources .csv = .ok twoSourceRows := by
  have mapped : ∃ product, (product, ⟨.SMS_SEGMENTS, "segments", "parts"⟩) ∈
      TELNYX_USAGE_PRODUCT_MAPPINGS := ⟨"messaging", List.mem_cons_self⟩
  have formed : ∀ row ∈ twoSourceRows, WellFormed row := by
    have billed : ∀ source ∈ ["invoice:a", "invoice:b"], ∀ rowNumber quantity cost,
        WellFormed (billedBy rowNumber source quantity cost) := by
      intro source listed rowNumber quantity cost
      have plain : trim source = source ∧ ¬(trim source = "" ∨ 191 < utf16Length (trim source)) := by
        revert source
        decide_cbv
      have formed := wellFormed_telnyx mapped plain.2
        (show (1788220800000 : Instant) < 1790812800000 by decide) rowNumber quantity cost
      rw [plain.1] at formed
      exact formed
    intro row listed
    rcases List.mem_pair.1 listed with rfl | rfl
    · exact billed _ List.mem_cons_self _ _ _
    · exact billed _ (List.mem_cons_of_mem _ List.mem_cons_self) _ _ _
  have years : FourDigitYear 1788220800000 ∧ FourDigitYear 1790812800000 := by
    unfold FourDigitYear
    decide
  have nonempty : twoSourceRows ≠ [] := List.cons_ne_nil _ _
  have fits : ∀ row ∈ twoSourceRows, Fits row := by
    have fit : ∀ rowNumber source quantity cost, quantity < 10 ^ 18 → cost < 10 ^ 18 →
        Fits (billedBy rowNumber source quantity cost) :=
      fun _ _ _ _ quantity cost => ⟨quantity, cost, years.1, years.2⟩
    intro row listed
    rcases List.mem_pair.1 listed with rfl | rfl
    · exact fit _ _ _ _ (by omega) (by omega)
    · exact fit _ _ _ _ (by omega) (by omega)
  rw [twoSources, parse_serialize nonempty, reread_of_fits formed (by decide) fits]
  rfl

theorem conservesUsage_oneSource : ∃ report,
    reconcileUsageInvoice twoSourceRows [smsUsage] none none = .ok report ∧
      (ConservesUsage twoSourceRows [smsUsage] report ↔
        OneSource twoSourceRows [smsUsage] ∧ NamesKept twoSourceRows [smsUsage]) :=
  conservesUsage_iff twoSources_parsed [smsUsage] le_rfl le_rfl

/-- Both rows count the event. -/
theorem usage_countedTwice : ∃ rows report, parseUsageInvoiceImport twoSources .csv = .ok rows ∧
      reconcileUsageInvoice rows [smsUsage] none none = .ok report ∧
      ¬ConservesUsage rows [smsUsage] report := by
  refine ⟨twoSourceRows, _, twoSources_parsed, rfl, fun conserves => ?_⟩
  have counts := conserves.counts
  revert counts
  decide +kernel

end

end Sokar.UsageReconciliation
