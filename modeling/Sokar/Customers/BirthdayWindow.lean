import Mathlib.Data.Int.Interval
import Mathlib.Data.Prod.Lex
import Mathlib.Data.String.Basic
import Sokar.Customers.FirstVisits
import Sokar.Shared.LocalTime

/-!
# The message before the birthday

The automation `BIRTHDAY` of `marketing-automation.service`.  The dates of its window are those
shown at whole multiples of 24 hours from now, so that a change of the clocks skips a date or shows
one twice.
-/

namespace Sokar.Customers

open Marketing

structure BirthdayCustomer where
  id : Id
  restaurantId : Id
  archivedAt : Option Instant
  mergedIntoId : Option Id
  birthMonth : Option Int
  birthDay : Option Int
  updatedAt : Instant
  deriving DecidableEq

/-- The configuration, within the limits of its schema. -/
structure BirthdayAutomation where
  restaurantId : Id
  timezone : String := "Europe/Paris"
  daysBefore : Fin 31 := 7
  sendHour : Fin 24 := 10

def dayKey (parts : CivilDate) : String :=
  toString parts.year ++ "-" ++ String.ofList (lastDigits 2 parts.month.toNat) ++ "-" ++
    String.ofList (lastDigits 2 parts.day.toNat)

/-- The date has the month and the day of birth. -/
def BirthdayCustomer.Celebrates (customer : BirthdayCustomer) (date : Int) : Prop :=
  customer.birthMonth = some (civilOfDay date).month ∧
    customer.birthDay = some (civilOfDay date).day

namespace BirthdayAutomation

variable [Icu] (automation : BirthdayAutomation) (now : Instant)

def localDate (date : Instant) : Int :=
  (utcToZonedParts date automation.timezone).date

def reads (customer : BirthdayCustomer) : Bool :=
  customer.restaurantId == automation.restaurantId && customer.archivedAt.isNone &&
    customer.mergedIntoId.isNone && customer.birthMonth.isSome && customer.birthDay.isSome

variable (customers : List BirthdayCustomer)

def rows : List BirthdayCustomer :=
  ((customers.filter automation.reads).insertionSort fun first second =>
    toLex (first.updatedAt, first.id) ≤ toLex (second.updatedAt, second.id)).take
      (MAX_AUTOMATION_CANDIDATES + 1)

def days : List (CivilDate × Instant) :=
  (List.range (automation.daysBefore + 1)).map fun offset : Nat =>
    let date := now + offset * msPerDay
    (civilOfDay (automation.localDate date), date)

/-- Of several days with a month and a day, the last one was set last. -/
def dayFor (month day : Int) : Option (CivilDate × Instant) :=
  (automation.days now).reverse.find? fun entry => entry.1.month == month && entry.1.day == day

def candidate (row : BirthdayCustomer) : Option MarketingAutomationCandidate := do
  let month ← row.birthMonth
  let day ← row.birthDay
  let found ← automation.dayFor now month day
  return { customerId := row.id, triggerKey := "birthday:" ++ dayKey found.1, occurredAt := found.2 }

def collectAutomationCandidates : Except CrmFailure (List MarketingAutomationCandidate) :=
  if (utcToZonedParts now automation.timezone).time.hour < automation.sendHour then .ok []
  else
    let rows := automation.rows customers
    if MAX_AUTOMATION_CANDIDATES < rows.length then .error .AUTOMATION_CANDIDATES_TOO_LARGE
    else .ok (rows.filterMap (automation.candidate now))

/-- The dates from today to the last day before which a message is due. -/
def InWindow (date : Int) : Prop :=
  automation.localDate now ≤ date ∧ date ≤ automation.localDate now + automation.daysBefore

def IsRendered (date : Int) : Prop :=
  ∃ offset < (automation.daysBefore : Nat) + 1,
    automation.localDate (now + offset * msPerDay) = date

def triggerKey (date : Int) : String :=
  "birthday:" ++ dayKey (civilOfDay date)

/-- Whoever has a birthday in the window is selected once, for its date, and nobody else. -/
structure Exact (customers : List BirthdayCustomer)
    (candidates : List MarketingAutomationCandidate) : Prop where
  once : (candidates.map (·.customerId)).Nodup
  selected : ∀ customer ∈ customers, automation.reads customer = true → ∀ key,
    (∃ candidate ∈ candidates, candidate.customerId = customer.id ∧ candidate.triggerKey = key) ↔
      ∃ date, automation.InWindow now date ∧ customer.Celebrates date ∧ key = triggerKey date

/-- The window is exact for all customers that can be read at once. -/
def WindowExact : Prop :=
  ∀ customers : List BirthdayCustomer, (customers.map (·.id)).Nodup →
    (customers.filter automation.reads).length ≤ MAX_AUTOMATION_CANDIDATES →
      ∃ candidates, automation.collectAutomationCandidates now customers = .ok candidates ∧
        automation.Exact now customers candidates

def OffsetsWithinDay (timeZone : String) : Prop :=
  ∀ instant, -msPerDay < Icu.utcOffset timeZone instant ∧
    Icu.utcOffset timeZone instant < msPerDay

variable {automation} {now} {date other : Int} {customer : BirthdayCustomer}

theorem localDate_near (now : Instant) (offsets : OffsetsWithinDay automation.timezone)
    (days : Nat) :
    automation.localDate now + days - 2 ≤ automation.localDate (now + days * msPerDay) ∧
      automation.localDate (now + days * msPerDay) ≤ automation.localDate now + days + 2 := by
  have near : ∀ now offset offset' : Int, -msPerDay < offset → offset < msPerDay →
      -msPerDay < offset' → offset' < msPerDay →
        (now + offset) / msPerDay + days - 2 ≤ (now + days * msPerDay + offset') / msPerDay ∧
          (now + days * msPerDay + offset') / msPerDay ≤ (now + offset) / msPerDay + days + 2 := by
    unfold msPerDay msPerMinute
    omega
  have first := offsets now
  have second := offsets (now + days * msPerDay)
  exact near _ _ _ first.1 first.2 second.1 second.2

/-- As many dates are shown as there are in the window: none is left over if none is missed. -/
theorem inWindow_of_rendered (covers : ∀ date, automation.InWindow now date →
    automation.IsRendered now date) (rendered : automation.IsRendered now date) :
    automation.InWindow now date := by
  classical
  let shown := (Finset.range (automation.daysBefore + 1)).image fun offset : Nat =>
    automation.localDate (now + offset * msPerDay)
  let window := Finset.Icc (automation.localDate now)
    (automation.localDate now + automation.daysBefore)
  have mem_shown : ∀ date, date ∈ shown ↔ automation.IsRendered now date := by
    simp [shown, IsRendered]
  have sub : window ⊆ shown :=
    fun date isDate => (mem_shown date).2 (covers date (Finset.mem_Icc.1 isDate))
  have few : shown.card ≤ window.card := by
    apply Finset.card_image_le.trans
    rw [Finset.card_range, Int.card_Icc]
    omega
  have all := Finset.eq_of_subset_of_card_le sub few
  have isShown := (mem_shown date).2 rendered
  rw [← all] at isShown
  exact Finset.mem_Icc.1 isShown

omit [Icu] in
theorem eq_of_celebrates (near : date - other < 365 ∧ other - date < 365)
    (celebrates : customer.Celebrates date) (celebrates' : customer.Celebrates other) :
    date = other :=
  eq_of_sameDay near (Option.some.inj (celebrates.1.symm.trans celebrates'.1))
    (Option.some.inj (celebrates.2.symm.trans celebrates'.2))

theorem candidate_eq_some {candidate : MarketingAutomationCandidate}
    (isCandidate : automation.candidate now customer = some candidate) :
    candidate.customerId = customer.id ∧ ∃ date, automation.IsRendered now date ∧
      customer.Celebrates date ∧ candidate.triggerKey = triggerKey date := by
  unfold BirthdayAutomation.candidate at isCandidate
  simp only [Option.bind_eq_bind, Option.bind_eq_some_iff, Option.pure_def,
    Option.some.injEq] at isCandidate
  obtain ⟨month, isMonth, day, isDay, found, isFound, rfl⟩ := isCandidate
  have same := List.find?_some isFound
  have isEntry := List.mem_of_find?_eq_some isFound
  rw [List.mem_reverse, days, List.mem_map] at isEntry
  obtain ⟨offset, within, rfl⟩ := isEntry
  rw [Bool.and_eq_true, beq_iff_eq, beq_iff_eq] at same
  refine ⟨rfl, _, ⟨offset, List.mem_range.1 within, rfl⟩, ?_, rfl⟩
  exact ⟨isMonth.trans (congrArg some same.1.symm), isDay.trans (congrArg some same.2.symm)⟩

theorem exists_candidate (rendered : automation.IsRendered now date)
    (celebrates : customer.Celebrates date) :
    ∃ candidate, automation.candidate now customer = some candidate := by
  obtain ⟨offset, within, same⟩ := rendered
  obtain ⟨entry, found⟩ : ∃ entry, automation.dayFor now (civilOfDay date).month
      (civilOfDay date).day = some entry := by
    rw [← Option.isSome_iff_exists, dayFor, List.find?_isSome]
    refine ⟨_, List.mem_reverse.2 (List.mem_map.2 ⟨offset, List.mem_range.2 within, rfl⟩), ?_⟩
    simp [same]
  simp [BirthdayAutomation.candidate, celebrates.1, celebrates.2, found]

variable {customers : List BirthdayCustomer}

theorem collect_eq (now : Instant)
    (reached : automation.sendHour ≤ (utcToZonedParts now automation.timezone).time.hour)
    (within : (customers.filter automation.reads).length ≤ MAX_AUTOMATION_CANDIDATES) :
    ∃ rows : List BirthdayCustomer, rows.Perm (customers.filter automation.reads) ∧
      automation.collectAutomationCandidates now customers =
        .ok (rows.filterMap (automation.candidate now)) := by
  refine ⟨automation.rows customers, ?_, ?_⟩
  all_goals
    have sorted := List.perm_insertionSort (fun first second : BirthdayCustomer =>
      toLex (first.updatedAt, first.id) ≤ toLex (second.updatedAt, second.id))
      (customers.filter automation.reads)
    have all : automation.rows customers = _ :=
      List.take_of_length_le (sorted.length_eq.trans_le (within.trans (Nat.le_succ _)))
  · rw [all]
    exact sorted
  · unfold collectAutomationCandidates
    rw [if_neg (not_lt.2 reached)]
    rw [if_neg]
    rw [all, sorted.length_eq]
    exact not_lt.2 within

/-- Once the hour has come, the window is exact if and only if each of its dates is shown at a
whole number of days of 24 hours from now. -/
theorem window_exact_iff (offsets : OffsetsWithinDay automation.timezone)
    (reached : automation.sendHour ≤ (utcToZonedParts now automation.timezone).time.hour) :
    automation.WindowExact now ↔
      ∀ date, automation.InWindow now date → automation.IsRendered now date := by
  constructor
  · intro isExact date inWindow
    -- a customer born on that date finds it among those shown
    let customer : BirthdayCustomer :=
      { id := "", restaurantId := automation.restaurantId, archivedAt := none
        mergedIntoId := none, birthMonth := some (civilOfDay date).month
        birthDay := some (civilOfDay date).day, updatedAt := 0 }
    have read : automation.reads customer = true := by simp [reads, customer]
    have within : ([customer].filter automation.reads).length ≤ MAX_AUTOMATION_CANDIDATES := by
      rw [List.filter_cons_of_pos read]
      exact Nat.le_of_ble_eq_true rfl
    obtain ⟨candidates, collected, selects⟩ := isExact [customer] (List.nodup_singleton _) within
    obtain ⟨rows, perm, collected'⟩ := collect_eq now reached within
    cases collected.symm.trans collected'
    obtain ⟨candidate, isCandidate, -⟩ := (selects.selected customer List.mem_cons_self read _).2
      ⟨date, inWindow, ⟨rfl, rfl⟩, rfl⟩
    obtain ⟨row, isRow, found⟩ := List.mem_filterMap.1 isCandidate
    obtain ⟨-, other, ⟨offset, few, rfl⟩, celebrates, -⟩ := candidate_eq_some found
    have isCustomer := List.mem_singleton.1 (List.mem_of_mem_filter (perm.subset isRow))
    rw [isCustomer] at celebrates
    refine ⟨offset, few, eq_of_celebrates ?_ celebrates ⟨rfl, rfl⟩⟩
    have near := localDate_near now offsets offset
    unfold InWindow at inWindow
    omega
  · intro covers customers distinct within
    obtain ⟨rows, perm, collected⟩ := collect_eq now reached within
    refine ⟨_, collected, ?_, ?_⟩
    · have ids : (rows.map (·.id)).Nodup := ((perm.map _).nodup_iff).2
        (distinct.sublist (List.filter_sublist.map _))
      exact ids.sublist (KeyedRows.map_filterMap_sublist fun row candidate found =>
        (candidate_eq_some found).1)
    intro customer isCustomer read key
    constructor
    · rintro ⟨candidate, isCandidate, sameId, rfl⟩
      obtain ⟨row, isRow, found⟩ := List.mem_filterMap.1 isCandidate
      obtain ⟨ofRow, date, rendered, celebrates, isKey⟩ := candidate_eq_some found
      have same : row = customer := List.inj_on_of_nodup_map distinct
        (List.mem_of_mem_filter (perm.subset isRow)) isCustomer (ofRow.symm.trans sameId)
      exact ⟨date, inWindow_of_rendered covers rendered, same ▸ celebrates, isKey⟩
    · rintro ⟨date, inWindow, celebrates, rfl⟩
      obtain ⟨candidate, found⟩ := exists_candidate (covers date inWindow) celebrates
      obtain ⟨ofCustomer, other, rendered, celebratesOther, isKey⟩ := candidate_eq_some found
      have isRow := perm.symm.subset (List.mem_filter.2 ⟨isCustomer, read⟩)
      refine ⟨candidate, List.mem_filterMap.2 ⟨customer, isRow, found⟩, ofCustomer, ?_⟩
      have otherIn := inWindow_of_rendered covers rendered
      rw [isKey, eq_of_celebrates ?_ celebratesOther celebrates]
      unfold InWindow at inWindow otherIn
      omega

end BirthdayAutomation

section

open BirthdayAutomation

attribute [local instance] Icu.paris2026

def parisBirthdays : BirthdayAutomation where
  restaurantId := "r"
  daysBefore := 1

theorem paris2026_withinDay (timeZone : String) : OffsetsWithinDay timeZone := by
  intro instant
  obtain ⟨low, high⟩ := paris2026_offset timeZone instant
  exact ⟨lt_of_lt_of_le (by decide) low, lt_of_le_of_lt high (by decide)⟩

/-- At noon on 28 March 2026. -/
theorem window_exact_noon : parisBirthdays.WindowExact (20540 * msPerDay + 12 * 3600000) ↔
      ∀ date, parisBirthdays.InWindow (20540 * msPerDay + 12 * 3600000) date →
        parisBirthdays.IsRendered (20540 * msPerDay + 12 * 3600000) date :=
  window_exact_iff (paris2026_withinDay _) (by decide)

/-- In the evening the date on which the clocks go forward is skipped. -/
theorem birthday_skipped :
    ∃ now customer, parisBirthdays.InWindow now 20541 ∧ customer.Celebrates 20541 ∧
      parisBirthdays.collectAutomationCandidates now [customer] = .ok [] :=
  ⟨20540 * msPerDay + 22 * 3600000 + 30 * msPerMinute, ⟨"c", "r", none, none, some 3, some 29, 0⟩,
    ⟨by decide, by decide⟩, ⟨rfl, rfl⟩, by decide +kernel⟩

end

end Sokar.Customers
