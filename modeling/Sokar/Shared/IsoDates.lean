import Sokar.Shared.Text

/-!
# ISO dates

The calendar behind `Date`: the day number of a date, `toISOString`, and `new Date` of a text
written the way `toISOString` writes it.
-/

namespace Sokar

/-- A date of the proleptic Gregorian calendar. -/
structure CivilDate where
  year : Int
  month : Int
  day : Int
  deriving DecidableEq

/-- The day number of a date.  Years are counted from March, so that the leap day is last,
in eras of 400 years. -/
def dayOfCivil (date : CivilDate) : LocalDate :=
  let year := if date.month ≤ 2 then date.year - 1 else date.year
  let era := year / 400
  let yearOfEra := year - era * 400
  let month := if 2 < date.month then date.month - 3 else date.month + 9
  let dayOfYear := (153 * month + 2) / 5 + date.day - 1
  let dayOfEra := yearOfEra * 365 + yearOfEra / 4 - yearOfEra / 100 + dayOfYear
  era * 146097 + dayOfEra - 719468

variable (day : LocalDate)

def civilOfDay : CivilDate :=
  let shifted : Int := day + 719468
  let era := shifted / 146097
  let dayOfEra := shifted - era * 146097
  let yearOfEra := (dayOfEra - dayOfEra / 1460 + dayOfEra / 36524 - dayOfEra / 146096) / 365
  let dayOfYear := dayOfEra - (365 * yearOfEra + yearOfEra / 4 - yearOfEra / 100)
  let month := (5 * dayOfYear + 2) / 153
  let civilMonth := if month < 10 then month + 3 else month - 9
  { year := yearOfEra + era * 400 + if civilMonth ≤ 2 then 1 else 0
    month := civilMonth
    day := dayOfYear - (153 * month + 2) / 5 + 1 }

/-- The last digits of a number, as many as given. -/
def lastDigits : (width : Nat) → Nat → List Char
  | 0, _ => []
  | width + 1, number => lastDigits width (number / 10) ++ [Nat.digitChar (number % 10)]

/-- Years from 0 to 9999 have four digits, all others a sign and six. -/
def isoYear (year : Int) : List Char :=
  if 0 ≤ year ∧ year ≤ 9999 then lastDigits 4 year.toNat
  else (if year < 0 then '-' else '+') :: lastDigits 6 year.natAbs

/-- `Date.prototype.toISOString`. -/
def toISOString (instant : Instant) : String :=
  let date := civilOfDay (instant / msPerDay)
  let ms := (instant % msPerDay).toNat
  String.ofList (isoYear date.year ++ '-' :: lastDigits 2 date.month.toNat ++
    '-' :: lastDigits 2 date.day.toNat ++ 'T' :: lastDigits 2 (ms / 3600000) ++
    ':' :: lastDigits 2 (ms / 60000 % 60) ++ ':' :: lastDigits 2 (ms / 1000 % 60) ++
    '.' :: lastDigits 3 (ms % 1000) ++ ['Z'])

/-- A text written after a template, in which `d` stands for a digit. -/
def fits : (template text : List Char) → Bool
  | [], [] => true
  | 'd' :: template, char :: text => char.isDigit && fits template text
  | expected :: template, char :: text => expected == char && fits template text
  | _, _ => false

/-- `/^\d{4}-\d{2}-\d{2}$/`. -/
def DATE_ONLY_PATTERN (text : String) : Bool :=
  fits "dddd-dd-dd".toList text.toList

/-- `/^\d{4}-\d{2}-\d{2}T\d{2}:\d{2}:\d{2}(?:\.\d{1,3})?Z$/`. -/
def ISO_DATE_PATTERN (text : String) : Bool :=
  ["Z", ".dZ", ".ddZ", ".dddZ"].any fun fraction =>
    fits ("dddd-dd-ddTdd:dd:dd".toList ++ fraction.toList) text.toList

def numberOf (digits : List Char) : Nat :=
  digits.foldl (fun number digit => 10 * number + (digit.toNat - '0'.toNat)) 0

variable (iso : List Char)

/-- The three digits of the milliseconds of an ISO text, completed with zeros:
`fraction.padEnd(3, '0')`. -/
def millisOf : List Char :=
  ((iso.drop 20).dropLast ++ ['0', '0', '0']).take 3

/-- `new Date(iso).getTime()` of a text of ISO shape; none is an invalid date. -/
def dateFromIso : Option Instant :=
  let number := fun start width => numberOf ((iso.drop start).take width)
  let date : CivilDate := ⟨number 0 4, number 5 2, number 8 2⟩
  let hours := number 11 2
  let minutes := number 14 2
  let seconds := number 17 2
  let millis := numberOf (millisOf iso)
  if date.month < 1 || 12 < date.month || date.day < 1 || 31 < date.day then none
  else if 24 < hours || 59 < minutes || 59 < seconds then none
  else if hours == 24 && (minutes != 0 || seconds != 0 || millis != 0) then none
  else some (dayOfCivil date * msPerDay +
    (hours * 3600000 + minutes * 60000 + seconds * 1000 + millis : Nat))

/-- The text with its fraction completed to milliseconds: the `.000` of a text without one,
the padded digits of a text with one. -/
def withMillis : List Char :=
  iso.take 19 ++ '.' :: millisOf iso ++ ['Z']

/-- The date `iso` names, if `toISOString` writes it as the normalized input: `Date` has not
shifted the calendar date. -/
def preservedDate (iso normalizedInput : List Char) : Option Instant :=
  (dateFromIso iso).filter fun date => (toISOString date).toList == normalizedInput

/-- A date as the imports accept it: a day, or an instant with up to three digits of
milliseconds. -/
def parseIsoDate (raw : String) : Option Instant :=
  if DATE_ONLY_PATTERN raw then
    preservedDate (raw.toList ++ "T00:00:00.000Z".toList) (raw.toList ++ "T00:00:00.000Z".toList)
  else if ISO_DATE_PATTERN raw then preservedDate raw.toList (withMillis raw.toList)
  else none

example : parseIsoDate "2026-09-01" = some 1788220800000 := by decide +kernel

example : parseIsoDate "2026-02-30" = none := by decide +kernel

/-- The shape of an instant with a year of four digits. -/
def isoShape : List Char := "dddd-dd-ddTdd:dd:dd.dddZ".toList

section

variable {template text : List Char}

theorem fits_cons {expected : Char} : fits (expected :: template) text ↔
      ∃ char rest, text = char :: rest ∧
        (if expected = 'd' then char.isDigit = true else expected = char) ∧ fits template rest := by
  cases text with
  | nil => simp [fits]
  | cons char rest =>
    by_cases digit : expected = 'd'
    · subst digit
      simp [fits]
    · simp [fits, digit]

/-- A text that fits two templates in a row is two texts in a row. -/
theorem fits_append {first second text : List Char} : fits (first ++ second) text ↔
      ∃ front back, text = front ++ back ∧ fits first front ∧ fits second back := by
  induction first generalizing text with
  | nil =>
    constructor
    · exact fun fit => ⟨[], text, rfl, rfl, fit⟩
    · rintro ⟨front, back, rfl, empty, fit⟩
      cases front with
      | nil => exact fit
      | cons char rest => cases empty
  | cons expected template ih =>
    rw [List.cons_append, fits_cons]
    constructor
    · rintro ⟨char, rest, rfl, here, fit⟩
      obtain ⟨front, back, rfl, left, right⟩ := ih.1 fit
      exact ⟨char :: front, back, rfl, fits_cons.2 ⟨char, front, rfl, here, left⟩, right⟩
    · rintro ⟨front, back, rfl, left, right⟩
      obtain ⟨char, rest, rfl, here, fit⟩ := fits_cons.1 left
      exact ⟨char, rest ++ back, rfl, here, ih.2 ⟨rest, back, rfl, fit, right⟩⟩

theorem length_of_fits (fit : fits template text) : text.length = template.length := by
  induction template generalizing text with
  | nil => cases text with
    | nil => rfl
    | cons char rest => cases fit
  | cons expected template ih =>
    obtain ⟨char, rest, rfl, -, fit⟩ := fits_cons.1 fit
    rw [List.length_cons, List.length_cons, ih fit]

theorem notMem_of_fits {other : Char} (fit : fits template text) (noDigit : other.isDigit = false)
    (absent : other ∉ template) : other ∉ text := by
  induction template generalizing text with
  | nil => cases text with
    | nil => exact List.not_mem_nil
    | cons char rest => cases fit
  | cons expected template ih =>
    obtain ⟨char, rest, rfl, here, fit⟩ := fits_cons.1 fit
    rw [List.mem_cons, not_or] at absent ⊢
    refine ⟨fun same => ?_, ih fit absent.2⟩
    subst same
    split at here
    · rw [noDigit] at here
      cases here
    · exact absent.1 here.symm

@[simp] theorem fits_nil {text : List Char} : fits [] text ↔ text = [] := by
  cases text <;> simp [fits]

theorem length_millisOf : (millisOf iso).length = 3 := by
  simp [millisOf]

/-- The digits of the milliseconds are digits whatever the fraction. -/
theorem fits_millisOf {fraction front back : List Char}
    (listed : fraction ∈ ["Z".toList, ".dZ".toList, ".ddZ".toList, ".dddZ".toList])
    (long : front.length = 19) (fit : fits fraction back) :
    fits "ddd".toList (millisOf (front ++ back)) := by
  have dropped : (front ++ back).drop 20 = back.drop 1 := by
    rw [List.drop_append, List.drop_eq_nil_of_le (by omega), long]
    rfl
  rw [millisOf, dropped]
  have zero : '0'.isDigit = true := rfl
  simp only [List.mem_cons, List.not_mem_nil, or_false] at listed
  rcases listed with rfl | rfl | rfl | rfl <;> simp [fits_cons] at fit
  · subst fit
    rfl
  · obtain ⟨first, rfl, digit⟩ := fit
    simp [fits_cons, digit, zero]
  · obtain ⟨first, second, rfl, digits⟩ := fit
    simp [fits_cons, digits, zero]
  · obtain ⟨first, second, third, rfl, digits⟩ := fit
    simp [fits_cons, digits]

/-- A text with its milliseconds completed has the ISO shape. -/
theorem fits_withMillis {raw : String} (shaped : ISO_DATE_PATTERN raw) :
    fits isoShape (withMillis raw.toList) := by
  simp only [ISO_DATE_PATTERN, List.any_eq_true] at shaped
  obtain ⟨fraction, listed, fit⟩ := shaped
  obtain ⟨front, back, split, dateTime, tail⟩ := fits_append.1 fit
  have long : front.length = 19 := length_of_fits dateTime
  have digits : fits "ddd".toList (millisOf raw.toList) := by
    rw [split]
    have listedText : fraction.toList ∈
        ["Z", ".dZ", ".ddZ", ".dddZ"].map String.toList := List.mem_map_of_mem listed
    exact fits_millisOf listedText long tail
  have taken : raw.toList.take 19 = front := by
    rw [split, List.take_append_of_le_length long.ge, List.take_of_length_le long.le]
  rw [withMillis, taken]
  have shape : isoShape = "dddd-dd-ddTdd:dd:dd".toList ++ (".ddd".toList ++ "Z".toList) := rfl
  rw [shape, List.append_assoc, fits_append]
  refine ⟨front, _, rfl, dateTime, ?_⟩
  rw [fits_append]
  refine ⟨'.' :: millisOf raw.toList, ['Z'], rfl, ?_, rfl⟩
  exact fits_cons.2 ⟨'.', _, rfl, rfl, digits⟩

/-- Completing the milliseconds names the same instant. -/
theorem dateFromIso_withMillis {iso : List Char} (long : 19 ≤ iso.length) :
    dateFromIso (withMillis iso) = dateFromIso iso := by
  have front : (iso.take 19).length = 19 := by simp [long]
  have dropped : (withMillis iso).drop 20 = millisOf iso ++ ['Z'] := by
    rw [withMillis, List.append_assoc, List.drop_append, List.drop_eq_nil_of_le (by omega), front]
    rfl
  have millis : millisOf (withMillis iso) = millisOf iso := by
    have exact := length_millisOf iso
    rw [millisOf, dropped, List.dropLast_concat, List.take_append_of_le_length exact.ge,
      List.take_of_length_le exact.le]
  have field : ∀ start width, start + width ≤ 19 →
      ((withMillis iso).drop start).take width = (iso.drop start).take width := by
    intro start width inside
    have taken : (withMillis iso).take 19 = iso.take 19 := by
      rw [withMillis, List.append_assoc, List.take_append_of_le_length front.ge,
        List.take_of_length_le front.le]
    have both := congrArg (fun text => (text.drop start).take width) taken
    simp only [List.drop_take, List.take_take] at both
    rwa [min_eq_left (by omega)] at both
  simp only [dateFromIso, millis, field 0 4 (by omega), field 5 2 (by omega),
    field 8 2 (by omega), field 11 2 (by omega), field 14 2 (by omega), field 17 2 (by omega)]

variable {instant : Instant}

theorem preservedDate_some {iso normalizedInput : List Char} :
    preservedDate iso normalizedInput = some instant ↔
      dateFromIso iso = some instant ∧ (toISOString instant).toList = normalizedInput := by
  rw [preservedDate, Option.filter_eq_some_iff, beq_iff_eq]

/-- What an accepted date's `toISOString` is: a text of ISO shape that names the date. -/
theorem parseIsoDate_iso {raw : String} (accepted : parseIsoDate raw = some instant) :
    fits isoShape (toISOString instant).toList ∧
      dateFromIso (toISOString instant).toList = some instant := by
  unfold parseIsoDate at accepted
  split at accepted
  next dateOnly =>
    obtain ⟨parsed, same⟩ := preservedDate_some.1 accepted
    have shape : isoShape = "dddd-dd-dd".toList ++ "Tdd:dd:dd.dddZ".toList := rfl
    rw [same]
    exact ⟨shape ▸ fits_append.2 ⟨_, _, rfl, dateOnly, rfl⟩, parsed⟩
  · split at accepted
    next shaped =>
      obtain ⟨parsed, same⟩ := preservedDate_some.1 accepted
      have fit := fits_withMillis shaped
      have long : 19 ≤ raw.toList.length := by
        have exact := length_of_fits fit
        simp only [withMillis, List.length_append, List.length_cons, length_millisOf,
          List.length_take, List.length_nil] at exact
        have whole : isoShape.length = 24 := rfl
        omega
      rw [same]
      exact ⟨fit, (dateFromIso_withMillis long).trans parsed⟩
    · cases accepted

theorem parseIsoDate_of_shape (fit : fits isoShape (toISOString instant).toList)
    (named : dateFromIso (toISOString instant).toList = some instant) :
    parseIsoDate (toISOString instant) = some instant := by
  have notDay : DATE_ONLY_PATTERN (toISOString instant) = false := by
    rw [DATE_ONLY_PATTERN, Bool.eq_false_iff]
    intro day
    have short := length_of_fits day
    rw [length_of_fits fit] at short
    exact absurd short (by decide)
  have shaped : ISO_DATE_PATTERN (toISOString instant) = true := by
    simp only [ISO_DATE_PATTERN, List.any_eq_true]
    exact ⟨".dddZ", by simp, fit⟩
  have complete : withMillis (toISOString instant).toList = (toISOString instant).toList := by
    have shape : isoShape = "dddd-dd-ddTdd:dd:dd".toList ++ (".ddd".toList ++ "Z".toList) := rfl
    rw [shape] at fit
    obtain ⟨front, back, whole, dateTime, tail⟩ := fits_append.1 fit
    have long : front.length = 19 := length_of_fits dateTime
    simp [fits_cons] at tail
    obtain ⟨first, second, third, rfl, -⟩ := tail
    have dropped : (front ++ ['.', first, second, third, 'Z']).drop 20 =
        [first, second, third, 'Z'] := by
      rw [List.drop_append, List.drop_eq_nil_of_le (by omega), long]
      rfl
    rw [whole, withMillis, millisOf, dropped, List.take_append_of_le_length long.ge,
      List.take_of_length_le long.le]
    simp
  rw [parseIsoDate, notDay, if_neg Bool.false_ne_true, if_pos shaped, complete]
  exact preservedDate_some.2 ⟨named, rfl⟩

end

variable (width number : Nat)

section

theorem yearOfEra_bounds {dayOfEra yearOfEra : Int} (start : 0 ≤ dayOfEra)
    (stop : dayOfEra < 146097)
    (year : yearOfEra = (dayOfEra - dayOfEra / 1460 + dayOfEra / 36524 - dayOfEra / 146096) / 365) :
    (0 ≤ yearOfEra ∧ yearOfEra ≤ 399) ∧
      0 ≤ dayOfEra - (365 * yearOfEra + yearOfEra / 4 - yearOfEra / 100) ∧
      dayOfEra - (365 * yearOfEra + yearOfEra / 4 - yearOfEra / 100) ≤ 365 := by
  refine ⟨by omega, ?_⟩
  generalize century : dayOfEra / 36524 = centuries at year
  generalize last : dayOfEra / 146096 = final at year
  have cases : (final = 0 ∧ (centuries = 0 ∨ centuries = 1 ∨ centuries = 2 ∨ centuries = 3)) ∨
      (final = 1 ∧ dayOfEra = 146096) := by omega
  rcases cases with ⟨rfl, which⟩ | ⟨rfl, rfl⟩
  · have hundreds : yearOfEra / 100 = centuries := by
      rcases which with rfl | rfl | rfl | rfl <;> omega
    omega
  · omega

theorem civilOfDay_bounds : (1 ≤ (civilOfDay day).month ∧ (civilOfDay day).month ≤ 12) ∧
      1 ≤ (civilOfDay day).day ∧ (civilOfDay day).day ≤ 31 := by
  have shape : ∀ shifted : Int, ∀ dayOfEra yearOfEra dayOfYear month civilMonth,
      dayOfEra = shifted - shifted / 146097 * 146097 →
      yearOfEra = (dayOfEra - dayOfEra / 1460 + dayOfEra / 36524 - dayOfEra / 146096) / 365 →
      dayOfYear = dayOfEra - (365 * yearOfEra + yearOfEra / 4 - yearOfEra / 100) →
      month = (5 * dayOfYear + 2) / 153 →
      civilMonth = (if month < 10 then month + 3 else month - 9) →
      (1 ≤ civilMonth ∧ civilMonth ≤ 12) ∧ 1 ≤ dayOfYear - (153 * month + 2) / 5 + 1 ∧
        dayOfYear - (153 * month + 2) / 5 + 1 ≤ 31 := by
    intro shifted dayOfEra yearOfEra dayOfYear month civilMonth era year ofYear ofMonth ofCivil
    obtain ⟨-, low, high⟩ := yearOfEra_bounds (by omega) (by omega) year
    rw [← ofYear] at low high
    clear year ofYear era
    split at ofCivil <;> omega
  exact shape _ _ _ _ _ _ rfl rfl rfl rfl rfl

theorem dayOfCivil_civilOfDay : dayOfCivil (civilOfDay day) = day := by
  have shape : ∀ day : Int, ∀ era dayOfEra yearOfEra dayOfYear month civilMonth civilDay year : Int,
      era = (day + 719468) / 146097 →
      dayOfEra = day + 719468 - era * 146097 →
      yearOfEra = (dayOfEra - dayOfEra / 1460 + dayOfEra / 36524 - dayOfEra / 146096) / 365 →
      dayOfYear = dayOfEra - (365 * yearOfEra + yearOfEra / 4 - yearOfEra / 100) →
      month = (5 * dayOfYear + 2) / 153 →
      civilMonth = (if month < 10 then month + 3 else month - 9) →
      civilDay = dayOfYear - (153 * month + 2) / 5 + 1 →
      year = yearOfEra + era * 400 + (if civilMonth ≤ 2 then 1 else 0) →
      dayOfCivil ⟨year, civilMonth, civilDay⟩ = day := by
    intro day era dayOfEra yearOfEra dayOfYear month civilMonth civilDay year
      ofEra ofDay ofYearOfEra ofYear ofMonth ofCivilMonth ofCivilDay ofCivilYear
    obtain ⟨⟨yearLow, yearHigh⟩, low, high⟩ := yearOfEra_bounds (by omega) (by omega) ofYearOfEra
    have fromMarch : (if civilMonth ≤ 2 then year - 1 else year) = yearOfEra + era * 400 := by
      split at ofCivilYear <;> simp_all
    have marchMonth : (if 2 < civilMonth then civilMonth - 3 else civilMonth + 9) = month := by
      split at ofCivilMonth <;> split <;> omega
    have sameEra : (yearOfEra + era * 400) / 400 = era := by omega
    simp only [dayOfCivil, fromMarch, marchMonth, sameEra]
    have back : yearOfEra + era * 400 - era * 400 = yearOfEra := by omega
    rw [back, ofCivilDay]
    clear ofYearOfEra ofMonth marchMonth fromMarch
    change @Eq Int _ _
    omega
  exact shape day _ _ _ _ _ _ _ _ rfl rfl rfl rfl rfl rfl rfl rfl

theorem dayOfCivil_later {date later : CivilDate} (isLater : date.year < later.year)
    (month : date.month = later.month) (day : date.day = later.day) :
    (dayOfCivil date : Int) + 365 ≤ dayOfCivil later := by
  unfold dayOfCivil
  dsimp only
  change @LE.le Int _ _ _
  split <;> omega

theorem eq_of_sameDay {date other : Int} (near : date - other < 365 ∧ other - date < 365)
    (month : (civilOfDay date).month = (civilOfDay other).month)
    (day : (civilOfDay date).day = (civilOfDay other).day) : date = other := by
  rcases lt_trichotomy (civilOfDay date).year (civilOfDay other).year with isLater | year | isLater
  · have later : date + 365 ≤ other := by
      simpa only [dayOfCivil_civilOfDay] using dayOfCivil_later isLater month day
    omega
  · rw [← dayOfCivil_civilOfDay date, ← dayOfCivil_civilOfDay other]
    generalize civilOfDay date = civil, civilOfDay other = civil' at month day year
    cases civil
    cases civil'
    simp_all
  · have later : other + 365 ≤ date := by
      simpa only [dayOfCivil_civilOfDay] using dayOfCivil_later isLater month.symm day.symm
    omega

theorem numberOf_concat (digits : List Char) (digit : Char) :
    numberOf (digits ++ [digit]) = 10 * numberOf digits + (digit.toNat - '0'.toNat) := by
  rw [numberOf, List.foldl_append]
  rfl

theorem numberOf_toDigits (number : Nat) : numberOf (Nat.toDigits 10 number) = number := by
  have folded : numberOf (Nat.toDigits 10 number) =
      Nat.ofDigitChars 10 (Nat.toDigits 10 number) 0 := rfl
  rw [folded, Nat.ofDigitChars_ten_toDigits]

theorem numberOf_lastDigits : numberOf (lastDigits width number) = number % 10 ^ width := by
  induction width generalizing number with
  | zero => simp [lastDigits, numberOf, Nat.mod_one]
  | succ width ih =>
    have digit : (Nat.digitChar (number % 10)).toNat - '0'.toNat = number % 10 := by
      have small : ∀ digit < 10, (Nat.digitChar digit).toNat - '0'.toNat = digit := by decide
      exact small _ (Nat.mod_lt _ (by decide))
    rw [lastDigits, numberOf_concat, ih, digit, Nat.pow_succ', Nat.mod_mul]
    omega

/-- The instants whose year `toISOString` writes with four digits. -/
def FourDigitYear (instant : Instant) : Prop :=
  0 ≤ (civilOfDay (instant / msPerDay)).year ∧ (civilOfDay (instant / msPerDay)).year ≤ 9999

variable {instant : Instant}

/-- `new Date(date.toISOString())` is the date, in the years written with four digits. -/
theorem dateFromIso_toISOString (fourDigits : FourDigitYear instant) :
    dateFromIso (toISOString instant).toList = some instant := by
  unfold FourDigitYear at fourDigits
  generalize civil : civilOfDay (instant / msPerDay) = date at fourDigits
  generalize time : (instant % msPerDay).toNat = ms
  have bounds := civilOfDay_bounds (instant / msPerDay)
  rw [civil] at bounds
  have day := dayOfCivil_civilOfDay (instant / msPerDay)
  rw [civil] at day
  have inDay : ms < 86400000 := by
    have positive : ∀ x : Int, (x % msPerDay).toNat < 86400000 := by
      intro x
      simp only [msPerDay, msPerMinute]
      omega
    exact time ▸ positive instant
  have text : (toISOString instant).toList = lastDigits 4 date.year.toNat ++
      '-' :: lastDigits 2 date.month.toNat ++ '-' :: lastDigits 2 date.day.toNat ++
      'T' :: lastDigits 2 (ms / 3600000) ++ ':' :: lastDigits 2 (ms / 60000 % 60) ++
      ':' :: lastDigits 2 (ms / 1000 % 60) ++ '.' :: lastDigits 3 (ms % 1000) ++ ['Z'] := by
    rw [toISOString, civil, time, String.toList_ofList, isoYear, if_pos fourDigits]
  have year : ((toISOString instant).toList.drop 0).take 4 = lastDigits 4 date.year.toNat := by
    rw [text]
    rfl
  have month : ((toISOString instant).toList.drop 5).take 2 = lastDigits 2 date.month.toNat := by
    rw [text]
    rfl
  have dayField : ((toISOString instant).toList.drop 8).take 2 = lastDigits 2 date.day.toNat := by
    rw [text]
    rfl
  have hours : ((toISOString instant).toList.drop 11).take 2 = lastDigits 2 (ms / 3600000) := by
    rw [text]
    rfl
  have minutes : ((toISOString instant).toList.drop 14).take 2 =
      lastDigits 2 (ms / 60000 % 60) := by
    rw [text]
    rfl
  have seconds : ((toISOString instant).toList.drop 17).take 2 = lastDigits 2 (ms / 1000 % 60) := by
    rw [text]
    rfl
  have millis : millisOf (toISOString instant).toList = lastDigits 3 (ms % 1000) := by
    rw [text]
    rfl
  have whole : instant / msPerDay * msPerDay + (ms : Int) = instant := by
    have split : ∀ x : Int, x / msPerDay * msPerDay + ((x % msPerDay).toNat : Int) = x := by
      intro x
      simp only [msPerDay, msPerMinute]
      omega
    exact time ▸ split instant
  have hour : ms / 3600000 % 100 = ms / 3600000 := by omega
  have minute : ms / 60000 % 60 % 100 = ms / 60000 % 60 := by omega
  have second : ms / 1000 % 60 % 100 = ms / 1000 % 60 := by omega
  have milli : ms % 1000 % 1000 = ms % 1000 := by omega
  have yearNumber : ((date.year.toNat % 10000 : Nat) : Int) = date.year := by omega
  have monthNumber : ((date.month.toNat % 100 : Nat) : Int) = date.month := by omega
  have dayNumber : ((date.day.toNat % 100 : Nat) : Int) = date.day := by omega
  have named : (⟨date.year, date.month, date.day⟩ : CivilDate) = date := rfl
  have monthInside : (decide (date.month < 1) || decide (12 < date.month) ||
      decide (date.day < 1) || decide (31 < date.day)) = false := by
    simp only [Bool.or_eq_false_iff, decide_eq_false_iff_not]
    omega
  have hoursInside : (decide (24 < ms / 3600000) || decide (59 < ms / 60000 % 60) ||
      decide (59 < ms / 1000 % 60)) = false := by
    simp only [Bool.or_eq_false_iff, decide_eq_false_iff_not]
    omega
  have notMidnight : (ms / 3600000 == 24) = false := by
    rw [beq_eq_false_iff_ne]
    omega
  have sum : ms / 3600000 * 3600000 + ms / 60000 % 60 * 60000 + ms / 1000 % 60 * 1000 +
      ms % 1000 = ms := by omega
  simp only [dateFromIso, year, month, dayField, hours, minutes, seconds, millis,
    numberOf_lastDigits, Nat.reducePow, hour, minute, second, milli, yearNumber, monthNumber,
    dayNumber, monthInside, hoursInside, notMidnight, named, day, sum, whole, Bool.false_and,
    Bool.false_eq_true, if_false]

theorem length_lastDigits : (lastDigits width number).length = width := by
  induction width generalizing number with
  | zero => rfl
  | succ width ih => rw [lastDigits, List.length_append, ih, List.length_singleton]

theorem fits_lastDigits : fits (List.replicate width 'd') (lastDigits width number) := by
  induction width generalizing number with
  | zero => rfl
  | succ width ih =>
    have digit : ∀ digit < 10, (Nat.digitChar digit).isDigit = true := by decide
    rw [List.replicate_succ', lastDigits, fits_append]
    exact ⟨_, _, rfl, ih _, fits_cons.2 ⟨_, _, rfl, digit _ (Nat.mod_lt _ (by decide)), rfl⟩⟩

theorem isoShape_eq : isoShape = List.replicate 4 'd' ++ '-' :: List.replicate 2 'd' ++
    '-' :: List.replicate 2 'd' ++ 'T' :: List.replicate 2 'd' ++ ':' :: List.replicate 2 'd' ++
    ':' :: List.replicate 2 'd' ++ '.' :: List.replicate 3 'd' ++ ['Z'] :=
  rfl

theorem fits_number {template text : List Char} (fit : fits template text) {separator : Char}
    (literal : separator ≠ 'd') (width number : Nat) :
    fits (template ++ separator :: List.replicate width 'd')
      (text ++ separator :: lastDigits width number) := by
  refine fits_append.2 ⟨_, _, rfl, fit, fits_cons.2 ⟨_, _, rfl, ?_, fits_lastDigits width number⟩⟩
  rw [if_neg literal]

theorem fits_toISOString (fourDigits : FourDigitYear instant) :
    fits isoShape (toISOString instant).toList := by
  unfold FourDigitYear at fourDigits
  rw [toISOString, String.toList_ofList, isoYear, if_pos fourDigits, isoShape_eq]
  refine fits_append.2 ⟨_, _, rfl, ?_, rfl⟩
  iterate 6 refine fits_number ?_ (by decide) _ _
  exact fits_lastDigits 4 _

/-- Exactly the dates of these years are read back from what `toISOString` writes. -/
theorem parseIsoDate_toISOString_iff :
    parseIsoDate (toISOString instant) = some instant ↔ FourDigitYear instant := by
  constructor
  · intro parsed
    by_contra otherYear
    have long := length_of_fits (parseIsoDate_iso parsed).1
    unfold FourDigitYear at otherYear
    rw [toISOString, String.toList_ofList, isoYear, if_neg otherYear] at long
    have whole : isoShape.length = 24 := rfl
    simp only [whole, List.length_append, List.length_cons, length_lastDigits, List.length_nil]
      at long
    omega
  · exact fun fourDigits => parseIsoDate_of_shape (fits_toISOString fourDigits)
      (dateFromIso_toISOString fourDigits)

end

end Sokar
