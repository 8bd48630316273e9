import Mathlib.Data.List.Sort
import Sokar.Shared.Text
import Sokar.Store.Rows

/-!
# The services of a week

Opening hours are stored as a JSON value, by the day or as a list of schema.org entries.  A service
that goes on after midnight becomes two periods.  The slots of a period follow its opening step by
step.
-/

namespace Sokar

def DAY_TO_INDEX : List (String × Nat) :=
  [("sunday", 0), ("sun", 0), ("monday", 1), ("mon", 1), ("tuesday", 2), ("tue", 2),
    ("wednesday", 3), ("wed", 3), ("thursday", 4), ("thu", 4), ("friday", 5), ("fri", 5),
    ("saturday", 6), ("sat", 6)]

/-- The properties that objects inherit are no days. -/
def dayIndexOf (name : String) : Option Nat :=
  DAY_TO_INDEX.lookup (asciiLowerCase name)

namespace Json

/-- What a condition takes for true. -/
def isTruthy : Json → Bool
  | .null => false
  | .bool value => value
  | .num value => value != 0
  | .str text => text != ""
  | .arr _ | .obj _ => true

/-- A property that is neither absent nor null. -/
def present? (value : Json) (name : String) : Option Json :=
  (value.field? name).filter fun
    | .null => false
    | _ => true

/-- What a pattern for times is matched with: a string, also as the only element of an array.  No
other value is written as a time. -/
def timeText : Json → String
  | .str text => text
  | .arr [element] => element.timeText
  | _ => ""

end Json

/-- A service as it is read, with the last booking as it stands there. -/
structure Service where
  dayIndex : Nat
  opens : String
  closes : String
  rawLastBooking : Option Json

namespace Service

variable (service : Service)

/-- A malformed last booking is ignored. -/
def lastBooking : Option String :=
  match service.rawLastBooking with
  | some (.str text) => if (parseTime text).isSome then some text else none
  | _ => none

/-- `normalizePeriod`: a closing before 06:00 belongs to the following day, and so does a last
booking before the opening. -/
def normalizePeriod : List OpeningPeriod :=
  match parseTime service.opens, parseTime service.closes with
  | some openTime, some closeTime =>
    let { dayIndex, opens, closes, .. } := service
    let lastBooking := service.lastBooking
    if openTime < closeTime then
      [{ dayIndex, opens, closes, lastBooking := lastBooking.map some }]
    else if closeTime < openTime ∧ closeTime ≤ 6 * 60 then
      let afterMidnight := (lastBooking.bind parseTime).any fun last => decide (last < openTime)
      { dayIndex, opens, closes := "24:00"
        lastBooking := if afterMidnight then none else lastBooking.map some } ::
        if 0 < closeTime then
          [{ dayIndex := (dayIndex + 1) % 7, opens := "00:00", closes
             lastBooking := lastBooking.map fun last => if afterMidnight then some last else none }]
        else []
    else []
  | _, _ => []

end Service

/-- The service of two times that are given. -/
def serviceOf (dayIndex : Nat) (opens closes rawLastBooking : Option Json) : Option Service :=
  match opens.filter (·.isTruthy), closes.filter (·.isTruthy) with
  | some opens, some closes =>
    some { dayIndex, opens := opens.timeText, closes := closes.timeText, rawLastBooking }
  | _, _ => none

/-- A schema.org entry.  The null value has no properties, and only strings have a lower case; both
are errors. -/
def entryServices (entry : Json) : Option (List Service) :=
  match entry with
  | .null => none
  | entry =>
    match entry.present? "dayOfWeek" with
    | none => some []
    | some (.str dayOfWeek) =>
      some <| match dayIndexOf dayOfWeek with
        | none => []
        | some dayIndex =>
          (serviceOf dayIndex (entry.field? "opens") (entry.field? "closes") none).toList
    | some _ => none

/-- The services of a day: the listed ones if any of them is well formed, else the day as a whole.
-/
def dayServices (dayIndex : Nat) (day : Json) : List Service :=
  let periods : Option Json :=
    match day.field? "slots" with
    | some (.arr (first :: rest)) => some (.arr (first :: rest))
    | _ => day.field? "services"
  let listed :=
    match periods with
    | some (.arr services) => services.filterMap fun service =>
      serviceOf dayIndex (service.field? "open") (service.field? "close")
        (service.field? "lastBooking")
    | _ => []
  if (listed.flatMap Service.normalizePeriod).isEmpty then
    (serviceOf dayIndex ((day.present? "open").or (day.field? "opens"))
      ((day.present? "close").or (day.field? "closes")) (day.field? "lastBooking")).toList
  else listed

/-- The services of a value, unless reading it is an error. -/
def servicesOf : Json → Option (List Service)
  | .arr entries => (entries.mapM entryServices).map List.flatten
  | .obj days => some <| days.flatMap fun (name, day) =>
    match dayIndexOf name with
    | none => []
    | some dayIndex => dayServices dayIndex day
  | _ => some []

section

variable [Icu]

/-- Entries are sorted by their day, the services of days also by their opening. -/
def periodOrder (raw : Json) (left right : OpeningPeriod) : Bool :=
  match raw with
  | .arr _ => decide (left.dayIndex ≤ right.dayIndex)
  | _ =>
    decide (left.dayIndex < right.dayIndex) ||
      left.dayIndex == right.dayIndex && (Icu.localeCompare left.opens right.opens).isLE

def normalizeOpeningHours (raw : Json) : Option (List OpeningPeriod) :=
  (servicesOf raw).map fun services =>
    (services.flatMap Service.normalizePeriod).insertionSort fun left right =>
      periodOrder raw left right = true

end

namespace OpeningPeriod

variable (period : OpeningPeriod)

def closing? : Option Nat :=
  if period.closes == "24:00" then some (24 * 60) else parseTime period.closes

/-- The last booking of a period that has one. -/
def last? : Option Nat :=
  period.lastBooking.join.bind parseTime

/-- Whether the loop goes on at a minute. -/
def fits (closing stepMinutes current : Nat) : Bool :=
  match period.last? with
  | none => decide (current + stepMinutes ≤ closing)
  | some last => decide (current ≤ last) && decide (current < closing)

variable {period} {closing stepMinutes : Nat}

theorem lt_of_fits (isPositive : 0 < stepMinutes) {current : Nat}
    (fits : period.fits closing stepMinutes current = true) : current < closing := by
  unfold OpeningPeriod.fits at fits
  split at fits
  · have ends := of_decide_eq_true fits
    omega
  · exact of_decide_eq_true (Bool.and_eq_true_iff.1 fits).2

theorem fits_of_le {earlier current : Nat} (before : earlier ≤ current)
    (fits : period.fits closing stepMinutes current = true) :
    period.fits closing stepMinutes earlier = true := by
  unfold OpeningPeriod.fits at fits ⊢
  split at fits
  · have ends := of_decide_eq_true fits
    exact decide_eq_true (by omega)
  · obtain ⟨isBooked, isOpen⟩ := Bool.and_eq_true_iff.1 fits
    have booked := of_decide_eq_true isBooked
    have open_ := of_decide_eq_true isOpen
    simp only [Bool.and_eq_true, decide_eq_true_eq]
    omega

end OpeningPeriod

inductive SlotLoop (fits : Nat → Bool) (stepMinutes : Nat) : Nat → List Nat → Prop
  | breaks {current : Nat} (past : fits current = false) : SlotLoop fits stepMinutes current []
  | pushes {current : Nat} {later : List Nat} (fit : fits current = true)
      (rest : SlotLoop fits stepMinutes (current + stepMinutes) later) :
        SlotLoop fits stepMinutes current (current :: later)

namespace SlotLoop

variable {fits : Nat → Bool} {stepMinutes current : Nat} {minutes : List Nat}

theorem step (loop : SlotLoop fits stepMinutes current minutes) :
    ∀ minute ∈ minutes, fits minute = true ∧ ∃ index, minute = current + index * stepMinutes := by
  induction loop with
  | breaks => exact fun minute isMinute => by cases isMinute
  | @pushes current later fit _ ih =>
    intro minute isMinute
    rcases List.mem_cons.1 isMinute with rfl | isLater
    · exact ⟨fit, 0, by omega⟩
    · obtain ⟨fitLater, index, rfl⟩ := ih minute isLater
      exact ⟨fitLater, index + 1, by ring⟩

theorem increasing (isPositive : 0 < stepMinutes) (loop : SlotLoop fits stepMinutes current minutes) :
    minutes.Pairwise (· < ·) := by
  induction loop with
  | breaks => exact List.Pairwise.nil
  | pushes _ rest ih =>
    refine List.pairwise_cons.2 ⟨fun minute isLater => ?_, ih⟩
    obtain ⟨-, index, rfl⟩ := rest.step minute isLater
    omega

theorem mem_of_fits (antitone : ∀ earlier later, earlier ≤ later → fits later = true →
      fits earlier = true)
    (loop : SlotLoop fits stepMinutes current minutes) (index : Nat)
    (fit : fits (current + index * stepMinutes) = true) :
    current + index * stepMinutes ∈ minutes := by
  induction loop generalizing index with
  | breaks past =>
    have first := antitone _ _ (Nat.le_add_right _ _) fit
    rw [past] at first
    cases first
  | @pushes current later _ _ ih =>
    cases index with
    | zero =>
      rw [Nat.zero_mul, Nat.add_zero]
      exact List.mem_cons_self
    | succ index =>
      have next : current + (index + 1) * stepMinutes =
          current + stepMinutes + index * stepMinutes := by ring
      rw [next] at fit ⊢
      exact List.mem_cons_of_mem _ (ih index fit)

end SlotLoop

def OpeningPeriod.minutes (period : OpeningPeriod) (opening closing stepMinutes : Nat) : List Nat :=
  ((List.range (closing / stepMinutes + 1)).map fun index => opening + index * stepMinutes).takeWhile
    (period.fits closing stepMinutes)

section

variable {period : OpeningPeriod} {opening closing stepMinutes : Nat}

theorem bookingSlotsOf_eq (bookable : period.lastBooking ≠ some none)
    (opens : parseTime period.opens = some opening) (closes : period.closing? = some closing) :
    bookingSlotsOf period stepMinutes =
      (period.minutes opening closing stepMinutes).map formatTime := by
  unfold bookingSlotsOf
  split
  next noBooking => exact absurd noBooking bookable
  next =>
    simp only [OpeningPeriod.closing?] at closes
    simp only [opens, closes]
    rfl

theorem bookingSlotsOf_of_null (noBooking : period.lastBooking = some none) :
    bookingSlotsOf period stepMinutes = [] := by
  rw [bookingSlotsOf, noBooking]

/-- Once a minute past the candidates does not fit, the loop pushes the candidates that do. -/
theorem slotLoop_range {fits : Nat → Bool} (count : Nat) :
    ∀ first : Nat, fits (opening + (first + count) * stepMinutes) = false →
      SlotLoop fits stepMinutes (opening + first * stepMinutes)
        (((List.range' first count).map fun index => opening + index * stepMinutes).takeWhile fits) := by
  induction count with
  | zero => exact fun first past => .breaks past
  | succ count ih =>
    intro first past
    rw [List.range'_succ, List.map_cons]
    cases fit : fits (opening + first * stepMinutes) with
    | false =>
      rw [List.takeWhile_cons_of_neg (by simp [fit])]
      exact .breaks fit
    | true =>
      rw [List.takeWhile_cons_of_pos fit]
      refine .pushes fit ?_
      have next : opening + first * stepMinutes + stepMinutes =
          opening + (first + 1) * stepMinutes := by ring
      rw [next]
      exact ih (first + 1) (by rwa [Nat.add_right_comm, Nat.add_assoc])

theorem slotLoop_minutes (isPositive : 0 < stepMinutes) :
    SlotLoop (period.fits closing stepMinutes) stepMinutes opening
      (period.minutes opening closing stepMinutes) := by
  have pastClosing : closing < (closing / stepMinutes + 1) * stepMinutes := by
    rw [Nat.add_mul, Nat.one_mul]
    exact Nat.lt_div_mul_add isPositive
  have past : period.fits closing stepMinutes
      (opening + (0 + (closing / stepMinutes + 1)) * stepMinutes) = false := by
    rw [Bool.eq_false_iff]
    intro fit
    have before := OpeningPeriod.lt_of_fits isPositive fit
    rw [Nat.zero_add] at before
    omega
  have loop := slotLoop_range (closing / stepMinutes + 1) 0 past
  rwa [Nat.zero_mul, Nat.add_zero, ← List.range_eq_range'] at loop

end

/-! ## Services and their slots -/

def serviceOrder (openTime minute : Nat) : Nat :=
  if minute < openTime then minute + 24 * 60 else minute

/-- The rule of a period for a minute before its closing: with a last booking it is not later,
without one the slot ends by the closing. -/
def OpeningPeriod.admits (period : OpeningPeriod) (closing stepMinutes minute : Nat) : Bool :=
  match period.lastBooking with
  | none => decide (minute + stepMinutes ≤ closing)
  | some none => false
  | some (some last) => (parseTime last).any fun last => decide (minute ≤ last)

structure Service.HasSlots (service : Service) (period : OpeningPeriod) (stepMinutes : Nat)
    (opening closing : Nat) (minutes : List Nat) : Prop where
  opens : parseTime period.opens = some opening
  closes : period.closing? = some closing
  /-- The loop is not entered for a period that takes no booking. -/
  ends : period.lastBooking = some none ∧ minutes = [] ∨
    SlotLoop (period.fits closing stepMinutes) stepMinutes opening minutes
  slots : bookingSlotsOf period stepMinutes = minutes.map formatTime
  increasing : minutes.Pairwise (· < ·)
  steps : ∀ minute ∈ minutes, ∃ index, minute = opening + index * stepMinutes
  inside : ∀ minute ∈ minutes, opening ≤ minute ∧ minute < closing ∧ minute < 24 * 60
  notLater : ∀ openTime last, parseTime service.opens = some openTime →
    service.lastBooking.bind parseTime = some last →
      ∀ minute ∈ minutes, serviceOrder openTime minute ≤ serviceOrder openTime last
  complete : ∀ index, opening + index * stepMinutes < closing →
    period.admits closing stepMinutes (opening + index * stepMinutes) = true →
      opening + index * stepMinutes ∈ minutes

structure Service.HasPeriod (service : Service) (period : OpeningPeriod)
    (openTime opening closing : Nat) : Prop where
  begins : parseTime service.opens = some openTime
  opens : parseTime period.opens = some opening
  closes : period.closing? = some closing
  closesByMidnight : closing ≤ 24 * 60
  notLater : ∀ last, service.lastBooking.bind parseTime = some last →
    period.lastBooking ≠ some none → ∀ minute, opening ≤ minute → minute < closing →
      (∀ bound, period.last? = some bound → minute ≤ bound) →
        serviceOrder openTime minute ≤ serviceOrder openTime last

variable {period : OpeningPeriod}

theorem closing?_of_parseTime {closing : Nat} (closes : parseTime period.closes = some closing) :
    period.closing? = some closing := by
  have notMidnight : (period.closes == "24:00") = false := by
    rw [beq_eq_false_iff_ne]
    intro midnight
    have noTime : parseTime "24:00" = none := by decide
    rw [midnight, noTime] at closes
    cases closes
  rw [OpeningPeriod.closing?, notMidnight]
  exact closes

theorem parseTime_midnight : parseTime "00:00" = some 0 := by decide

theorem OpeningPeriod.last?_of_kept {lastBooking : Option String}
    (kept : period.lastBooking = lastBooking.map some) :
    period.last? = lastBooking.bind parseTime := by
  rw [OpeningPeriod.last?, kept]
  cases lastBooking <;> rfl

theorem Service.hasPeriod {service : Service} (isPeriod : period ∈ service.normalizePeriod) :
    ∃ openTime opening closing, service.HasPeriod period openTime opening closing := by
  unfold Service.normalizePeriod at isPeriod
  split at isPeriod
  next openTime closeTime opens closes =>
    have closesByMidnight : closeTime ≤ 24 * 60 := (parseTime_lt closes).le
    dsimp only at isPeriod
    split at isPeriod
    next =>
      obtain rfl := List.mem_singleton.1 isPeriod
      refine ⟨openTime, openTime, closeTime, opens, opens, closing?_of_parseTime closes,
        closesByMidnight, ?_⟩
      intro last isLast _ minute begins _ booked
      have bound := booked last ((OpeningPeriod.last?_of_kept rfl).trans isLast)
      grind [serviceOrder]
    next =>
      split at isPeriod
      next overnight =>
        rcases List.mem_cons.1 isPeriod with rfl | isSecond
        · refine ⟨openTime, openTime, 24 * 60, opens, opens, rfl, le_rfl, ?_⟩
          intro last isLast _ minute begins ends booked
          by_cases afterMidnight : last < openTime
          · grind [serviceOrder]
          · have bound := booked last
              ((OpeningPeriod.last?_of_kept (by simp [isLast, afterMidnight])).trans isLast)
            grind [serviceOrder]
        · split at isSecond
          next =>
            obtain rfl := List.mem_singleton.1 isSecond
            refine ⟨openTime, 0, closeTime, opens, parseTime_midnight, closing?_of_parseTime closes,
              closesByMidnight, ?_⟩
            intro last isLast bookable minute _ ends booked
            obtain ⟨text, isText, isTime⟩ := Option.bind_eq_some_iff.1 isLast
            have afterMidnight : last < openTime := by
              by_contra notAfter
              exact bookable (by simp [isText, isTime, notAfter])
            have bound := booked last (by simp [OpeningPeriod.last?, isText, isTime, afterMidnight])
            grind [serviceOrder]
          next => cases isSecond
      next => cases isPeriod
  next => cases isPeriod

theorem OpeningPeriod.fits_of_admits {closing stepMinutes minute : Nat}
    (before : minute < closing) (admits : period.admits closing stepMinutes minute = true) :
    period.fits closing stepMinutes minute = true := by
  unfold OpeningPeriod.admits at admits
  split at admits
  next absent => simpa [OpeningPeriod.fits, OpeningPeriod.last?, absent] using admits
  next => cases admits
  next text isText =>
    obtain ⟨last, isTime, bound⟩ := (Option.any_eq_true _ _).1 admits
    have notAfter := of_decide_eq_true bound
    simp [OpeningPeriod.fits, OpeningPeriod.last?, isText, isTime, notAfter, before]

theorem Service.hasSlots {service : Service} {stepMinutes : Nat} (isPositive : 0 < stepMinutes)
    (isPeriod : period ∈ service.normalizePeriod) :
    ∃ opening closing minutes, service.HasSlots period stepMinutes opening closing minutes := by
  obtain ⟨openTime, opening, closing, stands⟩ := Service.hasPeriod isPeriod
  by_cases bookable : period.lastBooking = some none
  · exact ⟨opening, closing, [],
      { opens := stands.opens
        closes := stands.closes
        ends := .inl ⟨bookable, rfl⟩
        slots := bookingSlotsOf_of_null bookable
        increasing := List.Pairwise.nil
        steps := fun minute isMinute => by cases isMinute
        inside := fun minute isMinute => by cases isMinute
        notLater := fun _ _ _ _ minute isMinute => by cases isMinute
        complete := fun _ _ admits => by simp [OpeningPeriod.admits, bookable] at admits }⟩
  · have loop : SlotLoop (period.fits closing stepMinutes) stepMinutes opening
        (period.minutes opening closing stepMinutes) := slotLoop_minutes isPositive
    have inside : ∀ minute ∈ period.minutes opening closing stepMinutes,
        opening ≤ minute ∧ minute < closing ∧ minute < 24 * 60 := by
      intro minute isMinute
      obtain ⟨fit, index, rfl⟩ := loop.step minute isMinute
      have before := OpeningPeriod.lt_of_fits isPositive fit
      exact ⟨Nat.le_add_right _ _, before, before.trans_le stands.closesByMidnight⟩
    exact ⟨opening, closing, period.minutes opening closing stepMinutes,
      { opens := stands.opens
        closes := stands.closes
        ends := .inr loop
        slots := bookingSlotsOf_eq bookable stands.opens stands.closes
        increasing := loop.increasing isPositive
        steps := fun minute isMinute => (loop.step minute isMinute).2
        inside
        notLater := by
          intro begins last isBegins isLast minute isMinute
          obtain rfl := Option.some.inj (stands.begins.symm.trans isBegins)
          obtain ⟨afterOpening, beforeClosing, -⟩ := inside minute isMinute
          refine stands.notLater last isLast bookable minute afterOpening beforeClosing ?_
          intro bound isBound
          have fit := (loop.step minute isMinute).1
          simp only [OpeningPeriod.fits, isBound, Bool.and_eq_true, decide_eq_true_eq] at fit
          exact fit.1
        complete := fun index before admits =>
          loop.mem_of_fits (fun _ _ => OpeningPeriod.fits_of_le) index
            (OpeningPeriod.fits_of_admits before admits) }⟩

section

variable [Icu]

end

section

attribute [local instance] Icu.utc

/-- From Saturday evening until two, with a last booking at one. -/
def saturdayNight : Json :=
  .obj [("sat", .obj [("open", .str "19:00"), ("close", .str "02:00"), ("lastBooking", .str "01:00")])]

end

end Sokar
