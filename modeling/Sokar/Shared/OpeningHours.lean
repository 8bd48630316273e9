import Sokar.Shared.Time

/-!
# Opening hours and booking slots

The normalised periods of a restaurant's week, and the times at which each period
can be booked.
-/

namespace Sokar

/-- One normalised period, with day 0 a Sunday.  `lastBooking` is absent, null
(the period takes no booking) or the time of the last slot. -/
structure OpeningPeriod where
  dayIndex : Nat
  opens : String
  closes : String
  lastBooking : Option (Option String)
  deriving DecidableEq

def digit? (c : Char) : Option Nat :=
  if c.isDigit then some (c.toNat - '0'.toNat) else none

/-- Minutes from midnight of a time `HH:MM`. -/
def parseTime (value : String) : Option Nat :=
  match value.toList with
  | [h₁, h₂, ':', m₁, m₂] => do
      let hours := (← digit? h₁) * 10 + (← digit? h₂)
      let minutes := (← digit? m₁) * 10 + (← digit? m₂)
      if 23 < hours || 59 < minutes then none else some (hours * 60 + minutes)
  | _ => none

/-- A number written with at least two digits. -/
def padTwo (n : Nat) : String :=
  if n < 10 then "0" ++ toString n else toString n

def formatTime (totalMinutes : Nat) : String :=
  padTwo (totalMinutes / 60) ++ ":" ++ padTwo (totalMinutes % 60)

/-- The hour and the minute a time string names; it is applied to slots, which are
well formed. -/
def clockTime (time : String) : ClockTime :=
  let minutes := (parseTime time).getD 0
  { hour := minutes / 60, minute := minutes % 60 }

theorem parseTime_lt {value : String} {minutes : Nat} (parsed : parseTime value = some minutes) :
    minutes < 24 * 60 := by
  unfold parseTime at parsed
  split at parsed
  · simp only [Option.bind_eq_bind, Option.bind_eq_some_iff] at parsed
    obtain ⟨_, _, _, _, _, _, _, _, bounded⟩ := parsed
    simp only [Bool.or_eq_true, decide_eq_true_eq] at bounded
    split at bounded
    · cases bounded
    · cases bounded
      omega
  · cases parsed

theorem clockTime_ms_bounds (time : String) :
    0 ≤ (clockTime time).ms ∧ (clockTime time).ms < msPerDay := by
  have bounded : (parseTime time).getD 0 < 24 * 60 := by
    cases parsed : parseTime time with
    | none => decide
    | some minutes => exact parseTime_lt parsed
  simp only [clockTime, ClockTime.ms, msPerDay, msPerMinute]
  omega

/-- The booking slots of a period, every `stepMinutes` from the opening on: without
a last booking as long as the slot ends before the closing, with one up to it and
always before the closing. -/
def bookingSlotsOf (period : OpeningPeriod) (stepMinutes : Nat) : List String :=
  match period.lastBooking with
  | some none => []
  | lastBooking =>
    let close? := if period.closes == "24:00" then some (24 * 60) else parseTime period.closes
    match parseTime period.opens, close? with
    | some opens, some closes =>
      let last := lastBooking.join.bind parseTime
      let fits := fun current =>
        match last with
        | none => decide (current + stepMinutes ≤ closes)
        | some last => decide (current ≤ last) && decide (current < closes)
      -- a slot that fits starts before the closing, so this many candidates suffice
      let candidates := (List.range (closes / stepMinutes + 1)).map fun index =>
        opens + index * stepMinutes
      (candidates.takeWhile fits).map formatTime
    | _, _ => []

example : bookingSlotsOf ⟨1, "18:30", "20:00", none⟩ 30 = ["18:30", "19:00", "19:30"] := by decide

end Sokar
