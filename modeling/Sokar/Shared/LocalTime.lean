import Sokar.Library.LocalClock
import Sokar.Shared.Time

/-!
# Local dates and times that come back

A local date and time becomes an instant and is shown again as it was exactly when, at some minute
at which the zone shows it, the offset is the one that is in force when it is read as UTC.  Between
a change of the offset and the local time of that change, which is up to fourteen hours away, the
conversion takes the offset of the wrong side.
-/

namespace Sokar

open LocalClock

/-- A local date and time in minutes, read as UTC. -/
def ZonedParts.minutes (parts : ZonedParts) : Int :=
  parts.date * 1440 + parts.time.hour * 60 + parts.time.minute

def ZonedParts.ofMinutes (minutes : Int) : ZonedParts where
  date := minutes / 1440
  time := { hour := (minutes % 1440).toNat / 60, minute := (minutes % 1440).toNat % 60 }

def ClockTime.Valid (time : ClockTime) : Prop :=
  time.hour < 24 ∧ time.minute < 60

theorem ZonedParts.valid_ofMinutes (minutes : Int) : (ofMinutes minutes).time.Valid := by
  constructor
  · change (minutes % 1440).toNat / 60 < 24
    omega
  · change (minutes % 1440).toNat % 60 < 60
    omega

theorem ZonedParts.minutes_ofMinutes (minutes : Int) : (ofMinutes minutes).minutes = minutes := by
  change minutes / 1440 * 1440 + ((minutes % 1440).toNat / 60 : Nat) * 60 +
    ((minutes % 1440).toNat % 60 : Nat) = minutes
  omega

theorem ZonedParts.ofMinutes_minutes {parts : ZonedParts} (valid : parts.time.Valid) :
    ofMinutes parts.minutes = parts := by
  obtain ⟨date, hour, minute⟩ := parts
  obtain ⟨isHour, isMinute⟩ := valid
  dsimp only at isHour isMinute
  have split : ∀ day : Int, (day * 1440 + hour * 60 + minute) / 1440 = day ∧
      ((day * 1440 + hour * 60 + minute) % 1440).toNat = hour * 60 + minute := by
    intro day
    omega
  obtain ⟨isDate, isTime⟩ := split date
  simp only [ofMinutes, minutes, isDate, isTime, ZonedParts.mk.injEq, ClockTime.mk.injEq, true_and]
  omega

theorem ZonedParts.ofMinutes_eq_iff {parts : ZonedParts} (valid : parts.time.Valid)
    (minutes : Int) : ofMinutes minutes = parts ↔ minutes = parts.minutes := by
  constructor
  · rintro rfl
    exact (minutes_ofMinutes minutes).symm
  · rintro rfl
    exact ofMinutes_minutes valid

section

variable [Icu] {timeZone : String}

def offsetMinutes (timeZone : String) (minute : Int) : Int :=
  Icu.utcOffset timeZone (minute * msPerMinute) / msPerMinute

/-- What is shown is what the clocks of the zone read, to the minute. -/
theorem utcToZonedParts_eq (instant : Instant) : utcToZonedParts instant timeZone =
      .ofMinutes ((instant + Icu.utcOffset timeZone instant) / msPerMinute) := by
  have split : ∀ localMs : Int, localMs / 86400000 = localMs / 60000 / 1440 ∧
      localMs % 86400000 / 60000 = localMs / 60000 % 1440 := by
    intro localMs
    omega
  obtain ⟨isDate, isTime⟩ := split (instant + Icu.utcOffset timeZone instant)
  have isDay : msPerDay = 86400000 := rfl
  have isMinute : msPerMinute = 60000 := rfl
  simp only [utcToZonedParts, ZonedParts.ofMinutes, isDay, isMinute, isDate, isTime]

theorem utcToZonedParts_minute (minute : Int) : utcToZonedParts (minute * msPerMinute) timeZone =
      .ofMinutes (reading (offsetMinutes timeZone) minute) := by
  have split : ∀ offset : Int, (minute * 60000 + offset) / 60000 = minute + offset / 60000 := by
    intro offset
    omega
  rw [utcToZonedParts_eq]
  exact congrArg ZonedParts.ofMinutes (split _)

theorem zonedTimeToUtc_eq (parts : ZonedParts) : zonedTimeToUtc parts.date parts.time timeZone =
      guess (offsetMinutes timeZone) parts.minutes * msPerMinute := by
  have isNaive : parts.date * msPerDay + parts.time.ms = parts.minutes * msPerMinute := by
    have split : ∀ day hour minute : Int, day * 86400000 + (hour * 60 + minute) * 60000 =
        (day * 1440 + hour * 60 + minute) * 60000 := by
      intro day hour minute
      omega
    exact split _ _ _
  have isGuess : ∀ minutes offset : Int, minutes * 60000 -
      ((minutes * 60000 + offset) / 60000 * 60000 - minutes * 60000) =
        (minutes - offset / 60000) * 60000 := by
    intro minutes offset
    omega
  rw [zonedTimeToUtc, isNaive]
  exact isGuess _ _

/-- The date and time exist in the zone: its clocks show them at some instant. -/
def IsShown (timeZone : String) (parts : ZonedParts) : Prop :=
  ∃ instant, utcToZonedParts instant timeZone = parts

/-- While the clocks of the zone show the date, they are never set back. -/
def NoFold (timeZone : String) (date : LocalDate) : Prop :=
  ∀ instant instant', instant ≤ instant' → (utcToZonedParts instant timeZone).date = date →
    (utcToZonedParts instant' timeZone).date = date →
      (utcToZonedParts instant timeZone).time.ms ≤ (utcToZonedParts instant' timeZone).time.ms

/-- Local dates and times that exist come back, and the conversion keeps the order of those of a
day without a fold. -/
structure KeepsLocalTime (timeZone : String) : Prop where
  comesBack : ∀ parts, IsShown timeZone parts →
    utcToZonedParts (zonedTimeToUtc parts.date parts.time timeZone) timeZone = parts
  ordered : ∀ date, NoFold timeZone date → ∀ time time' : ClockTime,
    IsShown timeZone ⟨date, time⟩ → IsShown timeZone ⟨date, time'⟩ → time.ms ≤ time'.ms →
      zonedTimeToUtc date time timeZone ≤ zonedTimeToUtc date time' timeZone

theorem IsShown.valid {parts : ZonedParts} (shown : IsShown timeZone parts) : parts.time.Valid := by
  obtain ⟨instant, rfl⟩ := shown
  rw [utcToZonedParts_eq]
  exact ZonedParts.valid_ofMinutes _

theorem comesBack_iff {parts : ZonedParts} (valid : parts.time.Valid) :
    utcToZonedParts (zonedTimeToUtc parts.date parts.time timeZone) timeZone = parts ↔
      reading (offsetMinutes timeZone) (guess (offsetMinutes timeZone) parts.minutes) =
        parts.minutes := by
  rw [zonedTimeToUtc_eq, utcToZonedParts_minute, ZonedParts.ofMinutes_eq_iff valid]

/-- Some minute at which the date and time are shown has the offset that is in force when they are
read as UTC. -/
def ShownAtNaiveOffset (timeZone : String) (parts : ZonedParts) : Prop :=
  ∃ minute : Int, utcToZonedParts (minute * msPerMinute) timeZone = parts ∧
    offsetMinutes timeZone minute = offsetMinutes timeZone parts.minutes

theorem comesBack_iff_shownAtNaiveOffset {parts : ZonedParts} (valid : parts.time.Valid) :
    utcToZonedParts (zonedTimeToUtc parts.date parts.time timeZone) timeZone = parts ↔
      ShownAtNaiveOffset timeZone parts := by
  rw [comesBack_iff valid, reading_guess_iff_exists]
  apply exists_congr
  intro minute
  rw [utcToZonedParts_minute, ZonedParts.ofMinutes_eq_iff valid]

/-- The minutes of a day without a fold are never shown in reverse. -/
theorem NoFold.neverBack {date : LocalDate} (noFold : NoFold timeZone date) :
    NeverBack (offsetMinutes timeZone)
      { minutes | (ZonedParts.ofMinutes minutes).date = date } := by
  intro minute minute' before isDate isDate'
  have ordered : ∀ first second : Int, (ZonedParts.ofMinutes first).date = date →
      (ZonedParts.ofMinutes second).date = date →
        (ZonedParts.ofMinutes first).time.ms ≤ (ZonedParts.ofMinutes second).time.ms →
          first ≤ second := by
    intro first second isFirst isSecond inTime
    change first / 1440 = (date : Int) at isFirst
    change second / 1440 = (date : Int) at isSecond
    change ((((first % 1440).toNat / 60 : Nat) : Int) * 60 +
      (((first % 1440).toNat % 60 : Nat) : Int)) * 60000 ≤
        ((((second % 1440).toNat / 60 : Nat) : Int) * 60 +
          (((second % 1440).toNat % 60 : Nat) : Int)) * 60000 at inTime
    omega
  have inOrder : minute * msPerMinute ≤ minute' * msPerMinute :=
    Int.mul_le_mul_of_nonneg_right before (by decide)
  have inTime := noFold _ _ inOrder
  rw [utcToZonedParts_minute, utcToZonedParts_minute] at inTime
  exact ordered _ _ isDate isDate' (inTime isDate isDate')

/-- A zone keeps local time exactly when every date and time that it shows is shown with the
offset in force when they are read as UTC. -/
theorem keepsLocalTime_iff (timeZone : String) : KeepsLocalTime timeZone ↔
      ∀ parts, IsShown timeZone parts → ShownAtNaiveOffset timeZone parts := by
  constructor
  · intro keeps parts shown
    exact (comesBack_iff_shownAtNaiveOffset shown.valid).1 (keeps.comesBack parts shown)
  · intro shownSo
    have right : ∀ parts, IsShown timeZone parts →
        utcToZonedParts (zonedTimeToUtc parts.date parts.time timeZone) timeZone = parts :=
      fun parts shown => (comesBack_iff_shownAtNaiveOffset shown.valid).2 (shownSo parts shown)
    refine ⟨right, fun date noFold time time' shown shown' inTime => ?_⟩
    have guessed := (comesBack_iff shown.valid).1 (right _ shown)
    have guessed' := (comesBack_iff shown'.valid).1 (right _ shown')
    have isDate : ∀ {time : ClockTime}, IsShown timeZone ⟨date, time⟩ →
        (ZonedParts.ofMinutes (ZonedParts.minutes ⟨date, time⟩)).date = date := by
      intro time shown
      rw [ZonedParts.ofMinutes_minutes shown.valid]
    have inMinutes : ZonedParts.minutes ⟨date, time⟩ ≤ ZonedParts.minutes ⟨date, time'⟩ := by
      have split : ∀ day hour minute hour' minute' : Int,
          (hour * 60 + minute) * 60000 ≤ (hour' * 60 + minute') * 60000 →
            day * 1440 + hour * 60 + minute ≤ day * 1440 + hour' * 60 + minute' := by
        intro day hour minute hour' minute' inTime
        omega
      exact split _ _ _ _ _ inTime
    have inOrder := guess_le_guess noFold.neverBack (isDate shown) (isDate shown') guessed guessed'
      inMinutes
    have instants : zonedTimeToUtc date time timeZone = _ := zonedTimeToUtc_eq ⟨date, time⟩
    have instants' : zonedTimeToUtc date time' timeZone = _ := zonedTimeToUtc_eq ⟨date, time'⟩
    rw [instants, instants']
    exact Int.mul_le_mul_of_nonneg_right inOrder (by decide)

end

section

/-- Paris, from the change of 29 March 2026 to that of 25 October at two hours ahead of UTC, else
at one. -/
@[reducible] def Icu.paris2026 : Icu where
  localeCompare := compare
  collation := Icu.utc.collation
  utcOffset _ instant :=
    if 20541 * msPerDay + 60 * msPerMinute ≤ instant ∧
        instant < 20751 * msPerDay + 60 * msPerMinute then 120 * msPerMinute
    else 60 * msPerMinute

theorem paris2026_offset (timeZone : String) (instant : Instant) :
    -(12 * 60 * msPerMinute) ≤ Icu.paris2026.utcOffset timeZone instant ∧
      Icu.paris2026.utcOffset timeZone instant ≤ 14 * 60 * msPerMinute := by
  unfold Icu.paris2026
  dsimp only
  split
  · decide
  · decide

attribute [local instance] Icu.paris2026

/-- Half past one on 29 March 2026 becomes half past midnight. -/
theorem springTime_lost : ¬ ∀ (icu : Icu) (timeZone : String), (∀ instant,
      -(12 * 60 * msPerMinute) ≤ icu.utcOffset timeZone instant ∧
        icu.utcOffset timeZone instant ≤ 14 * 60 * msPerMinute) → @KeepsLocalTime icu timeZone := by
  intro claim
  have keeps := (claim .paris2026 "Europe/Paris" (paris2026_offset _)).comesBack
    ⟨20541, ⟨1, 30⟩⟩ ⟨20541 * msPerDay + 30 * msPerMinute, by decide⟩
  exact absurd keeps (by decide)

end

end Sokar
