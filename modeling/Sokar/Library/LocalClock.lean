import Mathlib.Algebra.Order.Group.Defs
import Mathlib.Data.Set.Basic

/-!
# Local clocks

A clock that is ahead of the true time by an offset that depends on it.  The time at which the
clock shows a reading is guessed from the offset that is in force when the true time is what the
reading says.
-/

namespace LocalClock

variable {Time : Type} [AddCommGroup Time]

def reading (offset : Time → Time) (time : Time) : Time :=
  time + offset time

/-- The time of a reading, if the offset is the one at the reading taken as a time. -/
def guess (offset : Time → Time) (shown : Time) : Time :=
  shown - offset shown

variable {offset : Time → Time} {shown shown' : Time}

theorem reading_guess_iff :
    reading offset (guess offset shown) = shown ↔ offset (guess offset shown) = offset shown := by
  constructor
  · intro isShown
    have same : guess offset shown + offset (guess offset shown) =
        guess offset shown + offset shown := by
      rw [show guess offset shown + offset shown = shown from sub_add_cancel ..]
      exact isShown
    exact add_left_cancel same
  · intro same
    rw [reading, same]
    exact sub_add_cancel ..

theorem reading_guess_iff_exists : reading offset (guess offset shown) = shown ↔
      ∃ time, reading offset time = shown ∧ offset time = offset shown := by
  constructor
  · exact fun isShown => ⟨guess offset shown, isShown, reading_guess_iff.1 isShown⟩
  · rintro ⟨time, isShown, same⟩
    have isGuess : guess offset shown = time := by
      rw [guess, ← same, ← isShown]
      exact add_sub_cancel_right ..
    rw [isGuess]
    exact isShown

variable [LinearOrder Time]

/-- While it shows one of these, the clock is never set back. -/
def NeverBack (offset : Time → Time) (among : Set Time) : Prop :=
  ∀ time time', time ≤ time' → reading offset time ∈ among → reading offset time' ∈ among →
    reading offset time ≤ reading offset time'

theorem guess_le_guess {among : Set Time} (never : NeverBack offset among) (isAmong : shown ∈ among)
    (isAmong' : shown' ∈ among) (right : reading offset (guess offset shown) = shown)
    (right' : reading offset (guess offset shown') = shown') (before : shown ≤ shown') :
    guess offset shown ≤ guess offset shown' := by
  rcases le_total (guess offset shown) (guess offset shown') with ordered | back
  · exact ordered
  · have shownBack := never _ _ back (right'.symm ▸ isAmong') (right.symm ▸ isAmong)
    rw [right, right'] at shownBack
    rw [le_antisymm before shownBack]

end LocalClock
