import Mathlib.Logic.Relation

/-!
# Machines driven by events

An event that can happen in a state leads to one next state.  What each fair event keeps holds of
every state that fair events reach.
-/

/-- What an event makes of a state; nothing where it cannot happen. -/
structure EventMachine (State Event : Type) where
  step : State → Event → Option State

namespace EventMachine

variable {State Event : Type} (machine : EventMachine State Event)

inductive Reaches (fair : State → Event → Prop) (first : State) : State → Prop where
  | start : Reaches fair first first
  | step {before after : State} (event : Event) (earlier : Reaches fair first before)
      (isFair : fair before event) (happens : machine.step before event = some after) :
      Reaches fair first after

variable {machine} {fair : State → Event → Prop} {first last : State}

theorem Reaches.invariant {inv : State → Prop} (start : inv first)
    (keeps : ∀ before event after, inv before → fair before event →
      machine.step before event = some after → inv after)
    (reaches : machine.Reaches fair first last) : inv last := by
  induction reaches with
  | start => exact start
  | step event _ isFair happens ih => exact keeps _ event _ ih isFair happens

theorem Reaches.trans {mid : State} (front : machine.Reaches fair first mid)
    (back : machine.Reaches fair mid last) : machine.Reaches fair first last := by
  induction back with
  | start => exact front
  | step event _ isFair happens ih => exact .step event ih isFair happens

section

variable [∀ s event, Decidable (fair s event)]

/-- The state after some events; nothing when one of them is not fair or cannot happen. -/
def follow (machine : EventMachine State Event) (fair : State → Event → Prop)
    [∀ s event, Decidable (fair s event)] : List Event → State → Option State
  | [], s => some s
  | event :: rest, s =>
    if fair s event then (machine.step s event).bind (machine.follow fair rest) else none

theorem reaches_of_follow {events : List Event}
    (followed : machine.follow fair events first = some last) :
    machine.Reaches fair first last := by
  induction events generalizing first with
  | nil =>
    cases followed
    exact .start
  | cons event rest ih =>
    rw [follow] at followed
    split at followed
    next isFair =>
      obtain ⟨next, happens, rest⟩ := Option.bind_eq_some_iff.1 followed
      exact .trans (.step event .start isFair happens) (ih rest)
    · cases followed

theorem exists_of_follow {check : State → Bool} {events : List Event}
    (followed : (machine.follow fair events first).any check = true) :
    ∃ last, machine.Reaches fair first last ∧ check last = true := by
  obtain ⟨last, isLast, passes⟩ := (Option.any_eq_true _ _).1 followed
  exact ⟨last, reaches_of_follow isLast, passes⟩

end

end EventMachine
