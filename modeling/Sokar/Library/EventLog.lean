import Sokar.Library.Transaction

/-!
# Logs kept beside the data

A log is part of the data, the newest event first, and no move adds more than one event to it.  What
stands in the log at the end of a run was put there by its moves, in that order.
-/

namespace Transaction

open Process

variable {Data Lock Session Event α : Type}

/-- Each move starts from the data that the one before it left. -/
def Linked : Data → List (Move Session (Store Data Lock Session)) → Data → Prop
  | data, [], last => last = data
  | data, move :: rest, last => move.before.data = data ∧ Linked move.after.data rest last

namespace Linked

variable {first last : Data} {front moves : List (Move Session (Store Data Lock Session))}
  {move : Move Session (Store Data Lock Session)}

theorem append_iff : Linked first (front ++ moves) last ↔
    ∃ mid, Linked first front mid ∧ Linked mid moves last := by
  induction front generalizing first with
  | nil => exact ⟨fun linked => ⟨first, rfl, linked⟩, fun ⟨_, same, linked⟩ => same ▸ linked⟩
  | cons move rest ih =>
    simp only [List.cons_append, Linked, ih]
    constructor
    · rintro ⟨same, mid, front, rest⟩
      exact ⟨mid, ⟨same, front⟩, rest⟩
    · rintro ⟨mid, ⟨same, front⟩, rest⟩
      exact ⟨same, mid, front, rest⟩

theorem concat_iff : Linked first (moves ++ [move]) last ↔
    Linked first moves move.before.data ∧ last = move.after.data := by
  rw [append_iff]
  constructor
  · rintro ⟨mid, linked, same, isLast⟩
    exact ⟨same ▸ linked, isLast⟩
  · rintro ⟨linked, isLast⟩
    exact ⟨_, linked, rfl, isLast⟩

theorem upTo {rest : List (Move Session (Store Data Lock Session))}
    (linked : Linked first (moves ++ move :: rest) last) :
    Linked first moves move.before.data := by
  obtain ⟨mid, front, same, -⟩ := append_iff.1 linked
  exact same ▸ front

end Linked

variable {moves : List (Move Session (Store Data Lock Session))}

theorem linked_of_run [DecidableEq Session] {code : Session → Prog (Store Data Lock Session) α}
    {first c : Config Session (Store Data Lock Session) α} (run : (system code).Run first moves c) :
    Linked first.shared.data moves c.shared.data := by
  induction run with
  | nil => rfl
  | start _ _ _ ih => exact ih
  | act _ _ _ _ ih => exact Linked.concat_iff.2 ⟨ih, rfl⟩
  | crash _ _ _ ih => exact ih
  | tick _ ticks ih => exact ticks.2.1 ▸ ih

variable {log : Data → List Event}

def AddsAmong (log : Data → List Event) (events : List Event)
    (move : Move Session (Store Data Lock Session)) : Prop :=
  log move.after.data = log move.before.data ∨
    ∃ event ∈ events, log move.after.data = event :: log move.before.data

variable {move : Move Session (Store Data Lock Session)}

theorem AddsAmong.mono {events more : List Event} (adds : AddsAmong log events move)
    (sub : events ⊆ more) : AddsAmong log more move := by
  rcases adds with silent | ⟨event, isEvent, added⟩
  · exact .inl silent
  · exact .inr ⟨event, sub isEvent, added⟩

def AddedBy (log : Data → List Event) (since before : List Event) (event : Event)
    (moves : List (Move Session (Store Data Lock Session))) : Prop :=
  ∃ earlier making between, moves = earlier ++ making :: between ∧
    log making.before.data = before ∧ log making.after.data = event :: before ∧
    ∀ move ∈ between, AddsAmong log since move

theorem AddedBy.concat {since more before : List Event} {event : Event}
    (added : AddedBy log since before event moves) (sub : since ⊆ more)
    (adds : AddsAmong log more move) :
    AddedBy log more before event (moves ++ [move]) := by
  obtain ⟨earlier, making, between, rfl, isBefore, isAfter, rest⟩ := added
  refine ⟨earlier, making, between ++ [move], by simp, isBefore, isAfter, ?_⟩
  intro other isOther
  rcases List.mem_append.1 isOther with inside | isLast
  · exact (rest other inside).mono sub
  · rw [List.mem_singleton.1 isLast]
    exact adds

theorem addedBy_of_linked {first last : Data} (linked : Linked first moves last)
    (empty : log first = []) (steps : ∀ move ∈ moves, log move.after.data = log move.before.data ∨
      ∃ event, log move.after.data = event :: log move.before.data) {since before : List Event}
    {event : Event} (isLog : log last = since ++ event :: before) :
    AddedBy log since before event moves := by
  induction moves using List.reverseRecOn generalizing last since with
  | nil =>
    cases (linked : last = first)
    rw [empty] at isLog
    cases since <;> cases isLog
  | append_singleton moves move ih =>
    obtain ⟨front, rfl⟩ := Linked.concat_iff.1 linked
    have earlier : ∀ {since}, log move.before.data = since ++ event :: before →
        AddedBy log since before event moves :=
      ih front fun move isMove => steps move (List.mem_append_left _ isMove)
    rcases steps move (by simp) with silent | ⟨newest, added⟩
    · exact (earlier (silent ▸ isLog)).concat (List.Subset.refl _) (.inl silent)
    · rw [added] at isLog
      cases since with
      | nil =>
        obtain ⟨rfl, same⟩ := List.cons.inj isLog
        exact ⟨moves, move, [], rfl, same, same ▸ added, by simp⟩
      | cons head since =>
        obtain ⟨rfl, same⟩ := List.cons.inj isLog
        exact (earlier same).concat (List.subset_cons_self _ _)
          (.inr ⟨newest, List.mem_cons_self, added⟩)

end Transaction
