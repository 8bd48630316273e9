import Mathlib.Data.List.Basic

/-!
# Cutting a stream into pieces

Items come in portions of any length and leave in pieces.  A cutter finds the first piece from
the items alone, and what follows them does not change it, so where the portions end is lost:
the pieces are those of all the items together.  Frames of one size are the pieces of one
such cutter; there the rest is closed in some way of its own at the end.
-/

namespace Framing

variable {α : Type*}

/-- A way to find the length of the first piece of the items, if they have a whole one. -/
structure Cutter (α : Type*) where
  next? : List α → Option Nat
  positive : ∀ {items : List α} {length : Nat}, next? items = some length → 0 < length
  fits : ∀ {items : List α} {length : Nat}, next? items = some length → length ≤ items.length
  stable : ∀ {items : List α} {length : Nat} (later : List α),
    next? items = some length → next? (items ++ later) = some length

namespace Cutter

/-- The whole pieces at the start of the items, and what is left after them. -/
def cut (cutter : Cutter α) (items : List α) : List (List α) × List α :=
  match _found : cutter.next? items with
  | none => ([], items)
  | some length =>
    let later := cutter.cut (items.drop length)
    (items.take length :: later.1, later.2)
termination_by items.length
decreasing_by
  have := cutter.positive ‹_›
  have := cutter.fits ‹_›
  rw [List.length_drop]
  omega

variable {cutter : Cutter α} {items : List α}

theorem cut_of_none (none : cutter.next? items = none) : cutter.cut items = ([], items) := by
  rw [cut]
  split
  · rfl
  · next found => exact absurd (none.symm.trans found) nofun

theorem cut_of_some {length : Nat} (found : cutter.next? items = some length) : cutter.cut items =
      (items.take length :: (cutter.cut (items.drop length)).1,
        (cutter.cut (items.drop length)).2) := by
  rw [cut]
  split
  · next none => exact absurd (none.symm.trans found) nofun
  · next other => rw [Option.some.inj (found.symm.trans other)]

theorem cut_append (items portion : List α) : cutter.cut (items ++ portion) =
      ((cutter.cut items).1 ++ (cutter.cut ((cutter.cut items).2 ++ portion)).1,
        (cutter.cut ((cutter.cut items).2 ++ portion)).2) := by
  induction items using cut.induct cutter with
  | case1 items none => rw [cut_of_none none, List.nil_append]
  | case2 items length found ih =>
    have fits := cutter.fits found
    rw [cut_of_some (cutter.stable portion found), cut_of_some found,
      List.take_append_of_le_length fits, List.drop_append_of_le_length fits, ih]
    rfl

/-- Nothing is lost. -/
theorem flatten_cut (items : List α) :
    (cutter.cut items).1.flatten ++ (cutter.cut items).2 = items := by
  induction items using cut.induct cutter with
  | case1 items none => rw [cut_of_none none, List.flatten_nil, List.nil_append]
  | case2 items length found ih =>
    rw [cut_of_some found, List.flatten_cons, List.append_assoc, ih, List.take_append_drop]

end Cutter

/-! ## Frames of one size -/

/-- The cutter that cuts off frames of one size. -/
def ofSize (size : Nat) (positive : 0 < size) : Cutter α where
  next? items := if size ≤ items.length then some size else none
  positive := by
    intro items length found
    split at found
    · cases found
      exact positive
    · cases found
  fits := by
    intro items length found
    split at found
    · next long => exact Option.some.inj found ▸ long
    · cases found
  stable := by
    intro items length later found
    split at found
    · next long =>
        have longer : size ≤ (items ++ later).length := by
          rw [List.length_append]
          omega
        rw [if_pos longer, found]
    · cases found

/-- All items in frames; each frame passes through `close`. -/
def frames (size : Nat) (close : List α → List α) (items : List α) : List (List α) :=
  if items = [] ∨ size = 0 then []
  else close (items.take size) :: frames size close (items.drop size)
termination_by items.length
decreasing_by
  rename_i goes
  rw [not_or] at goes
  have := List.length_pos_iff.2 goes.1
  rw [List.length_drop]
  omega

/-- The closed frame of what is left, if anything is. -/
def closing (close : List α → List α) (left : List α) : List (List α) :=
  if left = [] then [] else [close left]

theorem frames_eq_cut {size : Nat} (positive : 0 < size) {close : List α → List α}
    (keeps : ∀ frame : List α, frame.length = size → close frame = frame) (items : List α) :
    frames size close items = ((ofSize size positive).cut items).1 ++
        closing close ((ofSize size positive).cut items).2 := by
  induction items using frames.induct size with
  | case1 items ends =>
    have nil : items = [] := ends.resolve_right (by omega)
    have short : (ofSize size positive).next? items = none := by
      rw [nil]
      exact if_neg (by rw [List.length_nil]; omega)
    rw [frames, if_pos ends, Cutter.cut_of_none short, closing, if_pos nil]
    rfl
  | case2 items goes ih =>
    rw [frames, if_neg goes]
    by_cases long : size ≤ items.length
    · have full : (items.take size).length = size := by
        rw [List.length_take]
        omega
      have found : (ofSize size positive).next? items = some size := if_pos long
      rw [Cutter.cut_of_some found, keeps _ full, ih]
      rfl
    · have short : (ofSize size positive).next? items = none := if_neg long
      rw [Cutter.cut_of_none short, closing, if_neg (not_or.1 goes).1,
        List.take_of_length_le (by omega), List.drop_eq_nil_of_le (by omega), frames,
        if_pos (.inl rfl)]
      rfl

end Framing
