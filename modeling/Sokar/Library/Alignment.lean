import Mathlib.Algebra.Order.Field.Basic
import Mathlib.Data.List.Range
import Mathlib.Tactic.Linarith

/-!
# Alignments of two sequences

Two sequences of given lengths are aligned by moves that pair an item of each or leave one out.
A pair costs what its two items say, and an item left out the same wherever it stands. The least
cost follows a table over the prefixes, and whoever walks back through the table choosing moves
that explain each entry up to a tolerance finds an alignment that costs little more.
-/

namespace Alignments

/-- Indices are those of the items the move takes. -/
inductive Move where
  | both (left right : Nat)
  | left (index : Nat)
  | right (index : Nat)
  deriving DecidableEq

namespace Move

def left? : Move → Option Nat
  | .both index _ | .left index => some index
  | .right _ => none

def right? : Move → Option Nat
  | .both _ index | .right index => some index
  | .left _ => none

end Move

/-- Every index of either sequence is taken once, and in order. -/
structure IsAlignment (lefts rights : Nat) (moves : List Move) : Prop where
  lefts : moves.filterMap Move.left? = List.range lefts
  rights : moves.filterMap Move.right? = List.range rights

/-- The moves lead from the start of both sequences to these positions. -/
inductive Path : Nat → Nat → List Move → Prop where
  | nil : Path 0 0 []
  | both {left right : Nat} {moves : List Move} :
      Path left right moves → Path (left + 1) (right + 1) (moves ++ [.both left right])
  | left {left right : Nat} {moves : List Move} :
      Path left right moves → Path (left + 1) right (moves ++ [.left left])
  | right {left right : Nat} {moves : List Move} :
      Path left right moves → Path left (right + 1) (moves ++ [.right right])

theorem Path.isAlignment {left right : Nat} {moves : List Move} (path : Path left right moves) :
    IsAlignment left right moves := by
  induction path with
  | nil => exact ⟨rfl, rfl⟩
  | both _ ih | left _ ih | right _ ih =>
    constructor
    · simp [List.filterMap_cons, ih.lefts, Move.left?, List.range_succ]
    · simp [List.filterMap_cons, ih.rights, Move.right?, List.range_succ]

theorem eq_of_concat_eq_range {indices : List Nat} {last count : Nat}
    (range : indices ++ [last] = List.range count) :
    count = last + 1 ∧ indices = List.range last := by
  cases count with
  | zero => simp at range
  | succ before =>
    rw [List.range_succ] at range
    obtain ⟨front, same⟩ := List.append_inj' range rfl
    obtain rfl : last = before := List.head_eq_of_cons_eq same
    exact ⟨rfl, front⟩

theorem IsAlignment.path {lefts rights : Nat} {moves : List Move}
    (aligned : IsAlignment lefts rights moves) : Path lefts rights moves := by
  induction moves using List.reverseRecOn generalizing lefts rights with
  | nil =>
    obtain rfl : lefts = 0 := List.range_eq_nil.1 aligned.lefts.symm
    obtain rfl : rights = 0 := List.range_eq_nil.1 aligned.rights.symm
    exact .nil
  | append_singleton moves last ih =>
    obtain ⟨onLeft, onRight⟩ := aligned
    rw [List.filterMap_append] at onLeft onRight
    cases last with
    | both left right =>
      obtain ⟨rfl, frontLeft⟩ := eq_of_concat_eq_range onLeft
      obtain ⟨rfl, frontRight⟩ := eq_of_concat_eq_range onRight
      exact .both (ih ⟨frontLeft, frontRight⟩)
    | left index =>
      obtain ⟨rfl, frontLeft⟩ := eq_of_concat_eq_range onLeft
      exact .left (ih ⟨frontLeft, (List.append_nil _).symm.trans onRight⟩)
    | right index =>
      obtain ⟨rfl, frontRight⟩ := eq_of_concat_eq_range onRight
      exact .right (ih ⟨(List.append_nil _).symm.trans onLeft, frontRight⟩)

section

variable {K : Type*} [Field K] (pair : Nat → Nat → K) (gap : K)

def moveCost : Move → K
  | .both left right => pair left right
  | .left _ => gap
  | .right _ => gap

def cost (moves : List Move) : K :=
  (moves.map (moveCost pair gap)).sum

theorem cost_concat (moves : List Move) (last : Move) :
    cost pair gap (moves ++ [last]) = cost pair gap moves + moveCost pair gap last := by
  simp [cost]

variable [LinearOrder K]

/-- The table: the least cost of aligning the first items of either sequence. -/
def distance : Nat → Nat → K
  | 0, right => right * gap
  | left + 1, 0 => ((left + 1 : Nat) : K) * gap
  | left + 1, right + 1 =>
    min (min (distance left right + pair left right) (distance left (right + 1) + gap))
      (distance (left + 1) right + gap)

theorem distance_zero_left (right : Nat) : distance pair gap 0 right = right * gap := by
  rw [distance]

theorem distance_zero_right (left : Nat) : distance pair gap left 0 = left * gap := by
  cases left with
  | zero => rw [distance]
  | succ left => rw [distance]

variable (left right : Nat)

theorem distance_succ_succ : distance pair gap (left + 1) (right + 1) =
      min (min (distance pair gap left right + pair left right)
          (distance pair gap left (right + 1) + gap))
        (distance pair gap (left + 1) right + gap) := by
  rw [distance]

theorem distance_left_zero (left : Nat) :
    distance pair gap (left + 1) 0 = distance pair gap left 0 + gap := by
  rw [distance_zero_right, distance_zero_right, Nat.cast_succ, add_mul, one_mul]

theorem distance_zero_right_succ (right : Nat) :
    distance pair gap 0 (right + 1) = distance pair gap 0 right + gap := by
  rw [distance_zero_left, distance_zero_left, Nat.cast_succ, add_mul, one_mul]

theorem distance_both_le :
    distance pair gap (left + 1) (right + 1) ≤ distance pair gap left right + pair left right := by
  rw [distance_succ_succ]
  exact (min_le_left _ _).trans (min_le_left _ _)

theorem distance_left_le :
    distance pair gap (left + 1) right ≤ distance pair gap left right + gap := by
  cases right with
  | zero => exact (distance_left_zero pair gap left).le
  | succ right =>
    rw [distance_succ_succ]
    exact (min_le_left _ _).trans (min_le_right _ _)

theorem distance_right_le :
    distance pair gap left (right + 1) ≤ distance pair gap left right + gap := by
  cases left with
  | zero => exact (distance_zero_right_succ pair gap right).le
  | succ left =>
    rw [distance_succ_succ]
    exact min_le_right _ _

/-- An entry that neither of the first two moves explains is explained by the third. -/
theorem distance_right_eq {left right : Nat} (both : distance pair gap (left + 1) (right + 1) ≠
      distance pair gap left right + pair left right)
    (skipped : distance pair gap (left + 1) (right + 1) ≠
      distance pair gap left (right + 1) + gap) :
    distance pair gap (left + 1) (right + 1) = distance pair gap (left + 1) right + gap := by
  rw [distance_succ_succ] at both skipped ⊢
  rcases min_choice (min (distance pair gap left right + pair left right)
      (distance pair gap left (right + 1) + gap)) (distance pair gap (left + 1) right + gap)
    with first | last
  · rw [first] at both skipped
    rcases min_choice (distance pair gap left right + pair left right)
        (distance pair gap left (right + 1) + gap) with same | same
    · exact absurd same both
    · exact absurd same skipped
  · exact last

section

variable [IsStrictOrderedRing K]

theorem Path.distance_le_cost {left right : Nat} {moves : List Move}
    (path : Path left right moves) : distance pair gap left right ≤ cost pair gap moves := by
  induction path with
  | nil => simp [distance, cost]
  | both _ ih =>
    rw [cost_concat]
    exact (distance_both_le pair gap _ _).trans (add_le_add_left ih _)
  | left _ ih =>
    rw [cost_concat]
    exact (distance_left_le pair gap _ _).trans (add_le_add_left ih _)
  | right _ ih =>
    rw [cost_concat]
    exact (distance_right_le pair gap _ _).trans (add_le_add_left ih _)

end

/-- Each move explains the entry it leads to: items that are paired and items of the left sequence
that are left out up to a tolerance, the others exactly. -/
inductive Explained (tolerance : K) : Nat → Nat → List Move → Prop where
  | nil : Explained tolerance 0 0 []
  | both {left right : Nat} {moves : List Move} :
      Explained tolerance left right moves →
      distance pair gap left right + pair left right <
        distance pair gap (left + 1) (right + 1) + tolerance →
      Explained tolerance (left + 1) (right + 1) (moves ++ [.both left right])
  | left {left right : Nat} {moves : List Move} :
      Explained tolerance left right moves →
      distance pair gap left right + gap < distance pair gap (left + 1) right + tolerance →
      Explained tolerance (left + 1) right (moves ++ [.left left])
  | right {left right : Nat} {moves : List Move} :
      Explained tolerance left right moves →
      distance pair gap left (right + 1) = distance pair gap left right + gap →
      Explained tolerance left (right + 1) (moves ++ [.right right])

/-- No move nearly explains an entry without explaining it. -/
structure Separated (tolerance : K) (lefts rights : Nat) : Prop where
  both : ∀ left < lefts, ∀ right < rights,
    distance pair gap left right + pair left right <
        distance pair gap (left + 1) (right + 1) + tolerance →
      distance pair gap left right + pair left right =
        distance pair gap (left + 1) (right + 1)
  left : ∀ left < lefts, ∀ right ≤ rights,
    distance pair gap left right + gap < distance pair gap (left + 1) right + tolerance →
      distance pair gap left right + gap = distance pair gap (left + 1) right

variable {pair gap} {tolerance : K} {left right : Nat} {moves : List Move}

theorem Explained.path (explained : Explained pair gap tolerance left right moves) :
    Path left right moves := by
  induction explained with
  | nil => exact .nil
  | both _ _ ih => exact .both ih
  | left _ _ ih => exact .left ih
  | right _ _ ih => exact .right ih

theorem Explained.cost_eq {lefts rights : Nat}
    (explained : Explained pair gap tolerance left right moves)
    (separated : Separated pair gap tolerance lefts rights) (inLefts : left ≤ lefts)
    (inRights : right ≤ rights) : cost pair gap moves = distance pair gap left right := by
  induction explained with
  | nil => simp [distance, cost]
  | both _ near ih =>
    rw [cost_concat, ih (by omega) (by omega)]
    exact separated.both _ (by omega) _ (by omega) near
  | left _ near ih =>
    rw [cost_concat, ih (by omega) inRights]
    exact separated.left _ (by omega) _ inRights near
  | right _ same ih =>
    rw [cost_concat, ih inLefts (by omega)]
    exact same.symm

theorem Explained.cost_le [IsStrictOrderedRing K]
    (explained : Explained pair gap tolerance left right moves)
    (positive : 0 < tolerance) :
    cost pair gap moves ≤ distance pair gap left right + moves.length * tolerance := by
  induction explained with
  | nil => simp [distance, cost]
  | both _ near ih =>
    rw [cost_concat, List.length_append, List.length_singleton, Nat.cast_succ]
    change _ + pair _ _ ≤ _
    linarith
  | left _ near ih =>
    rw [cost_concat, List.length_append, List.length_singleton, Nat.cast_succ]
    change _ + gap ≤ _
    linarith
  | right _ same ih =>
    rw [cost_concat, List.length_append, List.length_singleton, Nat.cast_succ]
    change _ + gap ≤ _
    linarith

end

end Alignments
