import Mathlib.Data.List.Basic
import Mathlib.Order.Bounds.Basic
import Mathlib.Order.MinMax

/-!
# Edit distance

The least number of insertions, deletions and replacements that turn one list into another.
Edits compose and can be read from the end, so the distance does not care from which end the lists
are taken apart; tables of distances between prefixes rest on that.
-/

namespace EditDistance

variable {α : Type*} [DecidableEq α]

/-- What replacing an item costs; keeping it costs nothing. -/
def replacement (x y : α) : Nat :=
  if x = y then 0 else 1

def levenshtein : List α → List α → Nat
  | [], ys => ys.length
  | x :: xs, [] => xs.length + 1
  | x :: xs, y :: ys =>
    min (min (levenshtein xs (y :: ys) + 1) (levenshtein (x :: xs) ys + 1))
      (levenshtein xs ys + replacement x y)

/-- One list is turned into the other at this cost. -/
inductive Edits : List α → List α → Nat → Prop where
  | nil : Edits [] [] 0
  | delete {x : α} {xs ys : List α} {cost : Nat} :
      Edits xs ys cost → Edits (x :: xs) ys (cost + 1)
  | insert {y : α} {xs ys : List α} {cost : Nat} :
      Edits xs ys cost → Edits xs (y :: ys) (cost + 1)
  | replace {x y : α} {xs ys : List α} {cost : Nat} :
      Edits xs ys cost → Edits (x :: xs) (y :: ys) (cost + replacement x y)

@[simp] theorem levenshtein_nil_left (ys : List α) : levenshtein [] ys = ys.length := by
  rw [levenshtein]

@[simp] theorem levenshtein_nil_right (xs : List α) : levenshtein xs [] = xs.length := by
  cases xs with
  | nil => rw [levenshtein_nil_left]
  | cons x xs => rw [levenshtein, List.length_cons]

theorem levenshtein_cons_cons (x y : α) (xs ys : List α) : levenshtein (x :: xs) (y :: ys) =
      min (min (levenshtein xs (y :: ys) + 1) (levenshtein (x :: xs) ys + 1))
        (levenshtein xs ys + replacement x y) := by
  rw [levenshtein]

theorem levenshtein_delete_le (x : α) (xs ys : List α) :
    levenshtein (x :: xs) ys ≤ levenshtein xs ys + 1 := by
  cases ys with
  | nil => simp
  | cons y ys =>
    rw [levenshtein_cons_cons]
    exact (min_le_left _ _).trans (min_le_left _ _)

theorem levenshtein_insert_le (y : α) (xs ys : List α) :
    levenshtein xs (y :: ys) ≤ levenshtein xs ys + 1 := by
  cases xs with
  | nil => simp
  | cons x xs =>
    rw [levenshtein_cons_cons]
    exact (min_le_left _ _).trans (min_le_right _ _)

theorem levenshtein_replace_le (x y : α) (xs ys : List α) :
    levenshtein (x :: xs) (y :: ys) ≤ levenshtein xs ys + replacement x y := by
  rw [levenshtein_cons_cons]
  exact min_le_right _ _

theorem levenshtein_le {xs ys : List α} {cost : Nat} (edits : Edits xs ys cost) :
    levenshtein xs ys ≤ cost := by
  induction edits with
  | nil => exact (levenshtein_nil_left []).le
  | delete _ ih => exact (levenshtein_delete_le _ _ _).trans (Nat.succ_le_succ ih)
  | insert _ ih => exact (levenshtein_insert_le _ _ _).trans (Nat.succ_le_succ ih)
  | replace _ ih => exact (levenshtein_replace_le _ _ _ _).trans (Nat.add_le_add_right ih _)

theorem edits_levenshtein (xs ys : List α) : Edits xs ys (levenshtein xs ys) := by
  induction xs generalizing ys with
  | nil =>
    induction ys with
    | nil =>
      rw [levenshtein_nil_left]
      exact .nil
    | cons y ys ih =>
      rw [levenshtein_nil_left] at ih ⊢
      exact ih.insert
  | cons x xs ihx =>
    induction ys with
    | nil =>
      have deleted := (ihx []).delete (x := x)
      rw [levenshtein_nil_right] at deleted ⊢
      exact deleted
    | cons y ys ihy =>
      rw [levenshtein_cons_cons]
      exact min_rec' (Edits (x :: xs) (y :: ys))
        (min_rec' (Edits (x :: xs) (y :: ys)) (ihx (y :: ys)).delete ihy.insert)
        (ihx ys).replace

/-! ## From the other end -/

theorem Edits.append {xs ys xs' ys' : List α} {cost cost' : Nat} (edits : Edits xs ys cost)
    (later : Edits xs' ys' cost') : Edits (xs ++ xs') (ys ++ ys') (cost + cost') := by
  induction edits with
  | nil => exact (Nat.zero_add cost').symm ▸ later
  | delete _ ih =>
    rw [Nat.add_right_comm]
    exact ih.delete
  | insert _ ih =>
    rw [Nat.add_right_comm]
    exact ih.insert
  | replace _ ih =>
    rw [Nat.add_right_comm]
    exact ih.replace

theorem Edits.reverse {xs ys : List α} {cost : Nat} (edits : Edits xs ys cost) :
    Edits xs.reverse ys.reverse cost := by
  induction edits with
  | nil => exact .nil
  | @delete x xs ys cost _ ih =>
    have last := ih.append (Edits.nil.delete (x := x))
    rw [List.append_nil] at last
    exact List.reverse_cons ▸ last
  | @insert y xs ys cost _ ih =>
    have last := ih.append (Edits.nil.insert (y := y))
    rw [List.append_nil] at last
    exact List.reverse_cons ▸ last
  | @replace x y xs ys cost _ ih =>
    have last := ih.append (Edits.nil.replace (x := x) (y := y))
    rw [Nat.zero_add, ← List.reverse_cons, ← List.reverse_cons] at last
    exact last

theorem levenshtein_reverse (xs ys : List α) :
    levenshtein xs.reverse ys.reverse = levenshtein xs ys := by
  have back := (edits_levenshtein xs.reverse ys.reverse).reverse
  rw [List.reverse_reverse, List.reverse_reverse] at back
  exact le_antisymm (levenshtein_le (edits_levenshtein xs ys).reverse) (levenshtein_le back)

theorem levenshtein_concat (x y : α) (xs ys : List α) : levenshtein (xs ++ [x]) (ys ++ [y]) =
      min (min (levenshtein xs (ys ++ [y]) + 1) (levenshtein (xs ++ [x]) ys + 1))
        (levenshtein xs ys + replacement x y) := by
  rw [← levenshtein_reverse (xs ++ [x]), ← levenshtein_reverse xs (ys ++ [y]),
    ← levenshtein_reverse (xs ++ [x]) ys, ← levenshtein_reverse xs ys, List.reverse_concat,
    List.reverse_concat]
  exact levenshtein_cons_cons x y xs.reverse ys.reverse

end EditDistance
