import Mathlib.Data.List.Sort

/-!
# Stable sorting of growing lists

How `List.insertionSort` behaves when elements are left out, and when an element
that comes after all the others is added; and when the first elements of a list are
its best ones.
-/

namespace StableSort

variable {α : Type*} (r : α → α → Prop) [DecidableRel r]

theorem insertionSort_sublist [Std.Total r] [IsTrans α r] {fewer items : List α}
    (sub : fewer.Sublist items) :
    (fewer.insertionSort r).Sublist (items.insertionSort r) := by
  induction sub with
  | slnil => exact List.Sublist.refl _
  | cons item _ ih =>
    exact ih.trans (List.sublist_orderedInsert item _)
  | cons_cons item _ ih =>
    exact List.Sublist.orderedInsert_sublist item ih (List.pairwise_insertionSort r _)

theorem orderedInsert_last {last : α} {items : List α} (after : ∀ item ∈ items, ¬ r last item) :
    items.orderedInsert r last = items ++ [last] := by
  induction items with
  | nil => rfl
  | cons item rest ih =>
    rw [List.orderedInsert_of_not_le _ rest (after item List.mem_cons_self), ih]
    · rfl
    · exact fun other member => after other (List.mem_cons_of_mem _ member)

theorem orderedInsert_concat {item last : α} {items : List α} (before : r item last) :
    (items ++ [last]).orderedInsert r item = items.orderedInsert r item ++ [last] := by
  induction items with
  | nil => simp [before]
  | cons other rest ih =>
    by_cases first : r item other
    · simp [first]
    · simp [first, ih]

/-- An element that comes strictly after all the others is sorted to the end,
wherever it stands in the list. -/
theorem insertionSort_insert_last {front back : List α} {last : α}
    (beforeLast : ∀ item ∈ front, r item last) (after : ∀ item ∈ back, ¬ r last item) :
    (front ++ last :: back).insertionSort r = (front ++ back).insertionSort r ++ [last] := by
  induction front with
  | nil =>
    rw [List.nil_append, List.nil_append, List.insertionSort_cons, orderedInsert_last r]
    intro item member
    exact after item ((List.mem_insertionSort r).1 member)
  | cons item rest ih =>
    rw [List.cons_append, List.insertionSort_cons, ih, List.cons_append, List.insertionSort_cons]
    · exact orderedInsert_concat r (beforeLast item List.mem_cons_self)
    · exact fun other member => beforeLast other (List.mem_cons_of_mem _ member)

theorem pairwise_insertionSort_of_key {κ : Type*} [Preorder κ] (key : α → κ)
    (before : ∀ left right, r left right → key left ≤ key right)
    (after : ∀ left right, ¬ r left right → key right ≤ key left) (items : List α) :
    (items.insertionSort r).Pairwise fun left right => key left ≤ key right := by
  induction items with
  | nil => exact List.Pairwise.nil
  | cons item rest ih =>
    rw [List.insertionSort_cons]
    generalize rest.insertionSort r = sorted at ih
    induction sorted with
    | nil => exact List.pairwise_singleton _ _
    | cons other others insert =>
      obtain ⟨first, later⟩ := List.pairwise_cons.1 ih
      rw [List.orderedInsert_cons]
      split
      next precedes =>
        refine List.pairwise_cons.2 ⟨fun element member => ?_, ih⟩
        rcases List.mem_cons.1 member with rfl | member
        · exact before _ _ precedes
        · exact (before _ _ precedes).trans (first element member)
      next follows =>
        refine List.pairwise_cons.2 ⟨fun element member => ?_, insert later⟩
        rcases (List.mem_orderedInsert r).1 member with rfl | member
        · exact after _ _ follows
        · exact first element member

/-! ## The best of a list -/

section

variable {κ : Type*} [LinearOrder κ] (score : α → κ)

/-- The `limit` elements of highest score, the best first. -/
structure IsBest (limit : Nat) (items chosen : List α) : Prop where
  length : chosen.length = min limit items.length
  descending : chosen.Pairwise fun first second => score second ≤ score first
  best : ∃ others, (chosen ++ others).Perm items ∧
    ∀ one ∈ chosen, ∀ other ∈ others, score other ≤ score one

variable {score}

theorem isBest_insertionSort_take_iff (limit : Nat) (items : List α) : IsBest score limit items
        ((items.take limit).insertionSort fun first second => score second ≤ score first) ↔
      ∀ one ∈ items.take limit, ∀ other ∈ items.drop limit, score other ≤ score one := by
  have sorted := List.perm_insertionSort (fun first second => score second ≤ score first)
    (items.take limit)
  constructor
  · intro best one isOne other isOther
    obtain ⟨others, whole, worse⟩ := best.best
    have rest : others.Perm (items.drop limit) := by
      have parts : (items.take limit ++ others).Perm (items.take limit ++ items.drop limit) := by
        rw [List.take_append_drop]
        exact (sorted.symm.append_right others).trans whole
      exact (List.perm_append_left_iff _).1 parts
    exact worse one (sorted.symm.subset isOne) other (rest.symm.subset isOther)
  · intro worse
    refine ⟨?_, ?_, items.drop limit, ?_, ?_⟩
    · rw [List.length_insertionSort, List.length_take]
    · exact pairwise_insertionSort_of_key (κ := κᵒᵈ) _ (fun item => OrderDual.toDual (score item))
        (fun _ _ precedes => precedes) (fun _ _ follows => (not_le.1 follows).le) _
    · have whole : (items.take limit ++ items.drop limit).Perm items := by
        rw [List.take_append_drop]
      exact (sorted.append_right _).trans whole
    · exact fun one isOne other isOther => worse one (sorted.subset isOne) other isOther

end

end StableSort
