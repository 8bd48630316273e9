import Mathlib.Data.List.Nodup

/-!
# Aggregates over rows of several owners

An operation that cares neither for order nor for grouping, with a unit: what it makes of all rows
is what it makes of the results for each owner.
-/

namespace Aggregates

variable {M : Type*} (op : M → M → M) (unit : M)

def aggregate (items : List M) : M :=
  items.foldl op unit

section

variable [Std.Associative op] [Std.LawfulIdentity op unit]

theorem foldl_eq_aggregate (start : M) (items : List M) :
    items.foldl op start = op start (aggregate op unit items) := by
  have grouped : op start (items.foldl op unit) = items.foldl op (op start unit) :=
    List.foldl_assoc.symm
  rw [aggregate, grouped, @Std.LawfulRightIdentity.right_id _ _ op]

theorem aggregate_cons (item : M) (items : List M) :
    aggregate op unit (item :: items) = op item (aggregate op unit items) := by
  rw [aggregate, List.foldl_cons, @Std.LawfulLeftIdentity.left_id _ _ op,
    foldl_eq_aggregate op unit]

theorem aggregate_append (front back : List M) : aggregate op unit (front ++ back) =
      op (aggregate op unit front) (aggregate op unit back) := by
  rw [aggregate, List.foldl_append]
  exact foldl_eq_aggregate op unit _ back

theorem field_foldl {Row State : Type*} {step : State → Row → State} (field : State → M)
    {contribution : Row → M} (holds : State → Prop)
    (keeps : ∀ state row, holds state → holds (step state row))
    (updates : ∀ state row, holds state →
      field (step state row) = op (field state) (contribution row))
    (rows : List Row) {state : State} (start : holds state) :
    field (rows.foldl step state) =
      op (field state) (aggregate op unit (rows.map contribution)) := by
  induction rows generalizing state with
  | nil => exact (Std.LawfulRightIdentity.right_id _).symm
  | cons row rows ih =>
    rw [List.foldl_cons, ih (keeps state row start), updates state row start, List.map_cons,
      aggregate_cons, @Std.Associative.assoc _ op _]

theorem field_foldl_unit {Row State : Type*} {step : State → Row → State} (field : State → M)
    {contribution : Row → M}
    (updates : ∀ state row, field (step state row) = op (field state) (contribution row))
    (rows : List Row) {state : State} (start : field state = unit) :
    field (rows.foldl step state) = aggregate op unit (rows.map contribution) := by
  rw [field_foldl op unit field (fun _ => True) (fun _ _ _ => trivial)
    (fun state row _ => updates state row) rows trivial, start,
    @Std.LawfulLeftIdentity.left_id _ _ op]

variable [Std.Commutative op]

omit [Std.LawfulIdentity op unit] in
theorem aggregate_perm {items others : List M} (perm : items.Perm others) :
    aggregate op unit items = aggregate op unit others := by
  refine List.Perm.foldl_eq' perm (fun first _ second _ start => ?_) unit
  rw [@Std.Associative.assoc _ op _, @Std.Commutative.comm _ op _ first second,
    ← @Std.Associative.assoc _ op _]

theorem aggregate_owners {Row Owner : Type*} [DecidableEq Owner] (owner : Row → Owner)
    (contribution : Row → M) {owners : List Owner} (distinct : owners.Nodup) (rows : List Row) :
    aggregate op unit ((rows.filter fun row => owner row ∈ owners).map contribution) =
      aggregate op unit (owners.map fun one =>
        aggregate op unit ((rows.filter fun row => owner row = one).map contribution)) := by
  induction owners with
  | nil => simp
  | cons one others ih =>
    obtain ⟨notOther, distinct⟩ := List.nodup_cons.1 distinct
    have ofOne : (rows.filter fun row => owner row ∈ one :: others).filter
        (fun row => owner row = one) = rows.filter fun row => owner row = one := by
      rw [List.filter_filter]
      exact List.filter_congr fun row _ => by simp +contextual
    have ofOthers : (rows.filter fun row => owner row ∈ one :: others).filter
        (fun row => !decide (owner row = one)) = rows.filter fun row => owner row ∈ others := by
      rw [List.filter_filter]
      refine List.filter_congr fun row _ => ?_
      by_cases same : owner row = one
      · simp [same, notOther]
      · simp [same]
    have split := (List.filter_append_perm (fun row => decide (owner row = one))
      (rows.filter fun row => owner row ∈ one :: others)).map contribution
    rw [ofOne, ofOthers, List.map_append] at split
    rw [← aggregate_perm op unit split, aggregate_append, ih distinct, List.map_cons,
      aggregate_cons]

end

end Aggregates
