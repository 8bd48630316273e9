import Mathlib.Algebra.BigOperators.Group.List.Lemmas
import Mathlib.Algebra.Order.BigOperators.Group.List
import Mathlib.Algebra.Order.Ring.Nat

/-!
# Grouping in insertion order

Items gathered by key in a map that keeps its keys in the order in which they were first
set.  What is said of the items one by one carries over to the groups: the keys, the sums,
and the facts that hold of every group.
-/

namespace Grouping

variable {κ α β : Type*} [DecidableEq κ]
variable (start : α → β) (add : β → α → β)

def put (key : κ) (item : α) : List (κ × β) → List (κ × β)
  | [] => [(key, start item)]
  | group :: rest =>
    if group.1 = key then (group.1, add group.2 item) :: rest
    else group :: put key item rest

def gather (key : α → κ) (groups : List (κ × β)) : List α → List (κ × β)
  | [] => groups
  | item :: rest => gather key (put start add (key item) item groups) rest

def groupBy (key : α → κ) (items : List α) : List (κ × β) :=
  gather start add key [] items

variable {start add}

variable {groups : List (κ × β)}

theorem mem_keys_put {key other : κ} {item : α} :
    other ∈ (put start add key item groups).map Prod.fst ↔
      other = key ∨ other ∈ groups.map Prod.fst := by
  induction groups with
  | nil => simp [put]
  | cons group rest ih =>
    by_cases same : group.1 = key
    · simp [put, same]
    · simp only [put, same, if_false, List.map_cons, List.mem_cons, ih]
      tauto

theorem nodup_keys_put {key : κ} {item : α} (nodup : (groups.map Prod.fst).Nodup) :
    ((put start add key item groups).map Prod.fst).Nodup := by
  induction groups with
  | nil => simp [put]
  | cons group rest ih =>
    rw [List.map_cons, List.nodup_cons] at nodup
    by_cases same : group.1 = key
    · rw [put, if_pos same]
      exact List.nodup_cons.2 nodup
    · rw [put, if_neg same, List.map_cons, List.nodup_cons, mem_keys_put]
      exact ⟨fun found => found.elim same nodup.1, ih nodup.2⟩

theorem forall_put {holds : κ → β → Prop} {key : κ} {item : α} (started : holds key (start item))
    (added : ∀ group, holds key group → holds key (add group item))
    (all : ∀ group ∈ groups, holds group.1 group.2) :
    ∀ group ∈ put start add key item groups, holds group.1 group.2 := by
  induction groups with
  | nil => simpa [put] using started
  | cons group rest ih =>
    rw [List.forall_mem_cons] at all
    by_cases same : group.1 = key
    · rw [put, if_pos same, List.forall_mem_cons]
      exact ⟨same ▸ added group.2 (same ▸ all.1), all.2⟩
    · rw [put, if_neg same, List.forall_mem_cons]
      exact ⟨all.1, ih all.2⟩

variable {items : List α}

theorem mem_keys_gather {key : α → κ} {other : κ} :
    other ∈ (gather start add key groups items).map Prod.fst ↔
      other ∈ items.map key ∨ other ∈ groups.map Prod.fst := by
  induction items generalizing groups with
  | nil => simp [gather]
  | cons item rest ih =>
    rw [gather, ih, mem_keys_put, List.map_cons, List.mem_cons]
    tauto

theorem mem_keys_groupBy {key : α → κ} {other : κ} :
    other ∈ (groupBy start add key items).map Prod.fst ↔ other ∈ items.map key := by
  simp [groupBy, mem_keys_gather]

theorem nodup_keys_groupBy (key : α → κ) (items : List α) :
    ((groupBy start add key items).map Prod.fst).Nodup := by
  have gathered : ∀ groups : List (κ × β), (groups.map Prod.fst).Nodup →
      ((gather start add key groups items).map Prod.fst).Nodup := by
    induction items with
    | nil => exact fun _ nodup => nodup
    | cons item rest ih => exact fun groups nodup => ih _ (nodup_keys_put nodup)
  exact gathered [] List.nodup_nil

theorem forall_groupBy (holds : κ → β → Prop) {key : α → κ}
    (started : ∀ item ∈ items, holds (key item) (start item))
    (added : ∀ item ∈ items, ∀ group, holds (key item) group → holds (key item) (add group item)) :
    ∀ group ∈ groupBy start add key items, holds group.1 group.2 := by
  have gathered : ∀ groups : List (κ × β), (∀ group ∈ groups, holds group.1 group.2) →
      ∀ group ∈ gather start add key groups items, holds group.1 group.2 := by
    induction items with
    | nil => exact fun _ all => all
    | cons item rest ih =>
      rw [List.forall_mem_cons] at started added
      exact fun groups all => ih started.2 added.2 _ (forall_put started.1 added.1 all)
  exact gathered [] (by simp)

omit [DecidableEq κ] in
theorem countP_le_one (nodup : (groups.map Prod.fst).Nodup) (selects : κ × β → Bool) :
    groups.countP selects ≤ 1 ↔
      ∀ first ∈ groups, ∀ second ∈ groups, selects first → selects second → first.1 = second.1 := by
  induction groups with
  | nil => simp
  | cons group rest ih =>
    rw [List.map_cons, List.nodup_cons] at nodup
    by_cases selected : selects group
    · have others : rest.countP selects = 0 ↔ ∀ other ∈ rest, ¬selects other := by
        rw [List.countP_eq_zero]
      rw [List.countP_cons, if_pos selected]
      constructor
      · intro atMost
        have none := others.1 (by omega)
        intro first firstIn second secondIn firstSelected secondSelected
        rcases List.mem_cons.1 firstIn with rfl | firstIn
        · rcases List.mem_cons.1 secondIn with rfl | secondIn
          · rfl
          · exact absurd secondSelected (none second secondIn)
        · exact absurd firstSelected (none first firstIn)
      · intro oneKey
        have none := others.2 fun other listed otherSelected =>
          nodup.1 (oneKey group List.mem_cons_self other (List.mem_cons_of_mem _ listed) selected
            otherSelected ▸ List.mem_map_of_mem listed)
        omega
    · rw [List.countP_cons, if_neg selected, Nat.add_zero, ih nodup.2]
      simp only [List.forall_mem_cons, selected, Bool.false_eq_true, false_implies, true_and,
        implies_true]

variable (selects : α → Bool)

section

variable {M : Type*} [AddCommMonoid M] (measure : κ → β → M) (weight : κ → α → M)

section

variable (started : ∀ key item, measure key (start item) = weight key item)
variable (added : ∀ key group item, measure key (add group item) = measure key group + weight key item)
include started added

theorem sum_put (key : κ) (item : α) (groups : List (κ × β)) :
    ((put start add key item groups).map fun group => measure group.1 group.2).sum =
      (groups.map fun group => measure group.1 group.2).sum + weight key item := by
  induction groups with
  | nil => simp [put, started]
  | cons group rest ih =>
    by_cases same : group.1 = key
    · simp [put, same, added, add_right_comm]
    · simp [put, same, ih, add_assoc]

theorem sum_groupBy (key : α → κ) (items : List α) :
    ((groupBy start add key items).map fun group => measure group.1 group.2).sum =
      (items.map fun item => weight (key item) item).sum := by
  have gathered : ∀ groups : List (κ × β),
      ((gather start add key groups items).map fun group => measure group.1 group.2).sum =
        (groups.map fun group => measure group.1 group.2).sum +
          (items.map fun item => weight (key item) item).sum := by
    induction items with
    | nil => simp [gather]
    | cons item rest ih =>
      intro groups
      rw [gather, ih, sum_put measure weight started added, List.map_cons, List.sum_cons, add_assoc]
  rw [groupBy, gathered]
  simp

end

theorem sum_filter_add (times : α → Nat) (weigh : α → M) (items : List α) :
    ((items.filter selects).map weigh).sum + (items.map fun item => times item • weigh item).sum =
      (items.map fun item => (times item + if selects item then 1 else 0) • weigh item).sum := by
  induction items with
  | nil => simp
  | cons item rest ih =>
    by_cases selected : selects item
    · simp only [List.filter_cons, selected, if_true, List.map_cons, List.sum_cons, succ_nsmul]
      rw [add_add_add_comm, ih, add_comm (weigh item)]
    · simp only [List.filter_cons, selected, Bool.false_eq_true, if_false, List.map_cons,
        List.sum_cons, add_zero]
      rw [add_left_comm, ih]

theorem sum_filters {γ : Type*} (selects : γ → α → Bool) (weigh : α → M) (selections : List γ)
    (items : List α) :
    (selections.map fun selection => ((items.filter (selects selection)).map weigh).sum).sum =
      (items.map fun item =>
        (selections.countP fun selection => selects selection item) • weigh item).sum := by
  induction selections with
  | nil => simp
  | cons selection rest ih =>
    rw [List.map_cons, List.sum_cons, ih, sum_filter_add]
    simp only [List.countP_cons]

theorem sum_filter (weigh : α → M) (items : List α) : ((items.filter selects).map weigh).sum =
      (items.map fun item => if selects item then weigh item else 0).sum := by
  induction items with
  | nil => rfl
  | cons item rest ih =>
    by_cases selected : selects item <;> simp [selected, ih]

end

theorem countP_eq_sum (items : List α) :
    items.countP selects = (items.map fun item => if selects item then 1 else 0).sum := by
  induction items with
  | nil => rfl
  | cons item rest ih => rw [List.countP_cons, ih, List.map_cons, List.sum_cons, Nat.add_comm]

theorem sum_eq_iff {less more : α → Nat} (le : ∀ item ∈ items, less item ≤ more item) :
    (items.map more).sum = (items.map less).sum ↔ ∀ item ∈ items, more item = less item := by
  induction items with
  | nil => simp
  | cons item rest ih =>
    rw [List.forall_mem_cons] at le
    have below : (rest.map less).sum ≤ (rest.map more).sum := List.sum_le_sum le.2
    have tails := ih le.2
    rw [List.map_cons, List.map_cons, List.sum_cons, List.sum_cons, List.forall_mem_cons]
    constructor
    · intro same
      exact ⟨by omega, tails.1 (by omega)⟩
    · rintro ⟨here, there⟩
      rw [here, tails.2 there]

end Grouping
