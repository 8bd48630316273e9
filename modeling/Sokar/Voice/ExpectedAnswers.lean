import Mathlib.Algebra.BigOperators.Group.List.Lemmas
import Mathlib.Algebra.Order.Ring.Rat
import Mathlib.Data.List.Infix
import Mathlib.Order.Bounds.Basic

/-!
# Expected answers

`alignmentCost` of `expected-answer`: how far a transcript is from an expected answer, both spelled
in sounds.  One row of costs is kept, with a cell for each beginning of the transcript.
-/

namespace Sokar

structure AlignmentWeights (Sound : Type) where
  substitutionCost : Sound → Sound → ℚ
  indelCost : Sound → ℚ
  indel_nonneg : ∀ sound, 0 ≤ indelCost sound

namespace AlignmentWeights

variable {Sound : Type} (weights : AlignmentWeights Sound)

def cells (sound : Sound) (left diagonal : ℚ) : List ℚ → List Sound → List ℚ
  | above :: previous, heard :: transcript =>
    let cell := min (min (above + weights.indelCost sound) (left + weights.indelCost heard))
      (diagonal + weights.substitutionCost sound heard)
    cell :: cells sound cell above previous transcript
  | _, _ => []

def nextRow (transcript : List Sound) (previous : List ℚ) (sound : Sound) : List ℚ :=
  match previous with
  | [] => []
  | first :: rest =>
    let left := first + weights.indelCost sound
    left :: weights.cells sound left first rest transcript

def firstRow (anchored : Bool) (transcript : List Sound) : List ℚ :=
  transcript.inits.map fun front =>
    if anchored then (front.map weights.indelCost).sum else 0

def alignmentCost (candidate transcript : List Sound) (anchored : Bool) : ℚ :=
  let previous := candidate.foldl (weights.nextRow transcript) (weights.firstRow anchored transcript)
  if anchored then previous.getLast?.getD 0 else previous.min?.getD 0

/-- What is expected is aligned with what was heard at this cost, both read from their ends: what
was heard before it all is passed over, unless the alignment is anchored. -/
inductive Aligned (anchored : Bool) : List Sound → List Sound → ℚ → Prop where
  | start {before : List Sound} : (anchored = true → before = []) → Aligned anchored [] before 0
  | omitted {sound : Sound} {expected heard : List Sound} {cost : ℚ} :
      Aligned anchored expected heard cost →
        Aligned anchored (sound :: expected) heard (cost + weights.indelCost sound)
  | added {sound : Sound} {expected heard : List Sound} {cost : ℚ} :
      Aligned anchored expected heard cost →
        Aligned anchored expected (sound :: heard) (cost + weights.indelCost sound)
  | paired {sound other : Sound} {expected heard : List Sound} {cost : ℚ} :
      Aligned anchored expected heard cost → Aligned anchored (sound :: expected) (other :: heard)
        (cost + weights.substitutionCost sound other)

/-- The recursive cost. -/
def least (anchored : Bool) : List Sound → List Sound → ℚ
  | [], heard => if anchored then (heard.map weights.indelCost).sum else 0
  | sound :: expected, [] => least anchored expected [] + weights.indelCost sound
  | sound :: expected, other :: heard =>
    min (min (least anchored expected (other :: heard) + weights.indelCost sound)
      (least anchored (sound :: expected) heard + weights.indelCost other))
        (least anchored expected heard + weights.substitutionCost sound other)

variable {weights} {anchored : Bool} {expected heard : List Sound}

theorem least_le {cost : ℚ} (aligned : weights.Aligned anchored expected heard cost) :
    weights.least anchored expected heard ≤ cost := by
  induction aligned with
  | @start before isAll =>
    rw [least]
    split
    next isAnchored => rw [isAll isAnchored, List.map_nil, List.sum_nil]
    next => exact le_rfl
  | @omitted sound expected heard cost _ ih =>
    refine le_trans ?_ (add_le_add_left ih _)
    cases heard with
    | nil => rw [least]
    | cons other heard =>
      rw [least]
      exact (min_le_left _ _).trans (min_le_left _ _)
  | @added other expected heard cost _ ih =>
    refine le_trans ?_ (add_le_add_left ih _)
    cases expected with
    | nil =>
      rw [least, least]
      split
      · rw [List.map_cons, List.sum_cons, add_comm]
      · exact (weights.indel_nonneg other).trans_eq (zero_add _).symm
    | cons sound expected =>
      rw [least]
      exact (min_le_left _ _).trans (min_le_right _ _)
  | paired _ ih =>
    rw [least]
    exact (min_le_right _ _).trans (add_le_add_left ih _)

theorem aligned_least (expected heard : List Sound) :
    weights.Aligned anchored expected heard (weights.least anchored expected heard) := by
  induction expected generalizing heard with
  | nil =>
    rw [least]
    cases anchored with
    | false => exact .start nofun
    | true =>
      induction heard with
      | nil => exact .start fun _ => rfl
      | cons sound heard ih =>
        rw [if_pos rfl, List.map_cons, List.sum_cons, add_comm]
        exact ih.added
  | cons sound expected ihe =>
    induction heard with
    | nil =>
      rw [least]
      exact (ihe []).omitted
    | cons other heard ihh =>
      rw [least]
      exact min_rec' (weights.Aligned anchored _ _)
        (min_rec' (weights.Aligned anchored _ _) (ihe (other :: heard)).omitted ihh.added)
        (ihe heard).paired

/-- The costs up to each later point of the transcript. -/
def costs (weights : AlignmentWeights Sound) (anchored : Bool) (expected heard rest : List Sound) :
    List ℚ :=
  rest.inits.map fun front => weights.least anchored expected (front.reverse ++ heard)

theorem costs_cons (next : Sound) (rest : List Sound) :
    weights.costs anchored expected heard (next :: rest) = weights.least anchored expected heard ::
      weights.costs anchored expected (next :: heard) rest := by
  simp [costs, Function.comp_def]

theorem costs_eq_cons (expected heard rest : List Sound) :
    weights.costs anchored expected heard rest = weights.least anchored expected heard ::
      (weights.costs anchored expected heard rest).tail := by
  cases rest with
  | nil => rfl
  | cons next rest => rw [costs_cons, List.tail_cons]

theorem cells_eq (sound : Sound) (rest : List Sound) :
    weights.cells sound (weights.least anchored (sound :: expected) heard)
        (weights.least anchored expected heard) (weights.costs anchored expected heard rest).tail
        rest = (weights.costs anchored (sound :: expected) heard rest).tail := by
  induction rest generalizing heard with
  | nil => rfl
  | cons next rest ih =>
    rw [costs_cons, costs_cons, List.tail_cons, List.tail_cons, costs_eq_cons expected,
      costs_eq_cons (sound :: expected), ← ih, cells, least]

theorem foldl_nextRow (weights : AlignmentWeights Sound) (anchored : Bool)
    (candidate transcript : List Sound) :
    candidate.foldl (weights.nextRow transcript) (weights.firstRow anchored transcript) =
      weights.costs anchored candidate.reverse [] transcript := by
  induction candidate using List.reverseRecOn with
  | nil => simp [firstRow, costs, least, List.sum_reverse]
  | append_singleton candidate sound ih =>
    rw [List.foldl_concat, ih, List.reverse_concat, costs_eq_cons,
      costs_eq_cons (sound :: _), ← cells_eq, least]
    rfl

theorem getLast?_costs (transcript : List Sound) :
    (weights.costs anchored expected [] transcript).getLast? =
      some (weights.least anchored expected transcript.reverse) := by
  cases transcript using List.reverseRecOn with
  | nil => rfl
  | append_singleton front last => simp [costs, List.inits_append]

/-- The cost is the least one of aligning the candidate with a part of the transcript, all of it
when anchored. -/
theorem alignmentCost_isLeast (weights : AlignmentWeights Sound)
    (candidate transcript : List Sound) (anchored : Bool) :
    IsLeast {cost | ∃ heard, heard <+: transcript ∧ (anchored = true → heard = transcript) ∧
        weights.Aligned anchored candidate.reverse heard.reverse cost}
      (weights.alignmentCost candidate transcript anchored) := by
  unfold alignmentCost
  rw [foldl_nextRow]
  cases anchored with
  | true =>
    rw [if_pos rfl, getLast?_costs, Option.getD_some]
    refine ⟨⟨transcript, List.prefix_rfl, fun _ => rfl, aligned_least _ _⟩, ?_⟩
    rintro cost ⟨heard, -, isAll, aligned⟩
    rw [isAll rfl] at aligned
    exact least_le aligned
  | false =>
    rw [if_neg Bool.false_ne_true]
    cases isMin : (weights.costs false candidate.reverse [] transcript).min? with
    | none =>
      rw [List.min?_eq_none_iff, costs_eq_cons] at isMin
      cases isMin
    | some cost =>
      obtain ⟨isCost, bounds⟩ := List.min?_eq_some_iff.1 isMin
      obtain ⟨front, isFront, rfl⟩ := List.mem_map.1 isCost
      rw [List.append_nil] at bounds ⊢
      refine ⟨⟨front, (List.mem_inits _ _).1 isFront, nofun, aligned_least _ _⟩, ?_⟩
      rintro cost ⟨heard, isFront, -, aligned⟩
      refine (bounds _ (List.mem_map_of_mem ((List.mem_inits _ _).2 isFront))).trans ?_
      rw [List.append_nil]
      exact least_le aligned

end AlignmentWeights

end Sokar
