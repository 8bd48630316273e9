import Mathlib.Tactic.Positivity
import Sokar.Library.Alignment
import Sokar.Library.Blocks
import Sokar.Library.EditDistance
import Sokar.Library.JsonSyntax

/-!
# Aligned tokens

The call report compares two transcripts of a call word by word. A replaced word costs less the
more it resembles the other, a left out one always the same; the table of costs is walked back with
a tolerance meant for rounding errors, here applied to exact costs. Tokens are lists of UTF-16 code
units.
-/

namespace Sokar

open JsonGrammar EditDistance Alignments Blocks

abbrev Token := List CodeUnit

inductive AlignOp where
  | matched (refIndex hypIndex : Nat)
  | sub (refIndex hypIndex : Nat)
  | del (refIndex : Nat)
  | ins (hypIndex : Nat)
  deriving DecidableEq

def charEntries (unit : CodeUnit) : (left diagonal : Nat) → Token → List Nat → List Nat
  | left, diagonal, other :: b, above :: row =>
    let entry := min (min (above + 1) (left + 1)) (diagonal + if unit = other then 0 else 1)
    entry :: charEntries unit entry above b row
  | _, _, _, _ => []

/-- The loop over the first token, which numbers its units from one. -/
def charRows (b : Token) : (index : Nat) → Token → List Nat → List Nat
  | _, [], row => row
  | index, unit :: a, row =>
    charRows b (index + 1) a (index :: charEntries unit index (row.headD 0) b row.tail)

def charDistance (a b : Token) : Nat :=
  (charRows b 1 a (List.range (b.length + 1))).getD b.length 0

def substitutionCost (a b : Token) : ℚ :=
  if a = b then 0 else 1 / 10 + 9 / 10 * charDistance a b / max a.length b.length

def GAP_COST : ℚ := 1

variable (ref hyp : List Token)

def costRow (row : Nat) (previous : List ℚ) : List ℚ :=
  (List.range hyp.length).foldl
    (fun current column =>
      current ++
        [min (min (previous.getD column 0 +
              substitutionCost (ref.getD row []) (hyp.getD column []))
            (previous.getD (column + 1) 0 + GAP_COST))
          (current.getD column 0 + GAP_COST)])
    [((row + 1 : Nat) : ℚ) * GAP_COST]

def costTable : List (List ℚ) :=
  (List.range ref.length).foldl (fun cost row => cost ++ [costRow ref hyp row (cost.getD row [])])
    [(List.range (hyp.length + 1)).map fun column : Nat => (column : ℚ) * GAP_COST]

def EPSILON : ℚ := 1 / 10 ^ 9

/-- The loop, with bounded steps. What it pushes is put in front, as the result is reversed. A
position of the second list that would become negative stays at zero; the loop would not end. -/
def walkBack (ref hyp : List Token) (cost : Nat → Nat → ℚ) :
    (steps i j : Nat) → List AlignOp → Option (List AlignOp)
  | 0, i, j, ops => if 0 < i ∨ 0 < j then none else some ops
  | steps + 1, i, j, ops =>
    if 0 < i ∨ 0 < j then
      let sub := substitutionCost (ref.getD (i - 1) []) (hyp.getD (j - 1) [])
      if (0 < i ∧ 0 < j) ∧ |cost i j - (cost (i - 1) (j - 1) + sub)| < EPSILON then
        walkBack ref hyp cost steps (i - 1) (j - 1)
          ((if sub = 0 then .matched (i - 1) (j - 1) else .sub (i - 1) (j - 1)) :: ops)
      else if 0 < i ∧ |cost i j - (cost (i - 1) j + GAP_COST)| < EPSILON then
        walkBack ref hyp cost steps (i - 1) j (.del (i - 1) :: ops)
      else walkBack ref hyp cost steps i (j - 1) (.ins (j - 1) :: ops)
    else some ops

def alignTokens : Option (List AlignOp) :=
  let table := costTable ref hyp
  walkBack ref hyp (fun i j => (table.getD i []).getD j 0) (ref.length + hyp.length)
    ref.length hyp.length []

structure DivergenceRun where
  ref : List Token
  hyp : List Token
  refStart : Nat
  hypStart : Nat
  deriving DecidableEq

/-- The state of the loop: the runs before the current one, and the current one. -/
structure DivergenceLoop where
  runs : List DivergenceRun := []
  current : Option DivergenceRun := none
  refPos : Nat := 0
  hypPos : Nat := 0

namespace DivergenceLoop

def opened (loop : DivergenceLoop) : DivergenceRun :=
  loop.current.getD { ref := [], hyp := [], refStart := loop.refPos, hypStart := loop.hypPos }

def next (loop : DivergenceLoop) : AlignOp → DivergenceLoop
  | .matched refIndex hypIndex =>
    { runs := loop.runs ++ loop.current.toList
      current := none
      refPos := refIndex + 1
      hypPos := hypIndex + 1 }
  | .sub refIndex hypIndex =>
    { loop with
      current := some { loop.opened with
        ref := loop.opened.ref ++ [ref.getD refIndex []]
        hyp := loop.opened.hyp ++ [hyp.getD hypIndex []] }
      refPos := refIndex + 1
      hypPos := hypIndex + 1 }
  | .del refIndex =>
    { loop with
      current := some { loop.opened with ref := loop.opened.ref ++ [ref.getD refIndex []] }
      refPos := refIndex + 1 }
  | .ins hypIndex =>
    { loop with
      current := some { loop.opened with hyp := loop.opened.hyp ++ [hyp.getD hypIndex []] }
      hypPos := hypIndex + 1 }

end DivergenceLoop

variable (ops : List AlignOp)

def divergenceRuns : List DivergenceRun :=
  let loop := ops.foldl (DivergenceLoop.next ref hyp) {}
  loop.runs ++ loop.current.toList

theorem substitutionCost_eq_zero {a b : Token} : substitutionCost a b = 0 ↔ a = b := by
  rw [substitutionCost]
  split
  next same => exact ⟨fun _ => same, fun _ => rfl⟩
  next different =>
    have nonneg : (0 : ℚ) ≤ 9 / 10 * charDistance a b / max a.length b.length := by positivity
    constructor
    · intro zero
      linarith
    · intro same
      exact absurd same different

section

variable (ref hyp : List Token)

/-- The cost of pairing two tokens by their places. -/
def pairCost (refIndex hypIndex : Nat) : ℚ :=
  substitutionCost (ref.getD refIndex []) (hyp.getD hypIndex [])

def distanceRow (row columns : Nat) : List ℚ :=
  (List.range columns).map fun column => distance (pairCost ref hyp) GAP_COST row column

variable {ref hyp}

theorem getD_distanceRow {row columns column : Nat} (inside : column < columns) :
    (distanceRow ref hyp row columns).getD column 0 =
      distance (pairCost ref hyp) GAP_COST row column := by
  rw [distanceRow, List.getD_eq_getElem?_getD, List.getElem?_map, List.getElem?_range inside]
  rfl

theorem distanceRow_succ (row columns : Nat) : distanceRow ref hyp row (columns + 1) =
      distanceRow ref hyp row columns ++ [distance (pairCost ref hyp) GAP_COST row columns] := by
  rw [distanceRow, List.range_succ, List.map_append]
  rfl

theorem costRow_distanceRow (row : Nat) :
    costRow ref hyp row (distanceRow ref hyp row (hyp.length + 1)) =
      distanceRow ref hyp (row + 1) (hyp.length + 1) := by
  have upTo (columns : Nat) (inColumns : columns ≤ hyp.length) : (List.range columns).foldl
          (fun current column =>
            current ++ [min (min ((distanceRow ref hyp row (hyp.length + 1)).getD column 0 +
                    substitutionCost (ref.getD row []) (hyp.getD column []))
                  ((distanceRow ref hyp row (hyp.length + 1)).getD (column + 1) 0 + GAP_COST))
                (current.getD column 0 + GAP_COST)])
          [((row + 1 : Nat) : ℚ) * GAP_COST] =
        distanceRow ref hyp (row + 1) (columns + 1) := by
    induction columns with
    | zero =>
      rw [List.range_zero, List.foldl_nil, distanceRow_succ, distance_zero_right]
      rfl
    | succ column ih =>
      rw [List.range_succ, List.foldl_append, ih (by omega), List.foldl_cons, List.foldl_nil,
        getD_distanceRow (by omega), getD_distanceRow (by omega), getD_distanceRow (by omega),
        distanceRow_succ (row + 1) (column + 1), distance_succ_succ]
      rfl
  exact upTo hyp.length le_rfl

theorem costTable_eq : costTable ref hyp =
      (List.range (ref.length + 1)).map fun row => distanceRow ref hyp row (hyp.length + 1) := by
  have rows (count : Nat) : (List.range count).foldl
          (fun cost row => cost ++ [costRow ref hyp row (cost.getD row [])])
          [(List.range (hyp.length + 1)).map fun column : Nat => (column : ℚ) * GAP_COST] =
        (List.range (count + 1)).map fun row => distanceRow ref hyp row (hyp.length + 1) := by
    induction count with
    | zero =>
      have first : distanceRow ref hyp 0 (hyp.length + 1) =
          (List.range (hyp.length + 1)).map fun column : Nat => (column : ℚ) * GAP_COST :=
        List.map_congr_left fun column _ => distance_zero_left _ _ column
      rw [List.range_zero, List.foldl_nil, ← first]
      rfl
    | succ row ih =>
      have previous : ((List.range (row + 1)).map fun row =>
          distanceRow ref hyp row (hyp.length + 1)).getD row [] =
            distanceRow ref hyp row (hyp.length + 1) := by
        rw [List.getD_eq_getElem?_getD, List.getElem?_map,
          List.getElem?_range (Nat.lt_succ_self row)]
        rfl
      rw [List.range_succ (n := row), List.foldl_append, ih, List.foldl_cons, List.foldl_nil,
        previous, costRow_distanceRow, List.range_succ (n := row + 1), List.map_append]
      rfl
  exact rows ref.length

theorem getD_costTable {i j : Nat} (inRef : i ≤ ref.length) (inHyp : j ≤ hyp.length) :
    ((costTable ref hyp).getD i []).getD j 0 = distance (pairCost ref hyp) GAP_COST i j := by
  have row : (costTable ref hyp).getD i [] = distanceRow ref hyp i (hyp.length + 1) := by
    rw [costTable_eq, List.getD_eq_getElem?_getD, List.getElem?_map,
      List.getElem?_range (Nat.lt_succ_of_le inRef)]
    rfl
  rw [row, getD_distanceRow (Nat.lt_succ_of_le inHyp)]

end

namespace AlignOp

def move : AlignOp → Move
  | .matched refIndex hypIndex | .sub refIndex hypIndex => .both refIndex hypIndex
  | .del refIndex => .left refIndex
  | .ins hypIndex => .right hypIndex

def isMatch : AlignOp → Bool
  | .matched _ _ => true
  | _ => false

def refIndex? (op : AlignOp) : Option Nat :=
  op.move.left?

def hypIndex? (op : AlignOp) : Option Nat :=
  op.move.right?

/-- Exactly the pairs of equal tokens are matches. -/
def Labelled : AlignOp → Prop
  | .matched refIndex hypIndex => ref.getD refIndex [] = hyp.getD hypIndex []
  | .sub refIndex hypIndex => ref.getD refIndex [] ≠ hyp.getD hypIndex []
  | _ => True

end AlignOp

/-- A monotone alignment: the indices of either list come once, in order. -/
structure AlignsTokens (ref hyp : List Token) (ops : List AlignOp) : Prop where
  ref : ops.filterMap AlignOp.refIndex? = List.range ref.length
  hyp : ops.filterMap AlignOp.hypIndex? = List.range hyp.length

def totalCost : ℚ :=
  cost (pairCost ref hyp) GAP_COST (ops.map AlignOp.move)

theorem alignsTokens_iff {ref hyp : List Token} {ops : List AlignOp} :
    AlignsTokens ref hyp ops ↔ IsAlignment ref.length hyp.length (ops.map AlignOp.move) := by
  constructor
  · rintro ⟨onRef, onHyp⟩
    exact ⟨by rw [List.filterMap_map]; exact onRef, by rw [List.filterMap_map]; exact onHyp⟩
  · rintro ⟨onRef, onHyp⟩
    rw [List.filterMap_map] at onRef onHyp
    exact ⟨onRef, onHyp⟩

section

variable {ref hyp : List Token}

theorem lt_of_abs_lt {entry candidate tolerance : ℚ} (near : |entry - candidate| < tolerance) :
    candidate < entry + tolerance := by
  have below := (abs_lt.1 near).1
  linarith

theorem epsilon_pos : 0 < EPSILON := by
  norm_num [EPSILON]

theorem near_of_eq {entry candidate : ℚ} (same : entry = candidate) :
    |entry - candidate| < EPSILON := by
  rw [same, sub_self, abs_zero]
  exact epsilon_pos

/-- From these positions the walk puts moves in front of the others that explain every entry it
comes through. -/
def WalksBack (ref hyp : List Token) (i j : Nat) (ops : List AlignOp)
    (result : Option (List AlignOp)) : Prop :=
  ∃ front, result = some (front ++ ops) ∧
    Explained (pairCost ref hyp) GAP_COST EPSILON i j (front.map AlignOp.move) ∧
    ∀ op ∈ front, op.Labelled ref hyp

theorem WalksBack.refl : WalksBack ref hyp 0 0 ops (some ops) :=
  ⟨[], rfl, .nil, fun _ none => absurd none List.not_mem_nil⟩

theorem WalksBack.concat {i j i' j' : Nat} {op : AlignOp} {ops : List AlignOp}
    {result : Option (List AlignOp)} (walks : WalksBack ref hyp i j (op :: ops) result)
    (labelled : op.Labelled ref hyp)
    (explains : ∀ moves, Explained (pairCost ref hyp) GAP_COST EPSILON i j moves →
      Explained (pairCost ref hyp) GAP_COST EPSILON i' j' (moves ++ [op.move])) :
    WalksBack ref hyp i' j' ops result := by
  obtain ⟨front, rfl, explained, others⟩ := walks
  refine ⟨front ++ [op], ?_, ?_, ?_⟩
  · rw [List.append_assoc, List.singleton_append]
  · rw [List.map_append, List.map_singleton]
    exact explains _ explained
  · intro other isOther
    rcases List.mem_append.1 isOther with isOther | isOther
    · exact others other isOther
    · rw [List.mem_singleton.1 isOther]
      exact labelled

theorem walksBack_walkBack {cost : Nat → Nat → ℚ} (table : ∀ i ≤ ref.length, ∀ j ≤ hyp.length,
      cost i j = distance (pairCost ref hyp) GAP_COST i j)
    (steps i j : Nat) (ops : List AlignOp) (enough : i + j ≤ steps) (inRef : i ≤ ref.length)
    (inHyp : j ≤ hyp.length) :
    WalksBack ref hyp i j ops (walkBack ref hyp cost steps i j ops) := by
  induction steps generalizing i j ops with
  | zero =>
    obtain ⟨rfl, rfl⟩ : i = 0 ∧ j = 0 := by omega
    exact .refl ops
  | succ steps ih =>
    rw [walkBack]
    split
    next more =>
      dsimp only
      split
      next paired =>
        obtain ⟨⟨inLeft, inRight⟩, near⟩ := paired
        obtain ⟨i, rfl⟩ := Nat.exists_eq_add_one.2 inLeft
        obtain ⟨j, rfl⟩ := Nat.exists_eq_add_one.2 inRight
        rw [Nat.add_sub_cancel, Nat.add_sub_cancel] at *
        rw [table _ inRef _ inHyp, table i (by omega) j (by omega)] at near
        refine (ih i j _ (by omega) (by omega) (by omega)).concat ?_ ?_
        · split
          next zero => exact substitutionCost_eq_zero.1 zero
          next nonzero => exact fun same => nonzero (substitutionCost_eq_zero.2 same)
        · intro moves explained
          have both := explained.both (lt_of_abs_lt near)
          split <;> exact both
      next notPaired =>
        split
        next skipped =>
          obtain ⟨inLeft, near⟩ := skipped
          obtain ⟨i, rfl⟩ := Nat.exists_eq_add_one.2 inLeft
          rw [Nat.add_sub_cancel] at *
          rw [table _ inRef _ inHyp, table i (by omega) j inHyp] at near
          exact (ih i j _ (by omega) (by omega) inHyp).concat trivial fun moves explained =>
            explained.left (lt_of_abs_lt near)
        next notSkipped =>
          -- the first column is explained by the other two moves, so it is not reached here
          cases j with
          | zero =>
            obtain ⟨i, rfl⟩ := Nat.exists_eq_add_one.2 (more.resolve_right (lt_irrefl 0))
            refine absurd ⟨Nat.succ_pos i, near_of_eq ?_⟩ notSkipped
            rw [Nat.add_sub_cancel, table _ inRef _ inHyp, table i (by omega) 0 inHyp]
            exact distance_left_zero _ _ i
          | succ j =>
            refine (ih i j _ (by omega) inRef (by omega)).concat trivial
              fun moves explained => explained.right ?_
            cases i with
            | zero => exact distance_zero_right_succ _ _ j
            | succ i =>
              rw [Nat.add_sub_cancel, Nat.add_sub_cancel] at notPaired
              rw [Nat.add_sub_cancel] at notSkipped
              rw [table _ inRef _ inHyp, table i (by omega) j (by omega)] at notPaired
              rw [table _ inRef _ inHyp, table i (by omega) _ inHyp] at notSkipped
              refine distance_right_eq _ _ (fun same => ?_) fun same => ?_
              · exact notPaired ⟨⟨Nat.succ_pos i, Nat.succ_pos j⟩, near_of_eq same⟩
              · exact notSkipped ⟨Nat.succ_pos i, near_of_eq same⟩
    next done =>
      obtain ⟨rfl, rfl⟩ : i = 0 ∧ j = 0 := by omega
      exact .refl ops

theorem alignTokens_explained (ref hyp : List Token) : ∃ ops, alignTokens ref hyp = some ops ∧
      Explained (pairCost ref hyp) GAP_COST EPSILON ref.length hyp.length (ops.map AlignOp.move) ∧
      ∀ op ∈ ops, op.Labelled ref hyp := by
  obtain ⟨ops, found, explained, labelled⟩ := @walksBack_walkBack ref hyp _
    (fun i inRef j inHyp => getD_costTable inRef inHyp) (ref.length + hyp.length) ref.length
    hyp.length [] le_rfl le_rfl le_rfl
  rw [List.append_nil] at found
  exact ⟨ops, found, explained, labelled⟩

end

/-! ## Runs of divergences -/

section

variable (ref hyp : List Token)

/-- The run that a block of steps amounts to. It starts after the tokens that come before it. -/
def divergence (block : Block AlignOp) : DivergenceRun where
  ref := (block.items.filterMap AlignOp.refIndex?).map (ref.getD · [])
  hyp := (block.items.filterMap AlignOp.hypIndex?).map (hyp.getD · [])
  refStart := (block.before.filterMap AlignOp.refIndex?).length
  hypStart := (block.before.filterMap AlignOp.hypIndex?).length

/-- The loop with these steps in its current run, after others. -/
structure DivergenceLoop.At (before items : List AlignOp) (loop : DivergenceLoop) : Prop where
  current : loop.current.toList = (finished before items).map (divergence ref hyp)
  refPos : loop.refPos = ((before ++ items).filterMap AlignOp.refIndex?).length
  hypPos : loop.hypPos = ((before ++ items).filterMap AlignOp.hypIndex?).length

variable {ref hyp} {before items : List AlignOp} {loop : DivergenceLoop}

theorem DivergenceLoop.At.opened_eq (loopAt : loop.At ref hyp before items) :
    loop.opened = divergence ref hyp { before, items } := by
  obtain ⟨current, refPos, hypPos⟩ := loopAt
  rw [DivergenceLoop.opened]
  cases items with
  | nil =>
    rw [Option.toList_eq_nil_iff.1 current, refPos, hypPos, List.append_nil]
    rfl
  | cons item rest =>
    cases isCurrent : loop.current with
    | none =>
      rw [isCurrent] at current
      exact absurd current.symm (List.cons_ne_nil _ _)
    | some run =>
      rw [isCurrent] at current
      exact List.head_eq_of_cons_eq current

/-- In an alignment every index is that of the place where it stands. -/
theorem eq_length_of_range {front back : List Nat} {index count : Nat}
    (range : front ++ index :: back = List.range count) : index = front.length := by
  have here : (List.range count)[front.length]? = some index := by
    rw [← range, List.getElem?_append_right le_rfl, Nat.sub_self]
    rfl
  obtain ⟨_, same⟩ := List.getElem?_eq_some_iff.1 here
  rw [← same, List.getElem_range]

theorem divergence_concat (op : AlignOp) : divergence ref hyp { before, items := items ++ [op] } =
      { divergence ref hyp { before, items } with
        ref := (divergence ref hyp { before, items }).ref ++
          (op.refIndex?.map (ref.getD · [])).toList
        hyp := (divergence ref hyp { before, items }).hyp ++
          (op.hypIndex?.map (hyp.getD · [])).toList } := by
  have onRef : [op].filterMap AlignOp.refIndex? = op.refIndex?.toList := by
    rw [List.filterMap_cons, List.filterMap_nil]
    cases op.refIndex? <;> rfl
  have onHyp : [op].filterMap AlignOp.hypIndex? = op.hypIndex?.toList := by
    rw [List.filterMap_cons, List.filterMap_nil]
    cases op.hypIndex? <;> rfl
  simp only [divergence, List.filterMap_append, List.map_append, onRef, onHyp, Option.toList_map]

/-- The position after a step is right, if the step takes the next token or none. -/
theorem length_filterMap_concat (index? : AlignOp → Option Nat) (op : AlignOp) (position : Nat)
    (isPosition : position = ((before ++ items).filterMap index?).length)
    (isNext : ∀ index, index? op = some index →
      index = ((before ++ items).filterMap index?).length) :
    (match index? op with
      | some index => index + 1
      | none => position) = ((before ++ (items ++ [op])).filterMap index?).length := by
  rw [← List.append_assoc, List.filterMap_append, List.length_append, List.filterMap_cons,
    List.filterMap_nil]
  cases taken : index? op with
  | none => exact isPosition
  | some index => exact congrArg (· + 1) (isNext index taken)

theorem DivergenceLoop.At.next (loopAt : loop.At ref hyp before items) {op : AlignOp}
    (isRef : ∀ index, op.refIndex? = some index →
      index = ((before ++ items).filterMap AlignOp.refIndex?).length)
    (isHyp : ∀ index, op.hypIndex? = some index →
      index = ((before ++ items).filterMap AlignOp.hypIndex?).length) :
    if op.isMatch then
      (loop.next ref hyp op).runs = loop.runs ++ (finished before items).map (divergence ref hyp) ∧
        (loop.next ref hyp op).At ref hyp (before ++ items ++ [op]) []
    else (loop.next ref hyp op).runs = loop.runs ∧
        (loop.next ref hyp op).At ref hyp before (items ++ [op]) := by
  have refPos := length_filterMap_concat AlignOp.refIndex? op loop.refPos loopAt.refPos isRef
  have hypPos := length_filterMap_concat AlignOp.hypIndex? op loop.hypPos loopAt.hypPos isHyp
  have extended : (finished before (items ++ [op])).map (divergence ref hyp) =
      [divergence ref hyp { before, items := items ++ [op] }] := by
    cases items <;> rfl
  rw [divergence_concat, ← loopAt.opened_eq] at extended
  cases op with
  | matched refIndex hypIndex =>
    refine ⟨congrArg (loop.runs ++ ·) loopAt.current, rfl, ?_, ?_⟩
    · rw [List.append_nil, List.append_assoc]
      exact refPos
    · rw [List.append_nil, List.append_assoc]
      exact hypPos
  | sub refIndex hypIndex => exact ⟨rfl, extended.symm, refPos, hypPos⟩
  | del refIndex =>
    refine ⟨rfl, extended.symm ▸ ?_, refPos, hypPos⟩
    exact congrArg (fun tokens => [{ loop.opened with
      ref := loop.opened.ref ++ [ref.getD refIndex []], hyp := tokens }])
      (List.append_nil _).symm
  | ins hypIndex =>
    refine ⟨rfl, extended.symm ▸ ?_, refPos, hypPos⟩
    exact congrArg (fun tokens => [{ loop.opened with
      hyp := loop.opened.hyp ++ [hyp.getD hypIndex []], ref := tokens }])
      (List.append_nil _).symm

theorem DivergenceLoop.At.foldl (rest : List AlignOp) (loopAt : loop.At ref hyp before items)
    (onRef : ∃ count, (before ++ items ++ rest).filterMap AlignOp.refIndex? = List.range count)
    (onHyp : ∃ count, (before ++ items ++ rest).filterMap AlignOp.hypIndex? = List.range count) :
    (rest.foldl (DivergenceLoop.next ref hyp) loop).runs ++
        (rest.foldl (DivergenceLoop.next ref hyp) loop).current.toList =
      loop.runs ++ (blocksFrom AlignOp.isMatch before items rest).map (divergence ref hyp) := by
  induction rest generalizing before items loop with
  | nil => exact congrArg (loop.runs ++ ·) loopAt.current
  | cons op rest ih =>
    have isRef : ∀ index, op.refIndex? = some index →
        index = ((before ++ items).filterMap AlignOp.refIndex?).length := by
      intro index taken
      obtain ⟨count, range⟩ := onRef
      rw [List.filterMap_append, List.filterMap_cons_some taken] at range
      exact eq_length_of_range range
    have isHyp : ∀ index, op.hypIndex? = some index →
        index = ((before ++ items).filterMap AlignOp.hypIndex?).length := by
      intro index taken
      obtain ⟨count, range⟩ := onHyp
      rw [List.filterMap_append, List.filterMap_cons_some taken] at range
      exact eq_length_of_range range
    have next := loopAt.next isRef isHyp
    rw [List.foldl_cons, blocksFrom]
    split at next
    next marked =>
      obtain ⟨runs, nextAt⟩ := next
      rw [if_pos marked, ih nextAt (by simpa using onRef) (by simpa using onHyp), runs,
        List.map_append, List.append_assoc]
    next unmarked =>
      obtain ⟨runs, nextAt⟩ := next
      rw [if_neg unmarked, ih nextAt (by simpa using onRef) (by simpa using onHyp), runs]

theorem divergenceRuns_eq {ops : List AlignOp} (aligned : AlignsTokens ref hyp ops) :
    divergenceRuns ref hyp ops = (blocks AlignOp.isMatch ops).map (divergence ref hyp) :=
  @DivergenceLoop.At.foldl ref hyp [] [] _ ops ⟨rfl, rfl, rfl⟩ ⟨_, aligned.ref⟩
    ⟨_, aligned.hyp⟩

end

/-- The alignment is complete, and its cost is the least up to the tolerance of each step; it is
the least where no step nearly explains an entry of the table without explaining it. The runs are
the blocks of its steps that are not matches. -/
theorem alignTokens_nearly_optimal :
    ∃ ops, alignTokens ref hyp = some ops ∧ AlignsTokens ref hyp ops ∧
      (∀ op ∈ ops, op.Labelled ref hyp) ∧
      (∀ other, AlignsTokens ref hyp other →
        totalCost ref hyp ops ≤ totalCost ref hyp other + ops.length * EPSILON) ∧
      (Separated (pairCost ref hyp) GAP_COST EPSILON ref.length hyp.length →
        ∀ other, AlignsTokens ref hyp other → totalCost ref hyp ops ≤ totalCost ref hyp other) ∧
      ∃ found : List (Block AlignOp),
        (∀ block ∈ found, IsBlock AlignOp.isMatch ops block) ∧ found.Pairwise Blocks.Precedes ∧
          found.flatMap Block.items = ops.filter (fun op => !op.isMatch) ∧
          divergenceRuns ref hyp ops = found.map (divergence ref hyp) := by
  obtain ⟨ops, found, explained, labelled⟩ := alignTokens_explained ref hyp
  have aligned : AlignsTokens ref hyp ops := alignsTokens_iff.2 explained.path.isAlignment
  refine ⟨ops, found, aligned, labelled, ?_, ?_, blocks AlignOp.isMatch ops,
    fun _ => isBlock_of_mem, pairwise_blocks ops, flatMap_blocks ops, divergenceRuns_eq aligned⟩
  · intro other isOther
    have least := (alignsTokens_iff.1 isOther).path.distance_le_cost (pairCost ref hyp) GAP_COST
    have near := explained.cost_le epsilon_pos
    rw [List.length_map] at near
    exact near.trans (add_le_add_left least _)
  · intro separated other isOther
    have least := (alignsTokens_iff.1 isOther).path.distance_le_cost (pairCost ref hyp) GAP_COST
    exact (explained.cost_eq separated le_rfl le_rfl).trans_le least

section

/-- Words of a few repeated letters. -/
def repeated (letters : List (Nat × CodeUnit)) : Token :=
  letters.flatMap fun run => List.replicate run.1 run.2

def nearTieRef : List Token :=
  [repeated [(2, 0x61), (8, 0x6B)], repeated [(6, 0x6B), (7, 0x77)],
    repeated [(7, 0x63), (7, 0x6B), (3, 0x78)], repeated [(5, 0x64), (5, 0x6B), (11, 0x79)],
    repeated [(9, 0x6B), (16, 0x7A)]]

def nearTieHyp : List Token :=
  [repeated [(2, 0x61), (2, 0x6D), (7, 0x77)], repeated [(13, 0x6D), (3, 0x78)],
    repeated [(7, 0x63), (1, 0x6D), (11, 0x79)], repeated [(5, 0x64), (2, 0x6D), (16, 0x7A)],
    repeated [(29, 0x6D)]]

/-- Pairing each word with its counterpart costs a little more than shifting all of them by one,
but less than the tolerance. -/
theorem alignTokens_not_least :
    ¬ ∀ (ref hyp : List Token) (ops other : List AlignOp), alignTokens ref hyp = some ops →
      AlignsTokens ref hyp other → totalCost ref hyp ops ≤ totalCost ref hyp other := by
  intro claim
  have dearer := claim nearTieRef nearTieHyp [.sub 0 0, .sub 1 1, .sub 2 2, .sub 3 3, .sub 4 4]
    [.del 0, .sub 1 0, .sub 2 1, .sub 3 2, .sub 4 3, .ins 4] (by decide +kernel)
    ⟨by decide, by decide⟩
  exact absurd dearer (by decide +kernel)

end

end Sokar
