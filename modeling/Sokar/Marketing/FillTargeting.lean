import Mathlib.Algebra.Order.Ring.Star
import Mathlib.Data.Int.ConditionallyCompleteOrder
import Mathlib.Data.Prod.Lex
import Mathlib.Data.Rat.Floor
import Mathlib.Data.Rat.Star
import Sokar.Library.StableSort
import Sokar.Shared.Time

/-!
# The audience of a service to fill

`fill-targeting`.  The best ranked customers are told of a quiet service, as few as are expected to
fill it.  A share of them is told nothing, for comparison.  Probabilities and rates are exact.
-/

namespace Sokar.Marketing

inductive FillTier where
  | CRENEAU | REGULIER | CONNU | SANS_VISITE
  deriving DecidableEq

def TIER_PROBABILITY : FillTier → ℚ
  | .CRENEAU => 3 / 10
  | .REGULIER => 15 / 100
  | .CONNU => 8 / 100
  | .SANS_VISITE => 3 / 100

def MIN_PROBABILITY : ℚ := 5 / 100

def TIER_ORDER : List FillTier := [.CRENEAU, .REGULIER, .CONNU, .SANS_VISITE]

structure VisitStats where
  slotVisits : Nat
  lastAt : Instant

structure FillCandidate (Member : Type) where
  member : Member
  stats : VisitStats
  tier : FillTier

variable {Member : Type}

/-- The order of the audience, the least first. -/
def FillCandidate.rank (candidate : FillCandidate Member) : ℕ ×ₗ ℕᵒᵈ ×ₗ ℤᵒᵈ :=
  toLex (TIER_ORDER.idxOf candidate.tier,
    toLex (OrderDual.toDual candidate.stats.slotVisits, OrderDual.toDual candidate.stats.lastAt))

structure FillArgs (Member : Type) where
  candidates : List (FillCandidate Member)
  emptyPlaces : ℚ
  groupSize : ℚ
  holdoutRate : ℚ
  maxSends : Int

namespace FillArgs

variable (args : FillArgs Member)

def ranked : List (FillCandidate Member) :=
  (args.candidates.filter fun candidate => MIN_PROBABILITY ≤ TIER_PROBABILITY candidate.tier)
    |>.insertionSort fun one other => one.rank ≤ other.rank

/-- `Math.round(size * holdoutRate)`. -/
def holdouts (size : Nat) : Int :=
  ⌊size * args.holdoutRate + 1 / 2⌋

def sends (size : Nat) : Int :=
  size - args.holdouts size

def expectedOf (candidate : FillCandidate Member) : ℚ :=
  TIER_PROBABILITY candidate.tier * args.groupSize * (1 - args.holdoutRate)

/-- The loop over the ranked candidates. -/
def addWhileNeeded : List (FillCandidate Member) → List (FillCandidate Member) → ℚ →
    List (FillCandidate Member)
  | [], audience, _ => audience
  | candidate :: rest, audience, expected =>
    if args.emptyPlaces ≤ expected then audience
    else if args.maxSends < args.sends (audience.length + 1) then audience
    else addWhileNeeded rest (audience ++ [candidate]) (expected + args.expectedOf candidate)

def selectFillAudience : List (FillCandidate Member) :=
  if args.emptyPlaces ≤ 0 ∨ args.maxSends ≤ 0 then [] else args.addWhileNeeded args.ranked [] 0

def expected (audience : List (FillCandidate Member)) : ℚ :=
  (audience.map args.expectedOf).sum

/-- The first candidates, as far as their expected covers and the cap leave room for one more. -/
structure Fills (candidates audience : List (FillCandidate Member)) : Prop where
  isPrefix : audience <+: candidates
  needed : ∀ shorter, shorter <+: audience → shorter ≠ audience →
    args.expected shorter < args.emptyPlaces ∧ args.sends (shorter.length + 1) ≤ args.maxSends
  enough : audience = candidates ∨ args.emptyPlaces ≤ args.expected audience ∨
    args.maxSends < args.sends (audience.length + 1)

variable {args}

theorem expected_concat (audience : List (FillCandidate Member)) (candidate : FillCandidate Member) :
    args.expected (audience ++ [candidate]) = args.expected audience + args.expectedOf candidate := by
  simp [expected]

theorem addWhileNeeded_fills {rest audience : List (FillCandidate Member)}
    (needed : ∀ shorter, shorter <+: audience → shorter ≠ audience →
      args.expected shorter < args.emptyPlaces ∧ args.sends (shorter.length + 1) ≤ args.maxSends) :
    args.Fills (audience ++ rest) (args.addWhileNeeded rest audience (args.expected audience)) := by
  induction rest generalizing audience with
  | nil => exact ⟨List.prefix_append _ _, needed, .inl (List.append_nil _).symm⟩
  | cons candidate rest ih =>
    rw [addWhileNeeded]
    split_ifs with reached full
    · exact ⟨List.prefix_append _ _, needed, .inr (.inl reached)⟩
    · exact ⟨List.prefix_append _ _, needed, .inr (.inr full)⟩
    · rw [← expected_concat, List.append_cons]
      apply ih
      intro shorter isPrefix other
      rcases List.prefix_concat_iff.1 isPrefix with whole | before
      · exact absurd whole other
      · by_cases all : shorter = audience
        · subst all
          exact ⟨not_le.1 reached, not_lt.1 full⟩
        · exact needed shorter before all

theorem sends_mono (rate : 0 ≤ args.holdoutRate ∧ args.holdoutRate ≤ 1) : Monotone args.sends := by
  apply monotone_nat_of_le_succ
  intro size
  have grows : args.holdouts (size + 1) ≤ args.holdouts size + 1 := by
    rw [holdouts, holdouts, ← Int.floor_add_one]
    apply Int.floor_le_floor
    rw [Nat.cast_succ, add_one_mul]
    linarith [rate.2]
  rw [sends, sends, Nat.cast_succ]
  omega

end FillArgs

/-- Three guests of a Friday and one who never came, for four places; two of them may be told. -/
def friday : FillArgs String where
  candidates :=
    [⟨"a", ⟨2, 0⟩, .CRENEAU⟩, ⟨"b", ⟨4, 0⟩, .CRENEAU⟩, ⟨"c", ⟨0, 0⟩, .SANS_VISITE⟩,
      ⟨"d", ⟨0, 0⟩, .REGULIER⟩]
  emptyPlaces := 4
  groupSize := 2
  holdoutRate := 3 / 10
  maxSends := 2

end Sokar.Marketing
