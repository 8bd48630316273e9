import Mathlib.Data.List.Basic

/-!
# Blocks between marks

Some elements of a list are marks. The others stand in blocks, each as long as it can be: nothing
or a mark is next to either end.
-/

namespace Blocks

variable {α : Type*}

/-- Neighbouring elements, with all that comes before them. -/
structure Block (α : Type*) where
  before : List α
  items : List α

variable (mark : α → Bool)

structure IsBlock (whole : List α) (block : Block α) : Prop where
  nonempty : block.items ≠ []
  unmarked : ∀ item ∈ block.items, mark item = false
  start : ∀ item ∈ block.before.getLast?, mark item = true
  stop : ∃ after, whole = block.before ++ block.items ++ after ∧
    ∀ item ∈ after.head?, mark item = true

/-- The block that has been collected, if it has an element. -/
def finished (before items : List α) : List (Block α) :=
  if items.isEmpty then [] else [{ before, items }]

/-- The blocks of a list, from the elements before the current block, those of the block so far
and the rest. -/
def blocksFrom (before items : List α) : List α → List (Block α)
  | [] => finished before items
  | item :: rest =>
    if mark item then finished before items ++ blocksFrom (before ++ items ++ [item]) [] rest
    else blocksFrom before (items ++ [item]) rest

variable (whole : List α)

def blocks : List (Block α) :=
  blocksFrom mark [] [] whole

section

variable {before items : List α}

theorem flatMap_finished : (finished before items).flatMap Block.items = items := by
  cases items with
  | nil => rfl
  | cons item rest => exact List.append_nil _

theorem eq_of_mem_finished {block : Block α} (member : block ∈ finished before items) :
    block = { before, items } ∧ items ≠ [] := by
  cases items with
  | nil => exact absurd member List.not_mem_nil
  | cons item rest => exact ⟨List.mem_singleton.1 member, List.cons_ne_nil _ _⟩

theorem pairwise_finished (relation : Block α → Block α → Prop) :
    (finished before items).Pairwise relation := by
  cases items with
  | nil => exact List.Pairwise.nil
  | cons item rest => exact List.pairwise_singleton _ _

end

variable {mark}

/-- The blocks hold the elements that are not marks, in order. -/
theorem flatMap_blocksFrom (rest before items : List α) :
    (blocksFrom mark before items rest).flatMap Block.items =
      items ++ rest.filter fun item => !mark item := by
  induction rest generalizing before items with
  | nil => rw [blocksFrom, flatMap_finished, List.filter_nil, List.append_nil]
  | cons item rest ih =>
    rw [blocksFrom]
    split
    next marked =>
      rw [List.flatMap_append, flatMap_finished, ih, List.nil_append,
        List.filter_cons_of_neg (by simp [marked])]
    next unmarked =>
      rw [ih, List.filter_cons_of_pos (by simp [unmarked]), List.append_assoc,
        List.singleton_append]

theorem flatMap_blocks :
    (blocks mark whole).flatMap Block.items = whole.filter fun item => !mark item :=
  (flatMap_blocksFrom whole [] []).trans (List.nil_append _)

theorem isBlock_of_mem_blocksFrom {rest before items : List α}
    (start : ∀ item ∈ before.getLast?, mark item = true)
    (unmarked : ∀ item ∈ items, mark item = false) {block : Block α}
    (member : block ∈ blocksFrom mark before items rest) :
    IsBlock mark (before ++ items ++ rest) block := by
  induction rest generalizing before items with
  | nil =>
    obtain ⟨rfl, nonempty⟩ := eq_of_mem_finished member
    exact ⟨nonempty, unmarked, start, [], rfl, fun _ none => (nomatch none)⟩
  | cons item rest ih =>
    rw [blocksFrom] at member
    split at member
    next marked =>
      rcases List.mem_append.1 member with here | later
      · obtain ⟨rfl, nonempty⟩ := eq_of_mem_finished here
        refine ⟨nonempty, unmarked, start, item :: rest, rfl, fun first isFirst => ?_⟩
        obtain rfl : item = first := Option.some_inj.1 isFirst
        exact marked
      · have found := @ih (before ++ items ++ [item]) [] (by
          intro last isLast
          rw [List.getLast?_concat] at isLast
          obtain rfl : item = last := Option.some_inj.1 isLast
          exact marked) (fun _ none => absurd none List.not_mem_nil) later
        rw [List.append_nil, List.append_assoc, List.singleton_append] at found
        exact found
    next notMarked =>
      have found := @ih before (items ++ [item]) start (by
        intro other isOther
        rcases List.mem_append.1 isOther with isOther | isOther
        · exact unmarked other isOther
        · rw [List.mem_singleton.1 isOther]
          exact Bool.eq_false_iff.2 notMarked) member
      rw [List.append_assoc before, List.append_assoc items, List.singleton_append,
        ← List.append_assoc] at found
      exact found

theorem isBlock_of_mem {whole : List α} {block : Block α} (member : block ∈ blocks mark whole) :
    IsBlock mark whole block :=
  isBlock_of_mem_blocksFrom
    (show ∀ item ∈ ([] : List α).getLast?, mark item = true from fun _ none => (nomatch none))
    (fun _ (none : _ ∈ []) => absurd none List.not_mem_nil) member

/-- A block begins where or after the collected one does. -/
theorem length_le_of_mem_blocksFrom {rest before items : List α} {block : Block α}
    (member : block ∈ blocksFrom mark before items rest) :
    before.length ≤ block.before.length := by
  induction rest generalizing before items with
  | nil =>
    obtain ⟨rfl, _⟩ := eq_of_mem_finished member
    exact Nat.le_refl _
  | cons item rest ih =>
    rw [blocksFrom] at member
    split at member
    next =>
      rcases List.mem_append.1 member with here | later
      · obtain ⟨rfl, _⟩ := eq_of_mem_finished here
        exact Nat.le_refl _
      · have within := ih later
        rw [List.append_assoc, List.length_append] at within
        exact Nat.le_trans (Nat.le_add_right _ _) within
    next => exact ih member

/-- One block ends before the next one begins. -/
def Precedes (first second : Block α) : Prop :=
  first.before.length + first.items.length < second.before.length

theorem pairwise_blocksFrom (rest before items : List α) :
    (blocksFrom mark before items rest).Pairwise Precedes := by
  induction rest generalizing before items with
  | nil => exact pairwise_finished _
  | cons item rest ih =>
    rw [blocksFrom]
    split
    next =>
      refine List.pairwise_append.2 ⟨pairwise_finished _, ih _ _, ?_⟩
      intro first isFirst second isSecond
      have later := length_le_of_mem_blocksFrom isSecond
      rw [(eq_of_mem_finished isFirst).1]
      rw [List.length_append, List.length_append] at later
      exact later
    next => exact ih _ _

theorem pairwise_blocks : (blocks mark whole).Pairwise Precedes :=
  pairwise_blocksFrom whole [] []

end Blocks
