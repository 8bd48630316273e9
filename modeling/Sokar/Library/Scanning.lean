import Mathlib.Data.List.Infix

/-!
# Replacing what a pattern finds

A pattern is tried at each place of a list from the left, and the items of a match are passed over.
What it says of a place may depend on the item before.  Replacing all matches works part by part
where no match reaches from one part into the next; and nothing is left that the pattern would have
found, as long as no replacement looks like a part of it.
-/

namespace Scanning

variable {α : Type*}

/-- How long the match of a pattern at the start of the items is, given the item before them. -/
structure Matcher (α : Type*) where
  match? : Option α → List α → Option Nat
  positive : ∀ {before : Option α} {items : List α} {length : Nat},
    match? before items = some length → 0 < length
  fits : ∀ {before : Option α} {items : List α} {length : Nat},
    match? before items = some length → length ≤ items.length

/-- An item at which there was no match, or the items of a match. -/
inductive Piece (α : Type*) where
  | kept (item : α)
  | found (items : List α)

namespace Piece

def items : Piece α → List α
  | kept item => [item]
  | found items => items

/-- What the pattern said at the start of the piece. -/
def match? : Piece α → Option Nat
  | kept _ => none
  | found items => some items.length

def replaced (replacement : List α → List α) : Piece α → List α
  | kept item => [item]
  | found items => replacement items

def found? : Piece α → Option (List α)
  | kept _ => none
  | found items => some items

@[simp] theorem items_kept (item : α) : (kept item).items = [item] := rfl

@[simp] theorem items_found (items : List α) : (found items).items = items := rfl

@[simp] theorem match?_kept (item : α) : (kept item).match? = none := rfl

end Piece

namespace Matcher

variable (matcher : Matcher α)

def pieces : (before : Option α) → (passed : Nat) → List α → List (Piece α)
  | _, _, [] => []
  | _, passed + 1, item :: rest => pieces (some item) passed rest
  | before, 0, item :: rest =>
    match matcher.match? before (item :: rest) with
    | none => .kept item :: pieces (some item) 0 rest
    | some length => .found ((item :: rest).take length) :: pieces (some item) (length - 1) rest

def replace (replacement : List α → List α) (items : List α) : List α :=
  (matcher.pieces none 0 items).flatMap (·.replaced replacement)

variable {matcher} {before : Option α} {passed : Nat} {items front back : List α}

theorem match?_nil : matcher.match? before [] = none := by
  cases found : matcher.match? before [] with
  | none => rfl
  | some length => exact absurd (matcher.fits found) (not_le.2 (matcher.positive found))

variable {item : α}

theorem pieces_of_none {rest : List α} (unmatched : matcher.match? before (item :: rest) = none) :
    matcher.pieces before 0 (item :: rest) = .kept item :: matcher.pieces (some item) 0 rest := by
  rw [pieces, unmatched]

section

variable {rest : List α} {length : Nat}
variable (matched : matcher.match? before (item :: rest) = some length)
include matched

theorem pieces_of_some : matcher.pieces before 0 (item :: rest) =
      .found ((item :: rest).take length) :: matcher.pieces (some item) (length - 1) rest := by
  rw [pieces, matched]

theorem take_of_match : (item :: rest).take length = item :: rest.take (length - 1) := by
  obtain ⟨more, rfl⟩ := Nat.exists_eq_succ_of_ne_zero (matcher.positive matched).ne'
  rfl

end

theorem items_pieces (before : Option α) (passed : Nat) (items : List α) :
    (matcher.pieces before passed items).flatMap Piece.items = items.drop passed := by
  induction items generalizing before passed with
  | nil => simp [pieces]
  | cons item rest ih =>
    cases passed with
    | succ passed => exact ih _ _
    | zero =>
      cases matched : matcher.match? before (item :: rest) with
      | none => simp [pieces_of_none matched, ih]
      | some length => simp [pieces_of_some matched, take_of_match matched, ih]

theorem getLast?_cons_or (item : α) (rest : List α) (before : Option α) :
    (item :: rest).getLast?.or before = rest.getLast?.or (some item) := by
  rw [List.getLast?_cons]
  cases rest.getLast? <;> rfl

/-- What the pattern said of each piece when it came to it. -/
theorem match?_of_piece {piece : Piece α} {earlier later : List (Piece α)}
    (isPiece : matcher.pieces before passed items = earlier ++ piece :: later) :
    matcher.match? ((items.take passed ++ earlier.flatMap Piece.items).getLast?.or before)
      (piece.items ++ later.flatMap Piece.items) = piece.match? := by
  induction items generalizing before passed earlier with
  | nil => simp [pieces] at isPiece
  | cons item rest ih =>
    cases passed with
    | succ passed =>
      rw [List.take_succ_cons, List.cons_append, getLast?_cons_or]
      exact ih isPiece
    | zero =>
      cases matched : matcher.match? before (item :: rest) with
      | none =>
        rw [pieces_of_none matched] at isPiece
        cases earlier with
        | nil =>
          obtain ⟨rfl, rfl⟩ := List.cons.inj isPiece
          simpa [items_pieces] using matched
        | cons first earlier =>
          obtain ⟨rfl, isLater⟩ := List.cons.inj isPiece
          have said := ih isLater
          rw [List.take_zero, List.nil_append] at said ⊢
          rw [List.flatMap_cons, Piece.items_kept, List.singleton_append, getLast?_cons_or]
          exact said
      | some length =>
        have whole := take_of_match matched
        have fits := matcher.fits matched
        rw [pieces_of_some matched, whole] at isPiece
        cases earlier with
        | nil =>
          obtain ⟨rfl, rfl⟩ := List.cons.inj isPiece
          have isLength : (item :: rest.take (length - 1)).length = length := by
            rw [← whole, List.length_take, Nat.min_eq_left fits]
          rw [items_pieces, Piece.items_found, List.cons_append, List.take_append_drop]
          exact matched.trans (congrArg some isLength.symm)
        | cons first earlier =>
          obtain ⟨rfl, isLater⟩ := List.cons.inj isPiece
          have said := ih isLater
          rw [List.take_zero, List.nil_append, List.flatMap_cons, Piece.items_found,
            List.cons_append, getLast?_cons_or]
          exact said

/-- Where no match of the front looks at what comes next, the back is scanned on its own. -/
theorem pieces_append (short : passed ≤ front.length)
    (blind : ∀ before rest, rest ≠ [] → rest <:+ front →
      matcher.match? before (rest ++ back) = matcher.match? before rest) :
    matcher.pieces before passed (front ++ back) =
      matcher.pieces before passed front ++ matcher.pieces (front.getLast?.or before) 0 back := by
  induction front generalizing before passed with
  | nil =>
    obtain rfl : passed = 0 := Nat.le_zero.1 short
    rfl
  | cons item rest ih =>
    have blindRest : ∀ before some_, some_ ≠ [] → some_ <:+ rest →
        matcher.match? before (some_ ++ back) = matcher.match? before some_ :=
      fun before some_ nonempty ends =>
        blind before some_ nonempty (ends.trans (List.suffix_cons item rest))
    rw [getLast?_cons_or]
    cases passed with
    | succ passed => exact ih (Nat.le_of_succ_le_succ short) blindRest
    | zero =>
      have same := blind before (item :: rest) (List.cons_ne_nil item rest) (List.suffix_refl _)
      rw [List.cons_append] at same ⊢
      cases matched : matcher.match? before (item :: rest) with
      | none =>
        rw [pieces_of_none matched, pieces_of_none (same.trans matched),
          ih (Nat.zero_le _) blindRest, List.cons_append]
      | some length =>
        have fits := matcher.fits matched
        rw [pieces_of_some matched, pieces_of_some (same.trans matched),
          ih (by rw [List.length_cons] at fits; omega) blindRest]
        have taken : (item :: (rest ++ back)).take length = (item :: rest).take length :=
          List.take_append_of_le_length fits
        rw [taken, List.cons_append]

theorem pieces_passed (before : Option α) (front back : List α) :
    matcher.pieces before front.length (front ++ back) =
      matcher.pieces (front.getLast?.or before) 0 back := by
  induction front generalizing before with
  | nil => rfl
  | cons item rest ih =>
    rw [getLast?_cons_or]
    exact ih (some item)

/-! ## Patterns that do not look back -/

/-- The pattern does not look at the item before. -/
def Forward (matcher : Matcher α) : Prop :=
  ∀ before items, matcher.match? before items = matcher.match? none items

theorem Forward.pieces (forward : matcher.Forward) (before : Option α) (passed : Nat)
    (items : List α) :
    matcher.pieces before passed items = matcher.pieces none 0 (items.drop passed) := by
  induction items generalizing before passed with
  | nil => simp [Matcher.pieces]
  | cons item rest ih =>
    cases passed with
    | succ passed => exact ih _ _
    | zero =>
      rw [List.drop_zero, Matcher.pieces, Matcher.pieces, forward]

/-- No match reaches the item. -/
def Stops (matcher : Matcher α) (item : α) : Prop :=
  ∀ before rest later, matcher.match? before (rest ++ item :: later) = matcher.match? before rest

theorem replace_append_cons (forward : matcher.Forward) (stops : matcher.Stops item)
    (replacement : List α → List α) :
    matcher.replace replacement (front ++ item :: back) =
      matcher.replace replacement front ++ item :: matcher.replace replacement back := by
  have unmatched : matcher.match? (front.getLast?.or none) (item :: back) = none :=
    (stops _ [] back).trans match?_nil
  rw [replace, pieces_append (Nat.zero_le _) fun before rest _ _ => stops before rest back,
    pieces_of_none unmatched, forward.pieces (some item)]
  simp [replace, Piece.replaced]

theorem replace_append (forward : matcher.Forward)
    (blind : ∀ before rest, rest ≠ [] → rest <:+ front →
      matcher.match? before (rest ++ back) = matcher.match? before rest)
    (replacement : List α → List α) :
    matcher.replace replacement (front ++ back) =
      matcher.replace replacement front ++ matcher.replace replacement back := by
  rw [replace, pieces_append (Nat.zero_le _) blind, forward.pieces (front.getLast?.or none),
    List.flatMap_append]
  rfl

theorem replace_of_match (forward : matcher.Forward) {rest later : List α}
    (matched : matcher.match? none (item :: (rest ++ later)) = some (rest.length + 1))
    (replacement : List α → List α) :
    matcher.replace replacement (item :: (rest ++ later)) =
      replacement (item :: rest) ++ matcher.replace replacement later := by
  rw [replace, pieces_of_some matched, forward.pieces]
  simp [replace, Piece.replaced]

theorem replace_of_none (forward : matcher.Forward)
    (unmatched : ∀ rest, rest <:+ items → matcher.match? none rest = none)
    (replacement : List α → List α) : matcher.replace replacement items = items := by
  induction items with
  | nil => rfl
  | cons item rest ih =>
    have none_ := unmatched (item :: rest) (List.suffix_refl _)
    have others := ih fun some_ ends => unmatched some_ (ends.trans (List.suffix_cons item rest))
    rw [replace, pieces_of_none none_, forward.pieces (some item), List.flatMap_cons]
    exact congrArg (item :: ·) others

variable {replacement : List α → List α}

theorem mem_replace (isLeft : item ∈ matcher.replace replacement items) :
    item ∈ items ∨ ∃ found, item ∈ replacement found := by
  obtain ⟨piece, isPiece, isItem⟩ := List.mem_flatMap.1 isLeft
  cases piece with
  | kept kept =>
    have whole := @items_pieces _ matcher none 0 items
    rw [List.drop_zero] at whole
    exact .inl (whole ▸ List.mem_flatMap.2 ⟨_, isPiece, isItem⟩)
  | found found => exact .inr ⟨found, isItem⟩

variable {Plain : α → Prop}

theorem kept_of_prefix {pieces : List (Piece α)} {middle rest : List α}
    (replacedBy : ∀ found, replacement found ≠ [] ∧ ∀ item ∈ replacement found, ¬Plain item)
    (plain : ∀ item ∈ middle, Plain item)
    (shown : pieces.flatMap (·.replaced replacement) = middle ++ rest) :
    ∃ later, pieces = middle.map .kept ++ later := by
  induction middle generalizing pieces with
  | nil => exact ⟨pieces, rfl⟩
  | cons item middle ih =>
    have isPlain := plain item List.mem_cons_self
    cases pieces with
    | nil => cases shown
    | cons piece pieces =>
      cases piece with
      | kept kept =>
        obtain ⟨rfl, shownLater⟩ := List.cons.inj shown
        obtain ⟨later, rfl⟩ :=
          ih (fun item isItem => plain item (List.mem_cons_of_mem _ isItem)) shownLater
        exact ⟨later, rfl⟩
      | found found =>
        obtain ⟨nonempty, others⟩ := replacedBy found
        obtain ⟨first, more, isFirst⟩ := List.exists_cons_of_ne_nil nonempty
        rw [List.flatMap_cons, Piece.replaced, isFirst] at shown
        have same := (List.cons.inj shown).1
        exact absurd (same ▸ isPlain) (others first (isFirst ▸ List.mem_cons_self))

theorem kept_of_infix {pieces : List (Piece α)} {front middle back : List α}
    (replacedBy : ∀ found, replacement found ≠ [] ∧ ∀ item ∈ replacement found, ¬Plain item)
    (nonempty : middle ≠ []) (plain : ∀ item ∈ middle, Plain item)
    (shown : pieces.flatMap (·.replaced replacement) = front ++ (middle ++ back)) :
    ∃ earlier later, pieces = earlier ++ (middle.map .kept ++ later) := by
  induction pieces generalizing front with
  | nil =>
    obtain ⟨-, empty⟩ := List.append_eq_nil_iff.1 shown.symm
    exact absurd (List.append_eq_nil_iff.1 empty).1 nonempty
  | cons piece pieces ih =>
    rw [List.flatMap_cons] at shown
    rcases List.append_eq_append_iff.1 shown with ⟨later, -, isRest⟩ | ⟨cut, isPiece, isRest⟩
    · obtain ⟨earlier, later, rfl⟩ := ih isRest
      exact ⟨piece :: earlier, later, rfl⟩
    · cases piece with
      | kept kept =>
        cases front with
        | nil =>
          have whole : (Piece.kept kept :: pieces).flatMap (·.replaced replacement) =
              middle ++ back := by
            rw [List.flatMap_cons, shown, List.nil_append]
          obtain ⟨later, isKept⟩ := kept_of_prefix replacedBy plain whole
          exact ⟨[], later, isKept⟩
        | cons first front =>
          obtain ⟨-, isEnd⟩ := List.cons.inj (isPiece.trans (List.cons_append ..))
          obtain ⟨rfl, rfl⟩ := List.append_eq_nil_iff.1 isEnd.symm
          obtain ⟨earlier, later, rfl⟩ := @ih [] isRest.symm
          exact ⟨Piece.kept kept :: earlier, later, rfl⟩
      | found found =>
        -- The middle would begin within the replacement.
        cases cut with
        | nil =>
          obtain ⟨earlier, later, rfl⟩ := @ih [] isRest.symm
          exact ⟨Piece.found found :: earlier, later, rfl⟩
        | cons item cut =>
          obtain ⟨first, more, rfl⟩ := List.exists_cons_of_ne_nil nonempty
          have same : item = first := (List.cons.inj isRest).1.symm
          have inReplacement : item ∈ replacement found := by
            rw [show replacement found = front ++ item :: cut from isPiece]
            exact List.mem_append_right _ List.mem_cons_self
          exact absurd (same ▸ plain first List.mem_cons_self)
            ((replacedBy found).2 item inReplacement)

section

variable {middle : List α}
variable (replacedBy : ∀ found, replacement found ≠ [] ∧ ∀ item ∈ replacement found, ¬Plain item)
variable (nonempty : middle ≠ []) (plain : ∀ item ∈ middle, Plain item)
include replacedBy nonempty plain

/-- Nothing is left that the pattern would find whatever stands around it. -/
theorem not_found_in_replace
    (finds : ∀ before later, matcher.match? before (middle ++ later) ≠ none)
    (shown : matcher.replace replacement items = front ++ (middle ++ back)) : False := by
  obtain ⟨earlier, later, isKept⟩ := kept_of_infix replacedBy nonempty plain shown
  obtain ⟨first, more, rfl⟩ := List.exists_cons_of_ne_nil nonempty
  rw [List.map_cons, List.cons_append] at isKept
  have said := match?_of_piece isKept
  have rest : (more.map Piece.kept ++ later).flatMap Piece.items =
      more ++ later.flatMap Piece.items := by
    simp [List.flatMap_append, List.flatMap_map]
  rw [rest] at said
  exact finds _ _ said

/-- What looks like no replacement was there before. -/
theorem infix_of_replace (shown : matcher.replace replacement items = front ++ (middle ++ back)) :
    ∃ front back, items = front ++ (middle ++ back) := by
  obtain ⟨earlier, later, isKept⟩ := kept_of_infix replacedBy nonempty plain shown
  refine ⟨earlier.flatMap Piece.items, later.flatMap Piece.items, ?_⟩
  have whole := @items_pieces _ matcher none 0 items
  rw [isKept, List.drop_zero] at whole
  rw [← whole]
  simp [List.flatMap_append, List.flatMap_map]

end

end Matcher

end Scanning
