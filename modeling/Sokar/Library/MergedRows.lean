import Mathlib.Order.Bounds.Basic
import Sokar.Library.Merging

/-!
# What the target has of merged rows

One row for each key, if it had no two of its own, and in it what the fold over the rows that meet
under the key gives.  A column that the map follows is the greatest of theirs; one that the map
forgets is that of the first and the last row.
-/

namespace Merging

variable {Row Id Owner Key : Type}
variable {merging : Merging Row Id Owner Key} {target : Owner} {sources : List Owner}

section

variable [DecidableEq Id] [DecidableEq Owner] [DecidableEq Key]
variable {rows taken : List Row} {source row : Row} {key : Key}

/-! ## The rows of the target -/

def HasOne (merging : Merging Row Id Owner Key) (target : Owner) (rows : List Row) (key : Key) :
    Prop :=
  ∀ row ∈ rows, ∀ other ∈ rows, merging.owner row = target → merging.owner other = target →
    merging.key row = key → merging.key other = key → row = other

omit [DecidableEq Id] [DecidableEq Owner] [DecidableEq Key] in
theorem hasOne_of_index (unique : (rows.map fun row => (merging.owner row, merging.key row)).Nodup) :
    HasOne merging target rows key := by
  intro row isRow other isOther isTargets isTargets' isKey isKey'
  refine List.inj_on_of_nodup_map unique isRow isOther ?_
  rw [Prod.mk.injEq]
  exact ⟨isTargets.trans isTargets'.symm, isKey.trans isKey'.symm⟩

theorem key_of_outcome (areRows : ∀ row ∈ taken, row ∈ rows) {row' : Row}
    (has : merging.outcome target rows taken row = some row') :
    merging.key row' = merging.key row := by
  unfold outcome at has
  split at has
  next => exact congrArg merging.key (Option.some.inj has).symm
  next cell present =>
    split at has
    next =>
      cases has
      exact (isOf_cellOf areRows present).keyed
    next =>
      split at has
      next => cases has
      next => exact congrArg merging.key (Option.some.inj has).symm

variable {cell : Cell Row}

theorem mem_merged (separate : Separate merging target sources rows)
    (present : merging.cellOf target rows (merging.sourceRows sources rows) key = some cell) :
    (row ∈ rows.filterMap (merging.outcome target rows (merging.sourceRows sources rows)) ∧
        merging.owner row = target ∧ merging.key row = key) ↔
      row = cell.stored ∨ row ∈ rows ∧ merging.owner row = target ∧ merging.key row = key ∧
        merging.id row ≠ merging.id cell.stored := by
  have areRows : ∀ row ∈ merging.sourceRows sources rows, row ∈ rows :=
    fun row isSource => (List.mem_filter.1 isSource).1
  have isOf := isOf_cellOf areRows present
  constructor
  · rintro ⟨isMerged, isTargets, isKey⟩
    obtain ⟨before, isBefore, has⟩ := List.mem_filterMap.1 isMerged
    have sameKey : merging.key before = key := (key_of_outcome areRows has).symm.trans isKey
    rw [outcome, sameKey, present] at has
    dsimp only at has
    split at has
    next => exact .inl (Option.some.inj has).symm
    next differs =>
      split at has
      next => cases has
      next =>
        cases has
        exact .inr ⟨isBefore, isTargets, isKey, Ne.symm differs⟩
  · rintro (rfl | ⟨isRow, isTargets, isKey, differs⟩)
    · obtain ⟨before, isBefore, sameId, sameKey, -⟩ := isOf.stored
      refine ⟨List.mem_filterMap.2 ⟨before, isBefore, ?_⟩, isOf.owned, isOf.keyed⟩
      rw [outcome, sameKey, present]
      exact if_pos sameId.symm
    · have untaken : ((merging.sourceRows sources rows).any fun other =>
          merging.id other == merging.id row) = false := by
        rw [List.any_eq_false]
        intro other isSource same
        have isRow' := List.inj_on_of_nodup_map separate.unique (areRows other isSource) isRow
          (beq_iff_eq.1 same)
        rw [← isRow'] at isTargets
        exact separate.waiting.others other isSource isTargets
      refine ⟨List.mem_filterMap.2 ⟨row, isRow, ?_⟩, isTargets, isKey⟩
      rw [outcome, isKey, present]
      simp [Ne.symm differs, untaken]

omit [DecidableEq Id] [DecidableEq Owner] [DecidableEq Key] in
theorem id_stored_cellAfter {cell cell' : Cell Row} {taken : List Row}
    (after : merging.cellAfter target (some cell) taken = some cell') :
    merging.id cell'.stored = merging.id cell.stored := by
  induction taken generalizing cell with
  | nil =>
    cases after
    rfl
  | cons source rest ih => exact (ih after).trans (merging.id_absorb ..)

theorem exists_only_iff (separate : Separate merging target sources rows)
    (present : merging.cellOf target rows (merging.sourceRows sources rows) key = some cell)
    (good : Row → Prop) :
    (∃ row, (∀ other, other ∈ rows.filterMap
          (merging.outcome target rows (merging.sourceRows sources rows)) ∧
        merging.owner other = target ∧ merging.key other = key ↔ other = row) ∧ good row) ↔
      HasOne merging target rows key ∧ good cell.stored := by
  simp only [mem_merged separate present]
  constructor
  · rintro ⟨row, only, isGood⟩
    cases (only cell.stored).1 (.inl rfl)
    have isStored : ∀ other ∈ rows, merging.owner other = target → merging.key other = key →
        merging.id other = merging.id cell.stored := by
      intro other isRow isTargets isKey
      by_contra differs
      have same := (only other).1 (.inr ⟨isRow, isTargets, isKey, differs⟩)
      exact differs (congrArg merging.id same)
    refine ⟨fun row isRow other isOther isTargets isTargets' isKey isKey' => ?_, isGood⟩
    exact List.inj_on_of_nodup_map separate.unique isRow isOther
      ((isStored row isRow isTargets isKey).trans (isStored other isOther isTargets' isKey').symm)
  · rintro ⟨hasOne, isGood⟩
    refine ⟨cell.stored, fun other => ⟨fun isThere => ?_, .inl⟩, isGood⟩
    rcases isThere with rfl | ⟨isRow, isTargets, isKey, differs⟩
    · rfl
    · -- The target's only row under the key is the held one, which is the row that is there.
      obtain ⟨held, isHeld⟩ := Option.isSome_iff_exists.1 (heldBy_isSome isRow isTargets)
      rw [isKey] at isHeld
      obtain ⟨isRow', isTargets', isKey'⟩ := mem_of_heldBy isHeld
      cases hasOne other isRow held isRow' isTargets isTargets' isKey isKey'
      rw [cellOf, startCell, isHeld] at present
      exact absurd (id_stored_cellAfter present).symm differs

theorem goesThrough_of_ok (separate : Separate merging target sources rows) {after : List Row}
    (merged : merging.mergeRows target sources rows = .ok after) (key : Key) :
    merging.GoesThrough target (merging.startCell target rows key)
      (merging.ofKey key (merging.sourceRows sources rows)) := by
  by_contra stops
  rw [mergeRows_missing separate stops] at merged
  cases merged

theorem mergeRows_ok (separate : Separate merging target sources rows) {after : List Row}
    (merged : merging.mergeRows target sources rows = .ok after) :
    after = rows.filterMap (merging.outcome target rows (merging.sourceRows sources rows)) := by
  rw [mergeRows_eq separate (goesThrough_of_ok separate merged), Except.ok.injEq] at merged
  exact merged.symm

theorem merged_cases (separate : Separate merging target sources rows)
    (hasOne : ∀ key, HasOne merging target rows key)
    (isMerged : row ∈ rows.filterMap
      (merging.outcome target rows (merging.sourceRows sources rows))) :
    (∃ cell, merging.cellOf target rows (merging.sourceRows sources rows) (merging.key row) =
        some cell ∧ row = cell.stored ∧ merging.owner row = target) ∨
      row ∈ rows ∧ merging.owner row ≠ target ∧ merging.owner row ∉ sources := by
  have areRows : ∀ row ∈ merging.sourceRows sources rows, row ∈ rows :=
    fun row isSource => (List.mem_filter.1 isSource).1
  obtain ⟨before, isBefore, has⟩ := List.mem_filterMap.1 isMerged
  have sameKey := key_of_outcome areRows has
  cases present : merging.cellOf target rows (merging.sourceRows sources rows)
      (merging.key row) with
  | none =>
    rw [outcome, ← sameKey, present] at has
    cases has
    have noCell : ¬ (merging.owner row = target ∨ row ∈ merging.sourceRows sources rows) := by
      intro origin
      have isSome := cellOf_isSome isBefore origin
      rw [present] at isSome
      cases isSome
    refine .inr ⟨isBefore, fun isTargets => noCell (.inl isTargets), fun isSource => ?_⟩
    exact noCell (.inr (List.mem_filter.2 ⟨isBefore, decide_eq_true isSource⟩))
  | some cell =>
    by_cases isTargets : merging.owner row = target
    · obtain ⟨kept, only, -⟩ := (exists_only_iff separate present fun _ => True).2
        ⟨hasOne (merging.key row), trivial⟩
      have isKept := (only row).1 ⟨isMerged, isTargets, rfl⟩
      have isStored := (only cell.stored).1 ((mem_merged separate present).2 (.inl rfl))
      exact .inl ⟨cell, rfl, isKept.trans isStored.symm, isTargets⟩
    · have isOf := isOf_cellOf areRows present
      rw [outcome, ← sameKey, present] at has
      dsimp only at has
      split at has
      next =>
        cases has
        exact absurd isOf.owned isTargets
      next =>
        split at has
        next => cases has
        next untaken =>
          cases has
          refine .inr ⟨isBefore, isTargets, fun isSource => untaken ?_⟩
          exact any_id_of_mem (List.mem_filter.2 ⟨isBefore, decide_eq_true isSource⟩)

theorem ids_merged (separate : Separate merging target sources rows) :
    ((rows.filterMap (merging.outcome target rows (merging.sourceRows sources rows))).map
      merging.id).Nodup :=
  separate.unique.sublist (KeyedRows.map_filterMap_sublist fun _ _ => id_of_outcome)

theorem index_merged (separate : Separate merging target sources rows)
    (unique : (rows.map fun row => (merging.owner row, merging.key row)).Nodup) :
    ((rows.filterMap (merging.outcome target rows (merging.sourceRows sources rows))).map
      fun row => (merging.owner row, merging.key row)).Nodup := by
  refine (ids_merged separate).of_map.map_on fun row isMerged other isOther same => ?_
  obtain ⟨sameOwner, sameKey⟩ := Prod.mk.inj same
  have hasOne : ∀ key, HasOne merging target rows key := fun _ => hasOne_of_index unique
  rcases merged_cases separate hasOne isMerged with ⟨cell, present, rfl, isTargets⟩ | before
  · rcases merged_cases separate hasOne isOther with ⟨cell', present', rfl, -⟩ | ⟨-, elsewhere, -⟩
    · rw [← sameKey, present, Option.some.injEq] at present'
      rw [present']
    · exact absurd (sameOwner.symm.trans isTargets) elsewhere
  · rcases merged_cases separate hasOne isOther with ⟨cell', present', rfl, isTargets⟩ | before'
    · exact absurd (sameOwner.trans isTargets) before.2.1
    · exact List.inj_on_of_nodup_map unique before.1 before'.1 same

def meeting (merging : Merging Row Id Owner Key) (target : Owner) (sources : List Owner)
    (rows : List Row) (key : Key) : List Row :=
  (merging.heldBy target rows key).toList ++ merging.ofKey key (merging.sourceRows sources rows)

def rowsUnder (merging : Merging Row Id Owner Key) (target : Owner) (sources : List Owner)
    (rows : List Row) (key : Key) : List Row :=
  rows.filter fun row =>
    decide (merging.owner row ∈ target :: sources) && merging.key row == key

variable {rest : List Row}

omit [DecidableEq Id] in
theorem cellOf_of_meeting {first : Row}
    (meets : merging.meeting target sources rows key = first :: rest) :
    ∃ row, (row = first ∨ row = merging.give target first) ∧
      merging.cellOf target rows (merging.sourceRows sources rows) key =
        merging.cellAfter target (some ⟨row, row⟩) rest := by
  cases held : merging.heldBy target rows key with
  | some row =>
    rw [meeting, held, Option.toList_some, List.singleton_append] at meets
    obtain ⟨isFirst, isRest⟩ := List.cons.inj meets
    refine ⟨row, .inl isFirst, ?_⟩
    rw [cellOf, startCell, held, isRest]
    rfl
  | none =>
    rw [meeting, held, Option.toList_none, List.nil_append] at meets
    refine ⟨merging.give target first, .inr rfl, ?_⟩
    rw [cellOf, startCell, held, meets]
    rfl

omit [DecidableEq Id] [DecidableEq Owner] [DecidableEq Key] in
theorem cellAfter_isSome (taken : List Row) :
    (merging.cellAfter target (some cell) taken).isSome = true := by
  induction taken generalizing cell with
  | nil => rfl
  | cons source rest ih => exact ih

section

omit [DecidableEq Id]

theorem meeting_nodup (separate : Separate merging target sources rows) (key : Key) :
    (merging.meeting target sources rows key).Nodup := by
  have nodup : rows.Nodup := separate.unique.of_map
  rw [meeting, List.nodup_append]
  refine ⟨?_, (nodup.filter _).filter _, ?_⟩
  · cases merging.heldBy target rows key <;> simp
  · rintro row isHeld other isOther rfl
    obtain ⟨-, isTargets, -⟩ := mem_of_heldBy (Option.mem_toList.1 isHeld)
    exact separate.waiting.others row (List.mem_filter.1 isOther).1 isTargets

theorem mem_of_meeting (meets : row ∈ merging.meeting target sources rows key) : row ∈ rows := by
  rcases List.mem_append.1 meets with isHeld | isSource
  · exact (mem_of_heldBy (Option.mem_toList.1 isHeld)).1
  · exact (List.mem_filter.1 (List.mem_filter.1 isSource).1).1

theorem id_ne_of_meeting (separate : Separate merging target sources rows) {first : Row}
    (meets : merging.meeting target sources rows key = first :: rest) (isRest : row ∈ rest) :
    merging.id row ≠ merging.id first := by
  have areRows : ∀ other ∈ first :: rest, other ∈ rows :=
    fun other isIn => mem_of_meeting (meets ▸ isIn)
  have nodup := meeting_nodup separate key
  rw [meets, List.nodup_cons] at nodup
  intro same
  cases List.inj_on_of_nodup_map separate.unique (areRows row (List.mem_cons_of_mem _ isRest))
    (areRows first List.mem_cons_self) same
  exact nodup.1 isRest

theorem goesThrough_of_meeting {first : Row}
    (meets : merging.meeting target sources rows key = first :: rest) :
    ∃ row, (row = first ∨ row = merging.give target first) ∧
      (merging.GoesThrough target (merging.startCell target rows key)
          (merging.ofKey key (merging.sourceRows sources rows)) ↔
        merging.GoesThrough target (some ⟨row, row⟩) rest) := by
  cases held : merging.heldBy target rows key with
  | some row =>
    rw [meeting, held, Option.toList_some, List.singleton_append] at meets
    obtain ⟨isFirst, isRest⟩ := List.cons.inj meets
    refine ⟨row, .inl isFirst, ?_⟩
    rw [startCell, held, isRest]
    rfl
  | none =>
    rw [meeting, held, Option.toList_none, List.nil_append] at meets
    refine ⟨merging.give target first, .inr rfl, ?_⟩
    rw [startCell, held, meets]
    exact and_iff_right fun _ impossible => by cases impossible

theorem goesThrough_of_no_meeting (meets : merging.meeting target sources rows key = []) :
    merging.GoesThrough target (merging.startCell target rows key)
      (merging.ofKey key (merging.sourceRows sources rows)) := by
  rw [(List.append_eq_nil_iff.1 meets).2]
  trivial

theorem meeting_perm (separate : Separate merging target sources rows)
    (hasOne : HasOne merging target rows key) :
    (merging.meeting target sources rows key).Perm (merging.rowsUnder target sources rows key) := by
  have nodup : rows.Nodup := separate.unique.of_map
  refine (List.perm_ext_iff_of_nodup (meeting_nodup separate key) (nodup.filter _)).2 fun row => ?_
  simp only [meeting, ofKey, sourceRows, List.mem_append, Option.mem_toList, List.mem_filter,
    Bool.and_eq_true, decide_eq_true_eq, beq_iff_eq, List.mem_cons]
  constructor
  · rintro (isHeld | ⟨⟨isRow, isSource⟩, isKey⟩)
    · obtain ⟨isRow, isTargets, isKey⟩ := mem_of_heldBy isHeld
      exact ⟨isRow, .inl isTargets, isKey⟩
    · exact ⟨isRow, .inr isSource, isKey⟩
  · rintro ⟨isRow, isTargets | isSource, isKey⟩
    · left
      obtain ⟨held, isHeld⟩ := Option.isSome_iff_exists.1 (heldBy_isSome isRow isTargets)
      rw [isKey] at isHeld
      obtain ⟨isRow', isTargets', isKey'⟩ := mem_of_heldBy isHeld
      rw [isHeld, hasOne row isRow held isRow' isTargets isTargets' isKey isKey']
    · exact .inr ⟨⟨isRow, isSource⟩, isKey⟩

theorem exists_cell (merging : Merging Row Id Owner Key)
    (merges : ∃ row ∈ rows, merging.owner row ∈ target :: sources ∧ merging.key row = key) :
    ∃ cell, merging.cellOf target rows (merging.sourceRows sources rows) key = some cell := by
  obtain ⟨row, isRow, isOwned, rfl⟩ := merges
  refine Option.isSome_iff_exists.1 (cellOf_isSome isRow ?_)
  rcases List.mem_cons.1 isOwned with isTargets | isSources
  · exact .inl isTargets
  · exact .inr (List.mem_filter.2 ⟨isRow, decide_eq_true isSources⟩)

theorem exists_row_of_cell
    (present : merging.cellOf target rows (merging.sourceRows sources rows) key = some cell) :
    ∃ row ∈ rows, merging.owner row ∈ target :: sources ∧ merging.key row = key := by
  have isOf := isOf_cellOf (fun row isSource => (List.mem_filter.1 isSource).1) present
  obtain ⟨row, isRow, -, isKey, origin⟩ := isOf.stored
  refine ⟨row, isRow, ?_, isKey⟩
  rcases origin with isTargets | isSource
  · exact isTargets ▸ List.mem_cons_self
  · exact List.mem_cons_of_mem _ (of_decide_eq_true (List.mem_filter.1 isSource).2)

end

def LeavesOne (merging : Merging Row Id Owner Key) (target : Owner) (sources : List Owner)
    (rows : List Row) (good : Key → Row → Prop) (after : List Row) : Prop :=
  ∀ key, (∃ row ∈ rows, merging.owner row ∈ target :: sources ∧ merging.key row = key) →
    ∃ kept, (∀ row, row ∈ after ∧ merging.owner row = target ∧ merging.key row = key ↔
      row = kept) ∧ good key kept

theorem merges_iff (separate : Separate merging target sources rows)
    (hasOne : ∀ key, HasOne merging target rows key) (good : Key → Row → Prop) :
    (∃ after, merging.mergeRows target sources rows = .ok after ∧
        merging.LeavesOne target sources rows good after) ↔
      ∀ key, merging.GoesThrough target (merging.startCell target rows key)
          (merging.ofKey key (merging.sourceRows sources rows)) ∧
        ∀ cell, merging.cellOf target rows (merging.sourceRows sources rows) key = some cell →
          good key cell.stored := by
  constructor
  · rintro ⟨after, merged, kept⟩
    have through : ∀ key, merging.GoesThrough target (merging.startCell target rows key)
        (merging.ofKey key (merging.sourceRows sources rows)) := goesThrough_of_ok separate merged
    have same := mergeRows_ok separate merged
    subst same
    refine fun key => ⟨through key, fun cell present => ?_⟩
    exact ((exists_only_iff separate present (good key)).1
      (kept key (exists_row_of_cell present))).2
  · intro each
    refine ⟨_, mergeRows_eq separate fun key => (each key).1, fun key merges => ?_⟩
    obtain ⟨cell, present⟩ := exists_cell merging merges
    exact (exists_only_iff separate present (good key)).2 ⟨hasOne key, (each key).2 cell present⟩

def valuesUnder {Value : Type} (merging : Merging Row Id Owner Key) (target : Owner)
    (sources : List Owner) (rows : List Row) (key : Key) (value : Row → Value) : Set Value :=
  {v | ∃ row ∈ rows, merging.owner row ∈ target :: sources ∧ merging.key row = key ∧ value row = v}

omit [DecidableEq Id] in
theorem values_meeting {Value : Type} {value : Row → Value}
    (separate : Separate merging target sources rows) (hasOne : HasOne merging target rows key) :
    {v | ∃ row ∈ merging.meeting target sources rows key, value row = v} =
      merging.valuesUnder target sources rows key value := by
  ext v
  have isUnder (row : Row) : row ∈ merging.meeting target sources rows key ↔
      row ∈ rows ∧ merging.owner row ∈ target :: sources ∧ merging.key row = key := by
    rw [(meeting_perm separate hasOne).mem_iff]
    simp [rowsUnder]
  simp only [valuesUnder, Set.mem_ofPred_eq, isUnder, and_assoc]

end

section

variable {Value : Type} {value : Row → Value} (step merge : Value → Value → Value)

theorem value_cellAfter (remembers : ∀ held source,
      value (merging.remember held source) = step (value held) (value source))
    (absorbs : ∀ held source row,
      value (merging.absorb held source row) = merge (value held) (value source))
    {cell cell' : Cell Row} {taken : List Row}
    (after : merging.cellAfter target (some cell) taken = some cell') :
    value cell'.stored = (taken.getLast?.elim (value cell.stored) fun last =>
      merge ((taken.dropLast.map value).foldl step (value cell.entry)) (value last)) := by
  induction taken generalizing cell with
  | nil =>
    cases after
    rfl
  | cons source rest ih =>
    have later := ih after
    cases rest with
    | nil => exact later.trans (absorbs ..)
    | cons next rest =>
      rw [later, List.getLast?_cons_cons]
      cases isLast : (next :: rest).getLast? with
      | none => simp at isLast
      | some last => simp [receive, remembers]

variable {rows : List Row} {cell : Cell Row}

theorem value_stored [DecidableEq Owner] [DecidableEq Key] {key : Key} {first : Row}
    {rest : List Row} (remembers : ∀ held source,
      value (merging.remember held source) = step (value held) (value source))
    (absorbs : ∀ held source row,
      value (merging.absorb held source row) = merge (value held) (value source))
    (gives : ∀ row, value (merging.give target row) = value row)
    (meets : merging.meeting target sources rows key = first :: rest)
    (present : merging.cellOf target rows (merging.sourceRows sources rows) key = some cell) :
    value cell.stored = (rest.getLast?.elim (value first) fun last =>
      merge ((rest.dropLast.map value).foldl step (value first)) (value last)) := by
  obtain ⟨row, isFirst, same⟩ := cellOf_of_meeting meets
  have sameValue : value row = value first := by
    rcases isFirst with rfl | rfl
    · rfl
    · exact gives first
  rw [same] at present
  rw [value_cellAfter step merge remembers absorbs present, sameValue]

theorem value_stored_of_kept [DecidableEq Owner] [DecidableEq Key] {key : Key} {first last : Row}
    (remembers : ∀ held source,
      value (merging.remember held source) = step (value held) (value source))
    (absorbs : ∀ held source row,
      value (merging.absorb held source row) = merge (value held) (value source))
    (gives : ∀ row, value (merging.give target row) = value row) (idem : ∀ v, merge v v = v)
    (present : merging.cellOf target rows (merging.sourceRows sources rows) key = some cell)
    (isFirst : first ∈ (merging.meeting target sources rows key).head?)
    (isLast : last ∈ (merging.meeting target sources rows key).getLast?)
    (kept : ∀ row ∈ (merging.meeting target sources rows key).tail.dropLast,
      step (value first) (value row) = value first) :
    value cell.stored = merge (value first) (value last) := by
  cases meets : merging.meeting target sources rows key with
  | nil =>
    rw [meets] at isFirst
    cases isFirst
  | cons first' rest =>
    rw [meets] at isFirst isLast kept
    cases isFirst
    have still : (rest.dropLast.map value).foldl step (value first) = value first := by
      rw [List.tail_cons] at kept
      generalize rest.dropLast = between at kept
      induction between with
      | nil => rfl
      | cons row rows ih =>
        rw [List.map_cons, List.foldl_cons, kept row List.mem_cons_self]
        exact ih fun row isRow => kept row (List.mem_cons_of_mem _ isRow)
    rw [value_stored step merge remembers absorbs gives meets present, still]
    cases isRest : rest.getLast? with
    | none =>
      rw [List.getLast?_eq_none_iff] at isRest
      subst isRest
      cases isLast
      exact (idem _).symm
    | some last' =>
      rw [List.getLast?_cons, isRest] at isLast
      cases isLast
      rfl

theorem value_stored_of_followed [DecidableEq Owner] [DecidableEq Key] {key : Key} {first : Row}
    {rest : List Row} (remembers : ∀ held source,
      value (merging.remember held source) = merge (value held) (value source))
    (absorbs : ∀ held source row,
      value (merging.absorb held source row) = merge (value held) (value source))
    (gives : ∀ row, value (merging.give target row) = value row)
    (meets : merging.meeting target sources rows key = first :: rest)
    (present : merging.cellOf target rows (merging.sourceRows sources rows) key = some cell) :
    value cell.stored = (rest.map value).foldl merge (value first) := by
  rw [value_stored merge merge remembers absorbs gives meets present]
  cases isLast : rest.getLast? with
  | none =>
    rw [List.getLast?_eq_none_iff] at isLast
    rw [isLast]
    rfl
  | some last =>
    rw [← List.dropLast_append_getLast? last isLast]
    simp

variable {β : Type} [LinearOrder β]

theorem isGreatest_foldl_max (first : β) (rest : List β) :
    IsGreatest {v | v ∈ first :: rest} (rest.foldl max first) := by
  induction rest generalizing first with
  | nil => simp
  | cons next rest ih =>
    obtain ⟨isThere, isUpper⟩ := ih (max first next)
    constructor
    · rcases List.mem_cons.1 isThere with isMax | later
      · rw [List.foldl_cons, isMax]
        rcases max_choice first next with same | same <;> rw [same] <;> simp
      · exact List.mem_cons_of_mem _ (List.mem_cons_of_mem _ later)
    · intro v isIn
      have isNext : max first next ≤ rest.foldl max (max first next) :=
        isUpper List.mem_cons_self
      rcases List.mem_cons.1 isIn with rfl | isRest
      · exact (le_max_left _ _).trans isNext
      rcases List.mem_cons.1 isRest with rfl | isLater
      · exact (le_max_right _ _).trans isNext
      · exact isUpper (List.mem_cons_of_mem _ isLater)

section

variable [DecidableEq Owner] [DecidableEq Key] {rows : List Row} {key : Key}
variable {cell : Cell Row} {value : Row → β}

section

variable (present : merging.cellOf target rows (merging.sourceRows sources rows) key = some cell)
include present

theorem meeting_ne_nil : ∃ first rest, merging.meeting target sources rows key = first :: rest := by
  cases meets : merging.meeting target sources rows key with
  | cons first rest => exact ⟨first, rest, rfl⟩
  | nil =>
    obtain ⟨noHeld, noSource⟩ := List.append_eq_nil_iff.1 meets
    rw [Option.toList_eq_nil_iff] at noHeld
    rw [cellOf, startCell, noHeld, noSource] at present
    cases present

theorem ends_of_cell : ∃ first ∈ (merging.meeting target sources rows key).head?,
      ∃ last, last ∈ (merging.meeting target sources rows key).getLast? := by
  obtain ⟨first, rest, meets⟩ := meeting_ne_nil present
  rw [meets]
  exact ⟨first, rfl, _, List.getLast?_eq_some_getLast (List.cons_ne_nil first rest)⟩

end

theorem cell_of_head {first : Row}
    (isFirst : first ∈ (merging.meeting target sources rows key).head?) :
    ∃ cell, merging.cellOf target rows (merging.sourceRows sources rows) key = some cell := by
  cases meets : merging.meeting target sources rows key with
  | nil =>
    rw [meets] at isFirst
    cases isFirst
  | cons first rest =>
    obtain ⟨row, -, same⟩ := cellOf_of_meeting meets
    rw [same]
    exact Option.isSome_iff_exists.1 (cellAfter_isSome rest)

theorem isGreatest_of_followed (remembers : ∀ held source,
      value (merging.remember held source) = max (value held) (value source))
    (absorbs : ∀ held source row,
      value (merging.absorb held source row) = max (value held) (value source))
    (gives : ∀ row, value (merging.give target row) = value row)
    (present : merging.cellOf target rows (merging.sourceRows sources rows) key = some cell) :
    IsGreatest {v | ∃ row ∈ merging.meeting target sources rows key, value row = v}
      (value cell.stored) := by
  obtain ⟨first, rest, meets⟩ := meeting_ne_nil present
  have isMax : value cell.stored = (rest.map value).foldl max (value first) :=
    value_stored_of_followed max remembers absorbs gives meets present
  have greatest := isGreatest_foldl_max (value first) (rest.map value)
  rw [isMax, meets]
  convert greatest using 2
  simp [eq_comm]

section

variable {met : List Row} {first last : Row} (isFirst : first ∈ met.head?)
variable (isLast : last ∈ met.getLast?)
include isFirst isLast

theorem isGreatest_max_iff :
    IsGreatest {v | ∃ row ∈ met, value row = v} (max (value first) (value last)) ↔
      ∀ row ∈ met, value row ≤ max (value first) (value last) := by
  constructor
  · rintro ⟨-, isUpper⟩ row isRow
    exact isUpper ⟨row, isRow, rfl⟩
  · intro bounded
    constructor
    · rcases max_choice (value first) (value last) with same | same
      · exact ⟨first, List.mem_of_mem_head? isFirst, same.symm⟩
      · exact ⟨last, List.mem_of_getLast? isLast, same.symm⟩
    · rintro v ⟨row, isRow, rfl⟩
      exact bounded row isRow

theorem isLeast_min_iff :
    IsLeast {v | ∃ row ∈ met, value row = v} (min (value first) (value last)) ↔
      ∀ row ∈ met, min (value first) (value last) ≤ value row :=
  isGreatest_max_iff (β := βᵒᵈ) isFirst isLast

end

/-- Of a column that the map leaves as it was, only the first and the last one are seen. -/
theorem isGreatest_iff_of_forgotten
    (remembers : ∀ held source, value (merging.remember held source) = value held)
    (absorbs : ∀ held source row,
      value (merging.absorb held source row) = max (value held) (value source))
    (gives : ∀ row, value (merging.give target row) = value row)
    (present : merging.cellOf target rows (merging.sourceRows sources rows) key = some cell) :
    IsGreatest {v | ∃ row ∈ merging.meeting target sources rows key, value row = v}
        (value cell.stored) ↔
      ∀ first ∈ (merging.meeting target sources rows key).head?,
        ∀ last ∈ (merging.meeting target sources rows key).getLast?,
          ∀ row ∈ merging.meeting target sources rows key,
            value row ≤ max (value first) (value last) := by
  have seen : ∀ first ∈ (merging.meeting target sources rows key).head?,
      ∀ last ∈ (merging.meeting target sources rows key).getLast?,
        value cell.stored = max (value first) (value last) := by
    intro first isFirst last isLast
    exact value_stored_of_kept (fun held _ => held) max remembers absorbs gives max_self present
      isFirst isLast fun _ _ => rfl
  constructor
  · intro isGreatest first isFirst last isLast
    rw [seen first isFirst last isLast] at isGreatest
    exact (isGreatest_max_iff isFirst isLast).1 isGreatest
  · intro bounded
    obtain ⟨first, isFirst, last, isLast⟩ := ends_of_cell present
    rw [seen first isFirst last isLast]
    exact (isGreatest_max_iff isFirst isLast).2 (bounded first isFirst last isLast)

end

end

end Merging
