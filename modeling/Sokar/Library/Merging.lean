import Sokar.Library.KeyedRows

/-!
# Rows of several owners become rows of one

The rows of the sources are taken one after the other, against a map from keys to the rows the
target has.  A row under a new key is given to the target; any other one is absorbed by the row
that the map names, and deleted.

What becomes of a key is a fold over its own rows, without any table.  The merge goes through as
long as the map names rows that are there, and then each key has what its fold gives.
-/

/-- How rows are told apart, given to an owner and absorbed by one another: `absorb` writes to the
row that is there, `remember` is what the map has from then on. -/
structure Merging (Row Id Owner Key : Type) where
  id : Row → Id
  owner : Row → Owner
  key : Row → Key
  /-- An owner has no two rows under such a key. -/
  isIndexed : Key → Bool
  give : Owner → Row → Row
  absorb : (held source row : Row) → Row
  remember : (held source : Row) → Row
  id_give : ∀ target row, id (give target row) = id row
  owner_give : ∀ target row, owner (give target row) = target
  key_give : ∀ target row, key (give target row) = key row
  id_absorb : ∀ held source row, id (absorb held source row) = id row
  owner_absorb : ∀ held source row, owner (absorb held source row) = owner row
  key_absorb : ∀ held source row, key (absorb held source row) = key row
  id_remember : ∀ held source,
    id (remember held source) = id held ∨ id (remember held source) = id source

namespace Merging

variable {Row Id Owner Key : Type}

/-! ## What becomes of a key -/

/-- What the map has for a key, and the row that is there. -/
structure Cell (Row : Type) where
  entry : Row
  stored : Row

variable (merging : Merging Row Id Owner Key) (target : Owner) (sources : List Owner)

/-- The map names the row that is there. -/
def Cell.IsTrue (cell : Cell Row) : Prop :=
  merging.id cell.entry = merging.id cell.stored

def receive (cell : Option (Cell Row)) (source : Row) : Cell Row :=
  match cell with
  | none => ⟨merging.give target source, merging.give target source⟩
  | some cell =>
    ⟨merging.remember cell.entry source, merging.absorb cell.entry source cell.stored⟩

def cellAfter (cell : Option (Cell Row)) (taken : List Row) : Option (Cell Row) :=
  taken.foldl (fun cell source => some (merging.receive target cell source)) cell

/-- Each source row finds the map true. -/
def GoesThrough : Option (Cell Row) → List Row → Prop
  | _, [] => True
  | cell, source :: rest =>
    (∀ present, cell = some present → present.IsTrue merging) ∧
      GoesThrough (some (merging.receive target cell source)) rest

variable (rows : List Row)

section

variable [DecidableEq Key]

def ofKey (key : Key) (taken : List Row) : List Row :=
  taken.filter fun row => merging.key row == key

variable [DecidableEq Owner]

/-- The row of the target under a key, the last one if there are several. -/
def heldBy (key : Key) : Option Row :=
  rows.reverse.find? fun row => merging.owner row == target && merging.key row == key

def startCell (key : Key) : Option (Cell Row) :=
  (merging.heldBy target rows key).map fun row => ⟨row, row⟩

/-- What a key has once these source rows are taken. -/
def cellOf (rows taken : List Row) (key : Key) : Option (Cell Row) :=
  merging.cellAfter target (merging.startCell target rows key) (merging.ofKey key taken)

variable {merging} {target} {rows taken : List Row} {source row : Row} {key : Key}

theorem mem_of_heldBy (held : merging.heldBy target rows key = some row) :
    row ∈ rows ∧ merging.owner row = target ∧ merging.key row = key := by
  have meets := List.find?_some held
  rw [Bool.and_eq_true, beq_iff_eq, beq_iff_eq] at meets
  exact ⟨List.mem_reverse.1 (List.mem_of_find?_eq_some held), meets⟩

theorem heldBy_isSome (isRow : row ∈ rows) (isTargets : merging.owner row = target) :
    (merging.heldBy target rows (merging.key row)).isSome = true := by
  rw [heldBy, List.find?_isSome]
  exact ⟨row, List.mem_reverse.2 isRow, by simp [isTargets]⟩

theorem cellOf_append_same : merging.cellOf target rows (taken ++ [source]) (merging.key source) =
    some (merging.receive target (merging.cellOf target rows taken (merging.key source)) source) := by
  simp [cellOf, cellAfter, ofKey]

theorem cellOf_append_other (other : merging.key source ≠ key) :
    merging.cellOf target rows (taken ++ [source]) key = merging.cellOf target rows taken key := by
  simp [cellOf, ofKey, other]

structure Cell.IsOf (merging : Merging Row Id Owner Key) (target : Owner) (rows taken : List Row)
    (key : Key) (cell : Cell Row) : Prop where
  stored : ∃ row ∈ rows, merging.id row = merging.id cell.stored ∧ merging.key row = key ∧
    (merging.owner row = target ∨ row ∈ taken)
  keyed : merging.key cell.stored = key
  owned : merging.owner cell.stored = target
  entry : cell.IsTrue merging ∨ ∃ row ∈ taken, merging.id cell.entry = merging.id row ∧
    merging.key row = key

theorem isOf_cellOf (areRows : ∀ row ∈ taken, row ∈ rows) {cell : Cell Row}
    (present : merging.cellOf target rows taken key = some cell) :
    cell.IsOf merging target rows taken key := by
  induction taken using List.reverseRecOn generalizing key cell with
  | nil =>
    obtain ⟨row, held, rfl⟩ := Option.map_eq_some_iff.1 present
    obtain ⟨isRow, isTargets, isKey⟩ := mem_of_heldBy held
    exact ⟨⟨row, isRow, rfl, isKey, .inl isTargets⟩, isKey, isTargets, .inl rfl⟩
  | append_singleton taken source ih =>
    have earlier : ∀ row ∈ taken, row ∈ rows :=
      fun row isTaken => areRows row (List.mem_append_left _ isTaken)
    have isLast : source ∈ taken ++ [source] :=
      List.mem_append_right _ (List.mem_singleton_self _)
    by_cases same : merging.key source = key
    · subst same
      rw [cellOf_append_same, Option.some.injEq] at present
      subst present
      cases before : merging.cellOf target rows taken (merging.key source) with
      | none =>
        refine ⟨⟨source, areRows source isLast, ?_, rfl, .inr isLast⟩, ?_, ?_, .inl rfl⟩
        · exact (merging.id_give target source).symm
        · exact merging.key_give target source
        · exact merging.owner_give target source
      | some cell =>
        have isOf := ih earlier before
        obtain ⟨row, isRow, sameId, sameKey, origin⟩ := isOf.stored
        refine ⟨⟨row, isRow, ?_, sameKey, ?_⟩, ?_, ?_, ?_⟩
        · exact sameId.trans (merging.id_absorb ..).symm
        · exact origin.imp_right (List.mem_append_left _)
        · exact (merging.key_absorb ..).trans isOf.keyed
        · exact (merging.owner_absorb ..).trans isOf.owned
        · rcases merging.id_remember cell.entry source with kept | replaced
          · rcases isOf.entry with isTrue | ⟨row, isTaken, sameId, sameKey⟩
            · left
              exact kept.trans (isTrue.trans (merging.id_absorb ..).symm)
            · right
              exact ⟨row, List.mem_append_left _ isTaken, kept.trans sameId, sameKey⟩
          · exact .inr ⟨source, isLast, replaced, rfl⟩
    · rw [cellOf_append_other same] at present
      have isOf := ih earlier present
      obtain ⟨row, isRow, sameId, sameKey, origin⟩ := isOf.stored
      refine ⟨⟨row, isRow, sameId, sameKey, origin.imp_right (List.mem_append_left _)⟩, isOf.keyed,
        isOf.owned, ?_⟩
      refine isOf.entry.imp_right fun found => ?_
      obtain ⟨row, isTaken, sameId, sameKey⟩ := found
      exact ⟨row, List.mem_append_left _ isTaken, sameId, sameKey⟩

theorem cellOf_isSome (isRow : row ∈ rows) (origin : merging.owner row = target ∨ row ∈ taken) :
    (merging.cellOf target rows taken (merging.key row)).isSome = true := by
  induction taken using List.reverseRecOn with
  | nil =>
    rcases origin with isTargets | impossible
    · simpa [cellOf, ofKey, cellAfter, startCell] using heldBy_isSome isRow isTargets
    · cases impossible
  | append_singleton taken source ih =>
    by_cases same : merging.key source = merging.key row
    · rw [← same, cellOf_append_same]
      rfl
    · rw [cellOf_append_other same]
      apply ih
      rcases origin with isTargets | isTaken
      · exact .inl isTargets
      · rcases List.mem_append.1 isTaken with earlier | isLast
        · exact .inr earlier
        · cases List.mem_singleton.1 isLast
          exact absurd rfl same

end

/-- A statement finds no row with its id, or a row in its way. -/
inductive RowError where
  | missing
  | taken
  deriving DecidableEq

structure State (Row Key : Type) where
  rows : List Row
  held : Key → Option Row

section

variable [DecidableEq Id] [DecidableEq Owner] [DecidableEq Key]

def updateRow (wanted : Id) (change : Row → Row) (rows : List Row) : Except RowError (List Row) :=
  if rows.any fun row => merging.id row == wanted then
    .ok (KeyedRows.update (fun row => merging.id row == wanted) change rows)
  else .error .missing

def deleteRow (wanted : Id) (rows : List Row) : Except RowError (List Row) :=
  if rows.any fun row => merging.id row == wanted then
    .ok (rows.filter fun row => merging.id row != wanted)
  else .error .missing

/-- Another row of the target has the key, which is indexed. -/
def isTaken (source : Row) (rows : List Row) : Bool :=
  merging.isIndexed (merging.key source) && rows.any fun row =>
    merging.id row != merging.id source && merging.owner row == target &&
      merging.key row == merging.key source

def mergeRow (state : State Row Key) (source : Row) : Except RowError (State Row Key) :=
  match state.held (merging.key source) with
  | none => do
      let rows ← merging.updateRow (merging.id source) (merging.give target) state.rows
      if merging.isTaken target source rows then .error .taken
      else
        return {
          rows
          held := Function.update state.held (merging.key source)
            (some (merging.give target source)) }
  | some held => do
      let updated ← merging.updateRow (merging.id held) (merging.absorb held source) state.rows
      let rows ← merging.deleteRow (merging.id source) updated
      return {
        rows
        held := Function.update state.held (merging.key source)
          (some (merging.remember held source)) }

def sourceRows : List Row :=
  rows.filter fun row => decide (merging.owner row ∈ sources)

def mergeRows : Except RowError (List Row) := do
  let state ← (merging.sourceRows sources rows).foldlM (merging.mergeRow target)
    { rows, held := merging.heldBy target rows }
  return state.rows

def outcome (rows taken : List Row) (row : Row) : Option Row :=
  match merging.cellOf target rows taken (merging.key row) with
  | none => some row
  | some cell =>
    if merging.id cell.stored = merging.id row then some cell.stored
    else if taken.any fun other => merging.id other == merging.id row then none
    else some row

variable {merging} {target} {sources} {rows taken : List Row} {source row : Row} {key : Key}

theorem id_of_outcome {row' : Row} (has : merging.outcome target rows taken row = some row') :
    merging.id row' = merging.id row := by
  unfold outcome at has
  split at has
  next => exact congrArg merging.id (Option.some.inj has).symm
  next =>
    split at has
    next same =>
      cases has
      exact same
    next =>
      split at has
      next => cases has
      next => exact congrArg merging.id (Option.some.inj has).symm

structure After (merging : Merging Row Id Owner Key) (target : Owner) (rows taken : List Row)
    (state : State Row Key) : Prop where
  present : state.rows = rows.filterMap (merging.outcome target rows taken)
  known : ∀ key, state.held key = (merging.cellOf target rows taken key).map Cell.entry

structure Fresh (merging : Merging Row Id Owner Key) (target : Owner) (rows taken : List Row)
    (source : Row) : Prop where
  unique : (rows.map merging.id).Nodup
  areRows : ∀ row ∈ taken, row ∈ rows
  others : ∀ row ∈ taken, merging.owner row ≠ target
  isRow : source ∈ rows
  isOther : merging.owner source ≠ target
  untaken : source ∉ taken

namespace Fresh

variable (fresh : Fresh merging target rows taken source)
include fresh

section

omit [DecidableEq Id] [DecidableEq Owner] [DecidableEq Key]

theorem eq_of_id {other : Row} (isRow : row ∈ rows) (isOther : other ∈ rows)
    (same : merging.id row = merging.id other) : row = other :=
  List.inj_on_of_nodup_map fresh.unique isRow isOther same

theorem id_ne_of_taken (isTaken : row ∈ taken) : merging.id row ≠ merging.id source := by
  intro same
  cases fresh.eq_of_id (fresh.areRows row isTaken) fresh.isRow same
  exact fresh.untaken isTaken

theorem id_stored_ne {cell : Cell Row} (isOf : cell.IsOf merging target rows taken key) :
    merging.id cell.stored ≠ merging.id source := by
  obtain ⟨row, isRow, sameId, -, origin⟩ := isOf.stored
  rw [← sameId]
  rcases origin with isTargets | isTaken
  · intro same
    cases fresh.eq_of_id isRow fresh.isRow same
    exact fresh.isOther isTargets
  · exact fresh.id_ne_of_taken isTaken

end

theorem outcome_source : merging.outcome target rows taken source = some source := by
  unfold outcome
  cases present : merging.cellOf target rows taken (merging.key source) with
  | none => rfl
  | some cell =>
    have isOf := isOf_cellOf fresh.areRows present
    have untaken : (taken.any fun other => merging.id other == merging.id source) = false := by
      rw [List.any_eq_false]
      exact fun row isTaken => by simpa using fresh.id_ne_of_taken isTaken
    simp [fresh.id_stored_ne isOf, untaken]

theorem outcome_other (isRow : row ∈ rows) (other : merging.key row ≠ merging.key source) :
    merging.outcome target rows (taken ++ [source]) row = merging.outcome target rows taken row := by
  have differs : merging.id source ≠ merging.id row := by
    intro same
    cases fresh.eq_of_id fresh.isRow isRow same
    exact other rfl
  simp [outcome, cellOf_append_other (Ne.symm other), differs]

theorem given (absent : merging.cellOf target rows taken (merging.key source) = none)
    (isRow : row ∈ rows) :
    merging.outcome target rows (taken ++ [source]) row =
      (merging.outcome target rows taken row).map fun row =>
        if merging.id row == merging.id source then merging.give target row else row := by
  by_cases isSource : row = source
  · subst isSource
    rw [fresh.outcome_source, outcome, cellOf_append_same, absent]
    simp [receive, merging.id_give]
  · have differs : merging.id row ≠ merging.id source :=
      fun same => isSource (fresh.eq_of_id isRow fresh.isRow same)
    by_cases sameKey : merging.key row = merging.key source
    · have untaken : ∀ other ∈ taken, merging.id other ≠ merging.id row := by
        intro other isTaken same
        cases fresh.eq_of_id (fresh.areRows other isTaken) isRow same
        have isSome : (merging.cellOf target rows taken (merging.key row)).isSome = true :=
          cellOf_isSome isRow (.inr isTaken)
        rw [sameKey, absent] at isSome
        cases isSome
      have isUntaken : (taken.any fun other => merging.id other == merging.id row) = false := by
        rw [List.any_eq_false]
        exact fun other isTaken => by simpa using untaken other isTaken
      rw [outcome, outcome, sameKey, cellOf_append_same, absent]
      simp [receive, merging.id_give, Ne.symm differs, differs, isUntaken]
    · rw [fresh.outcome_other isRow sameKey]
      cases has : merging.outcome target rows taken row with
      | none => rfl
      | some row' => simp [id_of_outcome has, differs]

theorem absorbed {cell : Cell Row}
    (present : merging.cellOf target rows taken (merging.key source) = some cell)
    (isTrue : cell.IsTrue merging) (isRow : row ∈ rows) :
    merging.outcome target rows (taken ++ [source]) row =
      ((merging.outcome target rows taken row).map fun row =>
        if merging.id row == merging.id cell.entry then merging.absorb cell.entry source row
        else row).filter fun row => merging.id row != merging.id source := by
  have isOf := isOf_cellOf fresh.areRows present
  have storedNe := fresh.id_stored_ne isOf
  have isTrueId : merging.id cell.entry = merging.id cell.stored := isTrue
  by_cases other : merging.key row = merging.key source
  · rw [outcome, outcome, other, cellOf_append_same, present]
    by_cases isStored : merging.id cell.stored = merging.id row
    · rw [isStored] at storedNe
      simp [receive, merging.id_absorb, isStored, isTrueId, Option.filter_some, storedNe]
    · by_cases isSource : merging.id source = merging.id row
      · have untaken : (taken.any fun other => merging.id other == merging.id row) = false := by
          rw [List.any_eq_false, ← isSource]
          exact fun other isTaken => by simpa using fresh.id_ne_of_taken isTaken
        simp [receive, merging.id_absorb, isStored, isSource, untaken, isTrueId,
          Ne.symm isStored, Option.filter_some]
      · cases isTaken : taken.any fun other => merging.id other == merging.id row with
        | true => simp [receive, merging.id_absorb, isStored, isTaken]
        | false =>
          simp [receive, merging.id_absorb, isStored, isTaken, isTrueId, Ne.symm isStored,
            isSource, Ne.symm isSource, Option.filter_some]
  · rw [fresh.outcome_other isRow other]
    cases has : merging.outcome target rows taken row with
    | none => rfl
    | some row' =>
      have isOther : merging.id row' ≠ merging.id source := by
        rw [id_of_outcome has]
        intro same
        cases fresh.eq_of_id isRow fresh.isRow same
        exact other rfl
      have notStored : merging.id row' ≠ merging.id cell.entry := by
        rw [id_of_outcome has, isTrueId]
        intro same
        obtain ⟨before, isBefore, sameId, sameKey, -⟩ := isOf.stored
        cases fresh.eq_of_id isRow isBefore (same.trans sameId.symm)
        exact other sameKey
      simp [isOther, notStored, Option.filter_some]

end Fresh

variable {state : State Row Key}

omit [DecidableEq Owner] [DecidableEq Key] in
theorem any_id_of_mem (isRow : row ∈ rows) :
    (rows.any fun other => merging.id other == merging.id row) = true :=
  List.any_eq_true.2 ⟨row, isRow, beq_self_eq_true _⟩

theorem cellOf_isSome_of_outcome (areRows : ∀ row ∈ taken, row ∈ rows) (isRow : row ∈ rows)
    {row' : Row} (has : merging.outcome target rows taken row = some row')
    (isTargets : merging.owner row' = target) :
    (merging.cellOf target rows taken (merging.key row')).isSome = true := by
  unfold outcome at has
  split at has
  next =>
    cases has
    exact cellOf_isSome isRow (.inl isTargets)
  next cell present =>
    split at has
    next =>
      cases has
      rw [(isOf_cellOf areRows present).keyed, present]
      rfl
    next =>
      split at has
      next => cases has
      next =>
        cases has
        rw [present]
        rfl

section

variable (after : After merging target rows taken state)
include after

theorem After.mem_stored {cell : Cell Row} (isOf : cell.IsOf merging target rows taken key)
    (present : merging.cellOf target rows taken key = some cell) : cell.stored ∈ state.rows := by
  obtain ⟨row, isRow, sameId, sameKey, -⟩ := isOf.stored
  rw [after.present, List.mem_filterMap]
  refine ⟨row, isRow, ?_⟩
  rw [outcome, sameKey, present]
  exact if_pos sameId.symm

theorem After.known_append (source : Row) (key : Key) :
    Function.update state.held (merging.key source) (some (merging.receive target
        (merging.cellOf target rows taken (merging.key source)) source).entry) key =
      (merging.cellOf target rows (taken ++ [source]) key).map Cell.entry := by
  by_cases same : merging.key source = key
  · subst same
    rw [Function.update_self, cellOf_append_same]
    rfl
  · rw [Function.update_of_ne (Ne.symm same), cellOf_append_other same, after.known]

theorem After.step_new (fresh : Fresh merging target rows taken source)
    (absent : merging.cellOf target rows taken (merging.key source) = none) :
    ∃ state', merging.mergeRow target state source = .ok state' ∧
      After merging target rows (taken ++ [source]) state' := by
  have held : state.held (merging.key source) = none := by
    rw [after.known, absent]
    rfl
  have isSource : source ∈ state.rows := by
    rw [after.present]
    exact List.mem_filterMap.2 ⟨source, fresh.isRow, fresh.outcome_source⟩
  have given : KeyedRows.update (fun row => merging.id row == merging.id source)
      (merging.give target) state.rows =
        rows.filterMap (merging.outcome target rows (taken ++ [source])) := by
    rw [KeyedRows.update, after.present, List.map_filterMap]
    exact (List.filterMap_congr fun row isRow => fresh.given absent isRow).symm
  have untaken : merging.isTaken target source
      (rows.filterMap (merging.outcome target rows (taken ++ [source]))) = false := by
    rw [isTaken, Bool.and_eq_false_iff]
    right
    rw [List.any_eq_false]
    intro row' isRow' inWay
    simp only [Bool.and_eq_true, bne_iff_ne, ne_eq, beq_iff_eq] at inWay
    obtain ⟨⟨differs, isTargets⟩, sameKey⟩ := inWay
    obtain ⟨row, isRow, has⟩ := List.mem_filterMap.1 isRow'
    rw [fresh.given absent isRow] at has
    obtain ⟨before, had, changed⟩ := Option.map_eq_some_iff.1 has
    split at changed
    next isGiven =>
      rw [← changed, merging.id_give] at differs
      exact differs (beq_iff_eq.1 isGiven)
    next =>
      subst changed
      have isSome := cellOf_isSome_of_outcome fresh.areRows isRow had isTargets
      rw [sameKey, absent] at isSome
      cases isSome
  have known := after.known_append source
  rw [absent] at known
  refine ⟨⟨_, _⟩, ?_, rfl, known⟩
  rw [mergeRow, held]
  simp only [updateRow, any_id_of_mem isSource, if_true, bind, Except.bind, given, untaken]
  rfl

/-- Under a key with a row that the map names, it is absorbed by it. -/
theorem After.step_known (fresh : Fresh merging target rows taken source) {cell : Cell Row}
    (present : merging.cellOf target rows taken (merging.key source) = some cell)
    (isTrue : cell.IsTrue merging) :
    ∃ state', merging.mergeRow target state source = .ok state' ∧
      After merging target rows (taken ++ [source]) state' := by
  have held : state.held (merging.key source) = some cell.entry := by
    rw [after.known, present]
    rfl
  have isOf := isOf_cellOf fresh.areRows present
  have trueId : merging.id cell.entry = merging.id cell.stored := isTrue
  have isThere : (state.rows.any fun row => merging.id row == merging.id cell.entry) = true := by
    rw [trueId]
    exact any_id_of_mem (after.mem_stored isOf present)
  have isSource : source ∈ KeyedRows.update (fun row => merging.id row == merging.id cell.entry)
      (merging.absorb cell.entry source) state.rows := by
    refine List.mem_map.2 ⟨source, ?_, ?_⟩
    · rw [after.present]
      exact List.mem_filterMap.2 ⟨source, fresh.isRow, fresh.outcome_source⟩
    · have differs : merging.id source ≠ merging.id cell.entry := by
        rw [trueId]
        exact Ne.symm (fresh.id_stored_ne isOf)
      simp [differs]
  have absorbed : (KeyedRows.update (fun row => merging.id row == merging.id cell.entry)
      (merging.absorb cell.entry source) state.rows).filter
        (fun row => merging.id row != merging.id source) =
          rows.filterMap (merging.outcome target rows (taken ++ [source])) := by
    rw [KeyedRows.update, after.present, List.map_filterMap, List.filter_filterMap]
    exact (List.filterMap_congr fun row isRow => fresh.absorbed present isTrue isRow).symm
  have known := after.known_append source
  rw [present] at known
  refine ⟨⟨_, _⟩, ?_, rfl, known⟩
  rw [mergeRow, held]
  simp only [updateRow, deleteRow, isThere, any_id_of_mem isSource, if_true, bind, Except.bind,
    absorbed]
  rfl

/-- A row that the map names and that is gone stops the merge. -/
theorem After.step_missing (fresh : Fresh merging target rows taken source) {cell : Cell Row}
    (present : merging.cellOf target rows taken (merging.key source) = some cell)
    (isUntrue : ¬ cell.IsTrue merging) :
    merging.mergeRow target state source = .error .missing := by
  have held : state.held (merging.key source) = some cell.entry := by
    rw [after.known, present]
    rfl
  have isGone : (state.rows.any fun row => merging.id row == merging.id cell.entry) = false := by
    rw [List.any_eq_false]
    intro row' isRow' isEntry
    rw [beq_iff_eq] at isEntry
    rw [after.present] at isRow'
    obtain ⟨row, isRow, has⟩ := List.mem_filterMap.1 isRow'
    rcases (isOf_cellOf fresh.areRows present).entry with isTrue | ⟨other, isTaken, sameId, sameKey⟩
    · exact isUntrue isTrue
    · have isOther : merging.id row = merging.id other :=
        (id_of_outcome has).symm.trans (isEntry.trans sameId)
      cases fresh.eq_of_id isRow (fresh.areRows other isTaken) isOther
      have notStored : merging.id cell.stored ≠ merging.id row :=
        fun same => isUntrue (sameId.trans same.symm)
      rw [outcome, sameKey, present] at has
      simp [notStored, any_id_of_mem isTaken] at has
  rw [mergeRow, held]
  simp only [updateRow, isGone]
  rfl

end

structure Waiting (merging : Merging Row Id Owner Key) (target : Owner)
    (rows taken waiting : List Row) : Prop where
  unique : (rows.map merging.id).Nodup
  areRows : ∀ row ∈ taken ++ waiting, row ∈ rows
  others : ∀ row ∈ taken ++ waiting, merging.owner row ≠ target
  nodup : (taken ++ waiting).Nodup

omit [DecidableEq Id] [DecidableEq Owner] [DecidableEq Key] in
section

variable {waiting : List Row} (waits : Waiting merging target rows taken (source :: waiting))
include waits

theorem Waiting.fresh : Fresh merging target rows taken source  where
  unique := waits.unique
  areRows row isTaken := waits.areRows row (List.mem_append_left _ isTaken)
  others row isTaken := waits.others row (List.mem_append_left _ isTaken)
  isRow := waits.areRows source (List.mem_append_right _ List.mem_cons_self)
  isOther := waits.others source (List.mem_append_right _ List.mem_cons_self)
  untaken isTaken := (List.nodup_append.1 waits.nodup).2.2 source isTaken source
    List.mem_cons_self rfl

omit [DecidableEq Id] [DecidableEq Owner] [DecidableEq Key] in
theorem Waiting.next : Waiting merging target rows (taken ++ [source]) waiting := by
  have same : taken ++ [source] ++ waiting = taken ++ source :: waiting := by
    rw [List.append_assoc, List.singleton_append]
  refine ⟨waits.unique, ?_, ?_, ?_⟩ <;> rw [same]
  · exact waits.areRows
  · exact waits.others
  · exact waits.nodup

end

omit [DecidableEq Id] [DecidableEq Owner] in
theorem ofKey_cons (waiting : List Row) : merging.ofKey key (source :: waiting) =
    if merging.key source = key then source :: merging.ofKey key waiting
    else merging.ofKey key waiting := by
  by_cases same : merging.key source = key <;> simp [ofKey, same]

omit [DecidableEq Id] in
theorem goesThrough_next {waiting : List Row}
    (through : merging.GoesThrough target (merging.cellOf target rows taken key)
      (merging.ofKey key (source :: waiting))) :
    merging.GoesThrough target (merging.cellOf target rows (taken ++ [source]) key)
      (merging.ofKey key waiting) := by
  rw [ofKey_cons] at through
  split at through
  next same =>
    subst same
    rw [cellOf_append_same]
    exact through.2
  next other =>
    rw [cellOf_append_other other]
    exact through

omit [DecidableEq Id] in
theorem isTrue_of_goesThrough {waiting : List Row} (through : merging.GoesThrough target
      (merging.cellOf target rows taken (merging.key source))
      (merging.ofKey (merging.key source) (source :: waiting))) {cell : Cell Row}
    (present : merging.cellOf target rows taken (merging.key source) = some cell) :
    cell.IsTrue merging := by
  rw [ofKey_cons, if_pos rfl] at through
  exact through.1 cell present

theorem After.run {waiting : List Row} (after : After merging target rows taken state)
    (waits : Waiting merging target rows taken waiting)
    (through : ∀ key, merging.GoesThrough target (merging.cellOf target rows taken key)
      (merging.ofKey key waiting)) :
    ∃ state', waiting.foldlM (merging.mergeRow target) state = .ok state' ∧
      After merging target rows (taken ++ waiting) state' := by
  induction waiting generalizing taken state with
  | nil => exact ⟨state, rfl, (List.append_nil taken).symm ▸ after⟩
  | cons source rest ih =>
    have steps : ∃ state', merging.mergeRow target state source = .ok state' ∧
        After merging target rows (taken ++ [source]) state' := by
      cases present : merging.cellOf target rows taken (merging.key source) with
      | none => exact after.step_new waits.fresh present
      | some cell =>
        exact after.step_known waits.fresh present
          (isTrue_of_goesThrough (through (merging.key source)) present)
    obtain ⟨state', stepped, after'⟩ := steps
    obtain ⟨last, ran, afterLast⟩ := ih after' waits.next fun key => goesThrough_next (through key)
    refine ⟨last, ?_, ?_⟩
    · rw [List.foldlM_cons, stepped]
      exact ran
    · rw [List.append_assoc, List.singleton_append] at afterLast
      exact afterLast

theorem After.run_missing {waiting : List Row} (after : After merging target rows taken state)
    (waits : Waiting merging target rows taken waiting)
    (stops : ¬ merging.GoesThrough target (merging.cellOf target rows taken key)
      (merging.ofKey key waiting)) :
    waiting.foldlM (merging.mergeRow target) state = .error .missing := by
  induction waiting generalizing taken state with
  | nil => exact absurd trivial stops
  | cons source rest ih =>
    rw [List.foldlM_cons]
    have goesOn : (∃ state', merging.mergeRow target state source = .ok state' ∧
        After merging target rows (taken ++ [source]) state') →
        ¬ merging.GoesThrough target (merging.cellOf target rows (taken ++ [source]) key)
          (merging.ofKey key rest) →
        (merging.mergeRow target state source >>= fun state =>
          rest.foldlM (merging.mergeRow target) state) = .error .missing := by
      rintro ⟨state', stepped, after'⟩ stopsLater
      rw [stepped]
      exact ih after' waits.next stopsLater
    have stopsLater : ∀ {cell : Option (Cell Row)},
        merging.cellOf target rows taken (merging.key source) = cell →
          (∀ present, cell = some present → present.IsTrue merging) →
            ¬ merging.GoesThrough target (merging.cellOf target rows (taken ++ [source]) key)
              (merging.ofKey key rest) := by
      rintro cell present isTrue later
      apply stops
      rw [ofKey_cons]
      split
      next same =>
        subst same
        rw [cellOf_append_same] at later
        exact ⟨fun found isFound => isTrue found (present.symm.trans isFound), later⟩
      next other =>
        rw [cellOf_append_other other] at later
        exact later
    cases present : merging.cellOf target rows taken (merging.key source) with
    | none =>
      refine goesOn (after.step_new waits.fresh present) (stopsLater present ?_)
      exact fun _ impossible => nomatch impossible
    | some cell =>
      by_cases isTrue : cell.IsTrue merging
      · refine goesOn (after.step_known waits.fresh present isTrue) (stopsLater present ?_)
        intro found isFound
        cases isFound
        exact isTrue
      · rw [after.step_missing waits.fresh present isTrue]
        rfl

structure Separate (merging : Merging Row Id Owner Key) (target : Owner) (sources : List Owner)
    (rows : List Row) : Prop where
  unique : (rows.map merging.id).Nodup
  apart : target ∉ sources

omit [DecidableEq Id] [DecidableEq Key] in
theorem Separate.waiting (separate : Separate merging target sources rows) :
    Waiting merging target rows [] (merging.sourceRows sources rows) where
  unique := separate.unique
  areRows _ isSource := (List.mem_filter.1 isSource).1
  others row isSource same := by
    have isOther := of_decide_eq_true (List.mem_filter.1 isSource).2
    rw [same] at isOther
    exact separate.apart isOther
  nodup := separate.unique.of_map.filter _

theorem after_start (unique : (rows.map merging.id).Nodup) :
    After merging target rows [] ⟨rows, merging.heldBy target rows⟩ where
  present := by
    have same : ∀ row ∈ rows, merging.outcome target rows [] row = some row := by
      intro row isRow
      unfold outcome
      split
      next => rfl
      next cell present =>
        obtain ⟨held, isHeld, rfl⟩ := Option.map_eq_some_iff.1 present
        split
        next same => rw [List.inj_on_of_nodup_map unique (mem_of_heldBy isHeld).1 isRow same]
        next => rfl
    rw [List.filterMap_congr same]
    exact (List.filterMap_some).symm
  known key := by
    cases held : merging.heldBy target rows key with
    | none => simp [cellOf, cellAfter, ofKey, startCell, held]
    | some row => simp [cellOf, cellAfter, ofKey, startCell, held]

omit [DecidableEq Id] [DecidableEq Owner] [DecidableEq Key] in
/-- A map that never names another row goes through. -/
theorem goesThrough_of_id
    (keeps : ∀ held source, merging.id (merging.remember held source) = merging.id held)
    {cell : Option (Cell Row)} (isTrue : ∀ present, cell = some present → present.IsTrue merging)
    (taken : List Row) : merging.GoesThrough target cell taken := by
  induction taken generalizing cell with
  | nil => trivial
  | cons source rest ih =>
    refine ⟨isTrue, ih ?_⟩
    intro present received
    cases received
    cases cell with
    | none => rfl
    | some cell =>
      exact (keeps ..).trans ((isTrue cell rfl).trans (merging.id_absorb ..).symm)

omit [DecidableEq Id] in
theorem isTrue_startCell {cell : Cell Row}
    (present : merging.startCell target rows key = some cell) : cell.IsTrue merging := by
  obtain ⟨row, -, rfl⟩ := Option.map_eq_some_iff.1 present
  rfl

theorem mergeRows_eq (separate : Separate merging target sources rows)
    (through : ∀ key, merging.GoesThrough target (merging.startCell target rows key)
      (merging.ofKey key (merging.sourceRows sources rows))) :
    merging.mergeRows target sources rows =
      .ok (rows.filterMap (merging.outcome target rows (merging.sourceRows sources rows))) := by
  obtain ⟨state, ran, after⟩ := (after_start separate.unique).run separate.waiting through
  rw [mergeRows, ran]
  exact congrArg Except.ok after.present

theorem mergeRows_of_id (separate : Separate merging target sources rows)
    (keeps : ∀ held source, merging.id (merging.remember held source) = merging.id held) :
    merging.mergeRows target sources rows =
      .ok (rows.filterMap (merging.outcome target rows (merging.sourceRows sources rows))) :=
  mergeRows_eq separate fun _ => goesThrough_of_id keeps (fun _ => isTrue_startCell) _

theorem mergeRows_missing (separate : Separate merging target sources rows)
    (stops : ¬ merging.GoesThrough target (merging.startCell target rows key)
      (merging.ofKey key (merging.sourceRows sources rows))) :
    merging.mergeRows target sources rows = .error .missing := by
  rw [mergeRows, (after_start separate.unique).run_missing separate.waiting stops]
  rfl

end

end Merging
