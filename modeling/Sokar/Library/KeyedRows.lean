import Mathlib.Algebra.BigOperators.Group.List.Lemmas
import Mathlib.Algebra.Order.BigOperators.Group.List
import Mathlib.Algebra.Order.Group.Nat
import Mathlib.Algebra.GroupWithZero.Nat

/-!
# Tables as lists of keyed rows

A table is the list of its rows in the order they were inserted.  A statement reads
the row with a key or the rows of a selection, updates rows in place or appends one.
The lemmas say which reads such a write leaves as they were.
-/

namespace KeyedRows

variable {Row Key : Type} [DecidableEq Key]

def lookup (key : Row → Key) (rows : List Row) (wanted : Key) : Option Row :=
  rows.find? fun row => key row == wanted

def update (selected : Row → Bool) (change : Row → Row) (rows : List Row) : List Row :=
  rows.map fun row => if selected row then change row else row

def upsert (key : Row → Key) (wanted : Key) (create : Row) (change : Row → Row)
    (rows : List Row) : List Row :=
  if (lookup key rows wanted).isSome then update (fun row => key row == wanted) change rows
  else rows ++ [create]

variable {key : Row → Key} {rows : List Row} {wanted : Key}

variable {row : Row}

theorem mem_of_lookup (found : lookup key rows wanted = some row) : row ∈ rows :=
  List.mem_of_find?_eq_some found

theorem key_of_lookup (found : lookup key rows wanted = some row) : key row = wanted :=
  beq_iff_eq.1 (List.find?_some found :)

theorem lookup_of_mem (unique : (rows.map key).Nodup) (isRow : row ∈ rows) :
    lookup key rows (key row) = some row := by
  have isSome : (lookup key rows (key row)).isSome :=
    List.find?_isSome.2 ⟨row, isRow, beq_self_eq_true _⟩
  obtain ⟨found, isFound⟩ := Option.isSome_iff_exists.1 isSome
  rw [isFound, List.inj_on_of_nodup_map unique (mem_of_lookup isFound) isRow
    (key_of_lookup isFound)]

theorem lookup_eq_none : lookup key rows wanted = none ↔ ∀ row ∈ rows, key row ≠ wanted := by
  simp only [lookup, List.find?_eq_none, beq_iff_eq, ne_eq]

variable {change : Row → Row}

theorem lookup_update (selected : Row → Bool) (keeps : ∀ row, key (change row) = key row) :
    lookup key (update selected change rows) wanted =
      (lookup key rows wanted).map fun row => if selected row then change row else row := by
  have sameKey : ((fun row => key row == wanted) ∘ fun row =>
      if selected row then change row else row) = fun row => key row == wanted := by
    funext row
    simp only [Function.comp_apply]
    split
    · rw [keeps]
    · rfl
  rw [lookup, update, List.find?_map, sameKey]
  rfl

theorem lookup_update_key (changed : Key) (keeps : ∀ row, key (change row) = key row) :
    lookup key (update (fun row => key row == changed) change rows) wanted =
      if wanted = changed then (lookup key rows wanted).map change else lookup key rows wanted := by
  rw [lookup_update _ keeps]
  cases found : lookup key rows wanted with
  | none => simp
  | some row => by_cases same : wanted = changed <;> simp [key_of_lookup found, same]

theorem lookup_upsert {changed : Key} {create : Row} (keeps : ∀ row, key (change row) = key row)
    (creates : key create = changed) :
    lookup key (upsert key changed create change rows) wanted =
      if wanted = changed then some (((lookup key rows changed).map change).getD create)
      else lookup key rows wanted := by
  cases found : lookup key rows changed with
  | some row =>
    rw [upsert, found, Option.isSome_some, if_pos rfl, lookup_update_key _ keeps]
    by_cases same : wanted = changed
    · subst same
      simp [found]
    · rw [if_neg same, if_neg same]
  | none =>
    rw [upsert, found, Option.isSome_none, if_neg Bool.false_ne_true]
    by_cases same : wanted = changed
    · subst same
      simp only [lookup] at found ⊢
      simp [List.find?_append, found, creates]
    · have other : key create ≠ wanted := by
        rw [creates]
        exact Ne.symm same
      simp only [lookup, List.find?_append, if_neg same]
      simp [beq_false_of_ne other]

theorem exists_mem_upsert {create : Row} (keeps : ∀ row, key (change row) = key row)
    (creates : key create = wanted) :
    ∃ row ∈ upsert key wanted create change rows, key row = wanted := by
  have found : lookup key (upsert key wanted create change rows) wanted = _ :=
    lookup_upsert keeps creates
  rw [if_pos rfl] at found
  exact ⟨_, mem_of_lookup found, key_of_lookup found⟩

theorem upsert_id_of_found {create found : Row} (isFound : lookup key rows wanted = some found) :
    upsert key wanted create id rows = rows := by
  rw [upsert, isFound, Option.isSome_some, if_pos rfl, update]
  exact (List.map_congr_left fun row _ => ite_self row).trans (List.map_id _)

theorem upsert_of_absent {create : Row} (absent : lookup key rows wanted = none) :
    upsert key wanted create change rows = rows ++ [create] := by
  rw [upsert, absent, Option.isSome_none, if_neg Bool.false_ne_true]

theorem lookup_update_of_unselected {selected : Row → Bool}
    (keeps : ∀ row, key (change row) = key row)
    (unselected : ∀ row, key row = wanted → selected row = false) :
    lookup key (update selected change rows) wanted = lookup key rows wanted := by
  rw [lookup_update _ keeps]
  cases found : lookup key rows wanted with
  | none => rfl
  | some row => simp [unselected row (key_of_lookup found)]

theorem lookup_append (row : Row) : lookup key (rows ++ [row]) wanted =
      (lookup key rows wanted).or (if key row = wanted then some row else none) := by
  by_cases same : key row = wanted <;> simp [lookup, List.find?_append, same]

omit [DecidableEq Key] in
theorem nodup_append (unique : (rows.map key).Nodup) (fresh : ∀ other ∈ rows, key other ≠ key row) :
    ((rows ++ [row]).map key).Nodup := by
  rw [List.map_append]
  refine List.nodup_append.2 ⟨unique, List.nodup_singleton _, ?_⟩
  rintro _ isOld _ isNew rfl
  obtain ⟨other, isOther, same⟩ := List.mem_map.1 isOld
  exact fresh other isOther (same.trans (List.mem_singleton.1 isNew))

omit [DecidableEq Key] in
theorem filter_append_of_not {kept : Row → Bool} (out : kept row = false) :
    (rows ++ [row]).filter kept = rows.filter kept := by
  simp [List.filter_append, out]

variable {Value : Type}

section

omit [DecidableEq Key]

theorem map_update (column : Row → Value) (selected : Row → Bool)
    (keeps : ∀ row, column (change row) = column row) :
    (update selected change rows).map column = rows.map column := by
  rw [update, List.map_map]
  apply List.map_congr_left
  intro row _
  simp only [Function.comp_apply]
  split
  · exact keeps row
  · rfl

theorem filterMap_update (column : Row → Option Value) (selected : Row → Bool)
    (keeps : ∀ row, column (change row) = column row) :
    (update selected change rows).filterMap column = rows.filterMap column := by
  rw [update, List.filterMap_map]
  apply congrArg (List.filterMap · rows)
  funext row
  simp only [Function.comp_apply]
  split
  · exact keeps row
  · rfl

theorem eq_of_shared {column : Row → Option Value} (unique : (rows.filterMap column).Nodup)
    {row other : Row} {value : Value} (isRow : row ∈ rows) (isOther : other ∈ rows)
    (hasValue : column row = some value) (sameValue : column other = some value) : row = other := by
  by_contra apart
  have symmetric : Std.Symm fun left right => ∀ value, column left = some value →
      ∀ value', column right = some value' → value ≠ value' :=
    ⟨fun _ _ differ _ isLeft _ isRight => (differ _ isRight _ isLeft).symm⟩
  have distinct := (List.pairwise_filterMap.1 unique).forall isRow isOther apart
  exact distinct value hasValue value sameValue rfl

theorem find_of_column [DecidableEq Value] {column : Row → Option Value}
    (unique : (rows.filterMap column).Nodup) {value : Value} (isRow : row ∈ rows)
    (hasValue : column row = some value) :
    rows.find? (fun row => column row == some value) = some row := by
  have isSome : (rows.find? fun row => column row == some value).isSome :=
    List.find?_isSome.2 ⟨row, isRow, beq_iff_eq.2 hasValue⟩
  obtain ⟨found, isFound⟩ := Option.isSome_iff_exists.1 isSome
  have sameValue : column found = some value := beq_iff_eq.1 (List.find?_some isFound :)
  rw [isFound, eq_of_shared unique isRow (List.mem_of_find?_eq_some isFound) hasValue sameValue]

end

theorem map_filterMap_sublist {Row Row' Value : Type} {outcome : Row → Option Row'}
    {column : Row → Value} {column' : Row' → Value}
    (keeps : ∀ row row', outcome row = some row' → column' row' = column row) {rows : List Row} :
    ((rows.filterMap outcome).map column').Sublist (rows.map column) := by
  induction rows with
  | nil => exact List.Sublist.slnil
  | cons row rest ih =>
    cases has : outcome row with
    | none =>
      rw [List.filterMap_cons_none has]
      exact ih.cons _
    | some row' =>
      rw [List.filterMap_cons_some has, List.map_cons, keeps row row' has]
      exact ih.cons_cons _

variable {selected kept : Row → Bool}

omit [DecidableEq Key] in
theorem countP_update_le
    (keeps : ∀ row ∈ rows, selected row = true → kept (change row) = true → kept row = true) :
    (update selected change rows).countP kept ≤ rows.countP kept := by
  rw [update, List.countP_map]
  apply List.countP_mono_left
  intro row isRow isKept
  by_cases isSelected : selected row = true
  · simp only [Function.comp_apply, isSelected, if_true] at isKept
    exact keeps row isRow isSelected isKept
  · simpa [isSelected] using isKept

variable (amount : Row → Nat)

section

omit [DecidableEq Key]

/-- An update after which fewer rows are counted, and which keeps what is added up. -/
theorem sum_filter_update_of_le {selected kept kept' : Row → Bool}
    (changed : ∀ row, selected row = true → kept' (change row) = true → kept row = true)
    (unchanged : ∀ row, selected row ≠ true → kept' row = true → kept row = true)
    (same : ∀ row, amount (change row) = amount row) :
    (((update selected change rows).filter kept').map amount).sum ≤
      ((rows.filter kept).map amount).sum := by
  induction rows with
  | nil => exact le_rfl
  | cons row rest ih =>
    have after : kept' (if selected row = true then change row else row) = true →
        kept row = true := by
      split
      next isSelected => exact changed row isSelected
      next isSelected => exact unchanged row isSelected
    have sameAmount : amount (if selected row = true then change row else row) = amount row := by
      split
      · exact same row
      · rfl
    simp only [update, List.map_cons, List.filter_cons] at ih ⊢
    by_cases isKept : kept' (if selected row = true then change row else row) = true
    · rw [if_pos isKept, if_pos (after isKept), List.map_cons, List.map_cons, List.sum_cons,
        List.sum_cons, sameAmount]
      exact Nat.add_le_add_left ih _
    · rw [if_neg isKept]
      split
      · exact ih.trans (Nat.le_add_left _ _)
      · exact ih

theorem update_of_unselected {selected : Row → Bool}
    (unselected : ∀ row ∈ rows, selected row ≠ true) : update selected change rows = rows := by
  rw [update]
  conv_rhs => rw [← List.map_id rows]
  exact List.map_congr_left fun row isRow => if_neg (unselected row isRow)

theorem sum_filter_update_single (distinct : rows.Nodup) (isRow : row ∈ rows)
    (only : ∀ other ∈ rows, selected other = true ↔ other = row) (isKept : kept row = true)
    (leaves : kept (change row) = false) :
    (((update selected change rows).filter kept).map amount).sum + amount row =
      ((rows.filter kept).map amount).sum := by
  obtain ⟨before, after, rfl⟩ := List.append_of_mem isRow
  obtain ⟨-, distinctAfter, apart⟩ := List.nodup_append.1 distinct
  have notBefore : ∀ other ∈ before, selected other ≠ true := by
    intro other isOther isSelected
    exact apart other isOther row List.mem_cons_self
      ((only other (List.mem_append_left _ isOther)).1 isSelected)
  have notAfter : ∀ other ∈ after, selected other ≠ true := by
    intro other isOther isSelected
    have isIn : other ∈ before ++ row :: after :=
      List.mem_append_right _ (List.mem_cons_of_mem _ isOther)
    rw [(only other isIn).1 isSelected] at isOther
    exact (List.nodup_cons.1 distinctAfter).1 isOther
  have isSelected : selected row = true := (only row isRow).2 rfl
  have updated :
      update selected change (before ++ row :: after) = before ++ change row :: after := by
    have first : update selected change before = before := update_of_unselected notBefore
    have rest : update selected change after = after := update_of_unselected notAfter
    rw [update] at first rest
    rw [update, List.map_append, List.map_cons, first, rest, if_pos isSelected]
  rw [updated, List.filter_append, List.filter_append, List.filter_cons_of_pos isKept,
    List.filter_cons_of_neg (by rw [leaves]; exact Bool.false_ne_true)]
  simp only [List.map_append, List.map_cons, List.sum_append, List.sum_cons]
  omega

theorem sum_filter_append_le {belongs : Prop} [Decidable belongs]
    (only : kept row = true → belongs) :
    (((rows ++ [row]).filter kept).map amount).sum ≤
      ((rows.filter kept).map amount).sum + if belongs then amount row else 0 := by
  rw [List.filter_append, List.map_append, List.sum_append, List.filter_singleton]
  apply Nat.add_le_add_left
  cases isKept : kept row with
  | false => simp
  | true => simp [only isKept]

theorem sum_filter_update_le
    (keeps : ∀ row, selected row = true → kept (change row) = true → kept row = true)
    (same : ∀ row, amount (change row) = amount row) :
    (((update selected change rows).filter kept).map amount).sum ≤
      ((rows.filter kept).map amount).sum :=
  sum_filter_update_of_le amount keeps (fun _ _ => id) same

theorem length_le_sum_countP {Owner : Type} {owners : List Owner} (owns : Owner → Row → Bool)
    (owned : ∀ row ∈ rows, ∃ owner ∈ owners, owns owner row = true) :
    rows.length ≤ (owners.map fun owner => rows.countP (owns owner)).sum := by
  induction rows with
  | nil => exact Nat.zero_le _
  | cons row rest ih =>
    have tail := ih fun other isOther => owned other (List.mem_cons_of_mem _ isOther)
    obtain ⟨owner, isOwner, ownsRow⟩ := owned row List.mem_cons_self
    have head : 1 ≤ (owners.map fun owner => if owns owner row = true then 1 else 0).sum := by
      apply List.le_sum_of_mem
      exact List.mem_map.2 ⟨owner, isOwner, if_pos ownsRow⟩
    simp only [List.countP_cons, List.sum_map_add, List.length_cons]
    omega

end

end KeyedRows
