import Mathlib
import Sokar.Library.KeyedRows
import Sokar.Usage.Tariffs

/-!
# An unambiguous catalogue of tariffs

An import without issues keeps the catalogue unambiguous: no version of a dimension is there twice
and no instant has two tariffs of one dimension.  The lookup then never has to choose.
-/

namespace Sokar.UsageTariff

/-- Two versions of one category, provider and unit. -/
def SameDimension (left right : Version) : Prop :=
  left.category = right.category ∧ left.provider = right.provider ∧ left.unit = right.unit

theorem SameDimension.key {left right : Version} (same : SameDimension left right) :
    dimensionKey left = dimensionKey right := by
  rw [dimensionKey, dimensionKey, same.1, same.2.1, same.2.2]

/-- What no two tariffs of a catalogue share. -/
structure Apart (left right : ExistingUsageTariff) : Prop where
  version : left.name ≠ right.name
  windows : SameDimension left.name right.name →
    ∀ instant, ¬(left.window.contains instant = true ∧ right.window.contains instant = true)

def Unambiguous (tariffs : List ExistingUsageTariff) : Prop :=
  tariffs.Pairwise Apart

variable (rows : List UsageTariffImportRow)

/-- The tariffs created for rows, in order, under any ids. -/
def Created (tariffs : List ExistingUsageTariff) : Prop :=
  List.Forall₂ (fun row tariff => ∃ id, tariff = toUsageTariffCreateData row id) rows tariffs

section

variable [UnicodeLetters]

theorem Unambiguous.inEffect_le_one {tariffs : List ExistingUsageTariff}
    (unambiguous : Unambiguous tariffs) (category : UsageCategory) (provider unit : String)
    (occurredAt : Instant) : (inEffect tariffs category provider unit occurredAt).length ≤ 1 := by
  have apart : (inEffect tariffs category provider unit occurredAt).Pairwise Apart :=
    unambiguous.sublist List.filter_sublist
  have effective : ∀ tariff ∈ inEffect tariffs category provider unit occurredAt,
      tariff.category = category ∧ tariff.provider = normalizeDimension provider ∧
        tariff.unit = normalizeDimension unit ∧ tariff.window.contains occurredAt = true := by
    intro tariff found
    have listed := (List.mem_filter.1 found).2
    simp only [Bool.and_eq_true, beq_iff_eq] at listed
    exact ⟨listed.1.1.1.1, listed.1.1.1.2, listed.1.1.2, listed.2⟩
  match found : inEffect tariffs category provider unit occurredAt with
  | [] => simp
  | [_] => simp
  | first :: second :: rest =>
    rw [found] at apart effective
    have one := effective first List.mem_cons_self
    have two := effective second (List.mem_cons_of_mem _ List.mem_cons_self)
    have pair := List.rel_of_pairwise_cons apart List.mem_cons_self
    have same : SameDimension first.name second.name :=
      ⟨one.1.trans two.1.symm, one.2.1.trans two.2.1.symm, one.2.2.1.trans two.2.2.1.symm⟩
    exact absurd ⟨one.2.2.2, two.2.2.2⟩ (pair.windows same occurredAt)

end

section

def UsageTariffImportRow.key (row : UsageTariffImportRow) : String :=
  versionKey row.name

variable {existing : List ExistingUsageTariff}

theorem mem_of_existingByVersion {key : String} {current : ExistingUsageTariff}
    (found : existingByVersion existing key = some current) :
    current ∈ existing :=
  List.mem_reverse.1 (List.mem_of_find?_eq_some found)

theorem existingByVersion_eq_none {key : String} : existingByVersion existing key = none ↔
      ∀ tariff ∈ existing, versionKey tariff.name ≠ key := by
  simp [existingByVersion]

variable [UnicodeLetters]

/-- A skip stands for a row that the catalogue has already. -/
structure SkipOf (existing : List ExistingUsageTariff) (row : UsageTariffImportRow)
    (skip : UsageTariffSkip) : Prop where
  rowNumber : skip.rowNumber = row.rowNumber
  tariff : ∃ tariff ∈ existing, skip.tariffId = tariff.id ∧ sameTariff row tariff = true

/-- Where the loop stands after rows that raised no issue. -/
structure Planned (existing : List ExistingUsageTariff) (rows : List UsageTariffImportRow)
    (state : PlanState) : Prop where
  seen : state.seen = rows.map fun row => (row.key, row)
  distinct : (rows.map UsageTariffImportRow.key).Nodup
  inserts : state.inserts = rows.filter fun row => (existingByVersion existing row.key).isNone
  skips : List.Forall₂ (SkipOf existing)
    (rows.filter fun row => (existingByVersion existing row.key).isSome) state.skips

/-- The loop only adds issues. -/
theorem issues_planRow (existing : List ExistingUsageTariff) (state : PlanState)
    (row : UsageTariffImportRow) :
    ∃ more, (planRow existing state row).issues = state.issues ++ more := by
  unfold planRow
  dsimp only
  split
  · exact ⟨_, rfl⟩
  · split
    · split
      · exact ⟨[], (List.append_nil _).symm⟩
      · exact ⟨_, rfl⟩
    · exact ⟨[], (List.append_nil _).symm⟩

/-- A row that raises no issue is new, and either inserted or skipped. -/
theorem Planned.row {rows : List UsageTariffImportRow} {state : PlanState}
    (planned : Planned existing rows state) {row : UsageTariffImportRow}
    (noIssue : (planRow existing state row).issues = state.issues) :
    Planned existing (rows ++ [row]) (planRow existing state row) := by
  unfold planRow at noIssue ⊢
  dsimp only at noIssue ⊢
  cases duplicate : state.seen.find? fun entry => entry.1 == versionKey row.name with
  | some entry =>
    rw [duplicate] at noIssue
    simp at noIssue
  | none =>
    rw [duplicate] at noIssue
    have distinct : ((rows ++ [row]).map UsageTariffImportRow.key).Nodup := by
      refine KeyedRows.nodup_append planned.distinct fun other listed same => ?_
      rw [List.find?_eq_none, planned.seen] at duplicate
      exact duplicate _ (List.mem_map.2 ⟨other, listed, rfl⟩) (beq_iff_eq.2 same)
    have seen : state.seen ++ [(versionKey row.name, row)] =
        (rows ++ [row]).map fun row => (row.key, row) := by
      rw [planned.seen, List.map_append, List.map_singleton]
      rfl
    cases current : existingByVersion existing (versionKey row.name) with
    | none =>
      have none : existingByVersion existing row.key = none := current
      exact {
        seen := seen
        distinct := distinct
        inserts := by simp [planned.inserts, none]
        skips := by simpa [none] using planned.skips }
    | some tariff =>
      have found : existingByVersion existing row.key = some tariff := current
      rw [current] at noIssue
      by_cases same : sameTariff row tariff = true
      · have skip : SkipOf existing row ⟨row.rowNumber, tariff.id⟩ :=
          ⟨rfl, tariff, mem_of_existingByVersion found, rfl, same⟩
        have skips := List.rel_append planned.skips (.cons skip .nil)
        simp only [same, if_true]
        exact {
          seen := seen
          distinct := distinct
          inserts := by simp [planned.inserts, found]
          skips := by simpa [found] using skips }
      · simp [same] at noIssue

theorem planned_of_noIssue {rows : List UsageTariffImportRow}
    (noIssue : (rows.foldl (planRow existing) .start).issues = []) :
    Planned existing rows (rows.foldl (planRow existing) .start) := by
  induction rows using List.reverseRecOn with
  | nil => exact ⟨rfl, List.nodup_nil, rfl, .nil⟩
  | append_singleton rows row ih =>
    rw [List.foldl_append, List.foldl_cons, List.foldl_nil] at noIssue ⊢
    obtain ⟨more, issues⟩ := issues_planRow existing (rows.foldl (planRow existing) .start) row
    have none := noIssue
    rw [issues, List.append_eq_nil_iff] at none
    exact (ih none.1).row (noIssue.trans none.1.symm)

end

section

variable {tariffs : List ExistingUsageTariff}

theorem Created.mem {rows : List UsageTariffImportRow} (created : Created rows tariffs)
    {tariff : ExistingUsageTariff} (listed : tariff ∈ tariffs) :
    ∃ row ∈ rows, ∃ id, tariff = toUsageTariffCreateData row id := by
  induction created with
  | nil => cases listed
  | cons here _ ih =>
    rcases List.mem_cons.1 listed with rfl | later
    · exact ⟨_, List.mem_cons_self, here⟩
    · obtain ⟨row, found, made⟩ := ih later
      exact ⟨row, List.mem_cons_of_mem _ found, made⟩

variable {row : UsageTariffImportRow}

theorem Created.mem_of_row {rows : List UsageTariffImportRow} (created : Created rows tariffs)
    (listed : row ∈ rows) :
    ∃ id, toUsageTariffCreateData row id ∈ tariffs := by
  induction created with
  | nil => cases listed
  | cons here _ ih =>
    rcases List.mem_cons.1 listed with rfl | later
    · obtain ⟨id, rfl⟩ := here
      exact ⟨id, List.mem_cons_self⟩
    · obtain ⟨id, found⟩ := ih later
      exact ⟨id, List.mem_cons_of_mem _ found⟩

theorem Created.pairwise {rows : List UsageTariffImportRow} (created : Created rows tariffs)
    {relation : UsageTariffImportRow → UsageTariffImportRow → Prop}
    {conclusion : ExistingUsageTariff → ExistingUsageTariff → Prop}
    (carries : ∀ left right leftId rightId, relation left right →
      conclusion (toUsageTariffCreateData left leftId) (toUsageTariffCreateData right rightId))
    (pairwise : rows.Pairwise relation) : tariffs.Pairwise conclusion := by
  induction created with
  | nil => exact .nil
  | cons here there ih =>
    rw [List.pairwise_cons] at pairwise ⊢
    refine ⟨fun other later => ?_, ih pairwise.2⟩
    obtain ⟨row, found, id, rfl⟩ := Created.mem there later
    obtain ⟨firstId, rfl⟩ := here
    exact carries _ _ _ _ (pairwise.1 row found)

variable [UnicodeLetters]

/-- Each row is in one of two lists: it is inserted or stands for a skip. -/
def EachOnce (existing : List ExistingUsageTariff) (plan : UsageTariffImportPlan) : Prop :=
  ∃ skipped, List.Forall₂ (SkipOf existing) skipped plan.skips ∧
    (plan.inserts ++ skipped).Perm rows ∧
    ∀ row ∈ rows, Xor (row ∈ plan.inserts) (row ∈ skipped)

/-- What a plan without issues rests on. -/
structure Clean (rows : List UsageTariffImportRow) (existing : List ExistingUsageTariff) :
    Prop where
  planned : Planned existing rows (rows.foldl (planRow existing) .start)
  inserts : (planUsageTariffImport rows existing).inserts =
    rows.filter fun row => (existingByVersion existing row.key).isNone
  skips : List.Forall₂ (SkipOf existing)
    (rows.filter fun row => (existingByVersion existing row.key).isSome)
    (planUsageTariffImport rows existing).skips
  catalogue : ∀ candidate ∈ (planUsageTariffImport rows existing).inserts, ∀ current ∈ existing,
    overlapsExisting candidate current = false
  candidates : (planUsageTariffImport rows existing).inserts.Pairwise fun first second =>
    overlapsCandidate first second = false

theorem clean_of_noIssue {rows : List UsageTariffImportRow} {existing : List ExistingUsageTariff}
    (noIssue : (planUsageTariffImport rows existing).issues = []) : Clean rows existing := by
  have parts := noIssue
  simp only [planUsageTariffImport, List.append_eq_nil_iff] at parts
  obtain ⟨⟨loop, againstExisting⟩, amongCandidates⟩ := parts
  have planned := planned_of_noIssue loop
  have inserts : (planUsageTariffImport rows existing).inserts =
      (rows.foldl (planRow existing) .start).inserts := by
    have none := noIssue
    simp only [planUsageTariffImport] at none ⊢
    rw [if_pos none]
  exact {
    planned := planned
    inserts := inserts.trans planned.inserts
    skips := planned.skips
    catalogue := by
      rw [inserts]
      intro candidate listed current found
      rw [existingOverlaps, List.flatMap_eq_nil_iff] at againstExisting
      have none := againstExisting candidate listed
      rw [List.map_eq_nil_iff, List.filter_eq_nil_iff] at none
      exact Bool.eq_false_iff.2 (none current found)
    candidates := by
      rw [inserts, ← forall_orderedPairs]
      intro pair found
      rw [candidateOverlaps, List.map_eq_nil_iff, List.filter_eq_nil_iff] at amongCandidates
      exact Bool.eq_false_iff.2 (amongCandidates pair found) }

variable {rows : List UsageTariffImportRow} {existing : List ExistingUsageTariff}

section

variable (clean : Clean rows existing)
include clean

theorem Clean.newKey (listed : row ∈ (planUsageTariffImport rows existing).inserts) :
    ∀ tariff ∈ existing, versionKey tariff.name ≠ row.key := by
  rw [clean.inserts, List.mem_filter, Option.isNone_iff_eq_none] at listed
  exact existingByVersion_eq_none.1 listed.2

theorem Clean.apartFromExisting (listed : row ∈ (planUsageTariffImport rows existing).inserts)
    {tariff : ExistingUsageTariff} (found : tariff ∈ existing) (id : Id) :
    Apart tariff (toUsageTariffCreateData row id)  where
  version := fun same => clean.newKey listed tariff found (congrArg versionKey same)
  windows := by
    intro same instant both
    have differ : (versionKey row.name != versionKey tariff.name) = true :=
      bne_iff_ne.2 fun same => clean.newKey listed tariff found same.symm
    have key : dimensionKey row.name = dimensionKey tariff.name := same.key.symm
    have none := clean.catalogue row listed tariff found
    rw [overlapsExisting, key, beq_self_eq_true, differ, Bool.true_and, Bool.true_and] at none
    exact Window.disjoint none instant both.symm

theorem Clean.inEffect_append {created : List ExistingUsageTariff}
    (inserted : Created (planUsageTariffImport rows existing).inserts created)
    {category : UsageCategory} {provider unit : String} {occurredAt : Instant}
    (some : inEffect existing category provider unit occurredAt ≠ []) :
    inEffect (existing ++ created) category provider unit occurredAt =
      inEffect existing category provider unit occurredAt := by
  obtain ⟨tariff, found⟩ := List.exists_mem_of_ne_nil _ some
  obtain ⟨listed, effective⟩ := List.mem_filter.1 found
  simp only [Bool.and_eq_true, beq_iff_eq] at effective
  have none : inEffect created category provider unit occurredAt = [] := by
    rw [inEffect, List.filter_eq_nil_iff]
    intro other made otherEffective
    simp only [Bool.and_eq_true, beq_iff_eq] at otherEffective
    obtain ⟨row, planned, id, rfl⟩ := inserted.mem made
    have same : SameDimension tariff.name (toUsageTariffCreateData row id).name :=
      ⟨effective.1.1.1.1.trans otherEffective.1.1.1.1.symm,
        effective.1.1.1.2.trans otherEffective.1.1.1.2.symm,
        effective.1.1.2.trans otherEffective.1.1.2.symm⟩
    exact (clean.apartFromExisting planned listed id).windows same occurredAt
      ⟨effective.2, otherEffective.2⟩
  unfold inEffect at none ⊢
  rw [List.filter_append, none, List.append_nil]

theorem Clean.unambiguous (unambiguous : Unambiguous existing) {created : List ExistingUsageTariff}
    (inserted : Created (planUsageTariffImport rows existing).inserts created) :
    Unambiguous (existing ++ created) := by
  have keys : (planUsageTariffImport rows existing).inserts.Pairwise fun first second =>
      first.key ≠ second.key := by
    rw [clean.inserts]
    exact (List.pairwise_map.1 clean.planned.distinct).sublist List.filter_sublist
  refine List.pairwise_append.2 ⟨unambiguous, ?_, fun tariff found other made => ?_⟩
  · apply inserted.pairwise _ (keys.and clean.candidates)
    rintro left right leftId rightId ⟨differ, apart⟩
    refine ⟨fun same => differ (congrArg versionKey same), fun same instant both => ?_⟩
    have key : dimensionKey left.name = dimensionKey right.name := same.key
    rw [overlapsCandidate, key, beq_self_eq_true, Bool.true_and] at apart
    exact Window.disjoint apart instant both
  · obtain ⟨row, listed, id, rfl⟩ := inserted.mem made
    exact clean.apartFromExisting listed found id

theorem Clean.eachOnce : EachOnce rows existing (planUsageTariffImport rows existing) := by
  have others : (rows.filter fun row => (existingByVersion existing row.key).isSome) =
      rows.filter fun row => !(existingByVersion existing row.key).isNone := by
    congr 1
    funext row
    cases existingByVersion existing row.key <;> rfl
  refine ⟨_, clean.skips, ?_, fun row listed => ?_⟩
  · rw [clean.inserts, others]
    exact List.filter_append_perm _ rows
  · rw [clean.inserts, List.mem_filter, List.mem_filter]
    cases existingByVersion existing row.key <;> simp [Xor, listed]

end

theorem inserts_of_known (known : ∀ row ∈ rows, existingByVersion existing row.key ≠ none) :
    (planUsageTariffImport rows existing).inserts = [] := by
  have step : ∀ state, ∀ row ∈ rows, (planRow existing state row).inserts = state.inserts := by
    intro state row listed
    obtain ⟨current, found⟩ := Option.ne_none_iff_exists'.1 (known row listed)
    have key : existingByVersion existing (versionKey row.name) = some current := found
    unfold planRow
    dsimp only
    rw [key]
    dsimp only
    split
    · rfl
    · split <;> rfl
  have loop : ∀ items, items ⊆ rows → ∀ state,
      (items.foldl (planRow existing) state).inserts = state.inserts := by
    intro items
    induction items with
    | nil => exact fun _ _ => rfl
    | cons row items ih =>
      intro listed state
      rw [List.foldl_cons, ih fun other later => listed (List.mem_cons_of_mem _ later)]
      exact step state row (listed List.mem_cons_self)
  have none := loop rows (List.Subset.refl _) .start
  simp only [planUsageTariffImport]
  split
  · exact none
  · rfl

theorem Clean.known (clean : Clean rows existing) {created catalogue : List ExistingUsageTariff}
    (inserted : Created (planUsageTariffImport rows existing).inserts created)
    (same : catalogue.Perm (existing ++ created)) (listed : row ∈ rows) :
    existingByVersion catalogue row.key ≠ none := by
  intro unknown
  rw [existingByVersion_eq_none] at unknown
  cases before : existingByVersion existing row.key with
  | some current =>
    have key : versionKey current.name = row.key := by
      simpa using List.find?_some before
    have found := List.mem_append_left created (mem_of_existingByVersion before)
    exact unknown current (same.mem_iff.2 found) key
  | none =>
    have planned : row ∈ (planUsageTariffImport rows existing).inserts := by
      rw [clean.inserts, List.mem_filter, before]
      exact ⟨listed, rfl⟩
    obtain ⟨id, made⟩ := inserted.mem_of_row planned
    exact unknown _ (same.mem_iff.2 (List.mem_append_right existing made)) rfl

/-- An import without issues into an unambiguous catalogue leaves it unambiguous, inserts or
skips each row, and leaves nothing to insert for the same rows. -/
theorem planUsageTariffImport_unambiguous (unambiguous : Unambiguous existing)
    (noIssue : (planUsageTariffImport rows existing).issues = [])
    {created : List ExistingUsageTariff}
    (inserted : Created (planUsageTariffImport rows existing).inserts created) :
    Unambiguous (existing ++ created) ∧
      EachOnce rows existing (planUsageTariffImport rows existing) ∧
      (∀ category provider unit occurredAt,
        (inEffect (existing ++ created) category provider unit occurredAt).length ≤ 1) ∧
      ∀ catalogue, catalogue.Perm (existing ++ created) →
        (planUsageTariffImport rows catalogue).inserts = [] := by
  have clean := clean_of_noIssue noIssue
  have after := clean.unambiguous unambiguous inserted
  refine ⟨after, clean.eachOnce, fun _ _ _ _ => after.inEffect_le_one _ _ _ _, ?_⟩
  intro catalogue same
  exact inserts_of_known fun row listed => clean.known inserted same listed

end

section

attribute [local instance] UnicodeLetters.ascii

/-- The price of a message until October 2026. -/
def untilOctober : UsageTariffImportRow :=
  ⟨2, .SMS_SEGMENTS, "telnyx", "segments", 7500000, 1788220800000, some 1790812800000, 1, "list"⟩

def fromOctober : UsageTariffImportRow :=
  ⟨3, .SMS_SEGMENTS, "telnyx", "segments", 8000000, 1790812800000, none, 2, "list"⟩

def listPrice : ExistingUsageTariff :=
  toUsageTariffCreateData untilOctober "tariff-1"

def nextPrice : ExistingUsageTariff :=
  toUsageTariffCreateData fromOctober "tariff-2"

theorem planUsageTariffImport_successor : Unambiguous [listPrice, nextPrice] ∧
      EachOnce [untilOctober, fromOctober] [listPrice]
        (planUsageTariffImport [untilOctober, fromOctober] [listPrice]) ∧
      (∀ category provider unit occurredAt,
        (inEffect [listPrice, nextPrice] category provider unit occurredAt).length ≤ 1) ∧
      ∀ catalogue : List ExistingUsageTariff, catalogue.Perm [listPrice, nextPrice] →
        (planUsageTariffImport [untilOctober, fromOctober] catalogue).inserts = [] := by
  have plan : planUsageTariffImport [untilOctober, fromOctober] [listPrice] =
      ⟨[fromOctober], [⟨2, "tariff-1"⟩], []⟩ := by decide_cbv
  have inserted : Created (planUsageTariffImport [untilOctober, fromOctober] [listPrice]).inserts
      [nextPrice] := by
    rw [plan]
    exact .cons ⟨"tariff-2", rfl⟩ .nil
  exact planUsageTariffImport_unambiguous (List.pairwise_singleton _ _) (by rw [plan]) inserted

end

end Sokar.UsageTariff
