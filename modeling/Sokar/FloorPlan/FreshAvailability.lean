import Sokar.FloorPlan.AvailabilityCache

/-!
# Availability after an invalidation

An answer from the cache is one to what the database was when the number in its key had last come
to be shown, or later.  So a call that starts after an invalidation is never answered with what
was computed before the change that was invalidated, as long as no number is shown again while
something is cached under it, and nobody caches under a number that was shown again since it was
read: a counter that runs out starts again at 1.
-/

namespace Sokar

open Process Transaction

namespace AvailabilityData

section

variable (data : AvailabilityData) (now : Instant) (restaurantId : Id) (version readAt : Nat)

/-- The first invalidations, those of the restaurant. -/
def invalidatedUpTo : List Invalidation :=
  (data.invalidations.take readAt).filter (·.restaurantId == restaurantId)

/-- All but the first invalidations, those of the restaurant. -/
def invalidatedSince : List Invalidation :=
  (data.invalidations.drop readAt).filter (·.restaurantId == restaurantId)

/-- The number has come to be shown since: by an `INCR`, or 0 when a counter that was created
since has run out. -/
def isShownSince : Bool :=
  if version = 0 then
    decide ((data.counter? now restaurantId).toList.length <
      (data.invalidatedSince restaurantId readAt).countP (·.version == 1))
  else (data.invalidatedSince restaurantId readAt).any (·.version == version)

/-- The number in the key of the entry has come to be shown since it was read. -/
def isOutdated (entry : AvailabilityEntry) : Bool :=
  data.isShownSince now entry.key.restaurantId entry.key.version entry.readAt

/-- The number was shown when so many invalidations had been made: what came before set the
counter to it, or there was no counter, so that what comes next creates one. -/
structure Shown : Prop where
  inList : readAt ≤ data.invalidations.length
  number : version ≠ 0 →
    (data.invalidatedUpTo restaurantId readAt).getLast?.map (·.version) = some version
  absent : version = 0 → data.invalidatedSince restaurantId readAt = [] →
    data.counter? now restaurantId = none
  creates : version = 0 → ∀ invalidation rest,
    data.invalidatedSince restaurantId readAt = invalidation :: rest → invalidation.version = 1

structure EntrySound (entry : AvailabilityEntry) : Prop where
  shown : data.Shown now entry.key.restaurantId entry.key.version entry.readAt
  covers : ∀ invalidation ∈ data.invalidatedUpTo entry.key.restaurantId entry.readAt,
    invalidation.revision ≤ entry.revision

/-- The counters show what was last counted, and entries are as they say. -/
structure Accurate : Prop where
  counted : ∀ restaurantId counter, data.counter? now restaurantId = some counter →
    counter.value ≠ 0 ∧
      (data.invalidatedUpTo restaurantId data.invalidations.length).getLast?.map (·.version) =
        some counter.value
  revisions : ∀ invalidation ∈ data.invalidations, invalidation.revision ≤ data.revision
  entries : ∀ entry ∈ data.entries, data.EntrySound now entry

end

variable {data data' : AvailabilityData} {now later : Instant} {restaurantId : Id}
variable {version readAt readAt' revision : Nat}

theorem take_eq_take_append (before : readAt' ≤ readAt) : data.invalidations.take readAt =
      data.invalidations.take readAt' ++ (data.invalidations.take readAt).drop readAt' := by
  have shorter : (data.invalidations.take readAt).take readAt' =
      data.invalidations.take readAt' := by
    rw [List.take_take, Nat.min_eq_left before]
  rw [← shorter, List.take_append_drop]

theorem drop_eq_append_drop (before : readAt' ≤ readAt) (inList : readAt ≤ data.invalidations.length) :
    data.invalidations.drop readAt' =
      (data.invalidations.take readAt).drop readAt' ++ data.invalidations.drop readAt := by
  have long : readAt' ≤ (data.invalidations.take readAt).length := by
    rw [List.length_take, Nat.min_eq_left inList]
    exact before
  rw [← List.drop_append_of_le_length long, List.take_append_drop]

/-- The invalidations of the restaurant between two counts. -/
def invalidatedBetween (data : AvailabilityData) (restaurantId : Id) (readAt' readAt : Nat) :
    List Invalidation :=
  ((data.invalidations.take readAt).drop readAt').filter (·.restaurantId == restaurantId)

theorem invalidatedUpTo_append (before : readAt' ≤ readAt) :
    data.invalidatedUpTo restaurantId readAt = data.invalidatedUpTo restaurantId readAt' ++
        data.invalidatedBetween restaurantId readAt' readAt :=
  (congrArg (List.filter _) (take_eq_take_append before)).trans (List.filter_append _ _)

theorem invalidatedSince_append (before : readAt' ≤ readAt)
    (inList : readAt ≤ data.invalidations.length) :
    data.invalidatedSince restaurantId readAt' =
      data.invalidatedBetween restaurantId readAt' readAt ++
        data.invalidatedSince restaurantId readAt :=
  (congrArg (List.filter _) (drop_eq_append_drop before inList)).trans (List.filter_append _ _)

section

variable (shown : data.Shown now restaurantId version readAt)
variable (shownBefore : data.Shown now restaurantId version readAt')
include shown shownBefore

theorem Shown.again (before : readAt' ≤ readAt) {invalidation : Invalidation}
    (between : invalidation ∈ data.invalidatedBetween restaurantId readAt' readAt) :
    data.isShownSince now restaurantId version readAt' = true := by
  have upTo : data.invalidatedUpTo restaurantId readAt = _ := invalidatedUpTo_append before
  have since : data.invalidatedSince restaurantId readAt' = _ :=
    invalidatedSince_append before shown.inList
  generalize data.invalidatedBetween restaurantId readAt' readAt = middle at between upTo since
  have notEmpty : middle ≠ [] := List.ne_nil_of_mem between
  by_cases isZero : version = 0
  · obtain ⟨first, rest, isFirst⟩ := List.exists_cons_of_ne_nil notEmpty
    have created : first.version = 1 := by
      apply shownBefore.creates isZero
      rw [since, isFirst]
      rfl
    have inMiddle : 1 ≤ middle.countP (·.version == 1) := by
      rw [isFirst, List.countP_cons_of_pos (by simpa using created)]
      exact Nat.le_add_left _ _
    have again : (data.counter? now restaurantId).toList.length ≤
        (data.invalidatedSince restaurantId readAt).countP (·.version == 1) := by
      cases counts : data.invalidatedSince restaurantId readAt with
      | nil =>
        rw [shown.absent isZero counts]
        exact Nat.zero_le _
      | cons next more =>
        have createsNext := shown.creates isZero next more counts
        rw [List.countP_cons_of_pos (by simpa using createsNext)]
        exact (Option.length_toList_le).trans (Nat.le_add_left _ _)
    rw [isShownSince, if_pos isZero, since, List.countP_append, decide_eq_true_eq]
    omega
  · have last := shown.number isZero
    rw [upTo, List.getLast?_append_of_ne_nil _ notEmpty, Option.map_eq_some_iff] at last
    obtain ⟨shownLast, isLast, isVersion⟩ := last
    rw [isShownSince, if_neg isZero, since, List.any_append, Bool.or_eq_true]
    exact .inl (List.any_eq_true.2 ⟨shownLast, List.mem_of_getLast? isLast, by simpa using isVersion⟩)

/-- What is not outdated comes after every invalidation up to when its number is shown. -/
theorem Shown.upTo_subset (notAgain : data.isShownSince now restaurantId version readAt' = false) :
    ∀ invalidation ∈ data.invalidatedUpTo restaurantId readAt,
      invalidation ∈ data.invalidatedUpTo restaurantId readAt' := by
  intro invalidation isIn
  rcases Nat.le_total readAt readAt' with before | after
  · rw [invalidatedUpTo_append before]
    exact List.mem_append_left _ isIn
  · rw [invalidatedUpTo_append after, List.mem_append] at isIn
    rcases isIn with earlier | between
    · exact earlier
    · rw [shown.again shownBefore after between] at notAgain
      cases notAgain

end

/-- A counter that has run out stays gone. -/
theorem counter?_earlier (after : now ≤ later) {counter : VersionCounter}
    (found : data.counter? later restaurantId = some counter) :
    data.counter? now restaurantId = some counter := by
  obtain ⟨isCounter, lives⟩ := Option.filter_eq_some_iff.1 found
  refine Option.filter_eq_some_iff.2 ⟨isCounter, ?_⟩
  cases hasEnd : counter.expiresAt with
  | none => rfl
  | some expiresAt =>
    rw [hasEnd, Option.all_some, decide_eq_true_eq] at lives
    rw [Option.all_some, decide_eq_true_eq]
    exact after.trans_lt lives

theorem counter?_later (after : now ≤ later) (gone : data.counter? now restaurantId = none) :
    data.counter? later restaurantId = none := by
  by_contra lives
  obtain ⟨counter, found⟩ := Option.ne_none_iff_exists'.1 lives
  cases gone.symm.trans (counter?_earlier after found)

/-- The counter after an `INCR`. -/
def incremented (data : AvailabilityData) (now : Instant) (restaurantId : Id) : VersionCounter :=
  match data.counter? now restaurantId with
  | some counter => { counter with value := counter.value + 1 }
  | none => { value := 1, expiresAt := none }

theorem incremented_of_none (gone : data.counter? now restaurantId = none) :
    (data.incremented now restaurantId).value = 1 := by
  rw [incremented, gone]

theorem incremented_ne_zero : (data.incremented now restaurantId).value ≠ 0 := by
  unfold incremented
  split
  · exact Nat.succ_ne_zero _
  · exact one_ne_zero

theorem incr_eq : data.incr now restaurantId revision = { data with
      counters := Function.update data.counters restaurantId
        (some (data.incremented now restaurantId))
      invalidations := data.invalidations ++
        [⟨restaurantId, (data.incremented now restaurantId).value, revision⟩] } :=
  rfl

theorem counter?_incr_self : (data.incr now restaurantId revision).counter? now restaurantId =
    some (data.incremented now restaurantId) := by
  rw [incr_eq, counter?]
  dsimp only
  rw [Function.update_self]
  refine Option.filter_eq_some_iff.2 ⟨rfl, ?_⟩
  unfold incremented
  split
  next counter found => exact (Option.filter_eq_some_iff.1 found).2
  next => rfl

theorem counter?_incr_other {other : Id} (isOther : other ≠ restaurantId) :
    (data.incr now restaurantId revision).counter? now other = data.counter? now other := by
  rw [incr_eq, counter?]
  dsimp only
  rw [Function.update_of_ne isOther]
  rfl

theorem counter?_expire (other : Id) :
    ((data.expire now restaurantId).counter? now other).map (·.value) =
      (data.counter? now other).map (·.value) := by
  unfold expire
  split
  next counter found =>
    by_cases same : other = restaurantId
    · subst same
      have lives : now < now + AVAILABILITY_VERSION_TTL_SECONDS * 1000 :=
        lt_add_of_pos_right now (by decide)
      rw [found, counter?]
      simp [lives]
    · rw [counter?]
      dsimp only
      rw [Function.update_of_ne same]
      rfl
  next => rfl

theorem invalidatedUpTo_of_prefix (grown : data.invalidations <+: data'.invalidations)
    (inList : readAt ≤ data.invalidations.length) :
    data'.invalidatedUpTo restaurantId readAt = data.invalidatedUpTo restaurantId readAt := by
  obtain ⟨more, same⟩ := grown
  rw [invalidatedUpTo, ← same, List.take_append_of_le_length inList]
  rfl

theorem invalidatedSince_of_append {more : List Invalidation}
    (grown : data'.invalidations = data.invalidations ++ more)
    (inList : readAt ≤ data.invalidations.length) :
    data'.invalidatedSince restaurantId readAt = data.invalidatedSince restaurantId readAt ++
      more.filter (·.restaurantId == restaurantId) := by
  rw [invalidatedSince, grown, List.drop_append_of_le_length inList, List.filter_append]
  rfl

end AvailabilityData

open AvailabilityData

/-- What a call writes: whoever caches knows what it read, and under a number that was not shown
again since. -/
inductive AvailabilityWrite (data : AvailabilityData) (now : Instant) : AvailabilityData → Prop where
  | same : AvailabilityWrite data now data
  | mutated (change : Database → Instant → Database) :
      AvailabilityWrite data now (data.mutated now change)
  | incr (restaurantId : Id) (revision : Nat) : revision ≤ data.revision →
      AvailabilityWrite data now (data.incr now restaurantId revision)
  | expire (restaurantId : Id) : AvailabilityWrite data now (data.expire now restaurantId)
  | cache (entry : AvailabilityEntry) : data.EntrySound now entry →
      (entry ∈ data.entries ∨ data.isOutdated now entry = false) →
        AvailabilityWrite data now (data.cache entry)

namespace AvailabilityWrite

variable {data data' : AvailabilityData} {now later : Instant} {restaurantId : Id}
variable {version readAt : Nat}

theorem grown (write : AvailabilityWrite data now data') :
    data.invalidations <+: data'.invalidations := by
  cases write with
  | same => exact List.prefix_refl _
  | mutated change => exact List.prefix_refl _
  | incr restaurantId revision _ => exact List.prefix_append _ _
  | expire restaurantId =>
    unfold AvailabilityData.expire
    split
    · exact List.prefix_refl _
    · exact List.prefix_refl _
  | cache entry _ _ => exact List.prefix_refl _

theorem revision_le (write : AvailabilityWrite data now data') : data.revision ≤ data'.revision := by
  cases write with
  | same => exact le_rfl
  | mutated change => exact Nat.le_succ _
  | incr restaurantId revision _ => exact le_rfl
  | expire restaurantId =>
    unfold AvailabilityData.expire
    split
    · exact le_rfl
    · exact le_rfl
  | cache entry _ _ => exact le_rfl

theorem counter?_of_same (write : AvailabilityWrite data now data')
    (same : data'.invalidations = data.invalidations) (restaurantId : Id) :
    (data'.counter? now restaurantId).map (·.value) =
      (data.counter? now restaurantId).map (·.value) := by
  cases write with
  | same => rfl
  | mutated change => rfl
  | incr changed revision _ =>
    have longer := congrArg List.length same
    simp [incr_eq] at longer
  | expire changed => exact counter?_expire restaurantId
  | cache entry _ _ => rfl

/-- An `INCR`, or a write that leaves the invalidations. -/
theorem incr_or_same (write : AvailabilityWrite data now data') :
    (∃ restaurantId revision, revision ≤ data.revision ∧
      data' = data.incr now restaurantId revision) ∨ data'.invalidations = data.invalidations := by
  cases write with
  | same => exact .inr rfl
  | mutated change => exact .inr rfl
  | incr restaurantId revision made => exact .inl ⟨restaurantId, revision, made, rfl⟩
  | expire restaurantId =>
    right
    unfold AvailabilityData.expire
    split
    · rfl
    · rfl
  | cache entry _ _ => exact .inr rfl

theorem shown (write : AvailabilityWrite data now data')
    (shown : data.Shown now restaurantId version readAt) :
    data'.Shown now restaurantId version readAt := by
  have sameUpTo : data'.invalidatedUpTo restaurantId readAt = _ :=
    invalidatedUpTo_of_prefix write.grown shown.inList
  have inList := shown.inList.trans write.grown.length_le
  rcases write.incr_or_same with ⟨changed, revision, -, isIncr⟩ | same
  · have appended : data'.invalidations = data.invalidations ++
        [⟨changed, (data.incremented now changed).value, revision⟩] := by
      rw [isIncr, incr_eq]
    have sameSince : data'.invalidatedSince restaurantId readAt = _ :=
      invalidatedSince_of_append appended shown.inList
    by_cases isChanged : changed = restaurantId
    · subst isChanged
      have added : ([⟨changed, (data.incremented now changed).value, revision⟩] :
          List Invalidation).filter (·.restaurantId == changed) =
            [⟨changed, (data.incremented now changed).value, revision⟩] := by
        simp
      rw [added] at sameSince
      constructor
      · exact inList
      · exact fun notZero => sameUpTo ▸ shown.number notZero
      · intro _ isNil
        rw [sameSince] at isNil
        cases List.append_eq_nil_iff.1 isNil |>.2
      · intro isZero invalidation rest isFirst
        rw [sameSince] at isFirst
        cases before : data.invalidatedSince changed readAt with
        | nil =>
          rw [before] at isFirst
          cases isFirst
          exact incremented_of_none (shown.absent isZero before)
        | cons first more =>
          rw [before] at isFirst
          cases isFirst
          exact shown.creates isZero _ more before
    · have added : ([⟨changed, (data.incremented now changed).value, revision⟩] :
          List Invalidation).filter (·.restaurantId == restaurantId) = [] := by
        simp [isChanged]
      rw [added, List.append_nil] at sameSince
      constructor
      · exact inList
      · exact fun notZero => sameUpTo ▸ shown.number notZero
      · intro isZero isNil
        rw [isIncr, counter?_incr_other (Ne.symm isChanged)]
        exact shown.absent isZero (sameSince ▸ isNil)
      · intro isZero invalidation rest isFirst
        exact shown.creates isZero invalidation rest (sameSince ▸ isFirst)
  · have sameSince : data'.invalidatedSince restaurantId readAt =
        data.invalidatedSince restaurantId readAt := by
      rw [invalidatedSince, same]
      rfl
    constructor
    · exact inList
    · exact fun notZero => sameUpTo ▸ shown.number notZero
    · intro isZero isNil
      have gone := shown.absent isZero (sameSince ▸ isNil)
      have shows := write.counter?_of_same same restaurantId
      rw [gone, Option.map_none] at shows
      exact Option.map_eq_none_iff.1 shows
    · intro isZero invalidation rest isFirst
      exact shown.creates isZero invalidation rest (sameSince ▸ isFirst)

theorem upTo_eq (write : AvailabilityWrite data now data')
    (inList : readAt ≤ data.invalidations.length) (restaurantId : Id) :
    data'.invalidatedUpTo restaurantId readAt = data.invalidatedUpTo restaurantId readAt :=
  invalidatedUpTo_of_prefix write.grown inList

theorem entrySound (write : AvailabilityWrite data now data') {entry : AvailabilityEntry}
    (sound : data.EntrySound now entry) : data'.EntrySound now entry where
  shown := write.shown sound.shown
  covers := by
    rw [write.upTo_eq sound.shown.inList]
    exact sound.covers

/-- An entry that is there was there before, or has just been cached. -/
theorem entry_of_mem (write : AvailabilityWrite data now data') {entry : AvailabilityEntry}
    (isEntry : entry ∈ data'.entries) : entry ∈ data.entries ∨
      data.EntrySound now entry ∧ data.isOutdated now entry = false := by
  cases write with
  | same => exact .inl isEntry
  | mutated change => exact .inl isEntry
  | incr restaurantId revision _ => exact .inl isEntry
  | expire restaurantId =>
    unfold AvailabilityData.expire at isEntry
    split at isEntry
    · exact .inl isEntry
    · exact .inl isEntry
  | cache cached sound fresh =>
    rcases List.mem_cons.1 isEntry with isCached | isOther
    · subst isCached
      exact fresh.imp_right fun notOutdated => ⟨sound, notOutdated⟩
    · exact .inl (List.mem_of_mem_filter isOther)

theorem counted (write : AvailabilityWrite data now data') (accurate : data.Accurate now)
    {counter : VersionCounter} (found : data'.counter? now restaurantId = some counter) :
    counter.value ≠ 0 ∧
      (data'.invalidatedUpTo restaurantId data'.invalidations.length).getLast?.map (·.version) =
        some counter.value := by
  rcases write.incr_or_same with ⟨changed, revision, -, isIncr⟩ | same
  · subst isIncr
    have upTo : (data.incr now changed revision).invalidatedUpTo restaurantId
        (data.incr now changed revision).invalidations.length =
          data.invalidatedUpTo restaurantId data.invalidations.length ++
            ([⟨changed, (data.incremented now changed).value, revision⟩] :
              List Invalidation).filter (·.restaurantId == restaurantId) := by
      simp only [incr_eq, invalidatedUpTo, List.take_length, List.filter_append]
    rw [upTo]
    by_cases isChanged : restaurantId = changed
    · subst isChanged
      rw [counter?_incr_self, Option.some.injEq] at found
      subst found
      exact ⟨incremented_ne_zero, by simp⟩
    · rw [counter?_incr_other isChanged] at found
      simpa [Ne.symm isChanged] using accurate.counted restaurantId counter found
  · have shows := write.counter?_of_same same restaurantId
    rw [found, Option.map_some] at shows
    obtain ⟨before, isBefore, sameValue⟩ := Option.map_eq_some_iff.1 shows.symm
    have countedBefore := accurate.counted restaurantId before isBefore
    rw [sameValue] at countedBefore
    rw [invalidatedUpTo, same]
    exact countedBefore

theorem accurate (write : AvailabilityWrite data now data') (accurate : data.Accurate now) :
    data'.Accurate now := by
  constructor
  · exact fun restaurantId counter found => write.counted accurate found
  · intro invalidation isInvalidation
    rcases write.incr_or_same with ⟨changed, revision, made, isIncr⟩ | same
    · subst isIncr
      rcases List.mem_append.1 isInvalidation with before | added
      · exact accurate.revisions invalidation before
      · rw [List.mem_singleton.1 added]
        exact made
    · exact (accurate.revisions invalidation (same ▸ isInvalidation)).trans write.revision_le
  · intro entry isEntry
    rcases write.entry_of_mem isEntry with before | ⟨sound, -⟩
    · exact write.entrySound (accurate.entries entry before)
    · exact write.entrySound sound

end AvailabilityWrite

namespace AvailabilityData

variable {data : AvailabilityData} {now now' : Instant} {restaurantId : Id}
variable {version readAt : Nat}

theorem Shown.later (shown : data.Shown now restaurantId version readAt) (after : now ≤ now') :
    data.Shown now' restaurantId version readAt :=
  { shown with absent := fun isZero isNil => counter?_later after (shown.absent isZero isNil) }

theorem Accurate.later (accurate : data.Accurate now) (after : now ≤ now') :
    data.Accurate now' where
  counted restaurantId counter found :=
    accurate.counted restaurantId counter (counter?_earlier after found)
  revisions := accurate.revisions
  entries entry isEntry :=
    { (accurate.entries entry isEntry) with
      shown := (accurate.entries entry isEntry).shown.later after }

/-- What is read is shown when all the invalidations so far have been made. -/
theorem Accurate.shown_getVersion (accurate : data.Accurate now) (restaurantId : Id) :
    data.Shown now restaurantId (data.getVersion now restaurantId) data.invalidations.length := by
  have isNil : data.invalidatedSince restaurantId data.invalidations.length = [] := by
    rw [invalidatedSince, List.drop_length]
    rfl
  have creates : ∀ {invalidation : Invalidation} {rest : List Invalidation},
      data.invalidatedSince restaurantId data.invalidations.length = invalidation :: rest →
        invalidation.version = 1 := by
    intro invalidation rest isFirst
    cases isNil.symm.trans isFirst
  cases found : data.counter? now restaurantId with
  | none =>
    have isZero : data.getVersion now restaurantId = 0 := by
      rw [getVersion, found]
      rfl
    exact ⟨le_rfl, fun notZero => absurd isZero notZero, fun _ _ => found, fun _ _ _ => creates⟩
  | some counter =>
    obtain ⟨notZero, counted⟩ := accurate.counted restaurantId counter found
    have isValue : data.getVersion now restaurantId = counter.value := by
      rw [getVersion, found]
      rfl
    rw [isValue]
    exact ⟨le_rfl, fun _ => counted, fun isZero => absurd isZero notZero, fun _ _ _ => creates⟩

end AvailabilityData

/-- No number is shown while something from before is cached under it, and nothing is cached
under a number that was shown again since it was read. -/
structure KeepsNumbers (store store' : AvailabilityStore) : Prop where
  shown : ∀ entry ∈ store.data.entries, store.now < entry.expiresAt →
    entry.key.version = store.data.getVersion store.now entry.key.restaurantId →
      store.data.isOutdated store.now entry = false
  cached : ∀ entry ∈ store'.data.entries,
    entry ∈ store.data.entries ∨ store.data.isOutdated store.now entry = false

def availabilityRules : Discipline AvailabilityCallId AvailabilityStore where
  inv store := store.data.Accurate store.now
  guar _ store store' :=
    store'.now = store.now ∧ AvailabilityWrite store.data store.now store'.data
  tick := Ticks
  meets _ := KeepsNumbers

def AvailabilityData.IsInvalidated (data : AvailabilityData) (restaurantId : Id)
    (revision : Nat) : Prop :=
  ∃ invalidation ∈ data.invalidations,
    invalidation.restaurantId = restaurantId ∧ invalidation.revision = revision

/-- The version that is part of the key was read: what is cached under it, and has not run out,
comes after all the invalidations so far, also those that are known. -/
structure Reading (known : Nat → Prop) (key : AvailabilityKey) (readAt : Nat)
    (data : AvailabilityData) (now : Instant) : Prop where
  shown : data.Shown now key.restaurantId key.version readAt
  covered : ∀ entry ∈ data.entries, entry.key = key → now < entry.expiresAt →
    ∀ invalidation ∈ data.invalidatedUpTo key.restaurantId readAt,
      invalidation.revision ≤ entry.revision
  isKnown : ∀ revision, known revision →
    ∃ invalidation ∈ data.invalidatedUpTo key.restaurantId readAt, invalidation.revision = revision

structure Computing (key : AvailabilityKey) (readAt revision : Nat) (data : AvailabilityData)
    (now : Instant) : Prop where
  shown : data.Shown now key.restaurantId key.version readAt
  covers : ∀ invalidation ∈ data.invalidatedUpTo key.restaurantId readAt,
    invalidation.revision ≤ revision

section

variable {data data' : AvailabilityData} {now now' : Instant} {known : Nat → Prop}
variable {key : AvailabilityKey} {readAt revision : Nat} {restaurantId : Id}
variable {call : AvailabilityCallId}

theorem Reading.write (reading : Reading known key readAt data now)
    (write : AvailabilityWrite data now data') : Reading known key readAt data' now := by
  have sameUpTo := write.upTo_eq reading.shown.inList key.restaurantId
  constructor
  · exact write.shown reading.shown
  · intro entry isEntry isKey lives invalidation isIn
    rw [sameUpTo] at isIn
    rcases write.entry_of_mem isEntry with before | ⟨sound, notOutdated⟩
    · exact reading.covered entry before isKey lives invalidation isIn
    · subst isKey
      exact sound.covers invalidation
        (reading.shown.upTo_subset sound.shown notOutdated invalidation isIn)
  · rw [sameUpTo]
    exact reading.isKnown

theorem Reading.later (reading : Reading known key readAt data now) (after : now ≤ now') :
    Reading known key readAt data now' where
  shown := reading.shown.later after
  covered entry isEntry isKey lives := reading.covered entry isEntry isKey (after.trans_lt lives)
  isKnown := reading.isKnown

theorem Computing.write (computing : Computing key readAt revision data now)
    (write : AvailabilityWrite data now data') : Computing key readAt revision data' now where
  shown := write.shown computing.shown
  covers := by
    rw [write.upTo_eq computing.shown.inList]
    exact computing.covers

theorem AvailabilityData.IsInvalidated.write (isInvalidated : data.IsInvalidated restaurantId revision)
    (write : AvailabilityWrite data now data') : data'.IsInvalidated restaurantId revision := by
  obtain ⟨invalidation, isIn, ofRestaurant⟩ := isInvalidated
  exact ⟨invalidation, write.grown.subset isIn, ofRestaurant⟩

theorem stable_of_writes {holds : AvailabilityData → Instant → Prop}
    (writes : ∀ {data now data'}, AvailabilityWrite data now data' → holds data now →
      holds data' now)
    (clock : ∀ {data now now'}, now ≤ now' → holds data now → holds data now') :
    availabilityRules.Stable call fun store => holds store.data store.now := by
  rintro store store' ⟨-, -, ticks | ⟨other, -, sameNow, write⟩⟩ held
  · rw [ticks.2.1]
    exact clock ticks.1 held
  · rw [sameNow]
    exact writes write held

theorem stable_reading : availabilityRules.Stable call fun store =>
    Reading known key readAt store.data store.now :=
  stable_of_writes (fun write reading => reading.write write) fun after reading =>
    reading.later after

theorem stable_computing : availabilityRules.Stable call fun store =>
    Computing key readAt revision store.data store.now :=
  stable_of_writes (fun write computing => computing.write write) fun after computing =>
    ⟨computing.shown.later after, computing.covers⟩

theorem stable_isInvalidated : availabilityRules.Stable call fun store =>
    store.data.IsInvalidated restaurantId revision := by
  rintro store store' ⟨-, -, ticks | ⟨other, -, -, write⟩⟩ isInvalidated
  · rw [ticks.2.1]
    exact isInvalidated
  · exact isInvalidated.write write

theorem guar_same (store : AvailabilityStore) : availabilityRules.guar call store store :=
  ⟨rfl, .same⟩

variable {α : Type} {pre : AvailabilityStore → Prop} {post : α → AvailabilityStore → Prop}

theorem triple_query {view : AvailabilityData → Instant → α}
    (stable : availabilityRules.Stable call pre)
    (stablePost : ∀ value, availabilityRules.Stable call (post value))
    (holds : ∀ store : AvailabilityStore, store.data.Accurate store.now → pre store →
      KeepsNumbers store store → post (view store.data store.now) store) :
    availabilityRules.Triple call pre (query view) post :=
  Discipline.Triple.readWhen stable guar_same stablePost holds

theorem triple_commit {view : AvailabilityData → Instant → α}
    {change : AvailabilityData → Instant → AvailabilityData}
    (stable : availabilityRules.Stable call pre)
    (stablePost : ∀ value, availabilityRules.Stable call (post value))
    (writes : ∀ store store' : AvailabilityStore, store.data.Accurate store.now → pre store →
      store'.data = change store.data store.now → store'.now = store.now →
        KeepsNumbers store store' → AvailabilityWrite store.data store.now store'.data ∧
          post (view store.data store.now) store') :
    availabilityRules.Triple call pre (commit call view change) post := by
  apply Discipline.Triple.updateWhen stable stablePost
  · intro store accurate holds meets
    obtain ⟨write, -⟩ := writes store
      (Store.release call { store with data := change store.data store.now }) accurate holds rfl rfl
      meets
    exact ⟨write.accurate accurate, rfl, write⟩
  · intro store accurate holds meets
    exact (writes store (Store.release call { store with data := change store.data store.now })
      accurate holds rfl rfl meets).2

end

section

variable [Icu] {call : AvailabilityCallId} {known : Nat → Prop}

/-- The answer is not cached from before a change that is known to be invalidated. -/
def NotStale (known : Nat → Prop) (answer : AvailabilityAnswer) : Prop :=
  ∀ cached, answer.cached = some cached → ∀ revision, known revision → revision ≤ cached

namespace GetAvailabilityInput

variable (input : GetAvailabilityInput)

omit [Icu] in
theorem stable_public {fact : AvailabilityData → Instant → Prop}
    (stable : availabilityRules.Stable call fun store => fact store.data store.now) :
    availabilityRules.Stable call fun store =>
      input.privatePreview = false → fact store.data store.now :=
  fun store store' rely held isPublic => stable store store' rely (held isPublic)

theorem recompute_triple (now : Instant) (version readAt : Nat) : availabilityRules.Triple call
      (fun store => input.privatePreview = false →
        Reading (fun _ => False) (input.cacheKey version) readAt store.data store.now)
      (input.recompute call now version readAt) fun answer _ => answer.cached = none := by
  have stableReading : availabilityRules.Stable call fun store : AvailabilityStore =>
      input.privatePreview = false →
        Reading (fun _ => False) (input.cacheKey version) readAt store.data store.now :=
    input.stable_public stable_reading
  have ends : ∀ {pre : AvailabilityStore → Prop} (availability : MarkedAvailability),
      availabilityRules.Triple call pre
        (pure { availability, cached := none } : AvailabilityProg AvailabilityAnswer)
        fun answer _ => answer.cached = none :=
    fun availability => Discipline.Triple.pure (Discipline.stable_const _) fun _ _ _ => rfl
  have stableComputing : ∀ revision, availabilityRules.Stable call fun store : AvailabilityStore =>
      input.privatePreview = false →
        Computing (input.cacheKey version) readAt revision store.data store.now :=
    fun revision => input.stable_public stable_computing
  apply Discipline.Triple.bind
  · apply triple_query stableReading fun found => stableComputing found.2
    intro store accurate reading _ isPublic
    exact ⟨(reading isPublic).shown, fun invalidation isIn =>
      accurate.revisions invalidation (List.mem_of_mem_take (List.mem_of_mem_filter isIn))⟩
  rintro ⟨found, revision⟩
  cases found with
  | none => exact ends _
  | some restaurant =>
    obtain ⟨restaurant, capacitySpecials⟩ := restaurant
    dsimp only
    split
    · exact ends _
    have looks : ∀ {α : Type} (view : AvailabilityData → Instant → α), availabilityRules.Triple call
          (fun store => input.privatePreview = false →
            Computing (input.cacheKey version) readAt revision store.data store.now)
          (query view) fun _ store => input.privatePreview = false →
            Computing (input.cacheKey version) readAt revision store.data store.now :=
      fun view => triple_query (stableComputing revision) (fun _ => stableComputing revision)
        fun _ _ computing _ => computing
    apply Discipline.Triple.bind (looks _)
    intro tables
    apply Discipline.Triple.bind (looks _)
    intro items
    apply Discipline.Triple.bind (looks _)
    intro noTables
    have caches : availabilityRules.Triple call (fun store => input.privatePreview = false →
          Computing (input.cacheKey version) readAt revision store.data store.now)
        (commit call (fun _ _ => ()) fun data now =>
          if input.privatePreview then data
          else data.cache
            { key := input.cacheKey version
              value :=
                { timeZone := restaurant.timezone
                  dto := input.compute restaurant capacitySpecials tables items noTables }
              expiresAt := now + AVAILABILITY_CACHE_TTL_SECONDS * 1000
              readAt
              revision }) fun _ _ => True := by
      apply triple_commit (stableComputing revision) fun _ => Discipline.stable_const _
      intro store store' _ computing written _ meets
      refine ⟨?_, trivial⟩
      rw [written]
      split
      · exact .same
      next isPublic =>
        rw [if_neg isPublic] at written
        obtain ⟨shown, covers⟩ := computing (Bool.eq_false_of_not_eq_true isPublic)
        refine .cache _ ⟨shown, covers⟩ (meets.cached _ ?_)
        rw [written]
        exact List.mem_cons_self
    exact caches.bind fun _ => ends _

variable (known) in
theorem getAvailability_triple : availabilityRules.Triple call
      (fun store => ∀ revision, known revision →
        store.data.IsInvalidated input.restaurantId revision)
      (input.getAvailability call) fun answer _ => NotStale known answer := by
  have stableKnown : availabilityRules.Stable call fun store : AvailabilityStore =>
      ∀ revision, known revision → store.data.IsInvalidated input.restaurantId revision :=
    fun store store' rely held revision isKnown =>
      stable_isInvalidated store store' rely (held revision isKnown)
  have computed : ∀ {answer : AvailabilityAnswer}, answer.cached = none → NotStale known answer := by
    intro answer notCached cached isCached
    cases notCached.symm.trans isCached
  apply Discipline.Triple.bind
  · apply triple_query stableKnown fun _ => stableKnown
    exact fun _ _ held _ => held
  intro clock
  dsimp only
  split
  next isPrivate =>
    apply (input.recompute_triple (input.now.getD clock) 0 0).weaken
    · intro _ _ _ isPublic
      cases isPrivate.symm.trans isPublic
    · exact fun _ _ => computed
  apply Discipline.Triple.bind
  · have reads : ∀ value : Nat × Nat, availabilityRules.Stable call fun store : AvailabilityStore =>
        Reading known (input.cacheKey value.1) value.2 store.data store.now :=
      fun _ => stable_reading
    apply triple_query stableKnown reads
    intro store accurate held meets
    have shown := accurate.shown_getVersion input.restaurantId
    constructor
    · exact shown
    · intro entry isEntry isKey lives invalidation isIn
      have isVersion : entry.key.version =
          store.data.getVersion store.now entry.key.restaurantId := by
        rw [isKey]
        rfl
      have sound := accurate.entries entry isEntry
      have notOutdated := meets.shown entry isEntry lives isVersion
      rw [AvailabilityData.isOutdated, isKey] at notOutdated
      have isShown := sound.shown
      rw [isKey] at isShown
      apply sound.covers
      rw [isKey]
      exact shown.upTo_subset isShown notOutdated invalidation isIn
    · intro revision isKnown
      obtain ⟨invalidation, isIn, ofRestaurant, sameRevision⟩ := held revision isKnown
      refine ⟨invalidation, ?_, sameRevision⟩
      rw [AvailabilityData.invalidatedUpTo, List.take_length, List.mem_filter]
      exact ⟨isIn, beq_iff_eq.2 ofRestaurant⟩
  rintro ⟨version, readAt⟩
  have stableHit : ∀ hit : Option AvailabilityEntry, availabilityRules.Stable call
      fun store : AvailabilityStore =>
        (∀ entry, hit = some entry → ∀ revision, known revision → revision ≤ entry.revision) ∧
          Reading known (input.cacheKey version) readAt store.data store.now :=
    fun hit => (Discipline.stable_const _).and stable_reading
  apply Discipline.Triple.bind
  · apply triple_query stable_reading stableHit
    intro store _ reading _
    refine ⟨fun entry found revision isKnown => ?_, reading⟩
    obtain ⟨isEntry, lives⟩ := Option.filter_eq_some_iff.1 found
    obtain ⟨invalidation, isIn, sameRevision⟩ := reading.isKnown revision isKnown
    rw [← sameRevision]
    exact reading.covered entry (KeyedRows.mem_of_lookup isEntry)
      (KeyedRows.key_of_lookup isEntry) (of_decide_eq_true lives) invalidation isIn
  intro hit
  cases hit with
  | none =>
    apply (input.recompute_triple (input.now.getD clock) version readAt).weaken
    · intro store _ held _
      exact ⟨held.2.shown, held.2.covered, fun _ impossible => impossible.elim⟩
    · exact fun _ _ => computed
  | some entry =>
    apply Discipline.Triple.pure (Discipline.stable_const _)
    intro _ _ held cached isCached
    cases isCached
    exact held.1 entry rfl

end GetAvailabilityInput

omit [Icu] in
/-- A change is made, and then invalidated. -/
theorem AvailabilityMutation.mutate_triple (mutation : AvailabilityMutation) :
    availabilityRules.Triple call (fun _ => True) (mutation.mutate call)
      fun revision store => store.data.IsInvalidated mutation.restaurantId revision := by
  have stableMade : ∀ revision, availabilityRules.Stable call fun store : AvailabilityStore =>
      revision ≤ store.data.revision := by
    rintro revision store store' ⟨-, -, ticks | ⟨other, -, -, write⟩⟩ made
    · rw [ticks.2.1]
      exact made
    · exact made.trans write.revision_le
  have made : availabilityRules.Triple call (fun _ => True)
      (commit call (fun data _ => data.revision + 1) fun data now =>
        data.mutated now mutation.change)
      fun revision store => revision ≤ store.data.revision := by
    apply triple_commit (Discipline.stable_const _) stableMade
    intro store store' _ _ written _ _
    rw [written]
    exact ⟨.mutated mutation.change, le_rfl⟩
  apply made.bind
  intro revision
  have isInvalidated : availabilityRules.Triple call (fun store => revision ≤ store.data.revision)
      (commit call (fun _ _ => ()) fun data now =>
        data.incr now mutation.restaurantId revision)
      fun _ store => store.data.IsInvalidated mutation.restaurantId revision := by
    apply triple_commit (stableMade revision) fun _ => stable_isInvalidated
    intro store store' _ made written _ _
    rw [written]
    exact ⟨.incr mutation.restaurantId revision made,
      _, List.mem_append_right _ (List.mem_singleton_self _), rfl, rfl⟩
  have expires : availabilityRules.Triple call
      (fun store => store.data.IsInvalidated mutation.restaurantId revision)
      (commit call (fun _ _ => ()) fun data now => data.expire now mutation.restaurantId)
      fun _ store => store.data.IsInvalidated mutation.restaurantId revision := by
    apply triple_commit stable_isInvalidated fun _ => stable_isInvalidated
    intro store store' _ isInvalidated written _ _
    rw [written]
    exact ⟨.expire mutation.restaurantId, isInvalidated.write (.expire mutation.restaurantId)⟩
  have ends : availabilityRules.Triple call
      (fun store => store.data.IsInvalidated mutation.restaurantId revision)
      (pure revision : AvailabilityProg Nat)
      fun revision store => store.data.IsInvalidated mutation.restaurantId revision :=
    Discipline.Triple.pure stable_isInvalidated fun _ _ => id
  exact (isInvalidated.bind fun _ => expires).bind fun _ => ends

def AvailabilityCall.Done : AvailabilityCall → AvailabilityResult → AvailabilityStore → Prop
  | .mutate mutation, .mutated revision, store =>
    store.data.IsInvalidated mutation.restaurantId revision
  | _, _, _ => True

theorem AvailabilityCall.prog_triple (availability : AvailabilityCall) :
    availabilityRules.Triple call (fun _ => True) (availability.prog call)
      fun result store => availability.Done result store := by
  cases availability with
  | getAvailability input =>
    have answers : availabilityRules.Triple call (fun _ => True) (input.getAvailability call)
        fun answer _ => NotStale (fun _ => False) answer := by
      apply (input.getAvailability_triple fun _ => False).weaken
      · exact fun _ _ _ _ impossible => impossible.elim
      · exact fun _ _ => id
    apply answers.bind
    intro answer
    exact Discipline.Triple.pure (Discipline.stable_const _) fun _ _ _ => trivial
  | mutate mutation =>
    apply mutation.mutate_triple.bind
    intro revision
    exact Discipline.Triple.pure stable_isInvalidated fun _ _ => id

end

/-- Nothing is in Redis, and nothing was invalidated. -/
structure AvailabilityData.Cold (data : AvailabilityData) : Prop where
  counters : ∀ restaurantId, data.counters restaurantId = none
  entries : data.entries = []
  invalidations : data.invalidations = []

theorem AvailabilityData.Cold.accurate {data : AvailabilityData} (cold : data.Cold)
    (now : Instant) : data.Accurate now where
  counted restaurantId counter found := by
    rw [AvailabilityData.counter?, cold.counters] at found
    cases found
  revisions invalidation isIn := by
    rw [cold.invalidations] at isIn
    cases isIn
  entries entry isIn := by
    rw [cold.entries] at isIn
    cases isIn

section

variable [Icu] {calls : AvailabilityCallId → AvailabilityCall} {store : AvailabilityStore}
variable {moves more : List (Move AvailabilityCallId AvailabilityStore)}
variable {c c' : Config AvailabilityCallId AvailabilityStore AvailabilityResult}

theorem availability_governs : availabilityRules.Governs (availabilitySystem calls)
    fun call result store => (calls call).Done result store where
  code call store accurate := (calls call).prog_triple store accurate trivial
  crash _ _ accurate := ⟨accurate, rfl, .same⟩
  tick _ _ accurate ticks := by
    refine ⟨?_, ticks⟩
    change AvailabilityData.Accurate _ _
    rw [ticks.2.1]
    exact AvailabilityData.Accurate.later accurate ticks.1

/-- In a run in which no number is shown again while something is cached under it or on its way
there, a call that starts once a change is invalidated is not answered with what was computed
before the change. -/
theorem getAvailability_notStale (cold : store.data.Cold)
    (run : (availabilitySystem calls).Run (.initial store) moves c)
    (rest : (availabilitySystem calls).Run c more c')
    (keepsNumbers : ∀ move ∈ moves ++ more, KeepsNumbers move.before move.after)
    {changer reader : AvailabilityCallId} {mutation : AvailabilityMutation}
    {input : GetAvailabilityInput} (isMutation : calls changer = .mutate mutation)
    (isReader : calls reader = .getAvailability input)
    (sameRestaurant : input.restaurantId = mutation.restaurantId) {revision : Nat}
    (invalidated : c.procs changer = some (.done (.mutated revision)))
    (startsAfter : c.procs reader = none) {answer : AvailabilityAnswer}
    (answered : c'.procs reader = some (.done (.answered answer))) {cached : Nat}
    (isCached : answer.cached = some cached) : revision ≤ cached := by
  have meets := fun move isMove => keepsNumbers move (List.mem_append_left more isMove)
  have sound := (Discipline.sound_of_run availability_governs
    (Discipline.sound_initial (cold.accurate store.now)) run meets).1
  have isInvalidated := sound.finished invalidated
  rw [isMutation] at isInvalidated
  have lasting : availabilityRules.Lasting fun store =>
      store.data.IsInvalidated mutation.restaurantId revision := by
    constructor
    · exact fun _ _ guar held => AvailabilityData.IsInvalidated.write held guar.2
    · intro store store' ticks held
      rw [ticks.2.1]
      exact held
  have code : availabilityRules.Triple reader
      (fun store => store.data.IsInvalidated mutation.restaurantId revision)
      ((availabilitySystem calls).code reader)
      fun result _ => ∀ answer, result = .answered answer → NotStale (· = revision) answer := by
    change availabilityRules.Triple reader _ ((calls reader).prog reader) _
    rw [isReader]
    have answers : availabilityRules.Triple reader
        (fun store => store.data.IsInvalidated mutation.restaurantId revision)
        (input.getAvailability reader) fun answer _ => NotStale (· = revision) answer := by
      apply (input.getAvailability_triple (· = revision)).weaken
      · intro store _ held other isOther
        rw [isOther, sameRestaurant]
        exact held
      · exact fun _ _ => id
    apply answers.bind
    intro answer
    apply Discipline.Triple.pure (Discipline.stable_const _)
    intro _ _ notStale other isOther
    cases isOther
    exact notStale
  have meetsMore := fun move isMove => keepsNumbers move (List.mem_append_right moves isMove)
  exact sound.since availability_governs lasting isInvalidated startsAfter code rest meetsMore
    answered answer rfl cached isCached revision rfl

end

section

attribute [local instance] Icu.utc

instance (store store' : AvailabilityStore) : Decidable (KeepsNumbers store store') :=
  decidable_of_iff
    ((∀ entry ∈ store.data.entries, store.now < entry.expiresAt →
        entry.key.version = store.data.getVersion store.now entry.key.restaurantId →
          store.data.isOutdated store.now entry = false) ∧
      ∀ entry ∈ store'.data.entries,
        entry ∈ store.data.entries ∨ store.data.isOutdated store.now entry = false)
    ⟨fun both => ⟨both.1, both.2⟩, fun keeps => ⟨keeps.shown, keeps.cached⟩⟩

/-- The house with one table, and nothing in Redis. -/
def mondayStore : AvailabilityStore where
  data :=
    { db := mondayHouse
      counters := fun _ => none
      entries := []
      revision := 0
      invalidations := [] }
  now := 0
  owner _ := none

theorem mondayStore_cold : mondayStore.data.Cold := ⟨fun _ => rfl, rfl, rfl⟩

def mondayDinner : GetAvailabilityInput where
  restaurantId := "r"
  date := 4
  partySize := 2
  preferredSectionId := none
  now := none
  excludeReservationId := none
  defaultFloorOnly := false
  allowWithoutTables := false
  includePast := false
  minLeadTimeMinutes := 0
  inTransaction := false

/-- The group cancels, and later another change is made; the dinner is looked up by others. -/
def mondayCalls : AvailabilityCallId → AvailabilityCall
  | 0 => .mutate ⟨"r", fun db _ => { db with reservations := [] }⟩
  | 1 => .mutate ⟨"r", fun _ _ => mondayHouse⟩
  | _ => .getAvailability mondayDinner

def AvailabilityData.passes (store : AvailabilityStore) : AvailabilityStore :=
  { store with now := store.now + 24000 }

theorem ticks_passes (store : AvailabilityStore) : Ticks store (AvailabilityData.passes store) :=
  ⟨Int.le_add_of_nonneg_right (by decide), rfl, rfl⟩

/-- What was cached before the group cancelled is not looked at any more; what is cached after it
is. -/
theorem getAvailability_notStale_monday : ∃ moves more c c' answer,
    (availabilitySystem mondayCalls).Run (.initial mondayStore) moves c ∧
      (availabilitySystem mondayCalls).Run c more c' ∧
        c'.procs 3 = some (.done (.answered answer)) ∧
          answer.cached = some 1 ∧ ∀ cached, answer.cached = some cached → 1 ≤ cached := by
  have scheduled : ((availabilitySystem mondayCalls).schedule
      (List.replicate 9 2 ++ List.replicate 4 0 ++ List.replicate 9 4)
      (.initial mondayStore)).bind (fun first =>
        ((availabilitySystem mondayCalls).schedule [3, 3, 3, 3] first.2).map fun rest =>
          ((first.2.result? 0, (first.2.procs 3).isNone), (rest.2.result? 3).map fun
              | .answered answer => answer.cached
              | .mutated _ => none,
            (first.1 ++ rest.1).all fun move => decide (KeepsNumbers move.before move.after))) =
      some ((some (.mutated 1), true), some (some 1), true) := by
    decide +kernel
  obtain ⟨⟨moves, c⟩, ran, continued⟩ := Option.bind_eq_some_iff.1 scheduled
  obtain ⟨⟨more, c'⟩, ranMore, shown⟩ := Option.map_eq_some_iff.1 continued
  obtain ⟨before, after⟩ := Prod.mk.inj shown
  obtain ⟨invalidated, idle⟩ := Prod.mk.inj before
  obtain ⟨answered, keepsNumbers⟩ := Prod.mk.inj after
  obtain ⟨result, isResult, isAnswer⟩ := Option.map_eq_some_iff.1 answered
  cases result with
  | mutated _ => cases isAnswer
  | answered answer =>
    have run := System.run_schedule ran
    have rest := System.run_schedule ranMore
    have keeps : ∀ move ∈ moves ++ more, KeepsNumbers move.before move.after :=
      fun move isMove => of_decide_eq_true (List.all_eq_true.1 keepsNumbers move isMove)
    have startsAfter : c.procs 3 = none := Option.isNone_iff_eq_none.1 idle
    have atEnd := Config.procs_of_result? isResult
    have notStale : ∀ cached, answer.cached = some cached → 1 ≤ cached := fun cached isCached =>
      getAvailability_notStale mondayStore_cold run rest keeps rfl rfl rfl
        (Config.procs_of_result? invalidated) startsAfter atEnd isCached
    exact ⟨moves, more, c, c', answer, run, rest, atEnd, isAnswer, notStale⟩

/-- The counter of the first change runs out after two minutes, and the second one starts it
again at 1, under which the dinner was cached 24 seconds ago. -/
theorem getAvailability_stale : ¬ ∀ (calls : AvailabilityCallId → AvailabilityCall)
    (store : AvailabilityStore), store.data.Cold → ∀ moves c more c',
      (availabilitySystem calls).Run (.initial store) moves c →
        (availabilitySystem calls).Run c more c' →
          ∀ changer reader mutation input, calls changer = .mutate mutation →
            calls reader = .getAvailability input → input.restaurantId = mutation.restaurantId →
              ∀ revision, c.procs changer = some (.done (.mutated revision)) →
                c.procs reader = none → ∀ answer,
                  c'.procs reader = some (.done (.answered answer)) →
                    ∀ cached, answer.cached = some cached → revision ≤ cached := by
  intro claim
  have scheduled : ((availabilitySystem mondayCalls).schedules AvailabilityData.passes
      [List.replicate 4 0, [], [], [], List.replicate 9 2] (.initial mondayStore)).bind (fun first =>
        ((availabilitySystem mondayCalls).schedule (List.replicate 4 1) first.2).bind fun changed =>
          ((availabilitySystem mondayCalls).schedule [3, 3, 3, 3] changed.2).map fun rest =>
            ((changed.2.result? 1, (changed.2.procs 3).isNone), (rest.2.result? 3).map fun
              | .answered answer => answer.cached
              | .mutated _ => none)) = some ((some (.mutated 2), true), some (some 1)) := by
    decide +kernel
  obtain ⟨⟨moves, c⟩, ran, continued⟩ := Option.bind_eq_some_iff.1 scheduled
  obtain ⟨⟨changing, changed⟩, ranChange, answers⟩ := Option.bind_eq_some_iff.1 continued
  obtain ⟨⟨more, c'⟩, ranMore, shown⟩ := Option.map_eq_some_iff.1 answers
  obtain ⟨before, answered⟩ := Prod.mk.inj shown
  obtain ⟨invalidated, idle⟩ := Prod.mk.inj before
  obtain ⟨result, isResult, isAnswer⟩ := Option.map_eq_some_iff.1 answered
  cases result with
  | mutated _ => cases isAnswer
  | answered answer =>
    have run := (System.run_schedules ticks_passes ran).trans (System.run_schedule ranChange)
    have notStale := claim mondayCalls mondayStore mondayStore_cold _ _ _ _ run
      (System.run_schedule ranMore) 1 3 _ _ rfl rfl rfl 2 (Config.procs_of_result? invalidated)
      (Option.isNone_iff_eq_none.1 idle) answer (Config.procs_of_result? isResult) 1 isAnswer
    exact absurd notStale (by decide)

end

end Sokar
