import Sokar.WaitingList.Queue

/-!
# What the calls on the waiting list write

A commit inserts a pending entry at the end, closes pending or promoted entries, or promotes
one pending entry together with its reservation.  Every entry goes on the same way whatever
is written: it is pending, may be promoted once, and its end is final.
-/

namespace Sokar

open Process Transaction Transaction.Access

inductive WaitingCall where
  | join (args : JoinArgs)
  | cancelByToken (args : CancelByTokenArgs)
  | cancelByStaff (entryId restaurantId : Id)
  | promote (entryId newReservationId : Id)
  | expire (entryId : Id)
  | cleanup

inductive WaitingAnswer where
  | joined (entry : WaitingListEntry) (actionToken : String)
  | cancelled (entry : WaitingListEntry)
  | promoted (reservation : Option Reservation)
  | expired (count : Nat)
  deriving DecidableEq

variable (calls : WaitingCallId → WaitingCall)

section

variable [Icu] [Postgres] [ActionTokens]

def WaitingCall.prog (call : WaitingCallId) :
    WaitingCall → WaitingProg (Except WaitingFailure WaitingAnswer)
  | .join args =>
    (args.join call).andThen fun joined => pure (.ok (.joined joined.1 joined.2))
  | .cancelByToken args =>
    (Sokar.cancelByToken call args).andThen fun entry => pure (.ok (.cancelled entry))
  | .cancelByStaff entryId restaurantId =>
    (Sokar.cancelByStaff call entryId restaurantId).andThen fun entry =>
      pure (.ok (.cancelled entry))
  | .promote entryId newReservationId =>
    (promoteEntry call entryId newReservationId).andThen fun reservation =>
      pure (.ok (.promoted reservation))
  | .expire entryId => (expireEntry call entryId).andThen fun count => pure (.ok (.expired count))
  | .cleanup => (cleanupExpired call).andThen fun count => pure (.ok (.expired count))

def waitingSystem : System WaitingCallId WaitingStore (Except WaitingFailure WaitingAnswer) :=
  system fun call => (calls call).prog call

end

/-- How an entry goes on from one version of the data to a later one. -/
structure WaitingListEntry.GoesOn (entry entry' : WaitingListEntry) : Prop where
  status : entry'.status = entry.status ∨ entry.status = .PENDING ∨
    entry.status = .PROMOTED ∧ entry'.status = .CANCELLED
  link : entry.status ≠ .PENDING → entry'.promotedReservationId = entry.promotedReservationId

structure Closes (data : WaitingData) (selected : WaitingListEntry → Bool)
    (change : WaitingListEntry → WaitingListEntry) : Prop where
  id : ∀ entry, (change entry).id = entry.id
  goesOn : ∀ entry ∈ data.entries, selected entry = true → entry.GoesOn (change entry)
  closed : ∀ entry, (change entry).status = .CANCELLED ∨ (change entry).status = .EXPIRED

inductive WaitingStep (data : WaitingData) : WaitingData → Prop where
  | nothing : WaitingStep data data
  | join (entry : WaitingListEntry) : entry.status = .PENDING →
      WaitingStep data (data.insertEntry entry)
  | close {selected : WaitingListEntry → Bool} {change : WaitingListEntry → WaitingListEntry} :
      Closes data selected change →
      WaitingStep data { data with entries := KeyedRows.update selected change data.entries }
  | promote (entry : WaitingListEntry) (reservation : Reservation) (promotedAt now : Instant) :
      data.entryById? entry.id = some entry → entry.status = .PENDING →
      WaitingStep data ((Promotion.create entry reservation promotedAt).writes data now)

namespace WaitingListEntry

variable {entry entry' entry'' : WaitingListEntry}

theorem GoesOn.refl (entry : WaitingListEntry) : entry.GoesOn entry :=
  ⟨.inl rfl, fun _ => rfl⟩

theorem GoesOn.of_pending {entry : WaitingListEntry} (pending : entry.status = .PENDING)
    (entry' : WaitingListEntry) : entry.GoesOn entry' :=
  ⟨.inr (.inl pending), fun closed => absurd pending closed⟩

theorem GoesOn.not_pending (goesOn : entry.GoesOn entry') (closed : entry.status ≠ .PENDING) :
    entry'.status ≠ .PENDING := by
  rcases goesOn.status with same | pending | ⟨-, cancelled⟩
  · rw [same]
    exact closed
  · exact absurd pending closed
  · rw [cancelled]
    decide

theorem GoesOn.trans (first : entry.GoesOn entry') (second : entry'.GoesOn entry'') :
    entry.GoesOn entry'' := by
  constructor
  · rcases first.status with same | pending | ⟨promoted, cancelled⟩
    · rw [← same]
      exact second.status
    · exact .inr (.inl pending)
    · rcases second.status with same | pending | ⟨promoted', -⟩
      · exact .inr (.inr ⟨promoted, same.trans cancelled⟩)
      · rw [cancelled] at pending
        cases pending
      · rw [cancelled] at promoted'
        cases promoted'
  · intro closed
    exact (second.link (first.not_pending closed)).trans (first.link closed)

end WaitingListEntry

def EntriesGoOn (data data' : WaitingData) : Prop :=
  ∀ entryId entry, data.entryById? entryId = some entry →
    ∃ entry', data'.entryById? entryId = some entry' ∧ entry.GoesOn entry'

theorem EntriesGoOn.refl (data : WaitingData) : EntriesGoOn data data :=
  fun _ entry found => ⟨entry, found, .refl entry⟩

theorem EntriesGoOn.trans {data data' data'' : WaitingData} (first : EntriesGoOn data data')
    (second : EntriesGoOn data' data'') : EntriesGoOn data data'' := by
  intro entryId entry found
  obtain ⟨entry', found', goesOn⟩ := first entryId entry found
  obtain ⟨entry'', found'', goesOn'⟩ := second entryId entry' found'
  exact ⟨entry'', found'', goesOn.trans goesOn'⟩

variable (selected : WaitingListEntry → Bool)

namespace WaitingData

variable {data data' : WaitingData}

theorem entryById?_insertEntry {entryId : Id} {found : WaitingListEntry} (entry : WaitingListEntry)
    (isFound : data.entryById? entryId = some found) :
    (data.insertEntry entry).entryById? entryId = some found := by
  rw [entryById?] at isFound
  rw [entryById?, insertEntry, KeyedRows.lookup_append, isFound]
  rfl

theorem entryById?_update {entryId : Id} {found : WaitingListEntry}
    {change : WaitingListEntry → WaitingListEntry} (keeps : ∀ entry, (change entry).id = entry.id)
    (isFound : data.entryById? entryId = some found) :
    ({ data with entries := KeyedRows.update selected change data.entries } :
      WaitingData).entryById? entryId = some (if selected found then change found else found) :=
  (KeyedRows.lookup_update selected keeps).trans (congrArg _ isFound)

theorem entryById?_promote {entry found : WaitingListEntry} {entryId : Id} (reservation : Reservation)
    (promotedAt now : Instant) (isFound : data.entryById? entryId = some found) :
    ((Promotion.create entry reservation promotedAt).writes data now).entryById? entryId =
      some (if found.id == entry.id then found.promoted reservation.id promotedAt else found) := by
  have keeps : ∀ entry : WaitingListEntry,
      (entry.promoted reservation.id promotedAt).id = entry.id := fun _ => rfl
  exact entryById?_update _ keeps isFound

end WaitingData

theorem WaitingStep.goesOn {data data' : WaitingData} (step : WaitingStep data data') :
    EntriesGoOn data data' := by
  intro entryId found isFound
  cases step with
  | nothing => exact ⟨found, isFound, .refl found⟩
  | join entry pending =>
    exact ⟨found, WaitingData.entryById?_insertEntry entry isFound, .refl found⟩
  | @close selected change closes =>
    refine ⟨_, WaitingData.entryById?_update selected closes.id isFound, ?_⟩
    split
    next isSelected => exact closes.goesOn found (KeyedRows.mem_of_lookup isFound) isSelected
    next => exact .refl found
  | promote entry reservation promotedAt now isEntry pending =>
    refine ⟨_, WaitingData.entryById?_promote reservation promotedAt now isFound, ?_⟩
    split
    next same =>
      have sameId : entryId = entry.id :=
        (KeyedRows.key_of_lookup isFound).symm.trans (beq_iff_eq.1 same)
      cases isEntry.symm.trans (sameId ▸ isFound)
      exact .of_pending pending _
    next => exact .refl found

namespace WaitingData

variable {data : WaitingData} {restaurantId : Id} {slotStart : Instant}

theorem queue_close {selected : WaitingListEntry → Bool}
    {change : WaitingListEntry → WaitingListEntry}
    (closed : ∀ entry, (change entry).status ≠ .PENDING) :
    ({ data with entries := KeyedRows.update selected change data.entries } :
      WaitingData).queue restaurantId slotStart =
        (data.queue restaurantId slotStart).filter fun entry => !selected entry := by
  simp only [queue, KeyedRows.update]
  induction data.entries with
  | nil => rfl
  | cons entry rest ih =>
    simp only [List.map_cons, List.filter_cons, ih]
    by_cases isSelected : selected entry = true
    · have gone : (change entry).pendingFor restaurantId slotStart = false := by
        simp [WaitingListEntry.pendingFor, closed entry]
      by_cases waits : entry.pendingFor restaurantId slotStart = true
      · simp [isSelected, gone, waits]
      · simp [isSelected, gone, waits]
    · by_cases waits : entry.pendingFor restaurantId slotStart = true
      · simp [isSelected, waits]
      · simp [isSelected, waits]

theorem queue_insertEntry (entry : WaitingListEntry) :
    (data.insertEntry entry).queue restaurantId slotStart = data.queue restaurantId slotStart ++
        if entry.pendingFor restaurantId slotStart then [entry] else [] := by
  by_cases waits : entry.pendingFor restaurantId slotStart = true
  · simp [queue, insertEntry, waits]
  · simp [queue, insertEntry, waits]

theorem pendingCount_of_sublist {data' : WaitingData}
    (sub : (data'.queue restaurantId slotStart).Sublist (data.queue restaurantId slotStart))
    (now : Instant) :
    data'.pendingCount restaurantId slotStart now ≤ data.pendingCount restaurantId slotStart now :=
  (sub.filter _).length_le

/-- Time only takes entries away. -/
theorem pendingCount_anti {now later : Instant} (advanced : now ≤ later) :
    data.pendingCount restaurantId slotStart later ≤ data.pendingCount restaurantId slotStart now := by
  apply List.Sublist.length_le
  apply List.monotone_filter_right
  intro entry waits
  rw [decide_eq_true_eq] at waits ⊢
  exact advanced.trans_lt waits

end WaitingData

theorem WaitingStep.queue_sublist {data data' : WaitingData} {restaurantId : Id}
    {slotStart : Instant} (step : WaitingStep data data')
    (elsewhere : ∀ entry, data' = data.insertEntry entry →
      entry.pendingFor restaurantId slotStart = false) :
    (data'.queue restaurantId slotStart).Sublist (data.queue restaurantId slotStart) := by
  cases step with
  | nothing => exact .refl _
  | join entry pending =>
    rw [WaitingData.queue_insertEntry, elsewhere entry rfl]
    simp
  | @close selected change closes =>
    have closed : ∀ entry, (change entry).status ≠ .PENDING := by
      intro entry
      rcases closes.closed entry with status | status <;> rw [status] <;> decide
    rw [WaitingData.queue_close closed]
    exact List.filter_sublist
  | promote entry reservation promotedAt now isEntry pending =>
    have closed : ∀ entry : WaitingListEntry,
        (entry.promoted reservation.id promotedAt).status ≠ .PENDING := by
      intro entry
      simp [WaitingListEntry.promoted]
    have queue : ((Promotion.create entry reservation promotedAt).writes data now).queue
        restaurantId slotStart =
          (data.queue restaurantId slotStart).filter fun other => !(other.id == entry.id) :=
      WaitingData.queue_close closed
    rw [queue]
    exact List.filter_sublist

namespace WaitingData

/-- A locked entry stays as it is, and nobody joins a locked slot. -/
def Same (data data' : WaitingData) : WaitingLock → Prop
  | .booking _ => True
  | .entry entryId => ∀ entry, data.entryById? entryId = some entry → data'.entryById? entryId = some entry
  | .slot restaurantId slotStart => ∀ now,
      data'.pendingCount restaurantId slotStart now ≤ data.pendingCount restaurantId slotStart now

/-- The positions of the queue increase in the order of arrival. -/
def InOrder (restaurantId : Id) (slotStart : Instant) (data : WaitingData) : Prop :=
  (data.queue restaurantId slotStart).Pairwise fun earlier later =>
    earlier.position < later.position

end WaitingData

def waitingParts : Parts WaitingData WaitingLock where
  same lock data data' := data.Same data' lock
  evolves _ _ := True
  same_refl lock data := by
    cases lock with
    | booking lock => trivial
    | entry entryId => exact fun _ found => found
    | slot restaurantId slotStart => exact fun now => Nat.le_refl _
  evolves_refl _ := trivial
  same_trans {lock _ _ _} first second := by
    cases lock with
    | booking lock => trivial
    | entry entryId => exact fun entry found => second entry (first entry found)
    | slot restaurantId slotStart => exact fun now => Nat.le_trans (second now) (first now)
  evolves_trans _ _ := trivial

/-- A join to the slot finds that no entry of its queue has a position beyond the number of
entries that still wait. -/
def JoinsAtTail (restaurantId : Id) (slotStart : Instant) (call : WaitingCallId) (now : Instant)
    (data data' : WaitingData) : Prop :=
  ∀ args, calls call = .join args → args.restaurantId = restaurantId →
    args.slotStart = slotStart → data' ≠ data →
    ∀ entry ∈ data.queue restaurantId slotStart,
      entry.position ≤ data.pendingCount restaurantId slotStart now

/-- Sessions that keep the queues watched in order, as long as joins are at the tail. -/
def waitingAccess (watched : Set (Id × Instant)) :
    Access WaitingData WaitingLock WaitingCallId where
  inv data _ := data.violation? = none ∧ ∀ slot ∈ watched, data.InOrder slot.1 slot.2
  meets call _ now data data' := ∀ slot ∈ watched, JoinsAtTail calls slot.1 slot.2 call now data data'
  writes owned data data' := waitingParts.Writes owned data data' ∧ WaitingStep data data'
  inv_later _ inv := inv
  writes_refl owned data := ⟨.refl owned data, .nothing⟩
  writes_mono sub writes := ⟨writes.1.mono sub, writes.2⟩

section

variable {owned : Set WaitingLock} {data : WaitingData}

theorem WaitingWrites.close {selected : WaitingListEntry → Bool}
    {change : WaitingListEntry → WaitingListEntry} (closes : Closes data selected change)
    (locked : ∀ entry, selected entry = true → .entry entry.id ∈ owned) :
    waitingParts.Writes owned data
      { data with entries := KeyedRows.update selected change data.entries } where
  evolves := trivial
  same lock outside := by
    cases lock with
    | booking lock => trivial
    | entry entryId =>
      intro entry found
      have unselected : ¬ selected entry = true := fun isSelected =>
        outside (KeyedRows.key_of_lookup found ▸ locked entry isSelected)
      exact (WaitingData.entryById?_update selected closes.id found).trans (by rw [if_neg unselected])
    | slot restaurantId slotStart =>
      apply WaitingData.pendingCount_of_sublist
      have closed : ∀ entry, (change entry).status ≠ .PENDING := by
        intro entry
        rcases closes.closed entry with status | status <;> rw [status] <;> decide
      rw [WaitingData.queue_close closed]
      exact List.filter_sublist

theorem WaitingWrites.promote {entry : WaitingListEntry} (reservation : Reservation)
    (promotedAt now : Instant) (locked : .entry entry.id ∈ owned) :
    waitingParts.Writes owned data
      ((Promotion.create entry reservation promotedAt).writes data now) where
  evolves := trivial
  same lock outside := by
    cases lock with
    | booking lock => trivial
    | entry entryId =>
      intro found isFound
      have other : (found.id == entry.id) = false :=
        beq_false_of_ne fun same => outside (KeyedRows.key_of_lookup isFound ▸ same ▸ locked)
      rw [WaitingData.entryById?_promote reservation promotedAt now isFound, other]
      rfl
    | slot restaurantId slotStart =>
      apply WaitingData.pendingCount_of_sublist
      have closed : ∀ entry : WaitingListEntry,
          (entry.promoted reservation.id promotedAt).status ≠ .PENDING := by
        intro entry
        simp [WaitingListEntry.promoted]
      have queue : ((Promotion.create entry reservation promotedAt).writes data now).queue
          restaurantId slotStart =
            (data.queue restaurantId slotStart).filter fun other => !(other.id == entry.id) :=
        WaitingData.queue_close closed
      rw [queue]
      exact List.filter_sublist

theorem WaitingWrites.join {entry : WaitingListEntry}
    (locked : .slot entry.restaurantId entry.slotStart ∈ owned) :
    waitingParts.Writes owned data (data.insertEntry entry) where
  evolves := trivial
  same lock outside := by
    cases lock with
    | booking lock => trivial
    | entry entryId => exact fun found isFound => WaitingData.entryById?_insertEntry entry isFound
    | slot restaurantId slotStart =>
      have elsewhere : entry.pendingFor restaurantId slotStart = false := by
        rw [← Bool.not_eq_true]
        intro waits
        simp only [WaitingListEntry.pendingFor, WaitingListEntry.inSlot, Bool.and_eq_true,
          beq_iff_eq] at waits
        exact outside (waits.1.1 ▸ waits.1.2 ▸ locked)
      apply WaitingData.pendingCount_of_sublist
      rw [WaitingData.queue_insertEntry, elsewhere]
      simp

end

section

variable {calls : WaitingCallId → WaitingCall} {watched : Set (Id × Instant)}
variable {call : WaitingCallId} {owned : Set WaitingLock}

theorem protects_foundEntry {entryId : Id} (locked : .entry entryId ∈ owned)
    (entry : WaitingListEntry) :
    (waitingAccess calls watched).Protects owned fun data _ => data.entryById? entryId = some entry where
  writes _ _ writes found :=
    writes.1.same (.entry entryId) (fun outside => outside locked) entry found
  clock _ found := found

theorem protects_pendingCount {restaurantId : Id} {slotStart : Instant}
    (locked : .slot restaurantId slotStart ∈ owned) (since : Instant) (count : Nat) :
    (waitingAccess calls watched).Protects owned fun data _ =>
      data.pendingCount restaurantId slotStart since ≤ count where
  writes _ _ writes counted :=
    (writes.1.same (.slot restaurantId slotStart) (fun outside => outside locked) since).trans counted
  clock _ counted := counted

/-- What is true of an entry that no longer waits stays true. -/
theorem protects_link (entryId reservationId : Id) :
    (waitingAccess calls watched).Protects owned fun data _ =>
      ∃ entry, data.entryById? entryId = some entry ∧ entry.status ≠ .PENDING ∧
        entry.promotedReservationId = some reservationId where
  writes _ _ writes linked := by
    obtain ⟨entry, found, closed, isLink⟩ := linked
    obtain ⟨entry', found', goesOn⟩ := writes.2.goesOn entryId entry found
    exact ⟨entry', found', goesOn.not_pending closed, (goesOn.link closed).trans isLink⟩
  clock _ linked := linked

omit calls call owned in
/-- A commit that inserts no entry keeps the watched queues in order. -/
theorem inOrder_of_step {data data' : WaitingData} (step : WaitingStep data data')
    (inOrder : ∀ slot ∈ watched, data.InOrder slot.1 slot.2)
    (sameLength : data'.entries.length = data.entries.length) :
    ∀ slot ∈ watched, data'.InOrder slot.1 slot.2 := by
  intro slot isWatched
  refine List.Pairwise.sublist (step.queue_sublist ?_) (inOrder slot isWatched)
  intro entry isJoin
  simp [isJoin, WaitingData.insertEntry] at sameLength

theorem expireEntriesWhere_runs :
    (waitingAccess calls watched).Serves call (expireEntriesWhere call selected) := by
  apply Runs.glance (protects_const True)
  intro now
  apply Runs.glance (protects_const True)
  intro found
  apply Runs.bind (Runs.acquireAll (protects_const True))
  intro _
  apply Runs.commitUnless (protects_const True) fun _ => protects_const True
  intro data later inv _ accepted _
  have closes : Closes data (fun entry => found.contains entry.id && entry.overdue now)
      WaitingListEntry.expired := by
    constructor
    · exact fun _ => rfl
    · intro entry _ isSelected
      simp only [WaitingListEntry.overdue, Bool.and_eq_true, beq_iff_eq] at isSelected
      exact .of_pending isSelected.2.1 _
    · exact fun _ => .inr rfl
  have locked : ∀ entry : WaitingListEntry, (found.contains entry.id && entry.overdue now) = true →
        WaitingLock.entry entry.id ∈ (∅ ∪ { lock | lock ∈ found.map WaitingLock.entry } :
          Set WaitingLock) := by
    intro entry isSelected
    rw [Bool.and_eq_true, List.contains_iff_mem] at isSelected
    exact .inr (List.mem_map.2 ⟨entry.id, isSelected.1, rfl⟩)
  refine ⟨⟨accepted, ?_⟩, ⟨WaitingWrites.close closes locked, .close closes⟩, trivial⟩
  exact inOrder_of_step (.close closes) inv.2 (List.length_map _)

namespace Cancellation

def locks : Cancellation → Set WaitingLock
  | .closed _ => ∅
  | .cancel entry => { .entry entry.id }

def Planned : Cancellation → WaitingData → Instant → Prop
  | .closed _, _, _ => True
  | .cancel entry, data, _ =>
    (entry.status = .PENDING ∨ entry.status = .PROMOTED) ∧ data.entryById? entry.id = some entry

theorem protects_planned (plan : Cancellation) :
    (waitingAccess calls watched).Protects plan.locks plan.Planned := by
  cases plan with
  | closed entry => exact protects_const True
  | cancel entry => exact (protects_const _).and (protects_foundEntry (Set.mem_singleton _) entry)

/-- The primary key finds the only entry with an identifier. -/
theorem eq_of_id {data : WaitingData} (valid : data.violation? = none)
    {entry other : WaitingListEntry} (found : data.entryById? entry.id = some entry)
    (isEntry : other ∈ data.entries) (same : other.id = entry.id) : other = entry := by
  have unique : (data.entries.map (·.id)).Nodup := by
    unfold WaitingData.violation? at valid
    split at valid
    next => cases valid
    next =>
      split at valid
      next keys =>
        simp only [WaitingData.entryKeysUnique, Bool.and_eq_true, decide_eq_true_eq] at keys
        exact keys.1.1.1
      next => cases valid
  have isFound := KeyedRows.lookup_of_mem unique isEntry
  rw [same] at isFound
  exact Option.some.inj (isFound.symm.trans found)

end Cancellation

theorem cancelEntry_runs (entryId : Id)
    {decide : Option WaitingListEntry → Except WaitingFailure Cancellation}
    (opens : ∀ found entry, decide found = .ok (.cancel entry) →
      found = some entry ∧ (entry.status = .PENDING ∨ entry.status = .PROMOTED)) :
    (waitingAccess calls watched).Serves call (cancelEntry call entryId decide) := by
  have decides : (waitingAccess calls watched).Decides call ∅ (fun _ _ => True)
      (decideOnEntry call entryId decide) Cancellation.locks Cancellation.Planned := by
    apply Decides.acquire (protects_const True)
    have locked : WaitingLock.entry entryId ∈ (insert (.entry entryId) ∅ : Set WaitingLock) :=
      Set.mem_insert _ _
    have known : ∀ found : Option WaitingListEntry, (waitingAccess calls watched).Protects
        (insert (.entry entryId) ∅) fun data _ => ∀ entry, found = some entry →
          entry.id = entryId ∧ data.entryById? entryId = some entry :=
      fun found => Protects.all fun entry => Protects.all fun _ =>
        (protects_const _).and (protects_foundEntry locked entry)
    apply Decides.query (protects_const True) known
    · exact fun data now _ _ entry found => ⟨KeyedRows.key_of_lookup found, found⟩
    intro found
    cases decided : decide found with
    | error failure => exact Decides.error failure
    | ok plan =>
      cases plan with
      | closed entry =>
        exact Decides.ok (Set.empty_subset _) (Cancellation.protects_planned (.closed entry))
          fun _ _ _ _ => trivial
      | cancel entry =>
        obtain ⟨isFound, isOpen⟩ := opens found entry decided
        apply Decides.assuming fun data now _ holds => (holds.2 entry isFound).1
        intro sameId
        refine Decides.ok ?_ (Cancellation.protects_planned (.cancel entry)) ?_
        · intro lock isLock
          exact .inl (isLock.trans (congrArg _ sameId))
        · exact fun data now _ holds => ⟨isOpen, sameId.symm ▸ (holds.2 entry isFound).2⟩
  apply Runs.transact decides Cancellation.protects_planned fun _ => protects_const True
  intro plan data now inv planned accepted _
  cases plan with
  | closed entry => exact ⟨inv, ⟨.refl _ data, .nothing⟩, trivial⟩
  | cancel entry =>
    obtain ⟨isOpen, found⟩ := planned
    have closes : Closes data (fun other => other.id == entry.id) (·.cancelled now) := by
      constructor
      · exact fun _ => rfl
      · intro other isEntry selected
        rw [Cancellation.eq_of_id inv.1 found isEntry (beq_iff_eq.1 selected)]
        rcases isOpen with pending | promoted
        · exact .of_pending pending _
        · exact ⟨.inr (.inr ⟨promoted, rfl⟩), fun _ => rfl⟩
      · exact fun _ => .inl rfl
    have locked : ∀ other : WaitingListEntry, (other.id == entry.id) = true →
        WaitingLock.entry other.id ∈ (Cancellation.cancel entry).locks :=
      fun other selected => congrArg WaitingLock.entry (beq_iff_eq.1 selected)
    refine ⟨⟨accepted, ?_⟩, ⟨WaitingWrites.close closes locked, .close closes⟩, trivial⟩
    exact inOrder_of_step (.close closes) inv.2 (List.length_map _)

theorem cancelByToken_runs [ActionTokens] (args : CancelByTokenArgs) :
    (waitingAccess calls watched).Serves call (cancelByToken call args) := by
  apply cancelEntry_runs
  intro found entry decided
  cases found with
  | none => cases decided
  | some row =>
    simp only [CancelByTokenArgs.decide] at decided
    split at decided
    next => cases decided
    next =>
      split at decided <;> cases decided
      next pending => exact ⟨rfl, .inl pending⟩

theorem cancelByStaff_runs (entryId restaurantId : Id) :
    (waitingAccess calls watched).Serves call (cancelByStaff call entryId restaurantId) := by
  apply cancelEntry_runs
  intro found entry decided
  cases found with
  | none => cases decided
  | some row =>
    simp only [decideByStaff] at decided
    split at decided
    next => cases decided
    next =>
      split at decided <;> cases decided
      next promoted => exact ⟨rfl, .inr promoted⟩
      next pending => exact ⟨rfl, .inl pending⟩

namespace Promotion

def locks : Promotion → Set WaitingLock
  | .create entry _ _ => { .entry entry.id }
  | _ => ∅

def Planned (entryId : Id) : Promotion → WaitingData → Instant → Prop
  | .nothing, _, _ => True
  | .replay reservation, data, _ =>
    ∃ entry, data.entryById? entryId = some entry ∧ entry.status ≠ .PENDING ∧
      entry.promotedReservationId = some reservation.id
  | .create entry _ _, data, _ =>
    (entry.id = entryId ∧ entry.status = .PENDING) ∧ data.entryById? entry.id = some entry

def Linked (entryId : Id) (result : Option Reservation) (data : WaitingData) (_ : Instant) : Prop :=
  ∀ reservation, result = some reservation →
    ∃ entry, data.entryById? entryId = some entry ∧ entry.status ≠ .PENDING ∧
      entry.promotedReservationId = some reservation.id

variable {entryId : Id}

theorem protects_planned (plan : Promotion) :
    (waitingAccess calls watched).Protects plan.locks (plan.Planned entryId) := by
  cases plan with
  | nothing => exact protects_const True
  | replay reservation => exact protects_link entryId reservation.id
  | create entry reservation promotedAt =>
    exact (protects_const _).and (protects_foundEntry (Set.mem_singleton _) entry)

theorem protects_linked (result : Option Reservation) :
    (waitingAccess calls watched).Protects owned (Linked entryId result) :=
  Protects.all fun reservation => Protects.all fun _ => protects_link entryId reservation.id

end Promotion

section

variable [Icu] [Postgres]

theorem allocate_quiet (transactionStart : Instant) (input : AllocateTableInput) :
    Quiet call (allocate call transactionStart input) := by
  have conflict : Quiet call (hasGlobalCapacityConflict input none) :=
    .bind (.bind (.query _) fun _ => .bind (.query _) fun _ => .bind (.query _) fun _ =>
      .bind (.query _) fun _ => .pure _) fun _ => .pure _
  have candidates : ∀ tables, Quiet call (tryCandidates call transactionStart input tables) := by
    intro tables
    induction tables with
    | nil => exact .pure none
    | cons table rest ih =>
      apply Quiet.bind (.tryAcquire _)
      intro locked
      split
      · exact ih
      apply Quiet.bind (.bind (.query _) fun _ => .bind (.query _) fun _ => .pure _)
      intro available
      split
      · exact .pure _
      · exact ih
  apply Quiet.bind (.acquire _)
  intro _
  apply Quiet.bind conflict
  intro conflict
  split
  · exact .pure _
  · exact .bind (.query _) fun tables => candidates tables

theorem planPromotionOf_decides {entryId newReservationId : Id} {transactionStart : Instant}
    {entry : WaitingListEntry} (locked : .entry entryId ∈ owned) (isEntry : entry.id = entryId) :
    (waitingAccess calls watched).Decides call owned (fun data _ => data.entryById? entryId = some entry)
      (planPromotionOf call newReservationId transactionStart entry) Promotion.locks
      (Promotion.Planned entryId) := by
  have found : (waitingAccess calls watched).Protects owned fun data _ =>
      data.entryById? entryId = some entry :=
    protects_foundEntry locked entry
  apply Decides.glance found
  intro now
  split
  · exact Decides.ok (Set.empty_subset _) (Promotion.protects_planned .nothing) fun _ _ _ _ => trivial
  next waits =>
    rw [not_or, not_not] at waits
    apply Decides.bind ((Portion.quiet_within (allocate_quiet _ _)).runs found)
    intro table
    cases table with
    | none =>
      exact Decides.ok (Set.empty_subset _) (Promotion.protects_planned .nothing)
        fun _ _ _ _ => trivial
    | some table =>
      apply Decides.glance found
      intro reservedAt
      apply Decides.glance found
      intro promotedAt
      refine Decides.ok ?_ (Promotion.protects_planned (.create entry _ promotedAt)) ?_
      · intro lock isLock
        rw [Promotion.locks, Set.mem_singleton_iff, isEntry] at isLock
        exact isLock ▸ locked
      · exact fun data now _ found => ⟨⟨isEntry, waits.1⟩, isEntry.symm ▸ found⟩

theorem planPromotion_decides (entryId newReservationId : Id) :
    (waitingAccess calls watched).Decides call ∅ (fun _ _ => True)
      (planPromotion call entryId newReservationId) Promotion.locks
      (Promotion.Planned entryId) := by
  apply Decides.glance (protects_const True)
  intro transactionStart
  apply Decides.acquire (protects_const True)
  have locked : WaitingLock.entry entryId ∈ (insert (.entry entryId) ∅ : Set WaitingLock) :=
    Set.mem_insert _ _
  have known : ∀ found : Option WaitingListEntry, (waitingAccess calls watched).Protects
      (insert (.entry entryId) ∅) fun data _ => ∀ entry, found = some entry →
        entry.id = entryId ∧ data.entryById? entryId = some entry :=
    fun found => Protects.all fun entry => Protects.all fun _ =>
      (protects_const _).and (protects_foundEntry locked entry)
  apply Decides.query (protects_const True) known
  · exact fun data now _ _ entry found => ⟨KeyedRows.key_of_lookup found, found⟩
  intro found
  cases found with
  | none =>
    exact Decides.ok (Set.empty_subset _) (Promotion.protects_planned .nothing)
      fun _ _ _ _ => trivial
  | some entry =>
    dsimp only
    apply Decides.assuming fun data now _ holds => (holds.2 entry rfl).1
    intro isEntry
    have rowOf : ∀ data now, (waitingAccess calls watched).inv data now →
        (True ∧ ∀ row, some entry = some row →
          row.id = entryId ∧ data.entryById? entryId = some row) →
        data.entryById? entryId = some entry :=
      fun data now _ holds => (holds.2 entry rfl).2
    split
    next reservationId linked =>
      split at linked
      next promoted =>
        have isLink : entry.promotedReservationId = some reservationId :=
          (Option.filter_eq_some_iff.1 linked).1
        apply Decides.knowing subset_rfl rowOf
        have kept : ∀ existing : Option Reservation, (waitingAccess calls watched).Protects
            (insert (.entry entryId) ∅) fun _ _ =>
              ∀ row, existing = some row → row.id = reservationId :=
          fun existing => protects_const _
        apply Decides.query (protects_foundEntry locked entry) kept
        · intro data now _ _ row found
          exact beq_iff_eq.1 (List.find?_some found :)
        intro existing
        cases existing with
        | none =>
          exact Decides.ok (Set.empty_subset _) (Promotion.protects_planned .nothing)
            fun _ _ _ _ => trivial
        | some row =>
          refine Decides.ok (Set.empty_subset _) (Promotion.protects_planned (.replay row)) ?_
          intro data now _ holds
          refine ⟨entry, holds.1, ?_, ?_⟩
          · rw [promoted]
            decide
          · rw [isLink, holds.2 row rfl]
      next => cases linked
    next => exact (planPromotionOf_decides locked isEntry).knowing subset_rfl rowOf

theorem promoteEntry_runs (entryId newReservationId : Id) :
    (waitingAccess calls watched).Runs call ∅ (fun _ _ => True)
      (promoteEntry call entryId newReservationId) ∅ (OnOk (Promotion.Linked entryId)) := by
  apply Runs.transact (planPromotion_decides entryId newReservationId) Promotion.protects_planned
    Promotion.protects_linked
  intro plan data now inv planned accepted _
  cases plan with
  | nothing => exact ⟨inv, ⟨.refl _ data, .nothing⟩, fun _ impossible => nomatch impossible⟩
  | replay reservation =>
    refine ⟨inv, ⟨.refl _ data, .nothing⟩, fun row isRow => ?_⟩
    cases isRow
    exact planned
  | create entry reservation promotedAt =>
    obtain ⟨⟨isEntry, pending⟩, found⟩ := planned
    have step : WaitingStep data ((Promotion.create entry reservation promotedAt).writes data now) :=
      .promote entry reservation promotedAt now found pending
    refine ⟨⟨accepted, ?_⟩, ⟨WaitingWrites.promote _ _ _ (Set.mem_singleton _), step⟩, ?_⟩
    · exact inOrder_of_step step inv.2 (List.length_map _)
    · intro row isRow
      cases isRow
      refine ⟨_, WaitingData.entryById?_promote reservation promotedAt now (isEntry ▸ found), ?_⟩
      simp [WaitingListEntry.promoted]

end

theorem join_runs [ActionTokens] {args : JoinArgs} (isCall : calls call = .join args) :
    (waitingAccess calls watched).Serves call (args.join call) := by
  unfold JoinArgs.join
  split
  · exact ends_pure _
  apply Runs.acquire (protects_const True)
  have locked : WaitingLock.slot args.restaurantId args.slotStart ∈
      (insert (.slot args.restaurantId args.slotStart) ∅ : Set WaitingLock) :=
    Set.mem_insert _ _
  have since : ∀ instant : Instant, (waitingAccess calls watched).Protects
      (insert (.slot args.restaurantId args.slotStart) ∅) fun _ now => instant ≤ now := by
    intro instant
    constructor
    · exact fun _ _ _ passed => passed
    · exact fun advanced passed => passed.trans advanced
  apply Runs.query (protects_const True) since
  · exact fun data now _ _ => le_rfl
  intro instant
  have counted : ∀ count, (waitingAccess calls watched).Protects
      (insert (.slot args.restaurantId args.slotStart) ∅) fun data _ =>
        data.pendingCount args.restaurantId args.slotStart instant ≤ count :=
    protects_pendingCount locked instant
  apply Runs.query ((protects_const True).and (since instant)) counted
  · exact fun data now _ _ => le_rfl
  intro pendingCount
  split
  · exact Runs.rollback (((protects_const True).and (since instant)).and (counted pendingCount))
      (fun _ => protects_ends _) fun _ _ _ _ => trivial
  have creates : (waitingAccess calls watched).Runs call
      (insert (.slot args.restaurantId args.slotStart) ∅)
      (fun data now => (True ∧ instant ≤ now) ∧
        data.pendingCount args.restaurantId args.slotStart instant ≤ pendingCount)
      (commitUnless call WaitingData.violation?
        (fun _ _ => (args.entry pendingCount, args.actionToken))
        fun data _ => data.insertEntry (args.entry pendingCount)) ∅ Ends := by
    apply Runs.commitUnless (((protects_const True).and (since instant)).and (counted pendingCount))
      fun _ => protects_const True
    intro data now inv known accepted meets
    obtain ⟨_, atTail⟩ := meets
    refine ⟨⟨accepted, ?_⟩, ⟨WaitingWrites.join locked, .join _ rfl⟩, trivial⟩
    intro slot isWatched
    have changed : data.insertEntry (args.entry pendingCount) ≠ data := by
      intro same
      have sameLength := congrArg (fun data => data.entries.length) same
      simp [WaitingData.insertEntry] at sameLength
    rw [WaitingData.InOrder, WaitingData.queue_insertEntry]
    split
    next waits =>
      simp only [WaitingListEntry.pendingFor, WaitingListEntry.inSlot, Bool.and_eq_true,
        beq_iff_eq] at waits
      rw [List.pairwise_append]
      refine ⟨inv.2 slot isWatched, List.pairwise_singleton _ _, fun entry isEntry last isLast => ?_⟩
      cases List.mem_singleton.1 isLast
      have behind : entry.position ≤ pendingCount := by
        have waiting : data.pendingCount args.restaurantId args.slotStart now ≤ pendingCount :=
          (WaitingData.pendingCount_anti known.1.2).trans known.2
        have atMost := atTail slot isWatched args isCall waits.1.1 waits.1.2 changed entry isEntry
        rw [← waits.1.1, ← waits.1.2] at atMost
        exact atMost.trans waiting
      exact Nat.lt_succ_of_le behind
    next =>
      rw [List.append_nil]
      exact inv.2 slot isWatched
  apply Runs.bind creates
  intro created
  exact ends_pure _

/-- A promotion that returned a reservation has linked it to its entry. -/
def WaitingOutcome : WaitingCall → WaitingAnswer → WaitingData → Instant → Prop
  | .promote entryId _, .promoted result, data, now => Promotion.Linked entryId result data now
  | _, _, _, _ => True

variable [Icu] [Postgres] [ActionTokens] (calls) (watched)

theorem WaitingCall.prog_runs (call : WaitingCallId) :
    (waitingAccess calls watched).Runs call ∅ (fun _ _ => True) ((calls call).prog call) ∅
      (OnOk (WaitingOutcome (calls call))) := by
  cases isCall : calls call with
  | join args =>
    apply Runs.andThen (join_runs isCall) subset_rfl
    exact fun _ => Runs.pure (protects_const True) fun _ _ _ _ => trivial
  | cancelByToken args =>
    apply Runs.andThen (cancelByToken_runs args) subset_rfl
    exact fun _ => Runs.pure (protects_const True) fun _ _ _ _ => trivial
  | cancelByStaff entryId restaurantId =>
    apply Runs.andThen (cancelByStaff_runs entryId restaurantId) subset_rfl
    exact fun _ => Runs.pure (protects_const True) fun _ _ _ _ => trivial
  | promote entryId newReservationId =>
    apply Runs.andThen (promoteEntry_runs entryId newReservationId) subset_rfl
    exact fun result => Runs.pure (Promotion.protects_linked result) fun _ _ _ linked => linked
  | expire entryId =>
    apply Runs.andThen (expireEntriesWhere_runs _) subset_rfl
    exact fun _ => Runs.pure (protects_const True) fun _ _ _ _ => trivial
  | cleanup =>
    apply Runs.andThen (expireEntriesWhere_runs _) subset_rfl
    exact fun _ => Runs.pure (protects_const True) fun _ _ _ _ => trivial

end

end Sokar
