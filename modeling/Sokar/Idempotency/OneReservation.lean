import Sokar.Idempotency.KeyStore

/-!
# One key, one reservation

Whatever callers use a key, in any interleaving of their steps and with crashes at
any point, at most one reservation is created under it, and as long as the key has
not expired the callers agree on its payload and on its reservation.
-/

namespace Sokar

open Process

variable (call : CreationCall)

variable (scopeKey : ScopeKey)

namespace KeyStore

/-- No record ever inserted under the key has expired. -/
def Unexpired (store : KeyStore) : Prop :=
  ∀ answer ∈ store.answers, answer.record.scopeKey = scopeKey →
    store.now < answer.record.expiresAt

/-- Time passes, and answers and reservations are only added. -/
structure Advances (store store' : KeyStore) : Prop where
  now : store.now ≤ store'.now
  answers : store.answers ⊆ store'.answers
  reservations : store.reservations ⊆ store'.reservations

def HasReservation (reservationId : Id) (store : KeyStore) : Prop :=
  ∃ row ∈ store.reservations, row.scopeKey = scopeKey ∧ row.id = reservationId

def ReservedFor (payloadHash : String) (store : KeyStore) : Prop :=
  ∃ answer ∈ store.answers, answer.record.scopeKey = scopeKey ∧
    (store.Unexpired scopeKey → answer.record.payloadHash = payloadHash)

structure Sound (scopeKey : ScopeKey) (store : KeyStore) : Prop where
  single : ∀ row ∈ store.reservations, ∀ other ∈ store.reservations,
    row.scopeKey = scopeKey → other.scopeKey = scopeKey → row = other
  opened : ((∃ record ∈ store.records, record.scopeKey = scopeKey) ∨
      ∃ row ∈ store.reservations, row.scopeKey = scopeKey) →
    ∃ answer ∈ store.answers, answer.record.scopeKey = scopeKey
  once : store.Unexpired scopeKey →
    (store.answers.filter fun answer => answer.record.scopeKey = scopeKey).length ≤ 1
  kept : store.Unexpired scopeKey → ∀ answer ∈ store.answers,
    answer.record.scopeKey = scopeKey → ∃ record ∈ store.records, record.scopeKey = scopeKey
  stored : store.Unexpired scopeKey → ∀ answer ∈ store.answers,
    answer.record.scopeKey = scopeKey → ∀ record ∈ store.records, record.scopeKey = scopeKey →
      record.payloadHash = answer.record.payloadHash ∧
        record.expiresAt = answer.record.expiresAt
  created : ∀ row ∈ store.reservations, row.scopeKey = scopeKey →
    store.ReservedFor scopeKey row.payloadHash
  recorded : ∀ record ∈ store.records, record.scopeKey = scopeKey →
    ∀ reservationId, record.reservationId = some reservationId →
      store.HasReservation scopeKey reservationId
  cached : ∀ entry ∈ store.cache, entry.scopeKey = scopeKey →
    ∃ row ∈ store.reservations, row.scopeKey = scopeKey ∧ row.id = entry.reservationId ∧
      row.payloadHash = entry.payloadHash

variable {scopeKey : ScopeKey} {store store' : KeyStore}

theorem Advances.refl (store : KeyStore) : store.Advances store :=
  ⟨le_rfl, List.Subset.refl _, List.Subset.refl _⟩

theorem Unexpired.before (unexpired : store'.Unexpired scopeKey) (advances : store.Advances store') :
    store.Unexpired scopeKey :=
  fun answer isAnswer sameKey =>
    advances.now.trans_lt (unexpired answer (advances.answers isAnswer) sameKey)

theorem HasReservation.later {reservationId : Id}
    (has : store.HasReservation scopeKey reservationId) (advances : store.Advances store') :
    store'.HasReservation scopeKey reservationId := by
  obtain ⟨row, isRow, sameKey, sameId⟩ := has
  exact ⟨row, advances.reservations isRow, sameKey, sameId⟩

theorem ReservedFor.later {payloadHash : String} (reserved : store.ReservedFor scopeKey payloadHash)
    (advances : store.Advances store') : store'.ReservedFor scopeKey payloadHash := by
  obtain ⟨answer, isAnswer, sameKey, samePayload⟩ := reserved
  exact ⟨answer, advances.answers isAnswer, sameKey,
    fun unexpired => samePayload (unexpired.before advances)⟩

section

variable (sound : store.Sound scopeKey) (unexpired : store.Unexpired scopeKey)
include sound unexpired

theorem Sound.answer_unique {answer other : Answer} (isAnswer : answer ∈ store.answers)
    (isOther : other ∈ store.answers) (answerKey : answer.record.scopeKey = scopeKey)
    (otherKey : other.record.scopeKey = scopeKey) :
    answer = other := by
  have both : ∀ candidate ∈ store.answers, candidate.record.scopeKey = scopeKey →
      candidate ∈ store.answers.filter fun answer => answer.record.scopeKey = scopeKey :=
    fun candidate isCandidate sameKey => List.mem_filter.2 ⟨isCandidate, decide_eq_true sameKey⟩
  have isFirst := both answer isAnswer answerKey
  have isSecond := both other isOther otherKey
  have atMostOne := sound.once unexpired
  cases answers : store.answers.filter fun answer => answer.record.scopeKey = scopeKey with
  | nil =>
    rw [answers] at isFirst
    cases isFirst
  | cons first rest =>
    have alone : rest = [] := by simpa [answers] using atMostOne
    rw [answers, alone, List.mem_singleton] at isFirst isSecond
    exact isFirst.trans isSecond.symm

theorem Sound.payload_of_reservedFor {payloadHash : String}
    (reserved : store.ReservedFor scopeKey payloadHash) {answer : Answer}
    (isAnswer : answer ∈ store.answers) (sameKey : answer.record.scopeKey = scopeKey) :
    answer.record.payloadHash = payloadHash := by
  obtain ⟨first, isFirst, firstKey, samePayload⟩ := reserved
  rw [sound.answer_unique unexpired isAnswer isFirst sameKey firstKey]
  exact samePayload unexpired

end

variable {record : IdempotencyRecord}

theorem mem_of_record? (found : store.record? scopeKey = some record) :
    record ∈ store.records ∧ record.scopeKey = scopeKey := by
  have sameKey := List.find?_some found
  rw [beq_iff_eq] at sameKey
  exact ⟨List.mem_of_find?_eq_some found, sameKey⟩

theorem record?_isNone : (store.record? scopeKey).isNone = true ↔
    ∀ record ∈ store.records, record.scopeKey ≠ scopeKey := by
  rw [Option.isNone_iff_eq_none, record?, List.find?_eq_none]
  simp

/-- What a tick does not touch stays sound. -/
theorem Ticks.advances (ticks : store.Ticks store') : store.Advances store' where
  now := ticks.now
  answers := ticks.answers ▸ List.Subset.refl _
  reservations := ticks.reservations ▸ List.Subset.refl _

/-- A step that changes the clock, the cache or the state of records only. -/
theorem Sound.of_records (sound : store.Sound scopeKey) (advances : store.Advances store')
    (answers : store'.answers = store.answers)
    (reservations : store'.reservations = store.reservations)
    (records : ∀ record' ∈ store'.records, record'.scopeKey = scopeKey →
      ∃ record ∈ store.records, record.scopeKey = scopeKey ∧
        record'.payloadHash = record.payloadHash ∧ record'.expiresAt = record.expiresAt ∧
        ∀ reservationId, record'.reservationId = some reservationId →
          store.HasReservation scopeKey reservationId)
    (kept : store'.Unexpired scopeKey → (∃ record ∈ store.records, record.scopeKey = scopeKey) →
      ∃ record ∈ store'.records, record.scopeKey = scopeKey)
    (cached : ∀ entry ∈ store'.cache, entry.scopeKey = scopeKey → entry ∈ store.cache ∨
      ∃ row ∈ store.reservations, row.scopeKey = scopeKey ∧ row.id = entry.reservationId ∧
        row.payloadHash = entry.payloadHash) :
    store'.Sound scopeKey where
  single := reservations ▸ sound.single
  opened some_ := by
    rw [answers]
    apply sound.opened
    rcases some_ with ⟨record', isRecord', sameKey⟩ | row
    · obtain ⟨record, isRecord, sameKey', -⟩ := records record' isRecord' sameKey
      exact .inl ⟨record, isRecord, sameKey'⟩
    · exact .inr (reservations ▸ row)
  once unexpired := answers ▸ sound.once (unexpired.before advances)
  kept unexpired answer isAnswer sameKey :=
    kept unexpired (sound.kept (unexpired.before advances) answer (answers ▸ isAnswer) sameKey)
  stored unexpired answer isAnswer answerKey record' isRecord' recordKey := by
    obtain ⟨record, isRecord, sameKey, samePayload, sameExpiry, -⟩ :=
      records record' isRecord' recordKey
    rw [samePayload, sameExpiry]
    exact sound.stored (unexpired.before advances) answer (answers ▸ isAnswer) answerKey record
      isRecord sameKey
  created row isRow sameKey := (sound.created row (reservations ▸ isRow) sameKey).later advances
  recorded record' isRecord' sameKey reservationId isReservation := by
    obtain ⟨_, -, -, -, -, has⟩ := records record' isRecord' sameKey
    exact (has reservationId isReservation).later advances
  cached entry isEntry sameKey := by
    rw [reservations]
    rcases cached entry isEntry sameKey with known | row
    · exact sound.cached entry known sameKey
    · exact row

theorem Sound.tick (sound : store.Sound scopeKey) (ticks : store.Ticks store') :
    store'.Sound scopeKey := by
  apply sound.of_records ticks.advances ticks.answers ticks.reservations
  · intro record isRecord sameKey
    rw [ticks.records] at isRecord
    exact ⟨record, isRecord, sameKey, rfl, rfl, sound.recorded record isRecord sameKey⟩
  · exact fun _ some_ => ticks.records ▸ some_
  · exact fun entry isEntry _ => .inl (ticks.cache isEntry)

theorem Sound.updateRecord (sound : store.Sound scopeKey) (updated : ScopeKey)
    (update : IdempotencyRecord → IdempotencyRecord)
    (same : ∀ record, (update record).scopeKey = record.scopeKey ∧
      (update record).payloadHash = record.payloadHash ∧
        (update record).expiresAt = record.expiresAt)
    (filled : updated = scopeKey → ∀ record ∈ store.records, record.scopeKey = scopeKey →
      ∀ reservationId, (update record).reservationId = some reservationId →
        store.HasReservation scopeKey reservationId) :
    (store.updateRecord updated update).Sound scopeKey := by
  refine sound.of_records ⟨le_rfl, List.Subset.refl _, List.Subset.refl _⟩ rfl rfl ?_ ?_ ?_
  · intro record' isRecord' sameKey
    obtain ⟨record, isRecord, rfl⟩ := List.mem_map.1 isRecord'
    split at sameKey
    next chosen =>
      rw [(same record).1] at sameKey
      rw [if_pos chosen]
      exact ⟨record, isRecord, sameKey, (same record).2.1, (same record).2.2,
        filled (chosen.symm.trans sameKey) record isRecord sameKey⟩
    next unchosen =>
      rw [if_neg unchosen]
      exact ⟨record, isRecord, sameKey, rfl, rfl, sound.recorded record isRecord sameKey⟩
  · rintro _ ⟨record, isRecord, sameKey⟩
    refine ⟨_, List.mem_map_of_mem isRecord, ?_⟩
    split
    · exact (same record).1.trans sameKey
    · exact sameKey
  · exact fun entry isEntry _ => .inl isEntry

theorem Sound.deleteExpired (sound : store.Sound scopeKey) {now : Instant}
    (begun : now ≤ store.now) : (store.deleteExpired now).Sound scopeKey := by
  refine sound.of_records ⟨le_rfl, List.Subset.refl _, List.Subset.refl _⟩ rfl rfl ?_ ?_ ?_
  · intro record isRecord sameKey
    have known := (List.mem_filter.1 isRecord).1
    exact ⟨record, known, sameKey, rfl, rfl, sound.recorded record known sameKey⟩
  · -- a record of an unexpired key is not overdue
    rintro unexpired ⟨record, isRecord, sameKey⟩
    obtain ⟨answer, isAnswer, answerKey⟩ := sound.opened (.inl ⟨record, isRecord, sameKey⟩)
    refine ⟨record, List.mem_filter.2 ⟨isRecord, ?_⟩, sameKey⟩
    have sameExpiry := (sound.stored unexpired answer isAnswer answerKey record isRecord sameKey).2
    have live := unexpired answer isAnswer answerKey
    rw [sameExpiry, decide_eq_false (begun.trans_lt live).asymm]
    rfl
  · exact fun entry isEntry _ => .inl isEntry

theorem Sound.putCache (sound : store.Sound scopeKey) {added : CachedAnswer}
    (answered : added.scopeKey = scopeKey → ∃ row ∈ store.reservations,
      row.scopeKey = scopeKey ∧ row.id = added.reservationId ∧
        row.payloadHash = added.payloadHash) :
    (store.putCache added).Sound scopeKey := by
  unfold KeyStore.putCache
  split
  · refine sound.of_records ⟨le_rfl, List.Subset.refl _, List.Subset.refl _⟩ rfl rfl ?_ ?_ ?_
    · exact fun record isRecord sameKey =>
        ⟨record, isRecord, sameKey, rfl, rfl, sound.recorded record isRecord sameKey⟩
    · exact fun _ some_ => some_
    · intro entry isEntry sameKey
      rcases List.mem_cons.1 isEntry with rfl | known
      · exact .inr (answered sameKey)
      · exact .inl (List.mem_filter.1 known).1
  · exact sound

theorem Sound.insertFailed (sound : store.Sound scopeKey) (empty : record.reservationId = none)
    (vacant : ∀ other ∈ store.records, other.scopeKey ≠ record.scopeKey)
    (answered : record.scopeKey = scopeKey →
      ∃ answer ∈ store.answers, answer.record.scopeKey = scopeKey) :
    { store with records := store.records ++ [record] }.Sound scopeKey := by
  have gone : record.scopeKey = scopeKey → ¬ store.Unexpired scopeKey := by
    intro isKey unexpired
    obtain ⟨answer, isAnswer, answerKey⟩ := answered isKey
    obtain ⟨other, isOther, otherKey⟩ := sound.kept unexpired answer isAnswer answerKey
    exact vacant other isOther (otherKey.trans isKey.symm)
  exact
    { sound with
      opened := by
        rintro (⟨other, isOther, otherKey⟩ | row)
        · rcases List.mem_append.1 isOther with known | added
          · exact sound.opened (.inl ⟨other, known, otherKey⟩)
          · cases List.mem_singleton.1 added
            exact answered otherKey
        · exact sound.opened (.inr row)
      kept := by
        intro unexpired answer isAnswer answerKey
        obtain ⟨other, isOther, otherKey⟩ := sound.kept unexpired answer isAnswer answerKey
        exact ⟨other, List.mem_append_left _ isOther, otherKey⟩
      stored := by
        intro unexpired answer isAnswer answerKey other isOther otherKey
        rcases List.mem_append.1 isOther with known | added
        · exact sound.stored unexpired answer isAnswer answerKey other known otherKey
        · cases List.mem_singleton.1 added
          exact absurd unexpired (gone otherKey)
      recorded := by
        intro other isOther otherKey reservationId isReservation
        rcases List.mem_append.1 isOther with known | added
        · exact sound.recorded other known otherKey reservationId isReservation
        · cases List.mem_singleton.1 added
          rw [empty] at isReservation
          cases isReservation }

theorem insertRecord_advances (store : KeyStore) (caller : CallerId)
    (record : IdempotencyRecord) : store.Advances (store.insertRecord caller record) := by
  unfold insertRecord
  split
  · exact ⟨le_rfl, List.subset_append_left _ _, List.Subset.refl _⟩
  · exact .refl store

theorem Sound.insertRecord (sound : store.Sound scopeKey) (caller : CallerId)
    (empty : record.reservationId = none) :
    (store.insertRecord caller record).Sound scopeKey := by
  have advances := insertRecord_advances store caller record
  unfold KeyStore.insertRecord at advances ⊢
  split
  next isVacant =>
    rw [if_pos isVacant] at advances
    have vacant := record?_isNone.1 isVacant
    -- an earlier answer for the key means that it has expired
    have unanswered : record.scopeKey = scopeKey → store.Unexpired scopeKey →
        ∀ answer ∈ store.answers, answer.record.scopeKey ≠ scopeKey := by
      intro isKey unexpired answer isAnswer sameKey
      obtain ⟨other, isOther, otherKey⟩ := sound.kept unexpired answer isAnswer sameKey
      exact vacant other isOther (otherKey.trans isKey.symm)
    exact
      { single := sound.single
        opened := by
          rintro (⟨other, isOther, otherKey⟩ | row)
          · rcases List.mem_append.1 isOther with known | added
            · obtain ⟨answer, isAnswer, sameKey⟩ := sound.opened (.inl ⟨other, known, otherKey⟩)
              exact ⟨answer, List.mem_append_left _ isAnswer, sameKey⟩
            · cases List.mem_singleton.1 added
              exact ⟨_, List.mem_append_right _ List.mem_cons_self, otherKey⟩
          · obtain ⟨answer, isAnswer, sameKey⟩ := sound.opened (.inr row)
            exact ⟨answer, List.mem_append_left _ isAnswer, sameKey⟩
        once := by
          intro unexpired
          rw [List.filter_append, List.length_append]
          by_cases isKey : record.scopeKey = scopeKey
          · have none_ : store.answers.filter (fun answer => answer.record.scopeKey = scopeKey) = [] := by
              rw [List.filter_eq_nil_iff]
              intro answer isAnswer sameKey
              exact unanswered isKey (unexpired.before advances) answer isAnswer
                (of_decide_eq_true sameKey)
            rw [none_]
            simp [isKey]
          · have kept := sound.once (unexpired.before advances)
            simpa [isKey] using kept
        kept := by
          intro unexpired answer isAnswer answerKey
          rcases List.mem_append.1 isAnswer with known | added
          · obtain ⟨other, isOther, otherKey⟩ :=
              sound.kept (unexpired.before advances) answer known answerKey
            exact ⟨other, List.mem_append_left _ isOther, otherKey⟩
          · cases List.mem_singleton.1 added
            exact ⟨record, List.mem_append_right _ List.mem_cons_self, answerKey⟩
        stored := by
          intro unexpired answer isAnswer answerKey other isOther otherKey
          have before := unexpired.before advances
          rcases List.mem_append.1 isAnswer with known | added
          · rcases List.mem_append.1 isOther with knownOther | addedOther
            · exact sound.stored before answer known answerKey other knownOther otherKey
            · cases List.mem_singleton.1 addedOther
              exact absurd answerKey (unanswered otherKey before answer known)
          · cases List.mem_singleton.1 added
            rcases List.mem_append.1 isOther with knownOther | addedOther
            · exact absurd (otherKey.trans answerKey.symm) (vacant other knownOther)
            · cases List.mem_singleton.1 addedOther
              exact ⟨rfl, rfl⟩
        created := fun row isRow sameKey => (sound.created row isRow sameKey).later advances
        recorded := by
          intro other isOther otherKey reservationId isReservation
          rcases List.mem_append.1 isOther with known | added
          · exact sound.recorded other known otherKey reservationId isReservation
          · cases List.mem_singleton.1 added
            rw [empty] at isReservation
            cases isReservation
        cached := sound.cached }
  next => exact sound

theorem insertRow_advances (store : KeyStore) : store.Advances (call.insertRow store) := by
  unfold CreationCall.insertRow
  split
  · exact ⟨le_rfl, List.Subset.refl _, List.subset_append_left _ _⟩
  · exact .refl store

theorem Sound.insertRow (sound : store.Sound scopeKey) (call : CreationCall)
    (reserved : call.scopeKey = scopeKey → store.ReservedFor scopeKey call.payloadHash) :
    (call.insertRow store).Sound scopeKey := by
  have advances := insertRow_advances call store
  unfold CreationCall.insertRow at advances ⊢
  split
  next insertable =>
    rw [if_pos insertable] at advances
    simp only [CreationCall.insertable, Bool.and_eq_true, List.all_eq_true, bne_iff_ne] at insertable
    have newKey : ∀ other ∈ store.reservations, other.scopeKey ≠ call.scopeKey :=
      fun other isOther => (insertable.2 other isOther).2
    exact
      { single := by
          intro row isRow other isOther rowKey otherKey
          rcases List.mem_append.1 isRow with known | added
          · rcases List.mem_append.1 isOther with knownOther | addedOther
            · exact sound.single row known other knownOther rowKey otherKey
            · cases List.mem_singleton.1 addedOther
              exact absurd (rowKey.trans otherKey.symm) (newKey row known)
          · cases List.mem_singleton.1 added
            rcases List.mem_append.1 isOther with knownOther | addedOther
            · exact absurd (otherKey.trans rowKey.symm) (newKey other knownOther)
            · cases List.mem_singleton.1 addedOther
              rfl
        opened := by
          rintro (record | ⟨row, isRow, rowKey⟩)
          · exact sound.opened (.inl record)
          · rcases List.mem_append.1 isRow with known | added
            · exact sound.opened (.inr ⟨row, known, rowKey⟩)
            · cases List.mem_singleton.1 added
              obtain ⟨answer, isAnswer, answerKey, -⟩ := reserved rowKey
              exact ⟨answer, isAnswer, answerKey⟩
        once := sound.once
        kept := sound.kept
        stored := sound.stored
        created := by
          intro row isRow rowKey
          rcases List.mem_append.1 isRow with known | added
          · exact (sound.created row known rowKey).later advances
          · cases List.mem_singleton.1 added
            exact (reserved rowKey).later advances
        recorded := fun record isRecord sameKey reservationId isReservation =>
          (sound.recorded record isRecord sameKey reservationId isReservation).later advances
        cached := by
          intro entry isEntry sameKey
          obtain ⟨row, isRow, same⟩ := sound.cached entry isEntry sameKey
          exact ⟨row, List.mem_append_left _ isRow, same⟩ }
  next => exact sound

end KeyStore

open KeyStore Discipline

/-- Every caller keeps the key sound and only adds answers and reservations. -/
def keyRules : Discipline CallerId KeyStore where
  inv := Sound scopeKey
  guar _ := Advances
  tick := Advances

section

variable {scopeKey : ScopeKey} {caller : CallerId} {α β : Type} {fact : KeyStore → Prop}

/-- What stays true as the store advances, as long as it is sound. -/
def Lasting (scopeKey : ScopeKey) (fact : KeyStore → Prop) : Prop :=
  ∀ store store', store.Sound scopeKey → store'.Sound scopeKey → store.Advances store' →
    fact store → fact store'

theorem Lasting.stable (lasting : Lasting scopeKey fact) :
    (keyRules scopeKey).Stable caller fact := by
  rintro store store' ⟨sound, sound', moved⟩ holds
  rcases moved with ticked | ⟨_, _, acted⟩
  · exact lasting store store' sound sound' ticked holds
  · exact lasting store store' sound sound' acted holds

theorem Lasting.and {other : KeyStore → Prop} (left : Lasting scopeKey fact)
    (right : Lasting scopeKey other) : Lasting scopeKey fun store => fact store ∧ other store :=
  fun store store' sound sound' advances both =>
    ⟨left store store' sound sound' advances both.1, right store store' sound sound' advances both.2⟩

theorem lasting_const (constant : Prop) : Lasting scopeKey fun _ => constant :=
  fun _ _ _ _ _ holds => holds

theorem lasting_begun (now : Instant) : Lasting scopeKey fun store => now ≤ store.now :=
  fun _ _ _ _ advances begun => begun.trans advances.now

/-- The caller's key was reserved for its payload. -/
def Reserved (scopeKey : ScopeKey) (call : CreationCall) (store : KeyStore) : Prop :=
  call.scopeKey = scopeKey → store.ReservedFor scopeKey call.payloadHash

def Answered (scopeKey : ScopeKey) (call : CreationCall) (reservationId : Id)
    (store : KeyStore) : Prop :=
  call.scopeKey = scopeKey → store.HasReservation scopeKey reservationId ∧
    store.ReservedFor scopeKey call.payloadHash

theorem lasting_reserved : Lasting scopeKey (Reserved scopeKey call) :=
  fun _ _ _ _ advances reserved isKey => (reserved isKey).later advances

theorem lasting_answered (reservationId : Id) :
    Lasting scopeKey (Answered scopeKey call reservationId) :=
  fun _ _ _ _ advances answered isKey =>
    ⟨(answered isKey).1.later advances, (answered isKey).2.later advances⟩

variable {view : KeyStore → α}

theorem read_runs {result : α → KeyStore → Prop} (lasting : Lasting scopeKey fact)
    (lastingResult : ∀ value, Lasting scopeKey (result value))
    (holds : ∀ store, store.Sound scopeKey → fact store → result (view store) store) :
    (keyRules scopeKey).Triple caller fact (Prog.read view) result :=
  Triple.read lasting.stable (fun store => .refl store) (fun value => (lastingResult value).stable)
    holds

theorem update_runs {change : KeyStore → KeyStore} {result : α → KeyStore → Prop}
    (lasting : Lasting scopeKey fact) (lastingResult : ∀ value, Lasting scopeKey (result value))
    (keeps : ∀ store, store.Sound scopeKey → fact store →
      (change store).Sound scopeKey ∧ store.Advances (change store))
    (holds : ∀ store, store.Sound scopeKey → fact store → result (view store) (change store)) :
    (keyRules scopeKey).Triple caller fact (Prog.update view change) result :=
  Triple.update lasting.stable (fun value => (lastingResult value).stable) keeps holds

theorem pure_lasts {result : α → KeyStore → Prop} {value : α}
    (lasting : Lasting scopeKey (result value)) (holds : ∀ store, fact store → result value store) :
    (keyRules scopeKey).Triple caller fact (pure value) result :=
  Triple.pure lasting.stable fun store _ known => holds store known

theorem glance_runs (lasting : Lasting scopeKey fact) :
    (keyRules scopeKey).Triple caller fact (Prog.read view) fun _ => fact :=
  read_runs lasting (fun _ => lasting) fun _ _ known => known

theorem currentTime_runs (lasting : Lasting scopeKey fact) :
    (keyRules scopeKey).Triple caller fact currentTime
      fun now store => fact store ∧ now ≤ store.now :=
  read_runs lasting (fun now => lasting.and (lasting_begun now)) fun _ _ known => ⟨known, le_rfl⟩

/-- A hit names a reservation the caller may be given. -/
def Found (scopeKey : ScopeKey) (call : CreationCall) (result : IdempotencyLookupResult)
    (store : KeyStore) : Prop :=
  ∀ reservationId, result = .hit reservationId → Answered scopeKey call reservationId store

theorem lasting_found (result : IdempotencyLookupResult) :
    Lasting scopeKey (Found scopeKey call result) :=
  fun store store' sound sound' advances found reservationId isHit =>
    lasting_answered call reservationId store store' sound sound' advances (found reservationId isHit)

variable {call : CreationCall} {store : KeyStore}

theorem KeyStore.Sound.answered_of_record (sound : store.Sound scopeKey)
    {record : IdempotencyRecord} (found : store.record? call.scopeKey = some record)
    (samePayload : record.payloadHash = call.payloadHash) {reservationId : Id}
    (isReservation : record.reservationId = some reservationId) :
    Answered scopeKey call reservationId store := by
  intro isKey
  subst isKey
  obtain ⟨isRecord, sameKey⟩ := mem_of_record? found
  obtain ⟨answer, isAnswer, answerKey⟩ := sound.opened (.inl ⟨record, isRecord, sameKey⟩)
  refine ⟨sound.recorded record isRecord sameKey reservationId isReservation, answer, isAnswer,
    answerKey, fun unexpired => ?_⟩
  rw [← samePayload]
  exact (sound.stored unexpired answer isAnswer answerKey record isRecord sameKey).1.symm

theorem KeyStore.Sound.answered_of_cached (sound : store.Sound scopeKey) {entry : CachedAnswer}
    (found : store.cached? call.scopeKey = some entry)
    (samePayload : entry.payloadHash = call.payloadHash) :
    Answered scopeKey call entry.reservationId store := by
  intro isKey
  subst isKey
  unfold cached? at found
  split at found
  · have sameKey := List.find?_some found
    rw [beq_iff_eq] at sameKey
    obtain ⟨row, isRow, rowKey, rowId, rowPayload⟩ :=
      sound.cached entry (List.mem_of_find?_eq_some found) sameKey
    have reserved := sound.created row isRow rowKey
    rw [rowPayload, samePayload] at reserved
    exact ⟨⟨row, isRow, rowKey, rowId⟩, reserved⟩
  · cases found

theorem lookupRecord_runs (call : CreationCall) : (keyRules scopeKey).Triple caller (fun _ => True)
      (lookupRecord call.scopeKey call.payloadHash) (Found scopeKey call) := by
  have recordKnown : ∀ existing : Option IdempotencyRecord, Lasting scopeKey fun store =>
      ∀ record, existing = some record → record.payloadHash = call.payloadHash →
        ∀ reservationId, record.reservationId = some reservationId →
          Answered scopeKey call reservationId store :=
    fun _ store store' sound sound' advances known record isRecord same reservationId isReservation =>
      lasting_answered call reservationId store store' sound sound' advances
        (known record isRecord same reservationId isReservation)
  apply Triple.bind (read_runs (lasting_const True) recordKnown _)
  · intro existing
    cases existing with
    | none => exact pure_lasts (lasting_found call _) fun _ _ _ isHit => nomatch isHit
    | some existing =>
      apply Triple.bind (currentTime_runs (recordKnown (some existing)))
      intro now
      split
      · exact pure_lasts (lasting_found call _) fun _ _ _ isHit => nomatch isHit
      · split
        · exact pure_lasts (lasting_found call _) fun _ _ _ isHit => nomatch isHit
        next samePayload =>
          rw [not_ne_iff] at samePayload
          cases isReservation : existing.reservationId with
          | none => exact pure_lasts (lasting_found call _) fun _ _ _ isHit => nomatch isHit
          | some reservationId =>
            apply pure_lasts (lasting_found call _)
            rintro store ⟨known, -⟩ _ ⟨⟩
            exact known existing rfl samePayload reservationId isReservation
  · exact fun store sound _ record found same reservationId isReservation =>
      sound.answered_of_record found same isReservation

theorem lookup_runs (call : CreationCall) : (keyRules scopeKey).Triple caller (fun _ => True)
      (lookup call.hasCache call.scopeKey call.payloadHash) (Found scopeKey call) := by
  have entryKnown : ∀ cached : Option CachedAnswer, Lasting scopeKey fun store =>
      ∀ entry, cached = some entry → entry.payloadHash = call.payloadHash →
        Answered scopeKey call entry.reservationId store :=
    fun _ store store' sound sound' advances known entry isEntry same =>
      lasting_answered call _ store store' sound sound' advances (known entry isEntry same)
  apply Triple.bind (read_runs (lasting_const True) entryKnown _)
  · intro cached
    cases cached with
    | none => exact (lookupRecord_runs call).weaken (fun _ _ _ => trivial) fun _ _ found => found
    | some entry =>
      dsimp only
      split
      · exact pure_lasts (lasting_found call _) fun _ _ _ isHit => nomatch isHit
      next samePayload =>
        rw [not_ne_iff] at samePayload
        apply pure_lasts (lasting_found call _)
        rintro store known _ ⟨⟩
        exact known entry rfl samePayload
  · intro store sound _ entry found same
    cases hasCache : call.hasCache with
    | false => simp [hasCache] at found
    | true =>
      rw [hasCache] at found
      exact sound.answered_of_cached found same

theorem purgeExpired_runs :
    (keyRules scopeKey).Triple caller (fun _ => True) purgeExpired fun _ _ => True := by
  apply Triple.bind (currentTime_runs (lasting_const True))
  intro now
  apply update_runs ((lasting_const True).and (lasting_begun now)) fun _ => lasting_const True
  · exact fun store sound known => ⟨sound.deleteExpired known.2,
      ⟨le_rfl, List.Subset.refl _, List.Subset.refl _⟩⟩
  · exact fun _ _ _ => trivial

theorem insertPending_runs (call : CreationCall) (expiresAt : Instant) :
    (keyRules scopeKey).Triple caller (fun _ => True)
      (insertPending caller call.scopeKey call.payloadHash expiresAt)
      fun inserted store => inserted = true → Reserved scopeKey call store := by
  apply update_runs (lasting_const True)
  · exact fun _ store store' sound sound' advances known isInserted =>
      lasting_reserved call store store' sound sound' advances (known isInserted)
  · exact fun store sound _ => ⟨sound.insertRecord caller rfl, insertRecord_advances store caller _⟩
  · intro store _ _ isVacant isKey
    have vacant : (store.record?
        (pendingRecord call.scopeKey call.payloadHash expiresAt).scopeKey).isNone = true := isVacant
    unfold insertRecord
    rw [if_pos vacant]
    exact ⟨_, List.mem_append_right _ List.mem_cons_self, isKey, fun _ => rfl⟩

/-- The key is the caller's when `reserve` answers so. -/
def ReservedIf (scopeKey : ScopeKey) (call : CreationCall)
    (answer : Except CreationError ReserveAnswer) (store : KeyStore) : Prop :=
  answer = .ok .reserved → Reserved scopeKey call store

theorem lasting_reservedIf (call : CreationCall) (answer : Except CreationError ReserveAnswer) :
    Lasting scopeKey (ReservedIf scopeKey call answer) :=
  fun store store' sound sound' advances known isReserved =>
    lasting_reserved call store store' sound sound' advances (known isReserved)

theorem reserveConcurrent_runs (call : CreationCall) (expiresAt : Instant) :
    (keyRules scopeKey).Triple caller (fun _ => True) (call.reserveConcurrent caller expiresAt)
      (ReservedIf scopeKey call) := by
  have otherwise_ : ∀ answer : Except CreationError ReserveAnswer, answer ≠ .ok .reserved →
      (keyRules scopeKey).Triple caller (fun _ => True) (pure answer) (ReservedIf scopeKey call) :=
    fun answer different => pure_lasts (lasting_reservedIf call answer)
      fun _ _ isReserved => absurd isReserved different
  apply Triple.bind (glance_runs (lasting_const True))
  intro concurrent
  apply Triple.bind (glance_runs (lasting_const True))
  intro now
  split
  · apply Triple.bind purgeExpired_runs
    intro _
    apply Triple.bind (insertPending_runs call expiresAt)
    intro inserted
    apply pure_lasts (lasting_reservedIf call _)
    intro store reserved isReserved
    cases inserted with
    | true => exact reserved rfl
    | false => cases isReserved
  · split
    · exact otherwise_ _ nofun
    · split
      · exact otherwise_ _ nofun
      · exact otherwise_ _ nofun

theorem reserve_runs (call : CreationCall) :
    (keyRules scopeKey).Triple caller (fun _ => True) (call.reserve caller)
      (ReservedIf scopeKey call) := by
  apply Triple.bind (lookup_runs call)
  intro existing
  cases existing with
  | hit _ => exact pure_lasts (lasting_reservedIf call _) fun _ _ isReserved => nomatch isReserved
  | conflict => exact pure_lasts (lasting_reservedIf call _) fun _ _ isReserved => nomatch isReserved
  | miss =>
    apply Triple.bind (read_runs ((lasting_found call _)) (fun _ => lasting_const True)
      fun _ _ _ => trivial)
    intro now
    apply Triple.bind purgeExpired_runs
    intro _
    apply Triple.bind (insertPending_runs call _)
    intro inserted
    cases inserted with
    | true => exact pure_lasts (lasting_reservedIf call _) fun _ reserved _ => reserved rfl
    | false => exact (reserveConcurrent_runs call _).weaken (fun _ _ _ => trivial) fun _ _ known => known

/-- What a result of `createReservation` promises. -/
def Outcome (scopeKey : ScopeKey) (call : CreationCall)
    (result : Except CreationError CreationCall.CreateReservationResult) (store : KeyStore) : Prop :=
  ∀ value, result = .ok value → Answered scopeKey call value.reservationId store

theorem lasting_outcome (call : CreationCall)
    (result : Except CreationError CreationCall.CreateReservationResult) :
    Lasting scopeKey (Outcome scopeKey call result) :=
  fun store store' sound sound' advances known value isValue =>
    lasting_answered call _ store store' sound sound' advances (known value isValue)

def Awaited (scopeKey : ScopeKey) (call : CreationCall)
    (result : Except CreationError (Option CreationCall.CreateReservationResult))
    (store : KeyStore) : Prop :=
  ∀ value, result = .ok (some value) → Answered scopeKey call value.reservationId store

theorem lasting_awaited (call : CreationCall)
    (result : Except CreationError (Option CreationCall.CreateReservationResult)) :
    Lasting scopeKey (Awaited scopeKey call result) :=
  fun store store' sound sound' advances known value isValue =>
    lasting_answered call _ store store' sound sound' advances (known value isValue)

theorem waitForCompleted_runs (call : CreationCall) (attempts : Nat) :
    (keyRules scopeKey).Triple caller (fun _ => True) (call.waitForCompletedIdempotency attempts)
      (Awaited scopeKey call) := by
  induction attempts with
  | zero => exact pure_lasts (lasting_awaited call _) fun _ _ _ isValue => nomatch isValue
  | succ attempts ih =>
    apply Triple.bind (lookup_runs call)
    intro existing
    cases existing with
    | conflict => exact pure_lasts (lasting_awaited call _) fun _ _ _ isValue => nomatch isValue
    | miss => exact ih.weaken (fun _ _ _ => trivial) fun _ _ known => known
    | hit reservationId =>
      apply Triple.bind (glance_runs (lasting_found call (.hit reservationId)))
      intro found
      cases found with
      | true =>
        apply pure_lasts (lasting_awaited call _)
        rintro store known _ ⟨⟩
        exact known reservationId rfl
      | false => exact ih.weaken (fun _ _ _ => trivial) fun _ _ known => known

theorem awaitReservation_runs (call : CreationCall) :
    (keyRules scopeKey).Triple caller (fun _ => True) call.awaitReservation
      (Outcome scopeKey call) := by
  apply Triple.bind (waitForCompleted_runs call _)
  intro existing
  apply pure_lasts (lasting_outcome call _)
  intro store known value isValue
  cases existing with
  | error error => cases isValue
  | ok result =>
    cases result with
    | none => cases isValue
    | some result =>
      cases isValue
      exact known value rfl

/-- The caller's reservation is in the store. -/
def Created (scopeKey : ScopeKey) (call : CreationCall) (store : KeyStore) : Prop :=
  call.row ∈ store.reservations ∧ Reserved scopeKey call store

theorem lasting_created (call : CreationCall) : Lasting scopeKey (Created scopeKey call) :=
  fun store store' sound sound' advances created =>
    ⟨advances.reservations created.1,
      lasting_reserved call store store' sound sound' advances created.2⟩

theorem Created.answered (created : Created scopeKey call store) :
    Answered scopeKey call call.newReservationId store :=
  fun isKey => ⟨⟨call.row, created.1, isKey, rfl⟩, created.2 isKey⟩

section

variable (call : CreationCall)

theorem createRow_runs : (keyRules scopeKey).Triple caller (Reserved scopeKey call) call.createRow
      fun result store => Reserved scopeKey call store ∧ ∀ reservationId,
        result = .ok reservationId → reservationId = call.newReservationId ∧
          Created scopeKey call store := by
  apply update_runs (lasting_reserved call)
  · intro result
    apply (lasting_reserved call).and
    exact fun store store' sound sound' advances known reservationId isCreated =>
      ⟨(known reservationId isCreated).1,
        lasting_created call store store' sound sound' advances (known reservationId isCreated).2⟩
  · exact fun store sound reserved => ⟨sound.insertRow call reserved, insertRow_advances call store⟩
  · intro store sound reserved
    have reserved' : Reserved scopeKey call (call.insertRow store) :=
      fun isKey => (reserved isKey).later (insertRow_advances call store)
    refine ⟨reserved', ?_⟩
    intro reservationId isCreated
    split at isCreated
    next committed =>
      cases isCreated
      rw [Bool.and_eq_true] at committed
      refine ⟨rfl, ?_, reserved'⟩
      unfold CreationCall.insertRow
      rw [if_pos committed.1]
      exact List.mem_append_right _ List.mem_cons_self
    next => cases isCreated

theorem markFailed_runs :
    (keyRules scopeKey).Triple caller (Reserved scopeKey call) (markFailed call.scopeKey)
      fun _ _ => True := by
  apply Triple.bind (glance_runs (lasting_reserved call))
  intro now
  apply update_runs (lasting_reserved call) fun _ => lasting_const True
  · intro store sound reserved
    split
    next isVacant =>
      refine ⟨sound.insertFailed rfl (record?_isNone.1 isVacant) ?_,
        ⟨le_rfl, List.Subset.refl _, List.Subset.refl _⟩⟩
      intro isKey
      obtain ⟨answer, isAnswer, answerKey, -⟩ := reserved isKey
      exact ⟨answer, isAnswer, answerKey⟩
    next =>
      refine ⟨sound.updateRecord call.scopeKey _ (fun _ => ⟨rfl, rfl, rfl⟩) ?_,
        ⟨le_rfl, List.Subset.refl _, List.Subset.refl _⟩⟩
      exact fun _ record isRecord sameKey => sound.recorded record isRecord sameKey
  · exact fun _ _ _ => trivial

theorem complete_runs : (keyRules scopeKey).Triple caller (Created scopeKey call)
      (call.complete call.newReservationId) fun _ => Created scopeKey call := by
  have marks : (keyRules scopeKey).Triple caller (Created scopeKey call)
      (markCompleted call.scopeKey call.newReservationId) fun _ => Created scopeKey call := by
    apply update_runs (lasting_created call) fun _ => lasting_created call
    · intro store sound created
      refine ⟨sound.updateRecord call.scopeKey _ (fun _ => ⟨rfl, rfl, rfl⟩) ?_,
        ⟨le_rfl, List.Subset.refl _, List.Subset.refl _⟩⟩
      rintro isKey record _ _ _ ⟨⟩
      exact (created.answered isKey).1
    · exact fun _ _ created => created
  have caches : (keyRules scopeKey).Triple caller (Created scopeKey call) (setCache
        { scopeKey := call.scopeKey
          reservationId := call.newReservationId
          payloadHash := call.payloadHash }) fun _ => Created scopeKey call := by
    apply update_runs (lasting_created call) fun _ => lasting_created call
    · intro store sound created
      refine ⟨sound.putCache fun isKey => ⟨call.row, created.1, isKey, rfl, rfl⟩, ?_⟩
      unfold putCache
      split
      · exact ⟨le_rfl, List.Subset.refl _, List.Subset.refl _⟩
      · exact .refl store
    · intro store _ created
      unfold putCache
      split
      · exact created
      · exact created
  apply Triple.bind marks
  intro marked
  split
  · exact pure_lasts (lasting_created call) fun _ created => created
  · split
    · exact Triple.bind caches fun _ => pure_lasts (lasting_created call) fun _ created => created
    · exact pure_lasts (lasting_created call) fun _ created => created

theorem createReserved_runs :
    (keyRules scopeKey).Triple caller (Reserved scopeKey call) call.createReserved
      (Outcome scopeKey call) := by
  apply Triple.bind (createRow_runs call)
  intro created
  cases created with
  | error error =>
    apply Triple.bind ((markFailed_runs call).weaken (fun _ _ known => known.1) fun _ _ known => known)
    exact fun _ => pure_lasts (lasting_outcome call _) fun _ _ _ isValue => nomatch isValue
  | ok reservationId =>
    intro store sound known
    obtain ⟨rfl, created⟩ := known.2 reservationId rfl
    have completes : (keyRules scopeKey).Triple caller (Created scopeKey call)
        (call.complete call.newReservationId >>= fun completed => pure (completed.map fun _ =>
          { reservationId := call.newReservationId, reused := false }))
        (Outcome scopeKey call) := by
      apply Triple.bind (complete_runs call)
      intro completed
      apply pure_lasts (lasting_outcome call _)
      intro store created value isValue
      cases completed with
      | error error => cases isValue
      | ok _ =>
        cases isValue
        exact created.answered
    exact completes store sound created

theorem createChecked_runs :
    (keyRules scopeKey).Triple caller (fun _ => True) (call.createChecked caller)
      (Outcome scopeKey call) := by
  apply Triple.bind (glance_runs (lasting_const True))
  intro accepted
  split
  · exact pure_lasts (lasting_outcome call _) fun _ _ _ isValue => nomatch isValue
  · apply Triple.bind (reserve_runs call)
    intro answer
    cases answer with
    | error error => exact pure_lasts (lasting_outcome call _) fun _ _ _ isValue => nomatch isValue
    | ok answer =>
      cases answer with
      | reused => exact (awaitReservation_runs call).weaken (fun _ _ _ => trivial) fun _ _ known => known
      | reserved =>
        exact (createReserved_runs call).weaken (fun _ _ reserved => reserved rfl)
          fun _ _ known => known

theorem createReservation_runs :
    (keyRules scopeKey).Triple caller (fun _ => True) (call.createReservation caller)
      (Outcome scopeKey call) := by
  unfold CreationCall.createReservation
  split
  · apply Triple.bind (lookup_runs call)
    intro existing
    cases existing with
    | conflict => exact pure_lasts (lasting_outcome call _) fun _ _ _ isValue => nomatch isValue
    | hit _ => exact (awaitReservation_runs call).weaken (fun _ _ _ => trivial) fun _ _ known => known
    | miss => exact (createChecked_runs call).weaken (fun _ _ _ => trivial) fun _ _ known => known
  · exact createChecked_runs call

end

end

structure KeyStore.Fresh (scopeKey : ScopeKey) (store : KeyStore) : Prop where
  records : ∀ record ∈ store.records, record.scopeKey ≠ scopeKey
  reservations : ∀ row ∈ store.reservations, row.scopeKey ≠ scopeKey
  cache : ∀ entry ∈ store.cache, entry.scopeKey ≠ scopeKey
  answers : ∀ answer ∈ store.answers, answer.record.scopeKey ≠ scopeKey

theorem KeyStore.Fresh.sound {scopeKey : ScopeKey} {store : KeyStore}
    (fresh : store.Fresh scopeKey) : store.Sound scopeKey where
  single row isRow _ _ sameKey := absurd sameKey (fresh.reservations row isRow)
  opened some_ := by
    rcases some_ with ⟨record, isRecord, sameKey⟩ | ⟨row, isRow, sameKey⟩
    · exact absurd sameKey (fresh.records record isRecord)
    · exact absurd sameKey (fresh.reservations row isRow)
  once _ := by
    have none_ : store.answers.filter (fun answer => answer.record.scopeKey = scopeKey) = [] := by
      rw [List.filter_eq_nil_iff]
      exact fun answer isAnswer sameKey => fresh.answers answer isAnswer (of_decide_eq_true sameKey)
    rw [none_]
    exact Nat.zero_le 1
  kept _ answer isAnswer sameKey := absurd sameKey (fresh.answers answer isAnswer)
  stored _ answer isAnswer sameKey := absurd sameKey (fresh.answers answer isAnswer)
  created row isRow sameKey := absurd sameKey (fresh.reservations row isRow)
  recorded record isRecord sameKey := absurd sameKey (fresh.records record isRecord)
  cached entry isEntry sameKey := absurd sameKey (fresh.cache entry isEntry)

/-- Under one key at most one reservation is created, and every call that succeeds
returns it; and until the key expires `reserve` has answered `reserved` at most once,
and the calls that succeed have the payload the key is stored with. -/
theorem one_reservation_per_key (calls : CallerId → CreationCall) (scopeKey : ScopeKey)
    {store : KeyStore} (fresh : store.Fresh scopeKey)
    {c : Config CallerId KeyStore (Except CreationError CreationCall.CreateReservationResult)}
    (run : (creationSystem calls).Reaches (.initial store) c) :
    (∀ row ∈ c.shared.reservations, ∀ other ∈ c.shared.reservations,
      row.scopeKey = scopeKey → other.scopeKey = scopeKey → row = other) ∧
    (∀ caller value, (calls caller).scopeKey = scopeKey →
      c.procs caller = some (.done (.ok value)) →
        c.shared.HasReservation scopeKey value.reservationId) ∧
    (c.shared.Unexpired scopeKey →
      (c.shared.answers.filter fun answer => answer.record.scopeKey = scopeKey).length ≤ 1 ∧
      ∀ caller value, (calls caller).scopeKey = scopeKey →
        c.procs caller = some (.done (.ok value)) →
          ∃ record, c.shared.record? scopeKey = some record ∧
            record.payloadHash = (calls caller).payloadHash) := by
  have governs : (keyRules scopeKey).Governs (creationSystem calls)
      fun caller result => Outcome scopeKey (calls caller) result :=
    { code := fun caller store sound => createReservation_runs (calls caller) store sound trivial
      crash := fun _ store sound => ⟨sound, .refl store⟩
      tick := fun _ _ sound ticks => ⟨sound.tick ticks, ticks.advances⟩ }
  obtain ⟨sound, outcomes⟩ := reaches_sound governs (fun _ _ _ => trivial) fresh.sound run
  refine ⟨sound.single, ?_, fun unexpired => ⟨sound.once unexpired, ?_⟩⟩
  · intro caller value isKey finished
    exact (outcomes caller _ finished value rfl isKey).1
  · intro caller value isKey finished
    obtain ⟨-, reserved⟩ := outcomes caller _ finished value rfl isKey
    have answered := reserved
    obtain ⟨answer, isAnswer, answerKey, -⟩ := answered
    have samePayload := sound.payload_of_reservedFor unexpired reserved isAnswer answerKey
    cases found : c.shared.record? scopeKey with
    | none =>
      obtain ⟨record, isRecord, recordKey⟩ := sound.kept unexpired answer isAnswer answerKey
      exact absurd recordKey (record?_isNone.1 (Option.isNone_iff_eq_none.2 found) record isRecord)
    | some record =>
      obtain ⟨isRecord, recordKey⟩ := mem_of_record? found
      have stored := sound.stored unexpired answer isAnswer answerKey record isRecord recordKey
      exact ⟨record, rfl, stored.1.trans samePayload⟩

def firstCall : CreationCall where
  scopeKey := ⟨"scope", "key"⟩
  payloadHash := "hash"
  ttlSeconds := 60
  hasHoldToken := false
  hasCache := false
  accepts _ := true
  commits _ := true
  acknowledged _ := true
  newReservationId := "r"

def emptyKeys : KeyStore := ⟨0, [], [], true, [], []⟩

def keysAfterFirst : KeyStore where
  now := 0
  records := [⟨⟨"scope", "key"⟩, "hash", .completed, some "r", 60000⟩]
  reservations := [firstCall.row]
  cacheUp := true
  cache := []
  answers := [⟨0, pendingRecord ⟨"scope", "key"⟩ "hash" 60000⟩]

/-- A call that runs to its end alone leaves its reservation and its payload under the
key. -/
theorem one_reservation_per_key_first :
    ∃ c, (creationSystem fun _ => firstCall).Reaches (.initial emptyKeys) c ∧
      c.shared.HasReservation ⟨"scope", "key"⟩ "r" ∧
      ∃ record, c.shared.record? ⟨"scope", "key"⟩ = some record ∧ record.payloadHash = "hash" := by
  have ran : (firstCall.createReservation 0).run emptyKeys =
      some (.ok { reservationId := "r", reused := false }, keysAfterFirst) := rfl
  have run := (creationSystem fun _ => firstCall).reaches_alone 0 ran
  have fresh : emptyKeys.Fresh ⟨"scope", "key"⟩ := ⟨nofun, nofun, nofun, nofun⟩
  obtain ⟨-, returned, agreed⟩ := one_reservation_per_key (fun _ => firstCall) _ fresh run
  have unexpired : keysAfterFirst.Unexpired ⟨"scope", "key"⟩ := by
    intro answer isAnswer _
    cases List.mem_singleton.1 isAnswer
    decide
  exact ⟨_, run, returned 0 _ rfl rfl, (agreed unexpired).2 0 _ rfl rfl⟩

end Sokar
