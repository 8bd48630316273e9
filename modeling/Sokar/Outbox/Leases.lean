import Sokar.Library.Auxiliary
import Sokar.Outbox.Dispatcher

/-!
# The leases of the dispatchers

Any number of dispatchers run their jobs, statement by statement in any interleaving, and may
crash.  Which of them holds the claim of an event is not in the table; it is kept beside it.

An event is marked only by a dispatcher whose request the delivery queue has accepted, and never
claimed again.  A dispatcher whose lease has run out may still release or mark an event that
another has claimed by then; as long as none goes on after its lease was recovered, only the
holder of the claim changes the event.
-/

namespace Sokar

open Process Transaction

/-! ## The holder of a claim -/

/-- Whoever claimed the event last, and those whose claim of it was taken back. -/
structure LeaseMemo where
  holder : Option OutboxCallId
  lapsed : List OutboxCallId
  deriving DecidableEq

/-- The event was taken back when its lease had run out. -/
def OutboxEvent.wasRecovered (before after : OutboxEvent) : Bool :=
  before.isLapsed (after.availableAt - LEASE_MS) && after == before.recovered after.availableAt

def LeaseMemo.noteEvent (memo : LeaseMemo) (call : OutboxCallId) (before after : OutboxEvent) :
    LeaseMemo :=
  if before.status != .DISPATCHING && after.status == .DISPATCHING then
    { memo with holder := some call }
  else if before.wasRecovered after then
    { memo with lapsed := memo.holder.toList ++ memo.lapsed }
  else memo

theorem OutboxEvent.wasRecovered_self (event : OutboxEvent) : event.wasRecovered event = false := by
  by_contra isRecovered
  simp only [Bool.not_eq_false, wasRecovered, isLapsed, Bool.and_eq_true, beq_iff_eq] at isRecovered
  obtain ⟨⟨isDispatching, -⟩, same⟩ := isRecovered
  rw [same] at isDispatching
  cases isDispatching

theorem LeaseMemo.noteEvent_self (memo : LeaseMemo) (call : OutboxCallId) (event : OutboxEvent) :
    memo.noteEvent call event event = memo := by
  simp [noteEvent, OutboxEvent.wasRecovered_self]

variable (eventId : Id)

/-- What is kept about an event. -/
def leaseMemo : Auxiliary OutboxCallId OutboxStore LeaseMemo where
  note call store store' memo :=
    match store.data.event? eventId, store'.data.event? eventId with
    | some before, some after => memo.noteEvent call before after
    | _, _ => memo
  same call store memo := by
    cases store.data.event? eventId with
    | none => rfl
    | some event => exact memo.noteEvent_self call event

variable (moves : List (Move OutboxCallId OutboxStore))

/-- Whoever made the latest claim of the event. -/
def currentHolder : Option OutboxCallId :=
  ((leaseMemo eventId).remember ⟨none, []⟩ moves).holder

/-- The dispatchers whose claim of the event was taken back. -/
def lapsedHolders : List OutboxCallId :=
  ((leaseMemo eventId).remember ⟨none, []⟩ moves).lapsed

section

variable {eventId : Id} {call other : OutboxCallId} {store store' : OutboxStore}
variable {memo : LeaseMemo}

theorem note_of_found {before after : OutboxEvent} (found : store.data.event? eventId = some before)
    (found' : store'.data.event? eventId = some after) :
    (leaseMemo eventId).note call store store' memo = memo.noteEvent call before after := by
  simp only [leaseMemo, found, found']

theorem note_of_absent (absent : store.data.event? eventId = none) :
    (leaseMemo eventId).note call store store' memo = memo := by
  simp only [leaseMemo, absent]

theorem note_of_same {event : OutboxEvent} (found : store.data.event? eventId = some event)
    (found' : store'.data.event? eventId = some event) :
    (leaseMemo eventId).note call store store' memo = memo := by
  rw [note_of_found found found', LeaseMemo.noteEvent_self]

theorem note_of_stays (stays : ∀ {event}, store.data.event? eventId = some event →
    store'.data.event? eventId = some event) :
    (leaseMemo eventId).note call store store' memo = memo := by
  cases found : store.data.event? eventId with
  | none => exact note_of_absent found
  | some event => exact note_of_same found (stays found)

/-- Claims are taken back from ever more dispatchers. -/
theorem lapsed_note (lapsed : other ∈ memo.lapsed) :
    other ∈ ((leaseMemo eventId).note call store store' memo).lapsed := by
  unfold leaseMemo
  dsimp only
  split
  · unfold LeaseMemo.noteEvent
    split
    · exact lapsed
    · split
      · exact List.mem_append_right _ lapsed
      · exact lapsed
  · exact lapsed

end

namespace OutboxData

/-- Events have their own identifiers, and those that are claimed a lease. -/
structure Leased (data : OutboxData) : Prop where
  ids : (data.events.map (·.id)).Nodup
  leases : ∀ event ∈ data.events, event.status = .DISPATCHING → event.lockedAt.isSome

/-- What a statement of a dispatcher does to the tables. -/
structure Follows (call : OutboxCallId) (data data' : OutboxData) : Prop where
  stays : ∀ {eventId event}, data.event? eventId = some event →
    (data'.event? eventId).isSome
  final : ∀ {eventId event}, data.event? eventId = some event → event.status = .DISPATCHED →
    data'.event? eventId = some event
  waits : ∀ {eventId event}, data.event? eventId = some event → event.status ≠ .DISPATCHING →
    data'.event? eventId = some event ∨
      ∃ now, event.isClaimable now = true ∧ data'.event? eventId = some (event.claimed now)
  marked : ∀ {eventId event}, data'.event? eventId = some event → event.status = .DISPATCHED →
    data.event? eventId = some event ∨ ⟨call, eventId⟩ ∈ data.deliveries
  deliveries : ∀ delivery ∈ data.deliveries, delivery ∈ data'.deliveries

end OutboxData

open OutboxData

/-- The event is still the dispatcher's, or was dispatched, unless its claim was taken back. -/
def Handles (call : OutboxCallId) (t : OutboxStore × LeaseMemo) : Prop :=
  call ∈ t.2.lapsed ∨ ∃ event, t.1.data.event? eventId = some event ∧
    (event.status = .DISPATCHED ∨ event.status = .DISPATCHING ∧ t.2.holder = some call)

/-- Dispatchers follow the tables; in fair runs they only change the event while they hold its
claim. -/
def leaseRules (fair : Prop) : Discipline OutboxCallId (OutboxStore × LeaseMemo) where
  inv t := t.1.data.Leased
  guar call t t' := t.1.data.Follows call t'.1.data ∧ (fair →
    (∀ other, other ≠ call → Handles eventId other t → Handles eventId other t') ∧
      ∀ event, t.1.data.event? eventId = some event → event.status = .DISPATCHING →
        t'.1.data.event? eventId = some event ∨ t.2.holder = some call ∨
          ∃ event', t'.1.data.event? eventId = some event' ∧ event.wasRecovered event' = true)
  tick t t' := t'.1.data = t.1.data ∧ t'.2 = t.2
  meets call t _ := fair → call ∉ t.2.lapsed

section

variable {eventId : Id} {fair : Prop} {call : OutboxCallId} {data data' : OutboxData}
variable {selected : OutboxEvent → Bool} {change : OutboxEvent → OutboxEvent}

theorem event?_updateEvents (keeps : ∀ event : OutboxEvent, (change event).id = event.id)
    (eventId : Id) :
    (data.updateEvents selected change).event? eventId =
      (data.event? eventId).map fun event => if selected event then change event else event :=
  KeyedRows.lookup_update selected keeps

structure OutboxChange (call : OutboxCallId) (data : OutboxData)
    (selected : OutboxEvent → Bool) (change : OutboxEvent → OutboxEvent) : Prop where
  id : ∀ event : OutboxEvent, (change event).id = event.id
  leased : ∀ event, (change event).status = .DISPATCHING → (change event).lockedAt.isSome
  claims : ∀ event ∈ data.events, selected event = true → event.status ≠ .DISPATCHING →
    ∃ now, event.isClaimable now = true ∧ change event = event.claimed now
  delivered : ∀ event ∈ data.events, selected event = true → (change event).status = .DISPATCHED →
    ⟨call, event.id⟩ ∈ data.deliveries

section

variable (changes : OutboxChange call data selected change)
include changes

theorem OutboxChange.notFinal {event : OutboxEvent} (isEvent : event ∈ data.events)
    (isSelected : selected event = true) :
    event.status ≠ .DISPATCHED := by
  intro isFinal
  have notDispatching : event.status ≠ .DISPATCHING := by
    rw [isFinal]
    exact fun impossible => nomatch impossible
  obtain ⟨now, isClaimable, -⟩ := changes.claims event isEvent isSelected notDispatching
  simp [OutboxEvent.isClaimable, isFinal] at isClaimable

theorem OutboxChange.leased_updateEvents (leased : data.Leased) :
    (data.updateEvents selected change).Leased := by
  constructor
  · rw [OutboxData.updateEvents, KeyedRows.map_update _ _ changes.id]
    exact leased.ids
  · intro event isEvent isDispatching
    obtain ⟨before, isBefore, same⟩ := List.mem_map.1 isEvent
    split at same
    · subst same
      exact changes.leased before isDispatching
    · exact leased.leases event (same ▸ isBefore) isDispatching

theorem OutboxChange.follows : data.Follows call (data.updateEvents selected change) := by
  constructor
  · intro eventId event found
    rw [event?_updateEvents changes.id, found]
    rfl
  · intro eventId event found isFinal
    have unselected : ¬selected event = true :=
      fun isSelected => changes.notFinal (KeyedRows.mem_of_lookup found) isSelected isFinal
    rw [event?_updateEvents changes.id, found, Option.map_some, if_neg unselected]
  · intro eventId event found notDispatching
    rw [event?_updateEvents changes.id, found, Option.map_some]
    split
    next isSelected =>
      obtain ⟨now, isClaimable, same⟩ :=
        changes.claims event (KeyedRows.mem_of_lookup found) isSelected notDispatching
      exact .inr ⟨now, isClaimable, congrArg some same⟩
    next => exact .inl rfl
  · intro eventId event found isFinal
    rw [event?_updateEvents changes.id, Option.map_eq_some_iff] at found
    obtain ⟨before, isBefore, same⟩ := found
    split at same
    next isSelected =>
      subst same
      have isId : before.id = eventId := KeyedRows.key_of_lookup isBefore
      exact .inr (isId ▸ changes.delivered before (KeyedRows.mem_of_lookup isBefore) isSelected isFinal)
    next => exact .inl (same ▸ isBefore)
  · exact fun delivery isDelivery => isDelivery

end

/-- The event is changed by a claim, by a recovery of its lease or by its holder. -/
def MayChangeEvent (call : OutboxCallId) (memo : LeaseMemo) (before after : OutboxEvent) : Prop :=
  before.status ≠ .DISPATCHING ∨ before.wasRecovered after = true ∨ memo.holder = some call

variable {store store' : OutboxStore} {memo : LeaseMemo}

theorem guar_updateEvents (changes : OutboxChange call store.data selected change)
    (mayChange : fair → ∀ event, store.data.event? eventId = some event → selected event = true →
      MayChangeEvent call memo event (change event))
    (written : store'.data = store.data.updateEvents selected change) :
    (leaseRules eventId fair).guar call (store, memo)
      (store', (leaseMemo eventId).note call store store' memo) := by
  have found? : ∀ {event}, store.data.event? eventId = some event →
      store'.data.event? eventId = some (if selected event then change event else event) := by
    intro event found
    rw [written, event?_updateEvents changes.id, found]
    rfl
  refine ⟨written ▸ changes.follows, fun isFair => ⟨fun other isOther handles => ?_,
    fun event found isDispatching => ?_⟩⟩
  · rcases handles with lapsed | ⟨event, found, mine⟩
    · exact .inl (lapsed_note lapsed)
    have found' := found? found
    by_cases isSelected : selected event = true
    · rw [if_pos isSelected] at found'
      have notFinal := changes.notFinal (KeyedRows.mem_of_lookup found) isSelected
      obtain ⟨isDispatching, held⟩ := mine.resolve_left notFinal
      have stays : ¬(event.status != .DISPATCHING && (change event).status == .DISPATCHING) = true := by
        simp [isDispatching]
      rcases mayChange isFair event found isSelected with notHeld | recovered | isMine
      · exact absurd isDispatching notHeld
      · left
        rw [note_of_found found found', LeaseMemo.noteEvent, if_neg stays, if_pos recovered, held]
        exact List.mem_cons_self
      · exact absurd (Option.some.inj (held.symm.trans isMine)) isOther
    · rw [if_neg isSelected] at found'
      right
      rw [note_of_same found found']
      exact ⟨event, found', mine⟩
  · have found' := found? found
    by_cases isSelected : selected event = true
    · rw [if_pos isSelected] at found'
      rcases mayChange isFair event found isSelected with notHeld | recovered | isMine
      · exact absurd isDispatching notHeld
      · exact .inr (.inr ⟨change event, found', recovered⟩)
      · exact .inr (.inl isMine)
    · rw [if_neg isSelected] at found'
      exact .inl found'

/-- A write that leaves the events that there are. -/
theorem guar_of_same (stays : ∀ {eventId event}, store.data.event? eventId = some event →
      store'.data.event? eventId = some event)
    (marked : ∀ {eventId event}, store'.data.event? eventId = some event →
      event.status = .DISPATCHED → store.data.event? eventId = some event)
    (deliveries : ∀ delivery ∈ store.data.deliveries, delivery ∈ store'.data.deliveries) :
    (leaseRules eventId fair).guar call (store, memo)
      (store', (leaseMemo eventId).note call store store' memo) := by
  have sameMemo : (leaseMemo eventId).note call store store' memo = memo := note_of_stays stays
  refine ⟨?_, fun _ => ⟨fun other _ handles => ?_, fun event found _ => .inl (stays found)⟩⟩
  · constructor
    · exact fun found => Option.isSome_iff_exists.2 ⟨_, stays found⟩
    · exact fun found _ => stays found
    · exact fun found _ => .inl (stays found)
    · exact fun found isFinal => .inl (marked found isFinal)
    · exact deliveries
  · rw [sameMemo]
    exact handles.imp_right fun ⟨event, found, mine⟩ => ⟨event, stays found, mine⟩

/-- What was the dispatcher's still is, unless it changes the event to something else than
dispatched. -/
theorem handles_updateEvents (changes : OutboxChange call store.data selected change)
    (written : store'.data = store.data.updateEvents selected change)
    (marks : ∀ event, store.data.event? eventId = some event → selected event = true →
      (change event).status = .DISPATCHED) (handles : Handles eventId call (store, memo)) :
    Handles eventId call (store', (leaseMemo eventId).note call store store' memo) := by
  rcases handles with lapsed | ⟨event, found, mine⟩
  · exact .inl (lapsed_note lapsed)
  have found' : store'.data.event? eventId =
      some (if selected event then change event else event) := by
    rw [written, event?_updateEvents changes.id, found]
    rfl
  right
  by_cases isSelected : selected event = true
  · rw [if_pos isSelected] at found'
    exact ⟨change event, found', .inl (marks event found isSelected)⟩
  · rw [if_neg isSelected] at found'
    rw [note_of_same found found']
    exact ⟨event, found', mine⟩

end

/-! ## The programs of the dispatchers -/

section

variable (eventId : Id) (fair : Prop) (call : OutboxCallId)

/-- The event, if it is one of these, is the dispatcher's. -/
def HandlesIn (ids : List Id) (t : OutboxStore × LeaseMemo) : Prop :=
  eventId ∈ ids → fair → Handles eventId call t

/-- The program keeps to the rules. -/
def KeepsLeases {α : Type} (pre : OutboxStore × LeaseMemo → Prop) (prog : OutboxProg α)
    (post : α → OutboxStore × LeaseMemo → Prop) : Prop :=
  (leaseRules eventId fair).Triple call pre ((leaseMemo eventId).prog call prog) post

variable {eventId fair call}
variable {α β : Type} {pre mid post : OutboxStore × LeaseMemo → Prop}

theorem stable_handlesIn (ids : List Id) :
    (leaseRules eventId fair).Stable call (HandlesIn eventId fair call ids) := by
  rintro ⟨store, memo⟩ ⟨store', memo'⟩ ⟨-, -, moved⟩ handles isOne isFair
  rcases moved with ⟨sameData, sameMemo⟩ | ⟨other, isOther, -, kept⟩
  · rw [Handles, sameMemo, sameData]
    exact handles isOne isFair
  · exact (kept isFair).1 call isOther.symm (handles isOne isFair)

theorem stable_delivered (outboxEventId : Id) :
    (leaseRules eventId fair).Stable call fun t => ⟨call, outboxEventId⟩ ∈ t.1.data.deliveries := by
  rintro ⟨store, memo⟩ ⟨store', memo'⟩ ⟨-, -, moved⟩ delivered
  rcases moved with ⟨sameData, -⟩ | ⟨other, -, follows, -⟩
  · rw [sameData]
    exact delivered
  · exact follows.deliveries _ delivered

theorem guar_self (t : OutboxStore × LeaseMemo) : (leaseRules eventId fair).guar call t t := by
  obtain ⟨store, memo⟩ := t
  have kept : (leaseRules eventId fair).guar call (store, memo)
      (store, (leaseMemo eventId).note call store store memo) :=
    guar_of_same id (fun found _ => found) fun _ => id
  rw [(leaseMemo eventId).same] at kept
  exact kept

namespace KeepsLeases

theorem pure {value : α} (stable : (leaseRules eventId fair).Stable call post)
    (holds : ∀ t, pre t → post t) :
    KeepsLeases eventId fair call pre (Pure.pure value) fun _ => post :=
  Discipline.Triple.pure stable fun t _ => holds t

theorem bind {mid : α → OutboxStore × LeaseMemo → Prop}
    {post : β → OutboxStore × LeaseMemo → Prop} {first : OutboxProg α} {rest : α → OutboxProg β}
    (keeps : KeepsLeases eventId fair call pre first mid)
    (keepsRest : ∀ value, KeepsLeases eventId fair call (mid value) (rest value) post) :
    KeepsLeases eventId fair call pre (first >>= rest) post := by
  rw [KeepsLeases, Auxiliary.prog_bind]
  exact Discipline.Triple.bind keeps keepsRest

theorem now (stable : (leaseRules eventId fair).Stable call pre) :
    KeepsLeases eventId fair call pre outboxNow fun _ => pre := by
  rw [KeepsLeases, outboxNow, Transaction.query, Auxiliary.prog_read]
  apply Discipline.Triple.read stable guar_self
  · exact fun _ => stable
  · exact fun _ _ holds => holds

theorem andThen {first : OutboxProg (Except OutboxFailure α)}
    {rest : α → OutboxProg (Except OutboxFailure β)}
    (stable : (leaseRules eventId fair).Stable call post) (implies : ∀ t, mid t → post t)
    (keeps : KeepsLeases eventId fair call pre first fun _ => mid)
    (keepsRest : ∀ value, KeepsLeases eventId fair call mid (rest value) fun _ => post) :
    KeepsLeases eventId fair call pre (first.andThen rest) fun _ => post := by
  apply keeps.bind
  intro result
  cases result with
  | error failure => exact KeepsLeases.pure stable implies
  | ok value => exact keepsRest value

theorem commit {post : α → OutboxStore × LeaseMemo → Prop} {view : OutboxData → Int → α}
    {change : OutboxData → Int → OutboxData}
    (stable : (leaseRules eventId fair).Stable call pre)
    (stablePost : ∀ value, (leaseRules eventId fair).Stable call (post value))
    (keeps : ∀ store store' memo, store.data.Leased → pre (store, memo) →
      (fair → call ∉ memo.lapsed) → store'.data = change store.data store.now →
        let memo' := (leaseMemo eventId).note call store store' memo
        store'.data.Leased ∧ (leaseRules eventId fair).guar call (store, memo) (store', memo') ∧
          post (view store.data store.now) (store', memo')) :
    KeepsLeases eventId fair call pre (Transaction.commit call view change) post := by
  apply Discipline.Triple.updateWhen stable stablePost
  · intro t leased holds meets
    have kept := keeps t.1 (Store.release call { t.1 with data := change t.1.data t.1.now }) t.2
      leased holds meets rfl
    exact ⟨kept.1, kept.2.1⟩
  · intro t leased holds meets
    exact (keeps t.1 (Store.release call { t.1 with data := change t.1.data t.1.now }) t.2
      leased holds meets rfl).2.2

end KeepsLeases

theorem recoverExpiredLeases_keeps :
    KeepsLeases eventId fair call (fun _ => True) (recoverExpiredLeases call) fun _ _ => True := by
  apply KeepsLeases.bind (KeepsLeases.now (Discipline.stable_const True))
  intro now
  apply KeepsLeases.commit (Discipline.stable_const True) fun _ => Discipline.stable_const True
  intro store store' memo leased _ _ written
  have changes : OutboxChange call store.data (·.isLapsed (now - LEASE_MS)) (·.recovered now) := by
    constructor
    · exact fun _ => rfl
    · exact fun _ impossible => nomatch impossible
    · intro event _ isLapsed notDispatching
      simp [OutboxEvent.isLapsed, notDispatching] at isLapsed
    · exact fun _ _ _ impossible => nomatch impossible
  refine ⟨written ▸ changes.leased_updateEvents leased, ?_, trivial⟩
  apply guar_updateEvents changes _ written
  intro _ event _ isLapsed
  right
  left
  have sameInstant : (event.recovered now).availableAt = now := rfl
  rw [OutboxEvent.wasRecovered, sameInstant, isLapsed, Bool.true_and, beq_self_eq_true]

variable {data : OutboxData} {outboxEventId : Id}

/-- A write of the dispatcher of an event, while somebody dispatches it. -/
theorem changes_updateDispatching {change : OutboxEvent → OutboxEvent}
    (keepsId : ∀ event : OutboxEvent, (change event).id = event.id)
    (ends : ∀ event, (change event).status ≠ .DISPATCHING)
    (delivered : ∀ event, (change event).status = .DISPATCHED →
      ⟨call, outboxEventId⟩ ∈ data.deliveries) :
    OutboxChange call data (fun event => event.id == outboxEventId && event.status == .DISPATCHING)
      change := by
  constructor
  · exact keepsId
  · exact fun event isDispatching => absurd isDispatching (ends event)
  · intro event _ isSelected notDispatching
    simp [notDispatching] at isSelected
  · intro event _ isSelected isFinal
    simp only [Bool.and_eq_true, beq_iff_eq] at isSelected
    exact isSelected.1 ▸ delivered event isFinal

theorem guar_updateDispatching {store store' : OutboxStore} {memo : LeaseMemo} {ids : List Id}
    {change : OutboxEvent → OutboxEvent} (changes : OutboxChange call store.data
      (fun event => event.id == outboxEventId && event.status == .DISPATCHING) change)
    (handles : HandlesIn eventId fair call (outboxEventId :: ids) (store, memo))
    (meets : fair → call ∉ memo.lapsed)
    (written : store'.data = store.data.updateDispatching outboxEventId change) :
    (leaseRules eventId fair).guar call (store, memo)
      (store', (leaseMemo eventId).note call store store' memo) := by
  apply guar_updateEvents changes _ written
  intro isFair event found isSelected
  simp only [Bool.and_eq_true, beq_iff_eq] at isSelected
  obtain ⟨isOne, isDispatching⟩ := isSelected
  have sameId : outboxEventId = eventId := isOne.symm.trans (KeyedRows.key_of_lookup found)
  have mine : Handles eventId call (store, memo) := handles (sameId ▸ List.mem_cons_self) isFair
  obtain ⟨other, found', held⟩ := mine.resolve_left (meets isFair)
  cases found.symm.trans found'
  rcases held with isFinal | ⟨-, isMine⟩
  · cases isDispatching.symm.trans isFinal
  · exact .inr (.inr isMine)

theorem markDispatched_keeps (outboxEventId : Id) (ids : List Id) (outcome : StatementOutcome) :
    KeepsLeases eventId fair call (fun t => HandlesIn eventId fair call (outboxEventId :: ids) t ∧
        ⟨call, outboxEventId⟩ ∈ t.1.data.deliveries)
      (markDispatched call outboxEventId outcome)
      fun _ => HandlesIn eventId fair call (outboxEventId :: ids) := by
  have stable : (leaseRules eventId fair).Stable call fun t =>
      HandlesIn eventId fair call (outboxEventId :: ids) t ∧
        ⟨call, outboxEventId⟩ ∈ t.1.data.deliveries :=
    (stable_handlesIn _).and (stable_delivered outboxEventId)
  apply KeepsLeases.bind (KeepsLeases.now stable)
  intro dispatchedAt
  apply KeepsLeases.commit stable fun _ => stable_handlesIn _
  intro store store' memo leased ⟨handles, delivered⟩ meets written
  split at written
  · have changes : OutboxChange call store.data
        (fun event => event.id == outboxEventId && event.status == .DISPATCHING)
        (·.dispatched dispatchedAt) := by
      apply changes_updateDispatching
      · exact fun _ => rfl
      · exact fun _ impossible => nomatch impossible
      · exact fun _ _ => delivered
    refine ⟨?_, guar_updateDispatching changes handles meets written, fun isOne isFair => ?_⟩
    · rw [written]
      exact changes.leased_updateEvents leased
    · exact handles_updateEvents changes written (fun _ _ _ => rfl) (handles isOne isFair)
  · have kept : (leaseRules eventId fair).guar call (store, memo)
        (store', (leaseMemo eventId).note call store store' memo) :=
      guar_of_same (fun found => written ▸ found) (fun found _ => written ▸ found)
        fun _ isDelivery => written ▸ isDelivery
    refine ⟨written ▸ leased, kept, fun isOne isFair => ?_⟩
    rw [note_of_stays fun found => written ▸ found, Handles, written]
    exact handles isOne isFair

/-- The event is released, if it still is dispatched; the others stay the dispatcher's. -/
theorem releaseForRetry_keeps {ids : List Id} (apart : outboxEventId ∉ ids) (errorCode : String) :
    KeepsLeases eventId fair call (HandlesIn eventId fair call (outboxEventId :: ids))
      (releaseForRetry call outboxEventId errorCode) fun _ => HandlesIn eventId fair call ids := by
  apply KeepsLeases.bind (KeepsLeases.now (stable_handlesIn _))
  intro now
  split
  · apply KeepsLeases.pure (stable_handlesIn _)
    exact fun t handles isOne => handles (List.mem_cons_of_mem _ isOne)
  next code _ =>
    apply KeepsLeases.commit (stable_handlesIn _) fun _ => stable_handlesIn _
    intro store store' memo leased handles meets written
    have changes : OutboxChange call store.data
        (fun event => event.id == outboxEventId && event.status == .DISPATCHING)
        (·.released code (now + 30000)) := by
      apply changes_updateDispatching
      · exact fun _ => rfl
      · exact fun _ impossible => nomatch impossible
      · exact fun _ impossible => nomatch impossible
    refine ⟨?_, guar_updateDispatching changes handles meets written, fun isOne isFair => ?_⟩
    · rw [written]
      exact changes.leased_updateEvents leased
    · apply handles_updateEvents changes written _ (handles (List.mem_cons_of_mem _ isOne) isFair)
      intro event found isSelected
      simp only [Bool.and_eq_true, beq_iff_eq] at isSelected
      have sameId : event.id = eventId := KeyedRows.key_of_lookup found
      rw [← sameId, isSelected.1] at isOne
      exact absurd isOne apart

theorem mem_candidates {locked : Id → Bool} {limit : Nat} {now : Instant} {event : OutboxEvent}
    (isCandidate : event ∈ data.candidates locked limit now) :
    event ∈ data.events ∧ event.isClaimable now = true := by
  have isDue := (List.mem_insertionSort _).1 (List.mem_of_mem_take isCandidate)
  simp only [List.mem_filter, Bool.and_eq_true] at isDue
  exact ⟨isDue.1, isDue.2.1⟩

variable (call) in
theorem changes_claim (leased : data.Leased) {claimed : List OutboxEvent} {now : Instant}
    (due : ∀ row ∈ claimed, row ∈ data.events ∧ row.isClaimable now = true) :
    (∀ event ∈ data.events, (claimed.any fun row => row.id == event.id) = true →
        event.isClaimable now = true) ∧
      OutboxChange call data (fun event => claimed.any fun row => row.id == event.id)
        (·.claimed now) := by
  have isClaimable : ∀ event ∈ data.events, (claimed.any fun row => row.id == event.id) = true →
      event.isClaimable now = true := by
    intro event isEvent isSelected
    simp only [List.any_eq_true, beq_iff_eq] at isSelected
    obtain ⟨row, isRow, sameId⟩ := isSelected
    rw [← List.inj_on_of_nodup_map leased.ids (due row isRow).1 isEvent sameId]
    exact (due row isRow).2
  refine ⟨isClaimable, ?_⟩
  constructor
  · exact fun _ => rfl
  · exact fun _ _ => rfl
  · exact fun event isEvent isSelected _ => ⟨now, isClaimable event isEvent isSelected, rfl⟩
  · exact fun _ _ _ impossible => nomatch impossible

theorem eventsIn_nodup (leased : data.Leased) (ids : List Id) :
    ((data.eventsIn ids).map (·.id)).Nodup := by
  have sorted := (List.perm_insertionSort (fun first second : OutboxEvent =>
    first.createdAt ≤ second.createdAt) (data.events.filter fun event => ids.contains event.id)).map
      (·.id)
  exact sorted.nodup_iff.2 ((List.filter_sublist.map _).nodup leased.ids)

namespace DispatchInput

variable (input : DispatchInput)

theorem claimPending_keeps :
    KeepsLeases eventId fair call (fun _ => True) (input.claimPending call) fun events t =>
      HandlesIn eventId fair call (events.map (·.id)) t ∧ (events.map (·.id)).Nodup := by
  apply KeepsLeases.bind (KeepsLeases.now (Discipline.stable_const True))
  intro now
  apply KeepsLeases.commit (Discipline.stable_const True)
  · exact fun events => (stable_handlesIn _).and (Discipline.stable_const _)
  intro store store' memo leased _ _ written
  have due : ∀ row ∈ store.data.candidates input.locked input.boundedLimit now,
      row ∈ store.data.events ∧ row.isClaimable now = true := fun _ => mem_candidates
  obtain ⟨isClaimable, changes⟩ := changes_claim call leased due
  have leased' := changes.leased_updateEvents leased
  have notHeld : ∀ event : OutboxEvent, event.isClaimable now = true →
      event.status ≠ .DISPATCHING := by
    intro event isClaimable isDispatching
    simp [OutboxEvent.isClaimable, isDispatching] at isClaimable
  refine ⟨written ▸ leased', ?_, ?_, eventsIn_nodup leased' _⟩
  · apply guar_updateEvents changes _ written
    intro _ event found isSelected
    exact .inl (notHeld event (isClaimable event (KeyedRows.mem_of_lookup found) isSelected))
  · intro isOne _
    obtain ⟨after, isAfter, sameId⟩ := List.mem_map.1 isOne
    have isListed := (List.mem_insertionSort _).1 isAfter
    simp only [List.mem_filter, List.contains_iff_mem] at isListed
    have found' := KeyedRows.lookup_of_mem leased'.ids isListed.1
    rw [sameId] at found'
    have lookup : (store.data.event? eventId).map (fun event =>
        if (store.data.candidates input.locked input.boundedLimit now).any
          (fun row => row.id == event.id) then event.claimed now else event) = some after :=
      (event?_updateEvents changes.id eventId).symm.trans found'
    obtain ⟨event, found, same⟩ := Option.map_eq_some_iff.1 lookup
    have isSelected : (store.data.candidates input.locked input.boundedLimit now).any
        (fun row => row.id == event.id) = true := by
      have isId : event.id = eventId := KeyedRows.key_of_lookup found
      obtain ⟨row, isRow, sameRow⟩ := List.mem_map.1 isListed.2
      exact List.any_eq_true.2 ⟨row, isRow, beq_iff_eq.2 (sameRow.trans (sameId.trans isId.symm))⟩
    rw [if_pos isSelected] at same
    subst same
    have notDispatching : event.status ≠ .DISPATCHING :=
      notHeld event (isClaimable event (KeyedRows.mem_of_lookup found) isSelected)
    have after? : store'.data.event? eventId = some (event.claimed now) := by
      rw [written]
      exact found'
    right
    refine ⟨event.claimed now, after?, .inr ⟨rfl, ?_⟩⟩
    have claims : (event.status != .DISPATCHING &&
        (event.claimed now).status == .DISPATCHING) = true := by
      simp [notDispatching, OutboxEvent.claimed]
    rw [note_of_found found after?, LeaseMemo.noteEvent, if_pos claims]

/-- The delivery queue has accepted the request, unless it failed. -/
theorem deliver_keeps (event : OutboxEvent) (ids : List Id) :
    KeepsLeases eventId fair call (HandlesIn eventId fair call ids) (input.deliver call event)
      fun _ t => HandlesIn eventId fair call ids t ∧
        ((input.queueAdd event.id).applied = true → ⟨call, event.id⟩ ∈ t.1.data.deliveries) := by
  apply KeepsLeases.commit (stable_handlesIn _)
  · intro _
    apply (stable_handlesIn _).and
    intro t t' rely delivered isApplied
    exact stable_delivered event.id t t' rely (delivered isApplied)
  intro store store' memo leased handles _ written
  have sameEvents : store'.data.events = store.data.events := by
    rw [written]
    split
    · rfl
    · rfl
  have sameEvent : ∀ eventId, store'.data.event? eventId = store.data.event? eventId := by
    intro eventId
    rw [OutboxData.event?, sameEvents]
    rfl
  have kept : (leaseRules eventId fair).guar call (store, memo)
      (store', (leaseMemo eventId).note call store store' memo) := by
    apply guar_of_same
    · exact fun found => (sameEvent _).trans found
    · exact fun found _ => (sameEvent _).symm.trans found
    · intro delivery isDelivery
      rw [written]
      split
      · exact List.mem_append_left _ isDelivery
      · exact isDelivery
  refine ⟨⟨?_, ?_⟩, kept, fun isOne isFair => ?_, fun isApplied => ?_⟩
  · rw [sameEvents]
    exact leased.ids
  · rw [sameEvents]
    exact leased.leases
  · rw [note_of_stays fun found => (sameEvent _).trans found, Handles, sameEvent]
    exact handles isOne isFair
  · rw [written, if_pos isApplied]
    exact List.mem_append_right _ (List.mem_singleton_self _)

theorem retryLater_keeps {event : OutboxEvent} {ids : List Id} (apart : event.id ∉ ids)
    (name : Option String) :
    KeepsLeases eventId fair call (HandlesIn eventId fair call (event.id :: ids))
      (retryLater call event name) fun _ => HandlesIn eventId fair call ids := by
  apply KeepsLeases.andThen (stable_handlesIn _) (fun _ => id) (releaseForRetry_keeps apart _)
  exact fun _ => KeepsLeases.pure (stable_handlesIn _) fun _ => id

theorem dispatch_keeps {event : OutboxEvent} {ids : List Id} (apart : event.id ∉ ids) :
    KeepsLeases eventId fair call (HandlesIn eventId fair call (event.id :: ids))
      (input.dispatch call event) fun _ => HandlesIn eventId fair call ids := by
  have fewer : ∀ t, HandlesIn eventId fair call (event.id :: ids) t →
      HandlesIn eventId fair call ids t :=
    fun _ handles isOne => handles (List.mem_cons_of_mem _ isOne)
  apply KeepsLeases.bind (input.deliver_keeps event _)
  intro _
  cases outcome : input.queueAdd event.id with
  | throws name applied =>
    apply (retryLater_keeps apart name).weaken
    · exact fun _ _ known => known.1
    · exact fun _ _ => id
  | returns =>
    apply KeepsLeases.bind ((markDispatched_keeps event.id ids (input.mark event.id)).weaken _ fun _ _ => id)
    · intro _
      cases input.mark event.id with
      | throws name applied => exact retryLater_keeps apart name
      | returns => exact KeepsLeases.pure (stable_handlesIn _) fewer
    · exact fun _ _ known => ⟨known.1, known.2 rfl⟩

theorem dispatchAll_keeps {events : List OutboxEvent} (distinct : (events.map (·.id)).Nodup) :
    KeepsLeases eventId fair call (HandlesIn eventId fair call (events.map (·.id)))
      (input.dispatchAll call events) fun _ _ => True := by
  induction events with
  | nil => exact KeepsLeases.pure (Discipline.stable_const True) fun _ _ => trivial
  | cons event rest ih =>
    obtain ⟨apart, restDistinct⟩ := List.nodup_cons.1 distinct
    apply KeepsLeases.andThen (Discipline.stable_const True) (fun _ _ => trivial)
      (input.dispatch_keeps apart)
    intro failed
    apply KeepsLeases.andThen (Discipline.stable_const True) (fun _ _ => trivial) (ih restDistinct)
    exact fun more => KeepsLeases.pure (Discipline.stable_const True) fun _ _ => trivial

theorem processOutboxDispatchJob_keeps :
    KeepsLeases eventId fair call (fun _ => True) (input.processOutboxDispatchJob call)
      fun _ _ => True := by
  apply KeepsLeases.bind recoverExpiredLeases_keeps
  intro recovered
  apply KeepsLeases.bind input.claimPending_keeps
  intro events
  have keeps : (events.map (·.id)).Nodup →
      KeepsLeases eventId fair call (HandlesIn eventId fair call (events.map (·.id)))
        ((input.dispatchAll call events).andThen fun failed =>
          pure (if 0 < failed then .error (.notDispatched failed) else .ok events.length))
        fun _ _ => True := by
    intro distinct
    apply KeepsLeases.andThen (Discipline.stable_const True) (fun _ _ => trivial)
      (input.dispatchAll_keeps distinct)
    exact fun failed => KeepsLeases.pure (Discipline.stable_const True) fun _ _ => trivial
  exact fun t leased known => keeps known.2 t leased known.1

end DispatchInput

theorem CreateOutboxEventInput.create_keeps (input : CreateOutboxEventInput) :
    KeepsLeases eventId fair call (fun _ => True) (input.create call) fun _ _ => True := by
  have reads : KeepsLeases eventId fair call (fun _ => True) (normalizeAvailableAt input.availableAt)
      fun _ _ => True := by
    cases input.availableAt with
    | none => exact KeepsLeases.now (Discipline.stable_const True)
    | some availableAt => exact KeepsLeases.pure (Discipline.stable_const True) fun _ _ => trivial
  apply reads.bind
  intro availableAt
  apply KeepsLeases.commit (Discipline.stable_const True) fun _ => Discipline.stable_const True
  intro store store' memo leased _ _ written
  cases found : store.data.event? input.eventId with
  | some event =>
    rw [found, Option.isSome_some, if_pos rfl] at written
    have kept : (leaseRules eventId fair).guar call (store, memo)
        (store', (leaseMemo eventId).note call store store' memo) :=
      guar_of_same (fun found => written ▸ found) (fun found _ => written ▸ found)
        fun _ isDelivery => written ▸ isDelivery
    exact ⟨written ▸ leased, kept, trivial⟩
  | none =>
    rw [found, Option.isSome_none, if_neg Bool.false_ne_true] at written
    have isNew := KeyedRows.lookup_eq_none.1 found
    have appended : ∀ eventId, store'.data.event? eventId = (store.data.event? eventId).or
        (if input.eventId = eventId then some
          ⟨input.eventId, .PENDING, 0, availableAt, none, none, none, store.now⟩ else none) := by
      intro eventId
      rw [written]
      exact KeyedRows.lookup_append _
    have kept : (leaseRules eventId fair).guar call (store, memo)
        (store', (leaseMemo eventId).note call store store' memo) := by
      apply guar_of_same
      · intro eventId event isEvent
        rw [appended, isEvent, Option.some_or]
      · intro eventId event isEvent isFinal
        rw [appended, Option.or_eq_some_iff] at isEvent
        rcases isEvent with before | ⟨-, last⟩
        · exact before
        · split at last
          · cases last
            cases isFinal
          · cases last
      · exact fun _ isDelivery => written ▸ isDelivery
    refine ⟨⟨?_, ?_⟩, kept, trivial⟩
    · rw [written]
      exact KeyedRows.nodup_append leased.ids isNew
    · intro event isEvent isDispatching
      rw [written] at isEvent
      rcases List.mem_append.1 isEvent with before | last
      · exact leased.leases event before isDispatching
      · rw [List.mem_singleton.1 last] at isDispatching
        cases isDispatching

theorem OutboxCall.prog_keeps (outbox : OutboxCall) :
    KeepsLeases eventId fair call (fun _ => True) (outbox.prog call) fun _ _ => True := by
  cases outbox with
  | dispatch input => exact input.processOutboxDispatchJob_keeps
  | create input => exact input.create_keeps

end

/-- No dispatcher goes on after its claim of the event was taken back. -/
def NoneOverruns : Prop :=
  ∀ before move after, moves = before ++ move :: after →
    move.session ∉ lapsedHolders eventId before

/-- While it is dispatched, only the holder of its claim changes the event, but for the
recovery of its lease. -/
def HolderChanges : Prop :=
  ∀ before move after, moves = before ++ move :: after → ∀ event,
    move.before.data.event? eventId = some event → event.status = .DISPATCHING →
      move.after.data.event? eventId = some event ∨
        currentHolder eventId before = some move.session ∨
          ∃ event', move.after.data.event? eventId = some event' ∧
            event.wasRecovered event' = true

/-- What holds of an event along a run. -/
structure OutboxKept (eventId : Id) (start : OutboxData)
    (moves : List (Move OutboxCallId OutboxStore)) : Prop where
  /-- Whoever marks the event has had its request accepted by the delivery queue. -/
  delivered : ∀ move ∈ moves, ∀ event, move.after.data.event? eventId = some event →
    event.status = .DISPATCHED → move.before.data.event? eventId = some event ∨
      ⟨move.session, eventId⟩ ∈ move.before.data.deliveries
  /-- Unless it is dispatched, the event is only changed by a claim, once it is due. -/
  waits : ∀ move ∈ moves, ∀ event, move.before.data.event? eventId = some event →
    event.status ≠ .DISPATCHING → move.after.data.event? eventId = some event ∨
      ∃ now, event.isClaimable now = true ∧
        move.after.data.event? eventId = some (event.claimed now)
  held : NoneOverruns eventId moves → HolderChanges eventId moves
  /-- Once marked, the event stays as it is. -/
  final : (history start moves).Pairwise fun earlier later => ∀ event,
    earlier.event? eventId = some event → event.status = .DISPATCHED →
      later.event? eventId = some event
  /-- The event has a lease while it is dispatched, and is due again when that has run out and
  the leases are recovered. -/
  recovered : ∀ move ∈ moves, ∀ now, move.after.data = move.before.data.recoverExpired now →
    ∀ event, move.before.data.event? eventId = some event → event.status = .DISPATCHING →
      ∃ lockedAt, event.lockedAt = some lockedAt ∧ (lockedAt < now - LEASE_MS →
        ∃ event', move.after.data.event? eventId = some event' ∧
          ∀ later, now ≤ later → event'.isClaimable later = true)

def DispatchedStays (data data' : OutboxData) : Prop :=
  ∀ event, data.event? eventId = some event → event.status = .DISPATCHED →
    data'.event? eventId = some event

theorem DispatchedStays.trans {eventId : Id} {data data' data'' : OutboxData}
    (first : DispatchedStays eventId data data') (second : DispatchedStays eventId data' data'') :
    DispatchedStays eventId data data'' :=
  fun event found isFinal => second event (first event found isFinal) isFinal

section

variable {eventId : Id} {fair : Prop} {calls : OutboxCallId → OutboxCall} {store : OutboxStore}
variable {moves : List (Move OutboxCallId OutboxStore)}
variable {c : Config OutboxCallId OutboxStore (Except OutboxFailure Nat)}

theorem leaseRules_governs :
    (leaseRules eventId fair).Governs ((leaseMemo eventId).system (outboxSystem calls))
      fun _ _ _ => True where
  code call t leased := (calls call).prog_keeps t leased trivial
  crash call t leased := by
    have kept : (leaseRules eventId fair).guar call t
        (t.1.release call, (leaseMemo eventId).note call t.1 (t.1.release call) t.2) :=
      guar_of_same id (fun found _ => found) fun _ => id
    have sameMemo : (leaseMemo eventId).note call t.1 (t.1.release call) t.2 = t.2 :=
      note_of_stays fun found => found
    rw [sameMemo] at kept
    exact ⟨leased, kept⟩
  tick t t' leased ticks := by
    have sameData : t'.1.data = t.1.data := ticks.1.2.1
    refine ⟨?_, sameData, ticks.2⟩
    change t'.1.data.Leased
    rw [sameData]
    exact leased

theorem recovered_of_leased {data : OutboxData} (leased : data.Leased) {event : OutboxEvent}
    (found : data.event? eventId = some event) (isDispatching : event.status = .DISPATCHING)
    (now : Instant) :
    ∃ lockedAt, event.lockedAt = some lockedAt ∧ (lockedAt < now - LEASE_MS →
      ∃ event', (data.recoverExpired now).event? eventId = some event' ∧
        ∀ later, now ≤ later → event'.isClaimable later = true) := by
  obtain ⟨lockedAt, isLocked⟩ := Option.isSome_iff_exists.1
    (leased.leases event (KeyedRows.mem_of_lookup found) isDispatching)
  refine ⟨lockedAt, isLocked, fun hasRunOut => ?_⟩
  have isLapsed : event.isLapsed (now - LEASE_MS) = true := by
    simp [OutboxEvent.isLapsed, isDispatching, isLocked, hasRunOut]
  have keepsId : ∀ event : OutboxEvent, (event.recovered now).id = event.id := fun _ => rfl
  refine ⟨event.recovered now, ?_, fun later isLater => ?_⟩
  · rw [OutboxData.recoverExpired, event?_updateEvents keepsId, found, Option.map_some,
      if_pos isLapsed]
  · have isDue : now ≤ later := isLater
    simp [OutboxEvent.isClaimable, OutboxEvent.recovered, OutboxEvent.released, isDue]

theorem outbox_kept (leased : store.data.Leased)
    (run : (outboxSystem calls).Run (.initial store) moves c) :
    OutboxKept eventId store.data moves := by
  -- the condition on the run is the one under which the rules speak of the holder
  have governs : (leaseRules eventId (NoneOverruns eventId moves)).Governs
      ((leaseMemo eventId).system (outboxSystem calls)) fun _ _ _ => True := leaseRules_governs
  have kept := (Auxiliary.kept_of_run governs leased run
    fun before move after split noneOverruns => noneOverruns before move after split).2
  have follows : ∀ move ∈ moves, move.before.data.Leased ∧
      move.before.data.Follows move.session move.after.data := by
    intro move isMove
    obtain ⟨before, after, split⟩ := List.append_of_mem isMove
    exact ⟨(kept before move after split).inv, (kept before move after split).guar.1⟩
  constructor
  · exact fun move isMove event found isFinal => (follows move isMove).2.marked found isFinal
  · exact fun move isMove event found notDispatching =>
      (follows move isMove).2.waits found notDispatching
  · intro noneOverruns before move after split
    exact ((kept before move after split).guar.2 noneOverruns).2
  · have moved : ∀ move ∈ moves, DispatchedStays eventId move.before.data move.after.data :=
      fun move isMove _ found isFinal => (follows move isMove).2.final found isFinal
    have stays : (history store.data moves).Pairwise (DispatchedStays eventId) := by
      apply history_pairwise _ run moved
      exact fun first second => first.trans second
    exact stays
  · intro move isMove now written event found isDispatching
    rw [written]
    exact recovered_of_leased (follows move isMove).1 found isDispatching now

end

def dueEvent : OutboxStore where
  data := ⟨[⟨"e", .PENDING, 0, 0, none, none, none, 0⟩], []⟩
  now := 0
  owner _ := none

/-- The queue refuses the requests of the first dispatcher. -/
def twoDispatchers (call : OutboxCallId) : OutboxCall :=
  .dispatch
    { limit := none
      locked := fun _ => false
      queueAdd := fun _ => if call = 0 then .throws none false else .returns
      mark := fun _ => .returns }

theorem dueEvent_leased : dueEvent.data.Leased := by
  constructor
  · decide
  · intro event isEvent isDispatching
    rw [List.mem_singleton.1 isEvent] at isDispatching
    cases isDispatching

/-- The event is claimed, released, claimed by the other dispatcher and marked. -/
theorem outbox_kept_twice :
    ∃ moves c, (outboxSystem twoDispatchers).Run (.initial dueEvent) moves c ∧
      c.shared.data.events.map (·.status) = [.DISPATCHED] ∧
        OutboxKept "e" dueEvent.data moves := by
  have ticks : ∀ store : OutboxStore, (outboxSystem twoDispatchers).tick store
      { store with now := store.now + 60000 } :=
    fun store => ⟨Int.le_add_of_nonneg_right (by decide), rfl, rfl⟩
  obtain ⟨moves, c, run, dispatched⟩ := (outboxSystem twoDispatchers).exists_run_of_schedules
    (fun store => { store with now := store.now + 60000 }) ticks
    [List.replicate 8 0, List.replicate 8 1] (.initial dueEvent)
    (fun _ c => c.shared.data.events.map (·.status) = [.DISPATCHED]) (by decide +kernel)
  exact ⟨moves, c, run, dispatched, outbox_kept dueEvent_leased run⟩

/-- A dispatcher whose lease has run out releases the event that another has claimed. -/
theorem released_by_former_holder :
    ¬ ∀ (calls : OutboxCallId → OutboxCall) (store : OutboxStore), store.data.Leased →
      ∀ c moves, (outboxSystem calls).Run (.initial store) moves c → HolderChanges "e" moves := by
  intro claim
  have ticks : ∀ store : OutboxStore, (outboxSystem twoDispatchers).tick store
      { store with now := store.now + 360000 } :=
    fun store => ⟨Int.le_add_of_nonneg_right (by decide), rfl, rfl⟩
  obtain ⟨moves, c, run, move, isLast, isFirst, heldBySecond, found, released⟩ :=
    (outboxSystem twoDispatchers).exists_run_of_schedules
      (fun store => { store with now := store.now + 360000 }) ticks
      [List.replicate 5 0, List.replicate 5 1 ++ List.replicate 3 0] (.initial dueEvent)
      (fun moves _ => ∃ move ∈ moves.getLast?, move.session = 0 ∧
        currentHolder "e" moves.dropLast = some 1 ∧
          move.before.data.event? "e" =
            some ⟨"e", .DISPATCHING, 2, 360000, some 360000, none, some "LEASE_EXPIRED", 0⟩ ∧
          move.after.data.event? "e" =
            some ⟨"e", .PENDING, 2, 390000, none, none, some "QUEUE_ERROR", 0⟩) (by decide +kernel)
  have split : moves = moves.dropLast ++ move :: [] :=
    (List.dropLast_append_getLast? move isLast).symm
  rcases claim _ _ dueEvent_leased _ _ run _ move _ split _ found rfl with
    unchanged | held | ⟨event', found', recovered⟩
  · cases unchanged.symm.trans released
  · rw [heldBySecond, isFirst] at held
    cases held
  · cases found'.symm.trans released
    revert recovered
    decide

end Sokar
