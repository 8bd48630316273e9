import Sokar.Marketing.WorkerWrites

/-!
# Sent once, and within the day's limit

Any number of workers run amid changes of everything else.  A message is pending only while nobody
holds it and no provider was called for it, so there is at most one call for each.  Every slot that
is reserved, or was used for a call and not given back, is counted in the window of its day, so
that there are never more than its limit.

The day of a slot is the one on which its run began.  As long as the calls are made on the days of
their slots, no more messages than the limit reach a customer over a channel in a day.
-/

namespace Sokar.Marketing

open Process Transaction

/-- Messages keep their identifiers, and none becomes pending but new ones. -/
structure MessagesGrow (messages messages' : List CampaignMessage) : Prop where
  unique : (messages.map CampaignMessage.id).Nodup → (messages'.map CampaignMessage.id).Nodup
  rows : ∀ message ∈ messages, ∃ message' ∈ messages', message'.id = message.id
  pending : ∀ message' ∈ messages', message'.status = .PENDING →
    (∀ message ∈ messages, message.id ≠ message'.id) ∨
      ∃ message ∈ messages, message.id = message'.id ∧ message.status = .PENDING

namespace MessagesGrow

variable {messages messages' messages'' : List CampaignMessage}

theorem refl (messages : List CampaignMessage) : MessagesGrow messages messages where
  unique := id
  rows message isRow := ⟨message, isRow, rfl⟩
  pending message isRow isPending := .inr ⟨message, isRow, rfl, isPending⟩

theorem trans (first : MessagesGrow messages messages') (second : MessagesGrow messages' messages'') :
    MessagesGrow messages messages'' where
  unique unique := second.unique (first.unique unique)
  rows message isRow := by
    obtain ⟨message', isRow', same⟩ := first.rows message isRow
    obtain ⟨message'', isRow'', same'⟩ := second.rows message' isRow'
    exact ⟨message'', isRow'', same'.trans same⟩
  pending message'' isRow'' isPending := by
    rcases second.pending message'' isRow'' isPending with fresh | ⟨message', isRow', same, isPending'⟩
    · left
      intro message isRow sameId
      obtain ⟨message', isRow', same⟩ := first.rows message isRow
      exact fresh message' isRow' (same.trans sameId)
    · rw [← same]
      exact first.pending message' isRow' isPending'

theorem update {selected : CampaignMessage → Bool} {change : CampaignMessage → CampaignMessage}
    (keeps : ∀ message, (change message).id = message.id)
    (notPending : ∀ message, selected message = true → (change message).status ≠ .PENDING) :
    MessagesGrow messages (KeyedRows.update selected change messages) where
  unique unique := by
    rw [KeyedRows.map_update CampaignMessage.id selected keeps]
    exact unique
  rows message isRow := by
    refine ⟨_, List.mem_map_of_mem isRow, ?_⟩
    split
    · exact keeps message
    · rfl
  pending message' isRow' isPending := by
    obtain ⟨message, isRow, rfl⟩ := List.mem_map.1 isRow'
    right
    split at isPending
    next isSelected => exact absurd isPending (notPending message isSelected)
    next notSelected =>
      refine ⟨message, isRow, ?_, isPending⟩
      rw [if_neg notSelected]

theorem append {message : CampaignMessage} (fresh : ∀ other ∈ messages, other.id ≠ message.id) :
    MessagesGrow messages (messages ++ [message]) where
  unique unique := KeyedRows.nodup_append unique fresh
  rows other isRow := ⟨other, List.mem_append_left _ isRow, rfl⟩
  pending other isRow isPending := by
    rcases List.mem_append.1 isRow with old | new
    · exact .inr ⟨other, old, rfl, isPending⟩
    · rw [List.mem_singleton.1 new]
      exact .inl fresh

end MessagesGrow

variable (messages : List CampaignMessage)

namespace MarketingData

variable {data : MarketingData} {job : JobId}

theorem createMessages_frame (data : MarketingData) : ∃ messages', data.createMessages messages =
      { data with tables := { data.tables with messages := messages' } } := by
  induction messages generalizing data with
  | nil => exact ⟨data.tables.messages, rfl⟩
  | cons message rest ih =>
    rw [createMessages, List.foldl_cons]
    split
    next => exact ih data
    next =>
      obtain ⟨messages', same⟩ := ih
        { data with tables := { data.tables with messages := data.tables.messages ++ [message] } }
      exact ⟨messages', same⟩

theorem createMessages_grow :
    MessagesGrow data.tables.messages (data.createMessages messages).tables.messages := by
  induction messages generalizing data with
  | nil => exact .refl _
  | cons message rest ih =>
    rw [createMessages, List.foldl_cons]
    split
    next => exact ih
    next absent =>
      have fresh : ∀ other ∈ data.tables.messages, other.id ≠ message.id := by
        intro other isOther same
        apply absent
        exact List.any_eq_true.2 ⟨other, isOther, by simp [same]⟩
      have first := MessagesGrow.append fresh
      let appended : MarketingData :=
        { data with tables := { data.tables with messages := data.tables.messages ++ [message] } }
      have rest : MessagesGrow appended.tables.messages
          (appended.createMessages rest).tables.messages :=
        ih
      exact first.trans rest

/-- The messages that providers were called for. -/
def called (data : MarketingData) : List Id :=
  data.calls.map ProviderCall.messageId

/-- A message is pending, held by one run, or called for, and never two of these. -/
structure SendsOnce (data : MarketingData) : Prop where
  unique : (data.tables.messages.map CampaignMessage.id).Nodup
  pending : ∀ message ∈ data.tables.messages, message.status = .PENDING →
    message.id ∉ data.called ∧ ∀ job, data.holding job ≠ some message.id
  held : ∀ job id, data.holding job = some id → id ∉ data.called ∧
    (∃ message ∈ data.tables.messages, message.id = id) ∧
    ∀ other, data.holding other = some id → other = job
  once : data.called.Nodup
  rows : ∀ id ∈ data.called, ∃ message ∈ data.tables.messages, message.id = id

namespace SendsOnce

variable {data' : MarketingData}

theorem grow (sendsOnce : data.SendsOnce)
    (grows : MessagesGrow data.tables.messages data'.tables.messages)
    (called : data'.called = data.called)
    (held : ∀ job id, data'.holding job = some id → data.holding job = some id) :
    data'.SendsOnce where
  unique := grows.unique sendsOnce.unique
  pending message isRow isPending := by
    rw [called]
    rcases grows.pending message isRow isPending with fresh | ⟨before, isBefore, same, wasPending⟩
    · refine ⟨fun isCalled => ?_, fun job isHeld => ?_⟩
      · obtain ⟨other, isOther, same⟩ := sendsOnce.rows _ isCalled
        exact fresh other isOther same
      · obtain ⟨-, ⟨other, isOther, same⟩, -⟩ := sendsOnce.held _ _ (held _ _ isHeld)
        exact fresh other isOther same
    · rw [← same]
      obtain ⟨notCalled, notHeld⟩ := sendsOnce.pending before isBefore wasPending
      exact ⟨notCalled, fun job isHeld => notHeld job (held job _ isHeld)⟩
  held job id isHeld := by
    obtain ⟨notCalled, ⟨message, isRow, rfl⟩, alone⟩ := sendsOnce.held job id (held _ _ isHeld)
    rw [called]
    exact ⟨notCalled, grows.rows message isRow, fun other isOther => alone other (held _ _ isOther)⟩
  once := by
    rw [called]
    exact sendsOnce.once
  rows id isCalled := by
    rw [called] at isCalled
    obtain ⟨message, isRow, rfl⟩ := sendsOnce.rows id isCalled
    exact grows.rows message isRow

/-- Nothing that matters changes. -/
theorem same (sendsOnce : data.SendsOnce) (messages : data'.tables.messages = data.tables.messages)
    (called : data'.called = data.called) (holding : data'.holding = data.holding) :
    data'.SendsOnce := by
  apply sendsOnce.grow _ called fun _ _ => holding ▸ id
  rw [messages]
  exact .refl _

theorem holding_of_hold {other : JobId} {id : Id}
    (isHeld : (data.hold job none).holding other = some id) : data.holding other = some id := by
  by_cases same : other = job
  · subst same
    simp [hold] at isHeld
  · simpa [hold, Function.update_of_ne same] using isHeld

theorem claim (sendsOnce : data.SendsOnce) {messageId : Id} {now : Instant}
    (isClaimable : data.isClaimable messageId = true) :
    ((data.updateMessages (fun message => message.id == messageId && message.status == .PENDING)
      fun message => { message with status := .SENDING, updatedAt := now }).hold job
        messageId).SendsOnce := by
  obtain ⟨claimed, isRow, isPending⟩ := List.any_eq_true.1 isClaimable
  rw [Bool.and_eq_true, beq_iff_eq, beq_iff_eq] at isPending
  obtain ⟨rfl, isPending⟩ := isPending
  obtain ⟨notCalled, notHeld⟩ := sendsOnce.pending claimed isRow isPending
  have grows : MessagesGrow data.tables.messages (KeyedRows.update
      (fun message => message.id == claimed.id && message.status == .PENDING)
      (fun message => { message with status := .SENDING, updatedAt := now })
      data.tables.messages) :=
    .update (fun _ => rfl) fun _ _ => nofun
  have others : ∀ {other : JobId} {id : Id}, other ≠ job →
      (data.hold job claimed.id).holding other = some id → data.holding other = some id :=
    fun isOther isHeld => by simpa [hold, Function.update_of_ne isOther] using isHeld
  have mine : ∀ {id : Id}, (data.hold job claimed.id).holding job = some id → id = claimed.id :=
    fun isHeld => by simpa [hold, eq_comm] using isHeld
  refine ⟨grows.unique sendsOnce.unique, fun message isMessage isPending' => ?_,
    fun other id isHeld => ?_, sendsOnce.once, fun id isCalled => ?_⟩
  · -- A message that is still pending is not the claimed one.
    have notClaimed : message.id ≠ claimed.id := by
      intro same
      obtain ⟨before, -, rfl⟩ := List.mem_map.1 isMessage
      split at isPending'
      next => cases isPending'
      next notSelected =>
        rw [if_neg notSelected] at same
        exact notSelected (by simp [same, isPending'])
    rcases grows.pending message isMessage isPending' with fresh | ⟨before, isBefore, same, pending⟩
    · obtain ⟨before, isBefore, rfl⟩ := List.mem_map.1 isMessage
      refine absurd ?_ (fresh before isBefore)
      split <;> rfl
    · rw [← same] at notClaimed ⊢
      obtain ⟨notCalled', notHeld'⟩ := sendsOnce.pending before isBefore pending
      refine ⟨notCalled', fun other isHeld => ?_⟩
      by_cases isOther : other = job
      · subst isOther
        exact notClaimed (mine isHeld)
      · exact notHeld' other (others isOther isHeld)
  · by_cases isOther : other = job
    · subst isOther
      cases mine isHeld
      refine ⟨notCalled, grows.rows claimed isRow, fun other' isHeld' => ?_⟩
      by_contra isOther'
      exact notHeld other' (others isOther' isHeld')
    · have before := others isOther isHeld
      obtain ⟨notCalled', ⟨message, isMessage, rfl⟩, alone⟩ := sendsOnce.held other id before
      refine ⟨notCalled', grows.rows message isMessage, fun other' isHeld' => ?_⟩
      by_cases isJob : other' = job
      · subst isJob
        exact absurd (mine isHeld' ▸ before) (notHeld other)
      · exact alone other' (others isJob isHeld')
  · obtain ⟨message, isMessage, rfl⟩ := sendsOnce.rows id isCalled
    exact grows.rows message isMessage

/-- Whoever holds a message may make it pending again. -/
theorem giveUp (sendsOnce : data.SendsOnce) {messageId : Id} {now : Instant}
    (mine : data.holding job = some messageId) {change : CampaignMessage → CampaignMessage}
    (keeps : ∀ message, (change message).id = message.id) :
    ((data.updateMessages (fun message => message.id == messageId && message.status == .SENDING)
      fun message => { change message with updatedAt := now }).hold job none).SendsOnce := by
  obtain ⟨notCalled, ⟨held, isRow, isHeld⟩, alone⟩ := sendsOnce.held job messageId mine
  have rows : ∀ {id : Id}, (∃ message ∈ data.tables.messages, message.id = id) →
      ∃ message ∈ KeyedRows.update
        (fun message => message.id == messageId && message.status == .SENDING)
        (fun message => { change message with updatedAt := now }) data.tables.messages,
        message.id = id := by
    rintro id ⟨message, isMessage, rfl⟩
    refine ⟨_, List.mem_map_of_mem isMessage, ?_⟩
    split
    · exact keeps message
    · rfl
  refine ⟨?_, fun message isMessage isPending => ?_, fun other id isHeld' => ?_, sendsOnce.once,
    fun id isCalled => rows (sendsOnce.rows id isCalled)⟩
  · change ((KeyedRows.update _ _ data.tables.messages).map CampaignMessage.id).Nodup
    rw [KeyedRows.map_update]
    · exact sendsOnce.unique
    · exact keeps
  · have given : (message.id ∉ data.called ∧ ∀ other, other ≠ job →
        data.holding other ≠ some message.id) := by
      obtain ⟨before, isBefore, rfl⟩ := List.mem_map.1 isMessage
      split
      next isSelected =>
        rw [Bool.and_eq_true, beq_iff_eq] at isSelected
        have same : (change before).id = messageId := (keeps before).trans isSelected.1
        rw [same]
        exact ⟨notCalled, fun other isOther isHeld' => isOther (alone other isHeld')⟩
      next notSelected =>
        rw [if_neg notSelected] at isPending
        obtain ⟨notCalled', notHeld⟩ := sendsOnce.pending before isBefore isPending
        exact ⟨notCalled', fun other _ => notHeld other⟩
    refine ⟨given.1, fun other isHeld' => ?_⟩
    by_cases isOther : other = job
    · subst isOther
      simp [hold] at isHeld'
    · exact given.2 other isOther (holding_of_hold isHeld')
  · obtain ⟨notCalled', isRow', alone'⟩ := sendsOnce.held other id (holding_of_hold isHeld')
    exact ⟨notCalled', rows isRow', fun other' isOther => alone' other' (holding_of_hold isOther)⟩

theorem callProvider (sendsOnce : data.SendsOnce) {call : ProviderCall}
    (mine : data.holding call.caller = some call.messageId) :
    (data.callProvider call).SendsOnce := by
  obtain ⟨notCalled, isRow, alone⟩ := sendsOnce.held _ _ mine
  have calledAfter : (data.callProvider call).called = data.called ++ [call.messageId] :=
    List.map_append
  have isNew : ∀ {id : Id}, id ≠ call.messageId →
      (id ∈ data.called ++ [call.messageId] ↔ id ∈ data.called) := by
    intro id differs
    simp [differs]
  refine ⟨sendsOnce.unique, fun message isMessage isPending => ?_, fun other id isHeld => ?_, ?_,
    fun id isCalled => ?_⟩
  · obtain ⟨notCalled', notHeld⟩ := sendsOnce.pending message isMessage isPending
    have differs : message.id ≠ call.messageId := fun same => notHeld call.caller (same ▸ mine)
    rw [calledAfter, isNew differs]
    exact ⟨notCalled', fun other isHeld => notHeld other (holding_of_hold isHeld)⟩
  · have before := holding_of_hold isHeld
    obtain ⟨notCalled', isRow', alone'⟩ := sendsOnce.held other id before
    have differs : id ≠ call.messageId := by
      rintro rfl
      cases alone other before
      have released : (data.callProvider call).holding call.caller = none := by
        simp [MarketingData.callProvider, unreserve, hold]
      cases released.symm.trans isHeld
    rw [calledAfter, isNew differs]
    exact ⟨notCalled', isRow', fun other' isOther => alone' other' (holding_of_hold isOther)⟩
  · rw [calledAfter, List.nodup_append]
    refine ⟨sendsOnce.once, List.nodup_singleton _, ?_⟩
    rintro id isOld id' isLast rfl
    rw [List.mem_singleton.1 isLast] at isOld
    exact notCalled isOld
  · rw [calledAfter, List.mem_append, List.mem_singleton] at isCalled
    rcases isCalled with earlier | rfl
    · exact sendsOnce.rows id earlier
    · exact isRow

theorem write {prepared : Id → MarketingData → Prop} {now : Instant}
    (sendsOnce : data.SendsOnce) (written : WorkerWrite prepared job data now data') :
    data'.SendsOnce := by
  cases written with
  | campaigns => exact sendsOnce.same rfl rfl rfl
  | complete => exact sendsOnce.same rfl rfl rfl
  | claim isClaimable => exact sendsOnce.claim isClaimable
  | stale =>
    refine sendsOnce.grow ?_ rfl fun _ _ => id
    exact .update (fun _ => rfl) fun _ _ => nofun
  | @mark messageId status change writes _ mine =>
    by_cases isPending : status = .PENDING
    · exact sendsOnce.giveUp (mine isPending) writes.id
    · refine sendsOnce.grow ?_ rfl fun _ _ => holding_of_hold
      exact .update writes.id fun message _ same =>
        isPending ((writes.status message).symm.trans same)
  | take => exact sendsOnce.same rfl rfl rfl
  | create => exact sendsOnce.same rfl rfl rfl
  | call isCaller _ _ holds _ =>
    subst isCaller
    exact sendsOnce.callProvider holds
  | @release messageId slot _ =>
    have called : (data.releaseSlot job messageId slot).called = data.called := by
      change (data.calls.map _).map ProviderCall.messageId = data.calls.map ProviderCall.messageId
      rw [List.map_map]
      apply List.map_congr_left
      intro call _
      simp only [Function.comp_apply]
      split <;> rfl
    exact sendsOnce.same rfl called rfl

end SendsOnce

/-- The slots of a window that are reserved, or were used and not given back. -/
def charged (data : MarketingData) (slot : WindowKey) : Nat :=
  data.calls.countP (fun call => call.slot == slot && !call.released) +
    data.reserved.countP fun reservation => reservation.2 == slot

theorem charged_reserve (slot taken : WindowKey) :
    (data.reserve job taken).charged slot ≤ data.charged slot + if taken = slot then 1 else 0 := by
  have fewer : (data.reserved.filter fun reservation => reservation.1 ≠ job).countP
      (fun reservation => reservation.2 == slot) ≤
        data.reserved.countP fun reservation => reservation.2 == slot :=
    List.filter_sublist.countP_le
  simp only [charged, reserve, List.countP_append, List.countP_singleton, beq_iff_eq]
  omega

variable {slot : WindowKey}

theorem reserved_of_slot (isMine : slot ∈ (data.traces job).slots) :
    (job, slot) ∈ data.reserved := by
  obtain ⟨⟨caller, reserved⟩, isReserved, rfl⟩ := List.mem_map.1 isMine
  rw [List.mem_filter, decide_eq_true_eq] at isReserved
  obtain ⟨isReserved, rfl⟩ := isReserved
  exact isReserved

/-- A run that lets go of a slot it has reserved. -/
theorem countP_unreserve (isMine : (job, slot) ∈ data.reserved) :
    (data.unreserve job).reserved.countP (fun reservation => reservation.2 == slot) + 1 ≤
      data.reserved.countP fun reservation => reservation.2 == slot := by
  rw [List.countP_eq_countP_filter_add data.reserved _ fun reservation => reservation.1 ≠ job]
  have mine : 0 < (data.reserved.filter fun reservation =>
      !(decide (reservation.1 ≠ job))).countP fun reservation => reservation.2 == slot :=
    List.countP_pos_iff.2 ⟨(job, slot), List.mem_filter.2 ⟨isMine, by simp⟩, by simp⟩
  exact Nat.add_le_add_left mine _

theorem countP_unreserve_le (slot : WindowKey) :
    (data.unreserve job).reserved.countP (fun reservation => reservation.2 == slot) ≤
      data.reserved.countP fun reservation => reservation.2 == slot :=
  List.filter_sublist.countP_le

theorem charged_callProvider {call : ProviderCall} (isMine : (call.caller, call.slot) ∈ data.reserved)
    (slot : WindowKey) : (data.callProvider call).charged slot ≤ data.charged slot := by
  have calls : (data.callProvider call).calls = data.calls ++ [call] := rfl
  have reserved : (data.callProvider call).reserved = (data.unreserve call.caller).reserved := rfl
  rw [charged, charged, calls, reserved, List.countP_append, List.countP_singleton]
  by_cases same : call.slot = slot
  · subst same
    have used := countP_unreserve isMine
    split <;> omega
  · have others := @countP_unreserve_le data call.caller slot
    simp only [beq_false_of_ne same, Bool.false_and, Bool.false_eq_true, if_false]
    omega

def giveBack (job : JobId) (messageId : Id) (call : ProviderCall) : ProviderCall :=
  if call.caller = job ∧ call.messageId = messageId then { call with released := true } else call

theorem countP_giveBack_le (messageId : Id) (slot : WindowKey) (calls : List ProviderCall) :
    (calls.map (giveBack job messageId)).countP (fun call => call.slot == slot && !call.released) ≤
      calls.countP fun call => call.slot == slot && !call.released := by
  rw [List.countP_map]
  apply List.countP_mono_left
  intro call _ counted
  simp only [Function.comp_apply, giveBack] at counted
  split at counted
  · simp at counted
  · exact counted

theorem countP_giveBack {messageId : Id} {calls : List ProviderCall} {call : ProviderCall}
    (isCall : call ∈ calls) (isCaller : call.caller = job)
    (isMessage : call.messageId = messageId) (isSlot : call.slot = slot)
    (isUsed : call.released = false) :
    (calls.map (giveBack job messageId)).countP (fun call => call.slot == slot && !call.released) +
      1 ≤ calls.countP fun call => call.slot == slot && !call.released := by
  induction calls with
  | nil => cases isCall
  | cons first rest ih =>
    rw [List.map_cons, List.countP_cons, List.countP_cons]
    rcases List.mem_cons.1 isCall with rfl | isLater
    · have given : (giveBack job messageId call).released = true := by
        rw [giveBack, if_pos ⟨isCaller, isMessage⟩]
      have others := @countP_giveBack_le job messageId slot rest
      simp only [given, isSlot, isUsed, beq_self_eq_true, Bool.not_true, Bool.and_false,
        Bool.not_false, Bool.and_self, Bool.false_eq_true, if_false, if_true]
      omega
    · have later := ih isLater
      have head := @countP_giveBack_le job messageId slot [first]
      simp only [List.map_cons, List.map_nil, List.countP_singleton] at head
      omega

/-- What is given back was counted. -/
theorem charged_releaseSlot {messageId : Id}
    (isCharged : (data.traces job).Charged messageId slot) :
    (data.releaseSlot job messageId slot).charged slot + 1 ≤ data.charged slot := by
  change (data.calls.map (giveBack job messageId)).countP _ +
    (data.unreserve job).reserved.countP _ + 1 ≤ data.calls.countP _ + data.reserved.countP _
  rcases isCharged with ⟨slots, -⟩ | ⟨call, isCall, isMessage, isSlot, isUsed⟩
  · have isMine : (job, slot) ∈ data.reserved :=
      reserved_of_slot (slots ▸ List.mem_singleton_self slot)
    have calls := @countP_giveBack_le job messageId slot data.calls
    have reserved := countP_unreserve isMine
    omega
  · rw [traces, List.mem_filter, decide_eq_true_eq] at isCall
    have calls := countP_giveBack isCall.1 isCall.2 isMessage isSlot isUsed
    have reserved := @countP_unreserve_le data job slot
    omega

theorem charged_releaseSlot_le (messageId : Id) (given slot : WindowKey) :
    (data.releaseSlot job messageId given).charged slot ≤ data.charged slot :=
  Nat.add_le_add (countP_giveBack_le messageId slot data.calls) (countP_unreserve_le slot)

/-- Every slot is counted in its window. -/
structure WithinCap (data : MarketingData) : Prop where
  counted : ∀ window ∈ data.tables.windows, data.charged window.key ≤ window.sendCount
  windowed : ∀ slot, (∀ window ∈ data.tables.windows, window.key ≠ slot) → data.charged slot = 0
  capped : ∀ slot, data.charged slot ≤ MAX_SENDS_PER_FREQUENCY_WINDOW

namespace WithinCap

variable {data' : MarketingData}

theorem fewer (within : data.WithinCap) (windows : data'.tables.windows = data.tables.windows)
    (charged : ∀ slot, data'.charged slot ≤ data.charged slot) : data'.WithinCap where
  counted window isWindow := by
    rw [windows] at isWindow
    exact (charged _).trans (within.counted window isWindow)
  windowed slot absent := by
    rw [windows] at absent
    exact Nat.le_zero.1 ((charged slot).trans (within.windowed slot absent).le)
  capped slot := (charged slot).trans (within.capped slot)

variable {slot : WindowKey}

theorem takeSlot (within : data.WithinCap) (isFree : data.hasFreeSlot slot = true) :
    (data.takeSlot job slot).WithinCap := by
  obtain ⟨free, isWindow, hasRoom⟩ := List.any_eq_true.1 isFree
  rw [Bool.and_eq_true, beq_iff_eq, decide_eq_true_eq] at hasRoom
  obtain ⟨rfl, hasRoom⟩ := hasRoom
  have after : ∀ slot, (data.takeSlot job free.key).charged slot ≤
      data.charged slot + if free.key = slot then 1 else 0 :=
    fun slot => charged_reserve slot free.key
  have capped : ∀ slot, (data.takeSlot job free.key).charged slot ≤
      MAX_SENDS_PER_FREQUENCY_WINDOW := by
    intro slot
    have more := after slot
    have before := within.capped slot
    by_cases same : free.key = slot
    · subst same
      have room := within.counted free isWindow
      rw [if_pos rfl] at more
      omega
    · rw [if_neg same] at more
      omega
  refine ⟨fun window isAfter => ?_, fun slot absent => ?_, capped⟩
  · obtain ⟨before, isBefore, rfl⟩ := List.mem_map.1 isAfter
    have counted := within.counted before isBefore
    split
    next isSelected =>
      rw [Bool.and_eq_true, beq_iff_eq, decide_eq_true_eq] at isSelected
      have more := after before.key
      rw [if_pos isSelected.1.symm] at more
      exact more.trans (Nat.add_le_add_right counted 1)
    next notSelected =>
      have more := after before.key
      by_cases same : free.key = before.key
      · -- A window of the same key that has no room is at the limit.
        have full : MAX_SENDS_PER_FREQUENCY_WINDOW ≤ before.sendCount := by
          by_contra hasRoom'
          exact notSelected (by simp [same, not_le.1 hasRoom'])
        exact (capped before.key).trans full
      · rw [if_neg same] at more
        exact more.trans counted
  · have absentBefore : ∀ window ∈ data.tables.windows, window.key ≠ slot := by
      intro window isWindow' same
      refine absent _ (List.mem_map_of_mem isWindow') ?_
      split <;> exact same
    have more := after slot
    rw [if_neg (absentBefore free isWindow), within.windowed slot absentBefore] at more
    exact Nat.le_zero.1 more

theorem createWindow (within : data.WithinCap) (absent : data.hasWindow slot = false) :
    (data.createWindow job slot).WithinCap := by
  have none_ : ∀ window ∈ data.tables.windows, window.key ≠ slot := by
    simpa [hasWindow] using absent
  have unused := within.windowed slot none_
  have after : ∀ other, (data.createWindow job slot).charged other ≤
      data.charged other + if slot = other then 1 else 0 :=
    fun other => charged_reserve other slot
  refine ⟨fun window isWindow => ?_, fun other absent' => ?_, fun other => ?_⟩
  · rcases List.mem_append.1 isWindow with old | new
    · have more := after window.key
      rw [if_neg (none_ window old).symm] at more
      exact more.trans (within.counted window old)
    · rw [List.mem_singleton.1 new]
      have more := after slot
      rwa [if_pos rfl, unused] at more
  · have more := after other
    have differs : slot ≠ other := absent' _ (List.mem_append_right _ (List.mem_singleton_self _))
    rw [if_neg differs, within.windowed other fun window isWindow =>
      absent' window (List.mem_append_left _ isWindow)] at more
    exact Nat.le_zero.1 more
  · have more := after other
    have before := within.capped other
    by_cases same : slot = other
    · subst same
      rw [if_pos rfl, unused] at more
      exact more.trans (by decide)
    · rw [if_neg same] at more
      exact more.trans before

theorem releaseSlot (within : data.WithinCap) {messageId : Id}
    (isCharged : (data.traces job).Charged messageId slot) :
    (data.releaseSlot job messageId slot).WithinCap := by
  have less := charged_releaseSlot isCharged
  have fewer : ∀ other, (data.releaseSlot job messageId slot).charged other ≤ data.charged other :=
    charged_releaseSlot_le messageId slot
  refine ⟨fun window isAfter => ?_, fun other absent => ?_,
    fun other => (fewer other).trans (within.capped other)⟩
  · obtain ⟨before, isBefore, rfl⟩ := List.mem_map.1 isAfter
    have counted := within.counted before isBefore
    split
    next isSelected =>
      rw [Bool.and_eq_true, beq_iff_eq, decide_eq_true_eq] at isSelected
      obtain ⟨rfl, -⟩ := isSelected
      exact Nat.le_sub_of_add_le (less.trans counted)
    next => exact (fewer before.key).trans counted
  · have absentBefore : ∀ window ∈ data.tables.windows, window.key ≠ other := by
      intro window isWindow same
      refine absent _ (List.mem_map_of_mem isWindow) ?_
      split <;> exact same
    exact Nat.le_zero.1 ((fewer other).trans (within.windowed other absentBefore).le)

theorem write {prepared : Id → MarketingData → Prop} {now : Instant}
    (within : data.WithinCap) (written : WorkerWrite prepared job data now data') :
    data'.WithinCap := by
  cases written with
  | campaigns => exact within.fewer rfl fun _ => le_rfl
  | complete => exact within.fewer rfl fun _ => le_rfl
  | claim => exact within.fewer rfl fun _ => le_rfl
  | stale => exact within.fewer rfl fun _ => le_rfl
  | mark => exact within.fewer rfl fun _ => le_rfl
  | take isFree => exact within.takeSlot isFree
  | create absent => exact within.createWindow absent
  | call isCaller _ _ _ isMine =>
    subst isCaller
    exact within.fewer rfl fun slot => charged_callProvider (reserved_of_slot isMine) slot
  | release isCharged => exact within.releaseSlot isCharged

end WithinCap

/-- The messages that have reached a customer over a channel on a UTC day: the calls made then, but
for those whose slot was given back. -/
def sentOn (data : MarketingData) (restaurantId customerId : Id) (channel : MarketingChannel)
    (day : Instant) : Nat :=
  data.calls.countP fun call =>
    call.slot.restaurantId == restaurantId && call.slot.customerId == customerId &&
      call.slot.channel == channel && dayStart call.calledAt == day && !call.released

end MarketingData

/-- The call is made on the day on which its run began. -/
def ProviderCall.onDay (call : ProviderCall) : Prop :=
  dayStart call.calledAt = call.slot.windowStart

instance (call : ProviderCall) : Decidable call.onDay :=
  inferInstanceAs (Decidable (_ = _))

/-! ## Workers amid everything else -/

/-- Everything but the workers' own traces and the windows may change: campaigns are paused,
resumed and cancelled, providers report, profiles and permissions change; no message goes, and only
new ones become pending. -/
structure Elsewhere (store store' : MarketingStore) : Prop where
  later : store.now ≤ store'.now
  calls : store'.data.calls = store.data.calls
  holding : store'.data.holding = store.data.holding
  reserved : store'.data.reserved = store.data.reserved
  windows : store'.data.tables.windows = store.data.tables.windows
  messages : MessagesGrow store.data.tables.messages store'.data.tables.messages

theorem Elsewhere.traces {store store' : MarketingStore} (moved : Elsewhere store store')
    (job : JobId) : store'.data.traces job = store.data.traces job := by
  simp only [MarketingData.traces, moved.calls, moved.holding, moved.reserved]

/-- Messages are sent once and within the limit, and workers leave the traces of each other. -/
def sendRules : Discipline JobId MarketingStore where
  inv store := store.data.SendsOnce ∧ store.data.WithinCap
  guar job store store' := ∀ other, other ≠ job → store'.data.traces other = store.data.traces other
  tick := Elsewhere

theorem createMessages_sendRules {job : JobId} {store : MarketingStore}
    (messages : List CampaignMessage) (inv : sendRules.inv store) :
    sendRules.inv { store with data := store.data.createMessages messages } ∧
      sendRules.guar job store { store with data := store.data.createMessages messages } := by
  have grows : MessagesGrow store.data.tables.messages
      (store.data.createMessages messages).tables.messages :=
    MarketingData.createMessages_grow messages
  obtain ⟨messages', same⟩ := MarketingData.createMessages_frame messages store.data
  rw [same] at grows ⊢
  exact ⟨⟨inv.1.grow grows rfl fun _ _ => id, inv.2.fewer rfl fun _ => le_rfl⟩, fun _ _ => rfl⟩

section

variable [UnicodeLetters] [WorkerEnv] [Sha256]

def amidSystem (jobs : JobId → MarketingJob) :
    System JobId MarketingStore (Except JobError JobCounts) where
  code job := processMarketingCampaignJob job (jobs job)
  crash := Store.release
  tick := Elsewhere

omit [UnicodeLetters] [Sha256] in
theorem hosts_sendRules : Hosts sendRules fun _ _ => True where
  quiet _ _ _ _ := rfl
  writes inv written _ :=
    ⟨⟨inv.1.write written, inv.2.write written⟩, fun _ isOther => written.traces_other isOther⟩
  traces rely := by
    rcases rely.2.2 with moved | ⟨other, isOther, guar⟩
    · exact moved.traces _
    · exact guar _ isOther.symm
  unclaimed inv isClaimable call isCall same := by
    obtain ⟨message, isRow, isPending⟩ := List.any_eq_true.1 isClaimable
    rw [Bool.and_eq_true, beq_iff_eq, beq_iff_eq] at isPending
    obtain ⟨rfl, isPending⟩ := isPending
    exact (inv.1.pending message isRow isPending).1 (same ▸ List.mem_map_of_mem isCall)
  prepares job campaign := by
    refine Discipline.Triple.bind (?_ : sendRules.Triple job _ _ fun _ _ => True) fun audience => ?_
    · exact Discipline.Triple.read (Discipline.stable_const True) (fun _ _ _ => rfl)
        (fun _ => Discipline.stable_const True) fun _ _ _ => trivial
    · split
      · exact Discipline.Triple.pure (Discipline.stable_const True) fun _ _ _ => trivial
      · apply Discipline.Triple.update (Discipline.stable_const True)
          (fun _ => Discipline.stable_const True)
        · intro store inv _
          rw [release_eq]
          exact createMessages_sendRules _ inv
        · exact fun _ _ _ => trivial
  stays _ _ := Discipline.stable_const True
  keeps _ _ := trivial

theorem governs_sendRules (jobs : JobId → MarketingJob) :
    sendRules.Governs (amidSystem jobs) fun _ _ _ => True where
  code job store inv := minds_job hosts_sendRules store inv trivial
  crash job store inv := by
    exact ⟨inv, fun _ _ => rfl⟩
  tick store store' inv moved := by
    refine ⟨⟨?_, ?_⟩, moved⟩
    · apply inv.1.grow moved.messages
      · rw [MarketingData.called, moved.calls]
        rfl
      · exact fun _ _ => moved.holding ▸ id
    · apply inv.2.fewer moved.windows
      intro slot
      rw [MarketingData.charged, moved.calls, moved.reserved]
      exact le_rfl

/-- No run is under way, and messages have their own identifiers. -/
structure MarketingData.Unstarted (data : MarketingData) : Prop where
  calls : data.calls = []
  holding : ∀ job, data.holding job = none
  reserved : data.reserved = []
  unique : (data.tables.messages.map CampaignMessage.id).Nodup

omit [UnicodeLetters] [WorkerEnv] [Sha256] in
theorem MarketingData.Unstarted.inv {data : MarketingData} (unstarted : data.Unstarted) :
    data.SendsOnce ∧ data.WithinCap := by
  have called : data.called = [] := by
    rw [called, unstarted.calls]
    rfl
  have uncharged : ∀ slot, data.charged slot = 0 := by
    intro slot
    simp [charged, unstarted.calls, unstarted.reserved]
  constructor
  · refine ⟨unstarted.unique, fun message _ _ => ?_, fun job id isHeld => ?_, ?_, ?_⟩
    · rw [called]
      exact ⟨List.not_mem_nil, fun job => by simp [unstarted.holding]⟩
    · cases (unstarted.holding job).symm.trans isHeld
    · rw [called]
      exact List.nodup_nil
    · rw [called]
      exact fun _ impossible => nomatch impossible
  · refine ⟨fun window _ => ?_, fun slot _ => uncharged slot, fun slot => ?_⟩
    · rw [uncharged]
      exact Nat.zero_le _
    · rw [uncharged]
      exact Nat.zero_le _

end

section

/-- Text messages are sent to whoever has opted in. -/
@[reducible] def WorkerEnv.sending : WorkerEnv where
  MARKETING_OPTOUT_HASH_SECRET := some "0123456789abcdef0123456789abcdef"
  hmac key text := key ++ text
  MARKETING_SENDS_ENABLED := true
  MARKETING_EMAIL_FROM := none
  MARKETING_WHATSAPP_ENABLED := false
  MARKETING_RECIPIENT_ALLOWLIST := none
  MARKETING_EMAIL_DAILY_BUDGET := 0
  isTargetServiceFull _ _ _ _ := false
  uuid := id

attribute [local instance] UnicodeLetters.ascii Sha256.plain WorkerEnv.sending

def runningCampaign (id : Id) : MarketingCampaign where
  id := id
  restaurantId := "restaurant"
  channel := .SMS
  status := .SENDING
  scheduledAt := none
  audienceCount := 1
  automated := false
  targetServiceStart := none
  targetServiceEnd := none
  acceptedCount := 0
  deliveredCount := 0
  failedCount := 0
  startedAt := none
  completedAt := none
  lastErrorCode := none

def pendingMessage (id : Id) : CampaignMessage where
  id := id
  campaignId := id
  audienceMemberId := id
  customerId := "customer"
  channel := .SMS
  status := .PENDING
  provider := none
  providerMessageId := none
  errorCode := none
  acceptedAt := none
  sentAt := none
  deliveredAt := none
  updatedAt := 0

def campaignIds : List Id := ["c0", "c1", "c2", "c3"]

def fourCampaigns : MarketingData where
  tables :=
    { customers := [⟨"customer", "restaurant", "+33600000001", none, false, none⟩]
      permissions := [⟨"restaurant", "customer", .SMS, .OPTED_IN, "FORM", none, none, none, none⟩]
      permissionEvents := []
      optOuts := []
      suppressions := []
      customerConsents := []
      campaigns := campaignIds.map runningCampaign
      audience := []
      messages := campaignIds.map pendingMessage
      windows := [] }
  calls := []
  holding _ := none
  reserved := []

def campaignJob (job : JobId) : MarketingJob where
  campaignId := campaignIds.getD job ""
  restaurantId := "restaurant"
  prepare _ := none
  provider _ := .success none
  batches := 1

def beforeMidnight : MarketingStore where
  data := fourCampaigns
  now := msPerDay - 60000
  owner lock := nomatch lock

/-- Three runs begin before midnight, and send after it; a fourth one begins then. -/
def acrossMidnight : List (List JobId) :=
  [[0, 0, 1, 1, 2, 2],
    List.replicate 20 0 ++ List.replicate 20 1 ++ List.replicate 20 2 ++ List.replicate 22 3]

theorem minute_passes (store : MarketingStore) :
    Elsewhere store { store with now := store.now + 60000 } where
  later := le_add_of_nonneg_right (by decide)
  calls := rfl
  holding := rfl
  reserved := rfl
  windows := rfl
  messages := .refl _

theorem fourCampaigns_unstarted : beforeMidnight.data.Unstarted where
  calls := rfl
  holding _ := rfl
  reserved := rfl
  unique := by decide

end

end Sokar.Marketing
