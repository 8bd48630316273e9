import Sokar.Marketing.CampaignWorker

/-!
# What the statements of a worker write

Every write of a run is one of a few kinds, under what the run knows of its own traces: the
message it holds, the slots it has reserved and the calls it has made, which nobody else touches.
A discipline that admits these writes governs the workers, whatever else goes on.
-/

namespace Sokar.Marketing

open Process Transaction

/-! ## The traces of a run -/

/-- The message a run holds, the slots it has reserved, and its calls. -/
structure Traces where
  holding : Option Id
  slots : List WindowKey
  calls : List ProviderCall

namespace MarketingData

variable (data : MarketingData) {job : JobId}

def traces (job : JobId) : Traces where
  holding := data.holding job
  slots := (data.reserved.filter fun reservation => reservation.1 = job).map Prod.snd
  calls := data.calls.filter fun call => call.caller = job

theorem traces_reserve (slot : WindowKey) :
    (data.reserve job slot).traces job = { data.traces job with slots := [slot] } := by
  simp [traces, reserve, List.filter_filter]

theorem traces_hold (messageId : Option Id) :
    (data.hold job messageId).traces job = { data.traces job with holding := messageId } := by
  simp [traces, hold]

theorem traces_callProvider (call : ProviderCall) (mine : call.caller = job) :
    (data.callProvider call).traces job =
      { holding := none, slots := [], calls := (data.traces job).calls ++ [call] } := by
  simp [traces, callProvider, unreserve, hold, mine, List.filter_filter, List.filter_append]

variable {data} {other : JobId} (isOther : other ≠ job)
include isOther

theorem traces_hold_other (messageId : Option Id) :
    (data.hold job messageId).traces other = data.traces other := by
  simp [traces, hold, Function.update_of_ne isOther]

theorem traces_unreserve_other : (data.unreserve job).traces other = data.traces other := by
  have kept : (data.unreserve job).reserved.filter (fun reservation => reservation.1 = other) =
      data.reserved.filter fun reservation => reservation.1 = other := by
    rw [unreserve, List.filter_filter]
    apply List.filter_congr
    intro reservation _
    by_cases same : reservation.1 = other <;> simp [same, isOther]
  rw [traces, kept]
  rfl

theorem traces_reserve_other (slot : WindowKey) :
    (data.reserve job slot).traces other = data.traces other := by
  have unreserved : (data.unreserve job).traces other = data.traces other :=
    traces_unreserve_other isOther
  simp only [traces, unreserve, reserve, List.filter_append, Traces.mk.injEq] at unreserved ⊢
  simpa [isOther.symm] using unreserved

theorem traces_releaseSlot_other (messageId : Id) (slot : WindowKey) :
    (data.releaseSlot job messageId slot).traces other = data.traces other := by
  rw [releaseSlot, traces_unreserve_other isOther]
  simp only [traces, updateWindows, Traces.mk.injEq, true_and]
  rw [List.filter_map]
  have sameCaller : ((fun call : ProviderCall => decide (call.caller = other)) ∘ fun call =>
      if call.caller = job ∧ call.messageId = messageId then { call with released := true }
      else call) = fun call => decide (call.caller = other) := by
    funext call
    simp only [Function.comp_apply]
    split <;> rfl
  rw [sameCaller]
  refine (List.map_congr_left fun call isCall => ?_).trans (List.map_id _)
  have isCaller := (List.mem_filter.1 isCall).2
  rw [decide_eq_true_eq] at isCaller
  rw [isCaller, if_neg fun both => isOther both.1, id]

end MarketingData

/-- The slot was reserved for the message: it still is, or it was used to call a provider. -/
def Traces.Charged (traces : Traces) (messageId : Id) (slot : WindowKey) : Prop :=
  traces.slots = [slot] ∧ (∀ call ∈ traces.calls, call.messageId ≠ messageId) ∨
    ∃ call ∈ traces.calls, call.messageId = messageId ∧ call.slot = slot ∧ call.released = false

def MarketingCampaign.isClosed (campaign : MarketingCampaign) : Bool :=
  campaign.status == .CANCELLED || campaign.status == .SENT

/-- A write to a campaign: a closed one keeps its status, and none becomes sent. -/
structure CampaignWrite (selected : MarketingCampaign → Bool)
    (change : MarketingCampaign → MarketingCampaign) : Prop where
  id : ∀ campaign, (change campaign).id = campaign.id
  status : ∀ campaign, selected campaign = true → (change campaign).status ≠ campaign.status →
    campaign.isClosed = false ∧ (change campaign).status ≠ .SENT

structure MessageWrite (status : MarketingMessageStatus)
    (change : CampaignMessage → CampaignMessage) : Prop where
  id : ∀ message, (change message).id = message.id
  campaignId : ∀ message, (change message).campaignId = message.campaignId
  audienceMemberId : ∀ message, (change message).audienceMemberId = message.audienceMemberId
  customerId : ∀ message, (change message).customerId = message.customerId
  status : ∀ message, (change message).status = status

variable {prepared : Id → MarketingData → Prop}

/-- What a statement of a run may write. -/
inductive WorkerWrite (prepared : Id → MarketingData → Prop) (job : JobId) (data : MarketingData)
    (now : Instant) : MarketingData → Prop where
  | campaigns {selected : MarketingCampaign → Bool}
      {change : MarketingCampaign → MarketingCampaign} : CampaignWrite selected change →
        WorkerWrite prepared job data now (data.updateCampaigns selected change)
  /-- The end of a campaign, whose messages were prepared. -/
  | complete {campaignId : Id} {status : MarketingCampaignStatus} (completedAt : Instant) :
      status = .SENT ∨ status = .FAILED → prepared campaignId data →
        WorkerWrite prepared job data now (data.updateCampaigns (fun row => row.id == campaignId)
          fun row => { row with status, completedAt := some completedAt })
  | claim {messageId : Id} : data.isClaimable messageId = true →
      WorkerWrite prepared job data now
        ((data.updateMessages (fun message => message.id == messageId && message.status == .PENDING)
          fun message => { message with status := .SENDING, updatedAt := now }).hold job messageId)
  | stale (campaignId : Id) (since : Instant) :
      WorkerWrite prepared job data now
        (data.updateMessages (MarketingData.isStale campaignId since) fun message =>
          { message.closed .FAILED (some "STALE_CLAIM_MANUAL_REVIEW") with updatedAt := now })
  /-- A message becomes pending again only for whoever holds it. -/
  | mark {messageId : Id} {status : MarketingMessageStatus}
      {change : CampaignMessage → CampaignMessage} : MessageWrite status change →
        status ≠ .SENDING → (status = .PENDING → (data.traces job).holding = some messageId) →
          WorkerWrite prepared job data now
            ((data.updateMessages
              (fun message => message.id == messageId && message.status == .SENDING)
              fun message => { change message with updatedAt := now }).hold job none)
  | take {slot : WindowKey} : data.hasFreeSlot slot = true →
      WorkerWrite prepared job data now (data.takeSlot job slot)
  | create {slot : WindowKey} : data.hasWindow slot = false →
      WorkerWrite prepared job data now (data.createWindow job slot)
  | call {call : ProviderCall} : call.caller = job → call.calledAt = now → call.released = false →
      (data.traces job).holding = some call.messageId → call.slot ∈ (data.traces job).slots →
        WorkerWrite prepared job data now (data.callProvider call)
  | release {messageId : Id} {slot : WindowKey} : (data.traces job).Charged messageId slot →
      WorkerWrite prepared job data now (data.releaseSlot job messageId slot)

theorem WorkerWrite.traces_other {job other : JobId} {data data' : MarketingData} {now : Instant}
    (written : WorkerWrite prepared job data now data') (isOther : other ≠ job) :
    data'.traces other = data.traces other := by
  cases written with
  | campaigns => rfl
  | complete => rfl
  | claim => exact MarketingData.traces_hold_other isOther _
  | stale => rfl
  | mark => exact MarketingData.traces_hold_other isOther _
  | take => exact MarketingData.traces_reserve_other isOther _
  | create => exact MarketingData.traces_reserve_other isOther _
  | call isCaller =>
    subst isCaller
    rw [MarketingData.callProvider, MarketingData.traces_unreserve_other isOther,
      MarketingData.traces_hold_other isOther]
    simp [MarketingData.traces, List.filter_append, isOther.symm]
  | release => exact MarketingData.traces_releaseSlot_other isOther _ _

/-- A discipline that admits the writes of workers, and leaves each its own traces. -/
structure Hosts [WorkerEnv] (rules : Discipline JobId MarketingStore)
    (prepared : Id → MarketingData → Prop) : Prop where
  quiet : ∀ job store, rules.guar job store store
  writes : ∀ {job store data'}, rules.inv store →
    WorkerWrite prepared job store.data store.now data' →
      rules.meets job store { store with data := data' } →
        rules.inv { store with data := data' } ∧ rules.guar job store { store with data := data' }
  traces : ∀ {job store store'}, rules.Rely job store store' →
    store'.data.traces job = store.data.traces job
  unclaimed : ∀ {store messageId}, rules.inv store → store.data.isClaimable messageId = true →
    ∀ call ∈ store.data.calls, call.messageId ≠ messageId
  prepares : ∀ job campaign, rules.Triple job (fun _ => True) (ensureCampaignMessages job campaign)
    fun _ store => prepared campaign.id store.data
  stays : ∀ job campaignId, rules.Stable job fun store => prepared campaignId store.data
  keeps : ∀ {job campaignId store store'}, rules.guar job store store' →
    prepared campaignId store.data → prepared campaignId store'.data

theorem release_eq (job : JobId) (store : MarketingStore) : store.release job = store := by
  have sameOwner : (store.release job).owner = store.owner := funext fun lock => nomatch lock
  cases store
  simp only [Store.release] at sameOwner ⊢
  rw [sameOwner]

section

variable [WorkerEnv] {rules : Discipline JobId MarketingStore} {job : JobId} {α β : Type}
variable {fact : Traces → Prop} {result : α → Traces → Prop} {final : β → Traces → Prop}

/-- Started with what a run knows of its traces, the program keeps to the discipline and ends with
its result. -/
def Minds (rules : Discipline JobId MarketingStore) (job : JobId) (fact : Traces → Prop)
    (prog : MarketingProg α) (result : α → Traces → Prop) : Prop :=
  rules.Triple job (fun store => fact (store.data.traces job)) prog
    fun value store => result value (store.data.traces job)

namespace Minds

section

omit [WorkerEnv]

theorem bind {first : MarketingProg α} {rest : α → MarketingProg β}
    (minds : Minds rules job fact first result)
    (mindsRest : ∀ value, Minds rules job (result value) (rest value) final) :
    Minds rules job fact (first >>= rest) final :=
  Discipline.Triple.bind minds mindsRest

/-- A program that keeps what is known. -/
theorem next {first : MarketingProg α} {rest : α → MarketingProg β}
    (minds : Minds rules job fact first fun _ => fact)
    (mindsRest : ∀ value, Minds rules job fact (rest value) final) :
    Minds rules job fact (first >>= rest) final :=
  minds.bind mindsRest

theorem imp {stronger : Traces → Prop} {weaker : α → Traces → Prop} {prog : MarketingProg α}
    (minds : Minds rules job fact prog result) (implies : ∀ traces, stronger traces → fact traces)
    (implied : ∀ value traces, result value traces → weaker value traces) :
    Minds rules job stronger prog weaker :=
  Discipline.Triple.weaken minds (fun _ _ => implies _) fun value _ => implied value _

end

variable (hosts : Hosts rules prepared)
include hosts

theorem stable (fact : Traces → Prop) :
    rules.Stable job fun store => fact (store.data.traces job) := by
  intro store store' rely holds
  rw [hosts.traces rely]
  exact holds

theorem pure {value : α} (holds : ∀ traces, fact traces → result value traces) :
    Minds rules job fact (Pure.pure value) result :=
  Discipline.Triple.pure (stable hosts _) fun _ _ known => holds _ known

variable {view : MarketingData → Instant → α}

theorem look : Minds rules job fact (Transaction.query view) fun _ => fact :=
  Discipline.Triple.read (stable hosts _) (hosts.quiet job) (fun _ => stable hosts _)
    fun _ _ known => known

variable {change : MarketingData → Instant → MarketingData}

theorem commit (writes : ∀ store : MarketingStore, rules.inv store → fact (store.data.traces job) →
      change store.data store.now = store.data ∨
        WorkerWrite prepared job store.data store.now (change store.data store.now))
    (holds : ∀ store : MarketingStore, rules.inv store → fact (store.data.traces job) →
      result (view store.data store.now) ((change store.data store.now).traces job)) :
    Minds rules job fact (Transaction.commit job view change) result := by
  apply Discipline.Triple.updateWhen (stable hosts _) (fun _ => stable hosts _)
  · intro store inv known meets
    rw [release_eq] at meets ⊢
    rcases writes store inv known with same | written
    · rw [same]
      exact ⟨inv, hosts.quiet job store⟩
    · exact hosts.writes inv written meets
  · intro store inv known _
    exact holds store inv known

/-- A statement that leaves the traces. -/
theorem commitSame (writes : ∀ data now, WorkerWrite prepared job data now (change data now))
    (same : ∀ data now, (change data now).traces job = data.traces job) :
    Minds rules job fact (Transaction.commit job view change) fun _ => fact := by
  apply commit hosts
  · exact fun store _ _ => .inr (writes store.data store.now)
  · intro store _ known
    rw [same]
    exact known

/-- What is known of the messages of a campaign outlasts the program. -/
theorem framed {prog : MarketingProg α} (minds : Minds rules job (fun _ => True) prog fun _ _ => True)
    (campaignId : Id) :
    rules.Triple job (fun store => prepared campaignId store.data) prog
      fun _ store => prepared campaignId store.data := by
  intro store inv known
  have safe := (minds store inv trivial).frame (fun _ _ guar => hosts.keeps guar)
    (hosts.stays job campaignId) known
  exact safe.mono fun _ _ => And.right

end Minds

variable (hosts : Hosts rules prepared)
include hosts

section

variable {messageId : Id} {slot : WindowKey}

theorem minds_updateCampaigns {selected : MarketingCampaign → Bool}
    {change : Instant → MarketingCampaign → MarketingCampaign}
    (writes : ∀ now, CampaignWrite selected (change now)) :
    Minds rules job fact (updateCampaigns job selected change) fun _ => fact :=
  Minds.commitSame hosts (fun _ now => .campaigns (writes now)) fun _ _ => rfl

theorem minds_failStale {campaignId : Id} {now : Instant} :
    Minds rules job fact (failStaleMessageClaims job campaignId now) fun _ => fact := by
  have fails : Minds rules job fact
      (commit job (fun data _ => data.tables.messages.countP (MarketingData.isStale campaignId now))
        fun data later => data.updateMessages (MarketingData.isStale campaignId now) fun message =>
          { message.closed .FAILED (some "STALE_CLAIM_MANUAL_REVIEW") with updatedAt := later })
      fun _ => fact :=
    Minds.commitSame hosts (fun _ _ => .stale campaignId now) fun _ _ => rfl
  apply fails.bind
  intro count
  split
  · refine Minds.bind (minds_updateCampaigns hosts fun _ => ?_) fun _ =>
      Minds.pure hosts fun _ known => known
    exact ⟨fun _ => rfl, fun _ _ differs => absurd rfl differs⟩
  · exact Minds.pure hosts fun _ known => known

theorem minds_claimMessage : Minds rules job fact (claimMessage job messageId) fun claimed traces =>
      claimed = true → traces.holding = some messageId ∧
        ∀ call ∈ traces.calls, call.messageId ≠ messageId := by
  apply Minds.commit hosts
  · intro store inv _
    split
    next isClaimable => exact .inr (.claim isClaimable)
    next => exact .inl rfl
  · intro store inv _ isClaimable
    rw [if_pos isClaimable, MarketingData.traces_hold]
    refine ⟨rfl, fun call isCall => ?_⟩
    exact hosts.unclaimed inv isClaimable call (List.mem_filter.1 isCall).1

theorem minds_close {status : MarketingMessageStatus} {change : CampaignMessage → CampaignMessage}
    (writes : MessageWrite status change) (closes : status ≠ .SENDING ∧ status ≠ .PENDING)
    (keeps : ∀ traces, fact traces → fact { traces with holding := none }) :
    Minds rules job fact (markMessage job messageId change) fun _ => fact := by
  apply Minds.commit hosts
  · exact fun store _ _ => .inr (.mark writes closes.1 fun isPending => absurd isPending closes.2)
  · intro store _ known
    rw [MarketingData.traces_hold]
    exact keeps _ known

/-- A reserved slot is the only one that the run has; nothing else changes. -/
theorem minds_reserve (keeps : ∀ traces slots, fact traces → fact { traces with slots }) :
    Minds rules job fact (reserveMarketingFrequencySlot job slot) fun reserved traces =>
      fact traces ∧ (reserved = true → traces.slots = [slot]) := by
  have takes : Minds rules job fact
      (commit job (fun data _ => data.hasFreeSlot slot) fun data _ =>
        if data.hasFreeSlot slot then data.takeSlot job slot else data)
      fun taken traces => fact traces ∧ (taken = true → traces.slots = [slot]) := by
    apply Minds.commit hosts
    · intro store _ _
      split
      next isFree => exact .inr (.take isFree)
      next => exact .inl rfl
    · intro store _ known
      split
      next =>
        rw [MarketingData.takeSlot, MarketingData.traces_reserve]
        exact ⟨keeps _ _ known, fun _ => rfl⟩
      next notFree => exact ⟨known, fun isFree => absurd isFree notFree⟩
  have creates : Minds rules job fact
      (commit job (fun data _ => !data.hasWindow slot) fun data _ =>
        if data.hasWindow slot then data else data.createWindow job slot)
      fun created traces => fact traces ∧ (created = true → traces.slots = [slot]) := by
    apply Minds.commit hosts
    · intro store _ _
      split
      next => exact .inl rfl
      next absent => exact .inr (.create (Bool.eq_false_iff.2 absent))
    · intro store _ known
      split
      next isThere => exact ⟨known, fun created => by simp [isThere] at created⟩
      next =>
        rw [MarketingData.createWindow, MarketingData.traces_reserve]
        exact ⟨keeps _ _ known, fun _ => rfl⟩
  apply takes.bind
  intro taken
  cases taken with
  | true => exact Minds.pure hosts fun _ known => known
  | false =>
    apply (creates.imp (fun _ known => known.1) fun _ _ => id).bind
    intro created
    cases created with
    | true => exact Minds.pure hosts fun _ known => known
    | false => exact takes.imp (fun _ known => known.1) fun _ _ => id

theorem minds_release : Minds rules job (Traces.Charged · messageId slot)
      (releaseMarketingFrequencySlot job messageId slot) fun _ _ => True :=
  Minds.commit hosts (fun _ _ charged => .inr (.release charged)) fun _ _ _ => trivial

section

variable [UnicodeLetters] [Sha256] {campaign : MarketingCampaign} {customer : Customer}
variable {input : MarketingJob} {now : Instant} {restaurantId : Id} {channel : MarketingChannel}

theorem minds_eligibility :
    Minds rules job fact (eligibility restaurantId customer channel now) fun _ => fact := by
  have ends : ∀ verdict : Except String Unit, Minds rules job fact
      (Pure.pure verdict : MarketingProg (Except String Unit)) fun _ => fact :=
    fun _ => Minds.pure hosts fun _ known => known
  apply (Minds.look hosts).bind
  intro permission
  apply (Minds.look hosts).bind
  intro suppression
  apply (Minds.look hosts).bind
  intro activeCustomer
  dsimp only
  split
  · exact ends _
  split
  · exact ends _
  apply (Minds.look hosts).bind
  intro optedOut
  split
  · exact ends _
  split
  · exact ends _
  split
  all_goals
    apply Minds.next
    · first
      | exact Minds.look hosts
      | exact Minds.pure hosts fun _ known => known
    · intro legacy
      repeat' split
      all_goals exact ends _

omit [UnicodeLetters] [Sha256] in
theorem minds_sendOne : Minds rules job (fun traces => traces.holding = some messageId ∧
        (∀ call ∈ traces.calls, call.messageId ≠ messageId) ∧ traces.slots = [slot])
      (sendOne job input campaign messageId customer slot)
      fun _ traces => traces.Charged messageId slot := by
  have unsent : ∀ answer : Except String (Option String), Minds rules job
      (fun traces => traces.holding = some messageId ∧
        (∀ call ∈ traces.calls, call.messageId ≠ messageId) ∧ traces.slots = [slot])
      (Pure.pure answer) fun _ traces => traces.Charged messageId slot :=
    fun _ => Minds.pure hosts fun _ known => .inl ⟨known.2.2, known.2.1⟩
  unfold sendOne
  split
  · exact unsent _
  split
  · exact unsent _
  split
  · exact unsent _
  split
  · exact unsent _
  refine Minds.bind (?_ : Minds rules job _ _ fun _ traces => traces.Charged messageId slot)
    fun _ => Minds.pure hosts fun _ charged => charged
  apply Minds.commit hosts
  · intro store _ known
    refine .inr (.call rfl rfl rfl known.1 ?_)
    rw [known.2.2]
    exact List.mem_singleton_self slot
  · intro store _ _
    rw [MarketingData.traces_callProvider _ _ rfl]
    exact .inr ⟨_, List.mem_append_right _ (List.mem_singleton_self _), rfl, rfl, rfl⟩

omit [UnicodeLetters] [Sha256] in
theorem minds_recordAnswer {sent : Except String (Option String)} :
    Minds rules job (Traces.Charged · messageId slot)
      (recordAnswer job campaign messageId slot now sent) fun _ _ => True := by
  have keeps : ∀ traces : Traces, traces.Charged messageId slot →
      ({ traces with holding := none } : Traces).Charged messageId slot :=
    fun _ charged => charged
  have ends : ∀ result : MessageResult, Minds rules job (Traces.Charged · messageId slot)
      (Pure.pure result : MarketingProg MessageResult) fun _ _ => True :=
    fun _ => Minds.pure hosts fun _ _ => trivial
  have counts : ∀ change : MarketingCampaign → MarketingCampaign,
      (∀ row, (change row).id = row.id) → (∀ row, (change row).status = row.status) →
        Minds rules job (Traces.Charged · messageId slot)
          (updateCampaigns job (fun row => row.id == campaign.id) fun _ => change)
          fun _ => (Traces.Charged · messageId slot) :=
    fun change sameId sameStatus => minds_updateCampaigns hosts fun _ =>
      ⟨sameId, fun row _ differs => absurd (sameStatus row) differs⟩
  cases sent with
  | ok providerMessageId =>
    have accepts : MessageWrite .ACCEPTED
        (CampaignMessage.accepted campaign.channel.provider providerMessageId now) :=
      ⟨fun _ => rfl, fun _ => rfl, fun _ => rfl, fun _ => rfl, fun _ => rfl⟩
    apply (minds_close hosts accepts ⟨nofun, nofun⟩ keeps).next
    intro transitioned
    split
    · exact ends _
    · apply Minds.next
      · exact counts _ (fun _ => rfl) fun _ => rfl
      · exact fun _ => ends _
  | error errorCode =>
    have fails : MessageWrite .FAILED (CampaignMessage.closed .FAILED (some errorCode)) :=
      ⟨fun _ => rfl, fun _ => rfl, fun _ => rfl, fun _ => rfl, fun _ => rfl⟩
    apply (minds_close hosts fails ⟨nofun, nofun⟩ keeps).next
    intro transitioned
    split
    · exact ends _
    · apply Minds.next
      · exact counts _ (fun _ => rfl) fun _ => rfl
      intro _
      apply Minds.next
      · exact counts _ (fun _ => rfl) fun _ => rfl
      intro _
      split
      · exact (minds_release hosts).bind fun _ => Minds.pure hosts fun _ _ => trivial
      · exact ends _

theorem minds_processClaimed : Minds rules job (fun traces => traces.holding = some messageId ∧
        ∀ call ∈ traces.calls, call.messageId ≠ messageId)
      (processClaimed job input campaign messageId customer now) fun _ _ => True := by
  have cancels : ∀ {fact : Traces → Prop} reason, Minds rules job fact (do
      let _ ← markMessage job messageId (CampaignMessage.closed .CANCELLED (some reason))
      return MessageResult.unsent) fun _ _ => True := by
    intro fact reason
    have writes : MessageWrite .CANCELLED (CampaignMessage.closed .CANCELLED (some reason)) :=
      ⟨fun _ => rfl, fun _ => rfl, fun _ => rfl, fun _ => rfl, fun _ => rfl⟩
    have closes : Minds rules job (fun _ => True)
        (markMessage job messageId (CampaignMessage.closed .CANCELLED (some reason)))
        fun _ _ => True :=
      minds_close hosts writes ⟨nofun, nofun⟩ fun _ _ => trivial
    exact (closes.imp (fun _ _ => trivial) fun _ _ => id).bind fun _ =>
      Minds.pure hosts fun _ _ => trivial
  apply (minds_eligibility hosts).next
  intro first
  split
  · exact (cancels _).bind fun _ => Minds.pure hosts fun _ _ => trivial
  apply (minds_reserve hosts fun _ _ known => known).bind
  intro reserved
  cases reserved with
  | false => exact (cancels _).bind fun _ => Minds.pure hosts fun _ _ => trivial
  | true =>
  apply (minds_eligibility hosts).next
  intro second
  split
  · exact (cancels _).bind fun _ => Minds.pure hosts fun _ _ => trivial
  apply (Minds.look hosts).next
  intro beforeProvider
  have returns : ∀ {slots : Traces → Prop}, Minds rules job
      (fun traces => (traces.holding = some messageId ∧
        ∀ call ∈ traces.calls, call.messageId ≠ messageId) ∧ slots traces) (do
      let _ ← markMessage job messageId (CampaignMessage.closed .PENDING none)
      return MessageResult.unsent) fun _ _ => True := by
    intro slots
    have writes : MessageWrite .PENDING (CampaignMessage.closed .PENDING none) :=
      ⟨fun _ => rfl, fun _ => rfl, fun _ => rfl, fun _ => rfl, fun _ => rfl⟩
    refine Minds.bind (?_ : Minds rules job _ _ fun _ _ => True) fun _ =>
      Minds.pure hosts fun _ _ => trivial
    apply Minds.commit hosts
    · exact fun store _ known => .inr (.mark writes nofun fun _ => known.1.1)
    · exact fun _ _ _ => trivial
  split
  · exact cancels _
  · exact cancels _
  · exact returns
  · exact returns
  · exact returns
  · apply Minds.bind
    · apply (minds_sendOne hosts).imp
      · exact fun _ known => ⟨known.1.1, known.1.2, known.2 rfl⟩
      · exact fun _ _ charged => charged
    · exact fun _ => minds_recordAnswer hosts

theorem minds_processMessage :
    Minds rules job (fun _ => True) (processMessage job input campaign messageId customer now)
      fun _ _ => True := by
  apply (Minds.look hosts).next
  intro current
  split
  · exact Minds.pure hosts fun _ _ => trivial
  · exact Minds.pure hosts fun _ _ => trivial
  · apply (minds_claimMessage hosts).bind
    intro claimed
    cases claimed with
    | false => exact Minds.pure hosts fun _ _ => trivial
    | true => exact (minds_processClaimed hosts).imp (fun _ known => known rfl) fun _ _ => id

theorem minds_processBatch {messages : List (CampaignMessage × Customer)} {counts : JobCounts} :
    Minds rules job (fun _ => True) (processBatch job input campaign now messages counts)
      fun _ _ => True := by
  induction messages generalizing counts with
  | nil => exact Minds.pure hosts fun _ _ => trivial
  | cons message rest ih =>
    apply (minds_processMessage hosts).next
    intro result
    split
    · exact Minds.pure hosts fun _ _ => trivial
    · exact ih

theorem minds_processBatches {batches : Nat} {counts : JobCounts} :
    Minds rules job (fun _ => True) (processBatches job input campaign now batches counts)
      fun _ _ => True := by
  have ends : ∀ {counts : JobCounts}, Minds rules job (fun _ => True)
      (Pure.pure counts : MarketingProg JobCounts) fun _ _ => True :=
    Minds.pure hosts fun _ _ => trivial
  induction batches generalizing counts with
  | zero => exact ends
  | succ batches ih =>
    apply (Minds.look hosts).next
    intro latest
    split
    all_goals try exact ends
    apply (Minds.look hosts).next
    intro messages
    split
    · exact ends
    apply (Minds.look hosts).next
    intro isFull
    split
    · apply Minds.next
      · refine minds_updateCampaigns hosts fun _ => ⟨fun _ => rfl, fun row isSelected _ => ?_⟩
        simp only [Bool.and_eq_true, beq_iff_eq] at isSelected
        exact ⟨by simp [MarketingCampaign.isClosed, isSelected.2], nofun⟩
      · exact fun _ => ends
    · exact (minds_processBatch hosts).next fun _ => ih

omit [UnicodeLetters] [Sha256] in
theorem minds_claimCampaign :
    Minds rules job (fun _ => True) (claimCampaign job input campaign now) fun _ _ => True := by
  have starts : CampaignWrite
      (fun row => row.id == campaign.id && row.restaurantId == input.restaurantId &&
        (row.status == .READY || row.status == .SCHEDULED))
      fun row => { row with status := .SENDING, startedAt := some now, lastErrorCode := none } := by
    refine ⟨fun _ => rfl, fun row isSelected _ => ⟨?_, nofun⟩⟩
    simp only [Bool.and_eq_true, Bool.or_eq_true, beq_iff_eq] at isSelected
    rcases isSelected.2 with isReady | isScheduled
    · simp [MarketingCampaign.isClosed, isReady]
    · simp [MarketingCampaign.isClosed, isScheduled]
  unfold claimCampaign
  dsimp only
  split
  · apply Minds.next
    · apply Minds.commit hosts
      · intro store _ _
        split
        next => exact .inl rfl
        next => exact .inr (.campaigns starts)
      · exact fun _ _ _ => trivial
    · intro verdict
      split
      · exact Minds.pure hosts fun _ _ => trivial
      · apply Minds.next
        · refine minds_updateCampaigns hosts fun _ => ⟨fun _ => rfl, fun row isSelected _ => ?_⟩
          simp only [Bool.and_eq_true, beq_iff_eq] at isSelected
          exact ⟨by simp [MarketingCampaign.isClosed, isSelected.2], nofun⟩
        · exact fun _ => Minds.pure hosts fun _ _ => trivial
  · apply Minds.next
    · exact minds_updateCampaigns hosts fun _ => starts
    · exact fun _ => Minds.pure hosts fun _ _ => trivial

/-- A campaign ends with its messages prepared. -/
theorem minds_runCampaign :
    Minds rules job (fun _ => True) (runCampaign job input campaign now) fun _ _ => True := by
  have ends : ∀ {pre : MarketingStore → Prop} (counts : JobCounts), rules.Triple job pre
      (Pure.pure counts : MarketingProg JobCounts) fun _ _ => True :=
    fun _ => Discipline.Triple.pure (Discipline.stable_const True) fun _ _ _ => trivial
  apply (hosts.prepares job campaign).bind
  intro _
  apply (Minds.framed hosts (minds_failStale hosts) campaign.id).bind
  intro stale
  apply (Minds.framed hosts (minds_processBatches hosts) campaign.id).bind
  intro counts
  apply (Minds.framed hosts (Minds.look hosts) campaign.id).bind
  intro pending
  apply (Minds.framed hosts (Minds.look hosts) campaign.id).bind
  intro sending
  split
  · refine Discipline.Triple.bind (?_ : rules.Triple job _ _ fun _ _ => True) fun _ => ends _
    apply Discipline.Triple.updateWhen
    · exact hosts.stays job campaign.id
    · exact fun _ => Discipline.stable_const True
    · intro store inv known meets
      rw [release_eq] at meets ⊢
      refine hosts.writes inv (.complete now ?_ known) meets
      split
      · exact .inr rfl
      · exact .inl rfl
    · exact fun _ _ _ _ => trivial
  · exact ends _

/-- Whatever else goes on, a run keeps to a discipline that hosts workers. -/
theorem minds_job :
    Minds rules job (fun _ => True) (processMarketingCampaignJob job input) fun _ _ => True := by
  have ends : ∀ result : Except JobError JobCounts, Minds rules job (fun _ => True)
      (Pure.pure result : MarketingProg (Except JobError JobCounts)) fun _ _ => True :=
    fun _ => Minds.pure hosts fun _ _ => trivial
  unfold processMarketingCampaignJob
  split
  · exact ends _
  apply (Minds.look hosts).next
  intro now
  apply (Minds.look hosts).next
  intro campaign
  split
  · exact ends _
  split
  · exact ends _
  split
  · exact ends _
  split
  · apply Minds.next
    · refine minds_updateCampaigns hosts fun _ => ⟨fun _ => rfl, fun row isSelected _ => ?_⟩
      simp only [Bool.and_eq_true, Bool.or_eq_true, beq_iff_eq] at isSelected
      refine ⟨?_, nofun⟩
      rcases isSelected.2 with isSending | isScheduled
      · simp [MarketingCampaign.isClosed, isSending]
      · simp [MarketingCampaign.isClosed, isScheduled]
    · exact fun _ => ends _
  split
  · exact (minds_runCampaign hosts).next fun _ => ends _
  apply (minds_claimCampaign hosts).next
  intro claimed
  split
  · exact ends _
  · exact ends _
  · exact (minds_runCampaign hosts).next fun _ => ends _

end

end

end

end Sokar.Marketing
