import Sokar.Marketing.BoundedSends

/-!
# The status of a campaign

Campaigns are scheduled, started and cancelled while workers send them.  A schedule, a
cancellation and the end of a run write a status without a look at the one that is there.  As long
as these writes find no campaign that was cancelled or sent in the meantime, and no run ends a
campaign as sent that has messages failed by other runs, a campaign stays cancelled or sent, and
none that is sent has a failed message.
-/

namespace Sokar.Marketing

open Process Transaction

inductive CampaignError where
  | scheduledAtInPast
  | CAMPAIGN_NOT_FOUND
  | CAMPAIGN_NOT_READY
  | CAMPAIGN_ALREADY_RUNNING
  | CAMPAIGN_NOT_DUE
  | CAMPAIGN_NOT_CANCELLABLE
  | MARKETING_DAILY_BUDGET_EXCEEDED
  | P2025
  deriving DecidableEq

section

variable (job : JobId) (restaurantId campaignId : Id)

def getMarketingCampaign : MarketingProg (Option MarketingCampaign) :=
  query fun data _ => data.campaign? campaignId restaurantId

/-- `update` of the campaign with an id. -/
def updateCampaign (change : Instant → MarketingCampaign → MarketingCampaign) :
    MarketingProg (Except CampaignError MarketingCampaign) :=
  commit job
    (fun data now =>
      match KeyedRows.lookup MarketingCampaign.id data.tables.campaigns campaignId with
      | none => .error .P2025
      | some campaign => .ok (change now campaign))
    fun data now => data.updateCampaigns (fun row => row.id == campaignId) (change now)

variable [WorkerEnv]

/-- Whether the audience fits the budget of the day. -/
def assertDailyEmailBudget (campaign : MarketingCampaign) (sendAt : Instant)
    (excluded : Option Id) : MarketingProg (Except CampaignError Unit) := do
  if campaign.channel ≠ .EMAIL then return .ok ()
  let remaining ← query fun data _ =>
    data.remainingDailyEmailBudget WorkerEnv.MARKETING_EMAIL_DAILY_BUDGET sendAt excluded
  if remaining < campaign.audienceCount then return .error .MARKETING_DAILY_BUDGET_EXCEEDED
  return .ok ()

def MarketingCampaign.scheduled (scheduledAt : Instant) (campaign : MarketingCampaign) :
    MarketingCampaign :=
  { campaign with status := .SCHEDULED, scheduledAt := some scheduledAt, lastErrorCode := none }

def scheduleMarketingCampaign (scheduledAt : Instant) :
    MarketingProg (Except CampaignError MarketingCampaign) := do
  let now ← query fun _ now => now
  if scheduledAt ≤ now then return .error .scheduledAtInPast
  match ← getMarketingCampaign restaurantId campaignId with
  | none => return .error .CAMPAIGN_NOT_FOUND
  | some campaign =>
    if campaign.status ≠ .READY then return .error .CAMPAIGN_NOT_READY
    if let .error error ← assertDailyEmailBudget campaign scheduledAt none then
      return .error error
    updateCampaign job campaignId fun _ => MarketingCampaign.scheduled scheduledAt

def startMarketingCampaign (startedAt : Option Instant) :
    MarketingProg (Except CampaignError MarketingCampaign) := do
  let now ← query fun _ now => startedAt.getD now
  match ← getMarketingCampaign restaurantId campaignId with
  | none => return .error .CAMPAIGN_NOT_FOUND
  | some campaign =>
    if campaign.status ≠ .READY ∧ campaign.status ≠ .SCHEDULED then
      return .error (if campaign.status = .SENDING then .CAMPAIGN_ALREADY_RUNNING
        else .CAMPAIGN_NOT_READY)
    if campaign.status = .SCHEDULED ∧ campaign.scheduledAt.any fun scheduledAt => now < scheduledAt
    then return .error .CAMPAIGN_NOT_DUE
    if let .error error ← assertDailyEmailBudget campaign now (some campaign.id) then
      return .error error
    let claimed ← updateCampaigns job
      (fun row => row.id == campaign.id && row.restaurantId == restaurantId &&
        (row.status == .READY || row.status == .SCHEDULED))
      fun _ row =>
        { row with
          status := .SENDING
          startedAt := some now
          completedAt := none
          lastErrorCode := none }
    if claimed = 0 then return .error .CAMPAIGN_ALREADY_RUNNING
    match ← getMarketingCampaign restaurantId campaignId with
    | none => return .error .CAMPAIGN_NOT_FOUND
    | some updated => return .ok updated

def MarketingCampaign.cancelled (completedAt : Instant) (campaign : MarketingCampaign) :
    MarketingCampaign :=
  { campaign with status := .CANCELLED, completedAt := some completedAt }

omit [WorkerEnv] in
def cancelMarketingCampaign : MarketingProg (Except CampaignError MarketingCampaign) := do
  match ← getMarketingCampaign restaurantId campaignId with
  | none => return .error .CAMPAIGN_NOT_FOUND
  | some campaign =>
    if campaign.status = .SENT ∨ campaign.status = .CANCELLED then
      return .error .CAMPAIGN_NOT_CANCELLABLE
    updateCampaign job campaignId MarketingCampaign.cancelled

end

/-- The columns of a message that are never changed. -/
def CampaignMessage.columns (message : CampaignMessage) : Id × Id × Id × Id :=
  (message.id, message.audienceMemberId, message.campaignId, message.customerId)

def CampaignMessage.isOpen (message : CampaignMessage) : Bool :=
  message.status == .PENDING || message.status == .SENDING

namespace MarketingData

variable {data data' : MarketingData}

/-- Messages and audiences stay, whatever becomes of their messages. -/
structure Keeps (data data' : MarketingData) : Prop where
  audience : data'.tables.audience = data.tables.audience
  rows : ∀ message ∈ data.tables.messages, ∃ message' ∈ data'.tables.messages,
    message'.columns = message.columns

theorem Keeps.refl (data : MarketingData) : data.Keeps data where
  audience := rfl
  rows message isRow := ⟨message, isRow, rfl⟩

theorem Keeps.trans {data'' : MarketingData} (first : data.Keeps data') (second : data'.Keeps data'') :
    data.Keeps data'' where
  audience := second.audience.trans first.audience
  rows message isRow := by
    obtain ⟨message', isRow', same⟩ := first.rows message isRow
    obtain ⟨message'', isRow'', same'⟩ := second.rows message' isRow'
    exact ⟨message'', isRow'', same'.trans same⟩

theorem keeps_of_same (audience : data'.tables.audience = data.tables.audience)
    (messages : data'.tables.messages = data.tables.messages) : data.Keeps data' where
  audience := audience
  rows message isRow := ⟨message, messages ▸ isRow, rfl⟩

theorem keeps_updateMessages {selected : CampaignMessage → Bool}
    {change : CampaignMessage → CampaignMessage}
    (keeps : ∀ message, (change message).columns = message.columns) :
    data.Keeps (data.updateMessages selected change) where
  audience := rfl
  rows message isRow := by
    refine ⟨_, List.mem_map_of_mem isRow, ?_⟩
    split
    · exact keeps message
    · rfl

/-- Every member of the campaign's audience has a message, or one in its way. -/
def Prepared [WorkerEnv] (campaignId : Id) (data : MarketingData) : Prop :=
  ∀ member ∈ data.audienceOf campaignId, ∃ other ∈ data.tables.messages,
    other.id = WorkerEnv.uuid member.id ∨ other.audienceMemberId = member.id ∨
      other.campaignId = campaignId ∧ other.customerId = member.customerId

theorem audienceOf_of_keeps (keeps : data.Keeps data') (campaignId : Id) :
    data'.audienceOf campaignId = data.audienceOf campaignId := by
  rw [audienceOf, keeps.audience]
  rfl

variable {campaignId : Id}

theorem Prepared.keeps [WorkerEnv] (prepared : data.Prepared campaignId)
    (keeps : data.Keeps data') : data'.Prepared campaignId := by
  intro member isMember
  rw [audienceOf_of_keeps keeps] at isMember
  obtain ⟨other, isRow, hinders⟩ := prepared member isMember
  obtain ⟨other', isRow', same⟩ := keeps.rows other isRow
  simp only [CampaignMessage.columns, Prod.mk.injEq] at same
  obtain ⟨sameId, sameMember, sameCampaign, sameCustomer⟩ := same
  refine ⟨other', isRow', ?_⟩
  rw [sameId, sameMember, sameCampaign, sameCustomer]
  exact hinders

theorem createMessages_of_hindered {messages : List CampaignMessage}
    (hindered : ∀ message ∈ messages, data.hasMessage message = true) :
    data.createMessages messages = data := by
  induction messages with
  | nil => rfl
  | cons message rest ih =>
    rw [createMessages, List.foldl_cons, if_pos (hindered message List.mem_cons_self)]
    exact ih fun other isOther => hindered other (List.mem_cons_of_mem _ isOther)

theorem keeps_createMessages (messages : List CampaignMessage) (data : MarketingData) :
    data.Keeps (data.createMessages messages) := by
  induction messages generalizing data with
  | nil => exact .refl data
  | cons message rest ih =>
    rw [createMessages, List.foldl_cons]
    split
    next => exact ih data
    next =>
      let appended : MarketingData :=
        { data with tables := { data.tables with messages := data.tables.messages ++ [message] } }
      have first : data.Keeps appended :=
        ⟨rfl, fun other isRow => ⟨other, List.mem_append_left _ isRow, rfl⟩⟩
      exact first.trans (ih appended)

theorem mem_createMessages {messages : List CampaignMessage} {message : CampaignMessage}
    (isRow : message ∈ (data.createMessages messages).tables.messages) :
    message ∈ data.tables.messages ∨ message ∈ messages := by
  induction messages generalizing data with
  | nil => exact .inl isRow
  | cons first rest ih =>
    rw [createMessages, List.foldl_cons] at isRow
    split at isRow
    next =>
      rcases ih isRow with old | new
      · exact .inl old
      · exact .inr (List.mem_cons_of_mem _ new)
    next =>
      rcases ih isRow with old | new
      · rcases List.mem_append.1 old with older | isFirst
        · exact .inl older
        · exact .inr (List.mem_singleton.1 isFirst ▸ List.mem_cons_self)
      · exact .inr (List.mem_cons_of_mem _ new)

/-- Then each message has one in its way, itself or another. -/
theorem hindered_createMessages {messages : List CampaignMessage} {message : CampaignMessage}
    (isAsked : message ∈ messages) : ∃ other ∈ (data.createMessages messages).tables.messages,
      other.id = message.id ∨ other.audienceMemberId = message.audienceMemberId ∨
        other.campaignId = message.campaignId ∧ other.customerId = message.customerId := by
  induction messages generalizing data with
  | nil => cases isAsked
  | cons first rest ih =>
    rw [createMessages, List.foldl_cons]
    rcases List.mem_cons.1 isAsked with rfl | later
    · have hinders : ∀ {data : MarketingData}, (∃ other ∈ data.tables.messages,
          other.id = message.id ∨ other.audienceMemberId = message.audienceMemberId ∨
            other.campaignId = message.campaignId ∧ other.customerId = message.customerId) →
          ∃ other ∈ (data.createMessages rest).tables.messages,
            other.id = message.id ∨ other.audienceMemberId = message.audienceMemberId ∨
              other.campaignId = message.campaignId ∧ other.customerId = message.customerId := by
        rintro data ⟨other, isRow, hinders⟩
        obtain ⟨other', isRow', same⟩ := (keeps_createMessages rest data).rows other isRow
        simp only [CampaignMessage.columns, Prod.mk.injEq] at same
        obtain ⟨sameId, sameMember, sameCampaign, sameCustomer⟩ := same
        refine ⟨other', isRow', ?_⟩
        rw [sameId, sameMember, sameCampaign, sameCustomer]
        exact hinders
      apply hinders
      split
      next isThere =>
        obtain ⟨other, isRow, inWay⟩ := List.any_eq_true.1 isThere
        simp only [Bool.or_eq_true, Bool.and_eq_true, beq_iff_eq, or_assoc] at inWay
        exact ⟨other, isRow, inWay⟩
      next =>
        exact ⟨message, List.mem_append_right _ (List.mem_singleton_self _), .inl rfl⟩
    · split
      next => exact ih later
      next => exact ih later

/-- No message is left to send, and none has failed. -/
def IsClean (data : MarketingData) (campaignId : Id) : Prop :=
  ∀ message ∈ data.tables.messages, message.campaignId = campaignId →
    message.isOpen = false ∧ message.status ≠ .FAILED

/-- A campaign that is sent stays without failed messages: none is open, and none is created. -/
structure Settled [WorkerEnv] (data : MarketingData) (campaignId : Id) : Prop where
  prepared : data.Prepared campaignId
  clean : data.IsClean campaignId

def Honest [WorkerEnv] (data : MarketingData) : Prop :=
  ∀ campaign ∈ data.tables.campaigns, campaign.status = .SENT → data.Settled campaign.id

/-- Campaigns that are cancelled or sent keep their status. -/
def ClosedStay (data data' : MarketingData) : Prop :=
  ∀ campaignId campaign,
    KeyedRows.lookup MarketingCampaign.id data.tables.campaigns campaignId = some campaign →
      campaign.isClosed = true → ∃ campaign',
        KeyedRows.lookup MarketingCampaign.id data'.tables.campaigns campaignId = some campaign' ∧
          campaign'.status = campaign.status

theorem ClosedStay.of_same (campaigns : data'.tables.campaigns = data.tables.campaigns) :
    data.ClosedStay data' := by
  intro campaignId campaign found _
  rw [campaigns]
  exact ⟨campaign, found, rfl⟩

theorem isClosed_of_status {campaign campaign' : MarketingCampaign}
    (same : campaign'.status = campaign.status) : campaign'.isClosed = campaign.isClosed := by
  rw [MarketingCampaign.isClosed, same]
  rfl

theorem ClosedStay.trans {data'' : MarketingData} (first : data.ClosedStay data')
    (second : data'.ClosedStay data'') : data.ClosedStay data'' := by
  intro campaignId campaign found isClosed
  obtain ⟨campaign', found', same⟩ := first campaignId campaign found isClosed
  obtain ⟨campaign'', found'', same'⟩ :=
    second campaignId campaign' found' ((isClosed_of_status same).trans isClosed)
  exact ⟨campaign'', found'', same'.trans same⟩

theorem ClosedStay.update {selected : MarketingCampaign → Bool}
    {change : MarketingCampaign → MarketingCampaign}
    (sameId : ∀ campaign, (change campaign).id = campaign.id)
    (keeps : ∀ campaign ∈ data.tables.campaigns, selected campaign = true →
      campaign.isClosed = true → (change campaign).status = campaign.status) :
    data.ClosedStay (data.updateCampaigns selected change) := by
  intro campaignId campaign found isClosed
  refine ⟨if selected campaign then change campaign else campaign, ?_, ?_⟩
  · change KeyedRows.lookup _ (KeyedRows.update selected change data.tables.campaigns) _ = _
    rw [KeyedRows.lookup_update selected sameId, found]
    rfl
  · split
    next isSelected => exact keeps campaign (KeyedRows.mem_of_lookup found) isSelected isClosed
    next => rfl

section

variable [WorkerEnv]

/-- Campaigns that are sent were so before, or are settled, and no message gets open or fails but
one that was open. -/
theorem Honest.step (honest : data.Honest) (keeps : data.Keeps data')
    (campaigns : ∀ campaign' ∈ data'.tables.campaigns, campaign'.status = .SENT →
      data.Settled campaign'.id ∨
        ∃ campaign ∈ data.tables.campaigns, campaign.id = campaign'.id ∧ campaign.status = .SENT)
    (messages : ∀ campaignId, data.Settled campaignId → data'.IsClean campaignId) :
    data'.Honest := by
  intro campaign' isRow isSent
  have settled : data.Settled campaign'.id := by
    rcases campaigns campaign' isRow isSent with settled | ⟨campaign, isCampaign, same, wasSent⟩
    · exact settled
    · rw [← same]
      exact honest campaign isCampaign wasSent
  exact ⟨settled.prepared.keeps keeps, messages _ settled⟩

theorem Honest.updateMessages (honest : data.Honest) {selected : CampaignMessage → Bool}
    {change : CampaignMessage → CampaignMessage}
    (keeps : ∀ message, (change message).columns = message.columns)
    (isOpen : ∀ message, selected message = true → message.isOpen = true) :
    (data.updateMessages selected change).Honest := by
  apply honest.step (keeps_updateMessages keeps)
  · exact fun campaign isRow isSent => .inr ⟨campaign, isRow, rfl, isSent⟩
  · intro campaignId settled message isRow isIts
    obtain ⟨before, isBefore, rfl⟩ := List.mem_map.1 isRow
    split at isIts
    next isSelected =>
      have sameCampaign : (change before).campaignId = before.campaignId :=
        congrArg (fun columns => columns.2.2.1) (keeps before)
      have clean := settled.clean before isBefore (sameCampaign ▸ isIts)
      cases (isOpen before isSelected).symm.trans clean.1
    next notSelected =>
      rw [if_neg notSelected]
      exact settled.clean before isBefore isIts

theorem Honest.same (honest : data.Honest)
    (campaigns : data'.tables.campaigns = data.tables.campaigns)
    (audience : data'.tables.audience = data.tables.audience)
    (messages : data'.tables.messages = data.tables.messages) : data'.Honest := by
  apply honest.step (keeps_of_same audience messages)
  · intro campaign isRow isSent
    rw [campaigns] at isRow
    exact .inr ⟨campaign, isRow, rfl, isSent⟩
  · intro campaignId settled message isRow
    rw [messages] at isRow
    exact settled.clean message isRow

theorem Honest.createMessages (honest : data.Honest) {campaignId : Id}
    {create : CampaignAudienceMember → CampaignMessage}
    (columns : ∀ member, (create member).columns =
      (WorkerEnv.uuid member.id, member.id, campaignId, member.customerId)) :
    (data.createMessages ((data.audienceOf campaignId).map create)).Honest := by
  have sameCampaign : ∀ member, (create member).campaignId = campaignId :=
    fun member => congrArg (fun columns => columns.2.2.1) (columns member)
  obtain ⟨messages, framed⟩ :=
    createMessages_frame ((data.audienceOf campaignId).map create) data
  apply honest.step (keeps_createMessages _ data)
  · intro campaign isRow isSent
    rw [framed] at isRow
    exact .inr ⟨campaign, isRow, rfl, isSent⟩
  · intro sentId settled message isRow isIts
    rcases mem_createMessages isRow with old | new
    · exact settled.clean message old isIts
    · obtain ⟨member, isMember, rfl⟩ := List.mem_map.1 new
      have isSame : campaignId = sentId := (sameCampaign member).symm.trans isIts
      subst isSame
      have hindered : ∀ message ∈ (data.audienceOf campaignId).map create,
          data.hasMessage message = true := by
        intro message isAsked
        obtain ⟨member, isMember, rfl⟩ := List.mem_map.1 isAsked
        have same := columns member
        simp only [CampaignMessage.columns, Prod.mk.injEq] at same
        obtain ⟨other, isOther, inWay⟩ := settled.prepared member isMember
        refine List.any_eq_true.2 ⟨other, isOther, ?_⟩
        simp only [same, Bool.or_eq_true, Bool.and_eq_true, beq_iff_eq, or_assoc]
        exact inWay
      rw [createMessages_of_hindered hindered] at isRow
      exact settled.clean _ isRow isIts

end

/-- The write of a schedule, a cancellation or the end of a run, to a campaign whatever its
status. -/
inductive BlindWrite (data : MarketingData) (campaignId : Id) :
    MarketingCampaignStatus → MarketingData → Prop where
  | schedule (scheduledAt : Instant) : BlindWrite data campaignId .SCHEDULED
      (data.updateCampaigns (fun row => row.id == campaignId)
        (MarketingCampaign.scheduled scheduledAt))
  | cancel (completedAt : Instant) : BlindWrite data campaignId .CANCELLED
      (data.updateCampaigns (fun row => row.id == campaignId)
        (MarketingCampaign.cancelled completedAt))
  | complete {status : MarketingCampaignStatus} (completedAt : Instant) :
      status = .SENT ∨ status = .FAILED → BlindWrite data campaignId status
        (data.updateCampaigns (fun row => row.id == campaignId)
          fun row => { row with status, completedAt := some completedAt })

/-- Such a write finds no campaign that was cancelled or sent, unless with the status it writes,
and ends one as sent only when all its messages are closed and none has failed. -/
def Fair (data data' : MarketingData) : Prop :=
  ∀ campaignId status, data.BlindWrite campaignId status data' →
    ∀ campaign ∈ data.tables.campaigns, campaign.id = campaignId → campaign.status ≠ status →
      campaign.isClosed = false ∧ (status = .SENT → data.IsClean campaignId)

variable {status : MarketingCampaignStatus}

theorem BlindWrite.shape (written : data.BlindWrite campaignId status data') :
    ∃ change : MarketingCampaign → MarketingCampaign,
      data' = data.updateCampaigns (fun row => row.id == campaignId) change ∧
        ∀ campaign, (change campaign).id = campaign.id ∧ (change campaign).status = status := by
  cases written with
  | schedule scheduledAt => exact ⟨_, rfl, fun _ => ⟨rfl, rfl⟩⟩
  | cancel completedAt => exact ⟨_, rfl, fun _ => ⟨rfl, rfl⟩⟩
  | complete completedAt => exact ⟨_, rfl, fun _ => ⟨rfl, rfl⟩⟩

theorem BlindWrite.keeps [WorkerEnv] (written : data.BlindWrite campaignId status data')
    (fair : data.Fair data') (honest : data.Honest)
    (prepared : status = .SENT → data.Prepared campaignId) :
    data'.Honest ∧ data.ClosedStay data' := by
  have finds := fair campaignId status written
  obtain ⟨change, rfl, changes⟩ := written.shape
  have keeps : data.Keeps (data.updateCampaigns (fun row => row.id == campaignId) change) :=
    keeps_of_same rfl rfl
  constructor
  · apply honest.step keeps
    · intro campaign' isRow isSent
      obtain ⟨campaign, isCampaign, rfl⟩ := List.mem_map.1 isRow
      split at isSent
      next isSelected =>
        rw [if_pos isSelected, (changes campaign).1]
        rw [(changes campaign).2] at isSent
        by_cases same : campaign.status = status
        · exact .inr ⟨campaign, isCampaign, rfl, same.trans isSent⟩
        · have isIts : campaign.id = campaignId := beq_iff_eq.1 isSelected
          refine .inl ⟨?_, ?_⟩
          · rw [isIts]
            exact prepared isSent
          · rw [isIts]
            exact (finds campaign isCampaign isIts same).2 isSent
      next notSelected =>
        rw [if_neg notSelected]
        exact .inr ⟨campaign, isCampaign, rfl, isSent⟩
    · exact fun _ settled => settled.clean
  · apply ClosedStay.update fun campaign => (changes campaign).1
    intro campaign isRow isSelected isClosed
    rw [(changes campaign).2]
    by_contra differs
    have isOpen := (finds campaign isRow (beq_iff_eq.1 isSelected) (Ne.symm differs)).1
    cases isClosed.symm.trans isOpen

end MarketingData

theorem MessageWrite.columns {status : MarketingMessageStatus}
    {change : CampaignMessage → CampaignMessage} (writes : MessageWrite status change)
    (message : CampaignMessage) : (change message).columns = message.columns := by
  simp [CampaignMessage.columns, writes.id, writes.campaignId, writes.audienceMemberId,
    writes.customerId]

/-- What steps do to campaigns and messages. -/
structure Advances (data data' : MarketingData) : Prop where
  keeps : data.Keeps data'
  closed : data.ClosedStay data'

theorem Advances.of_same {data data' : MarketingData}
    (campaigns : data'.tables.campaigns = data.tables.campaigns)
    (audience : data'.tables.audience = data.tables.audience)
    (messages : data'.tables.messages = data.tables.messages) : Advances data data' :=
  ⟨MarketingData.keeps_of_same audience messages, .of_same campaigns⟩

section

variable [WorkerEnv] {data data' : MarketingData} {job : JobId} {now : Instant}

theorem CampaignWrite.keeps {selected : MarketingCampaign → Bool}
    {change : MarketingCampaign → MarketingCampaign} (writes : CampaignWrite selected change)
    (honest : data.Honest) : (data.updateCampaigns selected change).Honest ∧
      Advances data (data.updateCampaigns selected change) := by
  have keeps : data.Keeps (data.updateCampaigns selected change) :=
    MarketingData.keeps_of_same rfl rfl
  refine ⟨honest.step keeps ?_ fun _ settled => settled.clean, keeps, ?_⟩
  · intro campaign' isRow isSent
    obtain ⟨campaign, isCampaign, rfl⟩ := List.mem_map.1 isRow
    refine .inr ⟨campaign, isCampaign, ?_, ?_⟩
    · split
      · exact (writes.id campaign).symm
      · rfl
    · split at isSent
      next isSelected =>
        by_cases same : (change campaign).status = campaign.status
        · exact same.symm.trans isSent
        · exact absurd isSent (writes.status campaign isSelected same).2
      next => exact isSent
  · apply MarketingData.ClosedStay.update writes.id
    intro campaign _ isSelected isClosed
    by_contra differs
    cases isClosed.symm.trans (writes.status campaign isSelected differs).1

/-- Messages that are claimed or marked were open, so that those of a sent campaign stay. -/
theorem keeps_messages {selected : CampaignMessage → Bool}
    {change : CampaignMessage → CampaignMessage} (honest : data.Honest)
    (columns : ∀ message, (change message).columns = message.columns)
    (isOpen : ∀ message, selected message = true → message.isOpen = true)
    (tables : data'.tables = (data.updateMessages selected change).tables) :
    data'.Honest ∧ Advances data data' := by
  have campaigns := congrArg MarketingTables.campaigns tables
  have audience := congrArg MarketingTables.audience tables
  have messages := congrArg MarketingTables.messages tables
  have updated : data.Keeps (data.updateMessages selected change) :=
    MarketingData.keeps_updateMessages columns
  refine ⟨(honest.updateMessages columns isOpen).same campaigns audience messages, ?_, ?_⟩
  · exact updated.trans (MarketingData.keeps_of_same audience messages)
  · exact .of_same campaigns

theorem WorkerWrite.keeps (written : WorkerWrite MarketingData.Prepared job data now data')
    (fair : data.Fair data') (honest : data.Honest) : data'.Honest ∧ Advances data data' := by
  have same : ∀ {data' : MarketingData}, data'.tables.campaigns = data.tables.campaigns →
      data'.tables.audience = data.tables.audience →
        data'.tables.messages = data.tables.messages → data'.Honest ∧ Advances data data' :=
    fun campaigns audience messages =>
      ⟨honest.same campaigns audience messages, .of_same campaigns audience messages⟩
  cases written with
  | campaigns writes => exact writes.keeps honest
  | complete completedAt ends prepared =>
    have keeps := (MarketingData.BlindWrite.complete completedAt ends).keeps fair honest
      fun _ => prepared
    exact ⟨keeps.1, MarketingData.keeps_of_same rfl rfl, keeps.2⟩
  | claim =>
    refine keeps_messages honest (fun _ => ?_) (fun message isSelected => ?_) rfl
    · rfl
    · simp only [Bool.and_eq_true, beq_iff_eq] at isSelected
      simp [CampaignMessage.isOpen, isSelected.2]
  | stale campaignId since =>
    refine keeps_messages honest (fun _ => ?_) (fun message isStale => ?_) rfl
    · rfl
    · simp only [MarketingData.isStale, Bool.and_eq_true, beq_iff_eq] at isStale
      simp [CampaignMessage.isOpen, isStale.1.2]
  | mark writes =>
    refine keeps_messages honest (fun _ => ?_) (fun message isSelected => ?_) rfl
    · exact writes.columns _
    · simp only [Bool.and_eq_true, beq_iff_eq] at isSelected
      simp [CampaignMessage.isOpen, isSelected.2]
  | take => exact same rfl rfl rfl
  | create => exact same rfl rfl rfl
  | call => exact same rfl rfl rfl
  | release => exact same rfl rfl rfl

end

/-- A run of the worker, or what an operator does. -/
inductive CampaignCall where
  | worker (input : MarketingJob)
  | schedule (restaurantId campaignId : Id) (scheduledAt : Instant)
  | start (restaurantId campaignId : Id) (startedAt : Option Instant)
  | cancel (restaurantId campaignId : Id)

/-- Time passes, and what has nothing to do with campaigns changes. -/
structure Aside (store store' : MarketingStore) : Prop where
  later : store.now ≤ store'.now
  calls : store'.data.calls = store.data.calls
  holding : store'.data.holding = store.data.holding
  reserved : store'.data.reserved = store.data.reserved
  messages : store'.data.tables.messages = store.data.tables.messages
  audience : store'.data.tables.audience = store.data.tables.audience
  campaigns : store'.data.tables.campaigns = store.data.tables.campaigns

theorem Aside.advances {store store' : MarketingStore} (moved : Aside store store') :
    Advances store.data store'.data :=
  .of_same moved.campaigns moved.audience moved.messages

theorem Aside.traces {store store' : MarketingStore} (moved : Aside store store') (job : JobId) :
    store'.data.traces job = store.data.traces job := by
  simp only [MarketingData.traces, moved.calls, moved.holding, moved.reserved]

section

variable [WorkerEnv]

/-- Sent campaigns stay as they should be, and closed ones keep their status, as long as the blind
writes are fair. -/
def statusRules : Discipline JobId MarketingStore where
  inv store := store.data.SendsOnce ∧ store.data.Honest
  guar job store store' := Advances store.data store'.data ∧
    ∀ other, other ≠ job → store'.data.traces other = store.data.traces other
  tick := Aside
  meets _ store store' := store.data.Fair store'.data

theorem statusRules_advances {job : JobId} {store store' : MarketingStore}
    (rely : statusRules.Rely job store store') : Advances store.data store'.data := by
  rcases rely.2.2 with moved | ⟨other, _, guar⟩
  · exact moved.advances
  · exact guar.1

theorem stable_prepared (job : JobId) (campaignId : Id) :
    statusRules.Stable job fun store => store.data.Prepared campaignId :=
  fun _ _ rely prepared => prepared.keeps (statusRules_advances rely).keeps

variable {create : CampaignAudienceMember → CampaignMessage}

theorem keeps_prepare {job : JobId} {store : MarketingStore} (inv : statusRules.inv store)
    {campaignId : Id} (columns : ∀ member, (create member).columns =
      (WorkerEnv.uuid member.id, member.id, campaignId, member.customerId)) :
    statusRules.inv { store with
        data := store.data.createMessages ((store.data.audienceOf campaignId).map create) } ∧
      statusRules.guar job store { store with
        data := store.data.createMessages ((store.data.audienceOf campaignId).map create) } := by
  have grows : MessagesGrow store.data.tables.messages
      (store.data.createMessages ((store.data.audienceOf campaignId).map create)).tables.messages :=
    MarketingData.createMessages_grow _
  have keeps := MarketingData.keeps_createMessages
    ((store.data.audienceOf campaignId).map create) store.data
  have honest := inv.2.createMessages columns
  obtain ⟨messages, framed⟩ :=
    MarketingData.createMessages_frame ((store.data.audienceOf campaignId).map create) store.data
  rw [framed] at grows keeps honest ⊢
  exact ⟨⟨inv.1.grow grows rfl fun _ _ => id, honest⟩, ⟨keeps, .of_same rfl⟩, fun _ _ => rfl⟩

theorem prepared_createMessages (data : MarketingData) {campaignId : Id}
    (columns : ∀ member, (create member).columns =
      (WorkerEnv.uuid member.id, member.id, campaignId, member.customerId)) :
    (data.createMessages ((data.audienceOf campaignId).map create)).Prepared campaignId := by
  intro member isMember
  rw [MarketingData.audienceOf_of_keeps (MarketingData.keeps_createMessages _ data)] at isMember
  have isAsked : create member ∈ (data.audienceOf campaignId).map create :=
    List.mem_map_of_mem isMember
  have inWay := @MarketingData.hindered_createMessages data _ _ isAsked
  have same := columns member
  simp only [CampaignMessage.columns, Prod.mk.injEq] at same
  simpa only [same] using inWay

theorem prepares_campaign (job : JobId) (campaign : MarketingCampaign) :
    statusRules.Triple job (fun _ => True) (ensureCampaignMessages job campaign)
      fun _ store => store.data.Prepared campaign.id := by
  have quiet : ∀ store, statusRules.guar job store store :=
    fun store => ⟨.of_same rfl rfl rfl, fun _ _ => rfl⟩
  have stableAudience : ∀ audience, statusRules.Stable job
      fun store => store.data.audienceOf campaign.id = audience := by
    intro audience store store' rely same
    rw [MarketingData.audienceOf_of_keeps (statusRules_advances rely).keeps, same]
  apply Discipline.Triple.bind
    (Discipline.Triple.read (Discipline.stable_const True) quiet stableAudience fun _ _ _ => rfl)
  intro audience
  split
  next isEmpty =>
    apply Discipline.Triple.pure (stable_prepared job campaign.id)
    intro store _ same member isMember
    rw [same, List.isEmpty_iff.1 isEmpty] at isMember
    cases isMember
  next =>
    apply Discipline.Triple.update (stableAudience audience)
      (fun _ => stable_prepared job campaign.id)
    · intro store inv same
      subst same
      exact keeps_prepare inv fun _ => rfl
    · intro store _ same
      subst same
      exact prepared_createMessages store.data fun _ => rfl

theorem hosts_statusRules : Hosts statusRules MarketingData.Prepared where
  quiet _ _ := ⟨.of_same rfl rfl rfl, fun _ _ => rfl⟩
  writes inv written fair := by
    obtain ⟨honest, advances⟩ := written.keeps fair inv.2
    exact ⟨⟨inv.1.write written, honest⟩, advances, fun _ isOther => written.traces_other isOther⟩
  traces rely := by
    rcases rely.2.2 with moved | ⟨other, isOther, guar⟩
    · exact moved.traces _
    · exact guar.2 _ isOther.symm
  unclaimed inv isClaimable call isCall same := by
    obtain ⟨message, isRow, isPending⟩ := List.any_eq_true.1 isClaimable
    rw [Bool.and_eq_true, beq_iff_eq, beq_iff_eq] at isPending
    obtain ⟨rfl, isPending⟩ := isPending
    exact (inv.1.pending message isRow isPending).1 (same ▸ List.mem_map_of_mem isCall)
  prepares := prepares_campaign
  stays := stable_prepared
  keeps guar prepared := prepared.keeps guar.1.keeps

section

variable {job : JobId} {restaurantId campaignId : Id}

theorem minds_getMarketingCampaign {fact : Traces → Prop} :
    Minds statusRules job fact (getMarketingCampaign restaurantId campaignId) fun _ => fact :=
  Minds.look hosts_statusRules

theorem minds_updateCampaign {status : MarketingCampaignStatus}
    {change : Instant → MarketingCampaign → MarketingCampaign}
    (writes : ∀ (data : MarketingData) now, data.BlindWrite campaignId status
      (data.updateCampaigns (fun row => row.id == campaignId) (change now)))
    (isNotSent : status ≠ .SENT) :
    Minds statusRules job (fun _ => True) (updateCampaign job campaignId change)
      fun _ _ => True := by
  apply Discipline.Triple.updateWhen (Discipline.stable_const True)
    (fun _ => Discipline.stable_const True)
  · intro store inv _ fair
    have keeps := (writes store.data store.now).keeps fair inv.2 fun isSent => absurd isSent isNotSent
    refine ⟨⟨inv.1.same rfl rfl rfl, keeps.1⟩, ⟨?_, keeps.2⟩, fun _ _ => rfl⟩
    exact MarketingData.keeps_of_same rfl rfl
  · exact fun _ _ _ _ => trivial

theorem minds_assertDailyEmailBudget {campaign : MarketingCampaign} {sendAt : Instant}
    {excluded : Option Id} {fact : Traces → Prop} :
    Minds statusRules job fact (assertDailyEmailBudget campaign sendAt excluded) fun _ => fact := by
  have ends : ∀ result : Except CampaignError Unit, Minds statusRules job fact
      (Pure.pure result : MarketingProg (Except CampaignError Unit)) fun _ => fact :=
    fun _ => Minds.pure hosts_statusRules fun _ known => known
  unfold assertDailyEmailBudget
  split
  · exact ends _
  apply Minds.next (Minds.look hosts_statusRules)
  intro remaining
  split
  · exact ends _
  · exact ends _

theorem minds_schedule {scheduledAt : Instant} : Minds statusRules job (fun _ => True)
      (scheduleMarketingCampaign job restaurantId campaignId scheduledAt) fun _ _ => True := by
  have ends : ∀ result : Except CampaignError MarketingCampaign,
      Minds statusRules job (fun _ => True)
        (Pure.pure result : MarketingProg (Except CampaignError MarketingCampaign)) fun _ _ => True :=
    fun _ => Minds.pure hosts_statusRules fun _ _ => trivial
  apply Minds.next (Minds.look hosts_statusRules)
  intro now
  split
  · exact ends _
  apply Minds.next minds_getMarketingCampaign
  intro found
  cases found with
  | none => exact ends _
  | some campaign =>
    dsimp only
    split
    · exact ends _
    apply Minds.next minds_assertDailyEmailBudget
    intro budget
    cases budget with
    | error error => exact ends _
    | ok _ => exact minds_updateCampaign (fun _ _ => .schedule scheduledAt) nofun

theorem minds_start {startedAt : Option Instant} : Minds statusRules job (fun _ => True)
      (startMarketingCampaign job restaurantId campaignId startedAt) fun _ _ => True := by
  have ends : ∀ result : Except CampaignError MarketingCampaign,
      Minds statusRules job (fun _ => True)
        (Pure.pure result : MarketingProg (Except CampaignError MarketingCampaign)) fun _ _ => True :=
    fun _ => Minds.pure hosts_statusRules fun _ _ => trivial
  apply Minds.next (Minds.look hosts_statusRules)
  intro now
  apply Minds.next minds_getMarketingCampaign
  intro found
  cases found with
  | none => exact ends _
  | some campaign =>
    dsimp only
    split
    · exact ends _
    split
    · exact ends _
    apply Minds.next minds_assertDailyEmailBudget
    intro budget
    cases budget with
    | error error => exact ends _
    | ok _ =>
      apply Minds.next
      · refine minds_updateCampaigns hosts_statusRules fun _ =>
          ⟨fun _ => rfl, fun row isSelected _ => ⟨?_, nofun⟩⟩
        simp only [Bool.and_eq_true, Bool.or_eq_true, beq_iff_eq] at isSelected
        rcases isSelected.2 with isReady | isScheduled
        · simp [MarketingCampaign.isClosed, isReady]
        · simp [MarketingCampaign.isClosed, isScheduled]
      intro claimed
      split
      · exact ends _
      apply Minds.next minds_getMarketingCampaign
      intro updated
      cases updated with
      | none => exact ends _
      | some campaign => exact ends _

theorem minds_cancel : Minds statusRules job (fun _ => True)
      (cancelMarketingCampaign job restaurantId campaignId) fun _ _ => True := by
  have ends : ∀ result : Except CampaignError MarketingCampaign,
      Minds statusRules job (fun _ => True)
        (Pure.pure result : MarketingProg (Except CampaignError MarketingCampaign)) fun _ _ => True :=
    fun _ => Minds.pure hosts_statusRules fun _ _ => trivial
  apply Minds.next minds_getMarketingCampaign
  intro found
  cases found with
  | none => exact ends _
  | some campaign =>
    dsimp only
    split
    · exact ends _
    · exact minds_updateCampaign (fun _ now => .cancel now) nofun

end

section

variable [UnicodeLetters] [Sha256]

def CampaignCall.run (job : JobId) : CampaignCall → MarketingProg Unit
  | .worker input => do let _ ← processMarketingCampaignJob job input
  | .schedule restaurantId campaignId scheduledAt => do
      let _ ← scheduleMarketingCampaign job restaurantId campaignId scheduledAt
  | .start restaurantId campaignId startedAt => do
      let _ ← startMarketingCampaign job restaurantId campaignId startedAt
  | .cancel restaurantId campaignId => do
      let _ ← cancelMarketingCampaign job restaurantId campaignId

def campaignSystem (calls : JobId → CampaignCall) : System JobId MarketingStore Unit where
  code job := (calls job).run job
  crash := Store.release
  tick := Aside

theorem governs_statusRules (calls : JobId → CampaignCall) :
    statusRules.Governs (campaignSystem calls) fun _ _ _ => True where
  code job store inv := by
    have ends : Minds statusRules job (fun _ => True) (Pure.pure () : MarketingProg Unit)
        fun _ _ => True :=
      Minds.pure hosts_statusRules fun _ _ => trivial
    have minds : Minds statusRules job (fun _ => True) ((calls job).run job) fun _ _ => True := by
      cases calls job with
      | worker input => exact (minds_job hosts_statusRules).next fun _ => ends
      | schedule restaurantId campaignId scheduledAt => exact minds_schedule.next fun _ => ends
      | start restaurantId campaignId startedAt => exact minds_start.next fun _ => ends
      | cancel restaurantId campaignId => exact minds_cancel.next fun _ => ends
    exact minds store inv trivial
  crash job store inv := by
    exact ⟨inv, .of_same rfl rfl rfl, fun _ _ => rfl⟩
  tick store store' inv moved := by
    refine ⟨⟨inv.1.same moved.messages ?_ moved.holding, ?_⟩, moved⟩
    · rw [MarketingData.called, moved.calls]
      rfl
    · exact inv.2.same moved.campaigns moved.audience moved.messages

end

end

/-! ## A campaign cancelled while it is sent -/

section

attribute [local instance] UnicodeLetters.ascii Sha256.plain WorkerEnv.sending

def twoGuests : MarketingData where
  tables :=
    { customers := ["g0", "g1"].map fun id =>
        ⟨id, "restaurant", "+3360000000" ++ id, none, false, none⟩
      permissions := ["g0", "g1"].map fun id =>
        ⟨"restaurant", id, .SMS, .OPTED_IN, "FORM", none, none, none, none⟩
      permissionEvents := []
      optOuts := []
      suppressions := []
      customerConsents := []
      campaigns := [{ runningCampaign "campaign" with status := .READY, audienceCount := 2 }]
      audience := ["g0", "g1"].map fun id => ⟨id, "campaign", id, "ELIGIBLE"⟩
      messages := []
      windows := [] }
  calls := []
  holding _ := none
  reserved := []

def morning : MarketingStore where
  data := twoGuests
  now := 0
  owner lock := nomatch lock

/-- The first message cannot be prepared by a run. -/
def failingJob : MarketingJob where
  campaignId := "campaign"
  restaurantId := "restaurant"
  prepare messageId := if messageId = "g0" then some "SHORT_LINK_FAILED" else none
  provider _ := .success none
  batches := 1

def sendingJob : MarketingJob :=
  { failingJob with prepare := fun _ => none }

def operatorCalls : JobId → CampaignCall
  | 0 => .start "restaurant" "campaign" none
  | 1 => .worker failingJob
  | 2 => .worker sendingJob
  | _ => .cancel "restaurant" "campaign"

theorem twoGuests_unstarted : morning.data.Unstarted where
  calls := rfl
  holding _ := rfl
  reserved := rfl
  unique := by decide

theorem twoGuests_honest : morning.data.Honest := by
  intro campaign isRow isSent
  cases List.mem_singleton.1 isRow
  cases isSent

def MarketingData.statuses (data : MarketingData) :
    List MarketingCampaignStatus × List MarketingMessageStatus :=
  (data.tables.campaigns.map MarketingCampaign.status,
    data.tables.messages.map CampaignMessage.status)

/-- Enough for a move to be fair, and easy to check: it leaves the campaigns, or finds none closed
and every message, or sends none. -/
def isSeenFair (move : Move JobId MarketingStore) : Bool :=
  let campaigns := move.before.data.tables.campaigns
  let campaigns' := move.after.data.tables.campaigns
  decide (campaigns' = campaigns) ||
    campaigns.all (fun campaign => !campaign.isClosed) &&
      (move.before.data.tables.messages.all (fun message =>
          !message.isOpen && message.status != .FAILED) ||
        campaigns'.all fun campaign => campaign.status != .SENT)

theorem fair_of_isSeenFair {move : Move JobId MarketingStore} (isFair : isSeenFair move = true) :
    move.before.data.Fair move.after.data := by
  intro campaignId status written campaign isRow isIts differs
  obtain ⟨change, after, changes⟩ := written.shape
  simp only [isSeenFair, Bool.or_eq_true, Bool.and_eq_true, decide_eq_true_eq,
    List.all_eq_true] at isFair
  rcases isFair with same | ⟨isOpen, cleanOrUnsent⟩
  · -- The row is there after the write, with the status that is written.
    have isAfter : campaign ∈ move.after.data.tables.campaigns := same ▸ isRow
    rw [after] at isAfter
    obtain ⟨before, -, rfl⟩ := List.mem_map.1 isAfter
    split at differs
    next => exact absurd (changes before).2 differs
    next notSelected =>
      rw [if_neg notSelected] at isIts
      exact absurd (beq_iff_eq.2 isIts) notSelected
  · refine ⟨by simpa using isOpen campaign isRow, fun isSent => ?_⟩
    rcases cleanOrUnsent with clean | unsent
    · intro message isMessage _
      simpa using clean message isMessage
    · have changed : change campaign ∈ move.after.data.tables.campaigns := by
        rw [after]
        refine List.mem_map.2 ⟨campaign, isRow, ?_⟩
        rw [if_pos (beq_iff_eq.2 isIts)]
      have isUnsent := unsent _ changed
      rw [(changes campaign).2, isSent] at isUnsent
      cases isUnsent

end

end Sokar.Marketing
