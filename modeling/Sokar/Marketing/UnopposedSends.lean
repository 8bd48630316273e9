import Sokar.Marketing.CampaignWorker

/-!
# Workers and the opt-out register

Any number of workers run, statement by statement in any interleaving, and may crash.  While the
register stays as it is, they leave it alone and write to nobody who is in it.
-/

namespace Sokar.Marketing

open Process Transaction

structure Recipient where
  restaurantId : Id
  channel : MarketingChannel
  address : Option String
  deriving DecidableEq

def ProviderCall.recipient (call : ProviderCall) : Recipient where
  restaurantId := call.slot.restaurantId
  channel := call.slot.channel
  address := call.address

def MarketingData.recipients (data : MarketingData) : List Recipient :=
  data.calls.map ProviderCall.recipient

section

variable [UnicodeLetters] [MarketingEnv]

def MarketingOptOut.covers (entry : MarketingOptOut) (recipient : Recipient) : Prop :=
  ∃ addressHash, marketingOptOutHash recipient.restaurantId recipient.channel recipient.address =
      some addressHash ∧
    entry.key = (recipient.restaurantId, recipient.channel, addressHash)

def Recipient.isOpposed (recipient : Recipient) (optOuts : List MarketingOptOut) : Bool :=
  isMarketingOptedOut recipient.restaurantId recipient.channel recipient.address optOuts

variable {recipient : Recipient} {entry : MarketingOptOut} {optOuts : List MarketingOptOut}

theorem isOpposed_iff :
    recipient.isOpposed optOuts = true ↔ ∃ entry ∈ optOuts, entry.covers recipient := by
  unfold Recipient.isOpposed isMarketingOptedOut MarketingOptOut.covers
  cases hashed : marketingOptOutHash recipient.restaurantId recipient.channel recipient.address with
  | none => simp
  | some addressHash => simp [findRegisteredOptOutHashes]

theorem not_covers_of_unopposed (unopposed : recipient.isOpposed optOuts = false)
    (isEntry : entry ∈ optOuts) : ¬ entry.covers recipient := by
  intro covers
  rw [isOpposed_iff.2 ⟨entry, isEntry, covers⟩] at unopposed
  cases unopposed

end

section

variable [UnicodeLetters] [WorkerEnv] {optOuts : List MarketingOptOut} {before : List Recipient}
variable {job : JobId} {α β : Type}

/-- While the register stays, workers write to nobody who is in it. -/
def unopposedAccess (optOuts : List MarketingOptOut) (before : List Recipient) :
    Access MarketingData Empty JobId where
  inv data _ := data.tables.optOuts = optOuts ∧
    ∃ sent, data.recipients = before ++ sent ∧
      ∀ recipient ∈ sent, recipient.isOpposed optOuts = false
  writes _ _ _ := True
  inv_later _ holds := holds
  writes_refl _ _ := trivial
  writes_mono _ _ := trivial

/-- The program keeps to that, and returns what meets the condition. -/
def Abides (optOuts : List MarketingOptOut) (before : List Recipient) (job : JobId)
    (prog : MarketingProg α) (meets : α → Prop) : Prop :=
  (unopposedAccess optOuts before).Runs job ∅ (fun _ _ => True) prog ∅ fun value _ _ => meets value

namespace Abides

variable {meets : α → Prop} {final : β → Prop}

theorem bind {first : MarketingProg α} {rest : α → MarketingProg β}
    (abides : Abides optOuts before job first meets)
    (abidesRest : ∀ value, meets value → Abides optOuts before job (rest value) final) :
    Abides optOuts before job (first >>= rest) final := by
  apply Access.Runs.bind abides
  intro value
  apply Access.Runs.assuming (fun _ _ _ met => met)
  intro met
  exact Access.Runs.knowing (fun _ _ _ _ => trivial) (abidesRest value met)

/-- What a program returns does not matter. -/
theorem next {first : MarketingProg α} {rest : α → MarketingProg β}
    (abides : Abides optOuts before job first fun _ => True)
    (abidesRest : ∀ value, Abides optOuts before job (rest value) final) :
    Abides optOuts before job (first >>= rest) final :=
  abides.bind fun value _ => abidesRest value

theorem pure {value : α} (met : meets value) : Abides optOuts before job (Pure.pure value) meets :=
  Access.Runs.pure (Access.protects_const _) fun _ _ _ _ => met

theorem imp {meets' : α → Prop} {prog : MarketingProg α}
    (abides : Abides optOuts before job prog meets) (implied : ∀ value, meets value → meets' value) :
    Abides optOuts before job prog meets' :=
  Access.Runs.weaken abides subset_rfl subset_rfl (fun _ _ _ _ => trivial)
    fun value _ _ => implied value

variable {view : MarketingData → Instant → α}

/-- What a read learns while the register is as it is. -/
theorem query (holds : ∀ data now, data.tables.optOuts = optOuts → meets (view data now)) :
    Abides optOuts before job (Transaction.query view) meets := by
  have runs : (unopposedAccess optOuts before).Runs job ∅ (fun _ _ => True)
      (Transaction.query view) ∅ fun value _ _ => True ∧ meets value :=
    Access.Runs.read (Access.protects_const True) (fun _ => Access.protects_const _)
      fun data now inv _ => holds data now inv.1
  exact runs.weaken subset_rfl subset_rfl (fun _ _ _ _ => trivial) fun _ _ _ => And.right

theorem look : Abides optOuts before job (Transaction.query view) fun _ => True :=
  query fun _ _ _ => trivial

/-- A statement that leaves the register and writes to nobody. -/
theorem commit {change : MarketingData → Instant → MarketingData}
    (register : ∀ data now, (change data now).tables.optOuts = data.tables.optOuts)
    (silent : ∀ data now, (change data now).recipients = data.recipients) :
    Abides optOuts before job (Transaction.commit job view change) fun _ => True := by
  apply Access.Runs.commit (Access.protects_const True) (fun _ => Access.protects_const True)
  · intro data now inv _
    refine ⟨⟨(register data now).trans inv.1, ?_⟩, trivial⟩
    rw [silent]
    exact inv.2
  · exact fun _ _ _ _ => trivial

end Abides

section

variable {campaign : MarketingCampaign} {input : MarketingJob} {messageId : Id} {slot : WindowKey}

theorem abides_updateCampaigns {selected : MarketingCampaign → Bool}
    {change : Instant → MarketingCampaign → MarketingCampaign} :
    Abides optOuts before job (updateCampaigns job selected change) fun _ => True :=
  Abides.commit (fun _ _ => rfl) fun _ _ => rfl

theorem abides_markMessage {change : CampaignMessage → CampaignMessage} :
    Abides optOuts before job (markMessage job messageId change) fun _ => True :=
  Abides.commit (fun _ _ => rfl) fun _ _ => rfl

theorem abides_claimMessage :
    Abides optOuts before job (claimMessage job messageId) fun _ => True := by
  apply Abides.commit
  · intro data now
    split <;> rfl
  · intro data now
    split <;> rfl

theorem abides_reserve :
    Abides optOuts before job (reserveMarketingFrequencySlot job slot) fun _ => True := by
  have abides_take : Abides optOuts before job
      (commit job (fun data _ => data.hasFreeSlot slot) fun data _ =>
        if data.hasFreeSlot slot then data.takeSlot job slot else data) fun _ => True := by
    apply Abides.commit
    · intro data now
      split <;> rfl
    · intro data now
      split <;> rfl
  have abides_create : Abides optOuts before job
      (commit job (fun data _ => !data.hasWindow slot) fun data _ =>
        if data.hasWindow slot then data else data.createWindow job slot) fun _ => True := by
    apply Abides.commit
    · intro data now
      split <;> rfl
    · intro data now
      split <;> rfl
  apply abides_take.next
  intro taken
  cases taken with
  | true => exact Abides.pure trivial
  | false =>
    apply abides_create.next
    intro created
    cases created with
    | true => exact Abides.pure trivial
    | false => exact abides_take

omit [UnicodeLetters] [WorkerEnv] in
theorem recipients_releaseSlot (data : MarketingData) :
    (data.releaseSlot job messageId slot).recipients = data.recipients := by
  change (data.calls.map _).map ProviderCall.recipient = data.calls.map ProviderCall.recipient
  rw [List.map_map]
  apply List.map_congr_left
  intro call _
  simp only [Function.comp_apply]
  split <;> rfl

theorem abides_release :
    Abides optOuts before job (releaseMarketingFrequencySlot job messageId slot) fun _ => True :=
  Abides.commit (fun _ _ => rfl) fun data _ => recipients_releaseSlot data

omit [UnicodeLetters] [WorkerEnv] in
theorem createMessages_keeps (messages : List CampaignMessage) (data : MarketingData) :
    (data.createMessages messages).tables.optOuts = data.tables.optOuts ∧
      (data.createMessages messages).recipients = data.recipients := by
  unfold MarketingData.createMessages
  induction messages generalizing data with
  | nil => exact ⟨rfl, rfl⟩
  | cons message rest ih =>
    rw [List.foldl_cons]
    split
    next => exact ih data
    next => exact ih _

theorem abides_ensureCampaignMessages :
    Abides optOuts before job (ensureCampaignMessages job campaign) fun _ => True := by
  apply Abides.look.next
  intro audience
  split
  · exact Abides.pure trivial
  · exact Abides.commit (fun data _ => (createMessages_keeps _ data).1)
      fun data _ => (createMessages_keeps _ data).2

theorem abides_failStale {campaignId : Id} {now : Instant} :
    Abides optOuts before job (failStaleMessageClaims job campaignId now) fun _ => True := by
  have fails : Abides optOuts before job
      (commit job (fun data _ => data.tables.messages.countP (MarketingData.isStale campaignId now))
        fun data later => data.updateMessages (MarketingData.isStale campaignId now) fun message =>
          { message.closed .FAILED (some "STALE_CLAIM_MANUAL_REVIEW") with updatedAt := later })
      fun _ => True :=
    Abides.commit (fun _ _ => rfl) fun _ _ => rfl
  apply fails.next
  intro count
  split
  · exact abides_updateCampaigns.next fun _ => Abides.pure trivial
  · exact Abides.pure trivial

variable [Sha256] {customer : Customer} {restaurantId : Id} {channel : MarketingChannel}
variable {now : Instant}

def recipientOf (restaurantId : Id) (channel : MarketingChannel) (customer : Customer) : Recipient where
  restaurantId
  channel
  address := contactAddress channel customer.phone customer.emailNormalized

/-- Whoever may be written to is not in the register. -/
theorem abides_eligibility :
    Abides optOuts before job (eligibility restaurantId customer channel now) fun verdict =>
      verdict = .ok () → (recipientOf restaurantId channel customer).isOpposed optOuts = false := by
  have refused : ∀ reason, Abides optOuts before job
      (Pure.pure (.error reason) : MarketingProg (Except String Unit)) fun verdict =>
        verdict = .ok () → (recipientOf restaurantId channel customer).isOpposed optOuts = false :=
    fun _ => Abides.pure fun impossible => nomatch impossible
  apply Abides.look.next
  intro permission
  apply Abides.look.next
  intro suppression
  apply Abides.look.next
  intro activeCustomer
  dsimp only
  split
  · exact refused _
  split
  · exact refused _
  have checks : Abides optOuts before job
      (query fun data _ => loadOptedOut restaurantId channel customer.phone
        customer.emailNormalized data.tables.optOuts) fun optedOut =>
      optedOut = loadOptedOut restaurantId channel customer.phone customer.emailNormalized optOuts :=
    Abides.query fun data now same => by rw [same]
  apply checks.bind
  rintro optedOut rfl
  split
  · exact refused _
  split
  · exact refused _
  next known unopposed =>
  have unopposed : (recipientOf restaurantId channel customer).isOpposed optOuts = false := by
    unfold loadOptedOut at known unopposed
    split at known
    · simp at known
    next configured =>
      rw [if_neg configured, Option.some.injEq, Bool.not_eq_true] at unopposed
      exact unopposed
  -- What follows only reads, and may refuse for other reasons.
  suffices reads : Abides optOuts before job _ fun _ => True from reads.imp fun _ _ _ => unopposed
  have ends : ∀ verdict : Except String Unit, Abides optOuts before job
      (Pure.pure verdict : MarketingProg (Except String Unit)) fun _ => True :=
    fun _ => Abides.pure trivial
  split
  all_goals
    apply Abides.next
    · first
      | exact Abides.look
      | exact Abides.pure trivial
    · intro legacy
      repeat' split
      all_goals exact ends _

omit [Sha256] in
theorem abides_sendOne
    (unopposed : (recipientOf campaign.restaurantId campaign.channel customer).isOpposed optOuts =
      false) :
    Abides optOuts before job (sendOne job input campaign messageId customer
      ⟨campaign.restaurantId, customer.id, campaign.channel, dayStart now⟩) fun _ => True := by
  unfold sendOne
  split
  · exact Abides.pure trivial
  split
  · exact Abides.pure trivial
  split
  · exact Abides.pure trivial
  split
  · exact Abides.pure trivial
  refine Abides.next ?_ fun _ => Abides.pure trivial
  apply Access.Runs.commit (Access.protects_const True) (fun _ => Access.protects_const True)
  · intro data later inv _
    obtain ⟨register, sent, called, unopposedSent⟩ := inv
    refine ⟨⟨register, sent ++ [recipientOf campaign.restaurantId campaign.channel customer],
      ?_, ?_⟩, trivial⟩
    · change (data.calls ++ [_]).map ProviderCall.recipient = _
      rw [List.map_append, ← List.append_assoc, ← called]
      rfl
    · intro recipient isSent
      rcases List.mem_append.1 isSent with earlier | last
      · exact unopposedSent recipient earlier
      · rw [List.mem_singleton.1 last]
        exact unopposed
  · exact fun _ _ _ _ => trivial

omit [Sha256] in
theorem abides_recordAnswer {sent : Except String (Option String)} :
    Abides optOuts before job (recordAnswer job campaign messageId slot now sent) fun _ => True := by
  unfold recordAnswer
  cases sent with
  | ok providerMessageId =>
    apply abides_markMessage.next
    intro transitioned
    split
    · exact Abides.pure trivial
    · exact abides_updateCampaigns.next fun _ => Abides.pure trivial
  | error errorCode =>
    apply abides_markMessage.next
    intro transitioned
    split
    · exact Abides.pure trivial
    · apply abides_updateCampaigns.next
      intro _
      apply abides_updateCampaigns.next
      intro _
      split
      · exact abides_release.next fun _ => Abides.pure trivial
      · exact Abides.pure trivial

theorem abides_processClaimed :
    Abides optOuts before job (processClaimed job input campaign messageId customer now)
      fun _ => True := by
  have cancels : ∀ reason, Abides optOuts before job (do
      let _ ← markMessage job messageId (CampaignMessage.closed .CANCELLED (some reason))
      return MessageResult.unsent) fun _ => True :=
    fun reason => abides_markMessage.next fun _ => Abides.pure trivial
  apply abides_eligibility.bind
  intro first _
  split
  · exact (cancels _).next fun _ => Abides.pure trivial
  apply abides_reserve.next
  intro reserved
  split
  · exact (cancels _).next fun _ => Abides.pure trivial
  apply abides_eligibility.bind
  intro second allowed
  split
  · exact (cancels _).next fun _ => Abides.pure trivial
  next notRefused =>
  have unopposed := allowed (by
    cases second with
    | ok value => rfl
    | error reason => exact absurd rfl (notRefused reason))
  apply Abides.look.next
  intro beforeProvider
  split
  · exact cancels _
  · exact cancels _
  · exact abides_markMessage.next fun _ => Abides.pure trivial
  · exact abides_markMessage.next fun _ => Abides.pure trivial
  · exact abides_markMessage.next fun _ => Abides.pure trivial
  · exact (abides_sendOne unopposed).next fun _ => abides_recordAnswer

theorem abides_processMessage :
    Abides optOuts before job (processMessage job input campaign messageId customer now)
      fun _ => True := by
  apply Abides.look.next
  intro current
  split
  · exact Abides.pure trivial
  · exact Abides.pure trivial
  · apply abides_claimMessage.next
    intro claimed
    split
    · exact Abides.pure trivial
    · exact abides_processClaimed

theorem abides_processBatch {messages : List (CampaignMessage × Customer)} {counts : JobCounts} :
    Abides optOuts before job (processBatch job input campaign now messages counts)
      fun _ => True := by
  induction messages generalizing counts with
  | nil => exact Abides.pure trivial
  | cons message rest ih =>
    apply abides_processMessage.next
    intro result
    split
    · exact Abides.pure trivial
    · exact ih

theorem abides_processBatches {batches : Nat} {counts : JobCounts} :
    Abides optOuts before job (processBatches job input campaign now batches counts)
      fun _ => True := by
  induction batches generalizing counts with
  | zero => exact Abides.pure trivial
  | succ batches ih =>
    apply Abides.look.next
    intro latest
    split
    all_goals try exact Abides.pure trivial
    apply Abides.look.next
    intro messages
    split
    · exact Abides.pure trivial
    apply Abides.look.next
    intro isFull
    split
    · exact abides_updateCampaigns.next fun _ => Abides.pure trivial
    · exact abides_processBatch.next fun _ => ih

omit [Sha256] in
theorem abides_claimCampaign :
    Abides optOuts before job (claimCampaign job input campaign now) fun _ => True := by
  unfold claimCampaign
  dsimp only
  split
  · apply Abides.next
    · apply Abides.commit
      · intro data later
        split <;> rfl
      · intro data later
        split <;> rfl
    · intro verdict
      split
      · exact Abides.pure trivial
      · exact abides_updateCampaigns.next fun _ => Abides.pure trivial
  · exact abides_updateCampaigns.next fun _ => Abides.pure trivial

theorem abides_runCampaign :
    Abides optOuts before job (runCampaign job input campaign now) fun _ => True := by
  apply abides_ensureCampaignMessages.next
  intro _
  apply abides_failStale.next
  intro stale
  apply abides_processBatches.next
  intro counts
  apply Abides.look.next
  intro pending
  apply Abides.look.next
  intro sending
  split
  · exact abides_updateCampaigns.next fun _ => Abides.pure trivial
  · exact Abides.pure trivial

theorem abides_job :
    Abides optOuts before job (processMarketingCampaignJob job input) fun _ => True := by
  unfold processMarketingCampaignJob
  split
  · exact Abides.pure trivial
  apply Abides.look.next
  intro now
  apply Abides.look.next
  intro campaign
  split
  · exact Abides.pure trivial
  split
  · exact Abides.pure trivial
  split
  · exact Abides.pure trivial
  split
  · exact abides_updateCampaigns.next fun _ => Abides.pure trivial
  split
  · exact abides_runCampaign.next fun _ => Abides.pure trivial
  apply abides_claimCampaign.next
  intro claimed
  split
  · exact Abides.pure trivial
  · exact Abides.pure trivial
  · exact abides_runCampaign.next fun _ => Abides.pure trivial

end

def workerSystem [Sha256] (jobs : JobId → MarketingJob) :
    System JobId MarketingStore (Except JobError JobCounts) :=
  system fun job => processMarketingCampaignJob job (jobs job)

/-- Whatever workers do while nobody else touches the register, it stays, and they write to nobody
who is in it. -/
theorem workers_unopposed [Sha256] {jobs : JobId → MarketingJob} {store : MarketingStore}
    {c : Config JobId MarketingStore (Except JobError JobCounts)}
    (reaches : (workerSystem jobs).Reaches (.initial store) c) :
    c.shared.data.tables.optOuts = store.data.tables.optOuts ∧
      ∃ sent, c.shared.data.recipients = store.data.recipients ++ sent ∧
        ∀ recipient ∈ sent, recipient.isOpposed store.data.tables.optOuts = false := by
  have start : (unopposedAccess store.data.tables.optOuts store.data.recipients).inv store.data
      store.now :=
    ⟨rfl, [], (List.append_nil _).symm, fun _ impossible => nomatch impossible⟩
  exact (Access.reaches_sound (fun _ => abides_job) (fun _ _ _ _ _ => trivial) start reaches).1

end

end Sokar.Marketing
