import Sokar.Marketing.StickyOpposition

/-!
# Events of the providers

A provider reports what became of a message.  An event moves the message forward, and a complaint or
a permanent bounce bars the customer from the channel; but only if the message still could move.
-/

namespace Sokar.Marketing

inductive MarketingProvider where
  | telnyx | resend
  deriving DecidableEq

structure ProviderEvent where
  provider : MarketingProvider
  providerMessageId : String
  eventType : String
  providerStatus : Option String
  /-- None for a date that is missing or invalid. -/
  occurredAt : Option Instant
  errorCode : Option String
  deriving DecidableEq

structure ProviderTransition where
  status : MarketingMessageStatus
  errorCode : Option String
  deriving DecidableEq

/-- `/[A-Z0-9_:-]/` -/
def isErrorCodeChar (char : Char) : Bool :=
  char.isUpper || char.isDigit || ['_', ':', '-'].contains char

/-- Every run of other characters becomes an underscore. -/
def sanitizeProviderError [UnicodeCase] (value : Option String) : Option String :=
  (value.filter (· != "")).bind fun value =>
    let upper := (UnicodeCase.toUpperCase value).toList
    let runs := upper.splitBy fun left right => isErrorCodeChar left == isErrorCodeChar right
    let sanitized := runs.flatMap fun run => if run.all isErrorCodeChar then run else ['_']
    let bounded := String.ofList (sanitized.take 80)
    if bounded = "" then none else some bounded

variable (event : ProviderEvent)

def normalizeTelnyxEvent (errorCode : Option String) : Option ProviderTransition :=
  if event.eventType = "message.sent" then some ⟨.SENT, none⟩
  else if event.eventType ≠ "message.finalized" ∧ event.eventType ≠ "message.delivered" then none
  else if event.providerStatus = some "delivered" then some ⟨.DELIVERED, none⟩
  else if event.providerStatus.any
      (["delivery_failed", "sending_failed", "expired", "failed"].contains ·) then
    some ⟨.FAILED, errorCode⟩
  else if event.providerStatus.any
      (["sent", "queued", "sending", "delivery_unconfirmed", "dlr_timeout"].contains ·) then
    some ⟨.SENT, none⟩
  else none

def normalizeResendEvent (errorCode : Option String) : Option ProviderTransition :=
  if ["email.sent", "email.scheduled", "email.queued"].contains event.eventType then
    some ⟨.SENT, none⟩
  else if ["email.delivered", "email.opened", "email.clicked"].contains event.eventType then
    some ⟨.DELIVERED, none⟩
  else if event.eventType = "email.bounced" then some ⟨.BOUNCED, errorCode⟩
  else if event.eventType = "email.complained" then some ⟨.COMPLAINED, errorCode⟩
  else if ["email.failed", "email.suppressed"].contains event.eventType then
    some ⟨.FAILED, errorCode⟩
  else none

def normalizeMarketingProviderEvent [UnicodeCase] : Option ProviderTransition :=
  let errorCode := sanitizeProviderError event.errorCode
  match event.provider with
  | .telnyx => normalizeTelnyxEvent event errorCode
  | .resend => normalizeResendEvent event errorCode

def MarketingMessageStatus.rank : MarketingMessageStatus → Nat
  | .PENDING => 0
  | .SENDING => 1
  | .ACCEPTED => 2
  | .SENT => 3
  | .DELIVERED => 4
  | .FAILED | .BOUNCED | .COMPLAINED => 5
  | .CANCELLED => 6

def TERMINAL_FAILURES : List MarketingMessageStatus :=
  [.FAILED, .BOUNCED, .COMPLAINED, .CANCELLED]

def canTransition (current next : MarketingMessageStatus) : Bool :=
  if current = next then false
  else if current = .CANCELLED then false
  else if current = .DELIVERED then false
  else if TERMINAL_FAILURES.contains current then false
  else if next = .FAILED ∨ next = .BOUNCED then current == .ACCEPTED || current == .SENT
  else if next = .COMPLAINED then current == .ACCEPTED || current == .SENT
  else current.rank < next.rank

def suppressionReasonFor (transition : ProviderTransition) : Option String :=
  if transition.status = .COMPLAINED then some "COMPLAINED"
  else if transition.status = .BOUNCED ∧ transition.errorCode ≠ some "TRANSIENT" then
    some "HARD_BOUNCE"
  else none

def MarketingProvider.name : MarketingProvider → String
  | .telnyx => "telnyx"
  | .resend => "resend"

def MarketingProvider.source : MarketingProvider → String
  | .telnyx => "TELNYX_WEBHOOK"
  | .resend => "RESEND_WEBHOOK"

def MarketingMessageStatus.name : MarketingMessageStatus → String
  | .PENDING => "PENDING"
  | .SENDING => "SENDING"
  | .ACCEPTED => "ACCEPTED"
  | .SENT => "SENT"
  | .DELIVERED => "DELIVERED"
  | .FAILED => "FAILED"
  | .BOUNCED => "BOUNCED"
  | .COMPLAINED => "COMPLAINED"
  | .CANCELLED => "CANCELLED"

def MarketingSuppression.key (suppression : MarketingSuppression) :
    Id × Option MarketingChannel × String :=
  (suppression.customerId, suppression.channel, suppression.reason)

inductive ProviderEventError where
  | MARKETING_OPTOUT_REGISTER_UNAVAILABLE
  deriving DecidableEq

/-- An event is of no concern, is kept until its message is known, finds the message at a status
that it leaves, or moves it. -/
inductive ProviderEventResult where
  | ignored
  | unmatched
  | unchanged (status : MarketingMessageStatus)
  | changed (status : MarketingMessageStatus)
  deriving DecidableEq

structure EventTarget where
  message : CampaignMessage
  restaurantId : Id
  deriving DecidableEq

/-- The key under which the customer is suppressed. -/
def EventTarget.suppressionKey (target : EventTarget) (reason : String) :
    Id × Option MarketingChannel × String :=
  (target.message.customerId, some target.message.channel, reason)

def EventTarget.suppressionFor (target : EventTarget) (reason source : String) :
    MarketingSuppression where
  restaurantId := target.restaurantId
  customerId := target.message.customerId
  channel := some target.message.channel
  reason := reason
  source := source
  expiresAt := none

namespace MarketingTables

variable (tables : MarketingTables)

def eventTarget (event : ProviderEvent) : Option EventTarget :=
  (tables.messages.find? fun message => message.provider == some event.provider.name &&
      message.providerMessageId == some (trim event.providerMessageId)).bind fun message =>
    (tables.campaigns.find? (·.id == message.campaignId)).map fun campaign =>
      ⟨message, campaign.restaurantId⟩

def contact? (target : EventTarget) : Option Customer :=
  tables.customers.find? fun customer =>
    customer.id == target.message.customerId && customer.restaurantId == target.restaurantId

/-- A suppression that is there is left as it is. -/
def suppress (target : EventTarget) (reason source : String) : MarketingTables :=
  { tables with
    suppressions := KeyedRows.upsert MarketingSuppression.key (target.suppressionKey reason)
      (target.suppressionFor reason source) id tables.suppressions }

def moveMessage (message : CampaignMessage) (transition : ProviderTransition)
    (occurredAt now : Instant) : MarketingTables :=
  { tables with
    messages := KeyedRows.update (fun row => row.id == message.id && row.status == message.status)
      (fun row =>
        { row with
          status := transition.status
          errorCode := transition.errorCode.or row.errorCode
          acceptedAt := if transition.status = .DELIVERED then row.acceptedAt.or (some occurredAt)
            else row.acceptedAt
          sentAt := if transition.status = .SENT ∨ transition.status = .DELIVERED then
            row.sentAt.or (some occurredAt) else row.sentAt
          deliveredAt := if transition.status = .DELIVERED then
            row.deliveredAt.or (some occurredAt) else row.deliveredAt
          updatedAt := now }) tables.messages }

def countEvent (campaignId : Id) (transition : ProviderTransition) : MarketingTables :=
  { tables with
    campaigns := KeyedRows.update (·.id == campaignId) (fun campaign =>
      if transition.status = .DELIVERED then
        { campaign with deliveredCount := campaign.deliveredCount + 1 }
      else if [.FAILED, .BOUNCED, .COMPLAINED].contains transition.status then
        { campaign with
          failedCount := campaign.failedCount + 1
          lastErrorCode := some (transition.errorCode.getD
            ("PROVIDER_" ++ transition.status.name)) }
      else campaign) tables.campaigns }

end MarketingTables

variable (calls : List (ProviderEvent × Instant))

variable (tables : MarketingTables)

section

variable [UnicodeLetters] [MarketingEnv]

omit [UnicodeLetters] [MarketingEnv] in
/-- A complaint is noted in the register with the address of the customer. -/
def complaint (target : EventTarget) (source : String) (occurredAt : Instant) : OptOutInput where
  restaurantId := target.restaurantId
  channel := target.message.channel
  address := (tables.contact? target).bind fun contact =>
    contactAddress target.message.channel contact.phone contact.emailNormalized
  reason := .COMPLAINT
  source := source
  occurredAt := some occurredAt

/-- One event, in its transaction.  When the register cannot be written, only the suppression is
kept of a complaint. -/
def applyMarketingProviderEvent (now : Instant) (tables : MarketingTables) :
    Except ProviderEventError ProviderEventResult × MarketingTables :=
  match normalizeMarketingProviderEvent event with
  | none => (.ok .ignored, tables)
  | some transition =>
    let occurredAt := event.occurredAt.getD now
    let source := event.provider.source
    if trim event.providerMessageId = "" then (.ok .ignored, tables)
    else
      match tables.eventTarget event with
      | none => (.ok .unmatched, tables)
      | some target =>
        let moved := fun tables : MarketingTables =>
          (tables.moveMessage target.message transition occurredAt now).countEvent
            target.message.campaignId transition
        if !canTransition target.message.status transition.status then
          (.ok (.unchanged target.message.status), tables)
        else if transition.status = .COMPLAINED then
          if !(tables.contact? target).any (!·.archived) then (.ok .unmatched, tables)
          else
            let suppressed := tables.suppress target "COMPLAINED" source
            match registerMarketingOptOut (complaint tables target source occurredAt) now
                tables.optOuts with
            | (.REGISTERED, optOuts) =>
              (.ok (.changed transition.status), { moved suppressed with optOuts })
            | _ => (.error .MARKETING_OPTOUT_REGISTER_UNAVAILABLE, suppressed)
        else
          match suppressionReasonFor transition with
          | some reason =>
            (.ok (.changed transition.status), (moved tables).suppress target reason source)
          | none => (.ok (.changed transition.status), moved tables)

/-- The tables after events that come one after another. -/
def afterEvents (tables : MarketingTables) : MarketingTables :=
  calls.foldl (fun tables call => (applyMarketingProviderEvent call.1 call.2 tables).2) tables

end

namespace MarketingTables

/-- A suppression bars the customer from the channel. -/
def isSuppressed (customerId : Id) (channel : MarketingChannel) (now : Instant) : Bool :=
  tables.suppressions.any fun suppression => suppression.customerId == customerId &&
    suppression.channel.all (· == channel) && suppression.expiresAt.all (now < ·)

/-- A suppression without an end does. -/
def isBarred (customerId : Id) (channel : MarketingChannel) : Bool :=
  tables.suppressions.any fun suppression => suppression.customerId == customerId &&
    suppression.channel.all (· == channel) && suppression.expiresAt.isNone

variable {tables tables' : MarketingTables} {customerId : Id} {channel : MarketingChannel}
variable {target : EventTarget} {reason : String}

theorem isSuppressed_of_isBarred (barred : tables.isBarred customerId channel = true)
    (now : Instant) : tables.isSuppressed customerId channel now = true := by
  unfold isBarred at barred
  unfold isSuppressed
  rw [List.any_eq_true] at barred ⊢
  obtain ⟨suppression, isRow, holds⟩ := barred
  refine ⟨suppression, isRow, ?_⟩
  rw [Bool.and_eq_true, Option.isNone_iff_eq_none] at holds
  rw [Bool.and_eq_true, holds.2]
  exact ⟨holds.1, rfl⟩

theorem exists_past (suppressions : List MarketingSuppression) :
    ∃ now : Instant, ∀ suppression ∈ suppressions, ∀ expiresAt ∈ suppression.expiresAt,
      expiresAt ≤ now := by
  induction suppressions with
  | nil => exact ⟨0, fun _ isRow => absurd isRow List.not_mem_nil⟩
  | cons suppression rest ih =>
    obtain ⟨now, past⟩ := ih
    refine ⟨max now (suppression.expiresAt.getD 0), ?_⟩
    intro row isRow expiresAt expires
    rcases List.mem_cons.1 isRow with rfl | isRest
    · rw [Option.mem_def.1 expires]
      exact le_max_right _ _
    · exact (past row isRest expiresAt expires).trans (le_max_left _ _)

/-- Only what has no end lasts at all times. -/
theorem isBarred_iff : tables.isBarred customerId channel = true ↔
      ∀ now, tables.isSuppressed customerId channel now = true := by
  refine ⟨fun barred => isSuppressed_of_isBarred barred, fun lasts => ?_⟩
  obtain ⟨now, past⟩ := exists_past tables.suppressions
  have suppressed := lasts now
  unfold isSuppressed at suppressed
  unfold isBarred
  rw [List.any_eq_true] at suppressed ⊢
  obtain ⟨suppression, isRow, holds⟩ := suppressed
  refine ⟨suppression, isRow, ?_⟩
  rw [Bool.and_eq_true] at holds ⊢
  refine ⟨holds.1, ?_⟩
  cases expires : suppression.expiresAt with
  | none => rfl
  | some expiresAt =>
    have ended := past suppression isRow expiresAt expires
    rw [expires, Option.all_some, decide_eq_true_eq] at holds
    exact absurd holds.2 (not_lt_of_ge ended)

theorem isBarred_of_subset (sub : tables.suppressions ⊆ tables'.suppressions)
    (barred : tables.isBarred customerId channel = true) :
    tables'.isBarred customerId channel = true := by
  unfold isBarred at barred ⊢
  rw [List.any_eq_true] at barred ⊢
  obtain ⟨suppression, isRow, holds⟩ := barred
  exact ⟨suppression, sub isRow, holds⟩

/-- No suppression with a key ends. -/
def Unending (tables : MarketingTables) (key : Id × Option MarketingChannel × String) : Prop :=
  ∀ suppression ∈ tables.suppressions, suppression.key = key → suppression.expiresAt = none

theorem suppress_of_found {suppression : MarketingSuppression} (source : String)
    (found : KeyedRows.lookup MarketingSuppression.key tables.suppressions
      (target.suppressionKey reason) = some suppression) :
    (tables.suppress target reason source).suppressions = tables.suppressions :=
  KeyedRows.upsert_id_of_found found

theorem suppress_of_absent (source : String)
    (absent : KeyedRows.lookup MarketingSuppression.key tables.suppressions
      (target.suppressionKey reason) = none) :
    (tables.suppress target reason source).suppressions =
      tables.suppressions ++ [target.suppressionFor reason source] :=
  KeyedRows.upsert_of_absent absent

theorem subset_suppress (source : String) :
    tables.suppressions ⊆ (tables.suppress target reason source).suppressions := by
  cases found : KeyedRows.lookup MarketingSuppression.key tables.suppressions
      (target.suppressionKey reason) with
  | some suppression =>
    rw [suppress_of_found source found]
    exact List.Subset.refl _
  | none =>
    rw [suppress_of_absent source found]
    exact List.subset_append_left _ _

/-- The upsert bars the customer, unless it meets a suppression that ends. -/
theorem isBarred_suppress (source : String) :
    (tables.suppress target reason source).isBarred target.message.customerId
        target.message.channel = true ↔
      tables.isBarred target.message.customerId target.message.channel = true ∨
        tables.Unending (target.suppressionKey reason) := by
  cases found : KeyedRows.lookup MarketingSuppression.key tables.suppressions
      (target.suppressionKey reason) with
  | some suppression =>
    have bars : tables.Unending (target.suppressionKey reason) →
        tables.isBarred target.message.customerId target.message.channel = true := by
      intro unending
      have isRow := KeyedRows.mem_of_lookup found
      have isKey := KeyedRows.key_of_lookup found
      have sameKey := Prod.mk.inj isKey
      unfold isBarred
      rw [List.any_eq_true]
      refine ⟨suppression, isRow, ?_⟩
      rw [unending suppression isRow isKey, sameKey.1, (Prod.mk.inj sameKey.2).1]
      simp
    unfold isBarred at bars ⊢
    rw [suppress_of_found source found]
    exact ⟨Or.inl, fun holds => holds.elim id bars⟩
  | none =>
    have unending : tables.Unending (target.suppressionKey reason) :=
      fun suppression isRow isKey =>
        absurd isKey (KeyedRows.lookup_eq_none.1 found suppression isRow)
    refine ⟨fun _ => Or.inr unending, fun _ => ?_⟩
    unfold isBarred
    rw [suppress_of_absent source found, List.any_append, Bool.or_eq_true]
    right
    simp [EventTarget.suppressionFor]

end MarketingTables

section

variable [UnicodeLetters] [MarketingEnv] {event : ProviderEvent} {now : Instant}
variable {tables tables' : MarketingTables} {transition : ProviderTransition}
variable {target : EventTarget} {customer : Customer}

open MarketingTables

/-- Suppressions stay, and so do the entries of the register. -/
structure Keeps (tables tables' : MarketingTables) : Prop where
  suppressions : tables.suppressions ⊆ tables'.suppressions
  optOuts : ∀ entry ∈ tables.optOuts, ∃ entry' ∈ tables'.optOuts, entry'.key = entry.key

omit [UnicodeLetters] [MarketingEnv] in
theorem Keeps.refl (tables : MarketingTables) : Keeps tables tables where
  suppressions := List.Subset.refl _
  optOuts entry isEntry := ⟨entry, isEntry, rfl⟩

omit [UnicodeLetters] [MarketingEnv] in
theorem Keeps.trans {tables'' : MarketingTables} (first : Keeps tables tables')
    (second : Keeps tables' tables'') : Keeps tables tables'' where
  suppressions := List.Subset.trans first.suppressions second.suppressions
  optOuts entry isEntry := by
    obtain ⟨entry', isEntry', sameKey⟩ := first.optOuts entry isEntry
    obtain ⟨entry'', isEntry'', sameKey'⟩ := second.optOuts entry' isEntry'
    exact ⟨entry'', isEntry'', sameKey'.trans sameKey⟩

theorem Keeps.isOpposed {recipient : Recipient} (keeps : Keeps tables tables')
    (opposed : recipient.isOpposed tables.optOuts = true) :
    recipient.isOpposed tables'.optOuts = true := by
  obtain ⟨entry, isEntry, addressHash, hashed, isKey⟩ := isOpposed_iff.1 opposed
  obtain ⟨entry', isEntry', sameKey⟩ := keeps.optOuts entry isEntry
  exact isOpposed_iff.2 ⟨entry', isEntry', addressHash, hashed, sameKey.trans isKey⟩

/-- A registration that succeeds puts the address into the register. -/
theorem isOpposed_of_registered {input : OptOutInput} {optOuts : List MarketingOptOut}
    (registered : (registerMarketingOptOut input now optOuts).1 = .REGISTERED) :
    input.recipient.isOpposed (registerMarketingOptOut input now optOuts).2 = true := by
  unfold registerMarketingOptOut at registered ⊢
  split at registered
  next => cases registered
  next configured =>
      rw [if_neg configured]
      split at registered
      next => cases registered
      next addressHash hashed =>
          refine isOpposed_iff.2 ((KeyedRows.exists_mem_upsert ?_ ?_).imp fun entry holds =>
            ⟨holds.1, addressHash, hashed, holds.2⟩)
          · exact fun _ => rfl
          · rfl

/-- An event keeps what it finds, whatever becomes of its message. -/
theorem keeps_apply (event : ProviderEvent) (now : Instant) (tables : MarketingTables) :
    Keeps tables (applyMarketingProviderEvent event now tables).2 := by
  unfold applyMarketingProviderEvent
  split
  next => exact .refl tables
  next transition _ =>
      simp only
      split
      next => exact .refl tables
      split
      next => exact .refl tables
      next target _ =>
          split
          next => exact .refl tables
          split
          next =>
              split
              next => exact .refl tables
              split
              next optOuts registered =>
                  refine ⟨subset_suppress _, fun entry isEntry => ?_⟩
                  obtain ⟨entry', isEntry', sameKey⟩ := register_keeps isEntry
                  rw [registered] at isEntry'
                  exact ⟨entry', isEntry', sameKey⟩
              next => exact ⟨subset_suppress _, (Keeps.refl tables).optOuts⟩
          next =>
              split
              next => exact ⟨subset_suppress _, (Keeps.refl tables).optOuts⟩
              next => exact ⟨List.Subset.refl _, (Keeps.refl tables).optOuts⟩

theorem keeps_afterEvents (tables : MarketingTables) : Keeps tables (afterEvents calls tables) := by
  induction calls generalizing tables with
  | nil => exact .refl tables
  | cons call rest ih => exact (keeps_apply call.1 call.2 tables).trans (ih _)

/-! ## What bars a customer -/

omit [UnicodeLetters] [MarketingEnv] in
/-- Only a message that is on its way to the customer moves to a state that bars. -/
theorem canTransition_iff {reason : String} (bars : suppressionReasonFor transition = some reason)
    (current : MarketingMessageStatus) :
    canTransition current transition.status = true ↔ current = .ACCEPTED ∨ current = .SENT := by
  have isFailure : transition.status = .COMPLAINED ∨ transition.status = .BOUNCED := by
    unfold suppressionReasonFor at bars
    split_ifs at bars with complained bounced
    · exact Or.inl complained
    · exact Or.inr bounced.1
  rcases isFailure with isStatus | isStatus <;> rw [isStatus] <;> cases current <;> decide

def EventTarget.recipient (target : EventTarget) (customer : Customer) : Recipient where
  restaurantId := target.restaurantId
  channel := target.message.channel
  address := contactAddress target.message.channel customer.phone customer.emailNormalized

/-- The customer is barred from the channel, and after a complaint the address is in the
register. -/
def Blocks (tables : MarketingTables) (target : EventTarget) (customer : Customer)
    (transition : ProviderTransition) (now : Instant) : Prop :=
  tables.isSuppressed target.message.customerId target.message.channel now = true ∧
    (transition.status = .COMPLAINED →
      (target.recipient customer).isOpposed tables.optOuts = true)

section

variable {reason : String} {result : ProviderEventResult}

section

variable (normalized : normalizeMarketingProviderEvent event = some transition)
include normalized

theorem apply_of_stuck (named : trim event.providerMessageId ≠ "")
    (isTarget : tables.eventTarget event = some target)
    (stuck : canTransition target.message.status transition.status = false) :
    (applyMarketingProviderEvent event now tables).2 = tables := by
  unfold applyMarketingProviderEvent
  rw [normalized]
  simp only [if_neg named, isTarget, stuck, Bool.not_false, if_true]

/-- A message that moves leaves what the upsert and the register leave. -/
theorem apply_of_moves (bars : suppressionReasonFor transition = some reason)
    (named : trim event.providerMessageId ≠ "")
    (isTarget : tables.eventTarget event = some target)
    (isContact : tables.contact? target = some customer) (active : customer.archived = false)
    (moves : canTransition target.message.status transition.status = true)
    (succeeds : (applyMarketingProviderEvent event now tables).1 = .ok result) :
    (applyMarketingProviderEvent event now tables).2.suppressions =
        (tables.suppress target reason event.provider.source).suppressions ∧
      (transition.status = .COMPLAINED → (target.recipient customer).isOpposed
        (applyMarketingProviderEvent event now tables).2.optOuts = true) := by
  unfold applyMarketingProviderEvent at succeeds ⊢
  rw [normalized] at succeeds ⊢
  simp only [if_neg named, isTarget, moves, Bool.not_true, Bool.false_eq_true, if_false]
    at succeeds ⊢
  by_cases complained : transition.status = .COMPLAINED
  · have isReason : reason = "COMPLAINED" := by
      rw [suppressionReasonFor, if_pos complained] at bars
      exact (Option.some.inj bars).symm
    have isActive : (tables.contact? target).any (!·.archived) = true := by
      rw [isContact, Option.any_some, active]
      rfl
    rw [if_pos complained] at succeeds ⊢
    simp only [isActive, Bool.not_true, Bool.false_eq_true, if_false] at succeeds ⊢
    split at succeeds
    next optOuts registered =>
        rw [isReason]
        refine ⟨rfl, fun _ => ?_⟩
        have opposed := isOpposed_of_registered (congrArg Prod.fst registered)
        rw [registered] at opposed
        unfold complaint at opposed
        rw [isContact] at opposed
        exact opposed
    next => cases succeeds
  · rw [if_neg complained, bars]
    exact ⟨rfl, fun isComplaint => absurd isComplaint complained⟩

end

/-- A complaint or a permanent bounce blocks for good, whatever events follow, if and only if the
message was on its way and no suppression under its key ends, or the customer was barred before. -/
theorem blocks_iff (normalized : normalizeMarketingProviderEvent event = some transition)
    (bars : suppressionReasonFor transition = some reason)
    (named : trim event.providerMessageId ≠ "") (isTarget : tables.eventTarget event = some target)
    (isContact : tables.contact? target = some customer) (active : customer.archived = false)
    (succeeds : (applyMarketingProviderEvent event now tables).1 = .ok result) :
    (∀ calls instant, Blocks (afterEvents calls (applyMarketingProviderEvent event now tables).2)
        target customer transition instant) ↔
      (tables.isBarred target.message.customerId target.message.channel = true ∨
        (target.message.status = .ACCEPTED ∨ target.message.status = .SENT) ∧
          tables.Unending (target.suppressionKey reason)) ∧
      (transition.status = .COMPLAINED →
        (target.message.status = .ACCEPTED ∨ target.message.status = .SENT) ∨
          (target.recipient customer).isOpposed tables.optOuts = true) := by
  have lasts : (∀ calls instant, Blocks
        (afterEvents calls (applyMarketingProviderEvent event now tables).2) target customer
        transition instant) ↔
      (applyMarketingProviderEvent event now tables).2.isBarred target.message.customerId
          target.message.channel = true ∧
        (transition.status = .COMPLAINED → (target.recipient customer).isOpposed
          (applyMarketingProviderEvent event now tables).2.optOuts = true) := by
    constructor
    · intro blocks
      exact ⟨isBarred_iff.2 fun instant => (blocks [] instant).1, (blocks [] 0).2⟩
    · rintro ⟨barred, opposed⟩ calls instant
      have keeps := keeps_afterEvents calls (applyMarketingProviderEvent event now tables).2
      exact ⟨isSuppressed_of_isBarred (isBarred_of_subset keeps.suppressions barred) instant,
        fun complained => keeps.isOpposed (opposed complained)⟩
  rw [lasts, ← canTransition_iff bars]
  cases moves : canTransition target.message.status transition.status with
  | false =>
    rw [apply_of_stuck normalized named isTarget moves]
    simp
  | true =>
    obtain ⟨suppressed, opposed⟩ :=
      apply_of_moves normalized bars named isTarget isContact active moves succeeds
    have barred : (tables.suppress target reason event.provider.source).isBarred _ _ = true ↔ _ :=
      isBarred_suppress event.provider.source
    unfold isBarred at barred ⊢
    rw [suppressed, barred]
    simp only [true_and, true_or, implies_true, and_true]
    exact ⟨And.left, fun holds => ⟨holds, opposed⟩⟩

end

end

section

/-- The text of an address stands for its hash. -/
@[reducible] def plainSecret : MarketingEnv where
  MARKETING_OPTOUT_HASH_SECRET := some "0123456789abcdef0123456789abcdef"
  hmac _ text := text

attribute [local instance] UnicodeLetters.ascii plainSecret

def newsletterGuest : Customer where
  id := "customer"
  restaurantId := "restaurant"
  phone := "+33600000001"
  emailNormalized := some "guest@example.org"
  archived := false
  mergedIntoId := none

def sentNewsletter : CampaignMessage where
  id := "message"
  campaignId := "campaign"
  audienceMemberId := "member"
  customerId := "customer"
  channel := .EMAIL
  status := .SENT
  provider := some "resend"
  providerMessageId := some "email"
  errorCode := none
  acceptedAt := some 0
  sentAt := some 0
  deliveredAt := none
  updatedAt := 0

def newsletter : MarketingCampaign where
  id := "campaign"
  restaurantId := "restaurant"
  channel := .EMAIL
  status := .SENDING
  scheduledAt := none
  audienceCount := 1
  automated := false
  targetServiceStart := none
  targetServiceEnd := none
  acceptedCount := 1
  deliveredCount := 0
  failedCount := 0
  startedAt := some 0
  completedAt := none
  lastErrorCode := none

def newsletterTables : MarketingTables where
  customers := [newsletterGuest]
  permissions := []
  permissionEvents := []
  optOuts := []
  suppressions := []
  customerConsents := []
  campaigns := [newsletter]
  audience := []
  messages := [sentNewsletter]
  windows := []

def newsletterEvent (eventType : String) : ProviderEvent where
  provider := .resend
  providerMessageId := "email"
  eventType := eventType
  providerStatus := none
  occurredAt := some 1
  errorCode := none

/-- A complaint about a message that is on its way blocks, also when the delivery is reported
afterwards. -/
theorem blocks_of_sent : Blocks (afterEvents [(newsletterEvent "email.delivered", 3)]
        (applyMarketingProviderEvent (newsletterEvent "email.complained") 2 newsletterTables).2)
      ⟨sentNewsletter, "restaurant"⟩ newsletterGuest ⟨.COMPLAINED, none⟩ 4 := by
  have bars : suppressionReasonFor ⟨.COMPLAINED, none⟩ = some "COMPLAINED" := rfl
  have succeeds : (applyMarketingProviderEvent (newsletterEvent "email.complained") 2
      newsletterTables).1 = .ok (.changed .COMPLAINED) := by
    decide
  have always : ∀ calls instant, Blocks (afterEvents calls
      (applyMarketingProviderEvent (newsletterEvent "email.complained") 2 newsletterTables).2)
      ⟨sentNewsletter, "restaurant"⟩ newsletterGuest ⟨.COMPLAINED, none⟩ instant :=
    (blocks_iff (by decide) bars (by decide) (by decide) (by decide) rfl succeeds).2
      ⟨Or.inr ⟨Or.inr rfl, fun _ isRow => absurd isRow List.not_mem_nil⟩,
        fun _ => Or.inl (Or.inr rfl)⟩
  exact always _ 4

/-- The complaint about a message that was delivered is processed, and bars nobody. -/
theorem complaint_after_delivery_passes :
    ∃ (calls : List (ProviderEvent × Instant)) (event : ProviderEvent)
        (transition : ProviderTransition) (target : EventTarget) (result : ProviderEventResult),
      let tables := afterEvents calls newsletterTables
      let processed := applyMarketingProviderEvent event 2 tables
      normalizeMarketingProviderEvent event = some transition ∧
        transition.status = .COMPLAINED ∧ tables.eventTarget event = some target ∧
        tables.contact? target = some newsletterGuest ∧ newsletterGuest.archived = false ∧
        processed.1 = .ok result ∧
        processed.2.isSuppressed target.message.customerId target.message.channel 2 = false ∧
        (target.recipient newsletterGuest).isOpposed processed.2.optOuts = false :=
  ⟨[(newsletterEvent "email.delivered", 1)], newsletterEvent "email.complained",
    ⟨.COMPLAINED, none⟩,
    ⟨{ sentNewsletter with status := .DELIVERED, deliveredAt := some 1, updatedAt := 1 },
      "restaurant"⟩, .unchanged .DELIVERED, by decide +kernel⟩

end

end Sokar.Marketing
