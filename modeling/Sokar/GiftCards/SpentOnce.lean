import Sokar.GiftCards.LedgerChecks
import Sokar.Library.StepRelations

/-!
# Cards are spent once

Debits and applications write redemptions under different keys.  A reservation that was
redeemed names the card, so a second redemption would be one of the same card, and both look
for that one under the lock of the reservation.
-/

namespace Sokar

open Process Transaction Transaction.Access GiftCardData

/-- A reservation has one redemption at most, is of the restaurant of the redemption, and
names its card. -/
structure SpentOnce (data : GiftCardData) : Prop where
  unique : (data.redemptions.filterMap (·.reservationId)).Nodup
  linked : ∀ row ∈ data.redemptions, ∀ reservationId, row.reservationId = some reservationId →
    ∃ booking, data.reservation? reservationId = some booking ∧
      row.restaurantId = some booking.restaurantId ∧
        ∃ snap, booking.giftCardRedemptionSnap = some snap ∧ snap.giftCardId = row.giftCardId

section

variable {data : GiftCardData} {reservationId restaurantId giftCardId : Id}

theorem Chargeable.absent (chargeable : Chargeable reservationId restaurantId giftCardId data)
    (spent : SpentOnce data) :
    ∀ row ∈ data.redemptions, row.reservationId ≠ some reservationId := by
  intro row isRow isFor
  obtain ⟨booking, isBooking, sameRestaurant, snap, isSnap, sameCard⟩ :=
    spent.linked row isRow reservationId isFor
  obtain ⟨booking', isBooking', sameRestaurant', named⟩ := chargeable.row
  cases isBooking.symm.trans isBooking'
  rw [sameRestaurant'] at sameRestaurant
  exact chargeable.fresh row isRow isFor sameRestaurant (sameCard.symm.trans (named snap isSnap))

theorem SpentOnce.updateCard (spent : SpentOnce data) (change : GiftCard → GiftCard) :
    SpentOnce (data.updateCard giftCardId change) :=
  ⟨spent.unique, spent.linked⟩

theorem SpentOnce.insertLoose (spent : SpentOnce data) {row : GiftCardRedemption}
    (loose : row.reservationId = none) : SpentOnce (data.insertRedemption row) where
  unique := by
    have same : (data.insertRedemption row).redemptions.filterMap (·.reservationId) =
        data.redemptions.filterMap (·.reservationId) := by
      simp [GiftCardData.insertRedemption, List.filterMap_append, loose]
    rw [same]
    exact spent.unique
  linked other isOther reservationId isFor := by
    rcases List.mem_append.1 isOther with before | last
    · exact spent.linked other before reservationId isFor
    · rw [List.mem_singleton.1 last, loose] at isFor
      cases isFor

theorem SpentOnce.insertLinked (spent : SpentOnce data) {row : GiftCardRedemption}
    (isFor : row.reservationId = some reservationId) (isOf : row.restaurantId = some restaurantId)
    (chargeable : Chargeable reservationId restaurantId row.giftCardId data)
    {link : GiftedReservation → GiftedReservation} (keeps : ∀ booking,
      (link booking).id = booking.id ∧ (link booking).restaurantId = booking.restaurantId)
    (links : ∀ booking, ∃ snap, (link booking).giftCardRedemptionSnap = some snap ∧
      snap.giftCardId = row.giftCardId) (change : GiftCard → GiftCard) :
    SpentOnce (((data.insertRedemption row).updateCard giftCardId change).updateReservation
      reservationId link) := by
  have absent := chargeable.absent spent
  have after : ∀ wanted, (((data.insertRedemption row).updateCard giftCardId
      change).updateReservation reservationId link).reservation? wanted =
        if wanted = reservationId then (data.reservation? wanted).map link
        else data.reservation? wanted :=
    fun wanted => KeyedRows.lookup_update_key reservationId fun booking => (keeps booking).1
  constructor
  · have columns : (data.redemptions ++ [row]).filterMap (·.reservationId) =
        data.redemptions.filterMap (·.reservationId) ++ [reservationId] := by
      simp [List.filterMap_append, isFor]
    change ((data.redemptions ++ [row]).filterMap (·.reservationId)).Nodup
    rw [columns, List.nodup_append]
    refine ⟨spent.unique, List.nodup_singleton _, fun earlier isEarlier last isLast same => ?_⟩
    obtain ⟨other, isOther, isForOther⟩ := List.mem_filterMap.1 isEarlier
    rw [List.mem_singleton.1 isLast] at same
    exact absent other isOther (same ▸ isForOther)
  · intro other isOther wanted isForOther
    rcases List.mem_append.1 isOther with before | last
    · have isElse : wanted ≠ reservationId := by
        rintro rfl
        exact absent other before isForOther
      rw [after, if_neg isElse]
      exact spent.linked other before wanted isForOther
    · obtain rfl := List.mem_singleton.1 last
      cases isFor.symm.trans isForOther
      obtain ⟨booking, isBooking, sameRestaurant, -⟩ := chargeable.row
      refine ⟨link booking, ?_, ?_, links booking⟩
      · rw [after, if_pos rfl, isBooking]
        rfl
      · rw [(keeps booking).2, sameRestaurant]
        exact isOf

end

inductive SpendCall where
  | debit (input : GiftCardDebitInput)
  | applyToReservation (input : ApplyGiftCardInput)
  deriving DecidableEq

inductive SpendAnswer where
  | receipt (receipt : GiftCardReceipt)
  | application (result : GiftCardApplicationResult)
  deriving DecidableEq

/-- What is left of a card and what was redeemed with it. -/
def GiftCardData.balance (data : GiftCardData) (giftCardId : Id) : Int :=
  ((data.card? giftCardId).map (·.remainingAmount)).getD 0 + data.redeemed giftCardId

/-- What leaves a card is redeemed with it. -/
def Conserves (data data' : GiftCardData) : Prop :=
  ∀ giftCardId, data'.balance giftCardId = data.balance giftCardId

/-- A reservation is redeemed once, and every card keeps its balance. -/
def spendRules : LedgerRules where
  inv := SpentOnce
  steps := Conserves
  steps_refl _ _ := rfl

abbrev spendAccess : Access GiftCardData LedgerLock CallId :=
  ledgerAccess spendRules

theorem conserves_charge {data : GiftCardData} {card : GiftCard} {row : GiftCardRedemption}
    (isCard : data.card? card.id = some card) (isRow : row.giftCardId = card.id)
    {change : GiftCard → GiftCard} (keeps : ∀ current, (change current).id = current.id)
    (takes : ∀ current, (change current).remainingAmount = card.remainingAmount - row.amount) :
    Conserves data ((data.insertRedemption row).updateCard card.id change) := by
  intro giftCardId
  have after : ((data.insertRedemption row).updateCard card.id change).card? giftCardId =
      if giftCardId = card.id then (data.card? giftCardId).map change
      else data.card? giftCardId :=
    KeyedRows.lookup_update_key card.id keeps
  have redeemed : ((data.insertRedemption row).updateCard card.id change).redeemed giftCardId =
      data.redeemed giftCardId + if giftCardId = card.id then row.amount else 0 := by
    change (((data.redemptions ++ [row]).filter fun other => other.giftCardId == giftCardId).map
      (·.amount)).sum = _
    by_cases same : giftCardId = card.id
    · simp [GiftCardData.redeemed, GiftCardData.redemptionsOf, isRow, same]
    · simp [GiftCardData.redeemed, GiftCardData.redemptionsOf, isRow, same, Ne.symm same]
  rw [GiftCardData.balance, after, redeemed, GiftCardData.balance]
  by_cases same : giftCardId = card.id
  · subst same
    simp only [if_true, isCard, Option.map_some, Option.getD_some, takes]
    omega
  · simp only [if_neg same, add_zero]

namespace GiftCardDebitInput

variable [UnicodeCase] {input : GiftCardDebitInput} {data : GiftCardData} {now : Instant}
variable {card : GiftCard} {cents : Int}

structure Recorded (input : GiftCardDebitInput) (cents : Int) (row : GiftCardRedemption)
    (data : GiftCardData) : Prop where
  reference : ¬ (input.reference = "" ∨ 64 < utf16Length input.reference)
  amount : giftCardAmountCents input.billAmount = .ok cents
  found : data.redemptions.find? input.matching = some row
  repeats : input.repeats cents row = true

theorem matching_redemption : input.matching (input.redemption card cents now) = true := by
  simp [matching, redemption]

theorem repeats_redemption (isCard : card.id = input.giftCardId) :
    input.repeats cents (input.redemption card cents now) = true := by
  simp [repeats, redemption, isCard]

theorem redemptions_writes_charge : (input.writes (.charge card cents) data now).redemptions =
      data.redemptions ++ [input.redemption card cents now] := by
  unfold writes
  cases input.reservationId <;> rfl

theorem guarded_redemption (isCard : card.id = input.giftCardId) :
    (input.redemption card cents now).Guarded (input.locks (.charge card cents)) where
  card := .inl (.inl (congrArg LedgerLock.card isCard))
  reservation reservationId named := .inr ⟨reservationId, named, rfl⟩
  operation operationKey isKey := by
    cases isKey
    exact .inl (.inr (.inr (.inl rfl)))
  ticket restaurantId reference isRestaurant isReference := by
    cases isRestaurant
    cases isReference
    exact .inl (.inr (.inl rfl))

theorem writes_charge (isCard : card.id = input.giftCardId) :
    LedgerWrites (input.locks (.charge card cents)) data
      (input.writes (.charge card cents) data now) := by
  have guarded : (input.redemption card cents now).Guarded (input.locks (.charge card cents)) :=
    guarded_redemption isCard
  have charged : LedgerWrites (input.locks (.charge card cents)) data
      ((data.insertRedemption (input.redemption card cents now)).updateCard card.id
        fun current => current.charged (card.remainingAmount - min card.remainingAmount cents)) :=
    (LedgerWrites.insertRedemption guarded).trans
      (LedgerWrites.updateCard guarded.card fun _ => rfl)
  unfold writes
  dsimp only
  split
  next => exact charged
  next reservationId named =>
    exact charged.trans (LedgerWrites.updateReservation (.inr ⟨reservationId, named, rfl⟩)
      fun _ => rfl)

theorem spentOnce_charge (spent : SpentOnce data) (mayName : input.MayName card.id data) :
    SpentOnce (input.writes (.charge card cents) data now) := by
  unfold writes
  dsimp only
  split
  next loose => exact (spent.insertLoose loose).updateCard _
  next reservationId named =>
    refine spent.insertLinked named rfl (mayName reservationId named) ?_ ?_ _
    · exact fun _ => ⟨rfl, rfl⟩
    · exact fun _ => ⟨_, rfl, rfl⟩

theorem conserves_writes (isCard : data.card? card.id = some card) :
    Conserves data (input.writes (.charge card cents) data now) := by
  have charged : Conserves data ((data.insertRedemption
      (input.redemption card cents now)).updateCard card.id
        fun current => current.charged (card.remainingAmount - min card.remainingAmount cents)) :=
    conserves_charge isCard rfl (fun _ => rfl) fun _ => rfl
  unfold writes
  dsimp only
  split
  · exact charged
  · exact fun giftCardId => charged giftCardId

theorem protects_recorded (receipt : GiftCardReceipt) : spendAccess.Protects ∅ fun data _ =>
      ∃ cents row, input.Recorded cents row data ∧ row.receipt = receipt :=
  Parts.protects_along_of_evolves fun evolves holds => by
    obtain ⟨cents, row, recorded, isReceipt⟩ := holds
    have found := evolves.find?_eq_some recorded.found
    exact ⟨cents, row, { recorded with found }, isReceipt⟩

theorem debit_runs (call : CallId) (input : GiftCardDebitInput) :
    spendAccess.Runs call ∅ (fun _ _ => True) (debit call input) ∅
      (OnOk fun receipt data _ => ∃ cents row, input.Recorded cents row data ∧
        row.receipt = receipt) := by
  unfold debit
  split
  · exact Runs.error _ subset_rfl
  next reference =>
    split
    · exact Runs.error _ subset_rfl
    next cents amount =>
      refine Runs.transact (planDebit_decides cents) (protects_planned cents) protects_recorded ?_
      intro plan data now inv planned accepted _
      cases plan with
      | replay existing =>
        obtain ⟨found, repeats⟩ := planned
        exact ⟨inv, spendAccess.writes_refl _ data, cents, existing,
          ⟨reference, amount, found, repeats⟩, rfl⟩
      | charge card charged =>
        obtain ⟨⟨rfl, -⟩, foundCard, unmatched, mayName⟩ := planned
        obtain ⟨isCard, -, isRow⟩ := foundCard card rfl
        have conserves : Conserves data (input.writes (.charge card charged) data now) :=
          conserves_writes (isCard ▸ isRow)
        refine ⟨⟨accepted, spentOnce_charge inv.2 mayName⟩,
          ⟨writes_charge isCard, conserves⟩, charged,
          input.redemption card charged now, ⟨reference, amount, ?_, repeats_redemption isCard⟩,
          rfl⟩
        have unfound : data.redemptions.find? input.matching = none :=
          List.find?_eq_none.2 fun row isRow => Bool.eq_false_iff.1 (unmatched row isRow)
        rw [redemptions_writes_charge, List.find?_append, unfound, Option.none_or]
        simp [matching_redemption]

end GiftCardDebitInput

section

variable {call : CallId} {α : Type}

theorem findByCodeOrShortCode_runs (identifier : String) :
    spendAccess.Runs call ∅ (fun _ _ => True) (findByCodeOrShortCode identifier) ∅
      fun _ _ _ => True := by
  apply Runs.glance protects_nothing
  intro byShortCode
  cases byShortCode with
  | some card => exact Runs.pure protects_nothing fun _ _ _ _ => trivial
  | none => exact Runs.look protects_nothing

theorem validateCode_runs (code : String) (restaurantId : Id) :
    spendAccess.Runs call ∅ (fun _ _ => True) (validateCode code restaurantId) ∅
      fun _ _ _ => True := by
  apply Runs.bind (findByCodeOrShortCode_runs code)
  intro card
  apply Runs.glance protects_nothing
  exact fun now => Runs.pure protects_nothing fun _ _ _ _ => trivial

theorem withValidCard_runs {code : String} {restaurantId : Id}
    {use : GiftCard → LedgerProg (Except GiftCardFailure α)}
    (useRuns : ∀ card, spendAccess.Serves call (use card)) :
    spendAccess.Serves call (withValidCard code restaurantId use) := by
  apply Runs.bind (validateCode_runs code restaurantId)
  intro validation
  cases validation with
  | error reason => exact Runs.error _ subset_rfl
  | ok card => exact useRuns card

end

namespace ApplyGiftCardInput

variable {input : ApplyGiftCardInput} {data : GiftCardData} {now : Instant}
variable {card : GiftCard} {cents : Int}

theorem writes_charge : LedgerWrites (input.locks card.id (.charge card cents)) data
    (input.writes (.charge card cents) data now) := by
  have guarded : (input.redemption card cents now).Guarded
      (input.locks card.id (.charge card cents)) :=
    { card := .inr rfl
      reservation := fun reservationId named => by
        cases named
        exact .inl rfl
      operation := fun _ isKey => nomatch isKey
      ticket := fun _ _ _ isReference => nomatch isReference }
  have reserved : LedgerLock.reservation input.reservationId ∈
      input.locks card.id (.charge card cents) := .inl rfl
  refine Parts.Writes.trans ((LedgerWrites.insertRedemption guarded).trans
    (LedgerWrites.updateCard guarded.card ?_)) (LedgerWrites.updateReservation reserved ?_)
  · exact fun _ => rfl
  · exact fun _ => rfl

theorem spentOnce_charge (spent : SpentOnce data)
    (chargeable : Chargeable input.reservationId input.restaurantId card.id data) :
    SpentOnce (input.writes (.charge card cents) data now) := by
  have isFor : (input.redemption card cents now).reservationId = some input.reservationId := rfl
  refine spent.insertLinked isFor rfl chargeable ?_ ?_ _
  · exact fun _ => ⟨rfl, rfl⟩
  · exact fun _ => ⟨_, rfl, rfl⟩

theorem applyToReservation_runs (call : CallId) (input : ApplyGiftCardInput) :
    spendAccess.Serves call (applyToReservation call input) := by
  unfold applyToReservation
  split
  · exact Runs.error _ subset_rfl
  next cents _ =>
    apply Runs.bind (findByCodeOrShortCode_runs input.code)
    intro candidate
    split
    · exact Runs.error _ subset_rfl
    · apply Runs.glance protects_nothing
      intro replay
      split
      · exact ends_pure _
      · refine withValidCard_runs fun card => ?_
        refine Runs.transact planApplication_decides protects_planned
          (fun _ => protects_const True) ?_
        intro plan data now inv planned accepted _
        cases plan with
        | replay answer => exact ⟨inv, spendAccess.writes_refl _ data, trivial⟩
        | charge locked charged =>
          obtain ⟨-, isRow, chargeable⟩ := planned
          have sameId : locked.id = card.id := KeyedRows.key_of_lookup isRow
          rw [← sameId] at chargeable isRow ⊢
          have charge : Conserves data ((data.insertRedemption
              (input.redemption locked charged now)).updateCard locked.id fun current =>
                current.charged (locked.remainingAmount - min locked.remainingAmount charged)) :=
            conserves_charge isRow rfl (fun _ => rfl) fun _ => rfl
          have conserves : Conserves data (input.writes (.charge locked charged) data now) :=
            fun giftCardId => charge giftCardId
          exact ⟨⟨accepted, spentOnce_charge inv.2 chargeable⟩, ⟨writes_charge, conserves⟩, trivial⟩

end ApplyGiftCardInput

namespace GiftCardDebitInput

variable [UnicodeCase] {call : CallId} {input : GiftCardDebitInput} {cents : Int}
variable {row : GiftCardRedemption}

def again (input : GiftCardDebitInput) (newId : Id) : GiftCardDebitInput :=
  { input with newId }

theorem Recorded.again {data : GiftCardData} (recorded : input.Recorded cents row data)
    (newId : Id) : (input.again newId).Recorded cents row data :=
  ⟨recorded.reference, recorded.amount, recorded.found, recorded.repeats⟩

section

variable (reference : ¬ (input.reference = "" ∨ 64 < utf16Length input.reference))
variable (amount : giftCardAmountCents input.billAmount = .ok cents)
include reference amount

theorem debit_eq : debit call input =
      ledgerTransaction call (planDebit call input cents) input.receipt input.writes := by
  rw [debit, if_neg reference, amount]

/-- As long as it finds the request recorded, a debit changes no data and answers with the
receipt. -/
theorem debit_replays : (debit call input).EndsWhile
      (fun store => store.data.violation? = none ∧ input.Recorded cents row store.data)
      (fun store store' => store'.data = store.data) (· = .ok row.receipt) := by
  have plans : (planDebit call input cents).EndsWhile
      (fun store => store.data.violation? = none ∧ input.Recorded cents row store.data)
      (fun store store' => store'.data = store.data) (· = .ok (.replay row)) := by
    refine Prog.EndsWhile.await (fun _ _ => rfl) ?_
    refine Prog.EndsWhile.await (fun _ _ => rfl) ?_
    refine Prog.EndsWhile.read (fun _ => rfl) fun store holds => ?_
    dsimp only
    rw [holds.2.found]
    dsimp only
    rw [if_pos holds.2.repeats]
    exact Prog.EndsWhile.pure rfl
  rw [debit_eq reference amount]
  refine plans.bind fun decided isReplay => ?_
  subst isReplay
  refine Prog.EndsWhile.last fun store holds => ⟨ite_self _, ?_⟩
  have accepted : (input.writes (.replay row) store.data store.now).violation? = none := holds.1
  dsimp only
  rw [accepted]
  rfl

end

/-- The receipt is returned when nothing holds the locks of the request. -/
theorem Recorded.run_replay {store : LedgerStore} (recorded : input.Recorded cents row store.data)
    (valid : store.data.violation? = none)
    (freeOperation : store.isFreeFor call (.operation input.operationKey) = true)
    (freeTicket : store.isFreeFor call (.ticket input.restaurantId input.reference) = true) :
    ∃ store', (debit call input).run store = some (.ok row.receipt, store') ∧
      store'.data = store.data := by
  have freeThen := isFreeFor_take freeTicket (.operation input.operationKey)
  have planned : (planDebit call input cents).run store = some (.ok (.replay row),
      (store.take call (.operation input.operationKey)).take call
        (.ticket input.restaurantId input.reference)) := by
    rw [planDebit, Prog.run_bind, run_acquire_of_free freeOperation, Option.bind_some,
      Prog.run_bind, run_acquire_of_free freeThen, Option.bind_some, Prog.run_bind, run_query,
      Option.bind_some]
    have found : ((store.take call (.operation input.operationKey)).take call
        (.ticket input.restaurantId input.reference)).data.redemptions.find? input.matching =
          some row := recorded.found
    rw [found]
    dsimp only
    rw [if_pos recorded.repeats]
    rfl
  rw [debit_eq recorded.reference recorded.amount]
  exact ⟨_, run_transact_ok planned valid, rfl⟩

end GiftCardDebitInput

theorem countP_redemptions_le {column : GiftCardRedemption → Option String}
    {rows : List GiftCardRedemption} (unique : (rows.filterMap column).Nodup) (value : String) :
    rows.countP (fun row => column row == some value) ≤ 1 := by
  rw [← List.count_filterMap]
  exact List.nodup_iff_count_le_one.1 unique value

theorem redemptions_unique {data : GiftCardData} (valid : data.violation? = none) : (∀ operationKey,
        data.redemptions.countP (fun row => row.operationKey == some operationKey) ≤ 1) ∧
      ∀ restaurantId reference, data.redemptions.countP (fun row =>
        row.restaurantId == some restaurantId && row.ticketReference == some reference) ≤ 1 := by
  have keys := (valid_iff.1 valid).1
  simp only [GiftCardData.keysUnique, Bool.and_eq_true, decide_eq_true_eq] at keys
  obtain ⟨⟨⟨⟨⟨⟨-, operations⟩, tickets⟩, -⟩, -⟩, -⟩, -⟩ := keys
  refine ⟨countP_redemptions_le operations, fun restaurantId reference => ?_⟩
  have counted := List.nodup_iff_count_le_one.1 tickets (restaurantId, reference)
  rw [List.count_filterMap] at counted
  refine le_trans (List.countP_mono_left fun row _ isTicket => ?_) counted
  obtain ⟨isRestaurant, isReference⟩ := Bool.and_eq_true_iff.1 isTicket
  rw [eq_of_beq isRestaurant, eq_of_beq isReference]
  exact beq_self_eq_true _

section

variable [UnicodeCase]

def SpendCall.code (call : CallId) : SpendCall → LedgerProg (Except GiftCardFailure SpendAnswer)
  | .debit input => (input.debit call).andThen fun receipt => pure (.ok (.receipt receipt))
  | .applyToReservation input =>
    (input.applyToReservation call).andThen fun result => pure (.ok (.application result))

abbrev spendSystem (calls : CallId → SpendCall) :
    System CallId LedgerStore (Except GiftCardFailure SpendAnswer) :=
  system fun call => (calls call).code call

/-- A receipt is the one of a redemption that answers the request. -/
def SpendCall.Answered : SpendCall → SpendAnswer → GiftCardData → Prop
  | .debit input, .receipt receipt, data =>
    ∃ cents row, input.Recorded cents row data ∧ row.receipt = receipt
  | .applyToReservation _, .application _, _ => True
  | _, _, _ => False

theorem SpendCall.code_runs (spendCall : SpendCall) (call : CallId) :
    spendAccess.Runs call ∅ (fun _ _ => True) (spendCall.code call) ∅
      (OnOk fun answer data _ => spendCall.Answered answer data) := by
  cases spendCall with
  | debit input =>
    apply Runs.andThen (input.debit_runs call) subset_rfl
    exact fun receipt => Runs.pure (GiftCardDebitInput.protects_recorded receipt)
      fun _ _ _ holds => holds
  | applyToReservation input =>
    apply Runs.andThen (input.applyToReservation_runs call) subset_rfl
    exact fun result => Runs.pure (protects_const True) fun _ _ _ _ => trivial

variable {calls : CallId → SpendCall}

variable {input : GiftCardDebitInput} {row : GiftCardRedemption}

theorem GiftCardDebitInput.Recorded.later {cents : Int} {data data' : GiftCardData}
    (recorded : input.Recorded cents row data) (grows : data.redemptions <+: data'.redemptions) :
    input.Recorded cents row data' :=
  { recorded with found := grows.find?_eq_some recorded.found }

theorem SpendCall.code_replays {call : CallId} {cents : Int}
    (reference : ¬ (input.reference = "" ∨ 64 < utf16Length input.reference))
    (amount : giftCardAmountCents input.billAmount = .ok cents) :
    ((SpendCall.debit input).code call).EndsWhile
      (fun store => store.data.violation? = none ∧ input.Recorded cents row store.data)
      (fun store store' => store'.data = store.data) (· = .ok (.receipt row.receipt)) := by
  refine (GiftCardDebitInput.debit_replays reference amount).bind fun result isReceipt => ?_
  subst isReceipt
  exact Prog.EndsWhile.pure rfl

abbrev spendOutcome (calls : CallId → SpendCall) (call : CallId) :
    Except GiftCardFailure SpendAnswer → GiftCardData → Instant → Prop :=
  OnOk fun answer data _ => (calls call).Answered answer data

variable {c c' : Config CallId LedgerStore (Except GiftCardFailure SpendAnswer)}

/-- From a sound configuration on, a request that is recorded is answered with its receipt and
changes nothing. -/
theorem replays_of_sound (sound : spendAccess.Sound (spendOutcome calls) c) {cents : Int}
    (recorded : input.Recorded cents row c.shared.data) {call : CallId}
    (isCall : calls call = .debit input) (idle : c.procs call = none)
    {moves : List (Move CallId LedgerStore)} (run : (spendSystem calls).Run c moves c') :
    (∀ move ∈ moves, move.session = call → move.after.data = move.before.data) ∧
      ∀ answer, c'.procs call = some (.done answer) → answer = .ok (.receipt row.receipt) := by
  have written := (run_sound (fun call => (calls call).code_runs call) sound run
    fun _ _ => trivial).2
  have grows : MovesRelated (fun data data' : GiftCardData =>
      data.redemptions <+: data'.redemptions) c.shared.data c'.shared.data moves := by
    refine moves_related ?_ ?_ run fun move isMove => (written move isMove).writes.1.evolves
    · exact fun data => List.prefix_refl data.redemptions
    · exact fun first second => first.trans second
  have code : ((spendSystem calls).code call).EndsWhile
      (fun store => store.data.violation? = none ∧ input.Recorded cents row store.data)
      (fun store store' => store'.data = store.data) (· = .ok (.receipt row.receipt)) := by
    change ((calls call).code call).EndsWhile _ _ _
    rw [isCall]
    exact SpendCall.code_replays recorded.reference recorded.amount
  obtain ⟨unchanged, ends⟩ := run.ends_while code
    (fun prog running => nomatch idle.symm.trans running)
    fun move isMove _ => ⟨(written move isMove).inv.1, recorded.later (grows.ofStart move isMove)⟩
  exact ⟨unchanged, fun answer finished => ends _ finished⟩

end

section

attribute [local instance] UnicodeCase.ascii

/-- A card of 50 € and a table that it may pay for. -/
def dinnerStore : LedgerStore where
  data :=
    { restaurants := []
      packs := []
      reservations := [⟨"b", "r", .CONFIRMED, none, none⟩]
      giftCards := [⟨"g", "r", "C", none, 5000, 5000, "eur", .ACTIVE, none, 12, none, none, 0,
        .SINGLE, none, none⟩]
      redemptions := []
      contributions := []
      paymentEntries := []
      refundRequests := []
      checkouts := [] }
  now := 0
  owner _ := none

def dinnerBill : GiftCardDebitInput where
  restaurantId := "r"
  giftCardId := "g"
  billAmount := 30
  ticketReference := " t-1"
  reservationId := some "b"
  idempotencyKey := "k"
  newId := "x"

def dinnerReceipt : GiftCardReceipt where
  id := "x"
  giftCardId := "g"
  reservationId := some "b"
  ticketReference := some "T-1"
  billAmount := some 3000
  appliedAmount := 3000
  remainingAmount := some 2000
  complementAmount := some 0
  redeemedAt := 0

/-- The bill is sent twice, and the card presented for the table again. -/
def dinnerCalls : CallId → SpendCall
  | 0 => .debit dinnerBill
  | 1 => .debit (dinnerBill.again "y")
  | _ => .applyToReservation ⟨"C", "r", "b", 20, "z"⟩

end

end Sokar
