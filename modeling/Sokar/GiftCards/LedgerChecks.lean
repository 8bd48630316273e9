import Sokar.GiftCards.LedgerAccess

/-!
# What the ledger transactions decide on

Each transaction of the gift-card services ends its checks owning the locks of what it
will write and knowing the rows it decided on.
-/

namespace Sokar

open Process Transaction Transaction.Access GiftCardData

variable {rules : LedgerRules} {call : CallId}

/-! ## Rows found under a lock -/

variable {data : GiftCardData}

theorem card_of_cardOf? {giftCardId restaurantId : Id} {card : GiftCard}
    (found : data.cardOf? giftCardId restaurantId = some card) :
    card.id = giftCardId ∧ card.restaurantId = restaurantId ∧
      data.card? giftCardId = some card := by
  obtain ⟨row, sameRestaurant⟩ := Option.filter_eq_some_iff.1 found
  exact ⟨KeyedRows.key_of_lookup row, beq_iff_eq.1 sameRestaurant, row⟩

theorem reservation_of_reservationOf? {reservationId restaurantId : Id}
    {booking : GiftedReservation}
    (found : data.reservationOf? reservationId restaurantId = some booking) :
    booking.id = reservationId ∧ booking.restaurantId = restaurantId ∧
      data.reservation? reservationId = some booking := by
  obtain ⟨row, sameRestaurant⟩ := Option.filter_eq_some_iff.1 found
  exact ⟨KeyedRows.key_of_lookup row, beq_iff_eq.1 sameRestaurant, row⟩

/-- What the query of a locked card learns. -/
def FoundCard (giftCardId restaurantId : Id) (found : Option GiftCard) (data : GiftCardData) :
    Prop :=
  ∀ card, found = some card → card.id = giftCardId ∧ card.restaurantId = restaurantId ∧
    data.card? giftCardId = some card

variable {owned : Set LedgerLock}

theorem protects_foundCard {giftCardId : Id} (locked : .card giftCardId ∈ owned)
    (restaurantId : Id) (found : Option GiftCard) :
    (ledgerAccess rules).Protects owned fun data _ =>
      FoundCard giftCardId restaurantId found data :=
  Protects.all fun card => Protects.all fun _ =>
    (protects_const (card.id = giftCardId)).and
      ((protects_const (card.restaurantId = restaurantId)).and
        (protects_guardedCard locked _))

theorem readCard_decides {α : Type} {fact : GiftCardData → Instant → Prop}
    {giftCardId restaurantId : Id}
    {rest : Option GiftCard → LedgerProg (Except GiftCardFailure α)} {locks : α → Set LedgerLock}
    {planned : α → GiftCardData → Instant → Prop} (locked : .card giftCardId ∈ owned)
    (protects : (ledgerAccess rules).Protects owned fact)
    (restDecides : ∀ found, (ledgerAccess rules).Decides call owned
      (fun data now => fact data now ∧ FoundCard giftCardId restaurantId found data)
      (rest found) locks planned) :
    (ledgerAccess rules).Decides call owned fact
      ((query fun data _ => data.cardOf? giftCardId restaurantId) >>= rest) locks planned :=
  Decides.query protects (protects_foundCard locked restaurantId)
    (fun _ _ _ _ _ found => card_of_cardOf? found) restDecides

structure Chargeable (reservationId restaurantId giftCardId : Id) (data : GiftCardData) : Prop where
  row : ∃ booking, data.reservation? reservationId = some booking ∧
    booking.restaurantId = restaurantId ∧
    ∀ snap, booking.giftCardRedemptionSnap = some snap → snap.giftCardId = giftCardId
  fresh : ∀ row ∈ data.redemptions, row.reservationId = some reservationId →
    row.restaurantId = some restaurantId → row.giftCardId ≠ giftCardId

theorem mem_redemptionsFor {reservationId : Id} {row : GiftCardRedemption} :
    row ∈ data.redemptions.filter (fun row => row.reservationId == some reservationId) ↔
      row ∈ data.redemptions ∧ row.reservationId = some reservationId := by
  rw [List.mem_filter, beq_iff_eq]

theorem GiftCardData.SameReservation.redemption {reservationId : Id} {data data' : GiftCardData}
    (same : data.SameReservation reservationId data') {row : GiftCardRedemption}
    (isRow : row ∈ data'.redemptions) (sameReservation : row.reservationId = some reservationId) :
    row ∈ data.redemptions := by
  have after := mem_redemptionsFor.2 ⟨isRow, sameReservation⟩
  rw [same.redemptions] at after
  exact (mem_redemptionsFor.1 after).1

variable {reservationId restaurantId giftCardId : Id}

theorem protects_chargeable (locked : .reservation reservationId ∈ owned) :
    (ledgerAccess rules).Protects owned fun data _ =>
      Chargeable reservationId restaurantId giftCardId data :=
  protects_guardedReservation locked fun same chargeable =>
    { row := same.row ▸ chargeable.row
      fresh := fun row isRow sameReservation =>
        chargeable.fresh row (same.redemption isRow sameReservation) sameReservation }

/-- What a search for a redemption of a locked reservation learns when it finds none. -/
def FoundNone (reservationId restaurantId giftCardId : Id) (prior : Option GiftCardRedemption)
    (data : GiftCardData) : Prop :=
  prior = none → ∀ row ∈ data.redemptions, row.reservationId = some reservationId →
    row.restaurantId = some restaurantId → row.giftCardId ≠ giftCardId

theorem protects_foundNone (locked : .reservation reservationId ∈ owned)
    (prior : Option GiftCardRedemption) :
    (ledgerAccess rules).Protects owned fun data _ =>
      FoundNone reservationId restaurantId giftCardId prior data :=
  protects_guardedReservation locked fun same holds isNone row isRow sameReservation =>
    holds isNone row (same.redemption isRow sameReservation) sameReservation

/-- What the query of a locked reservation learns. -/
def FoundReservation (reservationId restaurantId : Id) (found : Option GiftedReservation)
    (data : GiftCardData) : Prop :=
  ∀ booking, found = some booking → booking.id = reservationId ∧
    booking.restaurantId = restaurantId ∧ data.reservation? reservationId = some booking

theorem protects_foundReservation {reservationId : Id}
    (locked : .reservation reservationId ∈ owned) (restaurantId : Id)
    (found : Option GiftedReservation) :
    (ledgerAccess rules).Protects owned fun data _ =>
      FoundReservation reservationId restaurantId found data :=
  protects_guardedReservation locked fun same holds booking isFound =>
    ⟨(holds booking isFound).1, (holds booking isFound).2.1,
      same.row.trans (holds booking isFound).2.2⟩

theorem foundNone_of_any : FoundNone reservationId restaurantId giftCardId
      (data.redemptions.find? fun row =>
        row.reservationId == some reservationId && row.restaurantId == some restaurantId) data := by
  intro isNone row isRow sameReservation sameRestaurant
  have notThis := List.find?_eq_none.1 isNone row isRow
  simp [sameReservation, sameRestaurant] at notThis

theorem snapshot_of_any {snapshot : Option RedemptionSnapshot} {giftCardId : Id}
    (free : ¬ (snapshot.any fun snap => snap.giftCardId != giftCardId) = true) :
    ∀ snap, snapshot = some snap → snap.giftCardId = giftCardId := by
  rintro snap rfl
  simpa using free

namespace GiftCardDebitInput

variable {input : GiftCardDebitInput}

def reservationLocks (input : GiftCardDebitInput) : Set LedgerLock :=
  { lock | ∃ reservationId, input.reservationId = some reservationId ∧
    lock = .reservation reservationId }

def MayName (input : GiftCardDebitInput) (giftCardId : Id) (data : GiftCardData) : Prop :=
  ∀ reservationId, input.reservationId = some reservationId →
    Chargeable reservationId input.restaurantId giftCardId data

theorem protects_mayName {owned : Set LedgerLock} {giftCardId : Id}
    (locked : input.reservationLocks ⊆ owned) :
    (ledgerAccess rules).Protects owned fun data _ => input.MayName giftCardId data :=
  Protects.all fun reservationId => Protects.all fun named =>
    protects_chargeable (locked ⟨reservationId, named, rfl⟩)

theorem checkReservation_decides {owned : Set LedgerLock}
    {fact : GiftCardData → Instant → Prop} {card : GiftCard}
    (protects : (ledgerAccess rules).Protects owned fact) :
    (ledgerAccess rules).Decides call owned fact (checkReservation call input card)
      (fun _ => owned ∪ input.reservationLocks)
      fun _ data now => fact data now ∧ input.MayName card.id data := by
  unfold checkReservation
  cases named : input.reservationId with
  | none =>
    have noLock : input.reservationLocks = ∅ := by
      ext lock
      simp [reservationLocks, named]
    rw [noLock, Set.union_empty]
    refine Decides.ok subset_rfl ?_ ?_
    · exact protects.and (protects_mayName (by simp [noLock]))
    · exact fun data now _ holds => ⟨holds, fun _ isSome => by simp [named] at isSome⟩
  | some reservationId =>
    have theLock : owned ∪ input.reservationLocks = insert (.reservation reservationId) owned := by
      ext lock
      simp [reservationLocks, named, or_comm]
    have inside := Set.mem_insert (LedgerLock.reservation reservationId) owned
    have wide := protects.more (Set.subset_insert (LedgerLock.reservation reservationId) owned)
    have wideName : (ledgerAccess rules).Protects
        (insert (.reservation reservationId) owned) fun data _ => input.MayName card.id data :=
      protects_mayName (theLock ▸ Set.subset_union_right)
    rw [theLock]
    apply Decides.acquire protects
    apply Decides.query wide (protects_foundReservation inside input.restaurantId)
      (fun _ _ _ _ _ found => reservation_of_reservationOf? found)
    intro found
    have known := wide.and (protects_foundReservation inside input.restaurantId found)
    cases found with
    | none => exact Decides.error _
    | some booking =>
      dsimp only
      split
      · exact Decides.error _
      · split
        · exact Decides.error _
        next free =>
          apply Decides.assuming fun data now _ known => (known.2 booking rfl).1
          rintro rfl
          apply Decides.query known (protects_foundNone inside)
            (fun data now _ _ => foundNone_of_any)
          intro prior
          split
          · exact Decides.error _
          next isNone =>
            rw [Option.not_isSome_iff_eq_none] at isNone
            refine Decides.ok subset_rfl (wide.and wideName) ?_
            rintro data now - ⟨⟨holds, foundRow⟩, foundNone⟩
            refine ⟨holds, fun other isOther => ?_⟩
            cases named.symm.trans isOther
            obtain ⟨-, sameRestaurant, row⟩ := foundRow booking rfl
            exact ⟨⟨booking, row, sameRestaurant, snapshot_of_any free⟩, foundNone isNone⟩

section

variable [UnicodeCase]

def requestLocks (input : GiftCardDebitInput) : Set LedgerLock :=
  insert (.ticket input.restaurantId input.reference)
    (insert (.operation input.operationKey) ∅)

def locks (input : GiftCardDebitInput) : DebitPlan → Set LedgerLock
  | .replay _ => ∅
  | .charge _ _ => insert (.card input.giftCardId) input.requestLocks ∪ input.reservationLocks

/-- No redemption was made under the operation key or for the ticket. -/
def Unmatched (input : GiftCardDebitInput) (data : GiftCardData) : Prop :=
  ∀ row ∈ data.redemptions, input.matching row = false

def Planned (input : GiftCardDebitInput) (cents : Int) : DebitPlan → GiftCardData → Instant → Prop
  | .replay existing, data, _ => data.redemptions.find? input.matching = some existing ∧
      input.repeats cents existing = true
  | .charge card charged, data, _ =>
    (charged = cents ∧ (∃ now, card.debitable now = true)) ∧
      FoundCard input.giftCardId input.restaurantId (some card) data ∧
      input.Unmatched data ∧ input.MayName card.id data

theorem unmatched_iff {data : GiftCardData} : input.Unmatched data ↔
    data.redemptions.filter (fun row => row.operationKey == some input.operationKey) = [] ∧
      data.redemptions.filter (fun row => row.restaurantId == some input.restaurantId &&
          row.ticketReference == some input.reference) = [] := by
  simp only [Unmatched, matching, List.filter_eq_nil_iff, Bool.or_eq_false_iff, Bool.not_eq_true]
  constructor
  · exact fun both => ⟨fun row isRow => (both row isRow).1, fun row isRow => (both row isRow).2⟩
  · exact fun both row isRow => ⟨both.1 row isRow, both.2 row isRow⟩

theorem protects_unmatched {owned : Set LedgerLock} (locked : input.requestLocks ⊆ owned) :
    (ledgerAccess rules).Protects owned fun data _ => input.Unmatched data := by
  simp only [unmatched_iff]
  constructor
  · exact ((protects_unusedOperation (locked (.inr (.inl rfl)))).and
      (protects_unusedTicket (locked (.inl rfl)))).writes
  · exact fun _ holds => holds

theorem protects_planned (cents : Int) (plan : DebitPlan) :
    (ledgerAccess rules).Protects (input.locks plan) (input.Planned cents plan) := by
  cases plan with
  | replay existing => exact (protects_foundRedemption input.matching existing).and (protects_const _)
  | charge card charged =>
    have cardLocked : LedgerLock.card input.giftCardId ∈ input.locks (.charge card charged) :=
      .inl (Set.mem_insert _ _)
    have requestLocked : input.requestLocks ⊆ input.locks (.charge card charged) :=
      (Set.subset_insert _ _).trans Set.subset_union_left
    exact (protects_const _).and ((protects_foundCard cardLocked _ _).and
      ((protects_unmatched requestLocked).and (protects_mayName Set.subset_union_right)))

theorem planCharge_decides (cents : Int) :
    (ledgerAccess rules).Decides call input.requestLocks (fun data _ => input.Unmatched data)
      (planCharge call input cents) input.locks (input.Planned cents) := by
  apply Decides.acquire (protects_unmatched subset_rfl)
  have cardLocked := Set.mem_insert (LedgerLock.card input.giftCardId) input.requestLocks
  have still : (ledgerAccess rules).Protects
      (insert (.card input.giftCardId) input.requestLocks) fun data _ => input.Unmatched data :=
    protects_unmatched (Set.subset_insert _ _)
  apply readCard_decides cardLocked still
  intro found
  cases found with
  | none => exact Decides.error _
  | some card =>
    have known := still.and (protects_foundCard cardLocked input.restaurantId (some card))
    apply Decides.glance known
    intro now
    split
    · exact Decides.error _
    next accepted =>
      rw [Bool.not_eq_true', Bool.not_eq_false] at accepted
      apply Decides.andThen (checkReservation_decides known)
      intro _
      refine Decides.ok subset_rfl (protects_planned cents (.charge card cents)) ?_
      rintro data later - ⟨⟨unmatched, found⟩, mayName⟩
      exact ⟨⟨rfl, now, accepted⟩, found, unmatched, mayName⟩

/-- What the search for an earlier redemption learns. -/
def FoundEarlier (input : GiftCardDebitInput) (found : Option GiftCardRedemption)
    (data : GiftCardData) : Prop :=
  (∀ existing, found = some existing → data.redemptions.find? input.matching = some existing) ∧
  (found = none → input.Unmatched data)

theorem protects_foundEarlier {owned : Set LedgerLock} (locked : input.requestLocks ⊆ owned)
    (found : Option GiftCardRedemption) :
    (ledgerAccess rules).Protects owned fun data _ => input.FoundEarlier found data :=
  (Protects.all fun existing => Protects.all fun _ => protects_foundRedemption input.matching existing).and
      (Protects.all fun _ => protects_unmatched locked)

theorem planDebit_decides (cents : Int) :
    (ledgerAccess rules).Decides call ∅ (fun _ _ => True) (planDebit call input cents) input.locks
      (input.Planned cents) := by
  apply Decides.acquire protects_nothing
  apply Decides.acquire protects_nothing
  apply Decides.query protects_nothing (protects_foundEarlier subset_rfl)
  · intro data now _ _
    refine ⟨fun existing found => found, fun isNone row isRow => ?_⟩
    · exact Bool.eq_false_of_not_eq_true (List.find?_eq_none.1 isNone row isRow)
  · intro found
    cases found with
    | none =>
      refine Decides.knowing subset_rfl ?_ (planCharge_decides cents)
      exact fun data now _ known => known.2.2 rfl
    | some existing =>
      dsimp only
      split
      next repeats =>
        refine Decides.ok (Set.empty_subset _) (protects_planned cents (.replay existing)) ?_
        rintro data now - ⟨-, earlier, -⟩
        exact ⟨earlier existing rfl, repeats⟩
      · exact Decides.error _

end

end GiftCardDebitInput

namespace ApplyGiftCardInput

variable {input : ApplyGiftCardInput} {giftCardId : Id} {cents : Int}

def locks (input : ApplyGiftCardInput) (giftCardId : Id) : ApplicationPlan → Set LedgerLock
  | .replay _ => ∅
  | .charge _ _ => {.reservation input.reservationId, .card giftCardId}

/-- What an application knows when it commits. -/
def Planned (input : ApplyGiftCardInput) (giftCardId : Id) (cents : Int) :
    ApplicationPlan → GiftCardData → Instant → Prop
  | .replay _, _, _ => True
  | .charge card charged, data, _ =>
    (charged = cents ∧ ∃ now, card.usable now = true) ∧ data.card? giftCardId = some card ∧
      Chargeable input.reservationId input.restaurantId giftCardId data

/-- What the locked row of a card is read as. -/
def FoundLocked (giftCardId : Id) (found : Option GiftCard) (data : GiftCardData) : Prop :=
  ∀ card, found = some card → data.card? giftCardId = some card

theorem protects_foundLocked {owned : Set LedgerLock} (locked : .card giftCardId ∈ owned)
    (found : Option GiftCard) :
    (ledgerAccess rules).Protects owned fun data _ => FoundLocked giftCardId found data :=
  Protects.all fun _ => Protects.all fun _ =>
    protects_guardedCard locked _

theorem protects_planned (plan : ApplicationPlan) :
    (ledgerAccess rules).Protects (input.locks giftCardId plan)
      (input.Planned giftCardId cents plan) := by
  cases plan with
  | replay answer => exact protects_nothing
  | charge card charged =>
    have isRow : (ledgerAccess rules).Protects (input.locks giftCardId (.charge card charged))
        fun data _ => data.card? giftCardId = some card :=
      protects_guardedCard (.inr rfl) _
    exact (protects_const _).and (isRow.and (protects_chargeable (.inl rfl)))

theorem planLocked_decides {card : GiftCard} {booking : GiftedReservation}
    {owned : Set LedgerLock} {fact : GiftCardData → Instant → Prop}
    (sub : ({.reservation input.reservationId, .card giftCardId} : Set LedgerLock) ⊆ owned)
    (isCard : card.id = giftCardId)
    (free : ¬ (booking.giftCardRedemptionSnap.any fun snap => snap.giftCardId != giftCardId) = true)
    (protects : (ledgerAccess rules).Protects owned fact)
    (knows : ∀ data now, fact data now → data.card? giftCardId = some card ∧
      data.reservation? input.reservationId = some booking ∧
        booking.restaurantId = input.restaurantId) :
    (ledgerAccess rules).Decides call owned fact (input.planLocked card cents booking)
      (input.locks giftCardId) (input.Planned giftCardId cents) := by
  have locked : LedgerLock.reservation input.reservationId ∈ owned := sub (.inl rfl)
  have foundNone : ∀ data : GiftCardData,
      FoundNone input.reservationId input.restaurantId giftCardId (data.redemptions.find? fun row =>
          row.giftCardId == card.id && row.reservationId == some input.reservationId &&
            row.restaurantId == some input.restaurantId) data := by
    intro data isNone row isRow sameReservation sameRestaurant sameCard
    have notThis := List.find?_eq_none.1 isNone row isRow
    simp [sameReservation, sameRestaurant, sameCard, isCard] at notThis
  apply Decides.query protects (protects_foundNone locked) (fun data _ _ _ => foundNone data)
  intro prior
  have known : (ledgerAccess rules).Protects owned fun data now => fact data now ∧
      FoundNone input.reservationId input.restaurantId giftCardId prior data :=
    protects.and (protects_foundNone locked prior)
  cases prior with
  | some row =>
    dsimp only
    split
    · exact Decides.error _
    next snap _ =>
      refine Decides.ok (Set.empty_subset _) (protects_planned (.replay _)) ?_
      exact fun _ _ _ _ => trivial
  | none =>
    apply Decides.glance known
    intro now
    split
    · exact Decides.error _
    next accepted =>
      rw [Bool.not_eq_true', Bool.not_eq_false] at accepted
      refine Decides.ok sub (protects_planned (.charge card cents)) ?_
      rintro data later - ⟨holds, unspent⟩
      obtain ⟨isRow, isBooking, sameRestaurant⟩ := knows data later holds
      exact ⟨⟨rfl, now, accepted⟩, isRow,
        ⟨booking, isBooking, sameRestaurant, snapshot_of_any free⟩, unspent rfl⟩

theorem planApplication_decides : (ledgerAccess rules).Decides call ∅ (fun _ _ => True)
      (planApplication call input giftCardId cents) (input.locks giftCardId)
      (input.Planned giftCardId cents) := by
  apply Decides.acquire protects_nothing
  have cardLocked := Set.mem_insert (LedgerLock.card giftCardId) ∅
  apply Decides.query protects_nothing (protects_foundLocked cardLocked)
    (fun _ _ _ _ _ found => found)
  intro locked
  have knownCard : (ledgerAccess rules).Protects (insert (.card giftCardId) ∅) fun data _ =>
      True ∧ FoundLocked giftCardId locked data :=
    protects_nothing.and (protects_foundLocked cardLocked locked)
  apply Decides.acquire knownCard
  have inside := Set.mem_insert (LedgerLock.reservation input.reservationId)
    (insert (LedgerLock.card giftCardId) ∅)
  have wide := knownCard.more (Set.subset_insert (LedgerLock.reservation input.reservationId) _)
  apply Decides.query wide (protects_foundReservation inside input.restaurantId)
    (fun _ _ _ _ _ found => reservation_of_reservationOf? found)
  intro found
  have known := wide.and (protects_foundReservation inside input.restaurantId found)
  cases found with
  | none => exact Decides.error _
  | some booking =>
    dsimp only
    split
    · exact Decides.error _
    next free =>
      cases locked with
      | none => exact Decides.error _
      | some card =>
        apply Decides.assuming fun data now _ holds =>
          KeyedRows.key_of_lookup (holds.1.2 card rfl)
        intro isCard
        have owns : ({.reservation input.reservationId, .card giftCardId} : Set LedgerLock) ⊆
            insert (.reservation input.reservationId) (insert (.card giftCardId) ∅) := by
          rw [insert_empty_eq]
        refine planLocked_decides owns isCard free known fun data now holds => ?_
        obtain ⟨⟨-, isRow⟩, isBooking⟩ := holds
        obtain ⟨-, sameRestaurant, row⟩ := isBooking booking rfl
        exact ⟨isRow card rfl, row, sameRestaurant⟩

end ApplyGiftCardInput

end Sokar
