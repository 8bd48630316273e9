import Sokar.GiftCards.Purchases

/-!
# What the ledger locks guard

The row lock of a card guards its row, the row lock of a reservation its row and its
redemptions, and an advisory lock the redemptions under a key or those of a ticket.
Redemptions are only appended.
-/

namespace Sokar

open Process Transaction

namespace GiftCardData

structure SameReservation (reservationId : Id) (data data' : GiftCardData) : Prop where
  row : data'.reservation? reservationId = data.reservation? reservationId
  redemptions : data'.redemptions.filter (fun row => row.reservationId == some reservationId) =
    data.redemptions.filter fun row => row.reservationId == some reservationId

/-- Nothing a lock guards has changed; only rows that exist can be locked. -/
def Same (data data' : GiftCardData) : LedgerLock → Prop
  | .card giftCardId => (data.card? giftCardId).isSome →
    data'.card? giftCardId = data.card? giftCardId
  | .reservation reservationId => data.SameReservation reservationId data'
  | .operation operationKey =>
    data'.redemptions.filter (fun row => row.operationKey == some operationKey) =
      data.redemptions.filter fun row => row.operationKey == some operationKey
  | .ticket restaurantId reference =>
    data'.redemptions.filter (fun row =>
        row.restaurantId == some restaurantId && row.ticketReference == some reference) =
      data.redemptions.filter fun row =>
        row.restaurantId == some restaurantId && row.ticketReference == some reference
  | .payment _ => True

end GiftCardData

open GiftCardData

def ledgerParts : Parts GiftCardData LedgerLock where
  same lock data data' := data.Same data' lock
  evolves data data' := data.redemptions <+: data'.redemptions
  same_refl lock data := by
    cases lock with
    | card => exact fun _ => rfl
    | reservation => exact ⟨rfl, rfl⟩
    | operation => exact Eq.refl _
    | ticket => exact Eq.refl _
    | payment => trivial
  evolves_refl _ := List.prefix_refl _
  same_trans {lock _ _ _} first second := by
    cases lock with
    | card =>
      intro isSome
      have sameFirst := first isSome
      exact (second (sameFirst ▸ isSome)).trans sameFirst
    | reservation => exact ⟨second.row.trans first.row, second.redemptions.trans first.redemptions⟩
    | operation => exact Eq.trans second first
    | ticket => exact Eq.trans second first
    | payment => trivial
  evolves_trans := List.IsPrefix.trans

/-- The locks a transaction must own to make some writes. -/
abbrev LedgerWrites := ledgerParts.Writes

/-- What a group of results asks of the ledger: an invariant, and what one step may do. -/
structure LedgerRules where
  inv : GiftCardData → Prop
  steps : GiftCardData → GiftCardData → Prop
  steps_refl : ∀ data, steps data data

/-- Sessions that keep to their locks, the constraints and some rules. -/
abbrev ledgerAccess (rules : LedgerRules) : Access GiftCardData LedgerLock CallId :=
  ledgerParts.accessAlong (fun data => data.violation? = none ∧ rules.inv data) rules.steps
    rules.steps_refl

theorem valid_iff {data : GiftCardData} :
    data.violation? = none ↔ data.keysUnique = true ∧ data.amountsValid = true := by
  unfold GiftCardData.violation?
  cases data.keysUnique <;> cases data.amountsValid <;> simp

section

variable {owned : Set LedgerLock} {data : GiftCardData}

structure GiftCardRedemption.Guarded (row : GiftCardRedemption) (owned : Set LedgerLock) :
    Prop where
  card : .card row.giftCardId ∈ owned
  reservation : ∀ reservationId, row.reservationId = some reservationId →
    .reservation reservationId ∈ owned
  operation : ∀ operationKey, row.operationKey = some operationKey →
    .operation operationKey ∈ owned
  ticket : ∀ restaurantId reference, row.restaurantId = some restaurantId →
    row.ticketReference = some reference → .ticket restaurantId reference ∈ owned

theorem LedgerWrites.insertRedemption {row : GiftCardRedemption} (guarded : row.Guarded owned) :
    LedgerWrites owned data (data.insertRedemption row) where
  evolves := List.prefix_append ..
  same lock outside := by
    cases lock with
    | card => exact fun _ => rfl
    | reservation reservationId =>
      exact ⟨rfl, KeyedRows.filter_append_of_not
        (beq_false_of_ne fun same => outside (guarded.reservation _ same))⟩
    | operation operationKey =>
      exact KeyedRows.filter_append_of_not
        (beq_false_of_ne fun same => outside (guarded.operation _ same))
    | ticket restaurantId reference =>
      apply KeyedRows.filter_append_of_not
      rw [Bool.and_eq_false_iff, ← Bool.not_eq_true, ← Bool.not_eq_true, beq_iff_eq, beq_iff_eq,
        ← not_and_or]
      exact fun both => outside (guarded.ticket _ _ both.1 both.2)
    | payment => trivial

theorem LedgerWrites.updateCard {giftCardId : Id} {change : GiftCard → GiftCard}
    (locked : .card giftCardId ∈ owned) (keeps : ∀ card, (change card).id = card.id) :
    LedgerWrites owned data (data.updateCard giftCardId change) where
  evolves := List.prefix_refl _
  same lock outside := by
    cases lock with
    | card other =>
      refine fun _ => ?_
      apply KeyedRows.lookup_update_of_unselected keeps
      exact fun card isOther => beq_false_of_ne fun same => outside (isOther ▸ same ▸ locked)
    | reservation => exact ⟨rfl, rfl⟩
    | operation => rfl
    | ticket => rfl
    | payment => trivial

theorem LedgerWrites.updateReservation {reservationId : Id}
    {change : GiftedReservation → GiftedReservation} (locked : .reservation reservationId ∈ owned)
    (keeps : ∀ row, (change row).id = row.id) :
    LedgerWrites owned data (data.updateReservation reservationId change) where
  evolves := List.prefix_refl _
  same lock outside := by
    cases lock with
    | card => exact fun _ => rfl
    | reservation other =>
      refine ⟨KeyedRows.lookup_update_of_unselected keeps fun row isOther => ?_, rfl⟩
      exact beq_false_of_ne fun same => outside (isOther ▸ same ▸ locked)
    | operation => rfl
    | ticket => rfl
    | payment => trivial

end

section

variable {rules : LedgerRules} {owned : Set LedgerLock}

theorem protects_nothing : (ledgerAccess rules).Protects owned fun _ _ => True :=
  Access.protects_const True

theorem protects_guardedCard {giftCardId : Id} (locked : .card giftCardId ∈ owned) (card : GiftCard) :
    (ledgerAccess rules).Protects owned fun data _ => data.card? giftCardId = some card :=
  Parts.protects_along locked fun {_ data'} (same : _ → data'.card? giftCardId = _) found =>
    (same (found ▸ rfl)).trans found

theorem protects_guardedReservation {reservationId : Id}
    (locked : .reservation reservationId ∈ owned) {fact : GiftCardData → Prop}
    (kept : ∀ {data data'}, data.SameReservation reservationId data' → fact data → fact data') :
    (ledgerAccess rules).Protects owned fun data _ => fact data :=
  Parts.protects_along locked kept

theorem protects_unusedOperation {operationKey : String}
    (locked : .operation operationKey ∈ owned) :
    (ledgerAccess rules).Protects owned fun data _ =>
      data.redemptions.filter (fun row => row.operationKey == some operationKey) = [] :=
  Parts.protects_along locked fun (same : _ = _) unused => same.trans unused

theorem protects_unusedTicket {restaurantId : Id} {reference : String}
    (locked : .ticket restaurantId reference ∈ owned) :
    (ledgerAccess rules).Protects owned fun data _ => data.redemptions.filter (fun row =>
        row.restaurantId == some restaurantId && row.ticketReference == some reference) = [] :=
  Parts.protects_along locked fun (same : _ = _) unused => same.trans unused

theorem protects_foundRedemption (selected : GiftCardRedemption → Bool) (row : GiftCardRedemption) :
    (ledgerAccess rules).Protects owned fun data _ => data.redemptions.find? selected = some row :=
  Parts.protects_along_of_evolves fun evolves found => evolves.find?_eq_some found

end

end Sokar
