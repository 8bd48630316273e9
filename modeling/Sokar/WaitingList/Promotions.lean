import Sokar.FloorPlan.AllocationPlan
import Sokar.WaitingList.QueueAccess

/-!
# Promotions and positions

Any number of calls on the waiting list run statement by statement in any interleaving.
An entry gets at most one reservation, while it waits, and stays linked to it.

The position of an entry is counted when it joins and never again: the queue of a slot
stays in the order of arrival as long as nobody joins behind an entry whose position is
larger than the number of entries that still wait.
-/

namespace Sokar

open Process Transaction Transaction.Access

def LinkedTo (entryId reservationId : Id) (data : WaitingData) : Prop :=
  ∃ entry, data.entryById? entryId = some entry ∧ entry.status ≠ .PENDING ∧
    entry.promotedReservationId = some reservationId

def IsClosed (entryId : Id) (data : WaitingData) : Prop :=
  ∃ entry, data.entryById? entryId = some entry ∧ (entry.status = .CANCELLED ∨ entry.status = .EXPIRED)

structure CreatesFor (entryId : Id) (reservation : Reservation) (data data' : WaitingData) :
    Prop where
  created : data'.booking.reservations = data.booking.reservations ++ [reservation]
  waiting : ∃ entry, data.entryById? entryId = some entry ∧ entry.status = .PENDING
  promoted : ∃ entry, data'.entryById? entryId = some entry ∧ entry.status = .PROMOTED ∧
    entry.promotedReservationId = some reservation.id
  others : ∀ other, other ≠ entryId → ∀ entry, data.entryById? other = some entry →
    data'.entryById? other = some entry

/-- A commit inserts no reservation and promotes no entry. -/
structure PromotesNone (data data' : WaitingData) : Prop where
  booking : data'.booking = data.booking
  promoted : ∀ entryId entry, data'.entryById? entryId = some entry → entry.status = .PROMOTED →
    data.entryById? entryId = some entry

variable {entry : WaitingListEntry} {data : WaitingData}

theorem PromotesNone.insertEntry (pending : entry.status = .PENDING) :
    PromotesNone data (data.insertEntry entry) where
  booking := rfl
  promoted := by
    intro entryId found isFound isPromoted
    rw [WaitingData.entryById?, WaitingData.insertEntry, KeyedRows.lookup_append] at isFound
    rcases Option.or_eq_some_iff.1 isFound with before | ⟨-, added⟩
    · exact before
    · split at added
      next =>
        cases added
        rw [pending] at isPromoted
        cases isPromoted
      next => cases added

theorem PromotesNone.close {selected : WaitingListEntry → Bool}
    {change : WaitingListEntry → WaitingListEntry} (closes : Closes data selected change) :
    PromotesNone data { data with entries := KeyedRows.update selected change data.entries } where
  booking := rfl
  promoted := by
    intro entryId found isFound isPromoted
    have updated := (KeyedRows.lookup_update selected closes.id).symm.trans isFound
    obtain ⟨entry, isEntry, isUpdated⟩ := Option.map_eq_some_iff.1 updated
    split at isUpdated
    next =>
      rw [← isUpdated] at isPromoted
      rcases closes.closed entry with status | status
      · rw [status] at isPromoted
        cases isPromoted
      · rw [status] at isPromoted
        cases isPromoted
    next => exact isUpdated ▸ isEntry

theorem CreatesFor.promote (reservation : Reservation) (promotedAt now : Instant)
    (found : data.entryById? entry.id = some entry) (pending : entry.status = .PENDING) :
    CreatesFor entry.id reservation data
      ((Promotion.create entry reservation promotedAt).writes data now) where
  created := rfl
  waiting := ⟨entry, found, pending⟩
  promoted := by
    refine ⟨_, WaitingData.entryById?_promote reservation promotedAt now found, ?_⟩
    simp [WaitingListEntry.promoted]
  others := by
    intro other isOther row isRow
    have unselected : (row.id == entry.id) = false :=
      beq_false_of_ne fun same => isOther ((KeyedRows.key_of_lookup isRow).symm.trans same)
    rw [WaitingData.entryById?_promote reservation promotedAt now isRow, unselected]
    rfl

theorem WaitingStep.creates {data data' : WaitingData} (step : WaitingStep data data') :
    PromotesNone data data' ∨ ∃ entryId reservation, CreatesFor entryId reservation data data' := by
  cases step with
  | nothing => exact .inl ⟨rfl, fun _ _ found _ => found⟩
  | join entry pending => exact .inl (.insertEntry pending)
  | close closes => exact .inl (.close closes)
  | promote entry reservation promotedAt now found pending =>
    exact .inr ⟨entry.id, reservation, .promote reservation promotedAt now found pending⟩

theorem LinkedTo.goOn {entryId reservationId : Id} {data data' : WaitingData}
    (linked : LinkedTo entryId reservationId data) (goOn : EntriesGoOn data data') :
    LinkedTo entryId reservationId data' := by
  obtain ⟨entry, found, closed, isLink⟩ := linked
  obtain ⟨entry', found', goesOn⟩ := goOn entryId entry found
  exact ⟨entry', found', goesOn.not_pending closed, (goesOn.link closed).trans isLink⟩

theorem CreatesFor.not_of_goOn {entryId : Id} {reservation : Reservation}
    {earlier data data' : WaitingData} (found : earlier.entryById? entryId = some entry)
    (closed : entry.status ≠ .PENDING) (goOn : EntriesGoOn earlier data) :
    ¬ CreatesFor entryId reservation data data' := by
  intro creates
  obtain ⟨waiting, isWaiting, pending⟩ := creates.waiting
  obtain ⟨entry', found', goesOn⟩ := goOn entryId entry found
  cases isWaiting.symm.trans found'
  exact goesOn.not_pending closed pending

/-- What is known of an entry over a run. -/
structure PromotedOnce (calls : WaitingCallId → WaitingCall) (entryId : Id) (first : WaitingData)
    (moves : List (Move WaitingCallId WaitingStore))
    (c : Config WaitingCallId WaitingStore (Except WaitingFailure WaitingAnswer)) : Prop where
  /-- At most one reservation is made for the entry. -/
  once : moves.Pairwise fun earlier later => ∀ reservation other,
    CreatesFor entryId reservation earlier.before.data earlier.after.data →
      ¬ CreatesFor entryId other later.before.data later.after.data
  /-- None is made once the entry was cancelled or expired. -/
  notClosed : moves.Pairwise fun earlier later => IsClosed entryId earlier.after.data →
    ∀ reservation, ¬ CreatesFor entryId reservation later.before.data later.after.data
  notClosedFirst : IsClosed entryId first → ∀ move ∈ moves, ∀ reservation,
    ¬ CreatesFor entryId reservation move.before.data move.after.data
  /-- The link of an entry that no longer waits stays. -/
  linked : ∀ reservationId, moves.Pairwise fun earlier later =>
    LinkedTo entryId reservationId earlier.after.data →
      LinkedTo entryId reservationId later.after.data
  /-- Every reservation is made for an entry, which is linked to it at once. -/
  made : ∀ move ∈ moves, PromotesNone move.before.data move.after.data ∨
    ∃ entryId reservation, CreatesFor entryId reservation move.before.data move.after.data
  returned : ∀ call newReservationId reservation, calls call = .promote entryId newReservationId →
    c.procs call = some (.done (.ok (.promoted (some reservation)))) →
      LinkedTo entryId reservation.id c.shared.data

variable (calls : WaitingCallId → WaitingCall)

section

variable [Icu] [Postgres] [ActionTokens]

/-- In every run at most one reservation is made for an entry, never once it was cancelled or
expired, and the entry keeps the reservation it was promoted to. -/
theorem promotedOnce {store : WaitingStore} (valid : store.data.violation? = none)
    {c : Config WaitingCallId WaitingStore (Except WaitingFailure WaitingAnswer)}
    {moves : List (Move WaitingCallId WaitingStore)}
    (run : (waitingSystem calls).Run (.initial store) moves c) (entryId : Id) :
    PromotedOnce calls entryId store.data moves c := by
  have runs := WaitingCall.prog_runs calls ∅
  have starts : (waitingAccess calls ∅).inv store.data store.now :=
    ⟨valid, fun _ isWatched => absurd isWatched (Set.notMem_empty _)⟩
  obtain ⟨sound, written⟩ := run_sound runs (sound_initial starts) run
    fun _ _ _ isWatched => absurd isWatched (Set.notMem_empty _)
  have goOn := moves_related EntriesGoOn.refl EntriesGoOn.trans run
    fun move isMove => (written move isMove).writes.2.goesOn
  constructor
  · apply goOn.between.imp
    intro earlier later between reservation other creates
    obtain ⟨entry, found, promoted, -⟩ := creates.promoted
    exact CreatesFor.not_of_goOn found (by rw [promoted]; decide) between
  · apply goOn.between.imp
    intro earlier later between closed reservation
    obtain ⟨entry, found, status⟩ := closed
    exact CreatesFor.not_of_goOn found (by rcases status with h | h <;> rw [h] <;> decide) between
  · intro closed move isMove reservation
    obtain ⟨entry, found, status⟩ := closed
    exact CreatesFor.not_of_goOn found (by rcases status with h | h <;> rw [h] <;> decide)
      (goOn.ofStart move isMove)
  · intro reservationId
    apply goOn.between.imp_of_mem
    intro earlier later _ isLater between linked
    exact (linked.goOn between).goOn (written later isLater).writes.2.goesOn
  · exact fun move isMove => (written move isMove).writes.2.creates
  · intro call newReservationId reservation isCall finished
    have outcome := sound.outcome finished
    rw [isCall] at outcome
    exact outcome reservation rfl

/-- The queue of a slot stays in the order of arrival in every run in which each join finds no
position beyond the number of entries that still wait. -/
theorem queue_inOrder (calls : WaitingCallId → WaitingCall) {store : WaitingStore}
    (valid : store.data.violation? = none) (restaurantId : Id) (slotStart : Instant)
    (inOrder : store.data.InOrder restaurantId slotStart)
    {c : Config WaitingCallId WaitingStore (Except WaitingFailure WaitingAnswer)}
    {moves : List (Move WaitingCallId WaitingStore)}
    (run : (waitingSystem calls).Run (.initial store) moves c)
    (atTail : ∀ move ∈ moves, JoinsAtTail calls restaurantId slotStart move.session
      move.before.now move.before.data move.after.data) :
    (∀ move ∈ moves, move.after.data.InOrder restaurantId slotStart) ∧
      c.shared.data.InOrder restaurantId slotStart := by
  have runs := WaitingCall.prog_runs calls {(restaurantId, slotStart)}
  have starts : (waitingAccess calls {(restaurantId, slotStart)}).inv store.data store.now := by
    refine ⟨valid, fun slot isWatched => ?_⟩
    cases isWatched
    exact inOrder
  obtain ⟨sound, written⟩ := run_sound runs (sound_initial starts) run
    fun move isMove slot isWatched => by
      cases isWatched
      exact atTail move isMove
  constructor
  · exact fun move isMove => (written move isMove).inv'.2 _ rfl
  · exact sound.inv.2 _ rfl

end

section

attribute [local instance] Icu.utc Postgres.c

/-- Tokens that are stored as they are. -/
@[reducible] def ActionTokens.plain : ActionTokens where
  hashActionToken token := token

attribute [local instance] ActionTokens.plain

/-- A restaurant with two free tables and some entries. -/
def waitingRoom (entries : List WaitingListEntry) : WaitingStore where
  data := { booking := twoTables [], entries }
  now := 0
  owner _ := none

def joining (name : String) : JoinArgs where
  restaurantId := "r"
  partySize := 2
  customerPhone := name
  slotStart := 68400000
  preferredSectionId := none
  waitingListEnabled := true
  waitingListMaxEntriesPerSlot := 10
  serviceDurationMinutes := none
  newId := name
  actionToken := name

def positions (data : WaitingData) : List Nat :=
  (data.queue "r" 68400000).map (·.position)

theorem inOrder_iff_positions (data : WaitingData) :
    data.InOrder "r" 68400000 ↔ (positions data).Pairwise fun earlier later => earlier < later :=
  List.pairwise_map.symm

/-- No position is beyond the number of those who wait for 19:00. -/
def tailOnly (moves : List (Move WaitingCallId WaitingStore)) : Bool :=
  moves.all fun move => (move.before.data.queue "r" 68400000).all fun entry =>
    decide (entry.position ≤ move.before.data.pendingCount "r" 68400000 move.before.now)

def promotion : WaitingCall := .promote "1" "b"

/-- A pair that waits gets a table. -/
theorem promotedOnce_pair : ∃ moves c, (waitingSystem fun _ => promotion).Run
        (.initial (waitingRoom [(joining "1").entry 0])) moves c ∧
      LinkedTo "1" "b" c.shared.data ∧
      PromotedOnce (fun _ => promotion) "1" (waitingRoom [(joining "1").entry 0]).data moves c := by
  obtain ⟨moves, c, run, entry, found, status, link⟩ :=
    (waitingSystem fun _ => promotion).exists_run_of_schedule (List.replicate 17 0)
      (.initial (waitingRoom [(joining "1").entry 0])) (fun _ c =>
        ∃ entry ∈ c.shared.data.entryById? "1", entry.status = .PROMOTED ∧
          entry.promotedReservationId = some "b") (by decide +kernel)
  have linked : LinkedTo "1" "b" c.shared.data := ⟨entry, found, by rw [status]; decide, link⟩
  exact ⟨moves, c, run, linked, promotedOnce _ (by decide +kernel) run "1"⟩

def twoJoins (call : WaitingCallId) : WaitingCall :=
  if call = 0 then .join (joining "1") else .join (joining "2")

theorem queue_inOrder_twoJoins :
    ∃ moves c, (waitingSystem twoJoins).Run (.initial (waitingRoom [])) moves c ∧
      positions c.shared.data = [1, 2] ∧ c.shared.data.InOrder "r" 68400000 := by
  obtain ⟨moves, c, run, isPositions, tail⟩ := (waitingSystem twoJoins).exists_run_of_schedule
    [0, 0, 0, 0, 0, 1, 1, 1, 1, 1] (.initial (waitingRoom []))
    (fun moves c => positions c.shared.data = [1, 2] ∧ tailOnly moves) (by decide +kernel)
  have atTail : ∀ move ∈ moves, JoinsAtTail twoJoins "r" 68400000 move.session move.before.now
      move.before.data move.after.data := by
    intro move isMove _ _ _ _ _ entry isEntry
    have here := List.all_eq_true.1 (List.all_eq_true.1 tail move isMove) entry isEntry
    exact of_decide_eq_true here
  have starts : (waitingRoom []).data.InOrder "r" 68400000 := .nil
  have inOrder := queue_inOrder twoJoins (by decide +kernel) "r" 68400000 starts run atTail
  exact ⟨moves, c, run, isPositions, inOrder.2⟩

/-- Two pairs join, the first cancels and a third joins. -/
def joinsAfterDeparture (call : WaitingCallId) : WaitingCall :=
  if call = 0 then .join (joining "1")
  else if call = 1 then .join (joining "2")
  else if call = 2 then .cancelByToken ⟨"1", "1", "r"⟩
  else .join (joining "3")

/-- The third gets the position of the second. -/
theorem queue_shares_position : ¬ ∀ (calls : WaitingCallId → WaitingCall) (store : WaitingStore),
      store.data.violation? = none → ∀ restaurantId slotStart,
      store.data.InOrder restaurantId slotStart →
      ∀ c moves, (waitingSystem calls).Run (.initial store) moves c →
        c.shared.data.InOrder restaurantId slotStart := by
  intro claim
  obtain ⟨moves, c, run, shown⟩ := (waitingSystem joinsAfterDeparture).exists_run_of_schedule
    [0, 0, 0, 0, 0, 1, 1, 1, 1, 1, 2, 2, 2, 2, 3, 3, 3, 3, 3] (.initial (waitingRoom []))
    (fun _ c => positions c.shared.data = [2, 2]) (by decide +kernel)
  have inOrder := claim joinsAfterDeparture (waitingRoom []) (by decide +kernel) "r" 68400000 .nil
    c moves run
  rw [inOrder_iff_positions, shown] at inOrder
  exact absurd inOrder (by decide)

end

end Sokar
