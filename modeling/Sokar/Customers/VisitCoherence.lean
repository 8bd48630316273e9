import Mathlib.Logic.Function.Basic
import Sokar.Customers.VisitCache
import Sokar.Library.EventMachine

/-!
# Loads through the cache of visits

A commit that touches the visits of a customer draws a version that was never drawn before, and an
answer is kept under the version that its load has read.  Commits, loads and the writes that Redis
receives come in any order.
-/

namespace Sokar.Customers

structure VisitRevision where
  version : Nat
  reservations : List LifecycleReservation
  deriving DecidableEq

/-- A call of `loadComputedCustomerVisits`.  It began after the commit in the place `since`, and ended
before the one after `upTo`. -/
inductive VisitLoad where
  | lookingUp (now : Instant) (since version : Nat)
  | computing (now : Instant) (since : Nat) (key : Option Nat)
  | done (now : Instant) (since upTo : Nat) (result : ComputedCustomerVisits)
  deriving DecidableEq

structure VisitCacheState where
  commits : List VisitRevision
  cache : Nat → Option VisitCacheEntry
  /-- Each may arrive at any later moment, or never. -/
  writes : List (Nat × VisitCacheEntry)
  loads : Nat → Option VisitLoad

inductive VisitCacheEvent where
  | commit (revision : VisitRevision)
  | start (load : Nat) (now : Instant)
  | lookUp (load : Nat)
  | fail (load : Nat)
  | compute (load : Nat)
  | arrive (write : Nat)
  | expire (version : Nat)

namespace VisitCacheState

variable (s : VisitCacheState)

def setLoad (load : Nat) (next : VisitLoad) : VisitCacheState :=
  { s with loads := Function.update s.loads load (some next) }

def lookUp (now : Instant) (since version : Nat) : VisitLoad :=
  match (s.cache version).bind (·.read now) with
  | some value => .done now since (s.commits.length - 1) value
  | none => .computing now since (some version)

def step : VisitCacheEvent → Option VisitCacheState
  | .commit revision =>
    if revision.version ∈ s.commits.map (·.version) then none
    else some { s with commits := s.commits ++ [revision] }
  | .start load now =>
    if (s.loads load).isSome then none
    else s.commits.getLast?.map fun current =>
      s.setLoad load (.lookingUp now (s.commits.length - 1) current.version)
  | .lookUp load =>
    match s.loads load with
    | some (.lookingUp now since version) => some (s.setLoad load (s.lookUp now since version))
    | _ => none
  | .fail load =>
    match s.loads load with
    | some (.lookingUp now since _) => some (s.setLoad load (.computing now since none))
    | _ => none
  | .compute load =>
    match s.loads load, s.commits.getLast? with
    | some (.computing now since key), some current =>
      some { s.setLoad load (.done now since (s.commits.length - 1)
          (computeVisits current.reservations now)) with
        writes := s.writes ++ key.toList.map fun version =>
          (version, cachedVisits current.reservations now) }
    | _, _ => none
  | .arrive write =>
    s.writes[write]?.map fun sent =>
      { s with cache := Function.update s.cache sent.1 (some sent.2) }
  | .expire version => some { s with cache := Function.update s.cache version none }

def machine : EventMachine VisitCacheState VisitCacheEvent := ⟨step⟩

def first (revision : VisitRevision) : VisitCacheState :=
  ⟨[revision], fun _ => none, [], fun _ => none⟩

end VisitCacheState

/-- The version that the commit in a place has left. -/
def HasVersion (commits : List VisitRevision) (place version : Nat) : Prop :=
  (commits.map (·.version))[place]? = some version

/-- The visits at a moment between two commits, seen at an instant. -/
def Answers (commits : List VisitRevision) (since upTo : Nat) (now : Instant)
    (result : ComputedCustomerVisits) : Prop :=
  ∃ moment revision, since ≤ moment ∧ moment ≤ upTo ∧ commits[moment]? = some revision ∧
    computeVisits revision.reservations now = result

/-- The entry was computed when the version was the last one, or later. -/
def Stems (commits : List VisitRevision) (version : Nat) (entry : VisitCacheEntry) : Prop :=
  ∃ since moment revision now, HasVersion commits since version ∧ since ≤ moment ∧
    commits[moment]? = some revision ∧ cachedVisits revision.reservations now = entry

def VisitLoad.Fits (commits : List VisitRevision) : VisitLoad → Prop
  | .lookingUp _ since version => HasVersion commits since version
  | .computing _ since key =>
    since < commits.length ∧ ∀ version ∈ key, HasVersion commits since version
  | .done now since upTo result => Answers commits since upTo now result

section

variable {commits : List VisitRevision} {since version : Nat} {now : Instant}

theorem of_update {α : Type} {entries : Nat → Option α} {key other : Nat} {next : Option α} {entry : α}
    (found : Function.update entries key next other = some entry) :
    other = key ∧ next = some entry ∨ entries other = some entry := by
  rw [Function.update_apply] at found
  split_ifs at found with same
  · exact .inl ⟨same, found⟩
  · exact .inr found

theorem getElem?_append_of_some {α : Type} {items : List α} {place : Nat} {item : α}
    (found : items[place]? = some item) (more : List α) : (items ++ more)[place]? = some item := by
  rw [List.getElem?_append_left (List.getElem?_eq_some_iff.1 found).1]
  exact found

theorem HasVersion.append (has : HasVersion commits since version) (more : List VisitRevision) :
    HasVersion (commits ++ more) since version := by
  rw [HasVersion, List.map_append]
  exact getElem?_append_of_some has _

theorem HasVersion.lt_length (has : HasVersion commits since version) : since < commits.length := by
  simpa using (List.getElem?_eq_some_iff.1 has).1

theorem Stems.append {entry : VisitCacheEntry} (stems : Stems commits version entry)
    (more : List VisitRevision) : Stems (commits ++ more) version entry := by
  obtain ⟨since, moment, revision, now, has, order, found, isEntry⟩ := stems
  exact ⟨since, moment, revision, now, has.append more, order, getElem?_append_of_some found more,
    isEntry⟩

theorem VisitLoad.Fits.append {load : VisitLoad} (fits : load.Fits commits)
    (more : List VisitRevision) : load.Fits (commits ++ more) := by
  cases load with
  | lookingUp => exact HasVersion.append fits more
  | computing now since key =>
    refine ⟨fits.1.trans_le ?_, fun version isKey => (fits.2 version isKey).append more⟩
    rw [List.length_append]
    exact Nat.le_add_right _ _
  | done =>
    obtain ⟨moment, revision, lower, upper, found, isResult⟩ := fits
    exact ⟨moment, revision, lower, upper, getElem?_append_of_some found more, isResult⟩

/-- A version is found in one place only, so an entry that may be read was computed after its reader
began. -/
theorem Stems.answers {entry : VisitCacheEntry} {value : ComputedCustomerVisits}
    (unique : (commits.map (·.version)).Nodup) (stems : Stems commits version entry)
    (has : HasVersion commits since version) (isValue : entry.read now = some value) :
    Answers commits since (commits.length - 1) now value := by
  obtain ⟨since', moment, revision, computedAt, has', order, found, rfl⟩ := stems
  obtain rfl : since' = since :=
    (List.getElem?_inj (List.getElem?_eq_some_iff.1 has').1 unique).1 (has'.trans has.symm)
  rw [VisitCacheEntry.read] at isValue
  split_ifs at isValue with stale
  obtain ⟨notEarlier, valid⟩ := not_or.1 stale
  cases isValue
  exact ⟨moment, revision, order, Nat.le_sub_one_of_lt (List.getElem?_eq_some_iff.1 found).1, found,
    (computeVisits_eq (sameAnswers (not_lt.1 notEarlier) (not_le.1 valid))).symm⟩

end

namespace VisitCacheState

structure Sound (s : VisitCacheState) : Prop where
  unique : (s.commits.map (·.version)).Nodup
  cached : ∀ version entry, s.cache version = some entry → Stems s.commits version entry
  sent : ∀ write ∈ s.writes, Stems s.commits write.1 write.2
  fits : ∀ load state, s.loads load = some state → state.Fits s.commits

variable {s after : VisitCacheState}

theorem Sound.setLoad (sound : s.Sound) {load : Nat} {next : VisitLoad}
    (fits : next.Fits s.commits) : (s.setLoad load next).Sound where
  unique := sound.unique
  cached := sound.cached
  sent := sound.sent
  fits other state isState := by
    rcases of_update isState with ⟨-, isNext⟩ | before
    · cases isNext
      exact fits
    · exact sound.fits other state before

theorem Sound.step (sound : s.Sound) {event : VisitCacheEvent}
    (happens : s.step event = some after) : after.Sound := by
  cases event with
  | commit revision =>
    simp only [VisitCacheState.step] at happens
    split_ifs at happens with drawn
    cases happens
    refine ⟨?_, fun version entry isEntry => (sound.cached version entry isEntry).append _,
      fun write isWrite => (sound.sent write isWrite).append _,
      fun load state isState => (sound.fits load state isState).append _⟩
    rw [List.map_append]
    exact sound.unique.append (List.nodup_singleton _) (List.disjoint_singleton.2 drawn)
  | start load now =>
    simp only [VisitCacheState.step] at happens
    split_ifs at happens
    obtain ⟨current, isLast, rfl⟩ := Option.map_eq_some_iff.1 happens
    apply sound.setLoad
    rw [List.getLast?_eq_getElem?] at isLast
    simp [VisitLoad.Fits, HasVersion, isLast]
  | lookUp load =>
    simp only [VisitCacheState.step] at happens
    split at happens
    next now since version isLoad =>
      cases happens
      have has : HasVersion s.commits since version := sound.fits load _ isLoad
      apply sound.setLoad
      rw [VisitCacheState.lookUp]
      split
      next value hit =>
        obtain ⟨entry, isEntry, isValue⟩ := Option.bind_eq_some_iff.1 hit
        exact (sound.cached version entry isEntry).answers sound.unique has isValue
      next =>
        refine ⟨has.lt_length, fun key isKey => ?_⟩
        cases isKey
        exact has
    next => cases happens
  | fail load =>
    simp only [VisitCacheState.step] at happens
    split at happens
    next now since version isLoad =>
      cases happens
      have has : HasVersion s.commits since version := sound.fits load _ isLoad
      exact sound.setLoad ⟨has.lt_length, fun key isKey => by cases isKey⟩
    next => cases happens
  | compute load =>
    simp only [VisitCacheState.step] at happens
    split at happens
    next now since key current isLoad isLast =>
      cases happens
      obtain ⟨before, has⟩ := sound.fits load _ isLoad
      rw [List.getLast?_eq_getElem?] at isLast
      have order : since ≤ s.commits.length - 1 := Nat.le_sub_one_of_lt before
      have set : (s.setLoad load (.done now since (s.commits.length - 1)
          (computeVisits current.reservations now))).Sound :=
        sound.setLoad ⟨_, current, order, le_rfl, isLast, rfl⟩
      refine ⟨set.unique, set.cached, fun write isWrite => ?_, set.fits⟩
      rcases List.mem_append.1 isWrite with earlier | new
      · exact sound.sent write earlier
      · obtain ⟨version, isKey, rfl⟩ := List.mem_map.1 new
        exact ⟨since, _, current, now, has version (Option.mem_toList.1 isKey), order, isLast, rfl⟩
    next => cases happens
  | arrive write =>
    obtain ⟨sent, isWrite, rfl⟩ := Option.map_eq_some_iff.1 happens
    refine ⟨sound.unique, fun version entry isEntry => ?_, sound.sent, sound.fits⟩
    rcases of_update isEntry with ⟨rfl, isNew⟩ | before
    · cases isNew
      exact sound.sent sent (List.mem_of_getElem? isWrite)
    · exact sound.cached version entry before
  | expire version =>
    cases happens
    refine ⟨sound.unique, fun other entry isEntry => ?_, sound.sent, sound.fits⟩
    rcases of_update isEntry with ⟨-, isNone⟩ | before
    · cases isNone
    · exact sound.cached other entry before

/-- Whatever the order of commits, loads and writes, a load answers with the visits as the database
had them at some moment between its beginning and its end, seen at the instant it was asked for. -/
theorem loadComputedCustomerVisits_current {revision : VisitRevision}
    (reaches : machine.Reaches (fun _ _ => True) (first revision) s) {load : Nat} {now : Instant}
    {since upTo : Nat} {result : ComputedCustomerVisits}
    (finished : s.loads load = some (.done now since upTo result)) :
    Answers s.commits since upTo now result := by
  have sound : s.Sound := by
    apply reaches.invariant
    · constructor <;> simp [first]
    · rintro before event after sound - happens
      exact Sound.step sound happens
  exact sound.fits load _ finished

end VisitCacheState

open VisitCacheState

/-- The second load finds the answer of the first, though the visit was taken back since it began. -/
theorem loadComputedCustomerVisits_current_again : ∃ s result,
    machine.Reaches (fun _ _ => True) (first ⟨0, [⟨.HONORED, some .SEATED, none, 0⟩]⟩) s ∧
      s.loads 1 = some (.done 3700000 0 1 result) ∧ result.summary.visits = 1 ∧
        Answers s.commits 0 1 3700000 result := by
  have shown : (machine.follow (fun _ _ => True) [.start 0 3600000, .lookUp 0, .compute 0,
      .start 1 3700000, .commit ⟨7, []⟩, .arrive 0, .lookUp 1]
        (first ⟨0, [⟨.HONORED, some .SEATED, none, 0⟩]⟩)).any
          (fun s => s.loads 1 = some (.done 3700000 0 1
            (computeVisits [⟨.HONORED, some .SEATED, none, 0⟩] 3600000))) = true := by
    decide +kernel
  obtain ⟨s, reaches, isDone⟩ := EventMachine.exists_of_follow shown
  have finished := of_decide_eq_true isDone
  exact ⟨s, _, reaches, finished, by decide +kernel,
    loadComputedCustomerVisits_current reaches finished⟩

end Sokar.Customers
