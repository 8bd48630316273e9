import Sokar.Library.EventMachine
import Sokar.Store.Rows

/-!
# Voice suggestions beside the team's preferences

`saveVoiceSuggestion` of `customer-voice-suggestions` and `upsertCustomerPreference` of
`customer-crm.service`, for one key of one customer.  A suggestion reads the row in one step and
replaces it in a later one.
-/

namespace Sokar

inductive CustomerDataSource where
  | MANUAL | RESERVATION | VOICE_SUGGESTION | POS | IMPORT
  deriving DecidableEq

structure CustomerPreference where
  restaurantId : Id
  value : Json
  source : CustomerDataSource
  confidence : Option ℚ
  confirmedAt : Option Instant
  expiresAt : Option Instant

namespace CustomerPreference

variable (row : CustomerPreference)

def isLive (now : Instant) : Bool := row.expiresAt.all (now < ·)

def isTeams : Bool := row.source ≠ .VOICE_SUGGESTION || row.confirmedAt.isSome

/-- The row that takes the place of the one there is, for a customer of the owner. -/
def upsertCustomerPreference (owner : Option Id) : Except String CustomerPreference :=
  if owner.any (· ≠ row.restaurantId) then .error "CRM_TENANT_MISMATCH"
  else if row.confidence.any fun confidence => confidence < 0 || 1 < confidence then
    .error "confidence must be between 0 and 1"
  else if row.expiresAt.any fun expiresAt => row.confirmedAt.any (expiresAt < ·) then
    .error "expiresAt must be after confirmedAt"
  -- the foreign key
  else if owner.isNone then .error "P2003"
  else .ok row

end CustomerPreference

structure VoiceSuggestionInput where
  restaurantId : Id
  value : String
  now : Instant

inductive SaveOutcome where
  | created | replaced | kept_team_value | unchanged

/-- How far a call of `saveVoiceSuggestion` has come. -/
inductive VoiceSave where
  | writing (input : VoiceSuggestionInput) (outcome : SaveOutcome)
  | done (outcome : SaveOutcome)

namespace VoiceSuggestionInput

variable (input : VoiceSuggestionInput)

/-- What follows from the row that was read. -/
def afterRead (existing : Option CustomerPreference) : VoiceSave :=
  match existing.filter (·.isLive input.now) with
  | none => .writing input (if existing.isSome then .replaced else .created)
  | some row =>
    if row.isTeams then .done .kept_team_value
    else match row.value with
      | .str value => if value = input.value then .done .unchanged else .writing input .replaced
      | _ => .writing input .replaced

def row : CustomerPreference where
  restaurantId := input.restaurantId
  value := .str input.value
  source := .VOICE_SUGGESTION
  confidence := some (3 / 5)
  confirmedAt := none
  expiresAt := some (input.now + 90 * 86400000)

end VoiceSuggestionInput

abbrev SaveId := Nat

structure PreferenceState where
  now : Instant
  existing : Option CustomerPreference
  saves : SaveId → Option VoiceSave

inductive PreferenceEvent where
  | pass (elapsed : Nat)
  | read (save : SaveId) (input : VoiceSuggestionInput)
  | write (save : SaveId)
  | upsert (row : CustomerPreference)

def PreferenceEvent.isVoice : PreferenceEvent → Bool
  | .read .. | .write _ => true
  | _ => false

namespace PreferenceState

def step (owner : Option Id) (s : PreferenceState) : PreferenceEvent → Option PreferenceState
  | .pass elapsed => some { s with now := s.now + elapsed }
  | .read save input =>
    if (s.saves save).isSome || s.now < input.now then none
    else some { s with
      saves := Function.update s.saves save (some (input.afterRead
        (s.existing.filter (·.restaurantId = input.restaurantId)))) }
  | .write save =>
    match s.saves save with
    | some (.writing input outcome) => do
      let row ← (input.row.upsertCustomerPreference owner).toOption
      some { s with
        existing := row
        saves := Function.update s.saves save (some (.done outcome)) }
    | _ => none
  | .upsert row => do
    let row ← (row.upsertCustomerPreference owner).toOption
    some { s with existing := row }

def machine (owner : Option Id) : EventMachine PreferenceState PreferenceEvent := ⟨step owner⟩

def first (now : Instant) : PreferenceState := ⟨now, none, fun _ => none⟩

/-- A suggestion was read and is still to be written. -/
def Writes (s : PreferenceState) (input : VoiceSuggestionInput) : Prop :=
  ∃ save outcome, s.saves save = some (.writing input outcome)

/-- The team enters or confirms nothing while a suggestion is between its two steps. -/
def Undisturbed (s : PreferenceState) : PreferenceEvent → Prop
  | .upsert row => row.isTeams → ∀ input, ¬ s.Writes input
  | _ => True

/-- The row is of the owner, and it is not the team's where a suggestion will replace it. -/
structure Sound (owner : Option Id) (s : PreferenceState) : Prop where
  owned : ∀ row, s.existing = some row → owner = some row.restaurantId
  started : ∀ input, s.Writes input → input.now ≤ s.now
  free : ∀ input, s.Writes input → owner = some input.restaurantId →
    ∀ row, s.existing = some row → row.isTeams → ¬ row.isLive input.now

end PreferenceState

variable {owner : Option Id} {existing : Option CustomerPreference}
variable {input voice : VoiceSuggestionInput} {outcome : SaveOutcome}

theorem CustomerPreference.upsertCustomerPreference_eq {row written : CustomerPreference}
    (upserted : (row.upsertCustomerPreference owner).toOption = some written) :
    written = row ∧ owner = some row.restaurantId := by
  rw [upsertCustomerPreference] at upserted
  split_ifs at upserted with foreign _ _ missing
  all_goals cases upserted
  cases owner with
  | none => exact absurd rfl missing
  | some restaurantId => simpa using foreign

theorem VoiceSuggestionInput.afterRead_writes
    (decided : input.afterRead existing = .writing voice outcome) :
    voice = input ∧ ∀ row, existing = some row → row.isTeams → ¬ row.isLive input.now := by
  rw [afterRead] at decided
  split at decided
  next settled =>
    cases decided
    refine ⟨rfl, fun row isRow _ => ?_⟩
    subst isRow
    simpa using settled
  next row found =>
    obtain ⟨rfl, -⟩ := Option.filter_eq_some_iff.1 found
    split_ifs at decided with teams
    refine ⟨?_, fun row isRow isTeams => ?_⟩
    · grind
    · cases isRow
      exact absurd isTeams teams

namespace PreferenceState

variable {s after : PreferenceState} {event : PreferenceEvent}

theorem writes_or {saves : SaveId → Option VoiceSave} {now : Instant} {save : SaveId}
    {next : VoiceSave}
    (writes : Writes ⟨now, existing, Function.update saves save (some next)⟩ input) :
    (∃ outcome, next = .writing input outcome) ∨ Writes ⟨now, existing, saves⟩ input := by
  obtain ⟨other, outcome, writing⟩ := writes
  by_cases same : other = save
  · exact .inl ⟨outcome, by simpa [same] using writing⟩
  · exact .inr ⟨other, outcome, by simpa [same] using writing⟩

theorem Sound.step (sound : s.Sound owner)
    (undisturbed : s.Undisturbed event) (happens : s.step owner event = some after) :
    after.Sound owner := by
  cases event with
  | pass elapsed =>
    cases happens
    exact { sound with started := fun input writes => (sound.started input writes).trans (by simp) }
  | read save input =>
    rw [PreferenceState.step] at happens
    split_ifs at happens with early
    cases happens
    refine ⟨sound.owned, fun voice writes => ?_, fun voice writes mine row isRow teams => ?_⟩
    · obtain ⟨outcome, decided⟩ | before := writes_or writes
      · rw [(VoiceSuggestionInput.afterRead_writes decided).1]
        simp_all
      · exact sound.started voice before
    · obtain ⟨outcome, decided⟩ | before := writes_or writes
      · obtain ⟨rfl, free⟩ := VoiceSuggestionInput.afterRead_writes decided
        have same := Option.some.inj (mine.symm.trans (sound.owned row isRow))
        exact free row (by simp [show s.existing = some row from isRow, same]) teams
      · exact sound.free voice before mine row isRow teams
  | write save =>
    rw [PreferenceState.step] at happens
    split at happens
    next voice outcome writing =>
      obtain ⟨row, upserted, ⟨⟩⟩ := Option.bind_eq_some_iff.1 happens
      obtain ⟨rfl, owned⟩ := CustomerPreference.upsertCustomerPreference_eq upserted
      refine ⟨fun row isRow => ?_, fun input writes => ?_, fun _ _ _ row isRow teams => ?_⟩
      · cases isRow
        exact owned
      · obtain ⟨_, ⟨⟩⟩ | before := writes_or writes
        exact sound.started input before
      · cases isRow
        cases teams
    · cases happens
  | upsert row =>
    obtain ⟨row, upserted, ⟨⟩⟩ := Option.bind_eq_some_iff.1 happens
    obtain ⟨rfl, owned⟩ := CustomerPreference.upsertCustomerPreference_eq upserted
    refine ⟨fun row isRow => ?_, sound.started, fun input writes _ row isRow teams => ?_⟩
    · cases isRow
      exact owned
    · cases isRow
      exact absurd writes (undisturbed teams input)

/-- As long as the team is undisturbed, no step of a suggestion replaces a value that the team
entered or confirmed and that has not expired. -/
theorem saveVoiceSuggestion_keeps {start : Instant}
    (reaches : (machine owner).Reaches Undisturbed (first start) s)
    (happens : s.step owner event = some after) (byVoice : event.isVoice)
    {row : CustomerPreference} (isRow : s.existing = some row) (teams : row.isTeams)
    (live : row.isLive s.now) : after.existing = some row := by
  have sound : s.Sound owner :=
    reaches.invariant ⟨by simp [first], by simp [first, Writes], by simp [first]⟩
      fun _ _ _ sound undisturbed happens => sound.step undisturbed happens
  cases event with
  | read save input =>
    rw [step] at happens
    split_ifs at happens
    cases happens
    exact isRow
  | write save =>
    rw [step] at happens
    split at happens
    next voice outcome writing =>
      obtain ⟨_, upserted, -⟩ := Option.bind_eq_some_iff.1 happens
      have mine := (CustomerPreference.upsertCustomerPreference_eq upserted).2
      refine absurd ?_ (sound.free voice ⟨save, outcome, writing⟩ mine row isRow teams)
      have started := sound.started voice ⟨save, outcome, writing⟩
      rw [CustomerPreference.isLive, Option.all_eq_true] at live ⊢
      exact fun expiresAt isEnd =>
        decide_eq_true (started.trans_lt (of_decide_eq_true (live expiresAt isEnd)))
    · cases happens
  | _ => cases byVoice

def entered : CustomerPreference := ⟨"r", .str "8", .MANUAL, none, none, none⟩

def suggested : VoiceSuggestionInput := ⟨"r", "7", 0⟩

theorem saveVoiceSuggestion_keeps_entered :
    ((machine (some "r")).follow (fun _ _ => True) [.upsert entered, .read 0 suggested]
      (first 0)).bind (·.existing) = some entered := by
  have reaches : (machine (some "r")).Reaches Undisturbed (first 0) ⟨0, entered, fun _ => none⟩ :=
    .step (.upsert entered) .start (fun _ _ ⟨_, _, writing⟩ => nomatch writing) rfl
  have happens : step (some "r") ⟨0, entered, fun _ => none⟩ (.read 0 suggested) = _ := rfl
  exact saveVoiceSuggestion_keeps reaches happens rfl rfl rfl rfl

/-- The team's entry comes between the two steps. -/
theorem saveVoiceSuggestion_overwrites :
    ¬ ∀ (owner : Option Id) (start : Instant) (s after : PreferenceState)
      (event : PreferenceEvent) (row : CustomerPreference),
      (machine owner).Reaches (fun _ _ => True) (first start) s →
      s.step owner event = some after → event.isVoice → s.existing = some row →
      row.isTeams → row.isLive s.now → after.existing = some row := by
  intro claim
  have upserted : suggested.row.upsertCustomerPreference (some "r") = .ok suggested.row := by
    norm_num [CustomerPreference.upsertCustomerPreference, VoiceSuggestionInput.row, suggested]
  let s : PreferenceState :=
    ⟨0, entered, Function.update (fun _ => none) 0 (some (.writing suggested .created))⟩
  have happens : s.step (some "r") (.write 0) =
      (suggested.row.upsertCustomerPreference (some "r")).toOption.bind fun row =>
        some ⟨0, row, Function.update s.saves 0 (some (.done .created))⟩ := rfl
  rw [upserted] at happens
  have overwritten := claim (some "r") 0 s _ (.write 0) entered
    (.step (.upsert entered) (.step (.read 0 suggested) .start trivial rfl) trivial rfl)
    happens rfl rfl rfl rfl
  simp [entered, VoiceSuggestionInput.row] at overwritten

end PreferenceState

end Sokar
