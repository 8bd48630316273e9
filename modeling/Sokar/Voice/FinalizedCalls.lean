import Sokar.Library.Trimming
import Sokar.Voice.CallFinalization

/-!
# What finalisations add to a call

A finalisation that is repeated at once writes nothing.  Over any sequence of events an outcome only
gives way to a stronger one, a transcript to a longer one and an intent to that of reserving; but
the latest positive duration and the latest providers replace those that were recorded.
-/

namespace Sokar

/-- A name that is recorded as it is. -/
def IsProviderName (name : String) : Prop :=
  trim name = name ∧ name ≠ ""

theorem providerName_some {provider : Option String} {name : String}
    (found : providerName provider = some name) : IsProviderName name := by
  obtain ⟨trimmed, visible⟩ := Option.filter_eq_some_iff.1 found
  obtain ⟨text, -, rfl⟩ := Option.map_eq_some_iff.1 trimmed
  exact ⟨trim_trim text, bne_iff_ne.1 visible⟩

theorem IsProviderName.providerName {name : String} (isName : IsProviderName name) :
    providerName (some name) = some name := by
  simp [Sokar.providerName, isName.1, isName.2]

/-- A name stays one behind a text that begins with a letter. -/
theorem IsProviderName.append {front name : String} {char : Char} {rest : List Char}
    (isName : IsProviderName name) (begins : front.toList = char :: rest)
    (visible : isTrimmedChar char = false) : IsProviderName (front ++ name) := by
  have nonempty : name.toList ≠ [] := fun empty => isName.2 (String.toList_eq_nil_iff.1 empty)
  have kept : name.toList.rdropWhile isTrimmedChar = name.toList := by
    have trimmed : Trimming.trim isTrimmedChar name.toList = name.toList :=
      String.ofList_inj.1 (isName.1.trans String.ofList_toList.symm)
    rw [← trimmed]
    exact Trimming.rdropWhile_trim name.toList
  have whole : (front ++ name).toList.dropWhile isTrimmedChar = (front ++ name).toList := by
    rw [String.toList_append, begins, List.cons_append, List.dropWhile_cons, visible]
    rfl
  have ends : ((front ++ name).toList).rdropWhile isTrimmedChar = (front ++ name).toList := by
    rw [String.toList_append]
    rw [List.rdropWhile_eq_self_iff] at kept ⊢
    intro _
    rw [List.getLast_append_of_ne_nil _ nonempty]
    exact kept nonempty
  constructor
  · rw [trim, whole]
    exact (congrArg String.ofList ends).trans String.ofList_toList
  · intro empty
    have none := congrArg String.toList empty
    rw [String.toList_append, begins] at none
    cases none

def DEFAULT_ELEVENLABS_TTS_MODEL : String := "eleven_v4_turbo"

def CARTESIA_MODEL : String := "sonic-3.6"

/-- The settings of the speech of calls. -/
structure TtsSettings where
  VOICE_TTS_PROVIDER : Option String
  ELEVENLABS_TTS_MODEL : Option String

namespace TtsSettings

variable (settings : TtsSettings)

def elevenLabsTtsModel : String :=
  (providerName settings.ELEVENLABS_TTS_MODEL).getD DEFAULT_ELEVENLABS_TTS_MODEL

/-- The provider of the telephone, with its model. -/
def defaultTtsProvider : String :=
  if settings.VOICE_TTS_PROVIDER = some "elevenlabs" then
    "elevenlabs-" ++ settings.elevenLabsTtsModel
  else "cartesia-" ++ CARTESIA_MODEL

theorem isProviderName_defaultTtsProvider : IsProviderName settings.defaultTtsProvider := by
  rw [defaultTtsProvider]
  split
  · have isModel : IsProviderName settings.elevenLabsTtsModel := by
      rw [elevenLabsTtsModel]
      cases found : providerName settings.ELEVENLABS_TTS_MODEL with
      | none => exact ⟨trim_of_noSpace (by decide), by decide⟩
      | some name => exact providerName_some found
    exact isModel.append rfl (by decide)
  · exact ⟨trim_of_noSpace (by decide), by decide⟩

end TtsSettings

section

theorem pickTranscript_again (existing incoming : Option String) :
    pickTranscript (pickTranscript existing incoming) incoming =
      pickTranscript existing incoming := by
  apply pickTranscript_of_le
  rw [transcriptLength_pickTranscript]
  exact le_max_right _ _

/-- The intent that is known is the last to be looked at. -/
theorem deriveCallIntent_eq (conversationIntent transcript : Option String)
    (existing : Option CallIntent) :
    deriveCallIntent conversationIntent transcript existing =
      (deriveCallIntent conversationIntent transcript none).or existing := by
  simp only [deriveCallIntent]
  split_ifs <;> rfl

theorem pickIntent_again (found existing : Option CallIntent) :
    pickIntent (pickIntent existing (found.or existing))
        (found.or (pickIntent existing (found.or existing))) =
      pickIntent existing (found.or existing) := by
  cases found with
  | none => cases existing <;> simp [pickIntent]
  | some found =>
    cases existing with
    | none => simp [pickIntent]
    | some existing =>
      by_cases same : existing = found
      · simp [pickIntent, same]
      · by_cases upgrade : found = .RESERVATION
        · subst upgrade
          simp [pickIntent, same]
        · simp [pickIntent, same, upgrade]

theorem pickDuration_again (existing : Option Int) (incoming : Option ℚ) :
    pickDuration (pickDuration existing incoming) incoming = pickDuration existing incoming := by
  cases incoming with
  | none => rfl
  | some incoming =>
    by_cases positive : 0 < (incoming + 1 / 2).floor
    · simp only [pickDuration, if_pos positive]
    · simp only [pickDuration, if_neg positive, Option.getD_some]

section

variable (incoming observed : Option String) {fallback : String}
variable (isName : IsProviderName fallback)
include isName

theorem isProviderName_pickProvider : IsProviderName (pickProvider incoming observed fallback) := by
  rw [pickProvider]
  cases given : providerName incoming with
  | some name => exact providerName_some given
  | none =>
    cases seen : providerName observed with
    | some name => exact providerName_some seen
    | none => exact isName

theorem pickProvider_again :
    pickProvider incoming (some (pickProvider incoming observed fallback)) fallback =
      pickProvider incoming observed fallback := by
  have again := (isProviderName_pickProvider incoming observed isName).providerName
  generalize picked : pickProvider incoming observed fallback = name at again
  rw [pickProvider] at picked ⊢
  rw [again, ← picked]
  cases providerName incoming <;> rfl

end

theorem pickObservedProvider_again (incoming observed : Option String) :
    (pickObservedProvider incoming ((pickObservedProvider incoming observed).or observed)) =
      pickObservedProvider incoming observed := by
  cases picked : pickObservedProvider incoming observed with
  | none => rw [Option.none_or, picked]
  | some name =>
    rw [Option.some_or, pickObservedProvider]
    rw [pickObservedProvider] at picked
    have isName : IsProviderName name := by
      rcases Option.or_eq_some_iff.1 picked with given | ⟨-, seen⟩
      · exact providerName_some given
      · exact providerName_some seen
    rw [isName.providerName]
    cases given : providerName incoming with
    | none => rfl
    | some other =>
      rw [given, Option.some_or] at picked
      rw [Option.some_or, picked]

end

section

variable {tts : String} {snapshot : CallFinalizationSnapshot} {hints : VoiceFinalizationHints}

@[simp] theorem finalizeWith_intent : (finalizeWith tts snapshot hints).intent =
      pickIntent snapshot.intent (deriveCallIntent hints.conversationIntent
        ((pickTranscript snapshot.transcript hints.transcript).or hints.transcript)
        snapshot.intent) := by
  simp only [finalizeWith, applyPlanToSnapshot, planCallFinalization]
  split
  next same => exact same.symm
  next => rfl

@[simp] theorem finalizeWith_durationSec : (finalizeWith tts snapshot hints).durationSec =
      pickDuration snapshot.durationSec hints.durationSec := by
  simp only [finalizeWith, applyPlanToSnapshot, planCallFinalization]
  split
  next same => exact same.symm
  next => rfl

@[simp] theorem finalizeWith_sttProvider : (finalizeWith tts snapshot hints).sttProvider =
      some (pickProvider hints.sttProvider snapshot.sttProvider DEFAULT_STT_PROVIDER) := by
  simp only [finalizeWith, applyPlanToSnapshot, planCallFinalization]
  split
  next same => exact same.symm
  next => rfl

@[simp] theorem finalizeWith_ttsProvider : (finalizeWith tts snapshot hints).ttsProvider =
      some (pickProvider hints.ttsProvider snapshot.ttsProvider tts) := by
  simp only [finalizeWith, applyPlanToSnapshot, planCallFinalization]
  split
  next same => exact same.symm
  next => rfl

@[simp] theorem finalizeWith_llmProvider : (finalizeWith tts snapshot hints).llmProvider =
      (pickObservedProvider hints.llmProvider snapshot.llmProvider).or snapshot.llmProvider := by
  simp only [finalizeWith, applyPlanToSnapshot, planCallFinalization]
  split
  next same =>
    rw [same]
    cases snapshot.llmProvider <;> rfl
  next => rfl

theorem rank_le_pickOutcome (existing : Option CallOutcome) (found : CallOutcome) :
    found.rank ≤ (pickOutcome existing found).rank := by
  cases existing with
  | none => exact le_rfl
  | some existing =>
    rw [pickOutcome]
    split
    next => exact le_rfl
    next stronger => exact (not_le.1 stronger).le

theorem existing_rank_le_pickOutcome {existing found : CallOutcome} :
    existing.rank ≤ (pickOutcome (some existing) found).rank := by
  rw [pickOutcome]
  split
  next weaker => exact weaker
  next => exact le_rfl

theorem CallOutcome.rank_injective : Function.Injective CallOutcome.rank := by
  intro first second same
  cases first <;> cases second <;> first | rfl | cases same

theorem pickOutcome_of_le {existing found : CallOutcome} (weaker : found.rank ≤ existing.rank) :
    pickOutcome (some existing) found = existing := by
  rw [pickOutcome]
  split
  next stronger => exact CallOutcome.rank_injective (weaker.antisymm stronger)
  next => rfl

/-- The event makes no more of the call than it has made of it. -/
theorem candidate_again_le : (candidate (finalizeWith tts snapshot hints) hints).rank ≤
      (pickOutcome snapshot.outcome (candidate snapshot hints)).rank := by
  have kept := rank_le_pickOutcome snapshot.outcome (candidate snapshot hints)
  generalize picked : pickOutcome snapshot.outcome (candidate snapshot hints) = outcome at kept
  have isOutcome : (finalizeWith tts snapshot hints).outcome = some outcome :=
    finalizeWith_outcome.trans (congrArg some picked)
  rw [candidate, isOutcome, finalizeWith_reservationCreated, finalizeWith_messageRecorded,
    finalizeWith_transcript, pickTranscript_again]
  rw [candidate] at kept picked
  by_cases reserved : snapshot.reservationCreated
  · rw [if_pos reserved] at kept ⊢
    exact kept
  rw [if_neg reserved] at kept picked ⊢
  by_cases accepted : hints.handoffAccepted
  · rw [if_pos (.inr accepted)] at kept ⊢
    exact kept
  by_cases handedOff : outcome = .HANDOFF
  · rw [if_pos (.inl (congrArg some handedOff)), handedOff]
  have wasNot : ¬(snapshot.outcome = some .HANDOFF ∨ hints.handoffAccepted = true) := by
    rintro (was | accepts)
    · rw [if_pos (.inl was), was] at picked
      exact handedOff picked.symm
    · exact accepted accepts
  rw [if_neg (by simp [accepted, handedOff])]
  rw [if_neg wasNot] at kept picked
  by_cases recorded : snapshot.messageRecorded
  · rw [if_pos recorded] at kept ⊢
    exact kept
  rw [if_neg recorded] at kept picked ⊢
  by_cases errs : hints.errored
  · rw [if_pos (.inr errs)] at kept ⊢
    exact kept
  by_cases failed : outcome = .ERROR
  · rw [if_pos (.inl (congrArg some failed)), failed]
  have hadNot : ¬(snapshot.outcome = some .ERROR ∨ hints.errored = true) := by
    rintro (had | errors)
    · rw [if_pos (.inl had), had] at picked
      exact failed picked.symm
    · exact errs errors
  rw [if_neg (by simp [errs, failed])]
  rw [if_neg hadNot] at kept
  exact kept

theorem pickOutcome_again : pickOutcome (finalizeWith tts snapshot hints).outcome
        (candidate (finalizeWith tts snapshot hints) hints) =
      pickOutcome snapshot.outcome (candidate snapshot hints) := by
  have weaker := @candidate_again_le tts snapshot hints
  rw [finalizeWith_outcome]
  exact pickOutcome_of_le weaker

theorem updatedFields_eq_nil {data : CallFinalizationData} (transcript : data.transcript = none)
    (intent : data.intent = none) (outcome : data.outcome = none)
    (durationSec : data.durationSec = none) (sttProvider : data.sttProvider = none)
    (llmProvider : data.llmProvider = none) (ttsProvider : data.ttsProvider = none) :
    data.updatedFields = [] := by
  simp [CallFinalizationData.updatedFields, transcript, intent, outcome, durationSec, sttProvider,
    llmProvider, ttsProvider]

/-- A finalisation that is repeated at once writes nothing. -/
theorem updatedFields_again (isName : IsProviderName tts) :
    (planCallFinalization tts (finalizeWith tts snapshot hints) hints).updatedFields = [] := by
  have outcome : (planCallFinalization tts (finalizeWith tts snapshot hints) hints).data.outcome =
      if some (planCallFinalization tts (finalizeWith tts snapshot hints) hints).outcome =
        (finalizeWith tts snapshot hints).outcome then none
      else some (planCallFinalization tts (finalizeWith tts snapshot hints) hints).outcome := rfl
  apply updatedFields_eq_nil
  · refine if_pos ?_
    rw [finalizeWith_transcript, pickTranscript_again]
  · refine if_pos ?_
    rw [finalizeWith_intent, finalizeWith_transcript, pickTranscript_again]
    rw [deriveCallIntent_eq _ _ (pickIntent _ _), deriveCallIntent_eq _ _ snapshot.intent]
    exact pickIntent_again _ _
  · refine outcome.trans (if_pos ?_)
    rw [planCallFinalization_outcome, pickOutcome_again, finalizeWith_outcome]
  · refine if_pos ?_
    rw [finalizeWith_durationSec, pickDuration_again]
  · refine if_pos ?_
    rw [finalizeWith_sttProvider, pickProvider_again]
    exact ⟨trim_of_noSpace (by decide), by decide⟩
  · have picked := pickObservedProvider_again hints.llmProvider snapshot.llmProvider
    refine (ite_eq_left_iff.2 fun differs => ?_)
    rw [finalizeWith_llmProvider, picked] at differs ⊢
    cases found : pickObservedProvider hints.llmProvider snapshot.llmProvider with
    | none => rfl
    | some name => exact absurd (by rw [found]; rfl) differs
  · refine if_pos ?_
    rw [finalizeWith_ttsProvider, pickProvider_again _ _ isName]

end

/-- What of a call later events take nothing from. -/
structure Adds (before after : CallFinalizationSnapshot) : Prop where
  outcome : ∀ outcome, before.outcome = some outcome →
    ∃ kept, after.outcome = some kept ∧ outcome.rank ≤ kept.rank
  transcript : after.transcript = before.transcript ∨
    transcriptLength before.transcript < transcriptLength after.transcript
  durationSec : ∀ duration, before.durationSec = some duration →
    ∃ kept, after.durationSec = some kept ∧ (kept = duration ∨ 0 < kept)
  intent : ∀ intent, before.intent = some intent →
    after.intent = some intent ∨ after.intent = some .RESERVATION

namespace Adds

theorem refl (snapshot : CallFinalizationSnapshot) : Adds snapshot snapshot where
  outcome outcome isOutcome := ⟨outcome, isOutcome, le_rfl⟩
  transcript := .inl rfl
  durationSec duration isDuration := ⟨duration, isDuration, .inl rfl⟩
  intent _ isIntent := .inl isIntent

theorem trans {first second third : CallFinalizationSnapshot} (adds : Adds first second)
    (more : Adds second third) : Adds first third where
  outcome outcome isOutcome := by
    obtain ⟨kept, isKept, stronger⟩ := adds.outcome outcome isOutcome
    obtain ⟨last, isLast, strongerStill⟩ := more.outcome kept isKept
    exact ⟨last, isLast, stronger.trans strongerStill⟩
  transcript := by
    rcases adds.transcript, more.transcript with ⟨same | longer, sameAgain | longerStill⟩
    · exact .inl (sameAgain.trans same)
    · exact .inr (same ▸ longerStill)
    · exact .inr (sameAgain ▸ longer)
    · exact .inr (longer.trans longerStill)
  durationSec duration isDuration := by
    obtain ⟨kept, isKept, same | positive⟩ := adds.durationSec duration isDuration
    · subst same
      exact more.durationSec kept isKept
    · obtain ⟨last, isLast, same | positiveToo⟩ := more.durationSec kept isKept
      · exact ⟨last, isLast, .inr (same ▸ positive)⟩
      · exact ⟨last, isLast, .inr positiveToo⟩
  intent intent isIntent := by
    rcases adds.intent intent isIntent with same | upgraded
    · exact more.intent intent same
    · exact .inr ((more.intent _ upgraded).elim id id)

variable (tts : String) (snapshot : CallFinalizationSnapshot)

theorem finalizeWith (hints : VoiceFinalizationHints) :
    Adds snapshot (finalizeWith tts snapshot hints) where
  outcome outcome isOutcome := by
    refine ⟨_, finalizeWith_outcome, ?_⟩
    rw [isOutcome]
    exact existing_rank_le_pickOutcome
  transcript := by
    rw [finalizeWith_transcript, pickTranscript_eq]
    split
    next => exact .inl rfl
    next longer => exact .inr (by rw [transcriptLength_trim]; exact not_le.1 longer)
  durationSec duration isDuration := by
    rw [finalizeWith_durationSec, isDuration]
    cases hints.durationSec with
    | none => exact ⟨duration, rfl, .inl rfl⟩
    | some incoming =>
      by_cases positive : 0 < (incoming + 1 / 2).floor
      · exact ⟨_, if_pos positive, .inr positive⟩
      · exact ⟨duration, if_neg positive, .inl rfl⟩
  intent intent isIntent := by
    rw [finalizeWith_intent, isIntent]
    cases deriveCallIntent hints.conversationIntent
        ((pickTranscript snapshot.transcript hints.transcript).or hints.transcript)
        (some intent) with
    | none => exact .inl rfl
    | some found =>
      rw [pickIntent]
      split_ifs with same upgrade
      · exact .inl rfl
      · exact .inr (congrArg some upgrade)
      · exact .inl rfl

theorem foldl (events : List VoiceFinalizationHints) :
    Adds snapshot (events.foldl (Sokar.finalizeWith tts) snapshot) := by
  induction events generalizing snapshot with
  | nil => exact refl snapshot
  | cons hints events ih => exact (finalizeWith tts snapshot hints).trans (ih _)

end Adds

/-- Whatever events come, a call that is planned again with the event it was just finalised with is
written nothing, and of what was known before later events outcomes only give way to stronger ones,
transcripts to longer ones, durations to positive ones and intents to that of reserving. -/
theorem finalization_adds (settings : TtsSettings) (snapshot : CallFinalizationSnapshot)
    (earlier later : List VoiceFinalizationHints) (hints : VoiceFinalizationHints) :
    (planCallFinalization settings.defaultTtsProvider
      ((earlier ++ [hints]).foldl (finalizeWith settings.defaultTtsProvider) snapshot)
        hints).updatedFields = [] ∧
      Adds (earlier.foldl (finalizeWith settings.defaultTtsProvider) snapshot)
        ((earlier ++ later).foldl (finalizeWith settings.defaultTtsProvider) snapshot) := by
  rw [List.foldl_append, List.foldl_append]
  exact ⟨updatedFields_again settings.isProviderName_defaultTtsProvider, .foldl _ _ later⟩

def answeredCall : CallFinalizationSnapshot where
  durationSec := some 120
  transcript := none
  intent := none
  outcome := none
  sttProvider := none
  llmProvider := none
  ttsProvider := none
  reservationCreated := false
  messageRecorded := false

/-- An event that tells of three seconds leaves three of the two minutes that were recorded, and
the event that told of two minutes would write them again. -/
theorem shorter_duration_replaces :
    (finalizeWith "cartesia-sonic-3.6" answeredCall { durationSec := some 3 }).durationSec =
        some 3 ∧
      (planCallFinalization "cartesia-sonic-3.6"
        ([{ durationSec := some 120 }, { durationSec := some 3 }].foldl
          (finalizeWith "cartesia-sonic-3.6") answeredCall)
        { durationSec := some 120 }).updatedFields = ["durationSec"] := by
  decide +kernel

end Sokar
