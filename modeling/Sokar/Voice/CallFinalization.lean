import Mathlib.Data.List.Infix
import Sokar.Shared.Text

/-!
# The finalisation of a call

Webhooks, the end of the stream and a sweep all finalise the same call, in any order.  The plan of a
finalisation ranks outcomes, so that a late event takes nothing back; but an error that comes first
hides that the call was for information, which one that comes later does not.
-/

namespace Sokar

/-! ## What a transcript tells -/

/-- A letter of a pattern, which matches in both cases. -/
def matchesLetter (letter char : Char) : Bool :=
  char == letter ||
    char == (if letter == 'é' then 'É' else if letter == 'à' then 'À' else letter.toUpper)

/-- A pattern without choices: what each character has to be. -/
abbrev PlainPattern := List (Char → Bool)

def plainWord (word : String) : PlainPattern :=
  word.toList.map matchesLetter

def PlainPattern.startsAt : PlainPattern → List Char → Bool
  | [], _ => true
  | _ :: _, [] => false
  | accepts :: pattern, char :: text => accepts char && startsAt pattern text

/-- `RegExp.prototype.test` for an expression that is a choice between plain patterns. -/
def testPatterns (patterns : List PlainPattern) (text : String) : Bool :=
  text.toList.tails.any fun rest => patterns.any fun pattern => pattern.startsAt rest

/-- `/menus?|carte des plats|plats? du jour|prix/i` -/
def MENU_TRANSCRIPT_RE : List PlainPattern :=
  ["menu", "carte des plats", "plat du jour", "plats du jour", "prix"].map plainWord

/-- `/horaire|ouvert|ferm[eé]|menus?|carte|prix/i` -/
def INFO_TRANSCRIPT_RE : List PlainPattern :=
  ["horaire", "ouvert", "ferme", "fermé", "menu", "carte", "prix"].map plainWord

/-- `/(?:réserv|table|booker|booking|disponib|ce soir|demain|personnes? pour|`
`à \d{1,2}h?[:h]\d{0,2})/i` -/
def RESERVATION_INTENT_RE : List PlainPattern :=
  ["réserv", "table", "booker", "booking", "disponib", "ce soir", "demain", "personne pour",
    "personnes pour"].map plainWord ++
  [plainWord "à " ++ [Char.isDigit, (":hH".toList.contains ·)],
    plainWord "à " ++ [Char.isDigit, Char.isDigit, (":hH".toList.contains ·)]]

def hadReservationIntent (transcript : String) : Bool :=
  testPatterns RESERVATION_INTENT_RE transcript

inductive CallOutcome where
  | NO_ACTION | ERROR | INFO | MESSAGE | HANDOFF | RESERVED
  deriving DecidableEq

inductive CallIntent where
  | RESERVATION | CANCEL | MENU | HOURS | OTHER
  deriving DecidableEq

/-- What an event tells of the call.  A duration that is not finite is told as none. -/
structure VoiceFinalizationHints where
  transcript : Option String := none
  endedReason : Option String := none
  durationSec : Option ℚ := none
  sttProvider : Option String := none
  llmProvider : Option String := none
  ttsProvider : Option String := none
  handoffConclusion : Option String := none
  conversationIntent : Option String := none
  deriving DecidableEq

structure VoiceCallFacts where
  reservationCreated : Bool
  handoffAccepted : Bool
  handoffFailed : Bool
  messageRecorded : Bool
  reservationIntent : Bool
  informational : Bool
  errored : Bool
  deriving DecidableEq

structure CallFinalizationSnapshot where
  durationSec : Option Int
  transcript : Option String
  intent : Option CallIntent
  outcome : Option CallOutcome
  sttProvider : Option String
  llmProvider : Option String
  ttsProvider : Option String
  reservationCreated : Bool
  messageRecorded : Bool
  deriving DecidableEq

structure CallFinalizationData where
  transcript : Option (Option String)
  intent : Option (Option CallIntent)
  outcome : Option CallOutcome
  durationSec : Option (Option Int)
  sttProvider : Option String
  llmProvider : Option String
  ttsProvider : Option String
  deriving DecidableEq

/-- The names of the columns that are written. -/
def CallFinalizationData.updatedFields (data : CallFinalizationData) : List String :=
  [("transcript", data.transcript.isSome), ("intent", data.intent.isSome),
    ("outcome", data.outcome.isSome), ("durationSec", data.durationSec.isSome),
    ("sttProvider", data.sttProvider.isSome), ("llmProvider", data.llmProvider.isSome),
    ("ttsProvider", data.ttsProvider.isSome)].filterMap fun field =>
      if field.2 then some field.1 else none

structure CallFinalizationPlan where
  facts : VoiceCallFacts
  data : CallFinalizationData
  updatedFields : List String
  outcome : CallOutcome
  intent : Option CallIntent
  deriving DecidableEq

def CallOutcome.rank : CallOutcome → Nat
  | .NO_ACTION => 1
  | .ERROR => 2
  | .INFO => 3
  | .MESSAGE => 4
  | .HANDOFF => 5
  | .RESERVED => 6

def resolveVoiceOutcome (facts : VoiceCallFacts) : CallOutcome :=
  if facts.reservationCreated then .RESERVED
  else if facts.handoffAccepted then .HANDOFF
  else if facts.messageRecorded then .MESSAGE
  else if facts.errored then .ERROR
  else if facts.informational then .INFO
  else .NO_ACTION

/-- A transcript is replaced by a longer one only. -/
def pickTranscript (existing incoming : Option String) : Option String :=
  let current := (existing.map trim).getD ""
  let next := (incoming.map trim).getD ""
  if next = "" then existing
  else if utf16Length next ≤ utf16Length current then existing
  else some next

def pickDuration (existing : Option Int) (incoming : Option ℚ) : Option Int :=
  match incoming with
  | none => existing
  | some incoming =>
    let rounded := (incoming + 1 / 2).floor
    if 0 < rounded then some rounded else some (existing.getD rounded)

/-- The text of a provider, unless there is none. -/
def providerName (provider : Option String) : Option String :=
  (provider.map trim).filter (· != "")

variable (incoming observed : Option String)

def pickProvider (fallback : String) : String :=
  ((providerName incoming).or (providerName observed)).getD fallback

def pickObservedProvider : Option String :=
  (providerName incoming).or (providerName observed)

def deriveCallIntent (conversationIntent transcript : Option String)
    (existing : Option CallIntent) : Option CallIntent :=
  if conversationIntent = some "reservation" ∨ conversationIntent = some "availability" then
    some .RESERVATION
  else if conversationIntent = some "cancel" then some .CANCEL
  else if conversationIntent = some "gift_card" ∨ conversationIntent = some "message" ∨
      conversationIntent = some "delay" then some .OTHER
  else
    let transcript := transcript.getD ""
    if transcript ≠ "" ∧ hadReservationIntent transcript then some .RESERVATION
    else if transcript ≠ "" ∧ testPatterns MENU_TRANSCRIPT_RE transcript then some .MENU
    else if transcript ≠ "" ∧ testPatterns INFO_TRANSCRIPT_RE transcript then some .HOURS
    else existing

def pickOutcome (existing : Option CallOutcome) (candidate : CallOutcome) : CallOutcome :=
  match existing with
  | none => candidate
  | some existing => if existing.rank ≤ candidate.rank then candidate else existing

def pickIntent (existing candidate : Option CallIntent) : Option CallIntent :=
  match candidate, existing with
  | none, existing => existing
  | some candidate, none => some candidate
  | some candidate, some existing =>
    if existing = candidate then some existing
    else if candidate = .RESERVATION then some candidate
    else some existing

def VoiceFinalizationHints.handoffAccepted (hints : VoiceFinalizationHints) : Bool :=
  hints.handoffConclusion == some "manager_transfer_requested" ||
    hints.handoffConclusion == some "manager_transfer_accepted"

def VoiceFinalizationHints.errored (hints : VoiceFinalizationHints) : Bool :=
  hints.endedReason == some "error"

section

variable (defaultTtsProvider : String)

def DEFAULT_STT_PROVIDER : String := "deepgram-nova-3"

variable (snapshot : CallFinalizationSnapshot)

def planCallFinalization (hints : VoiceFinalizationHints) : CallFinalizationPlan :=
  let transcript := pickTranscript snapshot.transcript hints.transcript
  let intent := pickIntent snapshot.intent
    (deriveCallIntent hints.conversationIntent (transcript.or hints.transcript) snapshot.intent)
  let facts : VoiceCallFacts :=
    { reservationCreated := snapshot.reservationCreated
      handoffAccepted := snapshot.outcome == some .HANDOFF || hints.handoffAccepted
      handoffFailed := hints.handoffConclusion == some "manager_transfer_failed" ||
        hints.handoffConclusion == some "manager_transfer_rejected"
      messageRecorded := snapshot.messageRecorded
      reservationIntent := intent == some .RESERVATION
      informational := false
      errored := snapshot.outcome == some .ERROR || hints.errored }
  let effectiveTranscript := (transcript.or hints.transcript).getD ""
  let facts := { facts with
    informational := !facts.reservationCreated && !facts.handoffAccepted && !facts.errored &&
      decide (effectiveTranscript ≠ "") && testPatterns INFO_TRANSCRIPT_RE effectiveTranscript }
  let outcome := pickOutcome snapshot.outcome (resolveVoiceOutcome facts)
  let durationSec := pickDuration snapshot.durationSec hints.durationSec
  let sttProvider := pickProvider hints.sttProvider snapshot.sttProvider DEFAULT_STT_PROVIDER
  let llmProvider := pickObservedProvider hints.llmProvider snapshot.llmProvider
  let ttsProvider := pickProvider hints.ttsProvider snapshot.ttsProvider defaultTtsProvider
  let data : CallFinalizationData :=
    { transcript := if transcript = snapshot.transcript then none else some transcript
      intent := if intent = snapshot.intent then none else some intent
      outcome := if some outcome = snapshot.outcome then none else some outcome
      durationSec := if durationSec = snapshot.durationSec then none else some durationSec
      sttProvider := if some sttProvider = snapshot.sttProvider then none else some sttProvider
      llmProvider := if llmProvider = snapshot.llmProvider then none else llmProvider
      ttsProvider := if some ttsProvider = snapshot.ttsProvider then none else some ttsProvider }
  { facts, data, updatedFields := data.updatedFields, outcome, intent }

def applyPlanToSnapshot (plan : CallFinalizationPlan) : CallFinalizationSnapshot :=
  { snapshot with
    transcript := plan.data.transcript.getD snapshot.transcript
    intent := plan.data.intent.getD snapshot.intent
    outcome := plan.data.outcome.or snapshot.outcome
    durationSec := plan.data.durationSec.getD snapshot.durationSec
    sttProvider := plan.data.sttProvider.or snapshot.sttProvider
    llmProvider := plan.data.llmProvider.or snapshot.llmProvider
    ttsProvider := plan.data.ttsProvider.or snapshot.ttsProvider }

def finalizeWith (hints : VoiceFinalizationHints) : CallFinalizationSnapshot :=
  applyPlanToSnapshot snapshot (planCallFinalization defaultTtsProvider snapshot hints)

/-- The outcome once all events have come, in their order. -/
def finalOutcome (events : List VoiceFinalizationHints) : Option CallOutcome :=
  (events.foldl (finalizeWith defaultTtsProvider) snapshot).outcome

end

section

def transcriptLength (transcript : Option String) : Nat :=
  utf16Length ((transcript.map trim).getD "")

variable {existing incoming first second : Option String}

theorem pickTranscript_eq : pickTranscript existing incoming =
      if transcriptLength incoming ≤ transcriptLength existing then existing
      else incoming.map trim := by
  unfold pickTranscript transcriptLength
  by_cases isEmpty : (incoming.map trim).getD "" = ""
  · rw [if_pos isEmpty, isEmpty, if_pos]
    exact Nat.zero_le _
  · rw [if_neg isEmpty]
    cases incoming with
    | none => exact absurd rfl isEmpty
    | some text => rfl

theorem transcriptLength_trim :
    transcriptLength (incoming.map trim) = transcriptLength incoming := by
  cases incoming with
  | none => rfl
  | some text => simp [transcriptLength, trim_trim]

theorem transcriptLength_pickTranscript : transcriptLength (pickTranscript existing incoming) =
      max (transcriptLength existing) (transcriptLength incoming) := by
  rw [pickTranscript_eq]
  split
  next shorter => exact (max_eq_left shorter).symm
  next longer =>
    rw [transcriptLength_trim]
    exact (max_eq_right (not_le.1 longer).le).symm

/-- A transcript that is no longer than one before it is not looked at. -/
theorem pickTranscript_of_le
    (shorter : transcriptLength second ≤ transcriptLength (pickTranscript existing first)) :
    pickTranscript (pickTranscript existing first) second = pickTranscript existing first := by
  rw [pickTranscript_eq, if_pos shorter]

theorem pickTranscript_of_lt
    (longer : transcriptLength (pickTranscript existing first) < transcriptLength second) :
    pickTranscript (pickTranscript existing first) second = pickTranscript existing second := by
  have longerStill : transcriptLength existing < transcriptLength second := by
    rw [transcriptLength_pickTranscript] at longer
    exact (le_max_left _ _).trans_lt longer
  rw [pickTranscript_eq, if_neg (not_le.2 longer), pickTranscript_eq, if_neg (not_le.2 longerStill)]

theorem pickTranscript_pickTranscript :
    pickTranscript (pickTranscript existing first) second = pickTranscript existing first ∨
      pickTranscript (pickTranscript existing first) second = pickTranscript existing second := by
  rcases le_or_gt (transcriptLength second) (transcriptLength (pickTranscript existing first)) with
    shorter | longer
  · exact .inl (pickTranscript_of_le shorter)
  · exact .inr (pickTranscript_of_lt longer)

/-- The call is for information, by its transcript. -/
def informs (transcript : Option String) : Bool :=
  transcript.any (testPatterns INFO_TRANSCRIPT_RE)

theorem eq_empty_of_utf16Length {text : String} (isZero : utf16Length text = 0) : text = "" := by
  rw [← String.toList_eq_nil_iff]
  unfold utf16Length at isZero
  cases chars : text.toList with
  | nil => rfl
  | cons char rest =>
    rw [chars, List.map_cons, List.sum_cons] at isZero
    split at isZero <;> omega

theorem isTrimmedChar_of_trim {text : String} (blank : trim text = "") :
    ∀ char ∈ text.toList, isTrimmedChar char = true := by
  have none_ : (text.toList.dropWhile isTrimmedChar).rdropWhile isTrimmedChar = [] := by
    have ends := congrArg String.toList blank
    rw [trim, String.toList_ofList] at ends
    exact ends
  rw [List.rdropWhile_eq_nil_iff] at none_
  rw [← List.dropWhile_eq_nil_iff]
  by_contra nonempty
  have first := List.head_dropWhile_not isTrimmedChar nonempty
  rw [none_ _ (List.head_mem nonempty)] at first
  cases first

theorem startsAt_plainWord_blank {letter : Char} {more rest : List Char} {word : String}
    (begins : word.toList = letter :: more) (isLetter : ∀ char, matchesLetter letter char = true →
      isTrimmedChar char = false) (blank : ∀ char ∈ rest, isTrimmedChar char = true) :
    (plainWord word).startsAt rest = false := by
  rw [plainWord, begins, List.map_cons]
  cases rest with
  | nil => rfl
  | cons char rest =>
    rw [PlainPattern.startsAt, Bool.and_eq_false_iff]
    left
    by_contra accepts
    rw [Bool.not_eq_false] at accepts
    have visible := isLetter char accepts
    rw [blank char List.mem_cons_self] at visible
    cases visible

theorem isTrimmedChar_of_matchesLetter {letter : Char} (visible : isTrimmedChar letter = false)
    (visibleUpper : isTrimmedChar letter.toUpper = false) (char : Char)
    (accepts : matchesLetter letter char = true) : isTrimmedChar char = false := by
  unfold matchesLetter at accepts
  rw [Bool.or_eq_true, beq_iff_eq, beq_iff_eq] at accepts
  rcases accepts with rfl | rfl
  · exact visible
  · split
    · decide
    · split
      · decide
      · exact visibleUpper

theorem testPatterns_blank {text : String}
    (blank : ∀ char ∈ text.toList, isTrimmedChar char = true) :
    testPatterns INFO_TRANSCRIPT_RE text = false := by
  rw [testPatterns, List.any_eq_false]
  intro rest isRest
  rw [Bool.not_eq_true, List.any_eq_false]
  have blankRest : ∀ char ∈ rest, isTrimmedChar char = true :=
    fun char isChar => blank char (((List.mem_tails _ _).1 isRest).subset isChar)
  have first : ∀ {letter : Char} {more : List Char} {word : String},
      word.toList = letter :: more → isTrimmedChar letter = false →
        isTrimmedChar letter.toUpper = false → ¬ (plainWord word).startsAt rest = true := by
    intro letter more word begins visible visibleUpper
    rw [startsAt_plainWord_blank begins (isTrimmedChar_of_matchesLetter visible visibleUpper)
      blankRest]
    exact Bool.false_ne_true
  intro pattern isPattern
  simp only [INFO_TRANSCRIPT_RE, List.map_cons, List.map_nil, List.mem_cons, List.not_mem_nil,
    or_false] at isPattern
  rcases isPattern with rfl | rfl | rfl | rfl | rfl | rfl | rfl
  all_goals exact first rfl (by decide) (by decide)

/-- What the plan tests is the transcript it keeps. -/
theorem informational_eq :
    (decide (((pickTranscript existing incoming).or incoming).getD "" ≠ "") &&
      testPatterns INFO_TRANSCRIPT_RE (((pickTranscript existing incoming).or incoming).getD "")) =
      informs (pickTranscript existing incoming) := by
  have nothing : testPatterns INFO_TRANSCRIPT_RE "" = false := by decide
  cases picked : pickTranscript existing incoming with
  | some text =>
    by_cases isEmpty : text = ""
    · subst isEmpty
      simp [informs, nothing]
    · simp [informs, isEmpty]
  | none =>
    cases incoming with
    | none => simp [informs]
    | some text =>
      have blank : trim text = "" := by
        unfold pickTranscript at picked
        dsimp only [Option.map_some, Option.getD_some] at picked
        split at picked
        next isBlank => exact isBlank
        next =>
          split at picked
          next shorter =>
            rw [picked] at shorter
            exact eq_empty_of_utf16Length (Nat.le_zero.1 shorter)
          next => cases picked
      have untold := testPatterns_blank (isTrimmedChar_of_trim blank)
      simp [informs, untold]

end

section

variable {tts : String} {snapshot : CallFinalizationSnapshot} {hints : VoiceFinalizationHints}

@[simp] theorem finalizeWith_reservationCreated :
    (finalizeWith tts snapshot hints).reservationCreated = snapshot.reservationCreated := rfl

@[simp] theorem finalizeWith_messageRecorded :
    (finalizeWith tts snapshot hints).messageRecorded = snapshot.messageRecorded := rfl

@[simp] theorem finalizeWith_transcript : (finalizeWith tts snapshot hints).transcript =
      pickTranscript snapshot.transcript hints.transcript := by
  simp only [finalizeWith, applyPlanToSnapshot, planCallFinalization]
  split
  next same => exact same.symm
  next => rfl

/-- What the event would make of the call alone. -/
def candidate (snapshot : CallFinalizationSnapshot) (hints : VoiceFinalizationHints) :
    CallOutcome :=
  if snapshot.reservationCreated then .RESERVED
  else if snapshot.outcome = some .HANDOFF ∨ hints.handoffAccepted then .HANDOFF
  else if snapshot.messageRecorded then .MESSAGE
  else if snapshot.outcome = some .ERROR ∨ hints.errored then .ERROR
  else if informs (pickTranscript snapshot.transcript hints.transcript) then .INFO
  else .NO_ACTION

theorem planCallFinalization_outcome : (planCallFinalization tts snapshot hints).outcome =
      pickOutcome snapshot.outcome (candidate snapshot hints) := by
  dsimp only [planCallFinalization]
  rw [Bool.and_assoc, informational_eq, candidate, resolveVoiceOutcome]
  grind

theorem finalizeWith_outcome : (finalizeWith tts snapshot hints).outcome =
      some (pickOutcome snapshot.outcome (candidate snapshot hints)) := by
  have resolved := @planCallFinalization_outcome tts snapshot hints
  rw [← resolved]
  simp only [finalizeWith, applyPlanToSnapshot, planCallFinalization]
  split
  next same => exact same.symm
  next => rfl

theorem pickOutcome_of_rank_le {existing : Option CallOutcome} {found : CallOutcome}
    (stronger : ∀ outcome, existing = some outcome → outcome.rank ≤ found.rank) :
    pickOutcome existing found = found := by
  cases existing with
  | none => rfl
  | some outcome => rw [pickOutcome, if_pos (stronger outcome rfl)]

theorem CallOutcome.rank_le (outcome : CallOutcome) : outcome.rank ≤ 6 := by
  cases outcome <;> decide

end

section

variable {tts : String} {snapshot : CallFinalizationSnapshot} {events : List VoiceFinalizationHints}

theorem finalOutcome_cons (first : VoiceFinalizationHints) :
    finalOutcome tts snapshot (first :: events) =
      finalOutcome tts (finalizeWith tts snapshot first) events := rfl

theorem finalOutcome_of_kept {outcome : CallOutcome} (kept : CallFinalizationSnapshot → Prop)
    (isOutcome : snapshot.outcome = some outcome) (holds : kept snapshot)
    (keeps : ∀ snapshot, ∀ event ∈ events, kept snapshot → snapshot.outcome = some outcome →
      kept (finalizeWith tts snapshot event) ∧
        (finalizeWith tts snapshot event).outcome = some outcome) :
    finalOutcome tts snapshot events = some outcome := by
  induction events generalizing snapshot with
  | nil => exact isOutcome
  | cons event rest ih =>
    obtain ⟨holds', isOutcome'⟩ := keeps snapshot event List.mem_cons_self holds isOutcome
    exact ih isOutcome' holds' fun snapshot other isOther =>
      keeps snapshot other (List.mem_cons_of_mem _ isOther)

theorem finalOutcome_of_reserved (reserved : snapshot.outcome = some .RESERVED) :
    finalOutcome tts snapshot events = some .RESERVED := by
  apply finalOutcome_of_kept (fun _ => True) reserved trivial
  intro snapshot event _ _ reserved
  rw [finalizeWith_outcome, reserved]
  refine ⟨trivial, ?_⟩
  cases candidate snapshot event <;> rfl

/-- A reservation comes before everything else. -/
theorem finalOutcome_of_reservation (reserves : snapshot.reservationCreated = true)
    (some_ : events ≠ []) : finalOutcome tts snapshot events = some .RESERVED := by
  cases events with
  | nil => exact absurd rfl some_
  | cons first rest =>
    rw [finalOutcome_cons]
    apply finalOutcome_of_reserved
    rw [finalizeWith_outcome, candidate, if_pos reserves]
    exact congrArg some (pickOutcome_of_rank_le fun outcome _ => outcome.rank_le)

theorem finalOutcome_of_handoff (notCreated : snapshot.reservationCreated = false)
    (notReserved : snapshot.outcome ≠ some .RESERVED)
    (handsOff : snapshot.outcome = some .HANDOFF ∨ ∃ event ∈ events, event.handoffAccepted = true) :
    finalOutcome tts snapshot events = some .HANDOFF := by
  induction events generalizing snapshot with
  | nil => exact handsOff.resolve_right (by simp)
  | cons first rest ih =>
    have stillNotCreated : (finalizeWith tts snapshot first).reservationCreated = false :=
      notCreated
    by_cases now : snapshot.outcome = some .HANDOFF ∨ first.handoffAccepted = true
    · have handed : (finalizeWith tts snapshot first).outcome = some .HANDOFF := by
        rw [finalizeWith_outcome, candidate, if_neg (by simp [notCreated]), if_pos now]
        refine congrArg some (pickOutcome_of_rank_le fun outcome isOutcome => ?_)
        cases outcome with
        | RESERVED => exact absurd isOutcome notReserved
        | _ => decide
      apply ih stillNotCreated
      · rw [handed]
        decide
      · exact .inl handed
    · have later : ∃ event ∈ rest, event.handoffAccepted = true := by
        rcases handsOff with before | ⟨event, isEvent, accepted⟩
        · exact absurd (.inl before) now
        · rcases List.mem_cons.1 isEvent with rfl | isLater
          · exact absurd (.inr accepted) now
          · exact ⟨event, isLater, accepted⟩
      apply ih stillNotCreated _ (.inr later)
      rw [finalizeWith_outcome, candidate, if_neg (by simp [notCreated]), if_neg now]
      cases outcome : snapshot.outcome with
      | none => split_ifs <;> decide
      | some existing =>
        cases existing with
        | RESERVED => exact absurd outcome notReserved
        | _ => split_ifs <;> decide

theorem finalOutcome_of_message (notCreated : snapshot.reservationCreated = false)
    (recorded : snapshot.messageRecorded = true) (notReserved : snapshot.outcome ≠ some .RESERVED)
    (notHanded : snapshot.outcome ≠ some .HANDOFF)
    (noHandoff : ∀ event ∈ events, event.handoffAccepted = false) (some_ : events ≠ []) :
    finalOutcome tts snapshot events = some .MESSAGE := by
  have step : ∀ snapshot : CallFinalizationSnapshot, ∀ event ∈ events,
      snapshot.reservationCreated = false ∧ snapshot.messageRecorded = true →
      snapshot.outcome ≠ some .RESERVED → snapshot.outcome ≠ some .HANDOFF →
        (finalizeWith tts snapshot event).outcome = some .MESSAGE := by
    intro snapshot event isEvent ⟨notCreated, recorded⟩ notReserved notHanded
    rw [finalizeWith_outcome, candidate, if_neg (by simp [notCreated]),
      if_neg (by simp [notHanded, noHandoff event isEvent]), if_pos recorded]
    refine congrArg some (pickOutcome_of_rank_le fun outcome isOutcome => ?_)
    cases outcome with
    | RESERVED => exact absurd isOutcome notReserved
    | HANDOFF => exact absurd isOutcome notHanded
    | _ => decide
  cases events with
  | nil => exact absurd rfl some_
  | cons first rest =>
    rw [finalOutcome_cons]
    refine finalOutcome_of_kept (fun snapshot => snapshot.reservationCreated = false ∧
      snapshot.messageRecorded = true) ?_ ⟨notCreated, recorded⟩ ?_
    · exact step snapshot first List.mem_cons_self ⟨notCreated, recorded⟩ notReserved notHanded
    · intro snapshot event isEvent kept isMessage
      refine ⟨kept, step snapshot event (List.mem_cons_of_mem _ isEvent) kept ?_ ?_⟩
      · rw [isMessage]
        decide
      · rw [isMessage]
        decide

/-- Neither a reservation nor a message nor a handoff. -/
structure Plain (snapshot : CallFinalizationSnapshot) (events : List VoiceFinalizationHints) :
    Prop where
  notCreated : snapshot.reservationCreated = false
  notRecorded : snapshot.messageRecorded = false
  noHandoff : ∀ event ∈ events, event.handoffAccepted = false

theorem Plain.rest {first : VoiceFinalizationHints} (plain : Plain snapshot (first :: events)) :
    Plain (finalizeWith tts snapshot first) events :=
  ⟨plain.notCreated, plain.notRecorded,
    fun event isEvent => plain.noHandoff event (List.mem_cons_of_mem _ isEvent)⟩

theorem Plain.perm {order : List VoiceFinalizationHints} (plain : Plain snapshot events)
    (perm : order.Perm events) : Plain snapshot order :=
  ⟨plain.notCreated, plain.notRecorded, fun event isEvent =>
    plain.noHandoff event (perm.mem_iff.1 isEvent)⟩

theorem Plain.candidate_eq (plain : Plain snapshot events) {event : VoiceFinalizationHints}
    (isEvent : event ∈ events) (notHanded : snapshot.outcome ≠ some .HANDOFF) :
    candidate snapshot event = if snapshot.outcome = some .ERROR ∨ event.errored then .ERROR
      else if informs (pickTranscript snapshot.transcript event.transcript) then .INFO
      else .NO_ACTION := by
  rw [candidate, if_neg (by simp [plain.notCreated]),
    if_neg (by simp [notHanded, plain.noHandoff event isEvent]),
    if_neg (by simp [plain.notRecorded])]

theorem finalOutcome_of_plain {outcome : CallOutcome} (plain : Plain snapshot events)
    (isOutcome : snapshot.outcome = some outcome) (known : outcome ≠ .NO_ACTION) :
    finalOutcome tts snapshot events = some outcome := by
  by_cases reserved : outcome = .RESERVED
  · subst reserved
    exact finalOutcome_of_reserved isOutcome
  by_cases handed : outcome = .HANDOFF
  · subst handed
    refine finalOutcome_of_handoff plain.notCreated ?_ (.inl isOutcome)
    rw [isOutcome]
    decide
  apply finalOutcome_of_kept (Plain · events) isOutcome plain
  intro snapshot event isEvent plain isOutcome
  refine ⟨⟨plain.notCreated, plain.notRecorded, plain.noHandoff⟩, ?_⟩
  have notHanded : snapshot.outcome ≠ some .HANDOFF := by
    rw [isOutcome]
    exact fun same => handed (Option.some.inj same)
  rw [finalizeWith_outcome, plain.candidate_eq isEvent notHanded, isOutcome]
  cases outcome with
  | NO_ACTION => exact absurd rfl known
  | RESERVED => exact absurd rfl reserved
  | HANDOFF => exact absurd rfl handed
  | ERROR => simp [pickOutcome]
  | INFO => split_ifs <;> rfl
  | MESSAGE => split_ifs <;> rfl

end

section

variable {tts : String} {snapshot : CallFinalizationSnapshot} {events : List VoiceFinalizationHints}

/-- The event finds the call to be for information, if it comes first. -/
def informedBy (snapshot : CallFinalizationSnapshot) (event : VoiceFinalizationHints) : Bool :=
  informs (pickTranscript snapshot.transcript event.transcript)

def Open (snapshot : CallFinalizationSnapshot) : Prop :=
  snapshot.outcome = none ∨ snapshot.outcome = some .NO_ACTION

variable {first : VoiceFinalizationHints}

section

variable (plain : Plain snapshot (first :: events)) (isOpen : Open snapshot)
include plain isOpen

/-- An open call takes its outcome from the next event. -/
theorem Plain.finalizeWith_outcome : (finalizeWith tts snapshot first).outcome =
      if first.errored then some .ERROR
      else if informedBy snapshot first then some .INFO else some .NO_ACTION := by
  have notHanded : snapshot.outcome ≠ some .HANDOFF := by
    rcases isOpen with none_ | noAction
    · rw [none_]
      decide
    · rw [noAction]
      decide
  rw [Sokar.finalizeWith_outcome, plain.candidate_eq List.mem_cons_self notHanded]
  rcases isOpen with none_ | noAction
  · rw [none_, ← informedBy]
    cases first.errored <;> cases informedBy snapshot first <;> rfl
  · rw [noAction, ← informedBy]
    cases first.errored <;> cases informedBy snapshot first <;> rfl

theorem finalOutcome_of_errored (errored : first.errored = true) :
    finalOutcome tts snapshot (first :: events) = some .ERROR := by
  apply finalOutcome_of_plain plain.rest _ (by decide)
  rw [plain.finalizeWith_outcome isOpen, if_pos errored]

theorem finalOutcome_of_informed (fine : first.errored = false)
    (informed : informedBy snapshot first = true) :
    finalOutcome tts snapshot (first :: events) = some .INFO := by
  apply finalOutcome_of_plain plain.rest _ (by decide)
  rw [plain.finalizeWith_outcome isOpen, fine, if_neg Bool.false_ne_true, if_pos informed]

/-- The other events leave the call open. -/
theorem Open.next (fine : first.errored = false) (uninformed : informedBy snapshot first = false) :
    (finalizeWith tts snapshot first).outcome = some .NO_ACTION := by
  rw [plain.finalizeWith_outcome isOpen, fine, if_neg Bool.false_ne_true, uninformed,
    if_neg Bool.false_ne_true]

end

theorem informedBy_finalizeWith {first other : VoiceFinalizationHints}
    (uninformed : informedBy snapshot first = false)
    (otherUninformed : informedBy snapshot other = false) :
    informedBy (finalizeWith tts snapshot first) other = false := by
  rw [informedBy, finalizeWith_transcript]
  have picked : pickTranscript (pickTranscript snapshot.transcript first.transcript)
        other.transcript = pickTranscript snapshot.transcript first.transcript ∨
      pickTranscript (pickTranscript snapshot.transcript first.transcript) other.transcript =
        pickTranscript snapshot.transcript other.transcript := pickTranscript_pickTranscript
  rcases picked with same | same
  · rw [same]
    exact uninformed
  · rw [same]
    exact otherUninformed

theorem finalOutcome_of_uninformed (plain : Plain snapshot events) (isOpen : Open snapshot)
    (uninformed : ∀ event ∈ events, event.errored = false → informedBy snapshot event = false)
    (some_ : events ≠ []) : finalOutcome tts snapshot events =
      if ∃ event ∈ events, event.errored = true then some .ERROR else some .NO_ACTION := by
  induction events generalizing snapshot with
  | nil => exact absurd rfl some_
  | cons first rest ih =>
    cases errored : first.errored with
    | true =>
      rw [finalOutcome_of_errored plain isOpen errored, if_pos]
      exact ⟨first, List.mem_cons_self, errored⟩
    | false =>
      have quiet := uninformed first List.mem_cons_self errored
      have next : (finalizeWith tts snapshot first).outcome = some .NO_ACTION :=
        Open.next plain isOpen errored quiet
      rw [finalOutcome_cons]
      cases rest with
      | nil => simp [finalOutcome, next, errored]
      | cons second more =>
        rw [ih plain.rest (.inr next) ?_ (List.cons_ne_nil _ _)]
        · simp [errored]
        · intro event isEvent fine
          exact informedBy_finalizeWith quiet
            (uninformed event (List.mem_cons_of_mem _ isEvent) fine)

def Longest (snapshot : CallFinalizationSnapshot) (events : List VoiceFinalizationHints)
    (event : VoiceFinalizationHints) : Prop :=
  ∀ other ∈ events, transcriptLength (pickTranscript snapshot.transcript other.transcript) ≤
    transcriptLength (pickTranscript snapshot.transcript event.transcript)

/-- An event that is longest among the later ones is so from the start, if it says more than the
first. -/
theorem Longest.of_rest {first event : VoiceFinalizationHints}
    (longest : Longest (finalizeWith tts snapshot first) events event)
    (longer : transcriptLength (pickTranscript snapshot.transcript first.transcript) <
      transcriptLength event.transcript) : Longest snapshot (first :: events) event := by
  intro other isOther
  have eventLength : transcriptLength (pickTranscript snapshot.transcript event.transcript) =
        transcriptLength event.transcript := by
    rw [transcriptLength_pickTranscript] at longer ⊢
    exact max_eq_right ((le_max_left _ _).trans longer.le)
  rw [eventLength]
  rcases List.mem_cons.1 isOther with rfl | isLater
  · exact longer.le
  · have atMost := longest other isLater
    simp only [finalizeWith_transcript, transcriptLength_pickTranscript] at atMost longer ⊢
    omega

/-- When the longest transcripts all inform of a call without errors, it ends as one for
information. -/
theorem finalOutcome_of_longest (plain : Plain snapshot events) (isOpen : Open snapshot)
    (fine : ∀ event ∈ events, event.errored = false)
    (longest : ∀ event ∈ events, Longest snapshot events event → informedBy snapshot event = true)
    (some_ : events ≠ []) : finalOutcome tts snapshot events = some .INFO := by
  induction events generalizing snapshot with
  | nil => exact absurd rfl some_
  | cons first rest ih =>
    have firstFine := fine first List.mem_cons_self
    cases informed : informedBy snapshot first with
    | true => exact finalOutcome_of_informed plain isOpen firstFine informed
    | false =>
      -- the first event says too little, so a later one says more
      have notLongest : ¬ Longest snapshot (first :: rest) first := fun isLongest => by
        rw [longest first List.mem_cons_self isLongest] at informed
        cases informed
      have more : ∃ other ∈ rest,
          transcriptLength (pickTranscript snapshot.transcript first.transcript) <
            transcriptLength (pickTranscript snapshot.transcript other.transcript) := by
        by_contra none_
        apply notLongest
        intro other isOther
        rcases List.mem_cons.1 isOther with rfl | isLater
        · exact le_rfl
        · exact not_lt.1 fun longer => none_ ⟨other, isLater, longer⟩
      obtain ⟨other, isOther, longer⟩ := more
      have next : (finalizeWith tts snapshot first).outcome = some .NO_ACTION :=
        Open.next plain isOpen firstFine informed
      apply ih plain.rest (.inr next)
      · exact fun event isEvent => fine event (List.mem_cons_of_mem _ isEvent)
      · intro event isEvent isLongest
        have eventLonger : transcriptLength (pickTranscript snapshot.transcript first.transcript) <
              transcriptLength event.transcript := by
          have atMost := isLongest other isOther
          simp only [finalizeWith_transcript, transcriptLength_pickTranscript] at atMost longer ⊢
          omega
        rw [informedBy, finalizeWith_transcript, pickTranscript_of_lt eventLonger]
        exact longest event (List.mem_cons_of_mem _ isEvent) (isLongest.of_rest eventLonger)
      · exact List.ne_nil_of_mem isOther

/-- When a longest transcript comes first and does not inform of the call, the others are not
looked at. -/
theorem finalOutcome_of_longest_first (plain : Plain snapshot (first :: events))
    (isOpen : Open snapshot) (fine : ∀ event ∈ first :: events, event.errored = false)
    (longest : Longest snapshot (first :: events) first)
    (uninformed : informedBy snapshot first = false) :
    finalOutcome tts snapshot (first :: events) = some .NO_ACTION := by
  have next : (finalizeWith tts snapshot first).outcome = some .NO_ACTION :=
    Open.next plain isOpen (fine first List.mem_cons_self) uninformed
  rw [finalOutcome_cons]
  cases events with
  | nil => exact next
  | cons second more =>
    rw [finalOutcome_of_uninformed plain.rest (.inr next) _ (List.cons_ne_nil _ _), if_neg]
    · rintro ⟨event, isEvent, errored⟩
      rw [fine event (List.mem_cons_of_mem _ isEvent)] at errored
      cases errored
    · intro event isEvent _
      have shorter : transcriptLength event.transcript ≤
          transcriptLength (pickTranscript snapshot.transcript first.transcript) := by
        have atMost := longest event (List.mem_cons_of_mem _ isEvent)
        rw [transcriptLength_pickTranscript] at atMost
        exact (le_max_right _ _).trans atMost
      rw [informedBy, finalizeWith_transcript, pickTranscript_of_le shorter]
      exact uninformed

theorem finalOutcome_of_all_errored (plain : Plain snapshot events) (isOpen : Open snapshot)
    (errored : ∀ event ∈ events, event.errored = true) (some_ : events ≠ []) :
    finalOutcome tts snapshot events = some .ERROR := by
  cases events with
  | nil => exact absurd rfl some_
  | cons first rest =>
    exact finalOutcome_of_errored plain isOpen (errored first List.mem_cons_self)

theorem Longest.perm {order : List VoiceFinalizationHints} {event : VoiceFinalizationHints}
    (longest : Longest snapshot order event) (perm : order.Perm events) :
    Longest snapshot events event :=
  fun other isOther => longest other (perm.mem_iff.2 isOther)

theorem Open.of_not_known (unknown : ¬ ∃ outcome, snapshot.outcome = some outcome ∧
    outcome ≠ .NO_ACTION) : Open snapshot := by
  cases isOutcome : snapshot.outcome with
  | none => exact .inl isOutcome
  | some outcome =>
    by_cases noAction : outcome = .NO_ACTION
    · exact .inr (noAction ▸ isOutcome)
    · exact absurd ⟨outcome, isOutcome, noAction⟩ unknown

end

/-! ## The order of the events -/

section

variable {tts : String} {snapshot : CallFinalizationSnapshot}
  {events order : List VoiceFinalizationHints}

/-- The calls whose outcome the order of the events has no part in: the outcome is known, or a
reservation, a message or a handoff is; or the events are all errors; or none of the others informs
of the call; or there are no errors and every longest transcript informs of it. -/
def OrderFree (snapshot : CallFinalizationSnapshot) (events : List VoiceFinalizationHints) : Prop :=
  snapshot.reservationCreated = true ∨ snapshot.messageRecorded = true ∨
    (∃ outcome, snapshot.outcome = some outcome ∧ outcome ≠ .NO_ACTION) ∨
    (∃ event ∈ events, event.handoffAccepted = true) ∨
    (∀ event ∈ events, event.errored = true) ∨
    (∀ event ∈ events, event.errored = false → informedBy snapshot event = false) ∨
    ((∀ event ∈ events, event.errored = false) ∧
      ∀ event ∈ events, Longest snapshot events event → informedBy snapshot event = true)

theorem OrderFree.outcome (free : OrderFree snapshot events) (some_ : events ≠ []) :
    ∃ outcome, ∀ order : List VoiceFinalizationHints, order.Perm events →
      finalOutcome tts snapshot order = some outcome := by
  have someOrder : ∀ {order : List VoiceFinalizationHints}, order.Perm events → order ≠ [] :=
    fun perm isNil => some_ (List.perm_nil.1 (isNil ▸ perm.symm))
  by_cases reserves : snapshot.reservationCreated = true
  · exact ⟨_, fun order perm => finalOutcome_of_reservation reserves (someOrder perm)⟩
  by_cases reserved : snapshot.outcome = some .RESERVED
  · exact ⟨_, fun order perm => finalOutcome_of_reserved reserved⟩
  rw [Bool.not_eq_true] at reserves
  by_cases handsOff : snapshot.outcome = some .HANDOFF ∨
      ∃ event ∈ events, event.handoffAccepted = true
  · refine ⟨_, fun order perm => finalOutcome_of_handoff reserves reserved ?_⟩
    exact handsOff.imp_right fun ⟨event, isEvent, accepted⟩ =>
      ⟨event, perm.mem_iff.2 isEvent, accepted⟩
  rw [not_or] at handsOff
  have noHandoff : ∀ event ∈ events, event.handoffAccepted = false := fun event isEvent =>
    Bool.not_eq_true _ ▸ fun accepted => handsOff.2 ⟨event, isEvent, accepted⟩
  by_cases recorded : snapshot.messageRecorded = true
  · exact ⟨_, fun order perm => finalOutcome_of_message reserves recorded reserved handsOff.1
      (fun event isEvent => noHandoff event (perm.mem_iff.1 isEvent)) (someOrder perm)⟩
  have plain : Plain snapshot events := ⟨reserves, Bool.not_eq_true _ ▸ recorded, noHandoff⟩
  by_cases known : ∃ outcome, snapshot.outcome = some outcome ∧ outcome ≠ .NO_ACTION
  · obtain ⟨outcome, isOutcome, isKnown⟩ := known
    exact ⟨outcome, fun order perm => finalOutcome_of_plain (plain.perm perm) isOutcome isKnown⟩
  have isOpen : Open snapshot := .of_not_known known
  rcases free with created | recorded' | isKnown | handed | errored | uninformed | ⟨fine, longest⟩
  · rw [created] at reserves
    cases reserves
  · exact absurd recorded' recorded
  · exact absurd isKnown known
  · exact absurd handed handsOff.2
  · exact ⟨_, fun order perm => finalOutcome_of_all_errored (plain.perm perm) isOpen
      (fun event isEvent => errored event (perm.mem_iff.1 isEvent)) (someOrder perm)⟩
  · refine ⟨if ∃ event ∈ events, event.errored = true then .ERROR else .NO_ACTION,
      fun order perm => ?_⟩
    rw [finalOutcome_of_uninformed (plain.perm perm) isOpen
      (fun event isEvent => uninformed event (perm.mem_iff.1 isEvent)) (someOrder perm)]
    simp only [perm.mem_iff]
    split <;> rfl
  · exact ⟨_, fun order perm => finalOutcome_of_longest (plain.perm perm) isOpen
      (fun event isEvent => fine event (perm.mem_iff.1 isEvent))
      (fun event isEvent isLongest => longest event (perm.mem_iff.1 isEvent) (isLongest.perm perm))
      (someOrder perm)⟩

theorem perm_cons_erase {event : VoiceFinalizationHints} (isEvent : event ∈ events) :
    (event :: events.erase event).Perm events :=
  (List.perm_cons_erase isEvent).symm

/-- Otherwise two orders of the events give two outcomes. -/
theorem orders_differ (notFree : ¬ OrderFree snapshot events) :
    ∃ first second : List VoiceFinalizationHints, first.Perm events ∧ second.Perm events ∧
      finalOutcome tts snapshot first ≠ finalOutcome tts snapshot second := by
  simp only [OrderFree, not_or] at notFree
  obtain ⟨notCreated, notRecorded, unknown, noHandoff, notAllErrored, informs_, mixed⟩ := notFree
  have plain : Plain snapshot events := by
    refine ⟨Bool.not_eq_true _ ▸ notCreated, Bool.not_eq_true _ ▸ notRecorded, ?_⟩
    exact fun event isEvent => Bool.not_eq_true _ ▸ fun accepted =>
      noHandoff ⟨event, isEvent, accepted⟩
  have isOpen : Open snapshot := .of_not_known unknown
  have informing : ∃ event ∈ events, event.errored = false ∧ informedBy snapshot event = true := by
    by_contra none_
    exact informs_ fun event isEvent fine => Bool.not_eq_true _ ▸ fun informed =>
      none_ ⟨event, isEvent, fine, informed⟩
  obtain ⟨telling, isTelling, tellingFine, tells⟩ := informing
  have toldFirst : finalOutcome tts snapshot (telling :: events.erase telling) = some .INFO :=
    finalOutcome_of_informed (plain.perm (perm_cons_erase isTelling)) isOpen tellingFine tells
  -- an error that comes first hides it, and so does a longer transcript that tells nothing
  by_cases failing : ∃ event ∈ events, event.errored = true
  · obtain ⟨failed, isFailed, errored⟩ := failing
    refine ⟨_, _, perm_cons_erase isTelling, perm_cons_erase isFailed, ?_⟩
    rw [toldFirst, finalOutcome_of_errored (plain.perm (perm_cons_erase isFailed)) isOpen errored]
    decide
  · have fine : ∀ event ∈ events, event.errored = false := fun event isEvent =>
      Bool.not_eq_true _ ▸ fun errored => failing ⟨event, isEvent, errored⟩
    have covers : ∃ event ∈ events, Longest snapshot events event ∧
        informedBy snapshot event = false := by
      by_contra none_
      refine mixed ⟨fine, fun event isEvent isLongest => ?_⟩
      by_contra uninformed
      exact none_ ⟨event, isEvent, isLongest, Bool.not_eq_true _ ▸ uninformed⟩
    obtain ⟨silent, isSilent, longest, uninformed⟩ := covers
    have permSilent := perm_cons_erase isSilent
    refine ⟨_, _, perm_cons_erase isTelling, permSilent, ?_⟩
    rw [toldFirst, finalOutcome_of_longest_first (plain.perm permSilent) isOpen
      (fun event isEvent => fine event (permSilent.mem_iff.1 isEvent))
      (longest.perm permSilent.symm) uninformed]
    decide

/-- The order of the events has no part in the outcome of exactly those calls. -/
theorem finalOutcome_perm_iff (tts : String) (snapshot : CallFinalizationSnapshot)
    (events : List VoiceFinalizationHints) :
    (∀ first second : List VoiceFinalizationHints, first.Perm events → second.Perm events →
      finalOutcome tts snapshot first = finalOutcome tts snapshot second) ↔
      OrderFree snapshot events := by
  constructor
  · intro same
    by_contra notFree
    obtain ⟨first, second, isFirst, isSecond, differ⟩ := orders_differ notFree
    exact differ (same first second isFirst isSecond)
  · intro free first second isFirst isSecond
    by_cases none_ : events = []
    · rw [none_, List.perm_nil] at isFirst isSecond
      rw [isFirst, isSecond]
    · obtain ⟨outcome, isOutcome⟩ := free.outcome none_
      rw [isOutcome first isFirst, isOutcome second isSecond]

def openCall : CallFinalizationSnapshot where
  durationSec := none
  transcript := some "Quels sont vos horaires ?"
  intent := none
  outcome := none
  sttProvider := none
  llmProvider := none
  ttsProvider := none
  reservationCreated := false
  messageRecorded := false

def streamError : VoiceFinalizationHints := { endedReason := some "error" }

def endWebhook : VoiceFinalizationHints := { endedReason := some "normal" }

/-- A stream that fails before the webhook comes hides that the caller asked for the opening hours;
one that fails after it does not. -/
theorem failure_first_hides_information : [streamError, endWebhook].Perm [endWebhook, streamError] ∧
      finalOutcome "elevenlabs" openCall [streamError, endWebhook] = some .ERROR ∧
      finalOutcome "elevenlabs" openCall [endWebhook, streamError] = some .INFO := by
  decide

end

end Sokar
