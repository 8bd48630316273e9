import Sokar.Shared.IsoDates

/-!
# The facts of a spoken turn

The model that speaks on the phone proposes; these guards keep the values that are well formed, note
what a reply read back, and decide whether an action may be taken.
-/

namespace Sokar

/-! ## What a turn says -/

inductive TurnInterpretation where
  | answer | question | correction | affirmation | decline | new_request | end_call | unclear
  deriving DecidableEq

/-- What a reply waits for. -/
inductive TurnAwaiting where
  | none | date | time | partySize | customerName | customerNameConfirmation | confirmation
  | confirmationResume | humanFallback | open_
  deriving DecidableEq

inductive TurnUnderstanding where
  | clear | doubtful
  deriving DecidableEq

inductive TurnAction where
  | none | check_availability | create_reservation | take_message | transfer | end_call
  deriving DecidableEq

inductive TurnConfidence where
  | high | medium | low
  deriving DecidableEq

/-- An empty text and the number zero stand for what is not known. -/
structure StructuredTurnDraft where
  date : String
  time : String
  partySize : ℚ
  customerName : String
  deriving DecidableEq

structure StructuredTurnOutput where
  turnComplete : Bool
  understanding : Option TurnUnderstanding
  interpretation : TurnInterpretation
  draft : StructuredTurnDraft
  awaiting : TurnAwaiting
  action : TurnAction
  message : String
  confidence : TurnConfidence
  say : String
  deriving DecidableEq

structure VerifiedSlots where
  date : String
  partySize : ℚ
  slots : List String
  deriving DecidableEq

structure StructuredTurnState where
  draft : StructuredTurnDraft
  lastAwaiting : TurnAwaiting
  recapKey : Option String
  resumableRecapKey : Option String
  availability : Option VerifiedSlots
  reservationCreated : Bool
  recapCutBlockedKey : Option String
  deriving DecidableEq

def createStructuredTurnState : StructuredTurnState where
  draft := ⟨"", "", 0, ""⟩
  lastAwaiting := .none
  recapKey := none
  resumableRecapKey := none
  availability := none
  reservationCreated := false
  recapCutBlockedKey := none

inductive ReplyScope where
  | decline_human_fallback | decline_booking | correct_name | choose_human_fallback
  deriving DecidableEq

/-- `\p{L}` and `toLocaleLowerCase('fr-FR')`, which follow the Unicode tables of the runtime. -/
class FrenchText where
  isLetter : Char → Bool
  toLocaleLowerCase : String → String

@[reducible] def FrenchText.ascii : FrenchText where
  isLetter := Char.isAlpha
  toLocaleLowerCase := asciiLowerCase

inductive DraftField where
  | date | time | partySize | customerName
  deriving DecidableEq

def MAX_BOOKING_HORIZON_DAYS : Int := 366

def MAX_NAME_LENGTH : Nat := 60

/-- The date of an instant, as its ISO text begins. -/
def isoDay (instant : Instant) : String :=
  String.ofList ((toISOString instant).toList.take 10)

/-- The instant a day begins; none is an invalid date. -/
def startOfDay (isoDate : String) : Option Instant :=
  dateFromIso (isoDate.toList ++ "T00:00:00.000Z".toList)

def isCalendarDate (value : String) : Bool :=
  DATE_ONLY_PATTERN value && (startOfDay value).any fun date => isoDay date == value

def addDays (isoDate : String) (days : Int) : String :=
  ((startOfDay isoDate).map fun date => isoDay (date + days * msPerDay)).getD ""

/-- `/^(?:[01]\d|2[0-3]):[0-5]\d$/` -/
def TIME_PATTERN (text : String) : Bool :=
  fits "dd:dd".toList text.toList &&
    match text.toList with
    | tens :: units :: _ :: sixths :: _ =>
      (tens ≤ '1' || (tens == '2' && units ≤ '3')) && sixths ≤ '5'
    | _ => false

/-- The first text does not come after the second. -/
def isUpTo (first second : String) : Bool :=
  !decide (second.toList < first.toList)

variable (doubtful isCorrection : Bool)

variable (draft : StructuredTurnDraft)

variable (state : StructuredTurnState)

variable (output : StructuredTurnOutput)

section

variable [FrenchText]

/-- `/^[\p{L}][\p{L}\s'’-]*$/u` -/
def NAME_PATTERN (name : String) : Bool :=
  match name.toList with
  | [] => false
  | first :: rest => FrenchText.isLetter first && rest.all fun char =>
    FrenchText.isLetter char || isTrimmedChar char || "'’-".toList.contains char

def isValidDate (today date : String) : Bool :=
  isCalendarDate date && isUpTo today date && isUpTo date (addDays today MAX_BOOKING_HORIZON_DAYS)

def isValidPartySize (partySize : ℚ) : Bool :=
  decide (partySize.den = 1) && decide (1 ≤ partySize) && decide (partySize ≤ 99)

def isValidName (name : String) : Bool :=
  decide (utf16Length (trim name) ≤ MAX_NAME_LENGTH) && NAME_PATTERN (trim name)

inductive FieldVerdict where
  | kept | rejected | changed
  deriving DecidableEq

/-- A text field of the draft, given the one that is proposed: an empty one erases only as a
correction, and one that is invalid changes nothing. -/
def applyText (isValid : String → Bool) (previous proposed : String) : String × FieldVerdict :=
  if proposed = previous then (previous, .kept)
  else if doubtful then (previous, .rejected)
  else if trim proposed = "" then if isCorrection then ("", .changed) else (previous, .kept)
  else if isValid (trim proposed) then (trim proposed, .changed)
  else (previous, .rejected)

def applyPartySize (previous proposed : ℚ) : ℚ × FieldVerdict :=
  if proposed = previous then (previous, .kept)
  else if doubtful then (previous, .rejected)
  else if proposed = 0 then if isCorrection then (0, .changed) else (previous, .kept)
  else if isValidPartySize proposed then (proposed, .changed)
  else (previous, .rejected)

structure AppliedDraft where
  draft : StructuredTurnDraft
  rejected : List DraftField
  changed : List DraftField
  deriving DecidableEq

def applyProposedDraft (today : String) (previous : StructuredTurnDraft)
    (output : StructuredTurnOutput) : AppliedDraft :=
  let doubtful := output.understanding == some .doubtful
  let isCorrection := output.interpretation == .correction
  let date := applyText doubtful isCorrection (isValidDate today) previous.date output.draft.date
  let time := applyText doubtful isCorrection TIME_PATTERN previous.time output.draft.time
  let partySize := applyPartySize doubtful isCorrection previous.partySize output.draft.partySize
  let customerName :=
    applyText doubtful isCorrection isValidName previous.customerName output.draft.customerName
  let fields := [(DraftField.date, date.2), (.time, time.2), (.partySize, partySize.2),
    (.customerName, customerName.2)]
  { draft := ⟨date.1, time.1, partySize.1, customerName.1⟩
    rejected := (fields.filter (·.2 = .rejected)).map (·.1)
    changed := (fields.filter (·.2 = .changed)).map (·.1) }

def isBookingComplete : Bool :=
  draft.date != "" && draft.time != "" && decide (0 < draft.partySize) &&
    trim draft.customerName != ""

/-- The name, without the blanks around it and the case of its letters. -/
def nameKey : String :=
  FrenchText.toLocaleLowerCase (trim draft.customerName)

/-- A number that is not whole is written as a fraction, which no whole number is either. -/
def bookingKey : String :=
  draft.date ++ ":" ++ draft.time ++ ":" ++ toString draft.partySize ++ ":" ++ nameKey draft

def isSlotVerified (draft : StructuredTurnDraft) : Bool :=
  state.availability.any fun availability => availability.date == draft.date &&
    availability.partySize == draft.partySize && availability.slots.contains draft.time

def canResumeConfirmation (recapHeard : Bool) : Bool :=
  if state.reservationCreated || !isBookingComplete state.draft then false
  else
    let key := some (bookingKey state.draft)
    if state.lastAwaiting = .confirmation then recapHeard && state.recapKey == key
    else state.resumableRecapKey == key && (state.lastAwaiting != .confirmationResume || recapHeard)

/-- What is noted of a reply that was spoken. -/
def updateConfirmationState (recapHeard : Bool) : StructuredTurnState :=
  let key := if isBookingComplete state.draft then some (bookingKey state.draft) else none
  let decliningBooking := output.interpretation == .decline &&
    (state.lastAwaiting == .confirmation || state.lastAwaiting == .confirmationResume)
  let resumable :=
    if state.reservationCreated || decliningBooking || output.interpretation == .new_request ||
        output.action == .end_call || output.action == .transfer then none
    else if canResumeConfirmation state recapHeard then key else none
  { state with
    resumableRecapKey := if output.awaiting = .confirmation then none else resumable
    lastAwaiting := output.awaiting
    recapKey := if output.awaiting = .confirmation then key else none }

inductive ActionRefusal where
  | reply_scope_required | doubtful_understanding | long_unclear_farewell | low_confidence
  | missing_date_or_party_size | already_created | incomplete_booking | group_above_threshold
  | slot_not_verified | recap_not_read | recap_not_accepted | recap_not_heard
  deriving DecidableEq

/-- No refusal allows the action. -/
abbrev ActionDecision := Option ActionRefusal

def FAREWELL_MAX_WORDS : Nat := 6

structure ActionContext where
  maxPartySize : ℚ
  recapHeard : Option Bool := none
  transcriptWords : Option Nat := none
  replyScope : Option ReplyScope := none

/-- The reply before read this draft back, or asked to go on with it. -/
def recapAccepted (draft : StructuredTurnDraft) : Bool :=
  (state.lastAwaiting == .confirmation && state.recapKey == some (bookingKey draft)) ||
    (state.lastAwaiting == .confirmationResume &&
      state.resumableRecapKey == some (bookingKey draft))

def decideReservation (draft : StructuredTurnDraft) (context : ActionContext) : ActionDecision :=
  if state.reservationCreated then some .already_created
  else if !isBookingComplete draft then some .incomplete_booking
  else if context.maxPartySize < draft.partySize then some .group_above_threshold
  else if !isSlotVerified state draft then some .slot_not_verified
  else if !recapAccepted state draft then some .recap_not_read
  else if output.interpretation ≠ .affirmation then some .recap_not_accepted
  else if context.recapHeard = some false then some .recap_not_heard
  else none

def authorizeStructuredAction (draft : StructuredTurnDraft) (context : ActionContext) :
    ActionDecision :=
  let shortFarewell := output.action == .end_call && state.reservationCreated &&
    state.lastAwaiting == .none && context.transcriptWords.any (· ≤ FAREWELL_MAX_WORDS)
  let sideEffect := output.action != .none && output.action != .check_availability
  if context.replyScope.isSome && (output.action != .none || output.awaiting == .none ||
      bookingKey output.draft != bookingKey state.draft) then some .reply_scope_required
  else if output.understanding == some .doubtful && output.action != .none && !shortFarewell then
    some .doubtful_understanding
  else if output.action == .end_call && output.interpretation == .unclear &&
      !context.transcriptWords.any (· ≤ FAREWELL_MAX_WORDS) then some .long_unclear_farewell
  else if sideEffect && output.confidence == .low && !shortFarewell then some .low_confidence
  else
    match output.action with
    | .none | .take_message | .transfer | .end_call => none
    | .check_availability =>
      if draft.date ≠ "" ∧ 0 < draft.partySize then none else some .missing_date_or_party_size
    | .create_reservation => decideReservation state output draft context

end

section

/-- A known date and a known time are written in their patterns, and the guests are counted. -/
structure StructuredTurnDraft.Formed (draft : StructuredTurnDraft) : Prop where
  date : draft.date = "" ∨ DATE_ONLY_PATTERN draft.date = true
  time : draft.time = "" ∨ TIME_PATTERN draft.time = true
  partySize : ∃ guests < 100, draft.partySize = (guests : Nat)

theorem applyText_cases (isValid : String → Bool) (previous proposed : String) :
    (applyText doubtful isCorrection isValid previous proposed).1 = previous ∨
      (applyText doubtful isCorrection isValid previous proposed).1 = "" ∨
      isValid (applyText doubtful isCorrection isValid previous proposed).1 = true := by
  unfold applyText
  split_ifs with same isDoubtful isEmpty corrects valid
  · exact .inl rfl
  · exact .inl rfl
  · exact .inr (.inl rfl)
  · exact .inl rfl
  · exact .inr (.inr valid)
  · exact .inl rfl

/-- What holds of a text field that is empty or valid, the one that is applied has too. -/
theorem applyText_keeps {doubtful isCorrection : Bool} {isValid pattern : String → Bool}
    {previous : String} (proposed : String) (known : previous = "" ∨ pattern previous = true)
    (shaped : ∀ text, isValid text = true → pattern text = true) :
    (applyText doubtful isCorrection isValid previous proposed).1 = "" ∨
      pattern (applyText doubtful isCorrection isValid previous proposed).1 = true := by
  rcases applyText_cases doubtful isCorrection isValid previous proposed with
    same | isEmpty | valid
  · rw [same]
    exact known
  · exact .inl isEmpty
  · exact .inr (shaped _ valid)

theorem isValidPartySize_counted {partySize : ℚ} (valid : isValidPartySize partySize = true) :
    ∃ guests < 100, partySize = (guests : Nat) := by
  rw [isValidPartySize, Bool.and_eq_true, Bool.and_eq_true, decide_eq_true_eq, decide_eq_true_eq,
    decide_eq_true_eq] at valid
  obtain ⟨⟨whole, atLeastOne⟩, atMost⟩ := valid
  have isWhole : partySize = partySize.num := ((Rat.den_eq_one_iff partySize).1 whole).symm
  have notNegative : 0 ≤ partySize.num := Rat.num_nonneg.2 (zero_le_one.trans atLeastOne)
  obtain ⟨guests, isCount⟩ := Int.eq_ofNat_of_zero_le notNegative
  rw [isCount, Int.cast_natCast] at isWhole
  refine ⟨guests, ?_, isWhole⟩
  rw [isWhole] at atMost
  have bounded : guests ≤ 99 := by exact_mod_cast atMost
  omega

theorem applyPartySize_counted {doubtful isCorrection : Bool} {previous : ℚ} (proposed : ℚ)
    (counted : ∃ guests < 100, previous = (guests : Nat)) :
    ∃ guests < 100,
      (applyPartySize doubtful isCorrection previous proposed).1 = (guests : Nat) := by
  unfold applyPartySize
  split_ifs with same isDoubtful isZero corrects valid
  · exact counted
  · exact counted
  · exact ⟨0, by decide, rfl⟩
  · exact counted
  · exact isValidPartySize_counted valid
  · exact counted

theorem StructuredTurnDraft.Formed.named {draft : StructuredTurnDraft} (formed : draft.Formed)
    (customerName : String) : StructuredTurnDraft.Formed { draft with customerName } :=
  ⟨formed.date, formed.time, formed.partySize⟩

theorem DATE_ONLY_PATTERN_of_isValidDate {today date : String}
    (valid : isValidDate today date = true) : DATE_ONLY_PATTERN date = true := by
  simp only [isValidDate, isCalendarDate, Bool.and_eq_true] at valid
  exact valid.1.1.1

theorem guestsText : ∀ guests < 100, numberOf (toString ((guests : Nat) : ℚ)).toList = guests ∧
    ':' ∉ (toString ((guests : Nat) : ℚ)).toList := by
  decide +kernel

theorem length_of_DATE_ONLY_PATTERN {text : String} (pattern : DATE_ONLY_PATTERN text = true) :
    text.toList.length = 10 :=
  length_of_fits pattern

theorem length_of_TIME_PATTERN {text : String} (pattern : TIME_PATTERN text = true) :
    text.toList.length = 5 := by
  rw [TIME_PATTERN, Bool.and_eq_true] at pattern
  exact length_of_fits pattern.1

theorem append_separator_inj {α : Type} {separator : α} {first second front back : List α}
    (notFirst : separator ∉ first) (notSecond : separator ∉ second)
    (same : first ++ separator :: front = second ++ separator :: back) :
    first = second ∧ front = back := by
  induction first generalizing second with
  | nil =>
    cases second with
    | nil => exact ⟨rfl, (List.cons.inj same).2⟩
    | cons item rest => exact absurd ((List.cons.inj same).1 ▸ List.mem_cons_self) notSecond
  | cons item rest ih =>
    cases second with
    | nil => exact absurd ((List.cons.inj same).1 ▸ List.mem_cons_self) notFirst
    | cons other more =>
      obtain ⟨head, tail⟩ := List.cons.inj same
      obtain ⟨same, rests⟩ := ih (fun isRest => notFirst (List.mem_cons_of_mem _ isRest))
        (fun isMore => notSecond (List.mem_cons_of_mem _ isMore)) tail
      exact ⟨by rw [head, same], rests⟩

variable [FrenchText]

theorem StructuredTurnDraft.Formed.applied {today : String} {draft : StructuredTurnDraft}
    (formed : draft.Formed) (output : StructuredTurnOutput) :
    (applyProposedDraft today draft output).draft.Formed where
  date := applyText_keeps _ formed.date fun _ => DATE_ONLY_PATTERN_of_isValidDate
  time := applyText_keeps _ formed.time fun _ => id
  partySize := applyPartySize_counted _ formed.partySize

/-- The same date, time and number of guests, for the same name; the case of its letters is not
heard. -/
structure SameDetails (first second : StructuredTurnDraft) : Prop where
  date : first.date = second.date
  time : first.time = second.time
  partySize : first.partySize = second.partySize
  name : nameKey first = nameKey second

theorem toList_bookingKey :
    (bookingKey draft).toList = draft.date.toList ++ ':' :: (draft.time.toList ++
      ':' :: ((toString draft.partySize).toList ++ ':' :: (nameKey draft).toList)) := by
  simp [bookingKey]

theorem SameDetails.of_bookingKey {first second : StructuredTurnDraft} (formed : first.Formed)
    (formed' : second.Formed) (complete : isBookingComplete first = true)
    (complete' : isBookingComplete second = true) (sameKey : bookingKey first = bookingKey second) :
    SameDetails first second := by
  simp only [isBookingComplete, Bool.and_eq_true, bne_iff_ne] at complete complete'
  have keys := congrArg String.toList sameKey
  rw [toList_bookingKey, toList_bookingKey] at keys
  have dateLength := length_of_DATE_ONLY_PATTERN (formed.date.resolve_left complete.1.1.1)
  have dateLength' := length_of_DATE_ONLY_PATTERN (formed'.date.resolve_left complete'.1.1.1)
  obtain ⟨date, keys⟩ := List.append_inj keys (dateLength.trans dateLength'.symm)
  have timeLength := length_of_TIME_PATTERN (formed.time.resolve_left complete.1.1.2)
  have timeLength' := length_of_TIME_PATTERN (formed'.time.resolve_left complete'.1.1.2)
  obtain ⟨time, keys⟩ := List.append_inj (List.cons.inj keys).2 (timeLength.trans timeLength'.symm)
  obtain ⟨guests, few, isGuests⟩ := formed.partySize
  obtain ⟨guests', few', isGuests'⟩ := formed'.partySize
  rw [isGuests, isGuests'] at keys
  obtain ⟨counted, noColon⟩ := guestsText guests few
  obtain ⟨counted', noColon'⟩ := guestsText guests' few'
  obtain ⟨size, name⟩ := append_separator_inj noColon noColon' (List.cons.inj keys).2
  refine ⟨String.toList_inj.1 date, String.toList_inj.1 time, ?_, String.toList_inj.1 name⟩
  rw [isGuests, isGuests', ← counted, ← counted', size]

end

end Sokar
