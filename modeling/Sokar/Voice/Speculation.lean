import Sokar.Voice.InkTranscripts

/-!
# Speculative replies

A request to the model starts on a partial transcript, and its stream is taken up when the final one
asks the same.  Streams that were replaced or cancelled may go on for a while.
-/

namespace Sokar

def CLOSING_POLITENESS : List String := ["s", "il", "vous", "plaît"]

def STUTTER_WORDS : List String :=
  ["alors", "bonjour", "de", "des", "du", "en", "est", "et", "je", "la", "le", "les", "on", "oui",
    "pour", "que", "vous"]

inductive HarmlessTranscriptGap where
  | format | politeness | stutter
  deriving DecidableEq

def withoutClosingPoliteness (words : List String) : List String :=
  if words.drop (words.length - 4) = CLOSING_POLITENESS then words.take (words.length - 4) else words

/-- The words after one, less those that only say the one before them again. -/
def withoutRepeats : String → List String → List String
  | _, [] => []
  | previous, word :: rest =>
    if word = previous ∧ word ∈ STUTTER_WORDS then withoutRepeats word rest
    else word :: withoutRepeats word rest

def withoutStutter : List String → List String
  | [] => []
  | word :: rest => word :: withoutRepeats word rest

theorem of_mem_modify {α : Type} {items : List α} {place : Nat} {change : α → α} {item : α}
    (found : item ∈ items.modify place change) :
    item ∈ items ∨ ∃ before, items[place]? = some before ∧ change before = item := by
  obtain ⟨other, isOther⟩ := List.mem_iff_getElem?.1 found
  rw [List.getElem?_modify] at isOther
  obtain ⟨before, isBefore, rfl⟩ := Option.map_eq_some_iff.1 isOther
  split_ifs with same
  · exact .inr ⟨before, same ▸ isBefore, rfl⟩
  · exact .inl (List.mem_of_getElem? isBefore)

structure ChatMessage where
  role : String
  content : String
  deriving DecidableEq

structure StructuredRequest where
  messages : List ChatMessage
  /-- The schema of the answer, as it is written. -/
  format : String
  deriving DecidableEq

section

variable [SpokenWords]

/-- The words of the normalised text.  None holds a space, so lists of them are equal where the texts
they are joined to are. -/
def normalizedWords (text : String) : List String :=
  (((SpokenWords.toLowerCase text).toList.splitOnP fun char =>
    !(SpokenWords.isLetter char || SpokenWords.isNumber char)).filter (· ≠ [])).map String.ofList

def harmlessTranscriptGap (speculated final : String) : Option HarmlessTranscriptGap :=
  if speculated = final then none
  else if speculated.toList.contains '?' ≠ final.toList.contains '?' then none
  else
    let before := normalizedWords speculated
    let after := normalizedWords final
    if before = [] ∨ after = [] then none
    else if before = after then some .format
    else
      let politeBefore := withoutClosingPoliteness before
      let politeAfter := withoutClosingPoliteness after
      if politeBefore = [] ∨ politeAfter = [] then none
      else if withoutStutter politeBefore ≠ withoutStutter politeAfter then none
      else if politeBefore = politeAfter then some .politeness
      else some .stutter

/-- The reply to one transcript may be that to the other. -/
def SameRequest (speculated final : String) : Prop :=
  speculated = final ∨ (harmlessTranscriptGap speculated final).isSome

/-- The words that count. -/
def coreWords (text : String) : List String :=
  withoutStutter (withoutClosingPoliteness (normalizedWords text))

variable {speculated final : String}

theorem isSome_harmlessTranscriptGap (differ : speculated ≠ final) :
    (harmlessTranscriptGap speculated final).isSome ↔
      speculated.toList.contains '?' = final.toList.contains '?' ∧
        normalizedWords speculated ≠ [] ∧ normalizedWords final ≠ [] ∧
          (normalizedWords speculated = normalizedWords final ∨
            withoutClosingPoliteness (normalizedWords speculated) ≠ [] ∧
              withoutClosingPoliteness (normalizedWords final) ≠ [] ∧
                coreWords speculated = coreWords final) := by
  simp only [harmlessTranscriptGap, coreWords]
  grind

theorem coreWords_congr (words : normalizedWords speculated = normalizedWords final) :
    coreWords speculated = coreWords final :=
  congrArg (fun words => withoutStutter (withoutClosingPoliteness words)) words

theorem SameRequest.coreWords_eq (same : SameRequest speculated final) :
    coreWords speculated = coreWords final := by
  rcases eq_or_ne speculated final with rfl | differ
  · rfl
  · obtain ⟨-, -, -, words | ⟨-, -, core⟩⟩ :=
      (isSome_harmlessTranscriptGap differ).1 (same.resolve_left differ)
    · exact coreWords_congr words
    · exact core

/-- Transcripts whose replies are exchanged form classes, and within a class the same words are said
once the courtesy that closes a transcript and repeated tool words are left out. -/
theorem sameRequest_equivalence : Equivalence SameRequest ∧
    ∀ speculated final, SameRequest speculated final →
      coreWords speculated = coreWords final := by
  refine ⟨⟨fun _ => .inl rfl, fun {speculated final} same => ?_,
    fun {first second third} left right => ?_⟩, fun _ _ same => same.coreWords_eq⟩
  · rcases eq_or_ne speculated final with rfl | differ
    · exact same
    · obtain ⟨question, before, after, said⟩ :=
        (isSome_harmlessTranscriptGap differ).1 (same.resolve_left differ)
      refine .inr ((isSome_harmlessTranscriptGap differ.symm).2 ⟨question.symm, after, before, ?_⟩)
      refine said.imp Eq.symm ?_
      rintro ⟨politeBefore, politeAfter, core⟩
      exact ⟨politeAfter, politeBefore, core.symm⟩
  · rcases eq_or_ne first second with rfl | one
    · exact right
    rcases eq_or_ne second third with rfl | two
    · exact left
    rcases eq_or_ne first third with rfl | differ
    · exact .inl rfl
    obtain ⟨question, before, middle, said⟩ :=
      (isSome_harmlessTranscriptGap one).1 (left.resolve_left one)
    obtain ⟨question', -, after, said'⟩ :=
      (isSome_harmlessTranscriptGap two).1 (right.resolve_left two)
    refine .inr ((isSome_harmlessTranscriptGap differ).2
      ⟨question.trans question', before, after, ?_⟩)
    rcases said with words | ⟨politeBefore, politeMiddle, core⟩
    · rw [words, coreWords_congr words]
      exact said'
    · rcases said' with words | ⟨-, politeAfter, core'⟩
      · exact .inr ⟨politeBefore, words ▸ politeMiddle, core.trans (coreWords_congr words)⟩
      · exact .inr ⟨politeBefore, politeAfter, core.trans core'⟩

/-- The gap where only the last message differs, and it is the caller's. -/
def harmlessGapOf (speculated request : StructuredRequest) : Option HarmlessTranscriptGap :=
  match speculated.messages.getLast?, request.messages.getLast? with
  | some speculatedLast, some finalLast =>
    if speculatedLast.role ≠ "user" ∨ finalLast.role ≠ "user" then none
    else if (⟨request.messages.dropLast ++ [speculatedLast], request.format⟩ : StructuredRequest) ≠
        speculated then none
    else harmlessTranscriptGap speculatedLast.content finalLast.content
  | _, _ => none

def Reusable (speculated request : StructuredRequest) : Prop :=
  speculated = request ∨ (harmlessGapOf speculated request).isSome

instance (speculated request : StructuredRequest) : Decidable (Reusable speculated request) :=
  inferInstanceAs (Decidable (_ ∨ _))

/-- A turn that took up a stream, and what it has heard of it. -/
structure Listener where
  request : StructuredRequest
  heard : List String

structure Speculation where
  request : StructuredRequest
  deltas : List String
  listeners : List Listener

def Speculation.onDelta (speculation : Speculation) (delta : String) : Speculation where
  request := speculation.request
  deltas := speculation.deltas ++ [delta]
  listeners := speculation.listeners.map fun listener =>
    { listener with heard := listener.heard ++ [delta] }

def Speculation.resume (speculation : Speculation) (request : StructuredRequest) : Speculation :=
  { speculation with
    listeners := speculation.listeners ++ [⟨request, speculation.deltas⟩] }

structure SpeculationState where
  streams : List Speculation
  /-- Which of the streams is still to be taken up. -/
  current : Option Nat
  launches : Nat

inductive SpeculationEvent where
  | start (request : StructuredRequest) (awaitsVerdict : Bool)
  | delta (stream : Nat) (delta : String)
  | take (request : StructuredRequest)
  | cancel

namespace SpeculationState

def currentSpeculation (s : SpeculationState) : Option Speculation :=
  s.current.bind (s.streams[·]?)

def startSpeculation (s : SpeculationState) (maxLaunches : Nat) (request : StructuredRequest)
    (awaitsVerdict : Bool) : SpeculationState :=
  if s.currentSpeculation.any (·.request = request) then s
  else if !awaitsVerdict && s.currentSpeculation.any fun speculation =>
    (harmlessGapOf speculation.request request).isSome then s
  else if maxLaunches ≤ s.launches then s
  else
    { streams := s.streams ++ [⟨request, [], []⟩]
      current := some s.streams.length
      launches := s.launches + 1 }

def cancelSpeculation (s : SpeculationState) : SpeculationState :=
  { s with current := none, launches := 0 }

def takeSpeculation (s : SpeculationState) (request : StructuredRequest) : SpeculationState :=
  match s.current with
  | none => s.cancelSpeculation
  | some stream =>
    { s.cancelSpeculation with
      streams := s.streams.modify stream fun speculation =>
        if Reusable speculation.request request then speculation.resume request else speculation }

def step (maxLaunches : Nat) (s : SpeculationState) : SpeculationEvent → SpeculationState
  | .start request awaitsVerdict => s.startSpeculation maxLaunches request awaitsVerdict
  | .delta stream delta => { s with streams := s.streams.modify stream (·.onDelta delta) }
  | .take request => s.takeSpeculation request
  | .cancel => s.cancelSpeculation

def machine (maxLaunches : Nat) : EventMachine SpeculationState SpeculationEvent :=
  ⟨fun s event => some (s.step maxLaunches event)⟩

def first : SpeculationState := ⟨[], none, 0⟩

end SpeculationState

/-- At most one turn took the stream up: it asks the same up to a harmless gap, and has heard all that
came. -/
structure Speculation.Faithful (speculation : Speculation) : Prop where
  atMostOne : speculation.listeners.length ≤ 1
  lossless : ∀ listener ∈ speculation.listeners, listener.heard = speculation.deltas ∧
    Reusable speculation.request listener.request

theorem Speculation.Faithful.onDelta {speculation : Speculation} (faithful : speculation.Faithful)
    (delta : String) : (speculation.onDelta delta).Faithful where
  atMostOne := by simpa [Speculation.onDelta] using faithful.atMostOne
  lossless listener listens := by
    obtain ⟨before, listened, rfl⟩ := List.mem_map.1 listens
    obtain ⟨heard, reusable⟩ := faithful.lossless before listened
    exact ⟨congrArg (· ++ [delta]) heard, reusable⟩

theorem Speculation.faithful_resume {speculation : Speculation} {request : StructuredRequest}
    (unheard : speculation.listeners = []) (reusable : Reusable speculation.request request) :
    (speculation.resume request).Faithful where
  atMostOne := by simp [resume, unheard]
  lossless listener listens := by
    obtain rfl : listener = ⟨request, speculation.deltas⟩ := by
      simpa [resume, unheard] using listens
    exact ⟨rfl, reusable⟩

namespace SpeculationState

structure Sound (s : SpeculationState) : Prop where
  faithful : ∀ speculation ∈ s.streams, speculation.Faithful
  unheard : ∀ stream speculation, s.current = some stream → s.streams[stream]? = some speculation →
    speculation.listeners = []

variable {s : SpeculationState} {maxLaunches : Nat}

theorem Sound.step (sound : s.Sound) (event : SpeculationEvent) :
    (s.step maxLaunches event).Sound := by
  cases event with
  | start request awaitsVerdict =>
    simp only [SpeculationState.step, startSpeculation]
    split_ifs
    · exact sound
    · exact sound
    · exact sound
    constructor
    · intro speculation isStream
      rcases List.mem_append.1 isStream with before | new
      · exact sound.faithful speculation before
      · rw [List.mem_singleton.1 new]
        constructor <;> simp
    · intro stream speculation isCurrent found
      cases isCurrent
      rw [List.getElem?_concat_length] at found
      cases found
      rfl
  | delta stream delta =>
    constructor
    · intro speculation isStream
      rcases of_mem_modify isStream with same | ⟨before, isBefore, rfl⟩
      · exact sound.faithful speculation same
      · exact (sound.faithful before (List.mem_of_getElem? isBefore)).onDelta delta
    · intro other speculation isCurrent found
      simp only [SpeculationState.step, List.getElem?_modify] at found
      obtain ⟨before, isBefore, rfl⟩ := Option.map_eq_some_iff.1 found
      have unheard := sound.unheard other before isCurrent isBefore
      split_ifs
      · simp [Speculation.onDelta, unheard]
      · exact unheard
  | take request =>
    simp only [SpeculationState.step, takeSpeculation]
    split
    next => exact ⟨sound.faithful, fun _ _ isCurrent => by cases isCurrent⟩
    next stream isCurrent =>
      refine ⟨fun speculation isStream => ?_, fun _ _ isCurrent => by cases isCurrent⟩
      rcases of_mem_modify isStream with same | ⟨before, isBefore, rfl⟩
      · exact sound.faithful speculation same
      · split_ifs with reusable
        · exact Speculation.faithful_resume (sound.unheard stream before isCurrent isBefore) reusable
        · exact sound.faithful before (List.mem_of_getElem? isBefore)
  | cancel => exact ⟨sound.faithful, fun _ _ isCurrent => by cases isCurrent⟩

/-- Every turn that took a stream up has heard all that came of it, in order, and asks the same up to
a harmless gap; no stream is taken up by two turns. -/
theorem takeSpeculation_lossless
    (reaches : (machine maxLaunches).Reaches (fun _ _ => True) first s) :
    ∀ speculation ∈ s.streams, speculation.Faithful := by
  have sound : s.Sound := by
    apply reaches.invariant
    · constructor <;> simp [first]
    · rintro before event after sound - happens
      cases happens
      exact sound.step event
  exact sound.faithful

end SpeculationState

end

section

attribute [local instance] SpokenWords.ascii

open SpeculationState

def asked (words : String) : StructuredRequest :=
  ⟨[⟨"system", "s"⟩, ⟨"user", words⟩], "f"⟩

/-- The turn hears what came before it took the stream up and what came after. -/
theorem takeSpeculation_lossless_comma : ∃ s, (machine 3).Reaches (fun _ _ => True) first s ∧
    ∃ speculation ∈ s.streams, speculation.Faithful ∧
      speculation.listeners.map (·.heard) = [["Oui", "."]] := by
  have shown : ((machine 3).follow (fun _ _ => True) [.start (asked "oui pour deux") true,
      .delta 0 "Oui", .take (asked "Oui, pour deux."), .delta 0 "."] first).any
        (fun s => s.streams.any fun speculation =>
          speculation.listeners.map (·.heard) = [["Oui", "."]]) = true := by
    decide +kernel
  obtain ⟨s, reaches, shown⟩ := EventMachine.exists_of_follow shown
  obtain ⟨speculation, isStream, heard⟩ := List.any_eq_true.1 shown
  exact ⟨s, reaches, speculation, isStream, takeSpeculation_lossless reaches speculation isStream,
    of_decide_eq_true heard⟩

end

end Sokar
