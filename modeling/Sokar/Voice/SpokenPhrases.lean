import Sokar.Library.Framing
import Sokar.Library.Trimming
import Sokar.Voice.SayStream

/-!
# The phrases of the spoken text

`PhraseSplitter` hands the spoken text to the synthesis phrase by phrase while the text still comes
in.  A phrase ends where its mark is followed by white space, so a mark at the end of what
has come in waits for the next fragment.  Before the first phrase the words up to a comma may go
out early.
-/

namespace Sokar

open JsonGrammar CodeUnit

/-- `text.trim()`. -/
def trimUnits (text : List CodeUnit) : List CodeUnit :=
  Trimming.trim isSpaceUnit text

def withoutSpace (text : List CodeUnit) : List CodeUnit :=
  text.filter fun unit => !isSpaceUnit unit

def isBlank (text : List CodeUnit) : Bool :=
  text.all isSpaceUnit

section

variable {text : List CodeUnit}

@[simp] theorem withoutSpace_append (front back : List CodeUnit) :
    withoutSpace (front ++ back) = withoutSpace front ++ withoutSpace back :=
  List.filter_append ..

@[simp] theorem withoutSpace_trimUnits (text : List CodeUnit) :
    withoutSpace (trimUnits text) = withoutSpace text :=
  Trimming.filter_trim text

theorem withoutSpace_eq_nil : withoutSpace text = [] ↔ isBlank text := by
  simp [withoutSpace, isBlank, List.filter_eq_nil_iff]

theorem isBlank_trimUnits (text : List CodeUnit) : isBlank (trimUnits text) = isBlank text := by
  rw [Bool.eq_iff_iff, ← withoutSpace_eq_nil, withoutSpace_trimUnits, withoutSpace_eq_nil]

theorem trimUnits_eq_nil : trimUnits text = [] ↔ isBlank text :=
  Trimming.trim_eq_nil

end

/-- The letters of Unicode, by code point. -/
class LetterProperty where
  isLetter : Nat → Bool

def pairCodePoint (high low : CodeUnit) : Nat :=
  0x10000 + (high - 0xD800) * 0x400 + (low - 0xDC00)

def isSurrogatePair (high low : CodeUnit) : Bool :=
  0xD800 ≤ high && high ≤ 0xDBFF && 0xDC00 ≤ low && low ≤ 0xDFFF

def isDigitUnit (unit : CodeUnit) : Bool :=
  0x30 ≤ unit && unit ≤ 0x39

/-- `\p{L},` at the start of a text. -/
def startsWithLetterComma [LetterProperty] : List CodeUnit → Bool
  | high :: low :: rest =>
    if isSurrogatePair high low then
      LetterProperty.isLetter (pairCodePoint high low) && rest.head? == some comma
    else LetterProperty.isLetter high && low == comma
  | _ => false

/-- `/(^|\s)\p{L},/u`, where a match may begin at the start of the text or not. -/
def hasLoneLetter [LetterProperty] (atStart : Bool) : List CodeUnit → Bool
  | [] => false
  | unit :: rest =>
    (atStart && startsWithLetterComma (unit :: rest)) || hasLoneLetter (isSpaceUnit unit) rest

def EARLY_MIN_LENGTH : Nat := 6

/-- The loop over the commas before white space, with what lies before the rest. -/
def earlyFragmentFrom [LetterProperty] (before : List CodeUnit) : List CodeUnit → Option Nat
  | [] => none
  | unit :: rest =>
    if unit = comma ∧ rest.head?.any isSpaceUnit then
      let fragment := trimUnits (before ++ [unit])
      if fragment.any isDigitUnit || hasLoneLetter true fragment then none
      else if EARLY_MIN_LENGTH ≤ fragment.length then some (before.length + 1)
      else earlyFragmentFrom (before ++ [unit]) rest
    else earlyFragmentFrom (before ++ [unit]) rest

/-- Nothing for -1. -/
def earlyFragmentEnd [LetterProperty] (pending : List CodeUnit) : Option Nat :=
  earlyFragmentFrom [] pending

/-- `[.!?…]`. -/
def isPhraseMark (unit : CodeUnit) : Bool :=
  [0x2E, 0x21, 0x3F, 0x2026].contains unit

/-- Where the first match of `/[.!?…](?=\s)/` ends. -/
def phraseEnd? : List CodeUnit → Option Nat
  | [] => none
  | unit :: rest =>
    if isPhraseMark unit && rest.head?.any isSpaceUnit then some 1
    else (phraseEnd? rest).map (· + 1)

variable {text : List CodeUnit}

theorem phraseEnd?_pos {last : Nat} (found : phraseEnd? text = some last) : 0 < last := by
  cases text with
  | nil => cases found
  | cons unit rest =>
    rw [phraseEnd?] at found
    split at found
    · exact Option.some.inj found ▸ Nat.one_pos
    · obtain ⟨earlier, -, rfl⟩ := Option.map_eq_some_iff.1 found
      exact Nat.succ_pos earlier

theorem phraseEnd?_le {last : Nat} (found : phraseEnd? text = some last) : last ≤ text.length := by
  induction text generalizing last with
  | nil => cases found
  | cons unit rest ih =>
    rw [phraseEnd?] at found
    split at found
    · exact Option.some.inj found ▸ Nat.succ_pos _
    · obtain ⟨earlier, foundLater, rfl⟩ := Option.map_eq_some_iff.1 found
      exact Nat.succ_le_succ (ih foundLater)

/-- The white space after a mark is there already when the mark ends a phrase. -/
theorem phraseEnd?_append {last : Nat} (later : List CodeUnit)
    (found : phraseEnd? text = some last) : phraseEnd? (text ++ later) = some last := by
  induction text generalizing last with
  | nil => cases found
  | cons unit rest ih =>
    rw [List.cons_append, phraseEnd?]
    rw [phraseEnd?] at found
    split at found
    · next ends =>
        cases rest with
        | nil => simp at ends
        | cons next rest => exact (if_pos ends).trans found
    · next goesOn =>
        obtain ⟨earlier, foundLater, rfl⟩ := Option.map_eq_some_iff.1 found
        cases rest with
        | nil => cases foundLater
        | cons next rest =>
          rw [if_neg (by simpa using goesOn), ih foundLater]
          rfl

def phraseBoundary : Framing.Cutter CodeUnit where
  next? := phraseEnd?
  positive := phraseEnd?_pos
  fits := phraseEnd?_le
  stable := phraseEnd?_append

structure PhraseSplitter where
  pending : List CodeUnit
  emitted : Bool
  lastEarly : Bool

namespace PhraseSplitter

def initial : PhraseSplitter :=
  { pending := [], emitted := false, lastEarly := false }

def flush (splitter : PhraseSplitter) : Option (List CodeUnit) × PhraseSplitter :=
  let rest := trimUnits splitter.pending
  (if rest = [] then none else some rest,
    { splitter with pending := [], emitted := splitter.emitted || !rest.isEmpty })

variable [LetterProperty]

def push (splitter : PhraseSplitter) (text : List CodeUnit) (early : Bool) :
    List (List CodeUnit) × PhraseSplitter :=
  let cut := phraseBoundary.cut (splitter.pending ++ text)
  let phrases := (cut.1.map trimUnits).filter (· ≠ [])
  if phrases = [] ∧ early ∧ splitter.emitted = false then
    match earlyFragmentEnd cut.2 with
    | some length =>
      ([trimUnits (cut.2.take length)],
        { pending := cut.2.drop length, emitted := true, lastEarly := true })
    | none => ([], { pending := cut.2, emitted := splitter.emitted, lastEarly := false })
  else
    (phrases,
      { pending := cut.2, emitted := splitter.emitted || !phrases.isEmpty, lastEarly := false })

def pushAll (splitter : PhraseSplitter) :
    List (List CodeUnit × Bool) → List (List CodeUnit) × PhraseSplitter
  | [] => ([], splitter)
  | (text, early) :: rest =>
    let pushed := splitter.push text early
    let later := pushed.2.pushAll rest
    (pushed.1 ++ later.1, later.2)

/-- All phrases of a text, with the one that `flush` returns at its end. -/
def speak (pushes : List (List CodeUnit × Bool)) : List (List CodeUnit) :=
  let pushed := initial.pushAll pushes
  pushed.1 ++ pushed.2.flush.1.toList

omit [LetterProperty] in
theorem withoutSpace_phrases (pieces : List (List CodeUnit)) :
    withoutSpace ((pieces.map trimUnits).filter (· ≠ [])).flatten =
      withoutSpace pieces.flatten := by
  induction pieces with
  | nil => rfl
  | cons piece rest ih =>
    rw [List.map_cons, List.flatten_cons, withoutSpace_append, ← ih, List.filter_cons]
    split
    · rw [List.flatten_cons, withoutSpace_append, withoutSpace_trimUnits]
    · next empty =>
        have blank : trimUnits piece = [] := by simpa using empty
        rw [withoutSpace_eq_nil.2 (trimUnits_eq_nil.1 blank), List.nil_append]

variable {phrase : List CodeUnit}

omit [LetterProperty] in
theorem not_isBlank_of_mem {pieces : List (List CodeUnit)}
    (isPhrase : phrase ∈ (pieces.map trimUnits).filter (· ≠ [])) : isBlank phrase = false := by
  obtain ⟨isPiece, visible⟩ := List.mem_filter.1 isPhrase
  obtain ⟨piece, -, rfl⟩ := List.mem_map.1 isPiece
  rw [Bool.eq_false_iff]
  intro blank
  rw [isBlank_trimUnits] at blank
  exact absurd (trimUnits_eq_nil.2 blank) (by simpa using visible)

theorem earlyFragmentFrom_take {before rest : List CodeUnit} {length : Nat}
    (found : earlyFragmentFrom before rest = some length) :
    ∃ words, (before ++ rest).take length = words ++ [comma] := by
  induction rest generalizing before with
  | nil => cases found
  | cons unit rest ih =>
    have later (found : earlyFragmentFrom (before ++ [unit]) rest = some length) :
        ∃ words, (before ++ unit :: rest).take length = words ++ [comma] := by
      obtain ⟨words, taken⟩ := ih found
      rw [List.append_assoc, List.singleton_append] at taken
      exact ⟨words, taken⟩
    rw [earlyFragmentFrom] at found
    split at found
    · next boundary =>
        dsimp only at found
        split at found
        · cases found
        · split at found
          · refine ⟨before, ?_⟩
            rw [← Option.some.inj found, boundary.1, ← List.singleton_append,
              ← List.append_assoc, List.take_left' (by simp)]
          · exact later found
    · exact later found

theorem not_isBlank_early {pending : List CodeUnit} {length : Nat}
    (found : earlyFragmentEnd pending = some length) :
    isBlank (trimUnits (pending.take length)) = false := by
  obtain ⟨words, taken⟩ := earlyFragmentFrom_take found
  rw [List.nil_append] at taken
  have visible : isSpaceUnit comma = false := by decide
  rw [isBlank_trimUnits, taken, isBlank, List.all_append, List.all_cons, visible, Bool.false_and,
    Bool.and_false]

variable {splitter : PhraseSplitter}

theorem push_lossless (text : List CodeUnit) (early : Bool) :
    withoutSpace (splitter.push text early).1.flatten ++
        withoutSpace (splitter.push text early).2.pending =
      withoutSpace (splitter.pending ++ text) := by
  have whole := phraseBoundary.flatten_cut (splitter.pending ++ text)
  rw [push]
  split
  · next starts =>
      have none : withoutSpace (phraseBoundary.cut (splitter.pending ++ text)).1.flatten = [] := by
        rw [← withoutSpace_phrases, starts.1]
        rfl
      split
      · rw [List.flatten_singleton, withoutSpace_trimUnits, ← withoutSpace_append,
          List.take_append_drop, ← whole, withoutSpace_append, none, List.nil_append, whole]
      · rw [← whole, withoutSpace_append, none, whole]
        rfl
  · rw [withoutSpace_phrases, ← withoutSpace_append, whole]

theorem push_visible {text : List CodeUnit} {early : Bool}
    (isPhrase : phrase ∈ (splitter.push text early).1) : isBlank phrase = false := by
  rw [push] at isPhrase
  split at isPhrase
  · split at isPhrase
    · next found =>
        rw [List.mem_singleton.1 isPhrase]
        exact not_isBlank_early found
    · cases isPhrase
  · exact not_isBlank_of_mem isPhrase

theorem pushAll_lossless (pushes : List (List CodeUnit × Bool)) :
    withoutSpace (splitter.pushAll pushes).1.flatten ++
        withoutSpace (splitter.pushAll pushes).2.pending =
      withoutSpace (splitter.pending ++ (pushes.map Prod.fst).flatten) := by
  induction pushes generalizing splitter with
  | nil =>
    rw [List.map_nil, List.flatten_nil, List.append_nil]
    rfl
  | cons next rest ih =>
    rw [List.map_cons, List.flatten_cons, pushAll, List.flatten_append, withoutSpace_append,
      List.append_assoc, ih, withoutSpace_append, ← List.append_assoc, push_lossless,
      ← withoutSpace_append, List.append_assoc]

variable {pushes : List (List CodeUnit × Bool)}

theorem pushAll_visible (isPhrase : phrase ∈ (splitter.pushAll pushes).1) :
    isBlank phrase = false := by
  induction pushes generalizing splitter with
  | nil => cases isPhrase
  | cons next rest ih =>
    exact (List.mem_append.1 isPhrase).elim push_visible ih

omit [LetterProperty] in
theorem flush_lossless :
    withoutSpace splitter.flush.1.toList.flatten = withoutSpace splitter.pending := by
  rw [flush]
  dsimp only
  split
  · next empty => exact (withoutSpace_eq_nil.2 (trimUnits_eq_nil.1 empty)).symm
  · rw [Option.toList_some, List.flatten_singleton, withoutSpace_trimUnits]

omit [LetterProperty] in
theorem flush_visible (isPhrase : phrase ∈ splitter.flush.1) : isBlank phrase = false := by
  rw [flush] at isPhrase
  dsimp only at isPhrase
  split at isPhrase
  · cases isPhrase
  · next visible =>
      rw [← Option.some.inj isPhrase, Bool.eq_false_iff, isBlank_trimUnits]
      exact fun blank => visible (trimUnits_eq_nil.2 blank)

/-- The phrases of a whole text, and what waits after them. -/
def whole (text : List CodeUnit) : List (List CodeUnit) × List CodeUnit :=
  (((phraseBoundary.cut text).1.map trimUnits).filter (· ≠ []), (phraseBoundary.cut text).2)

theorem push_late (splitter : PhraseSplitter) (text : List CodeUnit) :
    ((splitter.push text false).1, (splitter.push text false).2.pending) =
      whole (splitter.pending ++ text) := by
  rw [push]
  rw [if_neg (by simp)]
  rfl

omit [LetterProperty] in
theorem whole_append (text later : List CodeUnit) : whole (text ++ later) =
      ((whole text).1 ++ (whole ((whole text).2 ++ later)).1,
        (whole ((whole text).2 ++ later)).2) := by
  rw [whole, phraseBoundary.cut_append, List.map_append, List.filter_append]
  rfl

theorem pushAll_late (late : ∀ push ∈ pushes, push.2 = false) {before : List CodeUnit}
    (waits : splitter.pending = (whole before).2) :
    ((whole before).1 ++ (splitter.pushAll pushes).1, (splitter.pushAll pushes).2.pending) =
      whole (before ++ (pushes.map Prod.fst).flatten) := by
  induction pushes generalizing splitter before with
  | nil =>
    rw [List.map_nil, List.flatten_nil, List.append_nil, pushAll, List.append_nil, waits]
  | cons next rest ih =>
    obtain ⟨text, early⟩ := next
    rw [List.forall_mem_cons] at late
    obtain rfl : early = false := late.1
    have pushed := push_late splitter text
    rw [waits] at pushed
    have step := whole_append before text
    rw [← pushed] at step
    have waitsLater : (splitter.push text false).2.pending = (whole (before ++ text)).2 := by
      rw [step]
    rw [List.map_cons, List.flatten_cons, ← List.append_assoc, ← ih late.2 waitsLater, pushAll,
      ← List.append_assoc, step]

theorem speak_late (late : ∀ push ∈ pushes, push.2 = false) : speak pushes =
      (whole (pushes.map Prod.fst).flatten).1 ++
        (flush { initial with pending := (whole (pushes.map Prod.fst).flatten).2 }).1.toList := by
  have start : whole [] = ([], []) := by
    rw [whole, Framing.Cutter.cut_of_none rfl]
    rfl
  have waits : initial.pending = (whole []).2 := by
    rw [start]
    rfl
  have pushed := pushAll_late late waits
  rw [start, List.nil_append, List.nil_append] at pushed
  rw [← pushed]
  rfl

/-- The phrases hold the text in order up to white space, none of them is blank, and unless a
push may be early they do not depend on where the pushes end. -/
theorem speak_lossless (pushes : List (List CodeUnit × Bool)) :
    withoutSpace (speak pushes).flatten = withoutSpace (pushes.map Prod.fst).flatten ∧
      (∀ phrase ∈ speak pushes, isBlank phrase = false) ∧
      ∀ others : List (List CodeUnit × Bool), (∀ push ∈ pushes, push.2 = false) →
        (∀ push ∈ others, push.2 = false) →
        (others.map Prod.fst).flatten = (pushes.map Prod.fst).flatten →
        speak others = speak pushes := by
  refine ⟨?_, ?_, ?_⟩
  · rw [speak, List.flatten_append, withoutSpace_append, flush_lossless, pushAll_lossless]
    rfl
  · intro phrase isPhrase
    rcases List.mem_append.1 isPhrase with pushed | flushed
    · exact pushAll_visible pushed
    · exact flush_visible (Option.mem_toList.1 flushed)
  · intro others late lateOthers same
    rw [speak_late late, speak_late lateOthers, same]

end PhraseSplitter

section

@[reducible] def LetterProperty.capitals : LetterProperty where
  isLetter point := 0x41 ≤ point && point ≤ 0x5A

/-- “O. K”, in three pushes or in one. -/
theorem speak_lossless_pair :
    @PhraseSplitter.speak .capitals [([0x4F], false), ([0x2E], false), ([0x20, 0x4B], false)] =
      @PhraseSplitter.speak .capitals [([0x4F, 0x2E, 0x20, 0x4B], false)] :=
  (@PhraseSplitter.speak_lossless .capitals [([0x4F, 0x2E, 0x20, 0x4B], false)]).2.2
    [([0x4F], false), ([0x2E], false), ([0x20, 0x4B], false)] (by decide) (by decide) rfl

end

end Sokar
