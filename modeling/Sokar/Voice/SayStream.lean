import Sokar.Library.JsonSyntax
import Sokar.Shared.Text

/-!
# The spoken text of a turn

The model answers a voice turn with a JSON text that arrives in fragments.  `SayStreamExtractor`
hands out what is to be spoken while the text still comes in: it waits for the name `"say"` with a
string and decodes that string as far as it has come.
-/

namespace Sokar

open JsonGrammar CodeUnit

/-! ## The turn's schema -/

/-- The part of JSON Schema that turns are asked for with; no object has additional properties. -/
inductive JsonSchema where
  | string (enum : Option (List String))
  | boolean (enum : Option (List Bool))
  | integer
  | object (properties : List (String × JsonSchema)) (required : List String)

def STRUCTURED_TURN_INTERPRETATIONS : List String :=
  ["answer", "question", "correction", "affirmation", "decline", "new_request", "end_call",
    "unclear"]

def STRUCTURED_TURN_AWAITING : List String :=
  ["none", "date", "time", "partySize", "customerName", "customerNameConfirmation", "confirmation",
    "confirmationResume", "humanFallback", "open"]

def STRUCTURED_TURN_UNDERSTANDING : List String :=
  ["clear", "doubtful"]

def STRUCTURED_TURN_TONES : List String :=
  ["none", "cheerful", "apologetic", "amused", "reassuring"]

structure TurnSchemaOptions where
  turnCompleteOnly : Bool
  understanding : Bool
  tone : Bool

def draftSchema : JsonSchema :=
  .object [("date", .string none), ("time", .string none), ("partySize", .integer),
    ("customerName", .string none)] ["date", "time", "partySize", "customerName"]

def buildStructuredTurnJsonSchema (actions : List String) (options : TurnSchemaOptions) :
    JsonSchema :=
  let tone := if options.tone then [("tone", JsonSchema.string (some STRUCTURED_TURN_TONES))] else []
  let understanding :=
    if options.understanding then
      [("reading", JsonSchema.string none),
        ("understanding", .string (some STRUCTURED_TURN_UNDERSTANDING))]
    else []
  .object
    (("turnComplete", if options.turnCompleteOnly then .boolean (some [true]) else .boolean none) ::
      (understanding ++
        [("interpretation", .string (some STRUCTURED_TURN_INTERPRETATIONS)),
          ("draft", draftSchema),
          ("awaiting", .string (some STRUCTURED_TURN_AWAITING)),
          ("action", .string (some actions)),
          ("message", .string none),
          ("confidence", .string (some ["high", "medium", "low"]))] ++
        tone ++ [("say", .string none)]))
    ("turnComplete" ::
      ((if options.understanding then ["reading", "understanding"] else []) ++
        ["interpretation", "draft", "awaiting", "action", "message", "confidence"] ++
        (if options.tone then ["tone"] else []) ++ ["say"]))

def isAllowed {α : Type} (enum : Option (List α)) (isValue : α → Bool) : Bool :=
  enum.all fun values => values.any isValue

mutual

def JsonSchema.accepts : JsonSchema → Data → Bool
  | .string enum, .string value => isAllowed enum fun allowed => utf16Units allowed == value
  | .boolean enum, .bool value => isAllowed enum fun allowed => allowed == value
  | .integer, .number value => value.isInt
  | .object properties required, .object data =>
    (required.all fun name => ((Data.object data).property? (utf16Units name)).isSome) &&
      data.all fun entry => acceptsProperty properties entry.1 entry.2
  | _, _ => false

def acceptsProperty : List (String × JsonSchema) → List CodeUnit → Data → Bool
  | [], _, _ => false
  | property :: rest, name, data =>
    if utf16Units property.1 = name then property.2.accepts data
    else acceptsProperty rest name data

end

variable (unit : CodeUnit)

/-- `/\s/`. -/
def isSpaceUnit : Bool :=
  [0x09, 0x0A, 0x0B, 0x0C, 0x0D, 0x20, 0xA0, 0x1680, 0x2028, 0x2029, 0x202F, 0x205F, 0x3000,
    0xFEFF].contains unit || (0x2000 ≤ unit && unit ≤ 0x200A)

/-- `"say"`. -/
def sayName : List CodeUnit :=
  [quote, 0x73, 0x61, 0x79, quote]

variable (text : List CodeUnit)

/-- What follows a match of `/\s*:\s*"/` at the start of the text. -/
def valueOpening? : Option (List CodeUnit) :=
  ((text.dropWhile isSpaceUnit).dropPrefix? [colon]).bind fun rest =>
    (rest.dropWhile isSpaceUnit).dropPrefix? [quote]

/-- What follows a match of `/"say"\s*:\s*"/` at the start of the text. -/
def sayOpening? : Option (List CodeUnit) :=
  (text.dropPrefix? sayName).bind valueOpening?

/-- Where the first match of `/"say"\s*:\s*"/` ends. -/
def sayMatchEnd? : List CodeUnit → Option Nat
  | [] => none
  | unit :: rest =>
    match sayOpening? (unit :: rest) with
    | some after => some ((unit :: rest).length - after.length)
    | none => (sayMatchEnd? rest).map (· + 1)

/-- `ESCAPES[mark] ?? mark`. -/
def escapeText (mark : CodeUnit) : List CodeUnit :=
  if mark = 0x6E ∨ mark = 0x72 ∨ mark = 0x74 then [0x20]
  else if mark = 0x62 ∨ mark = 0x66 then []
  else [mark]

def hexValue? : Option Nat :=
  if 0x30 ≤ unit ∧ unit ≤ 0x39 then some (unit - 0x30)
  else if 0x41 ≤ unit ∧ unit ≤ 0x46 then some (unit - 0x37)
  else if 0x61 ≤ unit ∧ unit ≤ 0x66 then some (unit - 0x57)
  else none

def readHex : Option Nat → List CodeUnit → Option Nat
  | read, [] => read
  | read, unit :: rest =>
    match hexValue? unit with
    | some digit => readHex (some (read.getD 0 * 16 + digit)) rest
    | none => read

/-- `Number.parseInt(text, 16)`. -/
def parseInt16 : Option Int :=
  let text := text.dropWhile isSpaceUnit
  let isNegative := text.head? == some 0x2D
  let text := if isNegative || text.head? == some 0x2B then text.drop 1 else text
  let isMarked := text.take 2 == [0x30, 0x78] || text.take 2 == [0x30, 0x58]
  let digits := if isMarked then text.drop 2 else text
  (readHex none digits).map fun value => if isNegative then -(value : Int) else value

/-- `String.fromCharCode`, with nothing for `NaN`. -/
def fromCharCode : Option Int → CodeUnit
  | some code => (code % 0x10000).toNat
  | none => 0

structure SayStreamExtractor where
  buffer : List CodeUnit
  /-- Nothing for -1. -/
  valueStart : Option Nat
  cursor : Nat
  done : Bool
  pendingEscape : List CodeUnit
  deriving DecidableEq

namespace SayStreamExtractor

def initial : SayStreamExtractor :=
  ⟨[], none, 0, false, []⟩

/-- One turn of the loop, at a code unit of the buffer. -/
def readChar (extractor : SayStreamExtractor) (char : CodeUnit) :
    List CodeUnit × SayStreamExtractor :=
  let next := { extractor with cursor := extractor.cursor + 1 }
  if extractor.pendingEscape ≠ [] then
    let escape := extractor.pendingEscape ++ [char]
    if escape.take 2 = [backslash, 0x75] then
      if escape.length < 6 then ([], { next with pendingEscape := escape })
      else ([fromCharCode (parseInt16 (escape.drop 2))], { next with pendingEscape := [] })
    else ((escape[1]?.map escapeText).getD [], { next with pendingEscape := [] })
  else if char = backslash then ([], { next with pendingEscape := [char] })
  else if char = quote then ([], { next with done := true })
  else ([char], next)

/-- The loop over what is left of the buffer from the cursor on, up to the closing quote. -/
def read (extractor : SayStreamExtractor) : List CodeUnit → List CodeUnit × SayStreamExtractor
  | [] => ([], extractor)
  | char :: rest =>
    let decoded := extractor.readChar char
    if decoded.2.done then decoded
    else
      let later := decoded.2.read rest
      (decoded.1 ++ later.1, later.2)

def push (extractor : SayStreamExtractor) (fragment : List CodeUnit) :
    List CodeUnit × SayStreamExtractor :=
  let extractor := { extractor with buffer := extractor.buffer ++ fragment }
  if extractor.done then ([], extractor)
  else
    match extractor.valueStart with
    | some _ => extractor.read (extractor.buffer.drop extractor.cursor)
    | none =>
      match sayMatchEnd? extractor.buffer with
      | none => ([], extractor)
      | some valueStart =>
        { extractor with valueStart := some valueStart, cursor := valueStart }.read
          (extractor.buffer.drop valueStart)

/-- What is returned for the fragments of a text, one after the other. -/
def pushAll (extractor : SayStreamExtractor) :
    List (List CodeUnit) → List CodeUnit × SayStreamExtractor
  | [] => ([], extractor)
  | fragment :: rest =>
    let pushed := extractor.push fragment
    let later := pushed.2.pushAll rest
    (pushed.1 ++ later.1, later.2)

end SayStreamExtractor

section

variable {text rest more : List CodeUnit}

/-- What `/"say"\s*:\s*"/` matches. -/
def IsSayOpening (opening : List CodeUnit) : Prop :=
  ∃ before after, (∀ unit ∈ before, isSpaceUnit unit) ∧ (∀ unit ∈ after, isSpaceUnit unit) ∧
    opening = sayName ++ (before ++ colon :: (after ++ [quote]))

theorem dropPrefix?_eq_some {start : List CodeUnit} :
    text.dropPrefix? start = some rest ↔ text = start ++ rest := by
  rw [List.dropPrefix?_eq_some_iff]
  constructor
  · rintro ⟨start', rfl, same⟩
    rw [eq_of_beq same]
  · rintro rfl
    exact ⟨start, rfl, beq_self_eq_true start⟩

theorem dropWhile_eq_cons {unit : CodeUnit} (notSpace : isSpaceUnit unit = false) :
    text.dropWhile isSpaceUnit = unit :: rest ↔
      ∃ spaces, (∀ space ∈ spaces, isSpaceUnit space) ∧ text = spaces ++ unit :: rest := by
  constructor
  · intro dropped
    refine ⟨text.takeWhile isSpaceUnit, fun _ => List.mem_takeWhile_imp, ?_⟩
    rw [← dropped, List.takeWhile_append_dropWhile]
  · rintro ⟨spaces, areSpaces, rfl⟩
    rw [List.dropWhile_append_of_pos areSpaces, List.dropWhile_cons_of_neg]
    rw [notSpace]
    exact Bool.false_ne_true

theorem valueOpening?_eq_some : valueOpening? text = some rest ↔
    ∃ before after, (∀ unit ∈ before, isSpaceUnit unit) ∧ (∀ unit ∈ after, isSpaceUnit unit) ∧
      text = before ++ colon :: (after ++ quote :: rest) := by
  have colonNotSpace : isSpaceUnit colon = false := by decide
  have quoteNotSpace : isSpaceUnit quote = false := by decide
  unfold valueOpening?
  simp only [Option.bind_eq_some_iff, dropPrefix?_eq_some, List.singleton_append,
    dropWhile_eq_cons colonNotSpace, dropWhile_eq_cons quoteNotSpace]
  constructor
  · rintro ⟨_, ⟨before, areBefore, rfl⟩, after, areAfter, rfl⟩
    exact ⟨before, after, areBefore, areAfter, rfl⟩
  · rintro ⟨before, after, areBefore, areAfter, rfl⟩
    exact ⟨_, ⟨before, areBefore, rfl⟩, after, areAfter, rfl⟩

theorem sayOpening?_eq_some : sayOpening? text = some rest ↔
    ∃ opening, IsSayOpening opening ∧ text = opening ++ rest := by
  unfold sayOpening?
  simp only [Option.bind_eq_some_iff, dropPrefix?_eq_some, valueOpening?_eq_some]
  constructor
  · rintro ⟨_, rfl, before, after, areBefore, areAfter, rfl⟩
    exact ⟨_, ⟨before, after, areBefore, areAfter, rfl⟩, by simp⟩
  · rintro ⟨_, ⟨before, after, areBefore, areAfter, rfl⟩, rfl⟩
    exact ⟨_, List.append_assoc .., before, after, areBefore, areAfter, by simp⟩

theorem sayOpening?_append (opens : sayOpening? text = some rest) :
    sayOpening? (text ++ more) = some (rest ++ more) := by
  obtain ⟨opening, isOpening, rfl⟩ := sayOpening?_eq_some.1 opens
  exact sayOpening?_eq_some.2 ⟨opening, isOpening, List.append_assoc ..⟩

theorem IsSayOpening.count_quote {opening : List CodeUnit} (isOpening : IsSayOpening opening) :
    opening.count quote = 3 := by
  obtain ⟨before, after, areBefore, areAfter, rfl⟩ := isOpening
  have none : ∀ spaces : List CodeUnit, (∀ unit ∈ spaces, isSpaceUnit unit) →
      spaces.count quote = 0 := by
    intro spaces areSpaces
    refine List.count_eq_zero.2 fun isUnit => ?_
    exact absurd (areSpaces _ isUnit) (by decide)
  have name : sayName.count quote = 2 := by decide
  have notColon : colon ≠ quote := by decide
  simp only [List.count_append, List.count_cons_of_ne notColon, name, none before areBefore,
    none after areAfter, List.count_singleton_self]

theorem sayMatchEnd?_cons : sayMatchEnd? (unit :: text) = match sayOpening? (unit :: text) with
      | some after => some ((unit :: text).length - after.length)
      | none => (sayMatchEnd? text).map (· + 1) := rfl

section

variable {last : Nat} (isMatch : sayMatchEnd? text = some last)
include isMatch

theorem count_quote_of_match : 3 ≤ text.count quote := by
  induction text generalizing last with
  | nil => cases isMatch
  | cons unit text ih =>
    rw [sayMatchEnd?_cons] at isMatch
    split at isMatch
    next after opens =>
      obtain ⟨opening, isOpening, same⟩ := sayOpening?_eq_some.1 opens
      rw [same, List.count_append, isOpening.count_quote]
      exact Nat.le_add_right ..
    next =>
      obtain ⟨earlier, isMatch, -⟩ := Option.map_eq_some_iff.1 isMatch
      exact (ih isMatch).trans List.count_le_count_cons

/-- What is matched stays so when more of the text comes in. A match that begins earlier and ends
later would hold the three quotes of this one besides the one it begins with. -/
theorem sayMatchEnd?_append : sayMatchEnd? (text ++ more) = some last := by
  induction text generalizing last with
  | nil => cases isMatch
  | cons unit text ih =>
    rw [List.cons_append, sayMatchEnd?_cons, ← List.cons_append]
    rw [sayMatchEnd?_cons] at isMatch
    cases opens : sayOpening? (unit :: text) with
    | some after =>
      rw [opens] at isMatch
      rw [sayOpening?_append opens, ← isMatch]
      simp only [List.length_append]
      rw [Nat.add_sub_add_right]
    | none =>
      rw [opens] at isMatch
      obtain ⟨earlier, matchEarlier, rfl⟩ := Option.map_eq_some_iff.1 isMatch
      have none : sayOpening? (unit :: text ++ more) = none := by
        refine Option.eq_none_iff_forall_ne_some.2 fun after opensLater => ?_
        obtain ⟨opening, isOpening, same⟩ := sayOpening?_eq_some.1 opensLater
        have starts : unit :: text <+: unit :: text ++ more := List.prefix_append ..
        have startsLater : opening <+: unit :: text ++ more := same ▸ List.prefix_append ..
        rcases List.prefix_or_prefix_of_prefix starts startsLater with short | ⟨rest, inText⟩
        · have isQuote : unit = quote := by
            obtain ⟨_, _, -, -, rfl⟩ := isOpening
            exact (List.cons.inj same).1
          have few := short.sublist.count_le quote
          rw [isOpening.count_quote, isQuote, List.count_cons_self] at few
          exact absurd (count_quote_of_match matchEarlier) (by omega)
        · have opensHere := sayOpening?_eq_some.2 ⟨opening, isOpening, inText.symm⟩
          cases opens.symm.trans opensHere
      rw [none, ih matchEarlier]
      rfl

theorem sayMatchEnd?_le : last ≤ text.length := by
  induction text generalizing last with
  | nil => cases isMatch
  | cons unit text ih =>
    rw [sayMatchEnd?_cons] at isMatch
    split at isMatch
    next => exact Option.some.inj isMatch ▸ Nat.sub_le ..
    next =>
      obtain ⟨earlier, matchEarlier, rfl⟩ := Option.map_eq_some_iff.1 isMatch
      exact Nat.succ_le_succ (ih matchEarlier)

end

end

namespace SayStreamExtractor

variable {extractor : SayStreamExtractor}

theorem read_cons (char : CodeUnit) (rest : List CodeUnit) : extractor.read (char :: rest) =
    if (extractor.readChar char).2.done then extractor.readChar char
    else ((extractor.readChar char).1 ++ ((extractor.readChar char).2.read rest).1,
      ((extractor.readChar char).2.read rest).2) := rfl

theorem readChar_buffer (buffer : List CodeUnit) (char : CodeUnit) :
    { extractor with buffer }.readChar char =
      ((extractor.readChar char).1, { (extractor.readChar char).2 with buffer }) := by
  unfold readChar
  dsimp only
  split_ifs <;> rfl

/-- The loop does not look at the buffer. -/
theorem read_buffer (extractor : SayStreamExtractor) (buffer text : List CodeUnit) :
    { extractor with buffer }.read text =
      ((extractor.read text).1, { (extractor.read text).2 with buffer }) := by
  induction text generalizing extractor with
  | nil => rfl
  | cons char rest ih =>
    rw [read_cons, read_cons, readChar_buffer]
    rw [ih]
    split <;> rfl

theorem readChar_kept (char : CodeUnit) : (extractor.readChar char).2.buffer = extractor.buffer ∧
      (extractor.readChar char).2.valueStart = extractor.valueStart ∧
        (extractor.readChar char).2.cursor = extractor.cursor + 1 := by
  unfold readChar
  dsimp only
  split_ifs <;> exact ⟨rfl, rfl, rfl⟩

/-- A loop that goes on comes to the end of the buffer. -/
theorem read_kept : (extractor.read text).2.buffer = extractor.buffer ∧
      (extractor.read text).2.valueStart = extractor.valueStart ∧
        ((extractor.read text).2.done = false →
          (extractor.read text).2.cursor = extractor.cursor + text.length) := by
  induction text generalizing extractor with
  | nil => exact ⟨rfl, rfl, fun _ => rfl⟩
  | cons char rest ih =>
    obtain ⟨buffer, valueStart, cursor⟩ := extractor.readChar_kept char
    rw [read_cons]
    split
    next isDone =>
      refine ⟨buffer, valueStart, fun notDone => ?_⟩
      cases isDone.symm.trans notDone
    next =>
      obtain ⟨bufferLater, valueStartLater, cursorLater⟩ :=
        @ih (extractor.readChar char).2
      refine ⟨bufferLater.trans buffer, valueStartLater.trans valueStart, fun notDone => ?_⟩
      rw [cursorLater notDone, cursor, List.length_cons, Nat.add_assoc, Nat.add_comm 1]

/-- The loop goes on where it stopped for want of more. -/
theorem read_append (goesOn : extractor.done = false) (text more : List CodeUnit) :
    extractor.read (text ++ more) = if (extractor.read text).2.done then extractor.read text
      else ((extractor.read text).1 ++ ((extractor.read text).2.read more).1,
        ((extractor.read text).2.read more).2) := by
  induction text generalizing extractor with
  | nil => simp [read, goesOn]
  | cons char rest ih =>
    rw [List.cons_append, read_cons, read_cons]
    cases isDone : (extractor.readChar char).2.done with
    | true => simp [isDone]
    | false =>
      rw [if_neg Bool.false_ne_true, if_neg Bool.false_ne_true, ih isDone]
      split
      · rfl
      · simp

theorem push_initial : initial.push text = match sayMatchEnd? text with
    | none => ([], { initial with buffer := text })
    | some start =>
      { initial with buffer := text, valueStart := some start, cursor := start }.read
        (text.drop start) := rfl

/-- The rest of a text goes on from what its beginning has left. -/
theorem push_append (text more : List CodeUnit) : initial.push (text ++ more) =
      ((initial.push text).1 ++ ((initial.push text).2.push more).1,
        ((initial.push text).2.push more).2) := by
  rw [push_initial text]
  cases opens : sayMatchEnd? text with
  | none => rfl
  | some start =>
    have inText := sayMatchEnd?_le opens
    rw [push_initial, sayMatchEnd?_append opens]
    dsimp only
    -- what has been read so far, and how the loop goes on in the longer buffer
    generalize reading : { initial with
      buffer := text, valueStart := some start, cursor := start } = reader
    have longer : { initial with
        buffer := text ++ more, valueStart := some start, cursor := start } =
          { reader with buffer := text ++ more } := by rw [← reading]
    have goesOn : reader.done = false := by rw [← reading]; rfl
    obtain ⟨buffer, valueStart, cursor⟩ := reader.read_kept (text.drop start)
    rw [longer, read_buffer, List.drop_append_of_le_length inText, read_append goesOn]
    generalize reader.read (text.drop start) = read at buffer valueStart cursor
    obtain ⟨decoded, ⟨readBuffer, readStart, readCursor, isDone, pending⟩⟩ := read
    have sameBuffer : readBuffer = text := by
      rw [← reading] at buffer
      exact buffer
    have sameStart : readStart = some start := by
      rw [← reading] at valueStart
      exact valueStart
    subst sameBuffer sameStart
    unfold push
    cases isDone with
    | true => simp
    | false =>
      have atEnd : readCursor = readBuffer.length := by
        rw [← reading, List.length_drop] at cursor
        exact (cursor rfl).trans (Nat.add_sub_cancel' inText)
      subst atEnd
      have later := read_buffer ⟨readBuffer, some start, readBuffer.length, false, pending⟩
        (readBuffer ++ more) more
      simp [later]

/-- However the text is cut, what is returned for its fragments is what is returned for all of
it. -/
theorem pushAll_flatten (fragments : List (List CodeUnit)) :
    (initial.pushAll fragments).1 = (initial.push fragments.flatten).1 := by
  have goesOn : ∀ text, (initial.push text).1 ++ ((initial.push text).2.pushAll fragments).1 =
      (initial.push (text ++ fragments.flatten)).1 := by
    induction fragments with
    | nil => simp [pushAll]
    | cons fragment rest ih =>
      intro text
      rw [List.flatten_cons, ← List.append_assoc, ← ih, push_append]
      simp [pushAll]
  exact goesOn []

end SayStreamExtractor

end Sokar
