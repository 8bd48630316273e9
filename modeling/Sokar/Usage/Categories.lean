import Mathlib.Data.List.Sort
import Sokar.Shared.IsoDates
import Sokar.Shared.JsonText
import Sokar.Shared.Inputs

/-!
# Usage categories and CSV records

What the two imports of the usage ledger share: the categories of usage, the texts of raw cells
and the records of a CSV file.
-/

namespace Sokar

inductive UsageCategory where
  | TELEPHONY_SECONDS | STT_SECONDS | TTS_CHARACTERS | LLM_INPUT_TOKENS | LLM_OUTPUT_TOKENS
  | SMS_SEGMENTS | WHATSAPP_MESSAGES | EMAIL_MESSAGES | RECORDING_BYTE_DAYS
  deriving DecidableEq

namespace UsageCategory

def name : UsageCategory → String
  | TELEPHONY_SECONDS => "TELEPHONY_SECONDS"
  | STT_SECONDS => "STT_SECONDS"
  | TTS_CHARACTERS => "TTS_CHARACTERS"
  | LLM_INPUT_TOKENS => "LLM_INPUT_TOKENS"
  | LLM_OUTPUT_TOKENS => "LLM_OUTPUT_TOKENS"
  | SMS_SEGMENTS => "SMS_SEGMENTS"
  | WHATSAPP_MESSAGES => "WHATSAPP_MESSAGES"
  | EMAIL_MESSAGES => "EMAIL_MESSAGES"
  | RECORDING_BYTE_DAYS => "RECORDING_BYTE_DAYS"

end UsageCategory

def USAGE_CATEGORIES : List UsageCategory :=
  [.TELEPHONY_SECONDS, .STT_SECONDS, .TTS_CHARACTERS, .LLM_INPUT_TOKENS, .LLM_OUTPUT_TOKENS,
    .SMS_SEGMENTS, .WHATSAPP_MESSAGES, .EMAIL_MESSAGES, .RECORDING_BYTE_DAYS]

def usageCategory? (text : String) : Option UsageCategory :=
  USAGE_CATEGORIES.find? fun category => category.name == text

section

variable (category : UsageCategory)

theorem usageCategory?_name : usageCategory? category.name = some category := by
  cases category <;> decide

theorem isAscii_name : isAscii category.name := by
  cases category <;> decide

theorem asciiUpperCase_name : asciiUpperCase category.name = category.name := by
  cases category <;> decide

theorem bar_notMem_name : '|' ∉ category.name.toList := by
  cases category <;> decide

end

mutual

/-- `String(value)`, where an array joins its elements with commas. -/
def stringOf : JsonValue → String
  | .null => "null"
  | .bool true => "true"
  | .bool false => "false"
  | .number text => text
  | .string value => value
  | .array [] => ""
  | .array (element :: rest) => joinText element ++ joinRest rest
  | .object _ => "[object Object]"

def joinText : JsonValue → String
  | .null => ""
  | .bool true => "true"
  | .bool false => "false"
  | .number text => text
  | .string value => value
  | .array [] => ""
  | .array (element :: rest) => joinText element ++ joinRest rest
  | .object _ => "[object Object]"

def joinRest : List JsonValue → String
  | [] => ""
  | element :: rest => "," ++ joinText element ++ joinRest rest

end

/-- The trimmed text of a raw cell: `String(value ?? '').trim()`. -/
def rawText : JsonValue → String
  | .null => ""
  | value => trim (stringOf value)

@[simp] theorem rawText_string (text : String) : rawText (.string text) = trim text := by
  rw [rawText, stringOf]
  exact fun none => by cases none

section

/-- Where the reader of a CSV text stands. -/
structure CsvState where
  records : List (List String)
  record : List String
  field : List Char
  quoted : Bool

namespace CsvState

def start : CsvState :=
  ⟨[], [], [], false⟩

/-- A record in which every value is blank is left out. -/
def keepRecord (records : List (List String)) (record : List String) : List (List String) :=
  if record.any (fun value => trim value != "") then records ++ [record] else records

def endField (state : CsvState) : CsvState :=
  { state with record := state.record ++ [String.ofList state.field], field := [] }

def endRecord (state : CsvState) : CsvState :=
  { state.endField with
    records := keepRecord state.records state.endField.record
    record := [] }

def addChar (char : Char) (state : CsvState) : CsvState :=
  { state with field := state.field ++ [char] }

end CsvState

/-- The loop of `parseCsvRecords` over the characters of the text. -/
def readCsv (state : CsvState) : List Char → CsvState
  | [] => state
  | char :: rest =>
    if state.quoted then
      if char = '"' then
        match rest with
        | '"' :: rest => readCsv (state.addChar '"') rest
        | rest => readCsv { state with quoted := false } rest
      else readCsv (state.addChar char) rest
    else if char = '"' ∧ state.field = [] then readCsv { state with quoted := true } rest
    else if char = ',' then readCsv state.endField rest
    else if char = '\n' then readCsv state.endRecord rest
    else if char = '\r' then
      match rest with
      | '\n' :: rest => readCsv state.endRecord rest
      | rest => readCsv state.endRecord rest
    else readCsv (state.addChar char) rest

/-- The records of a CSV text; none where a quote is left open. -/
def parseCsvRecords (input : String) : Option (List (List String)) :=
  let state := readCsv .start input.toList
  if state.quoted then none
  else if state.field ≠ [] ∨ state.record ≠ [] then some state.endRecord.records
  else some state.records

example : parseCsvRecords "a,\"b,\"\"c\"\r\n,\nd" = some [["a", "b,\"c"], ["d"]] := by
  decide +kernel

end

section

/-- The digits before and after the point of a text that matches `/^\d+(?:\.\d+)?$/`. -/
def decimalParts (raw : String) : Option (List Char × List Char) :=
  match raw.toList.span Char.isDigit with
  | ([], _) => none
  | (whole, []) => some (whole, [])
  | (whole, '.' :: fraction) =>
    if fraction = [] || !fraction.all Char.isDigit then none else some (whole, fraction)
  | _ => none

/-- The amount in units of the last decimal kept: `new Decimal(raw).toFixed(scale)` for a text
with no more decimals than that. -/
def scaledDigits (scale : Nat) (parts : List Char × List Char) : Nat :=
  numberOf (parts.1 ++ (parts.2 ++ List.replicate scale '0').take scale)

example : (decimalParts "10.075").map (scaledDigits 6) = some 10075000 := by decide +kernel

end

/-- Every two entries of a list, the earlier first, in the order of two nested loops. -/
def orderedPairs {α : Type} : List α → List (α × α)
  | [] => []
  | first :: rest => rest.map (first, ·) ++ orderedPairs rest

theorem forall_orderedPairs {α : Type} {relation : α → α → Prop} {items : List α} :
    (∀ pair ∈ orderedPairs items, relation pair.1 pair.2) ↔ items.Pairwise relation := by
  induction items with
  | nil => simp [orderedPairs]
  | cons first rest ih =>
    rw [orderedPairs, List.forall_mem_append, ih, List.pairwise_cons]
    simp

section

variable {ε α β : Type} {read : α → Except ε β} {items : List α} {results : List β}

theorem mapM_ok : items.mapM read = .ok results ↔
      List.Forall₂ (fun item result => read item = .ok result) items results := by
  induction items generalizing results with
  | nil => cases results <;> simp [pure, Except.pure]
  | cons item rest ih =>
    rw [List.mapM_cons]
    constructor
    · intro ran
      obtain ⟨result, here, ran⟩ := ok_of_bind ran
      obtain ⟨others, there, ran⟩ := ok_of_bind ran
      cases ran
      exact .cons here (ih.1 there)
    · intro each
      cases each with
      | cons here there =>
        rw [here, ih.2 there]
        rfl

theorem read_of_mem (ran : items.mapM read = .ok results) {result : β} (listed : result ∈ results) :
    ∃ item ∈ items, read item = .ok result := by
  have each := mapM_ok.1 ran
  clear ran
  induction each with
  | nil => cases listed
  | cons here _ ih =>
    rcases List.mem_cons.1 listed with rfl | later
    · exact ⟨_, List.mem_cons_self, here⟩
    · obtain ⟨item, found, there⟩ := ih later
      exact ⟨item, List.mem_cons_of_mem _ found, there⟩

end

end Sokar
