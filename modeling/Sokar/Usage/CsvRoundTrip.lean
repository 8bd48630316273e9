import Sokar.Usage.TelnyxRows

/-!
# Records through CSV

A record written cell by cell is read back as it was, whatever its cells hold: the writer puts every
cell in quotes and doubles the quotes inside, and the reader ends a cell at a quote that no
other follows.
-/

namespace Sokar.UsageReconciliation

section

/-- The characters of a quoted cell between its quotes. -/
def quotedChars (text : List Char) : List Char :=
  text.flatMap fun char => if char = '"' then ['"', '"'] else [char]

variable {rest : List Char} {state : CsvState}

/-- A quote that no other follows ends the quoted part. -/
theorem readCsv_close (closed : rest.head? ≠ some '"') (quoted : state.quoted = true) :
    readCsv state ('"' :: rest) = readCsv { state with quoted := false } rest := by
  cases rest with
  | nil => simp [readCsv, quoted]
  | cons char rest =>
    have other : char ≠ '"' := by simpa using closed
    conv_lhs => unfold readCsv
    simp [quoted, other]

theorem readCsv_quote (quoted : state.quoted = true) :
    readCsv state ('"' :: '"' :: rest) = readCsv (state.addChar '"') rest := by
  conv_lhs => unfold readCsv
  simp [quoted]

theorem readCsv_char {char : Char} (other : char ≠ '"') (quoted : state.quoted = true) :
    readCsv state (char :: rest) = readCsv (state.addChar char) rest := by
  conv_lhs => unfold readCsv
  simp [quoted, other]

theorem readCsv_quoted (state : CsvState) (text : List Char) (closed : rest.head? ≠ some '"')
    (quoted : state.quoted = true) :
    readCsv state (quotedChars text ++ '"' :: rest) =
      readCsv { state with field := state.field ++ text, quoted := false } rest := by
  induction text generalizing state with
  | nil =>
    have chars : quotedChars [] ++ '"' :: rest = '"' :: rest := rfl
    rw [chars, readCsv_close closed quoted, List.append_nil]
  | cons char text ih =>
    have kept : (state.addChar char).quoted = true := quoted
    have added : (state.addChar char).field ++ text = state.field ++ char :: text := by
      simp [CsvState.addChar]
    by_cases quote : char = '"'
    · subst quote
      have chars : quotedChars ('"' :: text) ++ '"' :: rest =
          '"' :: '"' :: (quotedChars text ++ '"' :: rest) := rfl
      rw [chars, readCsv_quote quoted, ih _ kept, added]
      rfl
    · have chars : quotedChars (char :: text) ++ '"' :: rest =
          char :: (quotedChars text ++ '"' :: rest) := by
        simp [quotedChars, quote]
      rw [chars, readCsv_char quote quoted, ih _ kept, added]
      rfl

section

variable (records : List (List String)) (record : List String) (text : String)

theorem readCsv_cell (closed : rest.head? ≠ some '"') :
    readCsv ⟨records, record, [], false⟩ ((csvCell text).toList ++ rest) =
      readCsv ⟨records, record, text.toList, false⟩ rest := by
  have chars : (csvCell text).toList ++ rest = '"' :: (quotedChars text.toList ++ '"' :: rest) := by
    simp [csvCell, quotedChars]
  have opened : readCsv ⟨records, record, [], false⟩
        ('"' :: (quotedChars text.toList ++ '"' :: rest)) =
      readCsv ⟨records, record, [], true⟩ (quotedChars text.toList ++ '"' :: rest) := by
    conv_lhs => unfold readCsv
    simp
  rw [chars, opened, readCsv_quoted _ _ closed rfl, List.nil_append]

theorem readCsv_comma (rest : List Char) :
    readCsv ⟨records, record, text.toList, false⟩ (',' :: rest) =
      readCsv ⟨records, record ++ [text], [], false⟩ rest := by
  conv_lhs => unfold readCsv
  simp [CsvState.endField]

theorem readCsv_newline (rest : List Char) :
    readCsv ⟨records, record, text.toList, false⟩ ('\n' :: rest) =
      readCsv ⟨CsvState.keepRecord records (record ++ [text]), [], [], false⟩ rest := by
  conv_lhs => unfold readCsv
  simp [CsvState.endRecord, CsvState.endField]

end

end

/-- The two ways to end a line. -/
inductive CsvNewline where
  | lf
  | crlf

def CsvNewline.text : CsvNewline → String
  | .lf => "\n"
  | .crlf => "\r\n"

def csvRow (values : List String) : String :=
  String.intercalate "," (values.map csvCell)

/-- Records cell by cell, with commas and new lines between them. -/
def csvText (newline : CsvNewline) (records : List (List String)) : String :=
  String.intercalate newline.text (records.map csvRow)

/-- What `parseCsvRecords` makes of the state after the last character. -/
def finished (state : CsvState) : Option (List (List String)) :=
  if state.quoted then none
  else if state.field ≠ [] ∨ state.record ≠ [] then some state.endRecord.records
  else some state.records

section

variable {newline : CsvNewline}

theorem csvRow_cons (value next : String) (values : List String) :
    csvRow (value :: next :: values) = csvCell value ++ "," ++ csvRow (next :: values) :=
  String.intercalate_cons_cons

theorem csvText_cons (record next : List String) (records : List (List String)) :
    csvText newline (record :: next :: records) =
      csvRow record ++ newline.text ++ csvText newline (next :: records) :=
  String.intercalate_cons_cons

theorem readCsv_csvRow (records : List (List String)) (record values : List String)
    (value : String) {rest : List Char} (closed : rest.head? ≠ some '"') :
    readCsv ⟨records, record, [], false⟩ ((csvRow (values ++ [value])).toList ++ rest) =
      readCsv ⟨records, record ++ values, value.toList, false⟩ rest := by
  induction values generalizing record with
  | nil =>
    have single : csvRow ([] ++ [value]) = csvCell value := String.intercalate_singleton
    rw [single, readCsv_cell _ _ _ closed, List.append_nil]
  | cons first values ih =>
    have chars : (csvRow (first :: values ++ [value])).toList ++ rest =
        (csvCell first).toList ++ ',' :: ((csvRow (values ++ [value])).toList ++ rest) := by
      obtain ⟨next, others, more⟩ := List.exists_cons_of_ne_nil
        (List.append_ne_nil_of_right_ne_nil values (List.cons_ne_nil value []))
      rw [List.cons_append, more, csvRow_cons]
      simp
    rw [chars, readCsv_cell _ _ _ (by simp), readCsv_comma, ih, List.append_assoc,
      List.singleton_append]

theorem readCsv_newlineText (newline : CsvNewline) (records : List (List String))
    (record : List String) (text : String) (rest : List Char) :
    readCsv ⟨records, record, text.toList, false⟩ (newline.text.toList ++ rest) =
      readCsv ⟨CsvState.keepRecord records (record ++ [text]), [], [], false⟩ rest := by
  cases newline with
  | lf => exact readCsv_newline records record text rest
  | crlf =>
    show readCsv ⟨records, record, text.toList, false⟩ ('\r' :: '\n' :: rest) = _
    conv_lhs => unfold readCsv
    simp [CsvState.endRecord, CsvState.endField]

theorem finished_last {ending : String} (ends : ending = "" ∨ ending = newline.text)
    (records : List (List String)) (record : List String) (value : String) :
    finished (readCsv ⟨records, record, value.toList, false⟩ ending.toList) =
      some (CsvState.keepRecord records (record ++ [value])) := by
  rcases ends with rfl | rfl
  · show finished ⟨records, record, value.toList, false⟩ = _
    rw [finished, if_neg Bool.false_ne_true]
    split
    · rw [CsvState.endRecord, CsvState.endField, String.ofList_toList]
    · next empty =>
        obtain ⟨noField, noRecord⟩ := not_or.1 empty
        rw [not_not] at noField noRecord
        obtain rfl : value = "" := String.toList_eq_nil_iff.1 noField
        have noRecord : record = [] := noRecord
        rw [noRecord]
        rfl
  · have read := readCsv_newlineText newline records record value []
    rw [List.append_nil] at read
    rw [read]
    rfl

theorem keepRecord_of_shown {record : List String} (shown : ∃ value ∈ record, trim value ≠ "")
    (records : List (List String)) :
    CsvState.keepRecord records record = records ++ [record] := by
  obtain ⟨value, listed, visible⟩ := shown
  rw [CsvState.keepRecord, if_pos]
  exact List.any_eq_true.2 ⟨value, listed, by simpa using visible⟩

theorem finished_csvText {ending : String} (ends : ending = "" ∨ ending = newline.text)
    (before : List (List String)) {records : List (List String)}
    (shown : ∀ record ∈ records, ∃ value ∈ record, trim value ≠ "") :
    finished (readCsv ⟨before, [], [], false⟩ ((csvText newline records ++ ending).toList)) =
      some (before ++ records) := by
  induction records generalizing before with
  | nil =>
    have text : csvText newline [] ++ ending = ending := String.empty_append
    have none : CsvState.keepRecord before ([] ++ [""]) = before := rfl
    rw [text, List.append_nil]
    exact (finished_last ends before [] "").trans (congrArg some none)
  | cons record records ih =>
    have visible := shown record List.mem_cons_self
    obtain ⟨values, value, rfl⟩ : ∃ values value, record = values ++ [value] := by
      obtain ⟨value, listed, -⟩ := visible
      exact ⟨_, _, (List.dropLast_append_getLast (List.ne_nil_of_mem listed)).symm⟩
    cases records with
    | nil =>
      have text : (csvText newline [values ++ [value]] ++ ending).toList =
          (csvRow (values ++ [value])).toList ++ ending.toList := by
        rw [csvText, List.map_singleton, String.intercalate_singleton, String.toList_append]
      have closed : ending.toList.head? ≠ some '"' := by
        rcases ends with rfl | rfl
        · simp
        · cases newline <;> simp [CsvNewline.text]
      rw [text, readCsv_csvRow _ _ _ _ closed, finished_last ends, List.nil_append,
        keepRecord_of_shown visible]
    | cons next records =>
      have text : (csvText newline ((values ++ [value]) :: next :: records) ++ ending).toList =
          (csvRow (values ++ [value])).toList ++ (newline.text.toList ++
              (csvText newline (next :: records) ++ ending).toList) := by
        rw [csvText_cons]
        simp
      have closed (later : List Char) : (newline.text.toList ++ later).head? ≠ some '"' := by
        cases newline <;> simp [CsvNewline.text]
      rw [text, readCsv_csvRow _ _ _ _ (closed _), readCsv_newlineText, List.nil_append,
        keepRecord_of_shown visible,
        ih _ fun record later => shown record (List.mem_cons_of_mem _ later),
        List.append_assoc, List.singleton_append]

theorem join_csvLine (records : List (List String)) (nonempty : records ≠ []) :
    String.join (records.map csvLine) = csvText .lf records ++ CsvNewline.lf.text := by
  induction records with
  | nil => exact absurd rfl nonempty
  | cons record records ih =>
    rw [List.map_cons, String.join_cons]
    cases records with
    | nil =>
      exact String.append_empty
    | cons next records =>
      rw [ih (List.cons_ne_nil next records), csvText_cons, String.append_assoc,
        String.append_assoc, csvLine, String.append_assoc]
      rfl

theorem parseCsvRecords_csvLines {lines : List (List String)}
    (shown : ∀ line ∈ lines, ∃ value ∈ line, trim value ≠ "") :
    parseCsvRecords (String.join (lines.map csvLine)) = some lines := by
  cases lines with
  | nil => rfl
  | cons line lines =>
    rw [join_csvLine _ (List.cons_ne_nil line lines)]
    exact finished_csvText (.inr rfl) [] shown

end

/-- Records that are written, with a new line after the last one or none, are read as they are. -/
theorem parseCsvRecords_csvText (newline : CsvNewline) (records : List (List String))
    (shown : ∀ record ∈ records, ∃ value ∈ record, trim value ≠ "") :
    parseCsvRecords (csvText newline records) = some records ∧
      parseCsvRecords (csvText newline records ++ newline.text) = some records := by
  refine ⟨?_, ?_⟩
  · have read : finished (readCsv .start (csvText newline records ++ "").toList) =
        some ([] ++ records) := finished_csvText (.inl rfl) [] shown
    rw [String.append_empty] at read
    exact read
  · exact finished_csvText (.inr rfl) [] shown

/-- A cell that is a quote, one with a line in it, and a blank one before the end of the text. -/
theorem parseCsvRecords_csvText_quotes :
    parseCsvRecords (csvText .lf [["\"", "a\r\nb,\"c"], ["d", " "]]) =
        some [["\"", "a\r\nb,\"c"], ["d", " "]] ∧
      parseCsvRecords (csvText .lf [["\"", "a\r\nb,\"c"], ["d", " "]] ++ CsvNewline.lf.text) =
        some [["\"", "a\r\nb,\"c"], ["d", " "]] :=
  parseCsvRecords_csvText .lf [["\"", "a\r\nb,\"c"], ["d", " "]] (by decide +kernel)

end Sokar.UsageReconciliation
