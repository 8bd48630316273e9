import Sokar.Library.Scanning
import Sokar.Library.Trimming
import Sokar.Shared.IsoDates
import Sokar.Voice.CallFinalization

/-!
# Redaction of debug logs

`redactPii` sets the dates of a text aside, each for a mark with its number, replaces what looks
like a telephone number or an e-mail address, and puts the dates back.  In a text without marks what
stands between the dates is then masked part by part.
-/

namespace Sokar

open Scanning

/-- `[\d\s().-]` -/
def isNumberPart (char : Char) : Bool :=
  char.isDigit || isTrimmedChar char || ['(', ')', '.', '-'].contains char

/-- How long `\d[\d\s().-]{8,}\d` matches; the match ends at the last digit there is. -/
def phoneDigits? : List Char → Option Nat
  | [] => none
  | first :: rest =>
    let body := (rest.takeWhile isNumberPart).rdropWhile (!·.isDigit)
    if first.isDigit ∧ 9 ≤ body.length then some (1 + body.length) else none

theorem phoneDigits?_some {text : List Char} {length : Nat}
    (matched : phoneDigits? text = some length) : 10 ≤ length ∧ length ≤ text.length := by
  cases text with
  | nil => cases matched
  | cons first rest =>
    rw [phoneDigits?] at matched
    split at matched
    next long =>
      cases matched
      have body := (List.rdropWhile_prefix (!·.isDigit) (rest.takeWhile isNumberPart)).length_le
      have run := (List.takeWhile_prefix isNumberPart (l := rest)).length_le
      rw [List.length_cons]
      omega
    · cases matched

/-- `/\+?\d[\d\s().-]{8,}\d/g` -/
def PHONE_REGEX : Matcher Char where
  match? _ text :=
    if text.head? = some '+' then (phoneDigits? text.tail).map (1 + ·) else phoneDigits? text
  positive := by
    intro _ text length matched
    split at matched
    · obtain ⟨digits, -, rfl⟩ := Option.map_eq_some_iff.1 matched
      omega
    · have bounds := phoneDigits?_some matched
      omega
  fits := by
    intro _ text length matched
    split at matched
    · obtain ⟨digits, found, rfl⟩ := Option.map_eq_some_iff.1 matched
      have bounds := phoneDigits?_some found
      rw [List.length_tail] at bounds
      omega
    · exact (phoneDigits?_some matched).2

/-- What a pattern without choices asks of each place. -/
theorem PlainPattern.startsAt_iff {pattern : List (Char → Bool)} {text : List Char} :
    PlainPattern.startsAt pattern text = true ↔
      ∀ (index : Nat) (accepts : Char → Bool), pattern[index]? = some accepts →
        ∃ char, text[index]? = some char ∧ accepts char = true := by
  induction pattern generalizing text with
  | nil => simp [startsAt]
  | cons accepts pattern ih =>
    cases text with
    | nil =>
      refine ⟨fun starts => (by cases starts), fun accepted => ?_⟩
      obtain ⟨char, found, -⟩ := accepted 0 accepts rfl
      cases found
    | cons char text =>
      rw [startsAt, Bool.and_eq_true, ih]
      constructor
      · rintro ⟨first, others⟩ index accepts' isPlace
        cases index with
        | zero =>
          cases isPlace
          exact ⟨char, rfl, first⟩
        | succ index => exact others index accepts' isPlace
      · intro accepted
        refine ⟨?_, fun index accepts' isPlace => accepted (index + 1) accepts' isPlace⟩
        obtain ⟨first, isFirst, fits⟩ := accepted 0 accepts rfl
        cases isFirst
        exact fits

theorem PlainPattern.length_le {pattern : List (Char → Bool)} {text : List Char}
    (starts : PlainPattern.startsAt pattern text = true) : pattern.length ≤ text.length := by
  cases long : pattern.length with
  | zero => exact Nat.zero_le _
  | succ last =>
    have isPlace : last < pattern.length := by omega
    obtain ⟨char, found, -⟩ :=
      startsAt_iff.1 starts last pattern[last] (List.getElem?_eq_getElem isPlace)
    exact (List.getElem?_eq_some_iff.1 found).1

/-- `\d{4}-\d{2}-\d{2}` -/
def datePattern : PlainPattern :=
  List.replicate 4 Char.isDigit ++ (· == '-') :: List.replicate 2 Char.isDigit ++
    (· == '-') :: List.replicate 2 Char.isDigit

/-- `/(?<!\d)\d{4}-\d{2}-\d{2}(?!\d)/g` -/
def ISO_DATE_REGEX : Matcher Char where
  match? before text :=
    if before.any Char.isDigit ∨ (text.drop 10).head?.any Char.isDigit then none
    else if datePattern.startsAt text then some 10
    else none
  positive := by
    intro _ text length matched
    split_ifs at matched
    cases matched
    decide
  fits := by
    intro _ text length matched
    split_ifs at matched with _ starts
    cases matched
    exact PlainPattern.length_le starts

def isLocalChar (char : Char) : Bool :=
  char.isAlphanum || ['.', '_', '%', '+', '-'].contains char

def isDomainChar (char : Char) : Bool :=
  char.isAlphanum || ['.', '-'].contains char

/-- How long `[a-zA-Z0-9.-]*\.[a-zA-Z]{2,}` matches in characters of a domain; the last dot that can
be taken is. -/
def domainEnd : List Char → Option Nat
  | [] => none
  | char :: rest =>
    match domainEnd rest with
    | some length => some (length + 1)
    | none =>
      let label := rest.takeWhile Char.isAlpha
      if char = '.' ∧ 2 ≤ label.length then some (1 + label.length) else none

theorem domainEnd_le {chars : List Char} {length : Nat} (ends : domainEnd chars = some length) :
    length ≤ chars.length := by
  induction chars generalizing length with
  | nil => cases ends
  | cons char rest ih =>
    rw [domainEnd] at ends
    cases later : domainEnd rest with
    | some more =>
      rw [later] at ends
      cases ends
      exact Nat.succ_le_succ (ih later)
    | none =>
      rw [later] at ends
      dsimp only at ends
      split at ends
      · cases ends
        have label := (List.takeWhile_prefix Char.isAlpha (l := rest)).length_le
        rw [List.length_cons]
        omega
      · cases ends

/-- `/[a-zA-Z0-9._%+-]+@[a-zA-Z0-9.-]+\.[a-zA-Z]{2,}/g` -/
def EMAIL_REGEX : Matcher Char where
  match? _ text :=
    let mailbox := text.takeWhile isLocalChar
    match text.drop mailbox.length with
    | '@' :: first :: rest =>
      if mailbox ≠ [] ∧ isDomainChar first then
        (domainEnd (rest.takeWhile isDomainChar)).map (mailbox.length + 2 + ·)
      else none
    | _ => none
  positive := by
    intro _ text length matched
    dsimp only at matched
    split at matched
    · split at matched
      · obtain ⟨ending, -, rfl⟩ := Option.map_eq_some_iff.1 matched
        omega
      · cases matched
    · cases matched
  fits := by
    intro _ text length matched
    dsimp only at matched
    split at matched
    next first rest dropped =>
      split at matched
      · obtain ⟨ending, ends, rfl⟩ := Option.map_eq_some_iff.1 matched
        have run := (List.takeWhile_prefix isDomainChar (l := rest)).length_le
        have within := domainEnd_le ends
        have whole := congrArg List.length dropped
        rw [List.length_drop, List.length_cons, List.length_cons] at whole
        omega
      · cases matched
    · cases matched

/-- U+E000 and U+E001, around the number of a date that is set aside. -/
def SHELTER_START : Char := '\uE000'

def SHELTER_END : Char := '\uE001'

/-- `/\uE000(\d+)\uE001/g` -/
def SHELTER_REGEX : Matcher Char where
  match? _ text :=
    match text with
    | [] => none
    | first :: rest =>
      let index := rest.takeWhile Char.isDigit
      if first = SHELTER_START ∧ index ≠ [] ∧
          (rest.drop index.length).head? = some SHELTER_END then
        some (index.length + 2)
      else none
  positive := by
    intro _ text length matched
    dsimp only at matched
    split at matched
    · cases matched
    · split at matched
      · cases matched
        omega
      · cases matched
  fits := by
    intro _ text length matched
    dsimp only at matched
    split at matched
    · cases matched
    next first rest =>
      split at matched
      next shelters =>
        cases matched
        obtain ⟨-, -, ends⟩ := shelters
        have nonempty : 0 < (rest.drop (rest.takeWhile Char.isDigit).length).length :=
          List.length_pos_iff.2 fun empty => by rw [empty] at ends; cases ends
        rw [List.length_drop] at nonempty
        rw [List.length_cons]
        omega
      · cases matched

/-- The mark of a date that is set aside. -/
def shelterMark (index : Nat) : List Char :=
  SHELTER_START :: (Nat.toDigits 10 index ++ [SHELTER_END])

def sheltered : (index : Nat) → List (Piece Char) → List Char
  | _, [] => []
  | index, .kept char :: rest => char :: sheltered index rest
  | index, .found _ :: rest => shelterMark index ++ sheltered (index + 1) rest

variable (dates : List (List Char))

/-- The date that a mark stands for; nothing when there is none of the index. -/
def restored (mark : List Char) : List Char :=
  dates[numberOf ((mark.drop 1).dropLast)]?.getD []

variable (text : List Char)

/-- The replacement of numbers and addresses. -/
def masked : List Char :=
  EMAIL_REGEX.replace (fun _ => "[EMAIL]".toList)
    (PHONE_REGEX.replace (fun _ => "[PHONE]".toList) text)

def redactChars : List Char :=
  let pieces := ISO_DATE_REGEX.pieces none 0 text
  let dates := pieces.filterMap Piece.found?
  SHELTER_REGEX.replace (restored dates) (masked (sheltered 0 pieces))

def redactPii (text : String) : String :=
  String.ofList (redactChars text.toList)

section

theorem takeWhile_append_cons {p : Char → Bool} {item : Char} (stops : p item = false)
    (rest later : List Char) : (rest ++ item :: later).takeWhile p = rest.takeWhile p := by
  induction rest with
  | nil => simp [stops]
  | cons char rest ih =>
    cases accepted : p char with
    | false => simp [accepted]
    | true => simp [accepted, ih]

theorem forward_phone : PHONE_REGEX.Forward := fun _ _ => rfl

theorem forward_email : EMAIL_REGEX.Forward := fun _ _ => rfl

theorem forward_shelter : SHELTER_REGEX.Forward := fun _ _ => rfl

variable {item : Char}

theorem phoneDigits?_append (stops : isNumberPart item = false) (rest later : List Char) :
    phoneDigits? (rest ++ item :: later) = phoneDigits? rest := by
  cases rest with
  | nil =>
    have notDigit : item.isDigit = false := by
      rw [isNumberPart, Bool.or_eq_false_iff, Bool.or_eq_false_iff] at stops
      exact stops.1.1
    rw [List.nil_append, phoneDigits?, phoneDigits?, notDigit, if_neg]
    exact fun matched => nomatch matched.1
  | cons first rest =>
    rw [List.cons_append, phoneDigits?, phoneDigits?, takeWhile_append_cons stops]

theorem stops_phone (stops : isNumberPart item = false) (notPlus : item ≠ '+') :
    PHONE_REGEX.Stops item := by
  intro before rest later
  cases rest with
  | nil =>
    have notSign : (item :: later).head? ≠ some '+' := by simpa using notPlus
    exact (if_neg notSign).trans (phoneDigits?_append stops [] later)
  | cons first rest =>
    by_cases sign : first = '+'
    · subst sign
      exact congrArg (Option.map (1 + ·)) (phoneDigits?_append stops rest later)
    · have notSign : ∀ more : List Char, (first :: more).head? ≠ some '+' := by simpa using sign
      refine (if_neg (notSign _)).trans ?_
      exact (phoneDigits?_append stops (first :: rest) later).trans (if_neg (notSign _)).symm

/-- An address does not reach over what is no part of one. -/
theorem stops_email (notLocal : isLocalChar item = false) (notDomain : isDomainChar item = false)
    (notAt : item ≠ '@') : EMAIL_REGEX.Stops item := by
  intro before rest later
  have mailbox := takeWhile_append_cons notLocal rest later
  have short := (List.takeWhile_prefix isLocalChar (l := rest)).length_le
  simp only [EMAIL_REGEX, mailbox, List.drop_append_of_le_length short]
  generalize rest.drop (rest.takeWhile isLocalChar).length = dropped
  match dropped with
  | [] =>
    split
    next atSign => exact absurd (List.cons.inj atSign).1 notAt
    next => rfl
  | ['@'] => simp [notDomain]
  | '@' :: first :: more =>
    simp only [List.cons_append, takeWhile_append_cons notDomain]
  | [char] =>
    by_cases isAt : char = '@'
    · subst isAt
      simp [notDomain]
    · simp [isAt]
  | char :: first :: more =>
    by_cases isAt : char = '@'
    · subst isAt
      simp only [List.cons_append, takeWhile_append_cons notDomain]
    · simp [isAt]

theorem masked_append (stopsPhone : PHONE_REGEX.Stops item) (stopsEmail : EMAIL_REGEX.Stops item)
    (front back : List Char) :
    masked (front ++ item :: back) = masked front ++ item :: masked back := by
  rw [masked, Matcher.replace_append_cons forward_phone stopsPhone,
    Matcher.replace_append_cons forward_email stopsEmail]
  rfl

theorem masked_append_start (front back : List Char) :
    masked (front ++ SHELTER_START :: back) = masked front ++ SHELTER_START :: masked back :=
  masked_append (stops_phone (by decide) (by decide))
    (stops_email (by decide) (by decide) (by decide)) front back

theorem masked_append_end (front back : List Char) :
    masked (front ++ SHELTER_END :: back) = masked front ++ SHELTER_END :: masked back :=
  masked_append (stops_phone (by decide) (by decide))
    (stops_email (by decide) (by decide) (by decide)) front back

variable {text : List Char}

/-- A number is at least ten characters long. -/
theorem phone_of_short (short : text.length < 10) : PHONE_REGEX.match? none text = none := by
  cases matched : PHONE_REGEX.match? none text with
  | none => rfl
  | some length =>
    have fits := PHONE_REGEX.fits matched
    simp only [PHONE_REGEX] at matched
    split at matched
    · obtain ⟨digits, found, rfl⟩ := Option.map_eq_some_iff.1 matched
      have bounds := phoneDigits?_some found
      omega
    · have bounds := phoneDigits?_some matched
      omega

/-- There is an at sign in every address. -/
theorem email_of_absent (absent : '@' ∉ text) : EMAIL_REGEX.match? none text = none := by
  simp only [EMAIL_REGEX]
  split
  next first rest dropped =>
    have isThere : '@' ∈ text.drop (text.takeWhile isLocalChar).length :=
      dropped ▸ List.mem_cons_self
    exact absurd (List.mem_of_mem_drop isThere) absent
  next => rfl

/-- The number of a date is not taken for that of a telephone. -/
theorem masked_digits {digits : List Char} (areDigits : ∀ digit ∈ digits, digit.isDigit = true)
    (short : digits.length < 10) : masked digits = digits := by
  have phone := Matcher.replace_of_none forward_phone
    (fun rest ends => phone_of_short (ends.length_le.trans_lt short)) fun _ => "[PHONE]".toList
  rw [masked, phone]
  refine Matcher.replace_of_none forward_email (fun rest ends => email_of_absent fun isAt => ?_) _
  exact absurd (areDigits '@' (ends.subset isAt)) (by decide)

theorem mem_masked (isLeft : item ∈ masked text) :
    item ∈ text ∨ item ∈ "[PHONE]".toList ∨ item ∈ "[EMAIL]".toList := by
  rcases Matcher.mem_replace isLeft with inner | ⟨-, email⟩
  · rcases Matcher.mem_replace inner with isThere | ⟨-, phone⟩
    · exact .inl isThere
    · exact .inr (.inl phone)
  · exact .inr (.inr email)

theorem start_notMem_masked (absent : SHELTER_START ∉ text) : SHELTER_START ∉ masked text := by
  intro isLeft
  rcases mem_masked isLeft with isThere | phone | email
  · exact absent isThere
  · exact absurd phone (by decide)
  · exact absurd email (by decide)

theorem shelter_of_ne (before : Option Char) {first : Char} (notStart : first ≠ SHELTER_START)
    (rest : List Char) : SHELTER_REGEX.match? before (first :: rest) = none :=
  if_neg fun shelters => notStart shelters.1

theorem restore_unmarked (absent : SHELTER_START ∉ text) :
    SHELTER_REGEX.replace (restored dates) text = text := by
  refine Matcher.replace_of_none forward_shelter (fun rest ends => ?_) _
  cases rest with
  | nil => rfl
  | cons first more =>
    apply shelter_of_ne
    rintro rfl
    exact absent (ends.subset List.mem_cons_self)

/-- The dates come back for their marks, and nothing else changes. -/
theorem restore_mark {front : List Char} (absent : SHELTER_START ∉ front) (index : Nat)
    (later : List Char) :
    SHELTER_REGEX.replace (restored dates) (front ++ (shelterMark index ++ later)) =
      front ++ (dates[index]?.getD [] ++ SHELTER_REGEX.replace (restored dates) later) := by
  have blind : ∀ before rest, rest ≠ [] → rest <:+ front →
      SHELTER_REGEX.match? before (rest ++ (shelterMark index ++ later)) =
        SHELTER_REGEX.match? before rest := by
    intro before rest nonempty ends
    obtain ⟨first, more, rfl⟩ := List.exists_cons_of_ne_nil nonempty
    have notStart : first ≠ SHELTER_START := by
      rintro rfl
      exact absent (ends.subset List.mem_cons_self)
    rw [List.cons_append, shelter_of_ne before notStart, shelter_of_ne before notStart]
  have areDigits : ∀ digit ∈ Nat.toDigits 10 index, digit.isDigit = true :=
    fun digit isDigit => Nat.isDigit_of_mem_toDigits (by decide) (by decide) isDigit
  have run : ((Nat.toDigits 10 index ++ [SHELTER_END]) ++ later).takeWhile Char.isDigit =
      Nat.toDigits 10 index := by
    rw [List.append_assoc, List.singleton_append, takeWhile_append_cons (by decide)]
    exact List.takeWhile_eq_self_iff.2 areDigits
  have matched : SHELTER_REGEX.match? none
      (SHELTER_START :: ((Nat.toDigits 10 index ++ [SHELTER_END]) ++ later)) =
        some ((Nat.toDigits 10 index ++ [SHELTER_END]).length + 1) := by
    simp only [SHELTER_REGEX, run]
    rw [if_pos]
    · simp
    · refine ⟨trivial, Nat.toDigits_ne_nil, ?_⟩
      rw [List.append_assoc, List.drop_left]
      rfl
  have isDate : restored dates (SHELTER_START :: (Nat.toDigits 10 index ++ [SHELTER_END])) =
      dates[index]?.getD [] := by
    rw [restored, List.drop_one, List.tail_cons, List.dropLast_concat, numberOf_toDigits]
  rw [Matcher.replace_append forward_shelter blind, restore_unmarked dates absent, shelterMark,
    List.cons_append, Matcher.replace_of_match forward_shelter matched, isDate]

end

/-! ## Dates between masked texts -/

/-- What stands between dates is masked on its own; the text since the last date comes first. -/
def woven : (text : List Char) → List (Piece Char) → List Char
  | text, [] => masked text
  | text, .kept char :: rest => woven (text ++ [char]) rest
  | text, .found date :: rest => masked text ++ (date ++ woven [] rest)

theorem woven_append (text date : List Char) (earlier later : List (Piece Char)) :
    woven text (earlier ++ .found date :: later) =
      woven text earlier ++ (date ++ woven [] later) := by
  induction earlier generalizing text with
  | nil => rfl
  | cons piece earlier ih =>
    cases piece with
    | kept char => exact ih _
    | found other =>
      rw [List.cons_append, woven, woven, ih, List.append_assoc, List.append_assoc]

/-- No text of the runtime is longer. -/
def maxStringLength : Nat := 2 ^ 29 - 24

/-- Dates are set aside and put back where they were. -/
theorem restore_masked (pieces : List (Piece Char)) (index : Nat)
    (areDates : dates.drop index = pieces.filterMap Piece.found?)
    (few : dates.length ≤ maxStringLength) (absent : SHELTER_START ∉ text)
    (absentLater : ∀ char, .kept char ∈ pieces → char ≠ SHELTER_START) :
    SHELTER_REGEX.replace (restored dates) (masked (text ++ sheltered index pieces)) =
      woven text pieces := by
  induction pieces generalizing text index with
  | nil =>
    rw [sheltered, List.append_nil, woven]
    exact restore_unmarked _ (start_notMem_masked absent)
  | cons piece pieces ih =>
    have absentRest : ∀ char, .kept char ∈ pieces → char ≠ SHELTER_START :=
      fun char isKept => absentLater char (List.mem_cons_of_mem _ isKept)
    cases piece with
    | kept char =>
      have absentMore : SHELTER_START ∉ text ++ [char] := by
        intro isThere
        rcases List.mem_append.1 isThere with before | last
        · exact absent before
        · exact absentLater char List.mem_cons_self (List.mem_singleton.1 last).symm
      rw [sheltered, ← List.singleton_append, ← List.append_assoc]
      exact ih _ _ areDates absentMore absentRest
    | found date =>
      have isDate : dates[index]? = some date := by
        rw [← List.head?_drop, areDates]
        rfl
      have inBounds : index < dates.length := (List.getElem?_eq_some_iff.1 isDate).1
      have areLater : dates.drop (index + 1) = pieces.filterMap Piece.found? := by
        rw [← List.tail_drop, areDates]
        rfl
      have small : index < 10 ^ 9 := (inBounds.trans_le few).trans (by decide)
      have digits : masked (Nat.toDigits 10 index) = Nat.toDigits 10 index := by
        apply masked_digits
        · exact fun digit isDigit => Nat.isDigit_of_mem_toDigits (by decide) (by decide) isDigit
        · exact Nat.lt_succ_of_le ((Nat.length_toDigits_le_iff (by decide) (by decide)).2 small)
      have parts : masked (text ++ sheltered index (.found date :: pieces)) = masked text ++
            (shelterMark index ++ masked ([] ++ sheltered (index + 1) pieces)) := by
        simp only [sheltered, shelterMark, List.cons_append, List.append_assoc, List.nil_append]
        rw [masked_append_start, masked_append_end, digits]
      rw [parts, restore_mark dates (start_notMem_masked absent), isDate, woven]
      have notThere : SHELTER_START ∉ ([] : List Char) := List.not_mem_nil
      exact congrArg (fun later => masked text ++ (date ++ later))
        (ih [] _ areLater notThere absentRest)

section

variable {text : List Char}

theorem length_pieces_le (before : Option Char) (passed : Nat) (text : List Char) :
    (ISO_DATE_REGEX.pieces before passed text).length ≤ text.length := by
  induction text generalizing before passed with
  | nil => exact le_rfl
  | cons char rest ih =>
    cases passed with
    | succ passed => exact (ih _ _).trans (Nat.le_succ _)
    | zero =>
      cases matched : ISO_DATE_REGEX.match? before (char :: rest) with
      | none =>
        rw [Matcher.pieces_of_none matched]
        exact Nat.succ_le_succ (ih _ _)
      | some length =>
        rw [Matcher.pieces_of_some matched]
        exact Nat.succ_le_succ (ih _ _)

theorem kept_mem {char : Char} (isKept : .kept char ∈ ISO_DATE_REGEX.pieces none 0 text) :
    char ∈ text := by
  have whole := @Matcher.items_pieces _ ISO_DATE_REGEX none 0 text
  rw [List.drop_zero] at whole
  exact whole ▸ List.mem_flatMap.2 ⟨_, isKept, List.mem_singleton_self char⟩

theorem redactChars_eq (absent : SHELTER_START ∉ text) (isText : text.length ≤ maxStringLength) :
    redactChars text = woven [] (ISO_DATE_REGEX.pieces none 0 text) := by
  have few : ((ISO_DATE_REGEX.pieces none 0 text).filterMap Piece.found?).length ≤
      maxStringLength :=
    (List.length_filterMap_le _ _).trans ((length_pieces_le none 0 text).trans isText)
  refine restore_masked _ [] _ 0 List.drop_zero few List.not_mem_nil ?_
  rintro char isKept rfl
  exact absent (kept_mem isKept)

end

end Sokar
