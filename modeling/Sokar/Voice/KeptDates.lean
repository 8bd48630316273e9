import Sokar.Voice.PiiRedaction

/-!
# Dates that a redaction keeps

A date with no digit next to it is found wherever it stands, so it is kept between what is left of
the texts around it.  Without such dates no part of the text that looks like a telephone number is
left; with them, what is left that looks like one has a place in common with a date.
-/

namespace Sokar

open Scanning

/-! ## Dates that stand alone -/

/-- An ISO date with no digit next to it. -/
structure StandaloneDate (before date after : List Char) : Prop where
  isDate : datePattern.startsAt date = true
  length : date.length = 10
  notBehind : ∀ char ∈ before.getLast?, char.isDigit = false
  notAhead : ∀ char ∈ after.head?, char.isDigit = false

namespace StandaloneDate

variable {before date after : List Char}

theorem pattern_digit : ∀ index < 10, index ≠ 4 → index ≠ 7 →
    datePattern[index]? = some Char.isDigit := by
  intro index
  match index with
  | 0 | 1 | 2 | 3 | 5 | 6 | 8 | 9 => exact fun _ _ _ => rfl
  | 4 => exact fun _ no _ => absurd rfl no
  | 7 => exact fun _ _ no => absurd rfl no
  | _ + 10 => exact fun inside => absurd inside (by omega)

variable {text : List Char}

theorem digit_of_starts (starts : datePattern.startsAt text = true) {index : Nat}
    (isPlace : datePattern[index]? = some Char.isDigit) :
    ∃ char, text[index]? = some char ∧ char.isDigit = true :=
  PlainPattern.startsAt_iff.1 starts index _ isPlace

/-- Two places of a date hold dashes, the others digits. -/
theorem dash_of_starts (starts : datePattern.startsAt text = true) {index : Nat} {char : Char}
    (isThere : text[index]? = some char) (notDigit : char.isDigit = false) (inside : index < 10) :
    index = 4 ∨ index = 7 := by
  by_contra other
  rw [not_or] at other
  obtain ⟨found, isFound, isDigit⟩ :=
    digit_of_starts starts (pattern_digit index inside other.1 other.2)
  rw [isThere] at isFound
  cases isFound
  exact absurd (notDigit.symm.trans isDigit) (by decide)

theorem startsAt_append {pattern : List (Char → Bool)} (long : pattern.length ≤ text.length)
    (later : List Char) :
    PlainPattern.startsAt pattern (text ++ later) = PlainPattern.startsAt pattern text := by
  induction pattern generalizing text with
  | nil => rw [PlainPattern.startsAt, PlainPattern.startsAt]
  | cons accepts pattern ih =>
    cases text with
    | nil => cases long
    | cons char text =>
      rw [List.cons_append, PlainPattern.startsAt, PlainPattern.startsAt,
        ih (Nat.le_of_succ_le_succ long)]

theorem not_date {previous : Option Char} (differs : datePattern.startsAt text = true →
      ∃ char ∈ (text.drop 10).head?, char.isDigit = true) :
    ISO_DATE_REGEX.match? previous text = none := by
  simp only [ISO_DATE_REGEX]
  split_ifs with beside starts
  · rfl
  · obtain ⟨char, isNext, isDigit⟩ := differs starts
    exact absurd (.inr (by rw [isNext]; exact isDigit)) beside
  · rfl

section

variable (standalone : StandaloneDate before date after)
include standalone

theorem digit_at : ∃ char, date[2]? = some char ∧ char.isDigit = true :=
  digit_of_starts standalone.isDate rfl

/-- No date begins before the standalone one and reaches into it. -/
theorem blind (previous : Option Char) (rest : List Char) (nonempty : rest ≠ [])
    (ends : rest <:+ before) :
    ISO_DATE_REGEX.match? previous (rest ++ (date ++ after)) =
      ISO_DATE_REGEX.match? previous rest := by
  have notDigit : (rest.getLast nonempty).isDigit = false := by
    obtain ⟨front, rfl⟩ := ends
    refine standalone.notBehind _ ?_
    rw [List.getLast?_append, List.getLast?_eq_some_getLast nonempty]
    rfl
  have isLast : rest[rest.length - 1]? = some (rest.getLast nonempty) := by
    rw [← List.getLast?_eq_getElem?, List.getLast?_eq_some_getLast]
  have positive := List.length_pos_iff.2 nonempty
  by_cases long : 10 < rest.length
  · have next : ((rest ++ (date ++ after)).drop 10).head? = (rest.drop 10).head? := by
      rw [List.head?_drop, List.head?_drop, List.getElem?_append_left long]
    have starts : datePattern.startsAt (rest ++ (date ++ after)) = datePattern.startsAt rest :=
      startsAt_append (show datePattern.length ≤ rest.length from long.le) _
    simp only [ISO_DATE_REGEX, next, starts]
  · have alone : ISO_DATE_REGEX.match? previous rest = none := by
      refine not_date fun starts => ?_
      have whole : 10 ≤ rest.length := PlainPattern.length_le starts
      have places := dash_of_starts starts isLast notDigit (by omega)
      omega
    rw [alone]
    refine not_date fun starts => ?_
    have isThere : (rest ++ (date ++ after))[rest.length - 1]? = some (rest.getLast nonempty) := by
      rw [List.getElem?_append_left (by omega), isLast]
    obtain ⟨digit, isDigitAt, isDigit⟩ := standalone.digit_at
    have third : (rest ++ (date ++ after))[rest.length + 2]? = some digit := by
      rw [List.getElem?_append_right (Nat.le_add_right _ _), Nat.add_sub_cancel_left,
        List.getElem?_append_left (by rw [standalone.length]; decide), isDigitAt]
    rcases dash_of_starts starts isThere notDigit (by omega) with fourth | seventh
    · -- The second dash would be a digit of the standalone date.
      obtain ⟨dash, isDash, same⟩ := PlainPattern.startsAt_iff.1 starts 7 (· == '-') rfl
      rw [show rest.length + 2 = 7 by omega, isDash] at third
      cases third
      rw [beq_iff_eq.1 same] at isDigit
      exact absurd isDigit (by decide)
    · refine ⟨digit, ?_, isDigit⟩
      rw [List.head?_drop, show 10 = rest.length + 2 by omega]
      exact third

theorem matched : ISO_DATE_REGEX.match? (before.getLast?.or none) (date ++ after) = some 10 := by
  have notBehind : (before.getLast?.or none).any Char.isDigit = false := by
    cases last : before.getLast? with
    | none => rfl
    | some char => exact standalone.notBehind char last
  have notAhead : ((date ++ after).drop 10).head?.any Char.isDigit = false := by
    rw [← standalone.length, List.drop_left]
    cases next : after.head? with
    | none => rfl
    | some char => exact standalone.notAhead char next
  have starts : datePattern.startsAt (date ++ after) = true :=
    (startsAt_append (show datePattern.length ≤ date.length from standalone.length.ge) after).trans
      standalone.isDate
  simp only [ISO_DATE_REGEX, notBehind, notAhead, starts]
  rfl

end

/-- A text that begins with no digit is scanned alike after anything. -/
theorem pieces_of_notAhead (notAhead : ∀ char ∈ text.head?, char.isDigit = false)
    (previous : Option Char) :
    ISO_DATE_REGEX.pieces previous 0 text = ISO_DATE_REGEX.pieces none 0 text := by
  cases text with
  | nil => rfl
  | cons char rest =>
    have none_ : ∀ previous, ISO_DATE_REGEX.match? previous (char :: rest) = none := by
      refine fun previous => not_date fun starts => ?_
      obtain ⟨first, isFirst, isDigit⟩ := @digit_of_starts _ starts 0 rfl
      cases isFirst
      exact absurd ((notAhead _ rfl).symm.trans isDigit) (by decide)
    rw [Matcher.pieces_of_none (none_ previous), Matcher.pieces_of_none (none_ none)]

/-- A standalone date is found where it stands, and the texts around it are scanned on their own. -/
theorem pieces_eq (standalone : StandaloneDate before date after) :
    ISO_DATE_REGEX.pieces none 0 (before ++ (date ++ after)) =
      ISO_DATE_REGEX.pieces none 0 before ++ .found date :: ISO_DATE_REGEX.pieces none 0 after := by
  have isFound := standalone.matched
  have taken : (date ++ after).take 10 = date := by rw [← standalone.length, List.take_left]
  obtain ⟨first, more, rfl⟩ := List.exists_cons_of_length_eq_add_one standalone.length
  have passed : more.length = 10 - 1 := Nat.succ.inj standalone.length
  rw [Matcher.pieces_append (Nat.zero_le _) standalone.blind]
  rw [List.cons_append] at isFound taken ⊢
  rw [Matcher.pieces_of_some isFound, taken, ← passed, Matcher.pieces_passed,
    pieces_of_notAhead standalone.notAhead]

theorem of_found {text date : List Char} {earlier later : List (Piece Char)}
    (isFound : ISO_DATE_REGEX.pieces none 0 text = earlier ++ .found date :: later) :
    StandaloneDate (earlier.flatMap Piece.items) date (later.flatMap Piece.items) ∧
      text = earlier.flatMap Piece.items ++ (date ++ later.flatMap Piece.items) := by
  have said := Matcher.match?_of_piece isFound
  have whole := @Matcher.items_pieces _ ISO_DATE_REGEX none 0 text
  rw [isFound, List.drop_zero, List.flatMap_append, List.flatMap_cons, Piece.items_found] at whole
  rw [List.take_zero, List.nil_append, Option.or_none, Piece.items_found] at said
  refine ⟨?_, whole.symm⟩
  simp only [ISO_DATE_REGEX] at said
  split_ifs at said with beside starts
  · cases said
  · have length : date.length = 10 := (Option.some.inj said).symm
    rw [not_or] at beside
    constructor
    · rwa [startsAt_append (show datePattern.length ≤ date.length from length.ge)] at starts
    · exact length
    · intro char isLast
      rw [isLast] at beside
      exact Bool.eq_false_iff.2 beside.1
    · intro char isNext
      rw [← length, List.drop_left, isNext] at beside
      exact Bool.eq_false_iff.2 beside.2
  · cases said

section

variable {front found back : List Char} (standalone : StandaloneDate before date after)
variable (within : StandaloneDate front found back)
include standalone within

theorem of_before (isBefore : before = front ++ (found ++ back)) :
    StandaloneDate front found (back ++ (date ++ after))  where
  isDate := within.isDate
  length := within.length
  notBehind := within.notBehind
  notAhead := by
    cases back with
    | cons char back => exact within.notAhead
    | nil =>
      -- The text before the date would end with the last digit of the other one.
      obtain ⟨digit, isThere, isDigit⟩ := @digit_of_starts _ within.isDate 9 rfl
      have isLast : before.getLast? = some digit := by
        have last : found.getLast? = some digit := by
          rw [List.getLast?_eq_getElem?, within.length]
          exact isThere
        rw [isBefore, List.append_nil, List.getLast?_append, last]
        rfl
      exact absurd ((standalone.notBehind digit isLast).symm.trans isDigit) (by decide)

/-- A standalone date of the text after another one, and the text between them. -/
theorem of_after (isAfter : after = front ++ (found ++ back)) :
    StandaloneDate (before ++ (date ++ front)) found back ∧ StandaloneDate before date front := by
  cases front with
  | nil =>
    obtain ⟨digit, isThere, isDigit⟩ := @digit_of_starts _ within.isDate 0 rfl
    have isNext : after.head? = some digit := by
      rw [isAfter, List.nil_append, List.head?_append, List.head?_eq_getElem?, isThere]
      rfl
    exact absurd ((standalone.notAhead digit isNext).symm.trans isDigit) (by decide)
  | cons char front =>
    have sameLast : (before ++ (date ++ char :: front)).getLast? = (char :: front).getLast? := by
      rw [← List.append_assoc, List.getLast?_append, List.getLast?_cons]
      rfl
    constructor
    · exact ⟨within.isDate, within.length, sameLast ▸ within.notBehind, within.notAhead⟩
    · refine ⟨standalone.isDate, standalone.length, standalone.notBehind, ?_⟩
      exact fun next isNext => standalone.notAhead next (isAfter ▸ isNext)

end

end StandaloneDate

/-- `\d[\d\s().-]{8,}\d` -/
inductive PhoneDigits : List Char → Prop where
  | intro {first last : Char} {middle : List Char} : first.isDigit = true →
      middle.all isNumberPart = true → 8 ≤ middle.length → last.isDigit = true →
        PhoneDigits (first :: (middle ++ [last]))

/-- The same with or without a plus sign. -/
inductive PhoneShaped : List Char → Prop where
  | plain {phone : List Char} : PhoneDigits phone → PhoneShaped phone
  | signed {phone : List Char} : PhoneDigits phone → PhoneShaped ('+' :: phone)

theorem isNumberPart_of_isDigit {char : Char} (isDigit : char.isDigit = true) :
    isNumberPart char = true := by
  rw [isNumberPart, isDigit]
  rfl

variable {phone : List Char}

theorem PhoneDigits.numberParts (digits : PhoneDigits phone) :
    ∀ char ∈ phone, isNumberPart char = true := by
  obtain ⟨firstDigit, parts, -, lastDigit⟩ := digits
  intro char isChar
  rcases List.mem_cons.1 isChar with rfl | isLater
  · exact isNumberPart_of_isDigit firstDigit
  · rcases List.mem_append.1 isLater with isMiddle | isLast
    · exact List.all_eq_true.1 parts char isMiddle
    · exact List.mem_singleton.1 isLast ▸ isNumberPart_of_isDigit lastDigit

/-- The pattern finds such digits whatever follows them. -/
theorem PhoneDigits.found (digits : PhoneDigits phone) (later : List Char) :
    phoneDigits? (phone ++ later) ≠ none := by
  obtain ⟨firstDigit, parts, long, lastDigit⟩ := digits
  next first last middle =>
    have allParts : ∀ char ∈ middle ++ [last], isNumberPart char = true := by
      intro char isChar
      rcases List.mem_append.1 isChar with isMiddle | isLast
      · exact List.all_eq_true.1 parts char isMiddle
      · exact List.mem_singleton.1 isLast ▸ isNumberPart_of_isDigit lastDigit
    have run : middle ++ [last] <+: ((middle ++ [last]) ++ later).takeWhile isNumberPart := by
      rw [List.takeWhile_append_of_pos allParts]
      exact List.prefix_append _ _
    have whole : (middle ++ [last]).rdropWhile (!·.isDigit) = middle ++ [last] := by
      rw [List.rdropWhile_concat_neg _ _ _ (by rw [lastDigit]; decide)]
    have body := Trimming.length_rdropWhile_mono (p := (!·.isDigit)) run
    rw [whole, List.length_append, List.length_singleton] at body
    rw [List.cons_append, phoneDigits?, if_pos ⟨firstDigit, by omega⟩]
    exact Option.some_ne_none _

theorem PhoneShaped.found (shaped : PhoneShaped phone) (before : Option Char) (later : List Char) :
    PHONE_REGEX.match? before (phone ++ later) ≠ none := by
  cases shaped with
  | plain digits =>
    have notPlus : (phone ++ later).head? ≠ some '+' := by
      obtain ⟨firstDigit, -, -, -⟩ := digits
      rintro plus
      cases plus
      exact absurd firstDigit (by decide)
    exact fun none_ => digits.found later ((if_neg notPlus).symm.trans none_)
  | signed digits =>
    exact fun none_ => digits.found later (Option.map_eq_none_iff.1 none_)

def IsPhonePart (char : Char) : Prop :=
  isNumberPart char = true ∨ char = '+'

instance (char : Char) : Decidable (IsPhonePart char) :=
  inferInstanceAs (Decidable (_ ∨ _))

theorem PhoneShaped.parts (shaped : PhoneShaped phone) : ∀ char ∈ phone, IsPhonePart char := by
  cases shaped with
  | plain digits => exact fun char isChar => .inl (digits.numberParts char isChar)
  | signed digits =>
    intro char isChar
    rcases List.mem_cons.1 isChar with plus | isDigit
    · exact .inr plus
    · exact .inl (digits.numberParts char isDigit)

theorem PhoneShaped.nonempty (shaped : PhoneShaped phone) : phone ≠ [] := by
  rintro rfl
  obtain ⟨⟩ | ⟨⟩ := shaped
  next digits => cases digits

theorem not_phone_in_masked {text front phone back : List Char} (shaped : PhoneShaped phone)
    (shown : masked text = front ++ (phone ++ back)) : False := by
  have noPart : ∀ mark ∈ ["[EMAIL]", "[PHONE]"],
      mark.toList ≠ [] ∧ ∀ char ∈ mark.toList, ¬IsPhonePart char := by
    simp [IsPhonePart, isNumberPart, isTrimmedChar]
  obtain ⟨front, back, shown⟩ := Matcher.infix_of_replace
    (fun _ => noPart "[EMAIL]" (by simp)) shaped.nonempty shaped.parts shown
  exact Matcher.not_found_in_replace (fun _ => noPart "[PHONE]" (by simp)) shaped.nonempty
    shaped.parts shaped.found shown

theorem woven_of_kept {pieces : List (Piece Char)} (text : List Char)
    (allKept : ∀ date, .found date ∉ pieces) :
    woven text pieces = masked (text ++ pieces.flatMap Piece.items) := by
  induction pieces generalizing text with
  | nil => rw [woven, List.flatMap_nil, List.append_nil]
  | cons piece pieces ih =>
    cases piece with
    | found date => exact absurd List.mem_cons_self (allKept date)
    | kept char =>
      rw [woven, ih _ fun date isFound => allKept date (List.mem_cons_of_mem _ isFound)]
      simp

section

variable {text before date after : List Char}

/-- A text of the runtime that has no mark in it. -/
structure Unmarked (text : List Char) : Prop where
  absent : SHELTER_START ∉ text
  isText : text.length ≤ maxStringLength

theorem Unmarked.of_sublist {part : List Char} (unmarked : Unmarked text)
    (sub : part.Sublist text) : Unmarked part :=
  ⟨fun isThere => unmarked.absent (sub.subset isThere), sub.length_le.trans unmarked.isText⟩

/-- A standalone date stays where it is, between what is left of the texts around it. -/
theorem redactChars_date (unmarked : Unmarked (before ++ (date ++ after)))
    (standalone : StandaloneDate before date after) :
    redactChars (before ++ (date ++ after)) =
      redactChars before ++ (date ++ redactChars after) := by
  have front := unmarked.of_sublist (List.sublist_append_left before (date ++ after))
  have back := unmarked.of_sublist
    ((List.sublist_append_right date after).trans (List.sublist_append_right before _))
  rw [redactChars_eq unmarked.absent unmarked.isText, redactChars_eq front.absent front.isText,
    redactChars_eq back.absent back.isText, standalone.pieces_eq, woven_append]

theorem redactChars_of_dateless (unmarked : Unmarked text)
    (dateless : ∀ before date after, text = before ++ (date ++ after) →
      ¬StandaloneDate before date after) : redactChars text = masked text := by
  have whole := @Matcher.items_pieces _ ISO_DATE_REGEX none 0 text
  rw [redactChars_eq unmarked.absent unmarked.isText, woven_of_kept, whole, List.drop_zero,
    List.nil_append]
  intro date isFound
  obtain ⟨earlier, later, isPiece⟩ := List.append_of_mem isFound
  obtain ⟨standalone, isText⟩ := StandaloneDate.of_found isPiece
  exact dateless _ _ _ isText standalone

theorem prefix_of_append_eq {first second third fourth : List Char}
    (same : first ++ second = third ++ fourth) (short : first.length ≤ third.length) :
    first <+: third :=
  List.prefix_of_prefix_length_le ⟨second, same⟩ (List.prefix_append third fourth) short

/-- A part of the redacted text that looks like a number shares a place with a date that was
kept. -/
theorem phone_overlaps_date {front phone back : List Char} (unmarked : Unmarked text)
    (shaped : PhoneShaped phone) (shown : redactChars text = front ++ (phone ++ back)) :
    ∃ before date after, text = before ++ (date ++ after) ∧ StandaloneDate before date after ∧
      (redactChars before).length < front.length + phone.length ∧
        front.length < (redactChars before).length + date.length := by
  generalize size : text.length = bound
  induction bound using Nat.strong_induction_on generalizing text front back with
  | _ bound ih =>
    subst size
    by_cases hasDate : ∃ before date after, text = before ++ (date ++ after) ∧
        StandaloneDate before date after
    · obtain ⟨before, date, after, rfl, standalone⟩ := hasDate
      have parts := redactChars_date unmarked standalone
      have dateLength := standalone.length
      rw [parts] at shown
      by_cases ends : front.length + phone.length ≤ (redactChars before).length
      · -- It stands before the date.
        rw [← List.append_assoc front] at shown
        obtain ⟨rest, isBefore⟩ :=
          prefix_of_append_eq shown.symm ((List.length_append ..).trans_le ends)
        rw [List.append_assoc] at isBefore
        have shorter : before.length < (before ++ (date ++ after)).length := by
          simp only [List.length_append]
          omega
        obtain ⟨front', found, back', rfl, within, low, high⟩ := ih before.length shorter
          (unmarked.of_sublist (List.sublist_append_left _ _)) isBefore.symm rfl
        refine ⟨front', found, back' ++ (date ++ after), ?_, standalone.of_before within rfl,
          low, high⟩
        simp
      · by_cases starts : (redactChars before).length + date.length ≤ front.length
        · -- It stands after the date.
          rw [← List.append_assoc (redactChars before)] at shown
          obtain ⟨rest, rfl⟩ :=
            prefix_of_append_eq shown ((List.length_append ..).trans_le starts)
          simp only [List.append_assoc, List.append_cancel_left_eq] at shown
          have shorter : after.length < (before ++ (date ++ after)).length := by
            simp only [List.length_append]
            omega
          have back := unmarked.of_sublist
            ((List.sublist_append_right date after).trans (List.sublist_append_right before _))
          obtain ⟨front', found, back', rfl, within, low, high⟩ :=
            ih after.length shorter back shown rfl
          obtain ⟨standsAlone, stands⟩ := standalone.of_after within rfl
          have start := redactChars_date (unmarked.of_sublist (by
            simp only [← List.append_assoc]
            exact (List.sublist_append_left _ _).trans (List.sublist_append_left _ _))) stands
          refine ⟨before ++ (date ++ front'), found, back', ?_, standsAlone, ?_, ?_⟩
          · simp
          · rw [start]
            simp only [List.length_append] at low ⊢
            omega
          · rw [start]
            simp only [List.length_append] at high ⊢
            omega
        · exact ⟨before, date, after, rfl, standalone, not_le.1 ends, not_le.1 starts⟩
    · have dateless : ∀ before date after, text = before ++ (date ++ after) →
          ¬StandaloneDate before date after :=
        fun before date after isText standalone =>
          hasDate ⟨before, date, after, isText, standalone⟩
      rw [redactChars_of_dateless unmarked dateless] at shown
      exact (not_phone_in_masked shaped shown).elim

end

end Sokar
