import Sokar.Voice.SayStream

/-!
# Streaming and parsing

What is spoken of a turn is the value of its `say`, as long as that value is written without `\u`
escapes of the control characters that are not spoken.  In a JSON text the name `"say"` is found
where it is written as a name: a quote is followed by `say"` only there, and at the end of a name
with a quote in it.
-/

namespace Sokar

open JsonGrammar CodeUnit SayStreamExtractor

/-- The text with line breaks, carriage returns and tabs as spaces, and without backspaces and form
feeds. -/
def spokenUnit (unit : CodeUnit) : List CodeUnit :=
  if unit = 0x0A ∨ unit = 0x0D ∨ unit = 0x09 then [0x20]
  else if unit = 0x08 ∨ unit = 0x0C then []
  else [unit]

def spoken (text : List CodeUnit) : List CodeUnit :=
  text.flatMap spokenUnit

/-- What is not spoken as it is. -/
def isUnspoken (unit : CodeUnit) : Bool :=
  unit == 0x0A || unit == 0x0D || unit == 0x09 || unit == 0x08 || unit == 0x0C

/-- What the extractor returns for a piece of a string. -/
def decodePiece : Piece → List CodeUnit
  | .plain same => [same.unit]
  | .short escape => escapeText escape.mark
  | piece => [piece.value]

variable (literal : Literal)

/-- No `\u` escape stands for a character that is not spoken as it is. -/
def SpelledOut : Prop :=
  ∀ first second third fourth, Piece.unicode first second third fourth ∈ literal →
    isUnspoken (Piece.unicode first second third fourth).value = false

theorem spokenUnit_of_spoken {unit : CodeUnit} (isSpoken : isUnspoken unit = false) :
    spokenUnit unit = [unit] := by
  simp only [isUnspoken, Bool.or_eq_false_iff, beq_eq_false_iff_ne] at isSpoken
  obtain ⟨⟨⟨⟨lineFeed, carriageReturn⟩, tab⟩, backspace⟩, formFeed⟩ := isSpoken
  simp [spokenUnit, lineFeed, carriageReturn, tab, backspace, formFeed]

theorem isUnspoken_of_mem_spoken {text : List CodeUnit} {unit : CodeUnit}
    (isUnit : unit ∈ spoken text) : isUnspoken unit = false := by
  obtain ⟨source, -, isUnit⟩ := List.mem_flatMap.1 isUnit
  unfold spokenUnit at isUnit
  split at isUnit
  · rw [List.mem_singleton.1 isUnit]
    decide
  split at isUnit
  · cases isUnit
  · unfold isUnspoken
    grind

theorem decodePiece_of_spelledOut {piece : Piece} (spelledOut : SpelledOut [piece]) :
    decodePiece piece = spokenUnit piece.value := by
  cases piece with
  | plain same =>
    refine (spokenUnit_of_spoken ?_).symm
    have visible := same.noControl
    unfold isUnspoken
    grind
  | short escape => cases escape <;> decide
  | unicode first second third fourth =>
    exact (spokenUnit_of_spoken (spelledOut _ _ _ _ (List.mem_singleton_self _))).symm

theorem decode_eq_spoken {literal : Literal} (spelledOut : SpelledOut literal) :
    literal.flatMap decodePiece = spoken literal.value := by
  induction literal with
  | nil => rfl
  | cons piece literal ih =>
    have first : SpelledOut [piece] := fun _ _ _ _ isPiece =>
      spelledOut _ _ _ _ (List.mem_singleton.1 isPiece ▸ List.mem_cons_self)
    have rest : SpelledOut literal := fun _ _ _ _ isPiece =>
      spelledOut _ _ _ _ (List.mem_cons_of_mem _ isPiece)
    rw [List.flatMap_cons, ih rest, decodePiece_of_spelledOut first]
    rfl

/-- A string that is not spelled out is returned with a character that is never spoken. -/
theorem decode_eq_spoken_iff {literal : Literal} {say : List CodeUnit} :
    literal.flatMap decodePiece = spoken say ↔
      SpelledOut literal ∧ spoken literal.value = spoken say := by
  constructor
  · intro same
    have spelledOut : SpelledOut literal := by
      intro first second third fourth isPiece
      have isReturned : (Piece.unicode first second third fourth).value ∈ spoken say := by
        rw [← same]
        exact List.mem_flatMap.2 ⟨_, isPiece, List.mem_singleton_self _⟩
      exact isUnspoken_of_mem_spoken isReturned
    exact ⟨spelledOut, (decode_eq_spoken spelledOut).symm.trans same⟩
  · rintro ⟨spelledOut, same⟩
    exact (decode_eq_spoken spelledOut).trans same

section

variable {extractor : SayStreamExtractor}

/-- A hexadecimal digit is neither a space nor a sign nor the mark of a base. -/
theorem hexDigit_unit : ∀ (value : Fin 16) (isCapital : Bool),
    let unit := HexDigit.unit ⟨value, isCapital⟩
    hexValue? unit = some value.val ∧ isSpaceUnit unit = false ∧ unit ≠ 0x2D ∧ unit ≠ 0x2B ∧
      unit ≠ 0x78 ∧ unit ≠ 0x58 := by
  decide

/-- A unicode escape is decoded to what it stands for. -/
theorem fromCharCode_parseInt16 (first second third fourth : HexDigit) :
    fromCharCode (parseInt16 [first.unit, second.unit, third.unit, fourth.unit]) =
      (Piece.unicode first second third fourth).value := by
  obtain ⟨firstValue, notSpace, notMinus, notPlus, -⟩ := hexDigit_unit first.value first.isCapital
  obtain ⟨secondValue, -, -, -, notMark, notCapitalMark⟩ :=
    hexDigit_unit second.value second.isCapital
  obtain ⟨thirdValue, -⟩ := hexDigit_unit third.value third.isCapital
  obtain ⟨fourthValue, -⟩ := hexDigit_unit fourth.value fourth.isCapital
  have parsed : parseInt16 [first.unit, second.unit, third.unit, fourth.unit] =
      some ((Piece.unicode first second third fourth).value : Int) := by
    simp [parseInt16, notSpace, notMinus, notPlus, notMark, notCapitalMark,
      readHex, firstValue, secondValue, thirdValue, fourthValue, Piece.value]
  have small : (Piece.unicode first second third fourth).value < 0x10000 := by
    change ((first.value.val * 16 + second.value) * 16 + third.value) * 16 + fourth.value < 65536
    omega
  rw [parsed, fromCharCode, Int.emod_eq_of_lt (Int.natCast_nonneg _) (by exact_mod_cast small),
    Int.toNat_natCast]

/-- Between two pieces of a string nothing is pending. -/
structure Between (extractor : SayStreamExtractor) : Prop where
  goesOn : extractor.done = false
  nothing : extractor.pendingEscape = []

theorem read_piece (between : Between extractor) (piece : Piece) (more : List CodeUnit) :
    ∃ later, Between later ∧
      (extractor.read (piece.units ++ more)).1 = decodePiece piece ++ (later.read more).1 := by
  obtain ⟨goesOn, nothing⟩ := between
  cases piece with
  | plain same =>
    refine ⟨{ extractor with cursor := extractor.cursor + 1 }, ⟨goesOn, nothing⟩, ?_⟩
    simp [Piece.units, read_cons, readChar, nothing, goesOn, same.ne_quote, same.ne_backslash, decodePiece]
  | short escape =>
    refine ⟨{ extractor with cursor := extractor.cursor + 2, pendingEscape := [] }, ⟨goesOn, rfl⟩, ?_⟩
    have notUnicode : escape.mark ≠ 0x75 := by cases escape <;> decide
    simp [Piece.units, read_cons, readChar, nothing, goesOn, notUnicode, decodePiece]
  | unicode first second third fourth =>
    refine ⟨{ extractor with cursor := extractor.cursor + 6, pendingEscape := [] }, ⟨goesOn, rfl⟩, ?_⟩
    have decoded := fromCharCode_parseInt16 first second third fourth
    simp [Piece.units, read_cons, readChar, nothing, goesOn, decodePiece, decoded]

/-- What is returned of a string, from its opening quote to its closing one. -/
theorem read_literal (between : Between extractor) (literal : Literal) (rest : List CodeUnit) :
    (extractor.read (literal.units ++ quote :: rest)).1 = literal.flatMap decodePiece := by
  induction literal generalizing extractor with
  | nil =>
    have notBackslash : quote ≠ backslash := by decide
    simp [Literal.units, read_cons, readChar, between.nothing, notBackslash]
  | cons piece literal ih =>
    obtain ⟨later, betweenLater, returned⟩ :=
      read_piece between piece (Literal.units literal ++ quote :: rest)
    rw [Literal.units_cons, List.append_assoc, returned, ih betweenLater, List.flatMap_cons]

end

variable (name : Literal)

section

variable {text rest more : List CodeUnit} {unit : CodeUnit}

/-- What follows the first match of `/"say"\s*:\s*"/`. -/
def afterSay? (text : List CodeUnit) : Option (List CodeUnit) :=
  (sayMatchEnd? text).map fun last => text.drop last

theorem afterSay?_cons : afterSay? (unit :: text) =
    (sayOpening? (unit :: text)).or (afterSay? text) := by
  unfold afterSay?
  rw [sayMatchEnd?_cons]
  cases opens : sayOpening? (unit :: text) with
  | none => simp [Option.map_map, Function.comp_def]
  | some after =>
    obtain ⟨opening, -, same⟩ := sayOpening?_eq_some.1 opens
    simp [same]

theorem sayOpening?_of_ne (notQuote : unit ≠ quote) : sayOpening? (unit :: text) = none := by
  refine Option.eq_none_iff_forall_ne_some.2 fun after opens => ?_
  obtain ⟨_, ⟨_, _, -, -, rfl⟩, same⟩ := sayOpening?_eq_some.1 opens
  exact notQuote (List.cons.inj same).1

theorem afterSay?_of_ne (notQuote : unit ≠ quote) : afterSay? (unit :: text) = afterSay? text := by
  rw [afterSay?_cons, sayOpening?_of_ne notQuote, Option.none_or]

theorem afterSay?_append (noQuote : ∀ unit ∈ text, unit ≠ quote) :
    afterSay? (text ++ rest) = afterSay? rest := by
  induction text with
  | nil => rfl
  | cons unit text ih =>
    rw [List.cons_append, afterSay?_of_ne (noQuote unit List.mem_cons_self)]
    exact ih fun other isUnit => noQuote other (List.mem_cons_of_mem _ isUnit)

/-- A string written without escapes. -/
def plainLiteral (plains : List PlainUnit) : Literal :=
  plains.map Piece.plain

/-- The string that ends at a quote is the one that is spelled before it. -/
theorem eq_plainLiteral {literal : Literal} {plains : List PlainUnit}
    (same : literal.units ++ quote :: rest = plains.map PlainUnit.unit ++ quote :: more) :
    literal = plainLiteral plains ∧ rest = more := by
  induction plains generalizing literal with
  | nil =>
    cases literal with
    | nil => exact ⟨rfl, (List.cons.inj same).2⟩
    | cons piece literal =>
      cases piece with
      | plain plain => exact absurd (List.cons.inj same).1 plain.ne_quote
      | short => exact absurd (List.cons.inj same).1 (by decide)
      | unicode => exact absurd (List.cons.inj same).1 (by decide)
  | cons plain plains ih =>
    cases literal with
    | nil => exact absurd (List.cons.inj same).1.symm plain.ne_quote
    | cons piece literal =>
      cases piece with
      | plain other =>
        obtain ⟨sameUnit, sameRest⟩ := List.cons.inj same
        obtain ⟨sameLiteral, sameMore⟩ := ih sameRest
        refine ⟨congrArg₂ List.cons ?_ sameLiteral, sameMore⟩
        obtain ⟨_, _⟩ := plain
        cases sameUnit
        rfl
      | short => exact absurd (List.cons.inj same).1.symm plain.ne_backslash
      | unicode => exact absurd (List.cons.inj same).1.symm plain.ne_backslash

def sayPlains : List PlainUnit :=
  [⟨0x73, by decide, by decide, by decide, by decide⟩,
    ⟨0x61, by decide, by decide, by decide, by decide⟩,
    ⟨0x79, by decide, by decide, by decide, by decide⟩]

/-- `say` as it is. -/
def sayLiteral : Literal :=
  plainLiteral sayPlains

/-- `\"say` at the end. -/
def EndsInSay : Prop :=
  Piece.short .quote :: sayLiteral <:+ name

/-- The name is written `"say"`, or ends in `\"say"`. -/
def NamesSay : Prop :=
  name = sayLiteral ∨ EndsInSay name

instance (name : Literal) : Decidable (NamesSay name) :=
  inferInstanceAs (Decidable (name = sayLiteral ∨ Piece.short .quote :: sayLiteral <:+ name))

instance (name : Literal) : Decidable (EndsInSay name) :=
  inferInstanceAs (Decidable (Piece.short .quote :: sayLiteral <:+ name))

/-- At a quote, what follows is the name if the string up to the next quote is `say`. -/
theorem sayOpening?_quoted (rest : List CodeUnit) :
    sayOpening? (quote :: (literal.units ++ quote :: rest)) =
      if literal = sayLiteral then valueOpening? rest else none := by
  have dropped : (quote :: (literal.units ++ quote :: rest)).dropPrefix? sayName =
      if literal = sayLiteral then some rest else none := by
    split
    next same =>
      subst same
      exact dropPrefix?_eq_some.2 rfl
    next other =>
      refine Option.eq_none_iff_forall_ne_some.2 fun after isDropped => other ?_
      have same : literal.units ++ quote :: rest = sayPlains.map PlainUnit.unit ++ quote :: after :=
        (List.cons.inj (dropPrefix?_eq_some.1 isDropped)).2
      exact (eq_plainLiteral same).1
  unfold sayOpening?
  rw [dropped]
  split <;> rfl

theorem endsInSay_cons {piece : Piece} {literal : Literal} (notQuote : piece ≠ .short .quote) :
    EndsInSay (piece :: literal) ↔ EndsInSay literal := by
  unfold EndsInSay
  rw [List.suffix_cons_iff]
  refine or_iff_right fun same => notQuote (List.cons.inj same).1.symm

/-- Within a string the name is found at its end only. -/
theorem afterSay?_literal (noLetter : rest.head? ≠ some 0x73) :
    afterSay? (literal.units ++ quote :: rest) =
      if EndsInSay literal then (valueOpening? rest).or (afterSay? rest) else afterSay? rest := by
  induction literal with
  | nil =>
    have noEnd : ¬ EndsInSay [] := fun ends => nomatch List.eq_nil_of_suffix_nil ends
    have notName : sayOpening? (quote :: rest) = none := by
      refine Option.eq_none_iff_forall_ne_some.2 fun after opens => ?_
      obtain ⟨_, ⟨_, _, -, -, rfl⟩, same⟩ := sayOpening?_eq_some.1 opens
      rw [(List.cons.inj same).2] at noLetter
      exact noLetter rfl
    rw [if_neg noEnd]
    exact afterSay?_cons.trans (by rw [notName, Option.none_or])
  | cons piece literal ih =>
    rw [Literal.units_cons, List.append_assoc]
    cases piece with
    | plain plain =>
      rw [if_congr (endsInSay_cons (by simp)) rfl rfl]
      exact (afterSay?_of_ne plain.ne_quote).trans ih
    | short escape =>
      by_cases isQuote : escape = .quote
      · subst isQuote
        have opens := afterSay?_cons.trans
          (congrArg (Option.or · _) (sayOpening?_quoted literal rest))
        refine (afterSay?_of_ne (by decide)).trans (opens.trans ?_)
        rw [ih]
        by_cases isSay : literal = sayLiteral
        · subst isSay
          have ends : EndsInSay (.short .quote :: sayLiteral) := List.suffix_refl _
          rw [if_pos rfl, if_neg (by decide), if_pos ends]
        · have same : EndsInSay (.short .quote :: literal) ↔ EndsInSay literal := by
            unfold EndsInSay
            rw [List.suffix_cons_iff]
            exact or_iff_right fun same => isSay (List.cons.inj same).2.symm
          rw [if_neg isSay, Option.none_or, if_congr same rfl rfl]
      · have notQuote : escape.mark ≠ quote := by
          cases escape <;> first | exact absurd rfl isQuote | decide
        rw [if_congr (endsInSay_cons (by simpa using isQuote)) rfl rfl]
        exact ((afterSay?_of_ne (by decide)).trans (afterSay?_of_ne notQuote)).trans ih
    | unicode first second third fourth =>
      rw [if_congr (endsInSay_cons (by simp)) rfl rfl]
      refine (afterSay?_append ?_).trans ih
      intro unit isUnit
      simp only [Piece.units, List.mem_cons, List.not_mem_nil, or_false] at isUnit
      rcases isUnit with rfl | rfl | rfl | rfl | rfl | rfl
      · decide
      · decide
      all_goals exact HexDigit.unit_ne_quote _

/-- At a string, the name is found if the string is the name or ends in it. -/
theorem afterSay?_quoted (noLetter : rest.head? ≠ some 0x73) : afterSay? (literal.quoted ++ rest) =
      if NamesSay literal then (valueOpening? rest).or (afterSay? rest) else afterSay? rest := by
  have units : literal.quoted ++ rest = quote :: (literal.units ++ quote :: rest) := by
    simp [Literal.quoted]
  rw [units, afterSay?_cons, sayOpening?_quoted, afterSay?_literal literal noLetter]
  by_cases isSay : literal = sayLiteral
  · have names : NamesSay literal := .inl isSay
    subst isSay
    rw [if_pos rfl, if_neg (by decide), if_pos names]
  · have same : EndsInSay literal ↔ NamesSay literal := (or_iff_right isSay).symm
    rw [if_neg isSay, Option.none_or, if_congr same rfl rfl]

end

/-! ## Strings in a text -/

section

def stringValue? : Value → Option Literal
  | .string literal => some literal
  | _ => none

/-- The string under a name that reads as `"say"`. -/
def saidString? (value : Value) : Option Literal :=
  if NamesSay name then stringValue? value else none

mutual

/-- The first string in a value under a name that reads as `"say"`. -/
def firstSay? : Value → Option Literal
  | .array elements => firstSayOfElements? elements
  | .object members => firstSayOfMembers? members
  | _ => none

def firstSayOfElements? : Elements → Option Literal
  | .last _ value _ => firstSay? value
  | .more _ value _ rest => (firstSay? value).or (firstSayOfElements? rest)

def firstSayOfMembers? : Members → Option Literal
  | .last _ name _ _ value _ => (saidString? name value).or (firstSay? value)
  | .more _ name _ _ value _ rest =>
    ((saidString? name value).or (firstSay? value)).or (firstSayOfMembers? rest)

end

/-- The match in a text opens the given string, or else lies in what follows the text. -/
def Finds (text rest : List CodeUnit) : Option Literal → Prop
  | some literal => ∃ more, afterSay? text = some (literal.units ++ quote :: more)
  | none => afterSay? text = afterSay? rest

variable {text middle rest : List CodeUnit}

theorem Finds.append {first second : Option Literal} (finds : Finds text middle first)
    (more : Finds middle rest second) : Finds text rest (first.or second) := by
  cases first with
  | some literal => exact finds
  | none =>
    have same : afterSay? text = afterSay? middle := finds
    cases second with
    | some literal => exact more.imp fun _ found => same.trans found
    | none => exact same.trans more

variable {found : Option Literal} {units : List CodeUnit}

/-- What is passed over without a quote changes nothing. -/
theorem Finds.skip (finds : Finds text rest found) (noQuote : ∀ unit ∈ units, unit ≠ quote) :
    Finds (units ++ text) rest found := by
  have same : afterSay? (units ++ text) = afterSay? text := afterSay?_append noQuote
  cases found with
  | some literal => exact finds.imp fun _ found => same.trans found
  | none => exact same.trans finds

theorem Finds.rest_skip (finds : Finds text (units ++ rest) found)
    (noQuote : ∀ unit ∈ units, unit ≠ quote) :
    Finds text rest found := by
  cases found with
  | some literal => exact finds
  | none => exact Eq.trans finds (afterSay?_append noQuote)

theorem Finds.unit {unit : CodeUnit} (finds : Finds text rest found) (notQuote : unit ≠ quote) :
    Finds (unit :: text) rest found := by
  have noQuote : ∀ other ∈ [unit], other ≠ quote :=
    fun _ isUnit => List.mem_singleton.1 isUnit ▸ notQuote
  exact finds.skip noQuote

theorem Finds.rest_unit {unit : CodeUnit} (finds : Finds text (unit :: rest) found)
    (notQuote : unit ≠ quote) : Finds text rest found := by
  have noQuote : ∀ other ∈ [unit], other ≠ quote :=
    fun _ isUnit => List.mem_singleton.1 isUnit ▸ notQuote
  exact Finds.rest_skip finds noQuote

theorem bracketed_noQuote {opening closing : CodeUnit} (opens : opening ≠ quote)
    (noQuote : ∀ unit ∈ units, unit ≠ quote) (closes : closing ≠ quote) :
    ∀ unit ∈ opening :: (units ++ [closing]), unit ≠ quote := by
  intro unit isUnit
  rcases List.mem_cons.1 isUnit with rfl | isUnit
  · exact opens
  rcases List.mem_append.1 isUnit with isUnit | isClosing
  · exact noQuote unit isUnit
  · exact List.mem_singleton.1 isClosing ▸ closes

theorem isSpaceUnit_of_isSpace {unit : CodeUnit} (isSpace : JsonGrammar.isSpace unit) :
    isSpaceUnit unit := by
  simp only [JsonGrammar.isSpace, Bool.or_eq_true, beq_iff_eq] at isSpace
  rcases isSpace with ((rfl | rfl) | rfl) | rfl <;> decide

theorem areSpaceUnits (spaces : Spaces) : ∀ unit ∈ spaces.units, isSpaceUnit unit :=
  fun _ isUnit => isSpaceUnit_of_isSpace (spaces.isSpace isUnit)

theorem spaces_noQuote (spaces : Spaces) : ∀ unit ∈ spaces.units, unit ≠ quote := by
  intro unit isUnit same
  exact absurd (same ▸ spaces.isSpace isUnit) (by decide)

structure EndsValue (rest : List CodeUnit) : Prop where
  noValue : valueOpening? rest = none
  noLetter : rest.head? ≠ some 0x73

theorem endsValue_nil : EndsValue [] := ⟨rfl, by simp⟩

theorem endsValue_cons {unit : CodeUnit} (closes : unit = comma ∨ unit = 0x5D ∨ unit = 0x7D) :
    EndsValue (unit :: rest) := by
  rcases closes with rfl | rfl | rfl <;> exact ⟨rfl, by simp [comma]⟩

theorem EndsValue.spaces (closes : EndsValue rest) (spaces : Spaces) :
    EndsValue (spaces.units ++ rest) := by
  refine ⟨?_, ?_⟩
  · unfold valueOpening?
    rw [List.dropWhile_append_of_pos (areSpaceUnits spaces)]
    exact closes.noValue
  · have areSpaces := areSpaceUnits spaces
    cases units : spaces.units with
    | nil => exact closes.noLetter
    | cons unit more =>
      intro isLetter
      cases isLetter
      exact absurd (areSpaces _ (units ▸ List.mem_cons_self)) (by decide)

theorem exists_cons_of_value {value : Value} (notString : stringValue? value = none) :
    ∃ unit more, value.units = unit :: more ∧ unit ≠ quote ∧ isSpaceUnit unit = false := by
  cases value with
  | string => cases notString
  | null => exact ⟨_, _, rfl, by decide, by decide⟩
  | bool value =>
    cases value with
    | true => exact ⟨_, _, rfl, by decide, by decide⟩
    | false => exact ⟨_, _, rfl, by decide, by decide⟩
  | number number =>
    have digit : ∀ digit : Fin 10, 0x30 + digit.val ≠ quote ∧
        isSpaceUnit (0x30 + digit.val) = false := by decide
    unfold Value.units Number.units
    cases number.isNegative with
    | true => exact ⟨_, _, rfl, by decide, by decide⟩
    | false => exact ⟨_, _, rfl, digit number.whole.first⟩
  | emptyArray => exact ⟨_, _, rfl, by decide, by decide⟩
  | array => exact ⟨_, _, rfl, by decide, by decide⟩
  | emptyObject => exact ⟨_, _, rfl, by decide, by decide⟩
  | object => exact ⟨_, _, rfl, by decide, by decide⟩

theorem valueOpening?_member (between inside : Spaces) :
    valueOpening? (between.units ++ colon :: (inside.units ++ rest)) =
      (rest.dropWhile isSpaceUnit).dropPrefix? [quote] := by
  have notSpace : ¬ isSpaceUnit colon = true := by decide
  unfold valueOpening?
  rw [List.dropWhile_append_of_pos (areSpaceUnits between), List.dropWhile_cons_of_neg notSpace]
  have dropped : (colon :: (inside.units ++ rest)).dropPrefix? [colon] =
      some (inside.units ++ rest) := dropPrefix?_eq_some.2 rfl
  rw [dropped, Option.bind_some, List.dropWhile_append_of_pos (areSpaceUnits inside)]

/-- At a member, its string is found if the name reads as `"say"`. -/
theorem finds_member (between inside : Spaces) (value : Value) :
    Finds (name.quoted ++ (between.units ++ colon :: (inside.units ++ (value.units ++ rest))))
      (value.units ++ rest) (saidString? name value) := by
  have noLetter : (between.units ++ colon ::
      (inside.units ++ (value.units ++ rest))).head? ≠ some 0x73 := by
    have areSpaces := areSpaceUnits between
    cases units : between.units with
    | nil => simp [colon]
    | cons unit more =>
      intro isLetter
      cases isLetter
      exact absurd (areSpaces _ (units ▸ List.mem_cons_self)) (by decide)
  have passed : afterSay? (between.units ++ colon :: (inside.units ++ (value.units ++ rest))) =
      afterSay? (value.units ++ rest) := by
    rw [afterSay?_append (spaces_noQuote between), afterSay?_of_ne (by decide),
      afterSay?_append (spaces_noQuote inside)]
  have atName := afterSay?_quoted name noLetter
  rw [passed, valueOpening?_member] at atName
  unfold saidString?
  split
  next names =>
    rw [if_pos names] at atName
    cases isString : stringValue? value with
    | some literal =>
      cases value <;> cases isString
      have notSpace : ¬ isSpaceUnit quote = true := by decide
      refine ⟨rest, atName.trans ?_⟩
      have opened : (quote :: (literal.units ++ quote :: rest)).dropPrefix? [quote] =
          some (literal.units ++ quote :: rest) := dropPrefix?_eq_some.2 rfl
      have units : (Value.string literal).units ++ rest =
          quote :: (literal.units ++ quote :: rest) := by
        simp [Value.units, Literal.quoted]
      rw [units, List.dropWhile_cons_of_neg notSpace, opened, Option.some_or]
    | none =>
      obtain ⟨unit, more, units, notQuote, notSpace⟩ := exists_cons_of_value isString
      have noString : (unit :: (more ++ rest)).dropPrefix? [quote] = none := by
        refine Option.eq_none_iff_forall_ne_some.2 fun after isDropped => notQuote ?_
        exact (List.cons.inj (dropPrefix?_eq_some.1 isDropped)).1
      refine atName.trans ?_
      rw [units, List.cons_append, List.dropWhile_cons_of_neg (by simp [notSpace]), noString,
        Option.none_or]
  next noName =>
    rw [if_neg noName] at atName
    exact atName

theorem number_noQuote (number : Number) : ∀ unit ∈ number.units, unit ≠ quote := by
  have digits : ∀ (digits : Digits), ∀ unit ∈ digits.units, unit ≠ quote :=
    fun _ _ isUnit => Digits.ne_quote isUnit
  have sign : ∀ isMinus, signUnit isMinus ≠ quote := by decide
  intro unit isUnit
  simp only [Number.units, List.mem_append] at isUnit
  rcases isUnit with ((isSign | isWhole) | isFraction) | isExponent
  · split at isSign
    · exact List.mem_singleton.1 isSign ▸ sign true
    · cases isSign
  · exact digits _ _ isWhole
  · split at isFraction
    · rcases List.mem_cons.1 isFraction with rfl | isDigit
      · decide
      · exact digits _ _ isDigit
    · cases isFraction
  · split at isExponent
    next exponent _ =>
      simp only [Exponent.units, List.mem_cons, List.mem_append, Option.mem_toList,
        Option.map_eq_some_iff] at isExponent
      rcases isExponent with rfl | ⟨isMinus, -, rfl⟩ | isDigit
      · split <;> decide
      · exact sign isMinus
      · exact digits _ _ isDigit
    · cases isExponent

mutual

/-- In a value followed by what closes it, the first string said is found. -/
theorem finds_value (value : Value) {rest : List CodeUnit} (closes : EndsValue rest) :
    Finds (value.units ++ rest) rest (firstSay? value) :=
  match value with
  | .null => afterSay?_append (by decide)
  | .bool true => afterSay?_append (by decide)
  | .bool false => afterSay?_append (by decide)
  | .number number => afterSay?_append (number_noQuote number)
  | .string literal => by
      refine (afterSay?_quoted literal closes.noLetter).trans ?_
      rw [closes.noValue, Option.none_or, ite_self]
  | .emptyArray spaces =>
    afterSay?_append (bracketed_noQuote (by decide) (spaces_noQuote spaces) (by decide))
  | .emptyObject spaces =>
    afterSay?_append (bracketed_noQuote (by decide) (spaces_noQuote spaces) (by decide))
  | .array elements => by
      have inside : Finds (elements.units ++ 0x5D :: rest) (0x5D :: rest)
          (firstSayOfElements? elements) := finds_elements elements (endsValue_cons (.inr (.inl rfl)))
      have opened := (inside.rest_unit (by decide)).unit (show 0x5B ≠ quote by decide)
      simpa [Value.units, firstSay?] using opened
  | .object members => by
      have inside : Finds (members.units ++ 0x7D :: rest) (0x7D :: rest)
          (firstSayOfMembers? members) := finds_members members (endsValue_cons (.inr (.inr rfl)))
      have opened := (inside.rest_unit (by decide)).unit (show 0x7B ≠ quote by decide)
      simpa [Value.units, firstSay?] using opened

theorem finds_elements (elements : Elements) {rest : List CodeUnit} (closes : EndsValue rest) :
    Finds (elements.units ++ rest) rest (firstSayOfElements? elements) :=
  match elements with
  | .last before value after => by
      have found := (finds_value value (closes.spaces after)).rest_skip (spaces_noQuote after)
      have passed := found.skip (spaces_noQuote before)
      simpa [Elements.units, firstSayOfElements?] using passed
  | .more before value after more => by
      have closesHere : EndsValue (comma :: (more.units ++ rest)) := endsValue_cons (.inl rfl)
      have found := (finds_value value (closesHere.spaces after)).rest_skip (spaces_noQuote after)
      have separated := found.rest_unit (by decide)
      have passed := (separated.append (finds_elements more closes)).skip (spaces_noQuote before)
      simpa [Elements.units, firstSayOfElements?] using passed

theorem finds_members (members : Members) {rest : List CodeUnit} (closes : EndsValue rest) :
    Finds (members.units ++ rest) rest (firstSayOfMembers? members) :=
  match members with
  | .last before name between inside value after => by
      have found := ((finds_member name between inside value).append
        (finds_value value (closes.spaces after))).rest_skip (spaces_noQuote after)
      have passed := found.skip (spaces_noQuote before)
      simpa [Members.units, firstSayOfMembers?] using passed
  | .more before name between inside value after more => by
      have closesHere : EndsValue (comma :: (more.units ++ rest)) := endsValue_cons (.inl rfl)
      have found := ((finds_member name between inside value).append
        (finds_value value (closesHere.spaces after))).rest_skip (spaces_noQuote after)
      have separated := found.rest_unit (by decide)
      have passed := (separated.append (finds_members more closes)).skip (spaces_noQuote before)
      simpa [Members.units, firstSayOfMembers?] using passed

end

end
theorem push_text (text : JsonGrammar.Text) :
    (initial.push text.units).1 = ((firstSay? text.value).map (·.flatMap decodePiece)).getD [] := by
  have found : Finds text.units [] (firstSay? text.value) := by
    have inside := finds_value text.value (endsValue_nil.spaces text.after)
    have passed := (inside.rest_skip (spaces_noQuote text.after)).skip (spaces_noQuote text.before)
    simpa [Text.units] using passed
  rw [push_initial]
  cases isSay : firstSay? text.value with
  | none =>
    rw [isSay] at found
    have noMatch : sayMatchEnd? text.units = none := Option.map_eq_none_iff.1 found
    rw [noMatch]
    rfl
  | some literal =>
    rw [isSay] at found
    obtain ⟨more, opened⟩ := found
    obtain ⟨start, isMatch, dropped⟩ := Option.map_eq_some_iff.1 opened
    rw [isMatch]
    dsimp only
    rw [dropped, read_literal ⟨rfl, rfl⟩]
    rfl

/-- The first string under a name that reads as `"say"` spells its control characters out and is
spoken as what was said; without one there is nothing to speak. -/
def ReadsAlike (text : JsonGrammar.Text) (say : List CodeUnit) : Prop :=
  match firstSay? text.value with
  | some literal => SpelledOut literal ∧ spoken literal.value = spoken say
  | none => spoken say = []

theorem pushAll_eq_spoken_iff {text : JsonGrammar.Text} {fragments : List (List CodeUnit)}
    (split : fragments.flatten = text.units) (say : List CodeUnit) :
    (initial.pushAll fragments).1 = spoken say ↔ ReadsAlike text say := by
  rw [pushAll_flatten, split, push_text]
  unfold ReadsAlike
  cases firstSay? text.value with
  | none => exact eq_comm
  | some literal => exact decode_eq_spoken_iff

theorem exists_of_acceptsProperty {properties : List (String × JsonSchema)} {name : List CodeUnit}
    {data : Data} (accepts : acceptsProperty properties name data) :
    ∃ property ∈ properties, utf16Units property.1 = name ∧ property.2.accepts data := by
  induction properties with
  | nil => simp [acceptsProperty] at accepts
  | cons property rest ih =>
    unfold acceptsProperty at accepts
    split at accepts
    next same => exact ⟨property, List.mem_cons_self, same, accepts⟩
    next =>
      obtain ⟨later, isLater, same, acceptsLater⟩ := ih accepts
      exact ⟨later, List.mem_cons_of_mem _ isLater, same, acceptsLater⟩

theorem string_of_accepts {data : Data}
    (accepts : (JsonSchema.string none).accepts data) : ∃ value, data = .string value := by
  cases data with
  | string value => exact ⟨value, rfl⟩
  | _ => simp [JsonSchema.accepts] at accepts

/-- What a turn has for `say` is a string. -/
theorem string_of_acceptsTurn {actions : List String} {options : TurnSchemaOptions} {data : Data}
    (accepts : (buildStructuredTurnJsonSchema actions options).accepts data) :
    ∃ say, data.property? (utf16Units "say") = some (.string say) := by
  cases data with
  | object entries =>
    unfold buildStructuredTurnJsonSchema JsonSchema.accepts at accepts
    rw [Bool.and_eq_true, List.all_eq_true, List.all_eq_true] at accepts
    obtain ⟨required, allowed⟩ := accepts
    have isGiven := required "say" (by simp)
    obtain ⟨value, isValue⟩ := Option.isSome_iff_exists.1 isGiven
    obtain ⟨entry, found, rfl⟩ := Option.map_eq_some_iff.1 isValue
    have name : entry.1 = utf16Units "say" := by simpa using List.find?_some found
    obtain ⟨property, isProperty, sameName, acceptsEntry⟩ :=
      exists_of_acceptsProperty (allowed entry (List.mem_of_find?_eq_some found))
    have isString : property.2 = .string none := by
      by_contra notString
      have isOther : property.1 ∈ ["turnComplete", "reading", "understanding", "interpretation",
          "draft", "awaiting", "action", "message", "confidence", "tone"] := by
        rcases List.mem_cons.1 isProperty with rfl | isLater
        · simp
        rcases List.mem_append.1 isLater with inside | isSay
        · have named : property.1 ∈ List.map Prod.fst _ := List.mem_map_of_mem inside
          obtain ⟨turnCompleteOnly, understanding, tone⟩ := options
          refine List.Sublist.subset ?_ named
          cases understanding <;> cases tone <;> exact List.isSublist_iff_sublist.1 rfl
        · exact absurd (List.mem_singleton.1 isSay ▸ rfl) notString
      have notSay : ∀ other ∈ ["turnComplete", "reading", "understanding", "interpretation",
          "draft", "awaiting", "action", "message", "confidence", "tone"],
          utf16Units other ≠ utf16Units "say" := by decide +kernel
      exact notSay _ isOther (sameName.trans name)
    obtain ⟨say, isSay⟩ := string_of_accepts (isString ▸ acceptsEntry)
    exact ⟨say, isValue.trans (congrArg some isSay)⟩
  | _ => simp [buildStructuredTurnJsonSchema, JsonSchema.accepts] at accepts

/-- Of every text that a turn's schema accepts, however it is cut, what is returned for its
fragments is what `JSON.parse` has for `say`, as it is spoken, if and only if the first string under
a name that reads as `"say"` reads like it and spells its control characters out. -/
theorem spokenTurn_iff {actions : List String} {options : TurnSchemaOptions} {text : JsonGrammar.Text}
    (accepts : (buildStructuredTurnJsonSchema actions options).accepts text.parse) :
    ∃ say, text.parse.property? (utf16Units "say") = some (.string say) ∧
      ∀ fragments : List (List CodeUnit), fragments.flatten = text.units →
        ((initial.pushAll fragments).1 = spoken say ↔ ReadsAlike text say) := by
  obtain ⟨say, isSay⟩ := string_of_acceptsTurn accepts
  exact ⟨say, isSay, fun _ split => pushAll_eq_spoken_iff split say⟩

section

/-- A string written without escapes. -/
def written (text : String) : Literal :=
  (utf16Units text).filterMap fun unit =>
    if plain : unit < 0x10000 ∧ 0x20 ≤ unit ∧ unit ≠ quote ∧ unit ≠ backslash then
      some (.plain ⟨unit, plain.1, plain.2.1, plain.2.2.1, plain.2.2.2⟩)
    else none

def noSpaces : Spaces := ⟨[], rfl⟩

/-- An object with the given members and no spaces. -/
def membersOf (name : String) (value : Value) : List (String × Value) → Members
  | [] => .last noSpaces (written name) noSpaces noSpaces value noSpaces
  | member :: rest =>
    .more noSpaces (written name) noSpaces noSpaces value noSpaces (membersOf member.1 member.2 rest)

def zero : JsonGrammar.Number := .zero

def draftValue : Value :=
  .object (membersOf "date" (.string []) [("time", .string []), ("partySize", .number zero),
    ("customerName", .string [])])

def questionText (say : Literal) : JsonGrammar.Text where
  before := noSpaces
  value := .object (membersOf "turnComplete" (.bool true)
    [("interpretation", .string (written "question")), ("draft", draftValue),
      ("awaiting", .string (written "none")), ("action", .string (written "none")),
      ("message", .string []), ("confidence", .string (written "high")), ("say", .string say)])
  after := noSpaces

def plainOptions : TurnSchemaOptions := ⟨false, false, false⟩

/-- A turn without escapes that comes in pieces. -/
theorem spokenTurn_question :
    ∃ say, (questionText (written "Oui ?")).parse.property? (utf16Units "say") =
        some (.string say) ∧
      ∀ fragments : List (List CodeUnit), fragments.flatten = (questionText (written "Oui ?")).units →
        ((initial.pushAll fragments).1 = spoken say ↔
          ReadsAlike (questionText (written "Oui ?")) say) := by
  have accepts : (buildStructuredTurnJsonSchema ["none"] plainOptions).accepts
      (questionText (written "Oui ?")).parse := by decide +kernel
  exact spokenTurn_iff accepts

/-- A line feed written as a `\u` escape. -/
def lineFeedSay : Literal :=
  written "Oui" ++ .unicode ⟨⟨0, by decide⟩, false⟩ ⟨⟨0, by decide⟩, false⟩
    ⟨⟨0, by decide⟩, false⟩ ⟨⟨10, by decide⟩, false⟩ :: written "?"

/-- A line feed written as a `\u` escape is returned as it is. -/
theorem spokenTurn_lineFeed : ¬ ∀ (actions : List String) (options : TurnSchemaOptions)
    (text : JsonGrammar.Text), (buildStructuredTurnJsonSchema actions options).accepts text.parse →
      ∀ say, text.parse.property? (utf16Units "say") = some (.string say) →
        ∀ fragments : List (List CodeUnit), fragments.flatten = text.units →
          (initial.pushAll fragments).1 = spoken say := by
  intro claim
  have accepts : (buildStructuredTurnJsonSchema ["none"] plainOptions).accepts
      (questionText lineFeedSay).parse := by decide +kernel
  have isSay : (questionText lineFeedSay).parse.property? (utf16Units "say") =
      some (.string [0x4F, 0x75, 0x69, 0x0A, 0x3F]) := by
    rfl
  have same := claim _ _ _ accepts _ isSay [(questionText lineFeedSay).units] List.flatten_singleton
  exact absurd same (by decide +kernel)

end

end Sokar
