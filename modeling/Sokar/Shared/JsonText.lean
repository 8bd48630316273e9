import Sokar.Shared.Text

/-!
# JSON text

`JSON.parse` and `JSON.stringify` of the values that the services read from files and write to
them.
-/

namespace Sokar

/-- What `JSON.parse` returns.  A number is held as `String` writes it, since its digits are
those of a double. -/
inductive JsonValue where
  | null
  | bool (value : Bool)
  | number (text : String)
  | string (value : String)
  | array (elements : List JsonValue)
  | object (entries : List (String × JsonValue))

/-- `String(Number(token))`. -/
class NumberText where
  numberText : String → String

/-- Numbers as they are written. -/
@[reducible] def NumberText.plain : NumberText where
  numberText := id

variable (char : Char)

variable (text : List Char)

section

def hexDigit? : Option Nat :=
  if char.isDigit then some (char.toNat - '0'.toNat)
  else if 'a' ≤ char ∧ char ≤ 'f' then some (char.toNat - 'a'.toNat + 10)
  else if 'A' ≤ char ∧ char ≤ 'F' then some (char.toNat - 'A'.toNat + 10)
  else none

/-- The code unit a short escape stands for. -/
def escapeUnit? : Char → Option Nat
  | '"' => some 0x22
  | '\\' => some 0x5C
  | '/' => some 0x2F
  | 'b' => some 0x08
  | 'f' => some 0x0C
  | 'n' => some 0x0A
  | 'r' => some 0x0D
  | 't' => some 0x09
  | _ => none

def charUnits : List Nat :=
  if char.toNat < 0x10000 then [char.toNat]
  else [0xD800 + (char.toNat - 0x10000) / 0x400, 0xDC00 + (char.toNat - 0x10000) % 0x400]

/-- Where the reader of a string literal stands: between characters, after a backslash, or
within a `\u` escape with the digits that are left and their value so far. -/
inductive StringMode where
  | plain
  | escape
  | unicode (left value : Nat)

/-- The code units of a string literal after its opening quote, and what follows the closing
one. -/
def stringUnits : StringMode → List Char → Option (List Nat × List Char)
  | _, [] => none
  | .plain, char :: rest =>
    if char = '"' then some ([], rest)
    else if char = '\\' then stringUnits .escape rest
    else if char.toNat < 0x20 then none
    else (stringUnits .plain rest).map fun read => (charUnits char ++ read.1, read.2)
  | .escape, char :: rest =>
    if char = 'u' then stringUnits (.unicode 3 0) rest
    else match escapeUnit? char with
      | none => none
      | some unit => (stringUnits .plain rest).map fun read => (unit :: read.1, read.2)
  | .unicode left value, char :: rest =>
    match hexDigit? char with
    | none => none
    | some digit =>
      match left with
      | 0 => (stringUnits .plain rest).map fun read => ((16 * value + digit) :: read.1, read.2)
      | left + 1 => stringUnits (.unicode left (16 * value + digit)) rest

def isHighSurrogate (unit : Nat) : Bool :=
  0xD800 ≤ unit && unit < 0xDC00

def isLowSurrogate (unit : Nat) : Bool :=
  0xDC00 ≤ unit && unit < 0xE000

/-- A code unit on its own; a lone surrogate, which no text of Lean holds, is replaced. -/
def loneUnit (unit : Nat) : Char :=
  if isHighSurrogate unit || isLowSurrogate unit then '\uFFFD' else Char.ofNat unit

def decodeUnits : List Nat → List Char
  | [] => []
  | [unit] => [loneUnit unit]
  | high :: low :: rest =>
    if isHighSurrogate high && isLowSurrogate low then
      Char.ofNat (0x10000 + (high - 0xD800) * 0x400 + (low - 0xDC00)) :: decodeUnits rest
    else loneUnit high :: decodeUnits (low :: rest)

def parseString : Option (String × List Char) :=
  (stringUnits .plain text).map fun read => (String.ofList (decodeUnits read.1), read.2)

end

section

variable [NumberText]

def isJsonSpace : Bool :=
  char == ' ' || char == '\t' || char == '\n' || char == '\r'

def skipSpaces : List Char :=
  text.dropWhile isJsonSpace

/-- At least one digit, and what follows the digits. -/
def digitsToken : Option (List Char × List Char) :=
  match text.span Char.isDigit with
  | ([], _) => none
  | read => some read

/-- The digits before the point, which start with a zero only if it is the only one. -/
def wholeToken : List Char → Option (List Char × List Char)
  | '0' :: rest => some (['0'], rest)
  | text => digitsToken text

def fractionToken : List Char → Option (List Char × List Char)
  | '.' :: rest => (digitsToken rest).map fun read => ('.' :: read.1, read.2)
  | text => some ([], text)

def exponentToken : List Char → Option (List Char × List Char)
  | mark :: sign :: rest =>
    if mark = 'e' ∨ mark = 'E' then
      if sign = '+' ∨ sign = '-' then
        (digitsToken rest).map fun read => (mark :: sign :: read.1, read.2)
      else (digitsToken (sign :: rest)).map fun read => (mark :: read.1, read.2)
    else some ([], mark :: sign :: rest)
  | text => if text = ['e'] ∨ text = ['E'] then none else some ([], text)

def parseNumber : Option (JsonValue × List Char) := do
  let (sign, text) := if text.head? = some '-' then (['-'], text.drop 1) else ([], text)
  let (whole, text) ← wholeToken text
  let (fraction, text) ← fractionToken text
  let (exponent, text) ← exponentToken text
  return (.number (NumberText.numberText
    (String.ofList (sign ++ whole ++ fraction ++ exponent))), text)

/-- A property set again keeps its place. -/
def setEntry (key : String) (value : JsonValue) :
    List (String × JsonValue) → List (String × JsonValue)
  | [] => [(key, value)]
  | entry :: rest => if entry.1 = key then (key, value) :: rest else entry :: setEntry key value rest

mutual

/-- A value at the start of the text, and what follows it. -/
def parseValue : (fuel : Nat) → List Char → Option (JsonValue × List Char)
  | 0, _ => none
  | fuel + 1, text =>
    match skipSpaces text with
    | '"' :: rest => (parseString rest).map fun read => (.string read.1, read.2)
    | '[' :: rest =>
      match skipSpaces rest with
      | ']' :: rest => some (.array [], rest)
      | rest => (parseElements fuel rest).map fun read => (.array read.1, read.2)
    | '{' :: rest =>
      match skipSpaces rest with
      | '}' :: rest => some (.object [], rest)
      | rest => (parseMembers fuel [] rest).map fun read => (.object read.1, read.2)
    | 'n' :: 'u' :: 'l' :: 'l' :: rest => some (.null, rest)
    | 't' :: 'r' :: 'u' :: 'e' :: rest => some (.bool true, rest)
    | 'f' :: 'a' :: 'l' :: 's' :: 'e' :: rest => some (.bool false, rest)
    | rest => parseNumber rest

/-- The elements of an array up to its closing bracket. -/
def parseElements : (fuel : Nat) → List Char → Option (List JsonValue × List Char)
  | 0, _ => none
  | fuel + 1, text => do
      let (value, text) ← parseValue fuel text
      match skipSpaces text with
      | ',' :: rest =>
        let (values, rest) ← parseElements fuel rest
        return (value :: values, rest)
      | ']' :: rest => return ([value], rest)
      | _ => none

/-- The members of an object up to its closing brace, added to those already read. -/
def parseMembers : (fuel : Nat) → List (String × JsonValue) → List Char →
    Option (List (String × JsonValue) × List Char)
  | 0, _, _ => none
  | fuel + 1, entries, text =>
    match skipSpaces text with
    | '"' :: rest => do
        let (key, text) ← parseString rest
        match skipSpaces text with
        | ':' :: rest =>
          let (value, text) ← parseValue fuel rest
          match skipSpaces text with
          | ',' :: rest => parseMembers fuel (setEntry key value entries) rest
          | '}' :: rest => return (setEntry key value entries, rest)
          | _ => none
        | _ => none
    | _ => none

end

/-- `JSON.parse`; none where it throws.  Every second call reads a character, so the fuel
suffices. -/
def parseJsonText (text : String) : Option JsonValue :=
  match parseValue (2 * text.toList.length + 2) text.toList with
  | some (value, rest) => if skipSpaces rest = [] then some value else none
  | none => none

end

variable (level : Nat)

section

def hexChar (digit : Nat) : Char :=
  if digit < 10 then Char.ofNat ('0'.toNat + digit) else Char.ofNat ('a'.toNat + (digit - 10))

def escapeChar : List Char :=
  if char = '"' then ['\\', '"']
  else if char = '\\' then ['\\', '\\']
  else if char.toNat = 0x08 then ['\\', 'b']
  else if char.toNat = 0x0C then ['\\', 'f']
  else if char.toNat = 0x0A then ['\\', 'n']
  else if char.toNat = 0x0D then ['\\', 'r']
  else if char.toNat = 0x09 then ['\\', 't']
  else if char.toNat < 0x20 then
    ['\\', 'u', '0', '0', hexChar (char.toNat / 16), hexChar (char.toNat % 16)]
  else [char]

def stringText (text : String) : List Char :=
  '"' :: text.toList.flatMap escapeChar ++ ['"']

/-- A new line with two spaces for each level. -/
def lineBreak : List Char :=
  '\n' :: List.replicate (2 * level) ' '

mutual

/-- `JSON.stringify(value, null, 2)`, at a level of the indentation. -/
def valueText (level : Nat) : JsonValue → List Char
  | .null => "null".toList
  | .bool true => "true".toList
  | .bool false => "false".toList
  | .number text => text.toList
  | .string text => stringText text
  | .array [] => "[]".toList
  | .array (element :: rest) =>
    '[' :: lineBreak (level + 1) ++ valueText (level + 1) element ++
      elementsText (level + 1) rest ++ lineBreak level ++ [']']
  | .object [] => "{}".toList
  | .object (entry :: rest) =>
    '{' :: lineBreak (level + 1) ++ stringText entry.1 ++ ": ".toList ++
      valueText (level + 1) entry.2 ++ membersText (level + 1) rest ++ lineBreak level ++ ['}']

def elementsText (level : Nat) : List JsonValue → List Char
  | [] => []
  | element :: rest => ',' :: lineBreak level ++ valueText level element ++ elementsText level rest

def membersText (level : Nat) : List (String × JsonValue) → List Char
  | [] => []
  | (key, value) :: rest =>
    ',' :: lineBreak level ++ stringText key ++ ": ".toList ++ valueText level value ++
      membersText level rest

end

/-- `JSON.stringify(value, null, 2)`. -/
def stringifyJson (value : JsonValue) : String :=
  String.ofList (valueText 0 value)

end

section

theorem hexDigit?_hexChar : ∀ digit < 16, hexDigit? (hexChar digit) = some digit := by
  decide

/-- Reading back an escaped character gives its code units. -/
theorem stringUnits_escapeChar (rest : List Char) : stringUnits .plain (escapeChar char ++ rest) =
      (stringUnits .plain rest).map fun read => (charUnits char ++ read.1, read.2) := by
  have short : ∀ unit < 0x80, ∀ other : Char, other.toNat = unit → charUnits other = [unit] := by
    intro unit small other toNat
    rw [charUnits, toNat, if_pos (by omega)]
  unfold escapeChar
  split
  next quote =>
    subst quote
    rfl
  split
  next slash =>
    subst slash
    rfl
  split
  next code =>
    rw [short _ (by decide) char code]
    rfl
  split
  next code =>
    rw [short _ (by decide) char code]
    rfl
  split
  next code =>
    rw [short _ (by decide) char code]
    rfl
  split
  next code =>
    rw [short _ (by decide) char code]
    rfl
  split
  next code =>
    rw [short _ (by decide) char code]
    rfl
  split
  next control =>
    have high := hexDigit?_hexChar (char.toNat / 16) (by omega)
    have low := hexDigit?_hexChar (char.toNat % 16) (by omega)
    have zero : hexDigit? '0' = some 0 := rfl
    have value : 16 * (16 * (16 * (16 * 0 + 0) + 0) + char.toNat / 16) + char.toNat % 16 =
        char.toNat := by omega
    simp only [List.cons_append, List.nil_append, stringUnits, zero, high, low, value,
      short char.toNat (by omega) char rfl]
    rfl
  next notQuote notSlash _ _ _ _ _ printable =>
    rw [List.singleton_append, stringUnits, if_neg notQuote, if_neg notSlash, if_neg printable]

theorem stringUnits_escaped (text rest : List Char) :
    stringUnits .plain (text.flatMap escapeChar ++ '"' :: rest) =
      some (text.flatMap charUnits, rest) := by
  induction text with
  | nil => rfl
  | cons char others ih =>
    rw [List.flatMap_cons, List.append_assoc, stringUnits_escapeChar, ih]
    rfl

theorem decodeUnits_charUnits : decodeUnits (text.flatMap charUnits) = text := by
  induction text with
  | nil => rfl
  | cons char others ih =>
    rw [List.flatMap_cons, charUnits]
    split
    next basic =>
      have notSurrogate : isHighSurrogate char.toNat = false ∧ isLowSurrogate char.toNat = false := by
        have valid := char.valid
        have inRange : char.toNat < 0xD800 ∨ 0xDFFF < char.toNat := by
          rcases valid with below | above
          · exact Or.inl below
          · exact Or.inr above.1
        simp only [isHighSurrogate, isLowSurrogate, Bool.and_eq_false_iff, decide_eq_false_iff_not]
        omega
      have lone : loneUnit char.toNat = char := by
        rw [loneUnit, notSurrogate.1, notSurrogate.2]
        exact Char.ofNat_toNat char
      cases units : others.flatMap charUnits with
      | nil =>
        rw [units] at ih
        rw [List.append_nil, decodeUnits, lone, ← ih]
        rfl
      | cons unit units' =>
        rw [List.singleton_append, decodeUnits, notSurrogate.1]
        rw [if_neg (by simp), lone, ← units, ih]
    next astral =>
      have bound : char.toNat < 0x110000 := by
        rcases char.valid with below | above
        · exact lt_trans below (by decide)
        · exact above.2
      have high : isHighSurrogate (0xD800 + (char.toNat - 0x10000) / 0x400) = true := by
        simp only [isHighSurrogate, Bool.and_eq_true, decide_eq_true_eq]
        omega
      have low : isLowSurrogate (0xDC00 + (char.toNat - 0x10000) % 0x400) = true := by
        simp only [isLowSurrogate, Bool.and_eq_true, decide_eq_true_eq]
        omega
      have value : 0x10000 + (0xD800 + (char.toNat - 0x10000) / 0x400 - 0xD800) * 0x400 +
          (0xDC00 + (char.toNat - 0x10000) % 0x400 - 0xDC00) = char.toNat := by omega
      rw [List.cons_append, List.singleton_append, decodeUnits, high, low, Bool.and_self,
        if_pos rfl, value, Char.ofNat_toNat, ih]

theorem parseString_stringText (text : String) (rest : List Char) :
    parseString (text.toList.flatMap escapeChar ++ '"' :: rest) = some (text, rest) := by
  rw [parseString, stringUnits_escaped, Option.map_some, decodeUnits_charUnits, String.ofList_toList]

end

section

def textObject (fields : List (String × String)) : JsonValue :=
  .object (fields.map fun field => (field.1, .string field.2))

section

variable {char : Char} (visible : isJsonSpace char = false) (rest : List Char)
include visible

theorem skipSpaces_cons : skipSpaces (char :: rest) = char :: rest := by
  simp [skipSpaces, visible]

theorem skipSpaces_lineBreak : skipSpaces (lineBreak level ++ char :: rest) = char :: rest := by
  have spaces : ∀ count, skipSpaces (List.replicate count ' ' ++ char :: rest) = char :: rest := by
    intro count
    induction count with
    | zero => exact skipSpaces_cons visible rest
    | succ count ih => simpa [skipSpaces, List.replicate_succ, isJsonSpace] using ih
  simpa [skipSpaces, lineBreak, isJsonSpace] using spaces (2 * level)

end

variable {entries : List (String × JsonValue)}

theorem setEntry_new {key : String} {value : JsonValue} (absent : key ∉ entries.map Prod.fst) :
    setEntry key value entries = entries ++ [(key, value)] := by
  induction entries with
  | nil => rfl
  | cons entry rest ih =>
    rw [List.map_cons, List.mem_cons, not_or] at absent
    rw [setEntry, if_neg (Ne.symm absent.1), ih absent.2, List.cons_append]

def fieldsText : List (String × String) → List Char
  | [] => []
  | field :: rest =>
    stringText field.1 ++ ": ".toList ++ stringText field.2 ++
      membersText level (rest.map fun field => (field.1, .string field.2))

/-- The elements of an array of such objects, without the line break before the first. -/
def objectsText : List (List (String × String)) → List Char
  | [] => []
  | fields :: rest =>
    valueText level (textObject fields) ++ elementsText level (rest.map textObject)

variable [NumberText]

theorem parseValue_stringText (fuel : Nat) (text : String) (rest : List Char) :
    parseValue (fuel + 1) (' ' :: stringText text ++ rest) = some (.string text, rest) := by
  have literal : skipSpaces (' ' :: stringText text ++ rest) =
      '"' :: (text.toList.flatMap escapeChar ++ '"' :: rest) := by
    simp [skipSpaces, stringText, isJsonSpace]
  rw [parseValue, literal]
  simp only [parseString_stringText, Option.map_some]

omit [NumberText] in
theorem membersText_cons (field : String × String) (others : List (String × String)) :
    membersText level ((field :: others).map fun field => (field.1, .string field.2)) =
      ',' :: lineBreak level ++ fieldsText level (field :: others) := by
  simp [membersText, fieldsText, valueText]

variable {fields : List (String × String)} {before : List Char}

theorem parseMembers_fieldsText (rest : List Char) (nonempty : fields ≠ [])
    (fresh : (entries.map Prod.fst ++ fields.map Prod.fst).Nodup) {fuel : Nat}
    (enough : (fieldsText (level + 1) fields).length ≤ fuel)
    (blank : ∀ tail, skipSpaces (before ++ '"' :: tail) = '"' :: tail) :
    parseMembers fuel entries
        (before ++ fieldsText (level + 1) fields ++ lineBreak level ++ '}' :: rest) =
      some (entries ++ fields.map fun field => (field.1, .string field.2), rest) := by
  induction fields generalizing entries fuel before with
  | nil => exact absurd rfl nonempty
  | cons field others ih =>
    obtain ⟨key, value⟩ := field
    simp only [fieldsText, List.length_append, stringText, List.length_cons, List.length_nil]
      at enough
    obtain ⟨fuel, rfl⟩ : ∃ less, fuel = less + 1 + 1 := ⟨fuel - 2, by omega⟩
    have absent : key ∉ entries.map Prod.fst := by
      intro found
      exact (List.nodup_append.1 fresh).2.2 key found key List.mem_cons_self rfl
    have text : before ++ fieldsText (level + 1) ((key, value) :: others) ++ lineBreak level ++
          '}' :: rest =
        before ++ '"' :: (key.toList.flatMap escapeChar ++ '"' :: (':' :: (' ' :: stringText value ++
          (membersText (level + 1) (others.map fun field => (field.1, .string field.2)) ++
            lineBreak level ++ '}' :: rest)))) := by
      simp [fieldsText, stringText]
    have colon : ∀ tail, skipSpaces (':' :: tail) = ':' :: tail := fun tail =>
      skipSpaces_cons rfl tail
    rw [text, parseMembers, blank]
    simp only [parseString_stringText, Option.bind_eq_bind, Option.bind_some, colon,
      parseValue_stringText, setEntry_new absent]
    cases others with
    | nil =>
      rw [List.map_nil, membersText, List.nil_append, skipSpaces_lineBreak level rfl]
      simp
    | cons next others =>
      rw [membersText_cons, List.cons_append, List.cons_append, List.cons_append,
        skipSpaces_cons rfl]
      simp only
      rw [ih (List.cons_ne_nil _ _) (by simpa using fresh) _ (fun tail =>
        skipSpaces_lineBreak _ rfl tail)]
      · simp
      · rw [membersText_cons] at enough
        simp only [List.length_append, List.length_cons] at enough
        omega

/-- An object of strings without a key twice is read back. -/
theorem parseValue_textObject (level : Nat) (nonempty : fields ≠ [])
    (keys : (fields.map Prod.fst).Nodup) {fuel : Nat}
    (enough : (valueText level (textObject fields)).length ≤ fuel) (rest : List Char)
    (blank : ∀ tail, skipSpaces (before ++ '{' :: tail) = '{' :: tail) :
    parseValue fuel (before ++ valueText level (textObject fields) ++ rest) =
      some (textObject fields, rest) := by
  match fields, nonempty with
  | (key, value) :: others, _ =>
    have written : valueText level (textObject ((key, value) :: others)) =
        '{' :: lineBreak (level + 1) ++ fieldsText (level + 1) ((key, value) :: others) ++
          lineBreak level ++ ['}'] := by
      simp [textObject, valueText, fieldsText]
    rw [written] at enough ⊢
    obtain ⟨less, rfl⟩ : ∃ less, fuel = less + 1 := by
      refine ⟨fuel - 1, ?_⟩
      simp only [List.cons_append, List.length_cons] at enough
      omega
    have text : before ++ ('{' :: lineBreak (level + 1) ++
          fieldsText (level + 1) ((key, value) :: others) ++ lineBreak level ++ ['}']) ++ rest =
        before ++ '{' :: (lineBreak (level + 1) ++ '"' ::
          ((fieldsText (level + 1) ((key, value) :: others)).tail ++ lineBreak level ++
            '}' :: rest)) := by
      simp [fieldsText, stringText]
    have within : (fieldsText (level + 1) ((key, value) :: others)).length ≤ less := by
      simp only [List.length_append, List.length_cons] at enough
      omega
    have members : parseMembers less [] ([] ++ fieldsText (level + 1) ((key, value) :: others) ++
          lineBreak level ++ '}' :: rest) = _ :=
      parseMembers_fieldsText level rest (List.cons_ne_nil _ _) (by simpa using keys) within
        (fun tail => skipSpaces_cons rfl tail)
    have first : [] ++ fieldsText (level + 1) ((key, value) :: others) ++ lineBreak level ++
          '}' :: rest =
        '"' :: ((fieldsText (level + 1) ((key, value) :: others)).tail ++ lineBreak level ++
          '}' :: rest) := by
      simp [fieldsText, stringText]
    rw [first] at members
    rw [text, parseValue, blank]
    simp only [skipSpaces_lineBreak (level + 1) (show isJsonSpace '"' = false from rfl)]
    change (parseMembers less [] ('"' :: _)).map _ = _
    rw [members]
    rfl

omit [NumberText] in
theorem elementsText_cons (level : Nat) (fields : List (String × String))
    (others : List (List (String × String))) :
    elementsText level ((fields :: others).map textObject) =
      ',' :: lineBreak level ++ objectsText level (fields :: others) := by
  simp [elementsText, objectsText]

omit [NumberText] in
/-- An object's text starts with its brace. -/
theorem valueText_textObject (fields : List (String × String)) :
    ∃ tail, valueText level (textObject fields) = '{' :: tail := by
  cases fields with
  | nil => exact ⟨_, rfl⟩
  | cons field others => exact ⟨_, rfl⟩

variable {table : List (List (String × String))}

theorem parseElements_objectsText (level : Nat) (rest : List Char) (nonempty : table ≠ [])
    (filled : ∀ fields ∈ table, fields ≠ [] ∧ (fields.map Prod.fst).Nodup) {fuel : Nat}
    (enough : (objectsText (level + 1) table).length < fuel)
    (blank : ∀ tail, skipSpaces (before ++ '{' :: tail) = '{' :: tail) :
    parseElements fuel (before ++ objectsText (level + 1) table ++ lineBreak level ++ ']' :: rest) =
      some (table.map textObject, rest) := by
  induction table generalizing fuel before with
  | nil => exact absurd rfl nonempty
  | cons fields others ih =>
    have head := filled fields List.mem_cons_self
    rw [objectsText, List.length_append] at enough
    obtain ⟨fuel, rfl⟩ : ∃ less, fuel = less + 1 := ⟨fuel - 1, by omega⟩
    have text : before ++ objectsText (level + 1) (fields :: others) ++ lineBreak level ++
          ']' :: rest =
        before ++ valueText (level + 1) (textObject fields) ++
          (elementsText (level + 1) (others.map textObject) ++ lineBreak level ++ ']' :: rest) := by
      simp [objectsText]
    have value := parseValue_textObject (level + 1) head.1 head.2
      (by omega : (valueText (level + 1) (textObject fields)).length ≤ fuel)
      (elementsText (level + 1) (others.map textObject) ++ lineBreak level ++ ']' :: rest) blank
    rw [text, parseElements, value]
    simp only [Option.bind_eq_bind, Option.bind_some]
    cases others with
    | nil =>
      rw [List.map_nil, elementsText, List.nil_append,
        skipSpaces_lineBreak level (show isJsonSpace ']' = false from rfl)]
      rfl
    | cons next others =>
      rw [elementsText_cons] at enough ⊢
      simp only [List.length_append, List.length_cons] at enough
      rw [List.cons_append, List.cons_append, List.cons_append, skipSpaces_cons rfl]
      simp only
      rw [ih (List.cons_ne_nil _ _) (fun fields listed => filled fields
        (List.mem_cons_of_mem _ listed)) (by omega) (fun tail =>
        skipSpaces_lineBreak _ rfl tail)]
      rfl

/-- A table written with `JSON.stringify(rows, null, 2)` and a new line is read back. -/
theorem parseJsonText_table (nonempty : table ≠ [])
    (filled : ∀ fields ∈ table, fields ≠ [] ∧ (fields.map Prod.fst).Nodup) :
    parseJsonText (stringifyJson (.array (table.map textObject)) ++ "\n") =
      some (.array (table.map textObject)) := by
  match table, nonempty with
  | fields :: others, nonempty =>
    have text : (stringifyJson (.array ((fields :: others).map textObject)) ++ "\n").toList =
        '[' :: (lineBreak 1 ++ objectsText 1 (fields :: others) ++ lineBreak 0 ++
          ']' :: ['\n']) := by
      simp [stringifyJson, valueText, objectsText]
    obtain ⟨tail, brace⟩ := valueText_textObject 1 fields
    have opened : ∀ rest, skipSpaces (lineBreak 1 ++ objectsText 1 (fields :: others) ++ rest) =
        '{' :: (tail ++ elementsText 1 (others.map textObject) ++ rest) := by
      intro rest
      rw [objectsText, brace, List.append_assoc, List.append_assoc, List.cons_append,
        skipSpaces_lineBreak 1 rfl, List.append_assoc]
    have first : [] ++ objectsText 1 (fields :: others) ++ lineBreak 0 ++ ']' :: ['\n'] =
        '{' :: (tail ++ elementsText 1 (others.map textObject) ++ (lineBreak 0 ++ ']' :: ['\n'])) := by
      rw [objectsText, brace]
      simp
    have elements : ∀ fuel, (objectsText 1 (fields :: others)).length < fuel →
        parseElements fuel ('{' :: (tail ++ elementsText 1 (others.map textObject) ++
          (lineBreak 0 ++ ']' :: ['\n']))) = some ((fields :: others).map textObject, ['\n']) := by
      intro fuel enough
      rw [← first]
      exact parseElements_objectsText 0 ['\n'] nonempty filled enough
        (fun tail => skipSpaces_cons rfl tail)
    have value : ∀ fuel, (objectsText 1 (fields :: others)).length < fuel →
        parseValue (fuel + 1) ('[' :: (lineBreak 1 ++ objectsText 1 (fields :: others) ++
            lineBreak 0 ++ ']' :: ['\n'])) =
          some (.array ((fields :: others).map textObject), ['\n']) := by
      intro fuel enough
      rw [parseValue, skipSpaces_cons rfl]
      simp only [List.append_assoc] at opened elements ⊢
      rw [opened]
      change (parseElements fuel ('{' :: _)).map _ = _
      rw [elements fuel enough]
      rfl
    rw [parseJsonText, text, value]
    · rfl
    · simp only [List.length_cons, List.length_append]
      omega

end

end Sokar