import Mathlib.Data.Rat.Defs

/-!
# JSON texts as they are written

The grammar of JSON as a type: a tree is a text together with how it is read, `units` are the code
units it is written with and `data` is what it says.  Strings are lists of UTF-16 code units, so a
text can be cut anywhere, and a lone surrogate is a string like any other.
-/

namespace JsonGrammar

abbrev CodeUnit := Nat

namespace CodeUnit

def quote : CodeUnit := 0x22
def backslash : CodeUnit := 0x5C
def comma : CodeUnit := 0x2C
def colon : CodeUnit := 0x3A

end CodeUnit

open CodeUnit

/-- The escapes of one character after the backslash. -/
inductive Escape where
  | quote
  | backslash
  | slash
  | b
  | f
  | n
  | r
  | t
  deriving DecidableEq

def Escape.mark : Escape → CodeUnit
  | .quote => CodeUnit.quote
  | .backslash => CodeUnit.backslash
  | .slash => 0x2F
  | .b => 0x62
  | .f => 0x66
  | .n => 0x6E
  | .r => 0x72
  | .t => 0x74

def Escape.value : Escape → CodeUnit
  | .b => 0x08
  | .f => 0x0C
  | .n => 0x0A
  | .r => 0x0D
  | .t => 0x09
  | escape => escape.mark

structure HexDigit where
  value : Fin 16
  isCapital : Bool
  deriving DecidableEq

def HexDigit.unit (digit : HexDigit) : CodeUnit :=
  if digit.value < 10 then 0x30 + digit.value
  else if digit.isCapital then 0x37 + digit.value
  else 0x57 + digit.value

/-- A code unit that stands for itself in a string. -/
structure PlainUnit where
  unit : CodeUnit
  small : unit < 0x10000
  noControl : 0x20 ≤ unit
  ne_quote : unit ≠ quote
  ne_backslash : unit ≠ backslash
  deriving DecidableEq

/-- What a string is written with, one code unit of its value at a time. -/
inductive Piece where
  | plain (same : PlainUnit)
  | short (escape : Escape)
  | unicode (first second third fourth : HexDigit)
  deriving DecidableEq

namespace Piece

def units : Piece → List CodeUnit
  | .plain same => [same.unit]
  | .short escape => [backslash, escape.mark]
  | .unicode first second third fourth =>
    [backslash, 0x75, first.unit, second.unit, third.unit, fourth.unit]

def value : Piece → CodeUnit
  | .plain same => same.unit
  | .short escape => escape.value
  | .unicode first second third fourth =>
    ((first.value * 16 + second.value) * 16 + third.value) * 16 + fourth.value

end Piece

/-- A string between its quotes. -/
abbrev Literal := List Piece

def Literal.units (literal : Literal) : List CodeUnit :=
  literal.flatMap Piece.units

def Literal.value (literal : Literal) : List CodeUnit :=
  literal.map Piece.value

structure Digits where
  first : Fin 10
  rest : List (Fin 10)
  deriving DecidableEq

namespace Digits

def all (digits : Digits) : List (Fin 10) :=
  digits.first :: digits.rest

def units (digits : Digits) : List CodeUnit :=
  digits.all.map fun digit => 0x30 + digit.val

def value (digits : Digits) : Nat :=
  digits.all.foldl (fun value digit => 10 * value + digit.val) 0

end Digits

structure Exponent where
  isCapital : Bool
  /-- Whether a sign is written, and whether it is a minus. -/
  sign : Option Bool
  digits : Digits
  deriving DecidableEq

def signUnit (isMinus : Bool) : CodeUnit :=
  if isMinus then 0x2D else 0x2B

def Exponent.units (exponent : Exponent) : List CodeUnit :=
  (if exponent.isCapital then 0x45 else 0x65) ::
    ((exponent.sign.map signUnit).toList ++ exponent.digits.units)

def Exponent.value (exponent : Exponent) : Int :=
  if exponent.sign = some true then -exponent.digits.value else exponent.digits.value

/-- A number, whose whole part starts with a zero only if that is all there is of it. -/
structure Number where
  isNegative : Bool
  whole : Digits
  noLeadingZero : whole.first = 0 → whole.rest = []
  fraction : Option Digits
  exponent : Option Exponent
  deriving DecidableEq

def Number.zero : Number :=
  ⟨false, ⟨0, []⟩, fun _ => rfl, none, none⟩

def Number.units (number : Number) : List CodeUnit :=
  (if number.isNegative then [signUnit true] else []) ++ number.whole.units ++
    (match number.fraction with
      | some digits => 0x2E :: digits.units
      | none => []) ++
    match number.exponent with
      | some exponent => exponent.units
      | none => []

def Number.value (number : Number) : ℚ :=
  let fraction : ℚ := match number.fraction with
    | some digits => digits.value / 10 ^ digits.all.length
    | none => 0
  let exponent : Int := match number.exponent with
    | some exponent => exponent.value
    | none => 0
  (if number.isNegative then -1 else 1) * (number.whole.value + fraction) * 10 ^ exponent

def isSpace (unit : CodeUnit) : Bool :=
  unit == 0x20 || unit == 0x09 || unit == 0x0A || unit == 0x0D

structure Spaces where
  units : List CodeUnit
  areSpaces : units.all isSpace
  deriving DecidableEq

mutual

inductive Value where
  | null
  | bool (value : Bool)
  | number (number : Number)
  | string (literal : Literal)
  | emptyArray (spaces : Spaces)
  | array (elements : Elements)
  | emptyObject (spaces : Spaces)
  | object (members : Members)

/-- The elements of an array, each with the spaces around it. -/
inductive Elements where
  | last (before : Spaces) (value : Value) (after : Spaces)
  | more (before : Spaces) (value : Value) (after : Spaces) (rest : Elements)

/-- The members of an object, with the spaces before and after the name and the value. -/
inductive Members where
  | last (before : Spaces) (name : Literal) (between inside : Spaces) (value : Value)
      (after : Spaces)
  | more (before : Spaces) (name : Literal) (between inside : Spaces) (value : Value)
      (after : Spaces) (rest : Members)

end

/-- A value with the spaces around it. -/
structure Text where
  before : Spaces
  value : Value
  after : Spaces

def boolUnits : Bool → List CodeUnit
  | true => [0x74, 0x72, 0x75, 0x65]
  | false => [0x66, 0x61, 0x6C, 0x73, 0x65]

def Literal.quoted (literal : Literal) : List CodeUnit :=
  quote :: (literal.units ++ [quote])

mutual

def Value.units : Value → List CodeUnit
  | .null => [0x6E, 0x75, 0x6C, 0x6C]
  | .bool value => boolUnits value
  | .number number => number.units
  | .string literal => literal.quoted
  | .emptyArray spaces => 0x5B :: (spaces.units ++ [0x5D])
  | .array elements => 0x5B :: (elements.units ++ [0x5D])
  | .emptyObject spaces => 0x7B :: (spaces.units ++ [0x7D])
  | .object members => 0x7B :: (members.units ++ [0x7D])

def Elements.units : Elements → List CodeUnit
  | .last before value after => before.units ++ (value.units ++ after.units)
  | .more before value after rest =>
    before.units ++ (value.units ++ (after.units ++ comma :: rest.units))

def Members.units : Members → List CodeUnit
  | .last before name between inside value after =>
    before.units ++ (name.quoted ++ (between.units ++ colon ::
      (inside.units ++ (value.units ++ after.units))))
  | .more before name between inside value after rest =>
    before.units ++ (name.quoted ++ (between.units ++ colon ::
      (inside.units ++ (value.units ++ (after.units ++ comma :: rest.units)))))

end

def Text.units (text : Text) : List CodeUnit :=
  text.before.units ++ (text.value.units ++ text.after.units)

/-- What a text says. -/
inductive Data where
  | null
  | bool (value : Bool)
  | number (value : ℚ)
  | string (value : List CodeUnit)
  | array (elements : List Data)
  | object (properties : List (List CodeUnit × Data))

/-- A property that is given again keeps its place. -/
def setProperty (name : List CodeUnit) (data : Data) :
    List (List CodeUnit × Data) → List (List CodeUnit × Data)
  | [] => [(name, data)]
  | property :: rest =>
    if property.1 = name then (name, data) :: rest else property :: setProperty name data rest

mutual

def Value.data : Value → Data
  | .null => .null
  | .bool value => .bool value
  | .number number => .number number.value
  | .string literal => .string literal.value
  | .emptyArray _ => .array []
  | .array elements => .array elements.data
  | .emptyObject _ => .object []
  | .object members => .object (members.properties [])

def Elements.data : Elements → List Data
  | .last _ value _ => [value.data]
  | .more _ value _ rest => value.data :: rest.data

/-- The properties of an object, added to those already read. -/
def Members.properties : Members → List (List CodeUnit × Data) → List (List CodeUnit × Data)
  | .last _ name _ _ value _, properties => setProperty name.value value.data properties
  | .more _ name _ _ value _ rest, properties =>
    rest.properties (setProperty name.value value.data properties)

end

/-- `JSON.parse` of a text. -/
def Text.parse (text : Text) : Data :=
  text.value.data

def Data.property? (name : List CodeUnit) : Data → Option Data
  | .object properties => (properties.find? fun property => property.1 = name).map Prod.snd
  | _ => none

section

variable {unit : CodeUnit}

@[simp] theorem Literal.units_cons (piece : Piece) (literal : Literal) :
    Literal.units (piece :: literal) = piece.units ++ literal.units :=
  List.flatMap_cons

theorem HexDigit.unit_ne_quote (digit : HexDigit) : digit.unit ≠ quote := by
  have large : 0x30 ≤ digit.unit := by
    unfold unit
    split
    · exact Nat.le_add_right _ _
    split
    · exact Nat.le_add_right_of_le (by decide)
    · exact Nat.le_add_right_of_le (by decide)
  exact Nat.ne_of_gt (lt_of_lt_of_le (by decide) large)

theorem Digits.ne_quote {digits : Digits} (isUnit : unit ∈ digits.units) : unit ≠ quote := by
  obtain ⟨digit, -, rfl⟩ := List.mem_map.1 isUnit
  have large : 0x30 ≤ 0x30 + digit.val := Nat.le_add_right _ _
  exact Nat.ne_of_gt (lt_of_lt_of_le (by decide) large)

theorem Spaces.isSpace {spaces : Spaces} (isUnit : unit ∈ spaces.units) : isSpace unit :=
  List.all_eq_true.1 spaces.areSpaces unit isUnit

end

end JsonGrammar
