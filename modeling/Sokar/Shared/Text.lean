import Mathlib.Data.List.DropRight
import Sokar.Shared.Time

/-!
# JavaScript strings

The string methods whose results the services store or compare.
-/

namespace Sokar

/-- `String.prototype.toUpperCase`, which follows the Unicode tables of the runtime. -/
class UnicodeCase where
  toUpperCase : String → String

variable (text : String)

def asciiUpperCase : String :=
  String.ofList (text.toList.map Char.toUpper)

/-- The lower case of ASCII letters; enough where the result is compared with ASCII text
whose letters no other character has for lower case. -/
def asciiLowerCase : String :=
  String.ofList (text.toList.map Char.toLower)

@[reducible] def UnicodeCase.ascii : UnicodeCase where
  toUpperCase := asciiUpperCase

/-- `String.prototype.startsWith`. -/
def hasStart (text start : String) : Bool :=
  start.toList.isPrefixOf text.toList

variable (char : Char)

def isTrimmedChar : Bool :=
  [0x09, 0x0A, 0x0B, 0x0C, 0x0D, 0x20, 0xA0, 0x1680, 0x2028, 0x2029, 0x202F, 0x205F, 0x3000,
    0xFEFF].contains char.toNat || (0x2000 ≤ char.toNat && char.toNat ≤ 0x200A)

/-- `String.prototype.trim`. -/
def trim : String :=
  String.ofList ((text.toList.dropWhile isTrimmedChar).reverse.dropWhile isTrimmedChar).reverse

/-- `text.trim().replace(/\s+/g, ' ')` leaves one space between words. -/
def collapseSpaces : String :=
  String.ofList (((trim text).toList.splitBy fun left right =>
    isTrimmedChar left == isTrimmedChar right).flatMap fun run =>
      if run.any isTrimmedChar then [' '] else run)

/-- `/[\u0000-\u001f\u007f]/` finds a control character. -/
def hasControlChar : Bool :=
  text.toList.any fun char => char.toNat < 0x20 || char.toNat == 0x7F

/-- `createHash('sha256').update(text).digest('hex')`. -/
class Sha256 where
  sha256 : String → String

/-- A digest without collisions, for short texts. -/
@[reducible] def Sha256.plain : Sha256 where
  sha256 := id

/-- `/[^0-9+]/g` removes every other character. -/
def isPhoneChar : Bool :=
  char.isDigit || char == '+'

def normalizePhone (raw : String) : String :=
  let digits := String.ofList (raw.toList.filter isPhoneChar)
  if hasStart digits "+" then digits
  else if hasStart digits "00" then String.ofList ('+' :: digits.toList.drop 2)
  else if hasStart digits "0" && digits.length == 10 then
    String.ofList ('+' :: '3' :: '3' :: digits.toList.drop 1)
  else digits

example : normalizePhone "06 12.34-56 78" = "+33612345678" := by decide +kernel

/-- `String.prototype.length` counts UTF-16 code units. -/
def utf16Length : Nat :=
  (text.toList.map fun char => if char.toNat < 0x10000 then 1 else 2).sum

/-- The UTF-16 code units of a text, by which `Array.prototype.sort` orders strings. -/
def utf16Units : List Nat :=
  text.toList.flatMap fun char =>
    if char.toNat < 0x10000 then [char.toNat]
    else [0xD800 + (char.toNat - 0x10000) / 0x400, 0xDC00 + (char.toNat - 0x10000) % 0x400]

/-- `String.prototype.split` at a character. -/
def splitText (separator : Char) (text : String) : List String :=
  (text.toList.splitOn separator).map String.ofList

def isAscii : Bool :=
  text.toList.all fun char => char.toNat < 0x80

/-- Both case mappings of the runtime, with what the Unicode tables promise of them. -/
class UnicodeLetters extends UnicodeCase where
  toLowerCase : String → String
  upper_ascii : ∀ text, isAscii text → toUpperCase text = asciiUpperCase text
  lower_ascii : ∀ text, isAscii text → toLowerCase text = asciiLowerCase text
  lower_lower : ∀ text, toLowerCase (toLowerCase text) = toLowerCase text
  /-- No capital ASCII letter is left. -/
  lower_noCapital : ∀ text, ∀ char ∈ (toLowerCase text).toList, char.isUpper = false
  /-- No white space comes to the ends. -/
  lower_trimmed : ∀ text, trim text = text → trim (toLowerCase text) = toLowerCase text

section

theorem trim_trim : trim (trim text) = trim text := by
  have ends : trim text = String.ofList ((text.toList.dropWhile isTrimmedChar).rdropWhile
      isTrimmedChar) := rfl
  generalize front : text.toList.dropWhile isTrimmedChar = rest at ends
  have kept : (rest.rdropWhile isTrimmedChar).dropWhile isTrimmedChar =
      rest.rdropWhile isTrimmedChar := by
    rw [List.dropWhile_eq_self_iff]
    intro nonempty
    have short : rest.rdropWhile isTrimmedChar <+: rest := List.rdropWhile_prefix _ _
    have first : rest.dropWhile isTrimmedChar = rest := by
      rw [← front]
      exact List.dropWhile_idempotent _ _
    rw [List.dropWhile_eq_self_iff] at first
    have longer : 0 < rest.length := lt_of_lt_of_le nonempty short.length_le
    rw [short.getElem nonempty]
    exact first longer
  rw [ends]
  have again : trim (String.ofList (rest.rdropWhile isTrimmedChar)) =
      String.ofList (((rest.rdropWhile isTrimmedChar).dropWhile isTrimmedChar).rdropWhile
        isTrimmedChar) := by
    rw [trim, String.toList_ofList]
    rfl
  rw [again, kept, List.rdropWhile_idempotent]

theorem trim_eq_self {text : String} (visible : ∀ char ∈ text.toList, isTrimmedChar char = false) :
    trim text = text := by
  have front : text.toList.dropWhile isTrimmedChar = text.toList := by
    rw [List.dropWhile_eq_self_iff]
    intro nonempty
    simp [visible _ (List.getElem_mem nonempty)]
  have back : text.toList.reverse.dropWhile isTrimmedChar = text.toList.reverse := by
    rw [List.dropWhile_eq_self_iff]
    intro nonempty
    rw [visible _ (List.mem_reverse.1 (List.getElem_mem nonempty))]
    exact Bool.false_ne_true
  rw [trim, front, back, List.reverse_reverse, String.ofList_toList]

theorem trim_of_noSpace {text : String} (noSpace : text.toList.any isTrimmedChar = false) :
    trim text = text :=
  trim_eq_self fun char isChar => Bool.eq_false_iff.2 (List.any_eq_false.1 noSpace char isChar)

end

section

theorem isUpper_toLower : char.toLower.isUpper = false := by
  unfold Char.toLower Char.isUpper
  simp only [decide_eq_false_iff_not]
  split
  next capital =>
    have bounds := capital.1
    have upper := capital.2
    simp only [ge_iff_le, UInt32.le_iff_toNat_le] at *
    simp at *
    omega
  next other => exact other

theorem toLower_of_not_isUpper {char : Char} (small : char.isUpper = false) :
    char.toLower = char := by
  unfold Char.isUpper at small
  exact dif_neg (by simpa only [decide_eq_false_iff_not] using small)

theorem asciiLowerCase_asciiLowerCase :
    asciiLowerCase (asciiLowerCase text) = asciiLowerCase text := by
  simp only [asciiLowerCase, String.toList_ofList, List.map_map]
  congr 2
  funext char
  exact toLower_of_not_isUpper (isUpper_toLower char)

theorem isTrimmedChar_toLower : isTrimmedChar char.toLower = isTrimmedChar char := by
  by_cases small : char.isUpper
  · have capital := small
    unfold Char.isUpper at capital
    rw [decide_eq_true_eq] at capital
    have lowered : char.toLower.toNat = char.toNat + 32 := by
      unfold Char.toLower
      rw [dif_pos capital]
      have bounds := capital.2
      simp only [UInt32.le_iff_toNat_le] at bounds
      simp at *
      omega
    have above : 65 ≤ char.toNat := UInt32.le_iff_toNat_le.1 capital.1
    have below : char.toNat ≤ 90 := UInt32.le_iff_toNat_le.1 capital.2
    have notTrimmed : ∀ n : Nat, 65 ≤ n → n ≤ 122 → ∀ other : Char, other.toNat = n →
        isTrimmedChar other = false := by
      intro n low high other toNat
      simp [isTrimmedChar, toNat]
      omega
    rw [notTrimmed _ (by omega) (by omega) _ lowered, notTrimmed _ above (by omega) _ rfl]
  · rw [toLower_of_not_isUpper (by simpa using small)]

theorem trim_asciiLowerCase : trim (asciiLowerCase text) = asciiLowerCase (trim text) := by
  have commutes : isTrimmedChar ∘ Char.toLower = isTrimmedChar := funext isTrimmedChar_toLower
  simp only [trim, asciiLowerCase, String.toList_ofList, List.dropWhile_map, commutes,
    ← List.map_reverse]

/-- The case mappings of ASCII letters alone. -/
@[reducible] def UnicodeLetters.ascii : UnicodeLetters where
  toUpperCase := asciiUpperCase
  toLowerCase := asciiLowerCase
  upper_ascii _ _ := rfl
  lower_ascii _ _ := rfl
  lower_lower := asciiLowerCase_asciiLowerCase
  lower_noCapital := by
    intro text char found
    simp only [asciiLowerCase, String.toList_ofList, List.mem_map] at found
    obtain ⟨original, -, rfl⟩ := found
    exact isUpper_toLower original
  lower_trimmed text trimmed := by rw [trim_asciiLowerCase, trimmed]

end

example : trim " a b\n" = "a b" := by decide

example : collapseSpaces " two \t words " = "two words" := by decide +kernel

end Sokar
