import Sokar.Customers.PhoneForms
import Sokar.Library.Trimming

/-!
# Spellings of French numbers

A French number has nine digits after its prefix, which is written `0`, `+33`, `0033` or, with the
national zero, `+33 (0)`; separators may stand anywhere.  All spellings have one normal form but
for the last, which keeps the zero.
-/

namespace Sokar.Customers

open Marketing

@[ext]
structure FrenchNumber where
  digits : List Char
  areDigits : digits.all Char.isDigit = true
  nine : digits.length = 9
  first : digits.head? ≠ some '0'
  deriving DecidableEq

inductive PhonePrefix where
  | national
  | plus
  | zeros
  | withTrunkZero
  deriving DecidableEq

def PhonePrefix.chars : PhonePrefix → List Char
  | .national => ['0']
  | .plus => ['+', '3', '3']
  | .zeros => ['0', '0', '3', '3']
  | .withTrunkZero => ['+', '3', '3', '0']

def PhonePrefix.normal (start : PhonePrefix) : List Char :=
  if start = .withTrunkZero then ['+', '3', '3', '0'] else ['+', '3', '3']

structure Spells (text : String) (start : PhonePrefix) (number : FrenchNumber) : Prop where
  accepted : isPhoneText text = true
  chars : text.toList.filter isPhoneChar = start.chars ++ number.digits

variable {text text' : String} {start start' : PhonePrefix} {number number' : FrenchNumber}

theorem trim_toList (text : String) :
    (trim text).toList = Trimming.trim isTrimmedChar text.toList :=
  String.toList_ofList

theorem filter_trim (text : String) :
    (trim text).toList.filter isPhoneChar = text.toList.filter isPhoneChar := by
  have visible : ∀ items : List Char, (items.filter fun char => !isTrimmedChar char).filter
      isPhoneChar = items.filter isPhoneChar := by
    intro items
    rw [List.filter_filter]
    refine List.filter_congr fun char _ => ?_
    by_cases isPhone : isPhoneChar char = true
    · simp [isPhone, isTrimmedChar_of_phone isPhone]
    · simp [isPhone]
  rw [trim_toList, ← visible, Trimming.filter_trim, visible]

theorem isPhoneText_trim (accepted : isPhoneText text = true) : isPhoneText (trim text) = true := by
  unfold isPhoneText at accepted ⊢
  rw [List.all_eq_true] at accepted ⊢
  intro char isChar
  apply accepted char
  rw [trim_toList] at isChar
  exact (List.dropWhile_sublist _).subset ((List.rdropWhile_prefix _ _).subset isChar)

theorem normalizePhone_of_spells (spells : Spells text start number) :
    normalizePhone (trim text) = String.ofList (start.normal ++ number.digits) := by
  unfold normalizePhone
  rw [filter_trim, spells.chars]
  cases start with
  | national =>
    cases isDigits : number.digits with
    | nil => cases isDigits ▸ number.nine
    | cons first rest =>
      have other : '0' ≠ first := by
        have noZero := number.first
        rw [isDigits] at noZero
        simpa using Ne.symm noZero
      have long : rest.length = 8 := by simpa [isDigits] using number.nine
      rw [if_neg, if_neg, if_pos]
      · simp [PhonePrefix.chars, PhonePrefix.normal]
      · refine Bool.and_eq_true_iff.2 ⟨by simp [PhonePrefix.chars, hasStart], beq_iff_eq.2 ?_⟩
        rw [String.length_ofList, List.length_append, List.length_cons, long]
        rfl
      · simp [PhonePrefix.chars, hasStart, other]
      · simp [PhonePrefix.chars, hasStart]
  | plus | zeros | withTrunkZero => simp [PhonePrefix.chars, PhonePrefix.normal, hasStart]

theorem normalized_of_spells (spells : Spells text start number) :
    normalizeCustomerPhone text = some (String.ofList (start.normal ++ number.digits)) := by
  have nonempty : (trim text).isEmpty = false := by
    rw [String.isEmpty_eq_false_iff]
    intro empty
    have none := (filter_trim text).trans spells.chars
    rw [empty] at none
    cases start <;> cases none
  have safe : SAFE_PHONE_PATTERN (String.ofList (start.normal ++ number.digits)) = true := by
    have digits := List.all_eq_true.1 number.areDigits
    cases start <;> simpa [SAFE_PHONE_PATTERN, PhonePrefix.normal, hasStart, number.nine] using digits
  unfold normalizeCustomerPhone
  dsimp only
  rw [nonempty, isPhoneText_trim spells.accepted, normalizePhone_of_spells spells, if_pos safe]
  rfl

theorem normal_append_inj_iff :
    String.ofList (start.normal ++ number.digits) = String.ofList (start'.normal ++ number'.digits) ↔
      number = number' ∧ (start = .withTrunkZero ↔ start' = .withTrunkZero) := by
  rw [String.ofList_inj]
  constructor
  · intro same
    have long := congrArg List.length same
    rw [List.length_append, List.length_append, number.nine, number'.nine] at long
    have normals := List.append_inj same (Nat.add_right_cancel long)
    refine ⟨FrenchNumber.ext normals.2, ?_⟩
    have prefixes := normals.1
    revert prefixes
    cases start <;> cases start' <;> decide
  · rintro ⟨rfl, sameZero⟩
    rw [PhonePrefix.normal, PhonePrefix.normal, if_congr sameZero rfl rfl]

/-- Normal forms of spellings are normal, and tell exactly the numbers apart, if and only if
spellings of one number agree on its zero. -/
theorem spellings_normal_iff (spells : Spells text start number)
    (spells' : Spells text' start' number') :
    (∃ result result', normalizeCustomerPhone text = some result ∧
      normalizeCustomerPhone text' = some result' ∧ (result = result' ↔ number = number') ∧
        normalizeCustomerPhone result = some result) ↔
      (number = number' → (start = .withTrunkZero ↔ start' = .withTrunkZero)) := by
  have isNormal := normalized_of_spells spells
  have isNormal' := normalized_of_spells spells'
  constructor
  · rintro ⟨result, result', found, found', same, -⟩ sameNumber
    cases isNormal.symm.trans found
    cases isNormal'.symm.trans found'
    exact (normal_append_inj_iff.1 (same.2 sameNumber)).2
  · intro agree
    refine ⟨_, _, isNormal, isNormal', ?_, normal_of_normalized isNormal⟩
    rw [normal_append_inj_iff]
    exact ⟨And.left, fun sameNumber => ⟨sameNumber, agree sameNumber⟩⟩

section

def sampleNumber : FrenchNumber where
  digits := ['6', '1', '2', '3', '4', '5', '6', '7', '8']
  areDigits := by decide
  nine := rfl
  first := by decide

theorem spells_national : Spells "06 12.34-56 78" .national sampleNumber :=
  ⟨by decide +kernel, by decide +kernel⟩

theorem spellings_normal_mobile :
    ∃ result result', normalizeCustomerPhone "06 12.34-56 78" = some result ∧
      normalizeCustomerPhone "0033 6 12 34 56 78" = some result' ∧ (result = result' ↔
        sampleNumber = sampleNumber) ∧ normalizeCustomerPhone result = some result := by
  have spellsZeros : Spells "0033 6 12 34 56 78" .zeros sampleNumber :=
    ⟨by decide +kernel, by decide +kernel⟩
  exact (spellings_normal_iff spells_national spellsZeros).2 fun _ => by decide

/-- The national zero stays in the normal form. -/
theorem trunkZero_kept : ∃ text, Spells text .withTrunkZero sampleNumber ∧
      normalizeCustomerPhone text ≠ normalizeCustomerPhone "06 12.34-56 78" :=
  ⟨"+33 (0)6 12 34 56 78", ⟨by decide +kernel, by decide +kernel⟩, by decide +kernel⟩

end

end Sokar.Customers
