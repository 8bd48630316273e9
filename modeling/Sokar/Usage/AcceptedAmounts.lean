import Sokar.Usage.InvoiceRoundTrip

/-!
# Amounts and their columns

Adjustments, tariffs and invoices check the digits of an amount before it is written to a column of
eighteen digits.  The checks count the digits of the text, so what they accept is exact but may
have more digits before the point than the column keeps there.
-/

namespace Sokar

/-! ## The other two checks -/

namespace UsageAdjustment

/-- An amount as it is given; a number by its text `String(value)`. -/
inductive AmountInput where
  | string (value : String)
  | number (text : String)

def AmountInput.raw : AmountInput → String
  | .string value => trim value
  | .number text => text

/-- The text after its minus sign, if it has one. -/
def unsigned (raw : String) : String :=
  if hasStart raw "-" then String.ofList (raw.toList.drop 1) else raw

/-- The error is the message of a `UsageAdjustmentInputError`. -/
def decimal (value : AmountInput) (field : String) : Except String ℚ :=
  match decimalParts (unsigned value.raw) with
  | none => .error (field ++ " must be a signed decimal value")
  | some parts =>
    if 18 < parts.1.length + parts.2.length ∨ 6 < parts.2.length then
      .error (field ++ " exceeds DECIMAL(18,6)")
    else
      .ok (if hasStart value.raw "-" then -UsageReconciliation.decimalOf parts
        else UsageReconciliation.decimalOf parts)

end UsageAdjustment

namespace UsageTariff

/-- An issue with the code `INVALID_PRICE`. -/
structure InvalidPrice where
  rowNumber : Nat
  message : String
  deriving DecidableEq

def parsePrice (value : JsonValue) (rowNumber : Nat) : Except InvalidPrice Nat :=
  match decimalParts (rawText value) with
  | none => .error ⟨rowNumber, "pricePerUnit must be a non-negative decimal string"⟩
  | some parts =>
    if 18 < parts.1.length + parts.2.length ∨ 9 < parts.2.length then
      .error ⟨rowNumber, "pricePerUnit exceeds DECIMAL(18,9)"⟩
    else .ok (scaledDigits 9 parts)

end UsageTariff

open UsageReconciliation

section

variable {digits : List Char}

/-- The digits of a number without the zeros before them. -/
def leadingDigits (digits : List Char) : List Char :=
  digits.dropWhile (· = '0')

theorem digitValue_lt {digit : Char} (isDigit : digit.isDigit = true) :
    digit.toNat - '0'.toNat < 10 := by
  have bounds := isDigit
  simp only [Char.isDigit, Bool.and_eq_true, decide_eq_true_eq, ge_iff_le, UInt32.le_iff_toNat_le]
    at bounds
  have upper : digit.toNat ≤ 57 := bounds.2
  have zero : '0'.toNat = 48 := rfl
  omega

theorem numberOf_lt (areDigits : ∀ digit ∈ digits, digit.isDigit = true) :
    numberOf digits < 10 ^ digits.length := by
  induction digits using List.reverseRecOn with
  | nil => exact Nat.one_pos
  | append_singleton rest digit ih =>
    have before := ih fun other listed => areDigits other (List.mem_append_left _ listed)
    have last := digitValue_lt (areDigits digit (List.mem_append_right _ (List.mem_singleton_self _)))
    rw [numberOf_concat, List.length_append, List.length_singleton, pow_succ]
    omega

theorem numberOf_leadingDigits (digits : List Char) :
    numberOf (leadingDigits digits) = numberOf digits := by
  induction digits with
  | nil => rfl
  | cons digit rest ih =>
    by_cases zero : digit = '0'
    · subst zero
      have dropped : leadingDigits ('0' :: rest) = leadingDigits rest := rfl
      rw [dropped, ih]
      rfl
    · rw [leadingDigits, List.dropWhile_cons_of_neg (by simpa using zero)]

theorem numberOf_replicate_zero (count : Nat) : numberOf (List.replicate count '0') = 0 := by
  induction count with
  | zero => rfl
  | succ count ih =>
    rw [List.replicate_succ', numberOf_concat, ih]
    rfl

theorem pow_le_numberOf {first : Char} {rest : List Char} (isDigit : first.isDigit = true)
    (notZero : first ≠ '0') : 10 ^ rest.length ≤ numberOf (first :: rest) := by
  have bounds := isDigit
  simp only [Char.isDigit, Bool.and_eq_true, decide_eq_true_eq, ge_iff_le, UInt32.le_iff_toNat_le]
    at bounds
  have zero : '0'.toNat = 48 := rfl
  have lower : 48 ≤ first.toNat := bounds.1
  have other : first.toNat ≠ 48 := fun same => notZero (Char.toNat_inj.1 same)
  have front : 1 ≤ numberOf [first] := by
    have value : numberOf [first] = 10 * 0 + (first.toNat - '0'.toNat) := rfl
    omega
  rw [← List.singleton_append, numberOf_append]
  calc 10 ^ rest.length = 1 * 10 ^ rest.length := (Nat.one_mul _).symm
    _ ≤ numberOf [first] * 10 ^ rest.length := Nat.mul_le_mul_right _ front
    _ ≤ _ := Nat.le_add_right _ _

theorem leadingDigits_ne {first : Char} {rest : List Char}
    (leading : leadingDigits digits = first :: rest) : first ≠ '0' := by
  rintro rfl
  have again : leadingDigits ('0' :: rest) = '0' :: rest := by
    rw [← leading]
    exact List.dropWhile_idempotent _ _
  have shorter : leadingDigits ('0' :: rest) = leadingDigits rest := rfl
  have bound : (leadingDigits rest).length ≤ rest.length := (List.dropWhile_sublist _).length_le
  rw [← shorter, again, List.length_cons] at bound
  omega

/-- A number is below a power of ten exactly when it has no more digits. -/
theorem numberOf_lt_pow_iff (areDigits : ∀ digit ∈ digits, digit.isDigit = true) (width : Nat) :
    numberOf digits < 10 ^ width ↔ (leadingDigits digits).length ≤ width := by
  have leadingAre : ∀ digit ∈ leadingDigits digits, digit.isDigit = true :=
    fun digit listed => areDigits digit ((List.dropWhile_sublist _).subset listed)
  rw [← numberOf_leadingDigits]
  constructor
  · intro below
    cases leading : leadingDigits digits with
    | nil => exact Nat.zero_le width
    | cons first rest =>
      rw [leading] at below leadingAre
      have least : 10 ^ rest.length ≤ numberOf (first :: rest) := pow_le_numberOf
        (leadingAre first List.mem_cons_self) (leadingDigits_ne leading)
      exact (Nat.pow_lt_pow_iff_right (by decide)).1 (least.trans_lt below)
  · intro short
    exact (numberOf_lt leadingAre).trans_le (Nat.pow_le_pow_right (by decide) short)

end

section

variable {raw : String} {parts : List Char × List Char}

theorem decimalParts_digits (read : decimalParts raw = some parts) :
    (∀ digit ∈ parts.1, digit.isDigit = true) ∧ ∀ digit ∈ parts.2, digit.isDigit = true := by
  have wholeDigits : ∀ digit ∈ raw.toList.takeWhile Char.isDigit, digit.isDigit = true :=
    fun digit => List.mem_takeWhile_imp
  rw [decimalParts, List.span_eq_takeWhile_dropWhile] at read
  split at read
  · cases read
  · next split =>
      obtain ⟨rfl, -⟩ := Prod.mk.inj split
      cases read
      exact ⟨wholeDigits, by simp⟩
  · next whole' fraction _ split =>
      obtain ⟨rfl, -⟩ := Prod.mk.inj split
      split at read
      · cases read
      · next digits =>
          cases read
          have some : fraction ≠ [] ∧ ∀ digit ∈ fraction, digit.isDigit = true := by
            simpa using digits
          exact ⟨wholeDigits, some.2⟩
  · cases read

theorem scaledDigits_exact {scale : Nat} (short : parts.2.length ≤ scale) :
    (scaledDigits scale parts : ℚ) / 10 ^ scale = decimalOf parts := by
  obtain ⟨padding, rfl⟩ := Nat.exists_eq_add_of_le short
  have kept : (parts.2 ++ List.replicate (parts.2.length + padding) '0').take
      (parts.2.length + padding) = parts.2 ++ List.replicate padding '0' := by
    rw [List.take_append, List.take_of_length_le (Nat.le_add_right _ _), Nat.add_sub_cancel_left,
      List.take_replicate, Nat.min_eq_left (Nat.le_add_left _ _)]
  rw [scaledDigits, kept, ← List.append_assoc, numberOf_append, numberOf_replicate_zero,
    List.length_replicate,
    decimalOf]
  push_cast
  field_simp
  ring

theorem decimalOf_nonneg (parts : List Char × List Char) : 0 ≤ decimalOf parts := by
  rw [decimalOf]
  positivity

/-- A decimal is below a power of ten exactly when it has no more digits before the point. -/
theorem decimalOf_lt_pow_iff (whole : ∀ digit ∈ parts.1, digit.isDigit = true)
    (fraction : ∀ digit ∈ parts.2, digit.isDigit = true) (width : Nat) :
    decimalOf parts < 10 ^ width ↔ (leadingDigits parts.1).length ≤ width := by
  have small := numberOf_lt fraction
  have floor : numberOf parts.1 * 10 ^ parts.2.length + numberOf parts.2 <
      10 ^ width * 10 ^ parts.2.length ↔ numberOf parts.1 < 10 ^ width := by
    constructor
    · intro below
      by_contra larger
      have := Nat.mul_le_mul_right (10 ^ parts.2.length) (not_lt.1 larger)
      omega
    · intro below
      have := Nat.mul_le_mul_right (10 ^ parts.2.length) (Nat.succ_le_of_lt below)
      rw [Nat.succ_mul] at this
      omega
  rw [← numberOf_lt_pow_iff whole, ← floor, decimalOf, numberOf_append, div_lt_iff₀ (by positivity)]
  exact_mod_cast Iff.rfl

/-- A value with no more decimals than a scale is a multiple of its last unit. -/
theorem decimalOf_mul_pow {scale : Nat} (short : parts.2.length ≤ scale) :
    decimalOf parts * 10 ^ scale = scaledDigits scale parts := by
  rw [← scaledDigits_exact short]
  field_simp

end

/-- A value that a `DECIMAL(18, scale)` column keeps as it is. -/
structure FitsColumn (scale : Nat) (value : ℚ) : Prop where
  decimals : ∃ units : Int, value * 10 ^ scale = units
  bound : |value| < 10 ^ (18 - scale)

/-- The digits before the point of an amount, without its sign and the zeros before them. -/
def wholeDigits (raw : String) : List Char :=
  leadingDigits ((UsageAdjustment.unsigned raw).toList.takeWhile Char.isDigit)

/-- The value a decimal text writes, with its sign. -/
def valueOf? (raw : String) : Option ℚ :=
  (decimalParts (UsageAdjustment.unsigned raw)).map fun parts =>
    if hasStart raw "-" then -decimalOf parts else decimalOf parts

section

variable {raw : String} {parts : List Char × List Char} {scale : Nat}

section

variable (read : decimalParts raw = some parts)
include read

theorem takeWhile_of_decimalParts : raw.toList.takeWhile Char.isDigit = parts.1 := by
  rw [decimalParts, List.span_eq_takeWhile_dropWhile] at read
  split at read
  · cases read
  · next split =>
      obtain ⟨same, -⟩ := Prod.mk.inj split
      cases read
      exact same
  · next split =>
      obtain ⟨same, -⟩ := Prod.mk.inj split
      split at read
      · cases read
      · cases read
        exact same
  · cases read

theorem ne_nil_of_decimalParts : parts.1 ≠ [] := by
  intro empty
  have digits := takeWhile_of_decimalParts read
  rw [empty] at digits
  rw [decimalParts, List.span_eq_takeWhile_dropWhile, digits] at read
  cases read

/-- A text that begins with a digit has no sign. -/
theorem unsigned_of_decimalParts : hasStart raw "-" = false := by
  have digits := takeWhile_of_decimalParts read
  have some := ne_nil_of_decimalParts read
  rw [← digits] at some
  rw [hasStart]
  cases chars : raw.toList with
  | nil =>
    rw [chars] at some
    exact absurd rfl some
  | cons first rest =>
    rw [chars] at some
    have isDigit : first.isDigit = true := by
      by_contra other
      exact some (List.takeWhile_cons_of_neg other)
    have notMinus : first ≠ '-' := by
      rintro rfl
      exact absurd isDigit (by decide)
    simp [List.isPrefixOf, Ne.symm notMinus]

theorem fitsColumn_iff (short : parts.2.length ≤ scale) {value : ℚ}
    (isValue : value = decimalOf parts ∨ value = -decimalOf parts) :
    FitsColumn scale value ↔ (leadingDigits parts.1).length ≤ 18 - scale := by
  obtain ⟨whole, fraction⟩ := decimalParts_digits read
  have size : |value| = decimalOf parts := by
    rcases isValue with rfl | rfl
    · exact abs_of_nonneg (decimalOf_nonneg parts)
    · rw [abs_neg, abs_of_nonneg (decimalOf_nonneg parts)]
  have units : ∃ units : Int, value * 10 ^ scale = units := by
    rcases isValue with rfl | rfl
    · exact ⟨scaledDigits scale parts, by rw [decimalOf_mul_pow short]; norm_cast⟩
    · exact ⟨-scaledDigits scale parts, by rw [neg_mul, decimalOf_mul_pow short]; norm_cast⟩
  rw [← decimalOf_lt_pow_iff whole fraction, ← size]
  exact ⟨fun fits => fits.bound, fun below => ⟨units, below⟩⟩

/-- Without a sign the text is read as it is. -/
theorem written_iff (short : parts.2.length ≤ scale) :
    (valueOf? raw = some ((scaledDigits scale parts : ℚ) / 10 ^ scale) ∧
        FitsColumn scale ((scaledDigits scale parts : ℚ) / 10 ^ scale)) ↔
      (wholeDigits raw).length ≤ 18 - scale := by
  have noSign := unsigned_of_decimalParts read
  have bare : UsageAdjustment.unsigned raw = raw := by
    rw [UsageAdjustment.unsigned, noSign]
    rfl
  have value : valueOf? raw = some (decimalOf parts) := by
    rw [valueOf?, bare, read, noSign]
    rfl
  rw [scaledDigits_exact short, value, wholeDigits, bare, takeWhile_of_decimalParts read,
    ← fitsColumn_iff read short (.inl rfl)]
  exact ⟨fun both => both.2, fun fits => ⟨rfl, fits⟩⟩

end

theorem adjustment_iff {value : UsageAdjustment.AmountInput} {field : String} {amount : ℚ}
    (accepted : UsageAdjustment.decimal value field = .ok amount) :
    (valueOf? value.raw = some amount ∧ FitsColumn 6 amount) ↔
      (wholeDigits value.raw).length ≤ 12 := by
  rw [UsageAdjustment.decimal] at accepted
  split at accepted
  · cases accepted
  · next parts read =>
      split at accepted
      · cases accepted
      · next fits =>
          obtain rfl := Except.ok.inj accepted
          have written : valueOf? value.raw =
              some (if hasStart value.raw "-" then -decimalOf parts else decimalOf parts) := by
            rw [valueOf?, read]
            rfl
          have isValue : (if hasStart value.raw "-" then -decimalOf parts else decimalOf parts) =
              decimalOf parts ∨
                (if hasStart value.raw "-" then -decimalOf parts else decimalOf parts) =
                  -decimalOf parts := by
            split
            · exact .inr rfl
            · exact .inl rfl
          rw [written, wholeDigits, takeWhile_of_decimalParts read,
            fitsColumn_iff read (by omega) isValue]
          exact ⟨fun both => both.2, fun fits => ⟨rfl, fits⟩⟩

theorem parsePrice_iff {value : JsonValue} {rowNumber price : Nat}
    (accepted : UsageTariff.parsePrice value rowNumber = .ok price) :
    (valueOf? (rawText value) = some ((price : ℚ) / 10 ^ 9) ∧
        FitsColumn 9 ((price : ℚ) / 10 ^ 9)) ↔
      (wholeDigits (rawText value)).length ≤ 9 := by
  rw [UsageTariff.parsePrice] at accepted
  split at accepted
  · cases accepted
  · next parts read =>
      split at accepted
      · cases accepted
      · next fits =>
          obtain rfl := Except.ok.inj accepted
          exact written_iff read (by omega)

theorem invoiceAmount_iff {value : JsonValue} {rowNumber amount : Nat} {field : String}
    {code : UsageReconciliationIssueCode}
    (accepted : decimal value rowNumber field code = .ok amount) :
    (valueOf? (rawText value) = some ((amount : ℚ) / 10 ^ 6) ∧
        FitsColumn 6 ((amount : ℚ) / 10 ^ 6)) ↔
      (wholeDigits (rawText value)).length ≤ 12 := by
  obtain ⟨parts, read, -, short, rfl⟩ := decimal_ok.1 accepted
  exact written_iff read short

end

/-- An accepted amount is exact and fits its column exactly when it has no more digits before the
point than the column. -/
theorem accepted_fits_iff (adjusted : UsageAdjustment.AmountInput) (value : JsonValue) (rowNumber : Nat)
    (field : String) (code : UsageReconciliationIssueCode) :
    (∀ amount, UsageAdjustment.decimal adjusted field = .ok amount →
        ((valueOf? adjusted.raw = some amount ∧ FitsColumn 6 amount) ↔
          (wholeDigits adjusted.raw).length ≤ 12)) ∧
      (∀ price, UsageTariff.parsePrice value rowNumber = .ok price →
        ((valueOf? (rawText value) = some ((price : ℚ) / 10 ^ 9) ∧
            FitsColumn 9 ((price : ℚ) / 10 ^ 9)) ↔
          (wholeDigits (rawText value)).length ≤ 9)) ∧
      ∀ amount, decimal value rowNumber field code = .ok amount →
        ((valueOf? (rawText value) = some ((amount : ℚ) / 10 ^ 6) ∧
            FitsColumn 6 ((amount : ℚ) / 10 ^ 6)) ↔
          (wholeDigits (rawText value)).length ≤ 12) :=
  ⟨fun _ => adjustment_iff, fun _ => parsePrice_iff, fun _ => invoiceAmount_iff⟩

/-- An adjustment with a sign, a price and an invoiced cost that fit. -/
theorem accepted_fits_iff_small :
    ((valueOf? "-1.5" = some (-(15 / 10)) ∧ FitsColumn 6 (-(15 / 10))) ↔
        (wholeDigits "-1.5").length ≤ 12) ∧
      ((valueOf? (rawText (.string "0.25")) = some (((250000000 : Nat) : ℚ) / 10 ^ 9) ∧
          FitsColumn 9 (((250000000 : Nat) : ℚ) / 10 ^ 9)) ↔
        (wholeDigits (rawText (.string "0.25"))).length ≤ 9) ∧
      ((valueOf? (rawText (.string "007")) = some (((7000000 : Nat) : ℚ) / 10 ^ 6) ∧
          FitsColumn 6 (((7000000 : Nat) : ℚ) / 10 ^ 6)) ↔
        (wholeDigits (rawText (.string "007"))).length ≤ 12) :=
  ⟨(accepted_fits_iff (.number "-1.5") .null 2 "quantityDelta" .INVALID_QUANTITY).1 (-(15 / 10))
      (by rfl),
    (accepted_fits_iff (.string "0.25") (.string "0.25") 2 "pricePerUnit" .INVALID_QUANTITY).2.1
      250000000 (by decide +kernel),
    (accepted_fits_iff (.string "007") (.string "007") 2 "billedCostEur" .INVALID_COST).2.2 7000000
      (by decide +kernel)⟩

/-- Thirteen digits before the point are accepted for a column that keeps twelve, and ten for one
that keeps nine. -/
theorem accepted_exceeds_column :
    (∃ amount, UsageAdjustment.decimal (.string "1000000000000") "quantityDelta" = .ok amount ∧
        ¬FitsColumn 6 amount) ∧
      (∃ price, UsageTariff.parsePrice (.string "1000000000") 2 = .ok price ∧
        ¬FitsColumn 9 ((price : ℚ) / 10 ^ 9)) ∧
      ∃ amount, decimal (.string "1000000000000") 2 "billedQuantity" .INVALID_QUANTITY =
          .ok amount ∧
        ¬FitsColumn 6 ((amount : ℚ) / 10 ^ 6) := by
  refine ⟨⟨1000000000000 / 1, by rfl, fun fits => ?_⟩,
    ⟨1000000000000000000, by decide +kernel, fun fits => ?_⟩,
    ⟨1000000000000000000, by decide +kernel, fun fits => ?_⟩⟩
  · have below := (abs_lt.1 fits.bound).2
    norm_num at below
  · have below := (abs_lt.1 fits.bound).2
    norm_num at below
  · have below := (abs_lt.1 fits.bound).2
    norm_num at below

end Sokar
