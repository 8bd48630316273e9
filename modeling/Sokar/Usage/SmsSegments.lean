import Mathlib.Tactic.Linarith
import Sokar.Shared.Text

/-!
# Segments of a message

`countSmsSegments` of `messaging-usage.service` divides the units of a message by those of a
segment.  A character of two units is never cut, so a segment may be left with a unit free.
-/

namespace Sokar

def GSM_7_BASIC : List Char :=
  ("@£$¥èéùìòÇ\nØø\rÅåΔ_ΦΓΛΩΠΨΣΘΞ\x1bÆæßÉ !\"#¤%&'()*+,-./0123456789:;<=>?" ++
    "¡ABCDEFGHIJKLMNOPQRSTUVWXYZÄÖÑÜ§¿abcdefghijklmnopqrstuvwxyzäöñüà").toList

def GSM_7_EXTENDED : List Char :=
  "^\x7b\x7d\\[~]|€".toList

inductive SmsEncoding where
  | gsm7
  | ucs2
  deriving DecidableEq

/-- The septets of a character, none for those that GSM 7 does not have. -/
def gsmUnits (char : Char) : Nat :=
  if GSM_7_BASIC.contains char then 1 else if GSM_7_EXTENDED.contains char then 2 else 0

/-- What `countSmsUnits` adds up, for each character, and the encoding. -/
def smsUnits (text : String) : List Nat × SmsEncoding :=
  if text.toList.all fun char => gsmUnits char != 0 then (text.toList.map gsmUnits, .gsm7)
  else (text.toList.map fun char => if char.toNat < 0x10000 then 1 else 2, .ucs2)

def SmsEncoding.singleLimit : SmsEncoding → Nat
  | .gsm7 => 160
  | .ucs2 => 70

def SmsEncoding.concatenatedLimit : SmsEncoding → Nat
  | .gsm7 => 153
  | .ucs2 => 67

def countSmsSegments (text : String) : Nat :=
  let (characters, encoding) := smsUnits text
  let units := characters.sum
  if units = 0 then 0
  else if units ≤ encoding.singleLimit then 1
  else (units + encoding.concatenatedLimit - 1) / encoding.concatenatedLimit

/-- The segments that are closed, the units left free in them, and those of the last segment. -/
structure Packing where
  closed : Nat
  free : Nat
  last : Nat

namespace Packing

/-- A character that does not fit begins a segment. -/
def add (limit : Nat) (packing : Packing) (units : Nat) : Packing :=
  if packing.last + units ≤ limit then { packing with last := packing.last + units }
  else ⟨packing.closed + 1, packing.free + (limit - packing.last), units⟩

def pack (limit : Nat) (characters : List Nat) : Packing :=
  characters.foldl (add limit) ⟨0, 0, 0⟩

theorem units_pack {limit : Nat} {characters : List Nat} (fit : ∀ units ∈ characters, units ≤ limit) :
    (pack limit characters).closed * limit + (pack limit characters).last =
        (pack limit characters).free + characters.sum ∧ (pack limit characters).last ≤ limit := by
  induction characters using List.reverseRecOn with
  | nil => exact ⟨Nat.zero_mul limit, Nat.zero_le _⟩
  | append_singleton characters units ih =>
    obtain ⟨counted, within⟩ := ih fun other isOther => fit other (List.mem_append_left _ isOther)
    have fits := fit units (List.mem_append_right _ List.mem_cons_self)
    rw [pack, List.foldl_concat, ← pack, List.sum_append, List.sum_singleton, add]
    split
    next fitsIn => exact ⟨by simp only [← Nat.add_assoc, counted], fitsIn⟩
    next =>
      refine ⟨?_, fits⟩
      simp only [Nat.add_one_mul]
      omega

end Packing

/-- The number of segments when no character is cut. -/
def packedSegments (text : String) : Nat :=
  let (characters, encoding) := smsUnits text
  if characters.sum = 0 then 0
  else if characters.sum ≤ encoding.singleLimit then 1
  else (Packing.pack encoding.concatenatedLimit characters).closed + 1

theorem smsUnits_le (text : String) :
    ∀ units ∈ (smsUnits text).1, units ≤ (smsUnits text).2.concatenatedLimit := by
  have small : ∀ units ∈ (smsUnits text).1, units ≤ 2 := by
    unfold smsUnits
    split
    all_goals
      intro units isUnits
      grind [gsmUnits]
  intro units isUnits
  refine (small units isUnits).trans ?_
  cases (smsUnits text).2 <;> decide

/-- The count is that of the packed segments if and only if the units left free would not have held
the last segment. -/
theorem countSmsSegments_eq_iff (text : String) : countSmsSegments text = packedSegments text ↔
      (smsUnits text).1.sum ≤ (smsUnits text).2.singleLimit ∨
        (Packing.pack (smsUnits text).2.concatenatedLimit (smsUnits text).1).free <
          (Packing.pack (smsUnits text).2.concatenatedLimit (smsUnits text).1).last := by
  obtain ⟨counted, within⟩ := Packing.units_pack (smsUnits_le text)
  unfold countSmsSegments packedSegments
  dsimp only
  generalize (smsUnits text).1.sum = units at counted ⊢
  generalize (smsUnits text).2 = encoding at counted within ⊢
  by_cases isEmpty : units = 0
  · simp [isEmpty]
  by_cases isShort : units ≤ encoding.singleLimit
  · simp [isEmpty, isShort]
  simp only [isEmpty, isShort, if_false, false_or]
  cases encoding <;> dsimp only [SmsEncoding.concatenatedLimit] at counted within ⊢ <;> omega

/-- A surrogate pair that does not fit into the first segment is moved to the second one, which then
lacks a unit for the last character. -/
theorem third_segment : ∃ text, countSmsSegments text = 2 ∧ packedSegments text = 3 := by
  refine ⟨String.ofList (List.replicate 66 'ő' ++ '😀' :: List.replicate 66 'ő'), ?_, ?_⟩
  · rw [countSmsSegments, smsUnits, String.toList_ofList]
    decide +kernel
  · rw [packedSegments, smsUnits, String.toList_ofList]
    decide +kernel

end Sokar
