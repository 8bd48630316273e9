import Sokar.Shared.Text

/-!
# Checks of inputs

Checks that several services make on a request in the same way, each with its own error.
-/

namespace Sokar

variable {ε : Type}

/-- An integer between 1 and a bound. -/
def normalizeCount (value : ℚ) (max : Nat) (failure : ε) : Except ε Nat :=
  if !value.isInt || value < 1 || max < value then .error failure else .ok value.num.toNat

/-- An idempotency key, trimmed, if one is given. -/
def normalizeIdempotencyKey (value : Option String) (failure : String → ε) :
    Except ε (Option String) :=
  match value with
  | none => .ok none
  | some value =>
    let key := trim value
    if utf16Length key < 8 || 200 < utf16Length key || hasControlChar key then
      .error (failure "La clé d'idempotence doit contenir entre 8 et 200 caractères sûrs.")
    else .ok (some key)

theorem normalizeCount_ok {value : ℚ} {max : Nat} {failure : ε} {count : Nat}
    (normalized : normalizeCount value max failure = .ok count) : (count : ℚ) = value := by
  unfold normalizeCount at normalized
  split at normalized
  · cases normalized
  next inside =>
    cases normalized
    simp only [Bool.not_eq_true, Bool.or_eq_false_iff, Bool.not_eq_false', decide_eq_false_iff_not,
      not_lt] at inside
    have isNum : (value.num : ℚ) = value := (Rat.den_eq_one_iff value).1 (beq_iff_eq.1 inside.1.1)
    have positive : 0 ≤ value.num := Rat.num_nonneg.2 (zero_le_one.trans inside.1.2)
    rw [← Int.cast_natCast, Int.toNat_of_nonneg positive, isNum]

theorem normalizeCount_natCast {count max : Nat} (positive : 1 ≤ count) (bounded : count ≤ max)
    (failure : ε) : normalizeCount count max failure = .ok count := by
  have notBelow : ¬(count : ℚ) < 1 := by exact_mod_cast Nat.not_lt.2 positive
  have notAbove : ¬(max : ℚ) < count := by exact_mod_cast Nat.not_lt.2 bounded
  simp [normalizeCount, Rat.isInt, notBelow, notAbove]

/-- A check that succeeds has made the first one succeed. -/
theorem ok_of_bind {α β : Type} {first : Except ε α} {rest : α → Except ε β} {value : β}
    (ran : first >>= rest = .ok value) : ∃ between, first = .ok between ∧ rest between = .ok value := by
  cases first with
  | error failure => cases ran
  | ok between => exact ⟨between, rfl, ran⟩

end Sokar
