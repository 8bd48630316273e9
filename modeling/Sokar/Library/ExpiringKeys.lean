import Mathlib.Logic.Function.Basic

/-!
# Keys that expire

A key space whose values are there until a time of their own.  A value that has expired is not
found, and is gone for good once it is overwritten or deleted.
-/

/-- What is stored under each key, with the time it expires. -/
abbrev ExpiringKeys (Key Value : Type) := Key → Option (Value × Int)

namespace ExpiringKeys

variable {Key Value : Type}

def empty : ExpiringKeys Key Value := fun _ => none

variable (space : ExpiringKeys Key Value)

/-- The value of a key, unless it has expired. -/
def get (now : Int) (key : Key) : Option Value :=
  (space key).bind fun entry => if now < entry.2 then some entry.1 else none

variable [DecidableEq Key]

def set (key : Key) (value : Value) (expiresAt : Int) : ExpiringKeys Key Value :=
  Function.update space key (some (value, expiresAt))

def del (key : Key) : ExpiringKeys Key Value :=
  Function.update space key none

variable {space : ExpiringKeys Key Value} {now : Int} {key other : Key} {value : Value}
  {entry : Value × Int}

omit [DecidableEq Key] in
theorem get_eq_some : space.get now key = some value ↔
    ∃ expiresAt, space key = some (value, expiresAt) ∧ now < expiresAt := by
  unfold get
  cases stored : space key with
  | none => simp
  | some entry => grind

theorem of_set {expiresAt : Int} (stored : space.set key value expiresAt other = some entry) :
    other = key ∧ entry = (value, expiresAt) ∨ other ≠ key ∧ space other = some entry := by
  by_cases same : other = key
  · subst same
    rw [set, Function.update_self, Option.some.injEq] at stored
    exact .inl ⟨rfl, stored.symm⟩
  · rw [set, Function.update_of_ne same] at stored
    exact .inr ⟨same, stored⟩

theorem of_del (stored : space.del key other = some entry) :
    other ≠ key ∧ space other = some entry := by
  by_cases same : other = key
  · subst same
    rw [del, Function.update_self] at stored
    cases stored
  · rw [del, Function.update_of_ne same] at stored
    exact ⟨same, stored⟩

end ExpiringKeys
