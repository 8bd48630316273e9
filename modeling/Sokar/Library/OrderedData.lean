import Mathlib.Data.List.Perm.Basic
import Mathlib.Data.List.Sort

/-!
# Data whose members have an order

Scalars, arrays and objects.  The members of an object are listed in an order that is no part of
what the object says: two data are the same when they differ in it alone.  A text that writes
scalars and keys so that they can be told from what follows them, with brackets and separators
around them, tells data apart by the order as well.
-/

namespace OrderedData

inductive Data (Scalar Key : Type) where
  | scalar (value : Scalar)
  | array (elements : List (Data Scalar Key))
  | object (members : List (Key × Data Scalar Key))

variable {Scalar Key Symbol : Type}

mutual

/-- Nothing but the order of members differs. -/
inductive Same : Data Scalar Key → Data Scalar Key → Prop where
  | scalar (value : Scalar) : Same (.scalar value) (.scalar value)
  | array {elements others : List (Data Scalar Key)} :
      SameElements elements others → Same (.array elements) (.array others)
  | object {members listed others : List (Key × Data Scalar Key)} :
      SameMembers members listed → listed.Perm others → Same (.object members) (.object others)

inductive SameElements : List (Data Scalar Key) → List (Data Scalar Key) → Prop where
  | nil : SameElements [] []
  | cons {element other : Data Scalar Key} {elements others : List (Data Scalar Key)} :
      Same element other → SameElements elements others →
        SameElements (element :: elements) (other :: others)

inductive SameMembers :
    List (Key × Data Scalar Key) → List (Key × Data Scalar Key) → Prop where
  | nil : SameMembers [] []
  | cons {key : Key} {value other : Data Scalar Key}
      {members others : List (Key × Data Scalar Key)} :
      Same value other → SameMembers members others →
        SameMembers ((key, value) :: members) ((key, other) :: others)

end

mutual

def Data.keys : Data Scalar Key → List Key
  | .scalar _ => []
  | .array elements => elementKeys elements
  | .object members => memberKeys members

def elementKeys : List (Data Scalar Key) → List Key
  | [] => []
  | element :: elements => element.keys ++ elementKeys elements

def memberKeys : List (Key × Data Scalar Key) → List Key
  | [] => []
  | (key, value) :: members => key :: (value.keys ++ memberKeys members)

end

theorem memberKeys_perm {members others : List (Key × Data Scalar Key)}
    (perm : members.Perm others) : (memberKeys members).Perm (memberKeys others) := by
  induction perm with
  | nil => exact .nil
  | cons member _ ih =>
    exact .cons _ (ih.append_left _)
  | swap first second rest =>
    simp only [memberKeys, ← List.cons_append, ← List.append_assoc]
    exact List.perm_append_comm.append_right _
  | trans _ _ ih ih' => exact ih.trans ih'

mutual

theorem Same.keys_perm : {data other : Data Scalar Key} → Same data other →
    data.keys.Perm other.keys
  | _, _, .scalar _ => .refl _
  | _, _, .array elements => by
      simp only [Data.keys]
      exact elements.keys_perm
  | _, _, .object members perm => by
      simp only [Data.keys]
      exact members.keys_perm.trans (memberKeys_perm perm)

theorem SameElements.keys_perm : {elements others : List (Data Scalar Key)} →
    SameElements elements others → (elementKeys elements).Perm (elementKeys others)
  | _, _, .nil => .refl _
  | _, _, .cons element elements => by
      simp only [elementKeys]
      exact element.keys_perm.append elements.keys_perm

theorem SameMembers.keys_perm : {members others : List (Key × Data Scalar Key)} →
    SameMembers members others → (memberKeys members).Perm (memberKeys others)
  | _, _, .nil => .refl _
  | _, _, .cons value members => by
      simp only [memberKeys]
      exact .cons _ (value.keys_perm.append members.keys_perm)

end

section

variable (before : Key → Key → Prop) [DecidableRel before]

mutual

/-- The members of every object are put in an order of their keys. -/
def Data.sorted : Data Scalar Key → Data Scalar Key
  | .scalar value => .scalar value
  | .array elements => .array (sortedElements elements)
  | .object members =>
    .object ((sortedMembers members).insertionSort fun first second => before first.1 second.1)

def sortedElements : List (Data Scalar Key) → List (Data Scalar Key)
  | [] => []
  | element :: elements => element.sorted :: sortedElements elements

def sortedMembers : List (Key × Data Scalar Key) → List (Key × Data Scalar Key)
  | [] => []
  | (key, value) :: members => (key, value.sorted) :: sortedMembers members

end

mutual

theorem Data.same_sorted : (data : Data Scalar Key) → Same data (data.sorted before)
  | .scalar value => by
      simp only [Data.sorted]
      exact .scalar value
  | .array elements => by
      simp only [Data.sorted]
      exact .array (sameElements_sorted elements)
  | .object members => by
      simp only [Data.sorted]
      exact .object (sameMembers_sorted members) (List.perm_insertionSort _ _).symm

theorem sameElements_sorted :
    (elements : List (Data Scalar Key)) → SameElements elements (sortedElements before elements)
  | [] => .nil
  | element :: elements => .cons element.same_sorted (sameElements_sorted elements)

theorem sameMembers_sorted :
    (members : List (Key × Data Scalar Key)) → SameMembers members (sortedMembers before members)
  | [] => .nil
  | (_, value) :: members => .cons value.same_sorted (sameMembers_sorted members)

end

end

structure Script (Scalar Key Symbol : Type) where
  scalar : Scalar → List Symbol
  key : Key → List Symbol
  openArray : Symbol
  closeArray : Symbol
  openObject : Symbol
  closeObject : Symbol
  comma : Symbol
  colon : Symbol

namespace Script

variable (script : Script Scalar Key Symbol)

mutual

def text : Data Scalar Key → List Symbol
  | .scalar value => script.scalar value
  | .array elements => script.openArray :: elementsText elements
  | .object members => script.openObject :: membersText members

def elementsText : List (Data Scalar Key) → List Symbol
  | [] => [script.closeArray]
  | element :: elements => text element ++ moreElements elements

def moreElements : List (Data Scalar Key) → List Symbol
  | [] => [script.closeArray]
  | element :: elements => script.comma :: (text element ++ moreElements elements)

def membersText : List (Key × Data Scalar Key) → List Symbol
  | [] => [script.closeObject]
  | (key, value) :: members =>
    script.key key ++ script.colon :: (text value ++ moreMembers members)

/-- The members after the first one. -/
def moreMembers : List (Key × Data Scalar Key) → List Symbol
  | [] => [script.closeObject]
  | (key, value) :: members =>
    script.comma :: (script.key key ++ script.colon :: (text value ++ moreMembers members))

end

/-- Nothing follows, or a separator or a closing bracket does. -/
def Ends (rest : List Symbol) : Prop :=
  ∀ symbol ∈ rest.head?,
    symbol = script.comma ∨ symbol = script.closeArray ∨ symbol = script.closeObject

/-- Scalars and keys can be told from what follows them, and none is taken for a bracket. -/
structure Readable : Prop where
  scalar_inj : ∀ {value other : Scalar} {rest others : List Symbol},
    script.Ends rest → script.Ends others →
      script.scalar value ++ rest = script.scalar other ++ others → value = other ∧ rest = others
  key_inj : ∀ {key other : Key} {rest others : List Symbol},
    script.key key ++ rest = script.key other ++ others → key = other ∧ rest = others
  scalar_head : ∀ value : Scalar, ∃ symbol tail, script.scalar value = symbol :: tail ∧
    symbol ≠ script.openArray ∧ symbol ≠ script.openObject ∧ symbol ≠ script.closeArray
  key_head : ∀ key : Key, ∃ symbol tail, script.key key = symbol :: tail ∧
    symbol ≠ script.closeObject
  openArray_ne : script.openArray ≠ script.openObject
  array_brackets : script.openArray ≠ script.closeArray
  object_brackets : script.openObject ≠ script.closeArray
  comma_ne_array : script.comma ≠ script.closeArray
  comma_ne_object : script.comma ≠ script.closeObject

variable {script}

theorem ends_moreElements (elements : List (Data Scalar Key)) (rest : List Symbol) :
    script.Ends (script.moreElements elements ++ rest) := by
  cases elements with
  | nil => simp [Ends, moreElements]
  | cons element elements => simp [Ends, moreElements]

theorem ends_moreMembers (members : List (Key × Data Scalar Key)) (rest : List Symbol) :
    script.Ends (script.moreMembers members ++ rest) := by
  cases members with
  | nil => simp [Ends, moreMembers]
  | cons member members => simp [Ends, moreMembers]

namespace Readable

variable (readable : script.Readable)
include readable

/-- An element is not taken for the end of its array. -/
theorem text_head (data : Data Scalar Key) :
    ∃ symbol tail, script.text data = symbol :: tail ∧ symbol ≠ script.closeArray := by
  cases data with
  | scalar value =>
    obtain ⟨symbol, tail, written, -, -, notEnd⟩ := readable.scalar_head value
    exact ⟨symbol, tail, by rw [text, written], notEnd⟩
  | array elements => exact ⟨_, _, by rw [text], readable.array_brackets⟩
  | object members => exact ⟨_, _, by rw [text], readable.object_brackets⟩

variable {rest others : List Symbol}

theorem scalar_ne_array (value : Scalar) :
    script.scalar value ++ rest ≠ script.openArray :: others := by
  obtain ⟨symbol, tail, written, notArray, -⟩ := readable.scalar_head value
  rw [written]
  exact fun same => notArray (List.cons.inj same).1

theorem scalar_ne_object (value : Scalar) :
    script.scalar value ++ rest ≠ script.openObject :: others := by
  obtain ⟨symbol, tail, written, -, notObject, -⟩ := readable.scalar_head value
  rw [written]
  exact fun same => notObject (List.cons.inj same).1

theorem text_ne_closeArray (data : Data Scalar Key) :
    script.text data ++ rest ≠ script.closeArray :: others := by
  obtain ⟨symbol, tail, written, notEnd⟩ := readable.text_head data
  rw [written]
  exact fun same => notEnd (List.cons.inj same).1

theorem key_ne_closeObject (key : Key) : script.key key ++ rest ≠ script.closeObject :: others := by
  obtain ⟨symbol, tail, written, notEnd⟩ := readable.key_head key
  rw [written]
  exact fun same => notEnd (List.cons.inj same).1

mutual

theorem text_inj : (data other : Data Scalar Key) → {rest others : List Symbol} →
    script.Ends rest → script.Ends others →
      script.text data ++ rest = script.text other ++ others → data = other ∧ rest = others
  | .scalar value, .scalar other, rest, others, ends, endsOther, same => by
      obtain ⟨rfl, tails⟩ := readable.scalar_inj ends endsOther same
      exact ⟨rfl, tails⟩
  | .array elements, .array others, _, _, _, _, same => by
      simp only [text, List.cons_append, List.cons.injEq, true_and] at same
      obtain ⟨rfl, tails⟩ := elementsText_inj elements others same
      exact ⟨rfl, tails⟩
  | .object members, .object others, _, _, _, _, same => by
      simp only [text, List.cons_append, List.cons.injEq, true_and] at same
      obtain ⟨rfl, tails⟩ := membersText_inj members others same
      exact ⟨rfl, tails⟩
  | .scalar value, .array _, _, _, _, _, same => absurd same (readable.scalar_ne_array value)
  | .scalar value, .object _, _, _, _, _, same => absurd same (readable.scalar_ne_object value)
  | .array _, .scalar value, _, _, _, _, same =>
    absurd same.symm (readable.scalar_ne_array value)
  | .object _, .scalar value, _, _, _, _, same =>
    absurd same.symm (readable.scalar_ne_object value)
  | .array _, .object _, _, _, _, _, same => absurd (List.cons.inj same).1 readable.openArray_ne
  | .object _, .array _, _, _, _, _, same =>
    absurd (List.cons.inj same).1.symm readable.openArray_ne

theorem elementsText_inj : (elements more : List (Data Scalar Key)) → {rest others : List Symbol} →
    script.elementsText elements ++ rest = script.elementsText more ++ others →
      elements = more ∧ rest = others
  | [], [], _, _, same => ⟨rfl, (List.cons.inj same).2⟩
  | [], element :: _, _, _, same => by
      simp only [elementsText, List.append_assoc, List.singleton_append] at same
      exact absurd same.symm (readable.text_ne_closeArray element)
  | element :: _, [], _, _, same => by
      simp only [elementsText, List.append_assoc, List.singleton_append] at same
      exact absurd same (readable.text_ne_closeArray element)
  | element :: elements, other :: more, _, _, same => by
      simp only [elementsText, List.append_assoc] at same
      obtain ⟨rfl, rests⟩ :=
        text_inj element other (ends_moreElements _ _) (ends_moreElements _ _) same
      obtain ⟨rfl, tails⟩ := moreElements_inj elements more rests
      exact ⟨rfl, tails⟩

theorem moreElements_inj : (elements more : List (Data Scalar Key)) → {rest others : List Symbol} →
    script.moreElements elements ++ rest = script.moreElements more ++ others →
      elements = more ∧ rest = others
  | [], [], _, _, same => ⟨rfl, (List.cons.inj same).2⟩
  | [], _ :: _, _, _, same => absurd (List.cons.inj same).1.symm readable.comma_ne_array
  | _ :: _, [], _, _, same => absurd (List.cons.inj same).1 readable.comma_ne_array
  | element :: elements, other :: more, _, _, same => by
      simp only [moreElements, List.cons_append, List.append_assoc, List.cons.injEq, true_and]
        at same
      obtain ⟨rfl, rests⟩ :=
        text_inj element other (ends_moreElements _ _) (ends_moreElements _ _) same
      obtain ⟨rfl, tails⟩ := moreElements_inj elements more rests
      exact ⟨rfl, tails⟩

theorem membersText_inj : (members more : List (Key × Data Scalar Key)) →
    {rest others : List Symbol} →
    script.membersText members ++ rest = script.membersText more ++ others →
      members = more ∧ rest = others
  | [], [], _, _, same => ⟨rfl, (List.cons.inj same).2⟩
  | [], (key, _) :: _, _, _, same => by
      simp only [membersText, List.append_assoc, List.singleton_append] at same
      exact absurd same.symm (readable.key_ne_closeObject key)
  | (key, _) :: _, [], _, _, same => by
      simp only [membersText, List.append_assoc, List.singleton_append] at same
      exact absurd same (readable.key_ne_closeObject key)
  | (key, value) :: members, (_, other) :: more, _, _, same => by
      simp only [membersText, List.append_assoc, List.cons_append] at same
      obtain ⟨rfl, values⟩ := readable.key_inj same
      simp only [List.cons.injEq, true_and] at values
      obtain ⟨rfl, rests⟩ :=
        text_inj value other (ends_moreMembers _ _) (ends_moreMembers _ _) values
      obtain ⟨rfl, tails⟩ := moreMembers_inj members more rests
      exact ⟨rfl, tails⟩

theorem moreMembers_inj : (members more : List (Key × Data Scalar Key)) →
    {rest others : List Symbol} →
    script.moreMembers members ++ rest = script.moreMembers more ++ others →
      members = more ∧ rest = others
  | [], [], _, _, same => ⟨rfl, (List.cons.inj same).2⟩
  | [], (_, _) :: _, _, _, same => absurd (List.cons.inj same).1.symm readable.comma_ne_object
  | (_, _) :: _, [], _, _, same => absurd (List.cons.inj same).1 readable.comma_ne_object
  | (key, value) :: members, (_, other) :: more, _, _, same => by
      simp only [moreMembers, List.append_assoc, List.cons_append, List.cons.injEq, true_and]
        at same
      obtain ⟨rfl, values⟩ := readable.key_inj same
      simp only [List.cons.injEq, true_and] at values
      obtain ⟨rfl, rests⟩ :=
        text_inj value other (ends_moreMembers _ _) (ends_moreMembers _ _) values
      obtain ⟨rfl, tails⟩ := moreMembers_inj members more rests
      exact ⟨rfl, tails⟩

end

theorem text_injective : Function.Injective script.text := by
  intro data other same
  have ends : script.Ends [] := fun _ impossible => nomatch impossible
  exact (readable.text_inj data other ends ends (congrArg (· ++ []) same)).1

end Readable

end Script

end OrderedData
