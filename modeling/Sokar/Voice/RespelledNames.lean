import Sokar.Library.EditDistance
import Sokar.Voice.SpokenPhrases

/-!
# Respelled names

After a name was read back, the caller may spell only some letters of it.  Where they fall is found
by comparing them with each end of the name: they replace the end that they differ least from,
and of several such ends the shortest.
-/

namespace Sokar

open JsonGrammar CodeUnit EditDistance

/-- What the runtime's Unicode tables say of texts. -/
class UnicodeText extends LetterProperty where
  normalizeNFD : List CodeUnit → List CodeUnit
  isMark : Nat → Bool
  toUpperCase : List CodeUnit → List CodeUnit
  toLowerCase : List CodeUnit → List CodeUnit

/-- `text.replace(/[…]/gu, '')`, by code points. -/
def removePoints (removed : Nat → Bool) : List CodeUnit → List CodeUnit
  | [] => []
  | [unit] => if removed unit then [] else [unit]
  | high :: low :: rest =>
    if isSurrogatePair high low then
      if removed (pairCodePoint high low) then removePoints removed rest
      else high :: low :: removePoints removed rest
    else if removed high then removePoints removed (low :: rest)
    else high :: removePoints removed (low :: rest)

/-- `[\s,.;:!?-]`. -/
def isTokenSeparator (unit : CodeUnit) : Bool :=
  isSpaceUnit unit || [0x2C, 0x2E, 0x3B, 0x3A, 0x21, 0x3F, 0x2D].contains unit

/-- `/^[2-9]$/`. -/
def isCountToken (token : List CodeUnit) : Bool :=
  match token with
  | [unit] => 0x32 ≤ unit && unit ≤ 0x39
  | _ => false

section

variable [UnicodeText]

def stripToLetters (text : List CodeUnit) : List CodeUnit :=
  UnicodeText.toUpperCase
    (removePoints (fun point => !LetterProperty.isLetter point)
      (removePoints UnicodeText.isMark (UnicodeText.normalizeNFD text)))

/-- `/^\p{L}$/u`. -/
def isLetterToken (token : List CodeUnit) : Bool :=
  match token with
  | [unit] => LetterProperty.isLetter unit
  | [high, low] => isSurrogatePair high low && LetterProperty.isLetter (pairCodePoint high low)
  | _ => false

def spelledLetters : List (List CodeUnit) → Option (List CodeUnit)
  | [] => some []
  | [token] => if isLetterToken token then some token else none
  | token :: next :: rest =>
    if isLetterToken token then (spelledLetters (next :: rest)).map (token ++ ·)
    else if isCountToken token && isLetterToken next then
      (spelledLetters rest).map ((List.replicate (token.headD 0 - 0x30) next).flatten ++ ·)
    else none

def onlySpelledLetters (transcript : List CodeUnit) : List CodeUnit :=
  let tokens := ((UnicodeText.toLowerCase transcript).splitOnP isTokenSeparator).filter (· ≠ [])
  match spelledLetters tokens with
  | some letters => stripToLetters letters
  | none => []

end

variable (a b : List CodeUnit)

/-- The table's row for the first `row` letters, from the row before; its columns are counted
from the second. -/
def editRow (row : Nat) (previous : List Nat) : List Nat :=
  (List.range b.length).foldl
    (fun current column =>
      current ++ [min (min (previous.getD (column + 1) 0 + 1) (current.getD column 0 + 1))
        (previous.getD column 0 + if a[row - 1]? = b[column]? then 0 else 1)])
    [row]

def editDistance : Nat :=
  ((List.range a.length).foldl (fun previous row => editRow a b (row + 1) previous)
    (List.range (b.length + 1))).getD b.length 0

/-- The distances between the first letters of one text and the starts of the other. -/
def prefixDistances (row columns : Nat) : List Nat :=
  (List.range columns).map fun column => levenshtein (a.take row) (b.take column)

section

variable {a b : List CodeUnit}

theorem getD_prefixDistances {row columns column : Nat} (inside : column < columns) :
    (prefixDistances a b row columns).getD column 0 = levenshtein (a.take row) (b.take column) := by
  rw [prefixDistances, List.getD_eq_getElem?_getD, List.getElem?_map, List.getElem?_range inside]
  rfl

theorem prefixDistances_succ (row columns : Nat) : prefixDistances a b row (columns + 1) =
      prefixDistances a b row columns ++ [levenshtein (a.take row) (b.take columns)] := by
  rw [prefixDistances, List.range_succ, List.map_append]
  rfl

theorem levenshtein_take_succ {row column : Nat} (inRows : row < a.length)
    (inColumns : column < b.length) :
    levenshtein (a.take (row + 1)) (b.take (column + 1)) =
      min (min (levenshtein (a.take row) (b.take (column + 1)) + 1)
          (levenshtein (a.take (row + 1)) (b.take column) + 1))
        (levenshtein (a.take row) (b.take column) + if a[row]? = b[column]? then 0 else 1) := by
  have cost : (if a[row]? = b[column]? then 0 else 1) = replacement a[row] b[column] := by
    rw [List.getElem?_eq_getElem inRows, List.getElem?_eq_getElem inColumns]
    exact if_congr Option.some_inj rfl rfl
  rw [cost, ← List.take_append_getElem inRows, ← List.take_append_getElem inColumns]
  exact levenshtein_concat _ _ _ _

theorem editRow_prefixDistances {row : Nat} (inRows : row < a.length) :
    editRow a b (row + 1) (prefixDistances a b row (b.length + 1)) =
      prefixDistances a b (row + 1) (b.length + 1) := by
  have upTo (columns : Nat) (inColumns : columns ≤ b.length) : (List.range columns).foldl
          (fun current column =>
            current ++ [min (min ((prefixDistances a b row (b.length + 1)).getD (column + 1) 0 + 1)
                (current.getD column 0 + 1))
              ((prefixDistances a b row (b.length + 1)).getD column 0 +
                if a[row + 1 - 1]? = b[column]? then 0 else 1)])
          [row + 1] =
        prefixDistances a b (row + 1) (columns + 1) := by
    induction columns with
    | zero =>
      rw [List.range_zero, List.foldl_nil, prefixDistances_succ, List.take_zero,
        levenshtein_nil_right, List.length_take_of_le inRows]
      rfl
    | succ column ih =>
      rw [List.range_succ, List.foldl_append, ih (by omega), List.foldl_cons, List.foldl_nil,
        getD_prefixDistances (by omega), getD_prefixDistances (by omega),
        getD_prefixDistances (by omega), prefixDistances_succ (row + 1) (column + 1),
        levenshtein_take_succ inRows inColumns, Nat.add_sub_cancel]
  exact upTo b.length le_rfl

theorem editDistance_eq_levenshtein (a b : List CodeUnit) : editDistance a b = levenshtein a b := by
  have rows (count : Nat) (inRows : count ≤ a.length) :
      (List.range count).foldl (fun previous row => editRow a b (row + 1) previous)
          (List.range (b.length + 1)) =
        prefixDistances a b count (b.length + 1) := by
    induction count with
    | zero =>
      rw [List.range_zero, List.foldl_nil, prefixDistances]
      have identity : ∀ column ∈ List.range (b.length + 1),
          levenshtein (a.take 0) (b.take column) = id column := by
        intro column inside
        have short : column ≤ b.length := Nat.lt_succ_iff.1 (List.mem_range.1 inside)
        rw [List.take_zero, levenshtein_nil_left, List.length_take_of_le short]
        rfl
      rw [List.map_congr_left identity, List.map_id]
    | succ row ih =>
      rw [List.range_succ (n := row), List.foldl_append, ih (by omega), List.foldl_cons,
        List.foldl_nil]
      exact editRow_prefixDistances inRows
  rw [editDistance, rows a.length le_rfl, getD_prefixDistances (Nat.lt_succ_self _),
    List.take_length, List.take_length]

end

/-- The loop over the starts before `position`, with the best start so far and its distance. -/
def respellingStart (previous spoken : List CodeUnit) : Nat → Nat → Nat → Nat
  | 0, start, _ => start
  | position + 1, start, distance =>
    let candidate := editDistance (previous.drop position) spoken
    if candidate < distance then respellingStart previous spoken position position candidate
    else respellingStart previous spoken position start distance

variable (previousName transcript : List CodeUnit)

def respelledNameTail [UnicodeText] : Option (List CodeUnit) :=
  let previous := stripToLetters previousName
  let spoken := onlySpelledLetters transcript
  if previous.length < 2 ∨ spoken.length < 1 then none
  else if previous.length ≤ spoken.length then some spoken
  else
    let start := respellingStart previous spoken previous.length previous.length spoken.length
    some (previous.take start ++ spoken)

/-- How far the spoken letters are from the end of the name that begins there. -/
def tailDistance (previous spoken : List CodeUnit) (start : Nat) : Nat :=
  levenshtein (previous.drop start) spoken

/-- From the start on, the end of the name differs least from the spoken letters, and every
shorter one differs more. -/
structure IsRespellingStart (previous spoken : List CodeUnit) (start : Nat) : Prop where
  inside : start ≤ previous.length
  least : ∀ other ≤ previous.length,
    tailDistance previous spoken start ≤ tailDistance previous spoken other
  largest : ∀ other ≤ previous.length, start < other →
    tailDistance previous spoken start < tailDistance previous spoken other

section

variable {previous spoken : List CodeUnit}

/-- The best start so far is the best of those from `position` on. -/
theorem respellingStart_best {position start distance : Nat}
    (isDistance : distance = tailDistance previous spoken start)
    (inside : start ≤ previous.length) (before : position ≤ start)
    (least : ∀ other ≤ previous.length, position ≤ other →
      tailDistance previous spoken start ≤ tailDistance previous spoken other)
    (largest : ∀ other ≤ previous.length, start < other →
      tailDistance previous spoken start < tailDistance previous spoken other) :
    IsRespellingStart previous spoken
      (respellingStart previous spoken position start distance) := by
  induction position generalizing start distance with
  | zero => exact ⟨inside, fun other fits => least other fits (Nat.zero_le other), largest⟩
  | succ position ih =>
    rw [respellingStart, editDistance_eq_levenshtein]
    split
    · next better =>
        rw [isDistance] at better
        refine ih rfl (by omega) le_rfl ?_ ?_
        · intro other fits after
          rcases Nat.eq_or_lt_of_le after with rfl | later
          · exact le_rfl
          · exact better.le.trans (least other fits later)
        · intro other fits later
          exact better.trans_le (least other fits later)
    · next worse =>
        rw [isDistance, not_lt] at worse
        refine ih isDistance inside (by omega) ?_ largest
        intro other fits after
        rcases Nat.eq_or_lt_of_le after with rfl | later
        · exact worse
        · exact least other fits later

theorem isRespellingStart (previous spoken : List CodeUnit) : IsRespellingStart previous spoken
      (respellingStart previous spoken previous.length previous.length spoken.length) := by
  refine respellingStart_best ?_ le_rfl le_rfl ?_ ?_
  · rw [tailDistance, List.drop_length, levenshtein_nil_left]
  · intro other fits after
    rw [le_antisymm fits after]
  · intro other fits later
    exact absurd later (by omega)

end

section

variable [UnicodeText] {previousName transcript : List CodeUnit}

theorem respelledNameTail_of_short (short : (stripToLetters previousName).length < 2 ∨
      (onlySpelledLetters transcript).length < 1) :
    respelledNameTail previousName transcript = none := by
  exact if_pos short

theorem respelledNameTail_of_whole (named : 2 ≤ (stripToLetters previousName).length)
    (whole : (stripToLetters previousName).length ≤ (onlySpelledLetters transcript).length) :
    respelledNameTail previousName transcript = some (onlySpelledLetters transcript) := by
  exact (if_neg (by omega)).trans (if_pos whole)

theorem respelledNameTail_of_tail (spelled : 1 ≤ (onlySpelledLetters transcript).length)
    (shorter : (onlySpelledLetters transcript).length < (stripToLetters previousName).length) :
    ∃ start, IsRespellingStart (stripToLetters previousName) (onlySpelledLetters transcript) start ∧
        respelledNameTail previousName transcript =
          some ((stripToLetters previousName).take start ++ onlySpelledLetters transcript) := by
  refine ⟨_, isRespellingStart _ _, ?_⟩
  exact (if_neg (by omega)).trans (if_neg (by omega))

end

/-- Fewer letters than the name has replace the end of it that they differ least from, the
shortest such end; as many letters or more are a new name, and a name of one letter has no end
to replace. -/
theorem respelledNameTail_best [UnicodeText] :
    (∀ a b : List CodeUnit, editDistance a b = levenshtein a b) ∧
      (1 ≤ (onlySpelledLetters transcript).length →
        (onlySpelledLetters transcript).length < (stripToLetters previousName).length →
        ∃ start,
          IsRespellingStart (stripToLetters previousName) (onlySpelledLetters transcript) start ∧
            respelledNameTail previousName transcript =
              some ((stripToLetters previousName).take start ++ onlySpelledLetters transcript)) ∧
      (2 ≤ (stripToLetters previousName).length →
        (stripToLetters previousName).length ≤ (onlySpelledLetters transcript).length →
        respelledNameTail previousName transcript = some (onlySpelledLetters transcript)) ∧
      ((stripToLetters previousName).length < 2 ∨ (onlySpelledLetters transcript).length < 1 →
        respelledNameTail previousName transcript = none) :=
  ⟨editDistance_eq_levenshtein, respelledNameTail_of_tail, respelledNameTail_of_whole,
    respelledNameTail_of_short⟩

section

@[reducible] def UnicodeText.ascii : UnicodeText where
  isLetter point := (0x41 ≤ point && point ≤ 0x5A) || (0x61 ≤ point && point ≤ 0x7A)
  normalizeNFD := id
  isMark _ := false
  toUpperCase text := text.map fun unit => if 0x61 ≤ unit ∧ unit ≤ 0x7A then unit - 0x20 else unit
  toLowerCase text := text.map fun unit => if 0x41 ≤ unit ∧ unit ≤ 0x5A then unit + 0x20 else unit

attribute [local instance] UnicodeText.ascii

/-- “HOUT” and “e t”: the lost letter is put back. -/
theorem respelledNameTail_best_hout : ∃ start,
      IsRespellingStart (stripToLetters [0x48, 0x4F, 0x55, 0x54])
          (onlySpelledLetters [0x65, 0x20, 0x74]) start ∧
        respelledNameTail [0x48, 0x4F, 0x55, 0x54] [0x65, 0x20, 0x74] =
          some ((stripToLetters [0x48, 0x4F, 0x55, 0x54]).take start ++
            onlySpelledLetters [0x65, 0x20, 0x74]) :=
  (respelledNameTail_best [0x48, 0x4F, 0x55, 0x54] [0x65, 0x20, 0x74]).2.1
    (by decide) (by decide)

/-- “AB” and “c d”: the letters follow the whole name with as few differences as they replace it
with, and yet replace it. -/
theorem respelledNameTail_replaces_all : ¬∃ start,
      IsRespellingStart (stripToLetters [0x41, 0x42]) (onlySpelledLetters [0x63, 0x20, 0x64])
          start ∧
        respelledNameTail [0x41, 0x42] [0x63, 0x20, 0x64] =
          some ((stripToLetters [0x41, 0x42]).take start ++
            onlySpelledLetters [0x63, 0x20, 0x64]) := by
  rintro ⟨start, best, result⟩
  have letters : stripToLetters [0x41, 0x42] = [0x41, 0x42] := by decide
  have spoken : onlySpelledLetters [0x63, 0x20, 0x64] = [0x43, 0x44] := by decide
  have replaced : respelledNameTail [0x41, 0x42] [0x63, 0x20, 0x64] = some [0x43, 0x44] := by
    decide
  rw [letters, spoken] at best
  rw [replaced, letters, spoken] at result
  have front : 0 = start := by
    have lengths := congrArg List.length (Option.some.inj result)
    rw [List.length_append, List.length_take] at lengths
    have inside := best.inside
    omega
  have more := best.largest 2 (by decide) (by omega)
  rw [← front] at more
  simp [tailDistance, levenshtein, replacement] at more

end

end Sokar
