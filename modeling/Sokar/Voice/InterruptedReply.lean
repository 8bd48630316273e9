import Sokar.Voice.SpokenPhrases

/-!
# Interrupted replies

When the caller cuts a reply short, the conversation keeps what was heard of it.  How far the reply
had come is read off the times of its characters, or reckoned from the length of its audio, and the
cut is moved back to a space.
-/

namespace Sokar

open JsonGrammar

def PLAYBACK_LAG_MS : ℚ := 200

def FALLBACK_CHARS_PER_SECOND : ℚ := 14

structure InterruptedReply where
  said : List CodeUnit
  heard : List CodeUnit
  unheard : List CodeUnit
  deriving DecidableEq

structure SpokenAlignment where
  text : List CodeUnit
  startMs : List ℚ

variable (said : List CodeUnit)

/-- Nothing for an alignment of another text. -/
def alignedHeardChars (playedMs : ℚ) (alignment : SpokenAlignment) : Option Nat :=
  if alignment.text = [] ∨ ¬alignment.text <+: said then none
  else
    let heardUntil := max 0 (playedMs - PLAYBACK_LAG_MS)
    some (alignment.startMs.takeWhile (· ≤ heardUntil)).length

/-- `text.lastIndexOf(' ', position)`, with nothing for -1. -/
def lastSpace? (text : List CodeUnit) : Nat → Option Nat
  | 0 => if text[0]? = some 0x20 then some 0 else none
  | position + 1 =>
    if text[position + 1]? = some 0x20 then some (position + 1) else lastSpace? text position

/-- The characters of the reply that were heard, for a text without its outer white space. -/
def heardChars (said text : List CodeUnit) (playedMs : ℚ) (totalMs : Option ℚ)
    (alignment : Option SpokenAlignment) : Nat :=
  let leading := said.length - (said.dropWhile isSpaceUnit).length
  match alignment.bind (alignedHeardChars said playedMs) with
  | some aligned => aligned - leading
  | none =>
    let charsPerSecond :=
      match totalMs with
      | some total =>
        if 0 < total then (text.length : ℚ) / total * 1000 else FALLBACK_CHARS_PER_SECOND
      | none => FALLBACK_CHARS_PER_SECOND
    ⌊max 0 (playedMs - PLAYBACK_LAG_MS) / 1000 * charsPerSecond⌋.toNat

def splitHeardReply (playedMs : ℚ) (totalMs : Option ℚ) (alignment : Option SpokenAlignment) :
    InterruptedReply :=
  let text := trimUnits said
  if totalMs.any (· ≤ playedMs) then { said := text, heard := text, unheard := [] }
  else
    let heardChars := heardChars said text playedMs totalMs alignment
    if text.length ≤ heardChars then { said := text, heard := text, unheard := [] }
    else
      let cut := if heardChars = 0 then 0 else (lastSpace? text heardChars).getD 0
      { said := text, heard := trimUnits (text.take cut), unheard := trimUnits (text.drop cut) }

section

variable {text : List CodeUnit}

theorem lastSpace?_eq_some {position cut : Nat} (found : lastSpace? text position = some cut) :
    cut ≤ position ∧ text[cut]? = some 0x20 := by
  induction position with
  | zero =>
    rw [lastSpace?] at found
    split at found
    · next isSpace => exact Option.some.inj found ▸ ⟨le_rfl, isSpace⟩
    · cases found
  | succ position ih =>
    rw [lastSpace?] at found
    split at found
    · next isSpace => exact Option.some.inj found ▸ ⟨le_rfl, isSpace⟩
    · exact ⟨(ih found).1.trans (Nat.le_succ position), (ih found).2⟩

theorem lastSpace?_mono {position later : Nat} (before : position ≤ later) :
    (lastSpace? text position).getD 0 ≤ (lastSpace? text later).getD 0 := by
  induction later with
  | zero => rw [Nat.le_zero.1 before]
  | succ later ih =>
    rcases Nat.eq_or_lt_of_le before with rfl | earlier
    · exact le_rfl
    · rw [lastSpace?.eq_2]
      split
      · cases found : lastSpace? text position with
        | none => exact Nat.zero_le _
        | some cut => exact (lastSpace?_eq_some found).1.trans before
      · exact ih (Nat.lt_succ_iff.1 earlier)

/-- Where the text is cut once so many of its characters were heard. -/
def cutAt (text : List CodeUnit) (heard : Nat) : Nat :=
  if text.length ≤ heard then text.length
  else if heard = 0 then 0 else (lastSpace? text heard).getD 0

theorem cutAt_le (text : List CodeUnit) (heard : Nat) : cutAt text heard ≤ text.length := by
  rw [cutAt]
  split
  · exact le_rfl
  · next short =>
      split
      · exact Nat.zero_le _
      · cases found : lastSpace? text heard with
        | none => exact Nat.zero_le _
        | some cut => exact (lastSpace?_eq_some found).1.trans (by omega)

theorem cutAt_mono {heard later : Nat} (before : heard ≤ later) :
    cutAt text heard ≤ cutAt text later := by
  by_cases long : text.length ≤ later
  · rw [cutAt.eq_1 text later, if_pos long]
    exact cutAt_le text heard
  · have short : ¬text.length ≤ heard := fun all => long (all.trans before)
    rw [cutAt, cutAt, if_neg short, if_neg long]
    split
    · exact Nat.zero_le _
    · next some =>
        rw [if_neg (by omega)]
        exact lastSpace?_mono before

theorem cutAt_boundary (text : List CodeUnit) (heard : Nat) :
    cutAt text heard = 0 ∨ cutAt text heard = text.length ∨
      text[cutAt text heard]? = some 0x20 := by
  rw [cutAt]
  split
  · exact .inr (.inl rfl)
  · split
    · exact .inl rfl
    · cases found : lastSpace? text heard with
      | none => exact .inl rfl
      | some cut => exact .inr (.inr (lastSpace?_eq_some found).2)

end

section

variable {said text : List CodeUnit} {playedMs laterMs : ℚ} {totalMs : Option ℚ}
variable {alignment : Option SpokenAlignment}

theorem length_takeWhile_mono (startMs : List ℚ) (later : playedMs ≤ laterMs) :
    (startMs.takeWhile (· ≤ playedMs)).length ≤ (startMs.takeWhile (· ≤ laterMs)).length := by
  induction startMs with
  | nil => exact le_rfl
  | cons first rest ih =>
    by_cases started : first ≤ playedMs
    · rw [List.takeWhile_cons, List.takeWhile_cons, if_pos (decide_eq_true started),
        if_pos (decide_eq_true (started.trans later))]
      exact Nat.succ_le_succ ih
    · rw [List.takeWhile_cons, if_neg (by simpa using started)]
      exact Nat.zero_le _

theorem heardUntil_mono (later : playedMs ≤ laterMs) :
    max 0 (playedMs - PLAYBACK_LAG_MS) ≤ max 0 (laterMs - PLAYBACK_LAG_MS) :=
  max_le_max_left 0 (sub_le_sub_right later _)

/-- Whether the alignment is of the text does not depend on the time. -/
theorem alignedHeardChars_later (said : List CodeUnit) (alignment : SpokenAlignment)
    (later : playedMs ≤ laterMs) :
    (alignedHeardChars said playedMs alignment = none ∧
        alignedHeardChars said laterMs alignment = none) ∨
      ∃ heard heardLater, alignedHeardChars said playedMs alignment = some heard ∧
        alignedHeardChars said laterMs alignment = some heardLater ∧ heard ≤ heardLater := by
  rw [alignedHeardChars, alignedHeardChars]
  by_cases other : alignment.text = [] ∨ ¬alignment.text <+: said
  · rw [if_pos other, if_pos other]
    exact .inl ⟨rfl, rfl⟩
  · rw [if_neg other, if_neg other]
    exact .inr ⟨_, _, rfl, rfl, length_takeWhile_mono alignment.startMs (heardUntil_mono later)⟩

theorem floor_mono {rate : ℚ} (forward : 0 ≤ rate) (later : playedMs ≤ laterMs) :
    ⌊max 0 (playedMs - PLAYBACK_LAG_MS) / 1000 * rate⌋.toNat ≤
      ⌊max 0 (laterMs - PLAYBACK_LAG_MS) / 1000 * rate⌋.toNat := by
  refine Int.toNat_le_toNat (Int.floor_mono (mul_le_mul_of_nonneg_right ?_ forward))
  exact div_le_div_of_nonneg_right (heardUntil_mono later) (by norm_num)

theorem rate_nonneg (text : List CodeUnit) (totalMs : Option ℚ) : 0 ≤ match totalMs with
      | some total =>
        if 0 < total then (text.length : ℚ) / total * 1000 else FALLBACK_CHARS_PER_SECOND
      | none => FALLBACK_CHARS_PER_SECOND := by
  have fallback : (0 : ℚ) ≤ FALLBACK_CHARS_PER_SECOND := by
    rw [FALLBACK_CHARS_PER_SECOND]
    norm_num
  cases totalMs with
  | none => exact fallback
  | some total =>
    dsimp only
    split
    · positivity
    · exact fallback

theorem heardChars_mono (later : playedMs ≤ laterMs) :
    heardChars said text playedMs totalMs alignment ≤
      heardChars said text laterMs totalMs alignment := by
  have reckoned := floor_mono (rate_nonneg text totalMs) later
  unfold heardChars
  cases alignment with
  | none => exact reckoned
  | some alignment =>
    rw [Option.bind_some, Option.bind_some]
    rcases alignedHeardChars_later said alignment later with
      ⟨none, noneLater⟩ | ⟨heard, heardLater, some, someLater, more⟩
    · rw [none, noneLater]
      exact reckoned
    · rw [some, someLater]
      exact Nat.sub_le_sub_right more _

def replyCut (said : List CodeUnit) (playedMs : ℚ) (totalMs : Option ℚ)
    (alignment : Option SpokenAlignment) : Nat :=
  if totalMs.any (· ≤ playedMs) then (trimUnits said).length
  else cutAt (trimUnits said) (heardChars said (trimUnits said) playedMs totalMs alignment)

theorem replyCut_mono (later : playedMs ≤ laterMs) :
    replyCut said playedMs totalMs alignment ≤ replyCut said laterMs totalMs alignment := by
  rw [replyCut, replyCut]
  by_cases done : totalMs.any (· ≤ laterMs)
  · split
    · exact le_rfl
    · exact cutAt_le _ _
  · have early : ¬totalMs.any (· ≤ playedMs) := by
      intro spent
      refine done ?_
      cases totalMs with
      | none => exact spent
      | some total => exact decide_eq_true ((of_decide_eq_true spent).trans later)
    rw [if_neg early, if_neg done]
    exact cutAt_mono (heardChars_mono later)

section

variable (said : List CodeUnit) (playedMs : ℚ) (totalMs : Option ℚ)
variable (alignment : Option SpokenAlignment)

theorem replyCut_boundary : replyCut said playedMs totalMs alignment = 0 ∨
      replyCut said playedMs totalMs alignment = (trimUnits said).length ∨
        (trimUnits said)[replyCut said playedMs totalMs alignment]? = some 0x20 := by
  rw [replyCut]
  split
  · exact .inr (.inl rfl)
  · exact cutAt_boundary _ _

theorem splitHeardReply_eq : splitHeardReply said playedMs totalMs alignment =
      { said := trimUnits said
        heard := trimUnits
          ((trimUnits said).take (replyCut said playedMs totalMs alignment))
        unheard := trimUnits
          ((trimUnits said).drop (replyCut said playedMs totalMs alignment)) } := by
  have all : trimUnits ((trimUnits said).take (trimUnits said).length) = trimUnits said := by
    rw [List.take_length]
    exact Trimming.trim_trim said
  have nothing : trimUnits ((trimUnits said).drop (trimUnits said).length) = [] := by
    rw [List.drop_length]
    rfl
  rw [splitHeardReply, replyCut, cutAt]
  dsimp only
  split
  · rw [all, nothing]
  · split
    · rw [all, nothing]
    · rfl

end

end

/-- The two parts are the reply without its outer white space but for the white space at the cut,
which is not inside a word; once the whole audio was played all is heard; and no less is heard
when more was played. -/
theorem splitHeardReply_exact (playedMs : ℚ) (totalMs : Option ℚ)
    (alignment : Option SpokenAlignment) :
    (∃ gap, isBlank gap ∧
        (splitHeardReply said playedMs totalMs alignment).heard ++ gap ++
          (splitHeardReply said playedMs totalMs alignment).unheard = trimUnits said ∧
        (gap = [] → (splitHeardReply said playedMs totalMs alignment).heard = [] ∨
          (splitHeardReply said playedMs totalMs alignment).unheard = [])) ∧
      (∀ total, totalMs = some total → total ≤ playedMs →
        (splitHeardReply said playedMs totalMs alignment).heard = trimUnits said ∧
          (splitHeardReply said playedMs totalMs alignment).unheard = []) ∧
      ∀ laterMs, playedMs ≤ laterMs →
        (splitHeardReply said playedMs totalMs alignment).heard.length ≤
          (splitHeardReply said laterMs totalMs alignment).heard.length := by
  refine ⟨?_, ?_, ?_⟩
  · rw [splitHeardReply_eq]
    generalize isCut : replyCut said playedMs totalMs alignment = cut
    have parts := List.take_append_drop cut (trimUnits said)
    refine ⟨Trimming.gap isSpaceUnit ((trimUnits said).take cut) ((trimUnits said).drop cut),
      Trimming.all_gap _ _, ?_, ?_⟩
    · have whole : Trimming.trim isSpaceUnit
          ((trimUnits said).take cut ++ (trimUnits said).drop cut) =
            (trimUnits said).take cut ++ (trimUnits said).drop cut := by
        rw [parts]
        exact Trimming.trim_trim said
      exact (Trimming.trim_gap_trim whole).trans parts
    · intro noGap
      have boundary := replyCut_boundary said playedMs totalMs alignment
      rw [isCut] at boundary
      rcases boundary with front | back | space
      · left
        rw [front]
        rfl
      · right
        rw [back, List.drop_length]
        rfl
      · -- the space before which the text is cut lies in the gap
        obtain ⟨inside, isSpace⟩ := List.getElem?_eq_some_iff.1 space
        have taken := (List.append_eq_nil_iff.1 noGap).2
        rw [List.drop_eq_getElem_cons inside, isSpace, List.takeWhile_cons_of_pos (by decide)]
          at taken
        cases taken
  · rintro total rfl spent
    have done : (some total).any (· ≤ playedMs) = true := decide_eq_true spent
    rw [splitHeardReply, if_pos done]
    exact ⟨rfl, rfl⟩
  · intro laterMs later
    rw [splitHeardReply_eq, splitHeardReply_eq]
    have starts (cut : Nat) :
        ((trimUnits said).take cut).dropWhile isSpaceUnit = (trimUnits said).take cut :=
      Trimming.dropWhile_of_prefix (List.take_prefix cut _) (Trimming.dropWhile_trim said)
    have heard (cut : Nat) : trimUnits ((trimUnits said).take cut) =
        ((trimUnits said).take cut).rdropWhile isSpaceUnit := by
      rw [trimUnits, Trimming.trim, starts]
    rw [heard, heard]
    exact Trimming.length_rdropWhile_mono (List.take_prefix_take_left (replyCut_mono later))

/-- “a b”, after a third of its audio and after the whole of it. -/
theorem splitHeardReply_exact_later :
    (splitHeardReply [0x61, 0x20, 0x62] 300 (some 900) none).heard.length ≤
        (splitHeardReply [0x61, 0x20, 0x62] 900 (some 900) none).heard.length ∧
      (splitHeardReply [0x61, 0x20, 0x62] 900 (some 900) none).heard =
        trimUnits [0x61, 0x20, 0x62] :=
  ⟨(splitHeardReply_exact [0x61, 0x20, 0x62] 300 (some 900) none).2.2 900 (by norm_num),
    ((splitHeardReply_exact [0x61, 0x20, 0x62] 900 (some 900) none).2.1 900 rfl le_rfl).1⟩

/-- The space before a reply is in neither part, wherever it is cut. -/
theorem splitHeardReply_drops_space : ¬∃ gap, isBlank gap ∧
      (splitHeardReply [0x20, 0x61] 1 (some 1) none).heard ++ gap ++
        (splitHeardReply [0x20, 0x61] 1 (some 1) none).unheard = [0x20, 0x61] := by
  rintro ⟨gap, -, whole⟩
  exact absurd (List.cons.inj whole).1 (by decide)

end Sokar
