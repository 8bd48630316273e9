import Mathlib.Algebra.Order.Ring.Star
import Mathlib.Data.Rat.Floor
import Mathlib.Data.Rat.Star
import Sokar.Library.Coverage
import Sokar.Library.StableSort

/-!
# Perceived silences

The call report looks for the stretches of a call in which neither the caller nor the agent speaks.
A silence has someone who owes the next word, so only stretches between two utterances are
reported: what precedes the first word of the call and what follows the last one is not.
-/

namespace Sokar

open Coverage

/-- From when to when one side speaks, in seconds. -/
abbrev Segment := Coverage.Interval ℚ

def SILENCE_MIN_SEC : ℚ := 3 / 2

inductive Speaker where
  | caller
  | agent
  deriving DecidableEq

inductive SilenceOwner where
  | agent_owed
  | caller_owed
  | agent_pause
  | caller_pause
  deriving DecidableEq

structure RawSilence where
  startSec : ℚ
  endSec : ℚ
  durationSec : ℚ
  owner : SilenceOwner
  deriving DecidableEq

/-- `Math.round` rounds halves up. -/
def round2 (value : ℚ) : ℚ :=
  ⌊value * 100 + 1 / 2⌋ / 100

structure SpokenSegment where
  segment : Segment
  who : Speaker

def silenceOwner : Speaker → Speaker → SilenceOwner
  | .caller, .agent => .agent_owed
  | .caller, .caller => .caller_pause
  | .agent, .caller => .caller_owed
  | .agent, .agent => .agent_pause

/-- The state of the loop. `lastWho` is null as long as `lastEnd` is minus infinity. -/
structure SilenceSweep where
  silences : List RawSilence := []
  last : Option (ℚ × Speaker) := none

def SilenceSweep.next (minSec : ℚ) (sweep : SilenceSweep) (spoken : SpokenSegment) : SilenceSweep :=
  match sweep.last with
  | none => { sweep with last := some (spoken.segment.stop, spoken.who) }
  | some (lastEnd, lastWho) =>
    { silences :=
        if spoken.segment.start - lastEnd ≥ minSec then
          sweep.silences ++
            [{ startSec := lastEnd
               endSec := spoken.segment.start
               durationSec := round2 (spoken.segment.start - lastEnd)
               owner := silenceOwner lastWho spoken.who }]
        else sweep.silences
      last :=
        if spoken.segment.stop > lastEnd then some (spoken.segment.stop, spoken.who)
        else some (lastEnd, lastWho) }

def startsBefore (left right : SpokenSegment) : Prop :=
  left.segment.start ≤ right.segment.start

instance : DecidableRel startsBefore := fun left right =>
  inferInstanceAs (Decidable (left.segment.start ≤ right.segment.start))

def spokenBy (who : Speaker) (segments : List Segment) : List SpokenSegment :=
  segments.map fun segment => { segment, who }

variable (caller agent : List Segment)

/-- The segments of both tracks in the order of the loop. -/
def spokenSegments : List SpokenSegment :=
  (spokenBy .caller caller ++ spokenBy .agent agent).insertionSort startsBefore

def findSilences (minSec : ℚ := SILENCE_MIN_SEC) :
    List RawSilence :=
  ((spokenSegments caller agent).foldl (SilenceSweep.next minSec) {}).silences

/-! ## What the loop has found -/

/-- The loop after some segments, at least one. -/
structure SilenceSweep.Sound (minSec : ℚ) (segments : List Segment) (lastEnd : ℚ)
    (silences : List RawSilence) : Prop where
  ends : IsEnd segments lastEnd
  exact : ∀ low high, low < high →
    ((∃ silence ∈ silences, silence.startSec = low ∧ silence.endSec = high) ↔
      IsGap segments low high ∧ minSec ≤ high - low)
  long : ∀ silence ∈ silences, minSec ≤ silence.endSec - silence.startSec
  bounded : ∀ silence ∈ silences, silence.endSec ≤ lastEnd
  ordered : silences.Pairwise fun first second => first.endSec ≤ second.startSec

namespace SilenceSweep

theorem Sound.initial (minSec : ℚ) (segment : Segment) :
    Sound minSec [segment] segment.stop [] where
  ends := IsEnd.singleton segment
  exact := by
    intro low high _
    constructor
    · rintro ⟨_, member, _⟩
      exact absurd member List.not_mem_nil
    · rintro ⟨gap, _⟩
      exact absurd gap not_isGap_singleton
  long := fun _ member => absurd member List.not_mem_nil
  bounded := fun _ member => absurd member List.not_mem_nil
  ordered := List.Pairwise.nil

variable {minSec lastEnd : ℚ} {segments : List Segment} {silences : List RawSilence}

theorem Sound.next (sound : Sound minSec segments lastEnd silences) {last : Segment}
    (latest : ∀ segment ∈ segments, segment.start ≤ last.start) (who : SilenceOwner) :
    Sound minSec (segments ++ [last]) (if last.stop > lastEnd then last.stop else lastEnd)
      (if last.start - lastEnd ≥ minSec then
        silences ++ [⟨lastEnd, last.start, round2 (last.start - lastEnd), who⟩]
      else silences) where
  ends := sound.ends.concat last
  exact := by
    intro low high nonempty
    rw [isGap_concat_iff sound.ends latest, or_and_right, ← sound.exact low high nonempty]
    split
    next long =>
      constructor
      · rintro ⟨silence, member, starts, stops⟩
        rcases List.mem_append.1 member with member | member
        · exact .inl ⟨silence, member, starts, stops⟩
        · rw [List.mem_singleton.1 member] at starts stops
          subst starts stops
          exact .inr ⟨⟨rfl, rfl, nonempty⟩, long⟩
      · rintro (⟨silence, member, found⟩ | ⟨⟨rfl, rfl, _⟩, _⟩)
        · exact ⟨silence, List.mem_append_left _ member, found⟩
        · exact ⟨_, List.mem_append_right _ (List.mem_singleton_self _), rfl, rfl⟩
    next short =>
      constructor
      · exact .inl
      · rintro (found | ⟨⟨rfl, rfl, _⟩, long⟩)
        · exact found
        · exact absurd long short
  long := by
    split
    next long =>
      intro silence member
      rcases List.mem_append.1 member with member | member
      · exact sound.long silence member
      · rw [List.mem_singleton.1 member]
        exact long
    next => exact sound.long
  bounded := by
    have later : lastEnd ≤ (if last.stop > lastEnd then last.stop else lastEnd) := by
      split
      next beyond => exact beyond.le
      next => exact le_rfl
    have stops : last.start ≤ (if last.stop > lastEnd then last.stop else lastEnd) := by
      split
      next => exact last.ordered
      next within => exact last.ordered.trans (not_lt.1 within)
    split
    next =>
      intro silence member
      rcases List.mem_append.1 member with member | member
      · exact (sound.bounded silence member).trans later
      · rw [List.mem_singleton.1 member]
        exact stops
    next => exact fun silence member => (sound.bounded silence member).trans later
  ordered := by
    split
    next =>
      refine List.pairwise_append.2 ⟨sound.ordered, List.pairwise_singleton _ _, ?_⟩
      intro first member second isLast
      rw [List.mem_singleton.1 isLast]
      exact sound.bounded first member
    next => exact sound.ordered

theorem Sound.foldl (rest : List SpokenSegment) (seen : List Segment) (sweep : SilenceSweep)
    (who : Speaker) (isLast : sweep.last = some (lastEnd, who))
    (sound : Sound minSec seen lastEnd sweep.silences)
    (sorted : (rest.map (·.segment)).Pairwise fun left right => left.start ≤ right.start)
    (before : ∀ segment ∈ seen, ∀ spoken ∈ rest, segment.start ≤ spoken.segment.start) :
    ∃ lastEnd', Sound minSec (seen ++ rest.map (·.segment)) lastEnd'
      (rest.foldl (SilenceSweep.next minSec) sweep).silences := by
  induction rest generalizing seen sweep who lastEnd with
  | nil =>
    rw [List.map_nil, List.append_nil]
    exact ⟨lastEnd, sound⟩
  | cons spoken rest ih =>
    obtain ⟨earliest, sorted⟩ := List.pairwise_cons.1 (List.map_cons ▸ sorted)
    have extended := sound.next (before · · spoken List.mem_cons_self) (silenceOwner who spoken.who)
    have reads : (sweep.next minSec spoken).last =
        some (if spoken.segment.stop > lastEnd then spoken.segment.stop else lastEnd,
          if spoken.segment.stop > lastEnd then spoken.who else who) := by
      rw [SilenceSweep.next, isLast]
      dsimp only
      split <;> rfl
    have found : (sweep.next minSec spoken).silences =
        if spoken.segment.start - lastEnd ≥ minSec then
          sweep.silences ++
            [⟨lastEnd, spoken.segment.start, round2 (spoken.segment.start - lastEnd),
              silenceOwner who spoken.who⟩]
        else sweep.silences := by
      rw [SilenceSweep.next, isLast]
    have later := ih (seen ++ [spoken.segment]) (sweep.next minSec spoken) _ reads
      (found ▸ extended) sorted (by
        intro segment member other isOther
        rcases List.mem_append.1 member with member | member
        · exact before segment member other (List.mem_cons_of_mem _ isOther)
        · rw [List.mem_singleton.1 member]
          exact earliest other.segment (List.mem_map_of_mem isOther))
    rw [List.append_assoc, List.singleton_append] at later
    exact later

end SilenceSweep

theorem pairwise_spokenSegments :
    ((spokenSegments caller agent).map (·.segment)).Pairwise fun left right =>
      left.start ≤ right.start :=
  List.pairwise_map.2 (StableSort.pairwise_insertionSort_of_key startsBefore
    (fun spoken => spoken.segment.start) (fun _ _ precedes => precedes)
    (fun _ _ follows => (not_le.1 follows).le) _)

@[simp] theorem map_segment_spokenBy (who : Speaker) (segments : List Segment) :
    (spokenBy who segments).map (·.segment) = segments := by
  rw [spokenBy, List.map_map]
  exact List.map_id segments

theorem perm_spokenSegments :
    ((spokenSegments caller agent).map (·.segment)).Perm (caller ++ agent) := by
  have sorted := (List.perm_insertionSort startsBefore
    (spokenBy .caller caller ++ spokenBy .agent agent)).map (·.segment)
  rw [List.map_append, map_segment_spokenBy, map_segment_spokenBy] at sorted
  exact sorted

/-- What an empty call and any other one are swept to. -/
theorem findSilences_sound (minSec : ℚ) :
    (caller ++ agent = [] ∧ findSilences caller agent minSec = []) ∨
      ∃ segments lastEnd, segments.Perm (caller ++ agent) ∧
        SilenceSweep.Sound minSec segments lastEnd (findSilences caller agent minSec) := by
  have perm := perm_spokenSegments caller agent
  have sorted := pairwise_spokenSegments caller agent
  rw [findSilences]
  generalize spokenSegments caller agent = spoken at perm sorted
  cases spoken with
  | nil => exact .inl ⟨perm.nil_eq.symm, rfl⟩
  | cons first rest =>
    obtain ⟨earliest, sorted⟩ := List.pairwise_cons.1 sorted
    obtain ⟨lastEnd, sound⟩ := SilenceSweep.Sound.foldl rest [first.segment]
      (SilenceSweep.next minSec {} first) first.who rfl
      (SilenceSweep.Sound.initial minSec first.segment) sorted (by
        intro segment member other isOther
        rw [List.mem_singleton.1 member]
        exact earliest other.segment (List.mem_map_of_mem isOther))
    exact .inr ⟨_, lastEnd, perm, sound⟩

/-- In a call of this length both tracks stay silent from one instant to the other, and no longer
stretch of the call that contains this one is silent. -/
abbrev IsSilence (segments : List Segment) (callLength low high : ℚ) : Prop :=
  IsMaximal segments 0 callLength low high

/-- The silences found are those of the call that come after an utterance and before one. -/
theorem findSilences_exact (callLength minSec : ℚ)
    (within : ∀ segment ∈ caller ++ agent, 0 ≤ segment.start ∧ segment.stop ≤ callLength) :
    (∀ low high, low < high → ((∃ silence ∈ findSilences caller agent minSec,
          silence.startSec = low ∧ silence.endSec = high) ↔
        minSec ≤ high - low ∧ IsSilence (caller ++ agent) callLength low high ∧
          (∃ segment ∈ caller ++ agent, segment.stop ≤ low) ∧
          ∃ segment ∈ caller ++ agent, high ≤ segment.start)) ∧
      (0 < minSec → ∀ silence ∈ findSilences caller agent minSec,
        silence.startSec < silence.endSec) ∧
      (findSilences caller agent minSec).Pairwise fun first second =>
        first.endSec ≤ second.startSec := by
  rcases findSilences_sound caller agent minSec with ⟨none, nothing⟩ | ⟨segments, _, perm, sound⟩
  · rw [none, nothing]
    refine ⟨fun low high _ => ⟨?_, ?_⟩, fun _ _ member => absurd member List.not_mem_nil,
      List.Pairwise.nil⟩
    · rintro ⟨_, member, _⟩
      exact absurd member List.not_mem_nil
    · rintro ⟨_, _, ⟨_, member, _⟩, _⟩
      exact absurd member List.not_mem_nil
  · refine ⟨fun low high nonempty => ?_, fun positive silence member => ?_, sound.ordered⟩
    · rw [sound.exact low high nonempty, isGap_congr perm, isGap_iff within, and_comm]
    · exact sub_pos.1 (positive.trans_le (sound.long silence member))

/-- The agent answers two seconds after the caller. -/
theorem findSilences_exact_answer : findSilences [⟨1, 3, by norm_num⟩] [⟨5, 7, by norm_num⟩] =
        [{ startSec := 3, endSec := 5, durationSec := 2, owner := .agent_owed }] ∧
      IsSilence ([⟨1, 3, by norm_num⟩] ++ [⟨5, 7, by norm_num⟩]) 8 3 5 := by
  have found : findSilences [⟨1, 3, by norm_num⟩] [⟨5, 7, by norm_num⟩] =
      [{ startSec := 3, endSec := 5, durationSec := 2, owner := .agent_owed }] := by
    decide +kernel
  have exact := (findSilences_exact [⟨1, 3, by norm_num⟩] [⟨5, 7, by norm_num⟩] 8
    SILENCE_MIN_SEC (by norm_num)).1 3 5 (by norm_num)
  rw [found] at exact
  exact ⟨found, (exact.1 ⟨_, List.mem_singleton_self _, rfl, rfl⟩).2.1⟩

/-- Nobody speaks before the only utterance of a call, and no silence is reported. -/
theorem findSilences_omits_head :
    ¬ ∀ (caller agent : List Segment) (callLength minSec low high : ℚ),
      (∀ segment ∈ caller ++ agent, 0 ≤ segment.start ∧ segment.stop ≤ callLength) →
      ((∃ silence ∈ findSilences caller agent minSec,
          silence.startSec = low ∧ silence.endSec = high) ↔
        minSec ≤ high - low ∧ IsSilence (caller ++ agent) callLength low high) := by
  intro claim
  have silent : IsSilence ([⟨2, 3, by norm_num⟩] ++ []) 10 0 2 := by
    refine ⟨le_rfl, by norm_num, by norm_num, ?_, ?_⟩
    · rintro point _ below ⟨segment, member, starts, _⟩
      rw [List.mem_singleton.1 member] at starts
      exact absurd starts (not_le.2 below)
    · intro low' high' nonneg earlier later _ free
      refine ⟨le_antisymm earlier nonneg, ?_⟩
      by_contra different
      exact free 2 (earlier.trans_lt (by norm_num)) (lt_of_le_of_ne later (Ne.symm different))
        (Covered.of_start (List.mem_singleton_self _))
  have reported := (claim [⟨2, 3, by norm_num⟩] [] 10 1 0 2 (by norm_num)).2
    ⟨by norm_num, silent⟩
  obtain ⟨_, member, _⟩ := reported
  exact absurd member List.not_mem_nil

end Sokar
