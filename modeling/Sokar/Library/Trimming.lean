import Mathlib.Data.List.DropRight

/-!
# Trimming

Items of one kind taken off both ends of a list.  What is left of the two parts of a trimmed list
is the list but for a gap between them.
-/

namespace Trimming

variable {α : Type*} (p : α → Bool)

def trim (items : List α) : List α :=
  (items.dropWhile p).rdropWhile p

variable {p} {items front back : List α}

theorem dropWhile_of_prefix (start : front <+: items) (kept : items.dropWhile p = items) :
    front.dropWhile p = front := by
  rw [List.dropWhile_eq_self_iff] at kept ⊢
  intro nonempty
  have longer : 0 < items.length := lt_of_lt_of_le nonempty start.length_le
  rw [start.getElem nonempty]
  exact kept longer

theorem rdropWhile_of_suffix (final : back <:+ items) (kept : items.rdropWhile p = items) :
    back.rdropWhile p = back := by
  have start : back.reverse <+: items.reverse := List.reverse_prefix.2 final
  have first := dropWhile_of_prefix start
    (by rw [← List.reverse_inj, List.reverse_reverse]; exact kept)
  rw [List.rdropWhile, first, List.reverse_reverse]

theorem dropWhile_trim (items : List α) : (trim p items).dropWhile p = trim p items :=
  dropWhile_of_prefix (List.rdropWhile_prefix p _) (List.dropWhile_idempotent _ _)

theorem rdropWhile_trim (items : List α) : (trim p items).rdropWhile p = trim p items :=
  List.rdropWhile_idempotent p _

theorem trim_trim (items : List α) : trim p (trim p items) = trim p items := by
  rw [trim, dropWhile_trim, rdropWhile_trim]

theorem trim_of_all (all : items.all p) : trim p items = [] := by
  rw [trim, List.dropWhile_eq_nil_iff.2 (List.all_eq_true.1 all)]
  rfl

/-! ## What is not trimmed off -/

theorem filter_dropWhile (items : List α) :
    (items.dropWhile p).filter (fun item => !p item) = items.filter fun item => !p item := by
  have none : (items.takeWhile p).filter (fun item => !p item) = [] := by
    refine List.filter_eq_nil_iff.2 fun item isTaken => ?_
    simp [List.mem_takeWhile_imp isTaken]
  conv_rhs => rw [← List.takeWhile_append_dropWhile (p := p) (l := items)]
  rw [List.filter_append, none, List.nil_append]

theorem filter_trim (items : List α) :
    (trim p items).filter (fun item => !p item) = items.filter fun item => !p item := by
  rw [trim, List.rdropWhile, List.filter_reverse, filter_dropWhile, List.filter_reverse,
    List.reverse_reverse, filter_dropWhile]

theorem trim_eq_nil : trim p items = [] ↔ items.all p := by
  refine ⟨fun empty => ?_, trim_of_all⟩
  have none := filter_trim (p := p) items
  rw [empty, List.filter_nil, eq_comm, List.filter_eq_nil_iff] at none
  simpa using none

/-- A longer start of a list is longer when its end is trimmed. -/
theorem length_rdropWhile_mono (start : front <+: items) :
    (front.rdropWhile p).length ≤ (items.rdropWhile p).length := by
  obtain ⟨later, rfl⟩ := start
  induction later using List.reverseRecOn with
  | nil => rw [List.append_nil]
  | append_singleton later item ih =>
    rw [← List.append_assoc, List.rdropWhile_concat]
    split
    · exact ih
    · refine (List.rdropWhile_prefix p _).length_le.trans ?_
      rw [List.length_append, List.length_append]
      omega

/-- The gap that trimming leaves between two parts. -/
def gap (p : α → Bool) (front back : List α) : List α :=
  front.rtakeWhile p ++ back.takeWhile p

theorem all_gap (front back : List α) : (gap p front back).all p := by
  rw [List.all_eq_true]
  intro item inGap
  rcases List.mem_append.1 inGap with inFront | inBack
  · exact List.mem_rtakeWhile_imp inFront
  · exact List.mem_takeWhile_imp inBack

theorem trim_gap_trim (whole : trim p (front ++ back) = front ++ back) :
    trim p front ++ gap p front back ++ trim p back = front ++ back := by
  have frontKept : front.dropWhile p = front :=
    dropWhile_of_prefix (List.prefix_append front back) (whole ▸ dropWhile_trim (front ++ back))
  have backKept : back.rdropWhile p = back :=
    rdropWhile_of_suffix (List.suffix_append front back) (whole ▸ rdropWhile_trim (front ++ back))
  have backTrimmed : trim p back = back.dropWhile p :=
    rdropWhile_of_suffix (List.dropWhile_suffix p) backKept
  rw [trim, frontKept, backTrimmed, gap, ← List.append_assoc, List.rdropWhile_append_rtakeWhile,
    List.append_assoc, List.takeWhile_append_dropWhile]

end Trimming
