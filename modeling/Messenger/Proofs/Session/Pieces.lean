import Mathlib.Data.List.Basic
import Messenger.Proofs.Timeline.Gaps
import Messenger.Session.Browsing

/-!
# Cutting runs into pieces

A run of numbers is fetched in pieces of one size, cut from its low end.  The pieces of the
longest runs have the numbers of the runs, each number once and in ascending order.
-/

namespace Messenger

/-- A run in pieces of `size` numbers, from its low end on; the last piece may be shorter. -/
def cut (size : Nat) (run : Nat × Nat) : List (Nat × Nat) :=
  (List.range ((run.2 - run.1) / size + 1)).map fun i =>
    (run.1 + i * size, min run.2 (run.1 + (i + 1) * size - 1))

/-- Pieces that are not empty follow one another, and have the included numbers. -/
structure Covers (included : Nat → Prop) (pieces : List (Nat × Nat)) : Prop where
  nonempty : ∀ piece ∈ pieces, piece.1 ≤ piece.2
  ordered : pieces.Pairwise fun earlier later => earlier.2 < later.1
  mem_iff : ∀ n, (∃ piece ∈ pieces, piece.1 ≤ n ∧ n ≤ piece.2) ↔ included n

section Cutting

variable {size : Nat} {run : Nat × Nat}

theorem covers_cut (positive : 0 < size) (nonempty : run.1 ≤ run.2) :
    Covers (fun n => run.1 ≤ n ∧ n ≤ run.2) (cut size run) := by
  obtain ⟨low, high⟩ := run
  dsimp only at nonempty
  have begins : ∀ i ∈ List.range ((high - low) / size + 1), low + i * size ≤ high := by
    intro i member
    have within : i ≤ (high - low) / size := Nat.le_of_lt_succ (List.mem_range.mp member)
    have := (Nat.le_div_iff_mul_le positive).mp within
    omega
  unfold cut
  refine ⟨?_, ?_, fun n => ?_⟩
  · simp only [List.forall_mem_map]
    intro i member
    have := begins i member
    rw [Nat.succ_mul]
    omega
  · rw [List.pairwise_map]
    refine List.pairwise_lt_range.imp fun {i j} before => ?_
    have := Nat.mul_le_mul_right size (Nat.succ_le_of_lt before)
    rw [Nat.succ_mul] at this ⊢
    dsimp only
    omega
  · simp only [List.mem_map, exists_exists_and_eq_and]
    constructor
    · rintro ⟨i, member, lower, upper⟩
      omega
    · rintro ⟨lower, upper⟩
      have within := Nat.div_le_div_right (c := size) (Nat.sub_le_sub_right upper low)
      refine ⟨(n - low) / size, List.mem_range.mpr (Nat.lt_succ_of_le within), ?_⟩
      have parts := Nat.div_add_mod' (n - low) size
      have rest := Nat.mod_lt (n - low) positive
      rw [Nat.succ_mul]
      omega

/-- A run that a piece has all of is not cut. -/
theorem cut_of_short {low high : Nat} (nonempty : low ≤ high) (short : high < low + size) :
    cut size (low, high) = [(low, high)] := by
  have none : (high - low) / size = 0 := Nat.div_eq_of_lt (by omega)
  unfold cut
  rw [none, List.range_one, List.map_singleton]
  simp only [Nat.zero_mul, Nat.zero_add, Nat.one_mul, Nat.add_zero]
  rw [Nat.min_eq_left (by omega)]

/-- From a longer run a whole piece is cut. -/
theorem cut_of_long {low high : Nat} (positive : 0 < size) (long : low + size ≤ high) :
    cut size (low, high) = (low, low + size - 1) :: cut size (low + size, high) := by
  have more : (high - low) / size = (high - (low + size)) / size + 1 := by
    rw [Nat.div_eq_sub_div positive (by omega), Nat.sub_sub]
  have further : ∀ i, low + (i + 1) * size = low + size + i * size := by
    intro i
    rw [Nat.succ_mul]
    omega
  unfold cut
  rw [more, List.range_succ_eq_map, List.map_cons, List.map_map]
  refine List.cons_eq_cons.mpr ⟨?_, List.map_congr_left fun i _ => ?_⟩
  · simp only [Nat.zero_mul, Nat.zero_add, Nat.one_mul, Nat.add_zero]
    rw [Nat.min_eq_right (by omega)]
  · dsimp only [Function.comp_apply, Nat.succ_eq_add_one]
    rw [further, further (i + 1)]

/-- The pieces of all the longest runs have the numbers of the runs. -/
theorem MaximalRuns.covers {included : Nat → Prop} {runs : List (Nat × Nat)}
    (maximal : MaximalRuns included runs) (positive : 0 < size) :
    Covers included (runs.flatMap (cut size)) := by
  have pieces := fun run member => covers_cut positive (maximal.nonempty run member)
  have within : ∀ run ∈ runs, ∀ piece ∈ cut size run, run.1 ≤ piece.1 ∧ piece.2 ≤ run.2 := by
    intro run member piece part
    have nonempty := (pieces run member).nonempty piece part
    have first := ((pieces run member).mem_iff piece.1).mp ⟨piece, part, Nat.le_refl _, nonempty⟩
    have last := ((pieces run member).mem_iff piece.2).mp ⟨piece, part, nonempty, Nat.le_refl _⟩
    exact ⟨first.1, last.2⟩
  refine ⟨?_, ?_, fun n => ?_⟩
  · simp only [List.forall_mem_flatMap]
    exact fun run member => (pieces run member).nonempty
  · refine List.pairwise_flatMap.mpr ⟨fun run member => (pieces run member).ordered, ?_⟩
    refine maximal.apart.imp_of_mem fun {a b} aMember bMember apart earlier first later second => ?_
    have := (within a aMember earlier first).2
    have := (within b bMember later second).1
    omega
  · rw [← maximal.mem_iff n]
    constructor
    · rintro ⟨piece, member, has⟩
      obtain ⟨run, listed, part⟩ := List.mem_flatMap.mp member
      exact ⟨run, listed, ((pieces run listed).mem_iff n).mp ⟨piece, part, has⟩⟩
    · rintro ⟨run, listed, has⟩
      obtain ⟨piece, part, within⟩ := ((pieces run listed).mem_iff n).mpr has
      exact ⟨piece, List.mem_flatMap.mpr ⟨run, listed, part⟩, within⟩

end Cutting

namespace Session

theorem toNat_pieceEnd (size low high : UInt64) :
    (pieceEnd size low high).toNat =
      min high.toNat (low.toNat + max size.toNat 1 - 1) := by
  have larger : (max size 1).toNat = max size.toNat 1 := UInt64.toNat_max size 1
  have positive : 0 < max size 1 := by
    rw [UInt64.lt_iff_toNat_lt, larger]
    exact Nat.lt_of_lt_of_le Nat.one_pos (Nat.le_max_right ..)
  have bound := high.toNat_lt
  unfold pieceEnd
  rw [UInt64.toNat_min, Word.toNat_addSat, Word.toNat_pred_of_pos positive, larger]
  simp only [UInt64.size]
  omega

/-- The pieces of a run are cut from its low end. -/
theorem map_ends_pieces {size low high : UInt64} (nonempty : low ≤ high) :
    (pieces size low high).map Timeline.ends =
      cut (max size.toNat 1) (low.toNat, high.toNat) := by
  have positive : 0 < max size.toNat 1 := by omega
  fun_induction pieces size low high with
  | case1 low within last before ih =>
      have ending : last.toNat = _ := toNat_pieceEnd size low high
      have next := Word.toNat_succ_of_lt before
      rw [UInt64.lt_iff_toNat_lt] at before
      have whole : last.toNat = low.toNat + max size.toNat 1 - 1 := by omega
      have rest := ih (UInt64.le_iff_toNat_le.mpr (by omega))
      rw [next] at rest
      rw [cut_of_long positive (by omega), List.map_cons, rest]
      dsimp only [Timeline.ends]
      rw [whole, Nat.sub_add_cancel (by omega)]
  | case2 low within last notBefore =>
      have ending : last.toNat = _ := toNat_pieceEnd size low high
      rw [UInt64.lt_iff_toNat_lt] at notBefore
      rw [UInt64.le_iff_toNat_le] at within
      have whole : last.toNat = high.toNat := by omega
      rw [cut_of_short within (by omega), List.map_singleton]
      dsimp only [Timeline.ends]
      rw [whole]
  | case3 low outside => exact (outside nonempty).elim

/-- All pieces of some runs are cut from the runs. -/
theorem map_ends_flatMap_pieces {size : UInt64} {runs : List (UInt64 × UInt64)}
    (nonempty : ∀ run ∈ runs, run.1 ≤ run.2) :
    (runs.flatMap fun run => pieces size run.1 run.2).map Timeline.ends =
      (runs.map Timeline.ends).flatMap (cut (max size.toNat 1)) := by
  rw [List.map_flatMap, List.flatMap_map]
  exact List.flatMap_congr fun run member => map_ends_pieces (nonempty run member)

/-- The pieces of the longest runs of included numbers cover these numbers. -/
theorem covers_pieces {included : Nat → Prop} {runs : List (UInt64 × UInt64)}
    (maximal : MaximalRuns included (runs.map Timeline.ends)) (size : UInt64) :
    let asked := runs.flatMap fun run => pieces size run.1 run.2
    asked.map Timeline.ends = (runs.map Timeline.ends).flatMap (cut (max size.toNat 1)) ∧
      Covers included (asked.map Timeline.ends) := by
  intro asked
  have cutEq : asked.map Timeline.ends =
      (runs.map Timeline.ends).flatMap (cut (max size.toNat 1)) :=
    map_ends_flatMap_pieces fun run member => UInt64.le_iff_toNat_le.mpr
      (maximal.nonempty _ (List.mem_map_of_mem member))
  exact ⟨cutEq, cutEq ▸ maximal.covers (Nat.lt_of_lt_of_le Nat.one_pos (Nat.le_max_right _ _))⟩

end Session

end Messenger
