import Mathlib.Data.List.Permutation
import Messenger.Proofs.Timeline.Insertion
import Messenger.Proofs.Word.Checked

/-!
# The gaps of a timeline

The gaps between two numbers are the longest runs of numbers that no confirmed entry has,
in ascending order.  A number may occur more than once in a timeline, and the entries may
stand in any order.
-/

namespace Messenger

/-- The longest runs of the numbers that are included, in ascending order: every run has a number,
and between a run and the next one at least one number is left out. -/
structure MaximalRuns (included : Nat → Prop) (runs : List (Nat × Nat)) : Prop where
  nonempty : ∀ run ∈ runs, run.1 ≤ run.2
  apart : runs.Pairwise fun earlier later => earlier.2 + 1 < later.1
  mem_iff : ∀ n, (∃ run ∈ runs, run.1 ≤ n ∧ n ≤ run.2) ↔ included n

namespace MaximalRuns

variable {included others : Nat → Prop} {runs : List (Nat × Nat)}

theorem congr (maximal : MaximalRuns included runs) (same : ∀ n, included n ↔ others n) :
    MaximalRuns others runs :=
  (funext fun n => propext (same n) : included = others) ▸ maximal

theorem included_of_mem (maximal : MaximalRuns included runs) {run : Nat × Nat}
    (member : run ∈ runs) {n : Nat} (low : run.1 ≤ n) (high : n ≤ run.2) : included n :=
  (maximal.mem_iff n).mp ⟨run, member, low, high⟩

/-- A run before the others, with a number left out behind it. -/
theorem cons (maximal : MaximalRuns included runs) {low high : Nat} (nonempty : low ≤ high)
    (beyond : ∀ n, included n → high + 1 < n) :
    MaximalRuns (fun n => (low ≤ n ∧ n ≤ high) ∨ included n) ((low, high) :: runs) where
  nonempty := List.forall_mem_cons.mpr ⟨nonempty, maximal.nonempty⟩
  apart := List.pairwise_cons.mpr ⟨fun run member =>
    beyond _ (maximal.included_of_mem member (Nat.le_refl _) (maximal.nonempty run member)),
    maximal.apart⟩
  mem_iff n := by
    rw [← maximal.mem_iff n]
    simp only [List.mem_cons, exists_eq_or_imp]

end MaximalRuns

namespace Timeline

/-- The first and the last number of a run. -/
def ends (run : UInt64 × UInt64) : Nat × Nat :=
  (run.1.toNat, run.2.toNat)

theorem exists_ends_iff {runs : List (UInt64 × UInt64)} {n : UInt64} :
    (∃ run ∈ runs.map ends, run.1 ≤ n.toNat ∧ n.toNat ≤ run.2) ↔
      ∃ run ∈ runs, run.1 ≤ n ∧ n ≤ run.2 := by
  simp only [UInt64.le_iff_toNat_le]
  constructor
  · rintro ⟨_, member, has⟩
    obtain ⟨run, listed, rfl⟩ := List.mem_map.mp member
    exact ⟨run, listed, has⟩
  · rintro ⟨run, listed, has⟩
    exact ⟨ends run, List.mem_map_of_mem listed, has⟩

/-- A number from `low` to `high` that is not among the present ones. -/
def Absent (low high : Nat) (present : List UInt64) (n : Nat) : Prop :=
  low ≤ n ∧ n ≤ high ∧ ∀ seq ∈ present, seq.toNat ≠ n

section Absence

variable {low high n : Nat} {seq : UInt64} {later : List UInt64}

/-- The numbers before a skipping one are absent, and otherwise only those behind it can be. -/
theorem absent_cons_of_lt (ordered : ∀ other ∈ later, seq ≤ other) (skips : low < seq.toNat)
    (within : seq.toNat ≤ high) :
    (low ≤ n ∧ n ≤ seq.toNat - 1) ∨ Absent (seq.toNat + 1) high later n ↔
      Absent low high (seq :: later) n := by
  unfold Absent
  rw [List.forall_mem_cons]
  constructor
  · rintro (⟨above, below⟩ | ⟨above, below, others⟩)
    · refine ⟨above, by omega, by omega, fun other member => ?_⟩
      have := UInt64.le_iff_toNat_le.mp (ordered other member)
      omega
    · exact ⟨by omega, below, by omega, others⟩
  · rintro ⟨above, below, notSeq, others⟩
    by_cases before : n < seq.toNat
    · exact .inl ⟨above, by omega⟩
    · exact .inr ⟨by omega, below, others⟩

/-- A number that skips none leaves absent what is absent behind it. -/
theorem absent_cons_of_le (reached : low ≤ seq.toNat + 1) (notSkips : seq.toNat ≤ low) :
    Absent (seq.toNat + 1) high later n ↔ Absent low high (seq :: later) n := by
  unfold Absent
  rw [List.forall_mem_cons]
  constructor
  · rintro ⟨above, below, others⟩
    exact ⟨by omega, below, by omega, others⟩
  · rintro ⟨above, below, notSeq, others⟩
    exact ⟨by omega, below, others⟩

end Absence

/-- Behind the numbers below `expected`, the runs between ascending numbers are the longest runs
that these leave.  A number that comes twice is passed over the second time. -/
theorem maximalRuns_runsBetween {high expected : UInt64} {present : List UInt64}
    (below : ∀ seq ∈ present, seq < Word.top) (sorted : present.Pairwise (· ≤ ·))
    (reached : ∀ seq ∈ present, expected.toNat ≤ seq.toNat + 1)
    (within : ∀ seq ∈ present, seq ≤ high) :
    MaximalRuns (Absent expected.toNat high.toNat present)
      ((runsBetween high expected present).map ends) := by
  induction present generalizing expected with
  | nil =>
      unfold runsBetween Absent
      split
      · next order =>
          rw [UInt64.le_iff_toNat_le] at order
          have nothing : MaximalRuns (fun _ => False) [] := ⟨nofun, .nil, by simp⟩
          exact (nothing.cons order fun _ => False.elim).congr (by simp)
      · next order =>
          rw [UInt64.le_iff_toNat_le] at order
          refine ⟨nofun, .nil, fun n => ⟨nofun, fun ⟨low, high, _⟩ => ?_⟩⟩
          exact (order (Nat.le_trans low high)).elim
  | cons seq later ih =>
      obtain ⟨limit, belowLater⟩ := List.forall_mem_cons.mp below
      obtain ⟨ordered, sortedLater⟩ := List.pairwise_cons.mp sorted
      obtain ⟨reachedSeq, -⟩ := List.forall_mem_cons.mp reached
      obtain ⟨withinSeq, withinLater⟩ := List.forall_mem_cons.mp within
      have following : (Word.addSat seq 1).toNat = seq.toNat + 1 := by
        rw [Word.addSat_one_of_lt limit, Word.toNat_succ_of_lt limit]
      have next := ih belowLater sortedLater (fun other member => by
        rw [following]
        exact Nat.succ_le_succ (UInt64.le_iff_toNat_le.mp (ordered other member))) withinLater
      rw [following] at next
      unfold runsBetween
      dsimp only
      split
      · next skips =>
          have last := Word.toNat_pred_of_pos (UInt64.lt_of_le_of_lt UInt64.zero_le skips)
          rw [UInt64.lt_iff_toNat_lt] at skips
          have run : expected.toNat ≤ (seq - 1).toNat := by omega
          refine (next.cons run fun n behind => ?_).congr fun n => ?_
          · have := behind.1
            omega
          · rw [last]
            exact absent_cons_of_lt ordered skips (UInt64.le_iff_toNat_le.mp withinSeq)
      · next notSkips =>
          rw [UInt64.not_lt, UInt64.le_iff_toNat_le] at notSkips
          exact next.congr fun n => absent_cons_of_le reachedSeq notSkips

/-- The numbers of confirmed entries from `low` to `high`, ascending. -/
def present (timeline : Timeline) (low high : UInt64) : List UInt64 :=
  (timeline.seqs.filter fun seq => low ≤ seq && seq ≤ high).mergeSort fun a b => a ≤ b

section Present

variable {timeline : Timeline} {low high seq : UInt64}

theorem gaps_eq_runsBetween :
    timeline.gaps low high = runsBetween high low (timeline.present low high) :=
  rfl

theorem mem_present_iff :
    seq ∈ timeline.present low high ↔ seq ∈ timeline.seqs ∧ low ≤ seq ∧ seq ≤ high := by
  rw [present, List.mem_mergeSort]
  simp

theorem pairwise_present : (timeline.present low high).Pairwise (· ≤ ·) := by
  refine (List.pairwise_mergeSort (fun a b c => ?_) (fun a b => ?_) _).imp of_decide_eq_true
  · simpa using UInt64.le_trans
  · simpa using UInt64.le_total a b

/-- The gaps of a timeline are the longest runs of numbers that no confirmed entry has.  The largest
word has no number behind it, and is told from a missing one only if no entry has it. -/
theorem maximalRuns_gaps (below : ∀ seq ∈ timeline.seqs, seq ≤ high → seq < Word.top) :
    MaximalRuns (Absent low.toNat high.toNat timeline.seqs)
      ((timeline.gaps low high).map ends) := by
  have limited : ∀ seq ∈ timeline.present low high, seq < Word.top := fun seq member =>
    below seq (mem_present_iff.mp member).1 (mem_present_iff.mp member).2.2
  have reached : ∀ seq ∈ timeline.present low high, low.toNat ≤ seq.toNat + 1 := fun seq member =>
    Nat.le_succ_of_le (UInt64.le_iff_toNat_le.mp (mem_present_iff.mp member).2.1)
  have within : ∀ seq ∈ timeline.present low high, seq ≤ high := fun seq member =>
    (mem_present_iff.mp member).2.2
  rw [gaps_eq_runsBetween]
  refine (maximalRuns_runsBetween limited pairwise_present reached within).congr fun n => ?_
  refine and_congr_right fun lower => and_congr_right fun upper => ?_
  constructor
  · rintro others seq member rfl
    exact others seq (mem_present_iff.mpr
      ⟨member, UInt64.le_iff_toNat_le.mpr lower, UInt64.le_iff_toNat_le.mpr upper⟩) rfl
  · exact fun others seq member => others seq (mem_present_iff.mp member).1

end Present

/-! ## Exact arithmetic -/

/-- The runs between present numbers, none if the successor or the predecessor of one of them is
asked for and is no word. -/
def runsBetween? (high expected : UInt64) : List UInt64 → Option (List (UInt64 × UInt64))
  | [] => some (if expected ≤ high then [(expected, high)] else [])
  | seq :: later => do
      let following ← Word.add? seq 1
      let next ← runsBetween? high following later
      if expected < seq then
        let last ← Word.sub? seq 1
        return (expected, last) :: next
      else return next

/-- Below the largest word, every sum and every difference on the way is a word. -/
theorem runsBetween?_eq_some {high expected : UInt64} {present : List UInt64}
    (below : ∀ seq ∈ present, seq < Word.top) :
    runsBetween? high expected present = some (runsBetween high expected present) := by
  induction present generalizing expected with
  | nil => rfl
  | cons seq later ih =>
      obtain ⟨limit, belowLater⟩ := List.forall_mem_cons.mp below
      have following : Word.add? seq 1 = some (Word.addSat seq 1) := by
        rw [Word.add?_eq_some_iff, Word.addSat_one_of_lt limit, Word.toNat_succ_of_lt limit,
          UInt64.toNat_one]
      unfold runsBetween? runsBetween
      rw [following, Option.bind_eq_bind, Option.bind_some, ih belowLater]
      dsimp only
      split
      · next skips =>
          have last : Word.sub? seq 1 = some (seq - 1) := by
            have before := Word.toNat_pred_of_pos (UInt64.lt_of_le_of_lt UInt64.zero_le skips)
            rw [UInt64.lt_iff_toNat_lt] at skips
            rw [Word.sub?_eq_some_iff, before, UInt64.toNat_one]
            omega
          rw [last]
          rfl
      · rfl

/-! ## What the gaps are -/

section Complement

variable {timeline : Timeline} {low high : UInt64} {gaps : List (UInt64 × UInt64)}

theorem bounds_of_maximalRuns
    (maximal : MaximalRuns (Absent low.toNat high.toNat timeline.seqs) (gaps.map ends)) :
    ∀ gap ∈ gaps, low ≤ gap.1 ∧ gap.1 ≤ gap.2 ∧ gap.2 ≤ high := by
  intro gap member
  have listed : ends gap ∈ gaps.map ends := List.mem_map_of_mem member
  have proper := maximal.nonempty _ listed
  have first := maximal.included_of_mem listed (Nat.le_refl _) proper
  have last := maximal.included_of_mem listed proper (Nat.le_refl _)
  exact ⟨UInt64.le_iff_toNat_le.mpr first.1, UInt64.le_iff_toNat_le.mpr proper,
    UInt64.le_iff_toNat_le.mpr last.2.1⟩

/-- Behind the end of a run, and before the next run, is a word. -/
theorem apart_of_maximalRuns {included : Nat → Prop}
    (maximal : MaximalRuns included (gaps.map ends)) :
    gaps.Pairwise fun earlier later => ∃ n, earlier.2 < n ∧ n < later.1 := by
  refine (List.pairwise_map.mp maximal.apart).imp fun {earlier later} apart => ?_
  change earlier.2.toNat + 1 < later.1.toNat at apart
  have next := Word.toNat_succ_of_lt (UInt64.lt_iff_toNat_lt.mpr (Nat.lt_of_succ_lt apart))
  refine ⟨earlier.2 + 1, UInt64.lt_iff_toNat_lt.mpr ?_, UInt64.lt_iff_toNat_lt.mpr ?_⟩ <;> omega

theorem exists_gap_iff {n : UInt64}
    (maximal : MaximalRuns (Absent low.toNat high.toNat timeline.seqs) (gaps.map ends)) :
    (∃ gap ∈ gaps, gap.1 ≤ n ∧ n ≤ gap.2) ↔
      low ≤ n ∧ n ≤ high ∧ ∀ entry ∈ timeline.entries, entry.seq? ≠ some n := by
  rw [← exists_ends_iff, maximal.mem_iff, UInt64.le_iff_toNat_le, UInt64.le_iff_toNat_le]
  refine and_congr_right fun _ => and_congr_right fun _ => ?_
  constructor
  · intro others entry member found
    exact others n (mem_seqs.mpr ⟨entry, member, found⟩) rfl
  · intro others seq member same
    obtain ⟨entry, listed, found⟩ := mem_seqs.mp member
    exact others entry listed (UInt64.toNat_inj.mp same ▸ found)

end Complement

/-- Whatever numbers up to the largest one of a header the confirmed entries have, in any order and
as often as they like: the gaps from `low` to `high` lie in there, ascend with a number between each
and the next, and have exactly the numbers that no confirmed entry has.  There are none if `low` is
above `high`, and all that is added and subtracted on the way stays a word. -/
theorem gaps_exact (timeline : Timeline) (low high : UInt64)
    (numbered : ∀ seq ∈ timeline.seqs, seq.toNat ≤ HeaderField.seq.largest) :
    let gaps := timeline.gaps low high
    (∀ gap ∈ gaps, low ≤ gap.1 ∧ gap.1 ≤ gap.2 ∧ gap.2 ≤ high) ∧
      gaps.Pairwise (fun earlier later => ∃ n, earlier.2 < n ∧ n < later.1) ∧
      (∀ n, (∃ gap ∈ gaps, gap.1 ≤ n ∧ n ≤ gap.2) ↔
        low ≤ n ∧ n ≤ high ∧ ∀ entry ∈ timeline.entries, entry.seq? ≠ some n) ∧
      (high < low → gaps = []) ∧
      runsBetween? high low (timeline.present low high) = some gaps := by
  intro gaps
  have limited : ∀ seq ∈ timeline.seqs, seq < Word.top := fun seq member =>
    UInt64.lt_iff_toNat_lt.mpr (Nat.lt_of_le_of_lt (numbered seq member) (by decide))
  have maximal : MaximalRuns (Absent low.toNat high.toNat timeline.seqs) (gaps.map ends) :=
    maximalRuns_gaps fun seq member _ => limited seq member
  have bounds := bounds_of_maximalRuns maximal
  refine ⟨bounds, apart_of_maximalRuns maximal, fun n => exists_gap_iff maximal, ?_, ?_⟩
  · intro above
    refine List.eq_nil_iff_forall_not_mem.mpr fun gap member => ?_
    obtain ⟨lower, proper, upper⟩ := bounds gap member
    exact UInt64.not_le.mpr above (UInt64.le_trans lower (UInt64.le_trans proper upper))
  · exact runsBetween?_eq_some fun seq member => limited seq (mem_present_iff.mp member).1

/-- Of all words, those are missing that none of a few unordered entries has, one of which comes
twice and one of which is pending. -/
theorem gaps_of_unordered_entries :
    let timeline : Timeline := ⟨[.bareText 2 1 7 50, .bareText 1 2 0 60, .bareText 2 1 3 70,
      .bareText 2 1 7 80, .bareText 2 1 1 90]⟩
    (∀ seq ∈ timeline.seqs, seq.toNat ≤ HeaderField.seq.largest) ∧
      timeline.gaps 0 Word.top = [(0, 0), (2, 2), (4, 6), (8, Word.top)] ∧
      runsBetween? Word.top 0 (timeline.present 0 Word.top) =
        some (timeline.gaps 0 Word.top) := by
  intro timeline
  have numbered : ∀ seq ∈ timeline.seqs, seq.toNat ≤ HeaderField.seq.largest := by
    have seqs_eq : timeline.seqs = [7, 3, 7, 1] := rfl
    -- entry by entry, since deciding the statement would go through every word
    rw [seqs_eq, List.forall_mem_cons, List.forall_mem_cons, List.forall_mem_cons,
      List.forall_mem_singleton]
    decide
  obtain ⟨-, -, -, -, exact_arithmetic⟩ := gaps_exact timeline 0 Word.top numbered
  exact ⟨numbered, by cbv, exact_arithmetic⟩

end Timeline

end Messenger
