import Mathlib.Data.List.Sort
import Messenger.Proofs.History.Windows

/-!
# Logs without holes

In a log that has every number up to its last one, only the windows behind the last
number are empty.  The pages of a cycle are counted by the windows up to the last
number, and one more unless the end sentinel spares the empty one.
-/

namespace Messenger

/-- Whom a request asks, and its first and its last number. -/
def HistoryRequest.bounds (request : HistoryRequest) : AccountId × Nat × Nat :=
  (request.peer, request.low.toNat, request.high.toNat)

theorem HistoryRequest.bounds_window_eq_min {peer : AccountId} {low size : UInt64}
    (sizePos : 0 < size) :
    (window peer low size).bounds =
      (peer, low.toNat, min (low.toNat + size.toNat - 1) (UInt64.size - 1)) := by
  have sum := Word.toNat_addSat low (size - 1)
  have less := Word.toNat_pred_of_pos sizePos
  have positive := UInt64.lt_iff_toNat_lt.mp sizePos
  unfold bounds window
  rw [Cursor.max_one_of_pos sizePos]
  simp only [UInt64.size, UInt64.toNat_zero, Prod.mk.injEq, true_and] at *
  omega

theorem HistoryRequest.bounds_window {peer : AccountId} {low size : UInt64} (sizePos : 0 < size)
    (fits : low.toNat + size.toNat ≤ UInt64.size) :
    (window peer low size).bounds = (peer, low.toNat, low.toNat + size.toNat - 1) := by
  rw [bounds_window_eq_min sizePos, Nat.min_eq_left (Nat.sub_le_sub_right fits 1)]

/-- The bounds of the requests once a window was asked for. -/
theorem ScriptedHistory.bounds_asked (history : ScriptedHistory) {peer : AccountId}
    {low size : UInt64} (sizePos : 0 < size) (fits : low.toNat + size.toNat ≤ UInt64.size) :
    (history.asked (.window peer low size)).requests.map HistoryRequest.bounds =
      history.requests.map HistoryRequest.bounds ++
        [(peer, low.toNat, low.toNat + size.toNat - 1)] := by
  rw [← HistoryRequest.bounds_window sizePos fits]
  exact List.map_append ..

namespace Backfill

variable {log : List Message} {last low size : Nat} {sentinel : Bool}

/-- A log has one message for every number from 1 to `last`. -/
def Contiguous (log : List Message) (last : Nat) : Prop :=
  log.map (fun message => message.header.seq.toNat) = List.range' 1 last

instance (log : List Message) (last : Nat) : Decidable (Contiguous log last) :=
  inferInstanceAs (Decidable (_ = _))

theorem Contiguous.exists_mem_iff (contiguous : Contiguous log last) {number : Nat} :
    (∃ message ∈ log, message.header.seq.toNat = number) ↔ 1 ≤ number ∧ number ≤ last := by
  have member : number ∈ log.map (fun message => message.header.seq.toNat) ↔
      number ∈ List.range' 1 last := by
    rw [contiguous]
  rw [List.mem_map, List.mem_range'_1] at member
  rw [member]
  omega

/-- Two windows that adjoin in an ascending log make up the window of both. -/
theorem window_append (ascending : log.Pairwise fun a b => a.header.seq < b.header.seq)
    (low first second : Nat) :
    window log low first ++ window log (low + first) second = window log low (first + second) := by
  have windowAscending : ∀ low size,
      (window log low size).Pairwise fun a b => a.header.seq < b.header.seq :=
    fun low size => ascending.filter _
  have order : (window log low first ++ window log (low + first) second).Pairwise
      fun a b => a.header.seq < b.header.seq := by
    refine List.pairwise_append.mpr ⟨windowAscending .., windowAscending .., ?_⟩
    intro a inFirst b inSecond
    have below := (mem_window.mp inFirst).2.2
    have above := (mem_window.mp inSecond).2.1
    exact UInt64.lt_iff_toNat_lt.mpr (Nat.lt_of_lt_of_le below above)
  refine order.eq_of_mem_iff (windowAscending ..) fun message => ?_
  rw [List.mem_append, mem_window, mem_window, mem_window, ← and_or_left, and_congr_right_iff]
  omega

theorem Contiguous.ascending (contiguous : Contiguous log last) :
    log.Pairwise fun a b => a.header.seq < b.header.seq := by
  have numbers : (log.map fun message => message.header.seq.toNat).Pairwise (· < ·) :=
    contiguous ▸ List.pairwise_lt_range' ..
  exact (List.pairwise_map.mp numbers).imp UInt64.lt_iff_toNat_lt.mpr

/-- A window that reaches beyond the last number ends with it. -/
theorem Contiguous.window_of_beyond (contiguous : Contiguous log last) (within : low ≤ last + 1)
    (beyond : last < low + size) : window log low size = window log low (last + 1 - low) := by
  refine List.filter_congr fun message logged => ?_
  have inLog := contiguous.exists_mem_iff.mp ⟨message, logged, rfl⟩
  exact congrArg _ (decide_eq_decide.mpr (by omega))

/-- The window behind a number takes up where the window before it ends. -/
theorem Contiguous.window_step (contiguous : Contiguous log last) {first reached : Nat}
    (above : first ≤ reached)
    (within : reached ≤ last + 1) :
    window log first (reached - first) ++ window log reached size =
      window log first (min (reached + size) (last + 1) - first) := by
  have seam : first + (reached - first) = reached := by omega
  have joined := window_append contiguous.ascending first (reached - first) size
  rw [seam] at joined
  rw [joined]
  rcases Nat.le_total (reached + size) (last + 1) with inside | beyond
  · rw [Nat.min_eq_left inside]
    congr 1
    omega
  · rw [Nat.min_eq_right beyond]
    rcases Nat.eq_or_lt_of_le beyond with ends | more
    · congr 1
      omega
    · exact contiguous.window_of_beyond (by omega) (by omega)

theorem Contiguous.window_ne_nil_iff (contiguous : Contiguous log last) (lowPos : 1 ≤ low)
    (sizePos : 0 < size) : window log low size ≠ [] ↔ low ≤ last := by
  constructor
  · intro nonempty
    obtain ⟨message, member⟩ := List.exists_mem_of_ne_nil _ nonempty
    obtain ⟨logged, above, -⟩ := mem_window.mp member
    have within := contiguous.exists_mem_iff.mp ⟨message, logged, rfl⟩
    omega
  · intro within
    obtain ⟨message, logged, number⟩ := contiguous.exists_mem_iff.mpr ⟨lowPos, within⟩
    exact List.ne_nil_of_mem (mem_window.mpr ⟨logged, by omega, by omega⟩)

/-- Every logged number from the first window on is reached. -/
theorem Contiguous.reaches_iff (contiguous : Contiguous log last) (lowPos : 1 ≤ low)
    (sizePos : 0 < size) {message : Message} (logged : message ∈ log) :
    Reaches log low size message.header.seq.toNat ↔ low ≤ message.header.seq.toNat := by
  refine and_iff_left fun k beyond => ?_
  have within := (contiguous.exists_mem_iff.mp ⟨message, logged, rfl⟩).2
  rw [contiguous.window_ne_nil_iff (by omega) sizePos]
  have more : k * size ≤ (k + 1) * size := Nat.mul_le_mul_right size k.le_succ
  omega

theorem Contiguous.complete_iff (contiguous : Contiguous log last) (lowPos : 1 ≤ low)
    (sizePos : 0 < size) :
    (page sentinel log low size).complete = true ↔
      last < low ∨ sentinel = true ∧ last < low + size := by
  have empty : window log low size = [] ↔ last < low := by
    rw [← not_iff_not, ← ne_eq, contiguous.window_ne_nil_iff lowPos sizePos, Nat.not_lt]
  have behind : (∀ message ∈ log, message.header.seq.toNat < low + size) ↔ last < low + size := by
    constructor
    · intro all
      rcases Nat.eq_zero_or_pos last with rfl | positive
      · omega
      · obtain ⟨newest, logged, number⟩ :=
          contiguous.exists_mem_iff.mpr ⟨positive, Nat.le_refl last⟩
        exact number ▸ all newest logged
    · intro beyond message logged
      have within := contiguous.exists_mem_iff.mp ⟨message, logged, rfl⟩
      omega
  simp [page, empty, behind]

/-- How many pages a cycle asks for from a number on. -/
def pageCount (sentinel : Bool) (last low size : Nat) : Nat :=
  (last + 1 - low + size - 1) / size + if sentinel then 0 else 1

/-- A complete page is the last one. -/
theorem pageCount_of_complete (sizePos : 0 < size)
    (pending : sentinel = true → low ≤ last)
    (complete : last < low ∨ sentinel = true ∧ last < low + size) :
    pageCount sentinel last low size = 1 := by
  unfold pageCount
  cases sentinel with
  | false =>
      have none : last + 1 - low + size - 1 < size := by
        have := complete.resolve_right (by simp)
        omega
      rw [Nat.div_eq_of_lt none]
      rfl
  | true =>
      have within := pending rfl
      have one : (last + 1 - low + size - 1) / size = 1 :=
        Nat.div_eq_of_lt_le (by omega) (by omega)
      rw [one]
      rfl

/-- An incomplete page is followed by the pages from the next window on. -/
theorem pageCount_of_incomplete (sizePos : 0 < size) (within : low ≤ last) :
    pageCount sentinel last low size = pageCount sentinel last (low + size) size + 1 := by
  have split : (last + 1 - low + size - 1) / size =
      (last + 1 - (low + size) + size - 1) / size + 1 := by
    rcases Nat.le_total (low + size) (last + 1) with more | fewer
    · rw [← Nat.add_div_right _ sizePos]
      congr 1
      omega
    · have none : last + 1 - (low + size) + size - 1 < size := by omega
      rw [Nat.div_eq_of_lt none]
      exact Nat.div_eq_of_lt_le (by omega) (by omega)
  unfold pageCount
  rw [split]
  omega

/-- The windows that a cycle asks a peer for, from a number on. -/
def windows (peer : AccountId) (sentinel : Bool) (last low size : Nat) :
    List (AccountId × Nat × Nat) :=
  (List.range (pageCount sentinel last low size)).map fun i =>
    (peer, low + i * size, low + (i + 1) * size - 1)

/-- The windows behind a number. -/
theorem windows_succ (peer : AccountId) (sentinel : Bool) (last tail size : Nat) :
    windows peer sentinel last (tail + 1) size =
      (List.range ((last - tail + size - 1) / size + if sentinel then 0 else 1)).map fun i =>
        (peer, tail + 1 + i * size, tail + (i + 1) * size) := by
  unfold windows pageCount
  rw [Nat.add_sub_add_right]
  refine List.map_congr_left fun i _ => ?_
  rw [Nat.add_right_comm tail 1 ((i + 1) * size), Nat.add_sub_cancel]

theorem windows_of_complete {peer : AccountId} (sizePos : 0 < size)
    (pending : sentinel = true → low ≤ last)
    (complete : last < low ∨ sentinel = true ∧ last < low + size) :
    windows peer sentinel last low size = [(peer, low, low + size - 1)] := by
  unfold windows
  rw [pageCount_of_complete sizePos pending complete]
  simp

theorem windows_of_incomplete {peer : AccountId} (sizePos : 0 < size) (within : low ≤ last) :
    windows peer sentinel last low size =
      (peer, low, low + size - 1) :: windows peer sentinel last (low + size) size := by
  have shift : ∀ i, low + (i + 1) * size = low + size + i * size := by
    intro i
    rw [Nat.succ_mul]
    omega
  unfold windows
  rw [pageCount_of_incomplete sizePos within, List.range_succ_eq_map, List.map_cons, List.map_map]
  simp only [Nat.zero_mul, Nat.add_zero, Nat.zero_add, Nat.one_mul, Function.comp_def, shift,
    Nat.succ_eq_add_one]

end Backfill

namespace Cursor

variable {cursor : Cursor} {sentinel : Bool} {last : Nat}

/-- A cursor still runs over a log without holes: it is at most one window behind the log, and
not behind it at all if the log ends with the sentinel. -/
structure Runs (cursor : Cursor) (sentinel : Bool) (last : Nat) : Prop where
  active : cursor.done = false
  next_pos : 0 < cursor.next
  within : sentinel = true → cursor.next.toNat ≤ last
  near : cursor.next.toNat ≤ last + cursor.pageSize.toNat
  room : last + cursor.pageSize.toNat ≤ highestSeq.toNat

/-- Past an incomplete page, a cursor runs on at the next window. -/
theorem Runs.advance {page : Page} (runs : cursor.Runs sentinel last)
    (incomplete : page.complete = false) (within : cursor.next.toNat ≤ last)
    (more : sentinel = true → cursor.next.toNat + cursor.pageSize.toNat ≤ last) :
    (cursor.advance page).Runs sentinel last ∧
      (cursor.advance page).next.toNat = cursor.next.toNat + cursor.pageSize.toNat := by
  obtain ⟨active, nextPos, -, -, room⟩ := runs
  have limit := toNat_highestSeq
  have goesOn : (cursor.advance page).done = false := by
    rw [← Bool.not_eq_true, done_advance active incomplete]
    omega
  have moved := (next_advance_of_active active goesOn).1
  refine ⟨⟨goesOn, next_advance_pos nextPos page, ?_, ?_, ?_⟩, moved⟩
  · rwa [moved]
  · rw [moved, pageSize_advance]
    omega
  · rwa [pageSize_advance]

end Cursor

end Messenger
