import Messenger.Proofs.History.Debt
import Messenger.Proofs.History.Serving

/-!
# How far a cursor gets in a log

A cursor goes through a log window by window until a window is empty.  It reaches
a message exactly if every window before the window of the message has a message.
The end sentinel only spares the empty window behind the log.
-/

namespace Messenger

namespace Backfill

variable {log : List Message} {low size seq : Nat}

/-- A number is not before the first window, and every window before its own has a message. -/
def Reaches (log : List Message) (low size seq : Nat) : Prop :=
  low ≤ seq ∧ ∀ k, low + (k + 1) * size ≤ seq → window log (low + k * size) size ≠ []

theorem reaches_of_first (first : seq < low + size) : Reaches log low size seq ↔ low ≤ seq := by
  refine and_iff_left fun k beyond => ?_
  have oneMore : size ≤ (k + 1) * size := Nat.le_mul_of_pos_left size k.succ_pos
  omega

theorem reaches_of_later (later : low + size ≤ seq) :
    Reaches log low size seq ↔
      window log low size ≠ [] ∧ Reaches log (low + size) size seq := by
  have shift : ∀ k, low + size + k * size = low + (k + 1) * size := by
    intro k
    rw [Nat.succ_mul]
    omega
  constructor
  · rintro ⟨-, nonempty⟩
    have first := nonempty 0
    rw [Nat.zero_add, Nat.one_mul, Nat.zero_mul, Nat.add_zero] at first
    refine ⟨first later, later, fun k beyond => ?_⟩
    rw [shift] at beyond ⊢
    exact nonempty (k + 1) beyond
  · rintro ⟨first, -, nonempty⟩
    refine ⟨by omega, fun k beyond => ?_⟩
    cases k with
    | zero => rwa [Nat.zero_mul, Nat.add_zero]
    | succ k =>
        rw [← shift]
        rw [← shift (k + 1)] at beyond
        exact nonempty k beyond

end Backfill

namespace Cursor

variable {cursor : Cursor} {log : List Message} {message : Message} {page : Page}

theorem advance_of_complete (complete : page.complete = true) :
    cursor.advance page = { cursor with done := true } :=
  if_pos complete

theorem peer_advance (cursor : Cursor) (page : Page) :
    (cursor.advance page).peer = cursor.peer := by
  unfold advance
  split <;> rfl

theorem pageSize_advance (cursor : Cursor) (page : Page) :
    (cursor.advance page).pageSize = cursor.pageSize := by
  unfold advance
  split <;> rfl

theorem toNat_next_advance (cursor : Cursor) (incomplete : page.complete = false) :
    (cursor.advance page).next.toNat =
      min (cursor.next.toNat + cursor.pageSize.toNat) (UInt64.size - 1) := by
  unfold advance
  rw [incomplete]
  exact Word.toNat_addSat ..

theorem done_advance (active : cursor.done = false) (incomplete : page.complete = false) :
    (cursor.advance page).done = true ↔
      highestSeq.toNat < cursor.next.toNat + cursor.pageSize.toNat := by
  have next := toNat_next_advance cursor incomplete
  have limit := toNat_highestSeq
  unfold advance at next ⊢
  rw [incomplete] at next ⊢
  simp only [active, Bool.false_or, Bool.false_eq_true, if_false, decide_eq_true_eq,
    UInt64.lt_iff_toNat_lt, UInt64.size] at next ⊢
  omega

theorem next_advance_pos (nextPos : 0 < cursor.next) (page : Page) :
    0 < (cursor.advance page).next := by
  cases complete : page.complete with
  | true => exact advance_of_complete complete ▸ nextPos
  | false =>
      have next := toNat_next_advance cursor complete
      simp only [UInt64.lt_iff_toNat_lt, UInt64.toNat_zero, UInt64.size] at nextPos next ⊢
      omega

/-- A cursor that is still active behind a page has moved by one window and is not beyond the
highest number. -/
theorem next_advance_of_active (active : cursor.done = false)
    (goesOn : (cursor.advance page).done = false) :
    (cursor.advance page).next.toNat = cursor.next.toNat + cursor.pageSize.toNat ∧
      (cursor.advance page).next.toNat ≤ highestSeq.toNat := by
  cases complete : page.complete with
  | true =>
      rw [advance_of_complete complete] at goesOn
      cases goesOn
  | false =>
      rw [← Bool.not_eq_true, done_advance active complete] at goesOn
      have next := toNat_next_advance cursor complete
      have limit := toNat_highestSeq
      simp only [UInt64.size] at next
      omega

/-- A cursor that runs on fetches a message of a log. -/
def Fetches (cursor : Cursor) (log : List Message) (message : Message) : Prop :=
  message ∈ log ∧ cursor.done = false ∧
    Backfill.Reaches log cursor.next.toNat cursor.pageSize.toNat message.header.seq.toNat

/-- What a cursor fetches is on its page, or is fetched after that page. -/
theorem fetches_iff (active : cursor.done = false) (sentinel : Bool)
    (bounded : ∀ message ∈ log, message.header.seq ≤ highestSeq) :
    let page := Backfill.page sentinel log cursor.next.toNat cursor.pageSize.toNat
    cursor.Fetches log message ↔
      message ∈ page.messages ∨ (cursor.advance page).Fetches log message := by
  intro page
  have onPage : message ∈ page.messages ↔ message ∈ log ∧
      cursor.next.toNat ≤ message.header.seq.toNat ∧
        message.header.seq.toNat < cursor.next.toNat + cursor.pageSize.toNat :=
    Backfill.mem_window
  unfold Fetches
  rw [onPage, active, pageSize_advance, ← and_or_left, and_congr_right_iff]
  intro member
  have bound := UInt64.le_iff_toNat_le.mp (bounded message member)
  have limit := toNat_highestSeq
  simp only [true_and]
  rcases Nat.lt_or_ge message.header.seq.toNat (cursor.next.toNat + cursor.pageSize.toNat) with
    first | later
  · -- Later windows begin behind the message.
    rw [Backfill.reaches_of_first first, and_iff_left first]
    refine (or_iff_left ?_).symm
    rintro ⟨active', reached, -⟩
    have moved := (next_advance_of_active active active').1
    omega
  · rw [Backfill.reaches_of_later later, or_iff_right fun first => by omega]
    cases complete : page.complete with
    | true =>
        -- A complete page that does not reach the message is empty.
        have empty : Backfill.window log cursor.next.toNat cursor.pageSize.toNat = [] := by
          simp only [page, Backfill.page, Bool.or_eq_true, Bool.and_eq_true, List.all_eq_true,
            decide_eq_true_eq, List.isEmpty_iff] at complete
          rcases complete with none | ⟨-, last⟩
          · exact none
          · have := last message member
            omega
        rw [advance_of_complete complete]
        simp [empty]
    | false =>
        have nonempty : Backfill.window log cursor.next.toNat cursor.pageSize.toNat ≠ [] := by
          intro empty
          simp [page, Backfill.page, empty] at complete
        have active' : (cursor.advance page).done = false := by
          rw [← Bool.not_eq_true, done_advance active complete]
          omega
        rw [(next_advance_of_active active active').1, and_iff_right nonempty,
          and_iff_right active']

end Cursor

end Messenger
