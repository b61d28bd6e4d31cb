import Messenger.Proofs.History.Contiguous

/-!
# Driving a cursor

A cursor is driven by fetching its page until it is done or a page fails.  Whatever the source
answers, every window takes up where the one before it ends, and only the first one may begin
beyond the highest number.  So a drive ends after a number of windows that is known beforehand.
-/

namespace Messenger

/-! ## The windows of a cursor -/

namespace HistoryRequest

/-- The window behind so many others of the same size, the first of them from a number on. -/
def IsWindow (request : HistoryRequest) (peer : AccountId) (first size before : Nat) : Prop :=
  request.bounds = (peer, first + before * size,
    min (first + (before + 1) * size - 1) (UInt64.size - 1))

theorem isWindow_window (peer : AccountId) {low size : UInt64} (sizePos : 0 < size) :
    (window peer low size).IsWindow peer low.toNat size.toNat 0 := by
  unfold IsWindow
  rw [bounds_window_eq_min sizePos, Nat.zero_mul, Nat.add_zero, Nat.zero_add, Nat.one_mul]

variable {request other : HistoryRequest} {peer : AccountId} {first size before : Nat}

/-- The window behind so many others from the second one on is one more behind. -/
theorem IsWindow.succ (isWindow : request.IsWindow peer (first + size) size before) :
    request.IsWindow peer first size (before + 1) := by
  have shift : ∀ count, first + size + count * size = first + (count + 1) * size := by
    intro count
    rw [Nat.succ_mul]
    omega
  unfold IsWindow at isWindow ⊢
  rw [isWindow, shift, shift]

namespace IsWindow

theorem low_eq (isWindow : request.IsWindow peer first size before) :
    request.low.toNat = first + before * size :=
  congrArg (fun bounds => bounds.2.1) isWindow

theorem high_eq (isWindow : request.IsWindow peer first size before) :
    request.high.toNat = min (first + (before + 1) * size - 1) (UInt64.size - 1) :=
  congrArg (fun bounds => bounds.2.2) isWindow

/-- A window has a number, and the server does not choose where it ends. -/
theorem proper (isWindow : request.IsWindow peer first size before) (firstPos : 0 < first)
    (sizePos : 0 < size) :
    1 ≤ request.low ∧ request.low ≤ request.high ∧ request.isOpenEnded = false := by
  have low := isWindow.low_eq
  have high := isWindow.high_eq
  have bound := request.low.toNat_lt
  rw [Nat.succ_mul] at high
  simp only [UInt64.size] at high
  unfold isOpenEnded
  rw [UInt64.le_iff_toNat_le, UInt64.le_iff_toNat_le, decide_eq_false_iff_not,
    ← UInt64.toNat_inj, UInt64.toNat_one, UInt64.toNat_zero]
  omega

/-- A later window begins behind an earlier one. -/
theorem high_lt_low {later : Nat} (isWindow : request.IsWindow peer first size before)
    (isLater : other.IsWindow peer first size later) (firstPos : 0 < first)
    (order : before < later) : request.high < other.low := by
  have high := isWindow.high_eq
  have low := isLater.low_eq
  have ahead : (before + 1) * size ≤ later * size := Nat.mul_le_mul_right size order
  rw [UInt64.lt_iff_toNat_lt]
  omega

/-- The next window begins at the next number. -/
theorem low_eq_succ_high (isWindow : request.IsWindow peer first size before)
    (isNext : other.IsWindow peer first size (before + 1)) (firstPos : 0 < first) :
    other.low.toNat = request.high.toNat + 1 := by
  have high := isWindow.high_eq
  have low := isNext.low_eq
  have bound := other.low.toNat_lt
  simp only [UInt64.size] at high
  omega

end IsWindow

end HistoryRequest

/-! ## Drives -/

variable {η : Type} [HistorySource η]

namespace Backfill

/-- A drive of a cursor over a source: the windows that are asked for, and the pages, the failure
if there is one, the cursor and the source at its end. -/
inductive Drives (config : SyncConfig) : Cursor → η → List HistoryRequest →
    (List Page × Option FetchError) × Cursor × η → Prop where
  /-- The cursor is done. -/
  | done {cursor : Cursor} {source after : η}
      (ends : nextPage config source cursor = (.ok none, after)) :
      Drives config cursor source [] (([], none), cursor, after)
  /-- The page of a window cannot be fetched. -/
  | failed {cursor : Cursor} {source after : η} {cause : FetchError}
      (fails : nextPage config source cursor = (.error cause, after)) :
      Drives config cursor source [.window cursor.peer cursor.next cursor.pageSize]
        (([], some cause), cursor, after)
  /-- A page is fetched, and the cursor is driven on from behind it. -/
  | paged {cursor moved last : Cursor} {source middle after : η} {page : Page}
      {asked : List HistoryRequest} {pages : List Page} {failure : Option FetchError}
      (gives : nextPage config source cursor = (.ok (some (page, moved)), middle))
      (rest : Drives config moved middle asked ((pages, failure), last, after)) :
      Drives config cursor source (.window cursor.peer cursor.next cursor.pageSize :: asked)
        ((page :: pages, failure), last, after)

/-- Every cursor can be driven to an end over every source. -/
theorem exists_drives (config : SyncConfig) (source : η) (cursor : Cursor) :
    ∃ asked, Drives config cursor source asked (allPages config source cursor) := by
  rw [allPages]
  split
  · next fails => exact ⟨_, .failed fails⟩
  · next ends => exact ⟨_, .done ends⟩
  · next page moved middle gives =>
      obtain ⟨asked, rest⟩ := exists_drives config middle moved
      exact ⟨_, .paged gives rest⟩
termination_by cursor.distance
decreasing_by exact distance_lt_of_nextPage (by assumption)

namespace Drives

variable {config : SyncConfig} {cursor last : Cursor} {source after : η}
  {asked : List HistoryRequest} {pages : List Page} {failure : Option FetchError}

/-- Nothing is asked for a cursor that is done. -/
theorem asked_eq_nil {result : (List Page × Option FetchError) × Cursor × η}
    (drives : Drives config cursor source asked result) (done : cursor.done = true) :
    asked = [] := by
  have ends : nextPage config source cursor = (.ok none, source) := nextPage_of_done done
  cases drives with
  | done => rfl
  | failed fails => cases ends.symm.trans fails
  | paged gives => cases ends.symm.trans gives

/-- Every window that is asked for gives a page, but for the one that fails. -/
theorem length_asked
    (drives : Drives config cursor source asked ((pages, failure), last, after)) :
    asked.length = pages.length + failure.toList.length := by
  generalize same : ((pages, failure), last, after) = result at drives
  induction drives generalizing pages failure with
  | done => cases same; rfl
  | failed => cases same; rfl
  | paged _ _ ih =>
      cases same
      rw [List.length_cons, List.length_cons, ih rfl, Nat.add_right_comm]

/-- The windows of a drive follow one another, and those behind the first begin at a number that a
frame can carry. -/
theorem isWindow_of_getElem? {result : (List Page × Option FetchError) × Cursor × η}
    (drives : Drives config cursor source asked result) {before : Nat} {request : HistoryRequest}
    (asks : asked[before]? = some request) :
    request.IsWindow cursor.peer cursor.next.toNat cursor.pageSize.toNat before ∧
      (0 < before → request.low ≤ highestSeq) := by
  induction drives generalizing before with
  | done => cases asks
  | failed =>
      cases before with
      | zero =>
          cases asks
          exact ⟨HistoryRequest.isWindow_window _ (Cursor.pageSize_pos _), nofun⟩
      | succ before => cases asks
  | @paged cursor moved last source middle after page asked pages failure gives rest ih =>
      cases before with
      | zero =>
          cases asks
          exact ⟨HistoryRequest.isWindow_window _ cursor.pageSize_pos, nofun⟩
      | succ before =>
          rw [List.getElem?_cons_succ] at asks
          obtain ⟨active, messages, -, -, rfl⟩ := nextPage_eq_some_iff.mp gives
          have goesOn : (cursor.advance page).done = false := by
            rw [← Bool.not_eq_true]
            intro done
            rw [rest.asked_eq_nil done] at asks
            cases asks
          obtain ⟨moves, within⟩ := Cursor.next_advance_of_active active goesOn
          obtain ⟨isWindow, behind⟩ := ih asks
          rw [Cursor.peer_advance, Cursor.pageSize_advance, moves] at isWindow
          refine ⟨isWindow.succ, fun _ => ?_⟩
          cases before with
          | zero =>
              have low := isWindow.low_eq
              rw [UInt64.le_iff_toNat_le]
              omega
          | succ before => exact behind before.succ_pos

/-- A drive asks for one window, or for no more than there are from its number up to the highest
one. -/
theorem length_asked_le {result : (List Page × Option FetchError) × Cursor × η}
    (drives : Drives config cursor source asked result) :
    let size := cursor.pageSize.toNat
    asked.length ≤ max 1 ((highestSeq.toNat + 1 - cursor.next.toNat + size - 1) / size) := by
  intro size
  have sizePos : 0 < size := UInt64.lt_iff_toNat_lt.mp cursor.pageSize_pos
  rcases Nat.lt_or_ge 1 asked.length with several | one
  · refine Nat.le_trans ?_ (Nat.le_max_right ..)
    obtain ⟨before, length⟩ := Nat.exists_eq_add_of_lt several
    have among : before + 1 < asked.length := by omega
    obtain ⟨isWindow, behind⟩ :=
      drives.isWindow_of_getElem? (List.getElem?_eq_getElem among)
    have within := UInt64.le_iff_toNat_le.mp (behind before.succ_pos)
    rw [isWindow.low_eq] at within
    rw [Nat.le_div_iff_mul_le sizePos, length, Nat.add_comm 1 before, Nat.succ_mul (before + 1)]
    change _ + (before + 1) * size ≤ _ at within
    omega
  · exact Nat.le_trans one (Nat.le_max_left ..)

end Drives

end Backfill

/-! ## What a drive sends -/

namespace Recorded

/-- Every attempt at an answer makes the same request. -/
theorem requests_retry {α : Type} (config : SyncConfig) (request : HistoryRequest)
    (accept : List Octets → Except HistoryError α) (left : Nat) (last : String)
    (recorded : Recorded η) :
    ∃ count ≤ left, (0 < left → 0 < count) ∧
      (Backfill.retry config request accept left last recorded).2.requests =
        recorded.requests ++ List.replicate count request := by
  obtain ⟨count, allowed, some, asked⟩ :=
    Backfill.exists_asked_of_retry config request accept left last recorded
  rw [historyAfterAll_eq] at asked
  exact ⟨count, allowed, some, congrArg requests asked⟩

/-- The window of a cursor that is not done is sent at least once, and no more often than the
budget allows. -/
theorem requests_nextPage (config : SyncConfig) (recorded : Recorded η) (cursor : Cursor) :
    ∃ count ≤ config.retry.attempts, (cursor.done = false → 0 < count) ∧
      (Backfill.nextPage config recorded cursor).2.requests = recorded.requests ++
        List.replicate count (.window cursor.peer cursor.next cursor.pageSize) := by
  let request := HistoryRequest.window cursor.peer cursor.next cursor.pageSize
  obtain ⟨count, allowed, some, sent⟩ :=
    requests_retry config request Backfill.decodeAll config.retry.attempts "" recorded
  have sends := fun _ : cursor.done = false => some config.retry.attempts_pos
  rcases Backfill.nextPage_cases config recorded cursor with
    ⟨done, same⟩ | ⟨-, ⟨_, _, fetched, same⟩ | ⟨_, _, failed, same⟩⟩
  · rw [same, done]
    exact ⟨0, Nat.zero_le _, nofun, (List.append_nil _).symm⟩
  · rw [same, ← congrArg Prod.snd fetched]
    exact ⟨count, allowed, sends, sent⟩
  · rw [same, ← congrArg Prod.snd failed]
    exact ⟨count, allowed, sends, sent⟩

end Recorded

namespace Backfill

/-- A drive sends its windows in order, each one at least once and no more often than the budget
allows. -/
theorem Drives.requests_eq {config : SyncConfig} {cursor : Cursor} {recorded : Recorded η}
    {asked : List HistoryRequest}
    {result : (List Page × Option FetchError) × Cursor × Recorded η}
    (drives : Drives config cursor recorded asked result) :
    ∃ counts : List Nat, counts.length = asked.length ∧
      (∀ count ∈ counts, 0 < count ∧ count ≤ config.retry.attempts) ∧
      result.2.2.requests =
        recorded.requests ++ (List.zipWith List.replicate counts asked).flatten := by
  induction drives with
  | done ends =>
      obtain ⟨-, rfl⟩ := nextPage_eq_none_iff.mp ends
      exact ⟨[], rfl, List.forall_mem_nil _, (List.append_nil _).symm⟩
  | @failed cursor source after cause fails =>
      obtain ⟨count, allowed, sends, sent⟩ := Recorded.requests_nextPage config source cursor
      rw [fails] at sent
      have active := (nextPage_eq_error_iff.mp fails).1
      refine ⟨[count], rfl, List.forall_mem_singleton.mpr ⟨sends active, allowed⟩, ?_⟩
      rw [List.zipWith_cons_cons, List.zipWith_nil_left, List.flatten_singleton]
      exact sent
  | @paged cursor moved last source middle after page asked pages failure gives rest ih =>
      obtain ⟨count, allowed, sends, sent⟩ := Recorded.requests_nextPage config source cursor
      rw [gives] at sent
      have active := (nextPage_eq_some_iff.mp gives).1
      obtain ⟨counts, length, each, later⟩ := ih
      refine ⟨count :: counts, congrArg Nat.succ length,
        List.forall_mem_cons.mpr ⟨⟨sends active, allowed⟩, each⟩, ?_⟩
      rw [List.zipWith_cons_cons, List.flatten_cons, ← List.append_assoc, ← sent]
      exact later

end Backfill

end Messenger
