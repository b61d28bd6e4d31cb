import Messenger.History.Tracker

/-!
# What the tracker owes

The debt of a channel is the set of numbers that arrivals have skipped and that
are neither known to be at hand nor given up.  The tracker stores only one number
per channel, and this number never exceeds any number of the debt.
-/

namespace Messenger

theorem toNat_unknownSeq : unknownSeq.toNat = 18446744073709551615 :=
  rfl

theorem toNat_caughtUp : caughtUp.toNat = 0 :=
  rfl

theorem toNat_highestSeq : highestSeq.toNat = 1125899906842623 :=
  rfl

namespace SyncState

/-- The newest number at hand, zero if it is not known. -/
def newestOrZero (state : SyncState) : UInt64 :=
  state.newest.getD 0

/-- The state of a channel covers its debt: every number owed lies between the smallest one
still needed and the newest one. -/
structure Covers (state : SyncState) (debt : UInt64 → Prop) : Prop where
  next_range : state.next = unknownSeq ∨ state.next = caughtUp ∨
    (1 ≤ state.next.toNat ∧ state.next.toNat ≤ state.newestOrZero.toNat + 1)
  unanchored : state.newest = none → state.next = unknownSeq ∨ state.next = caughtUp
  newest_le : state.newestOrZero ≤ highestSeq
  owed : ∀ number, debt number →
    state.next ≠ unknownSeq ∧ state.next ≠ caughtUp ∧
      state.next ≤ number ∧ number ≤ state.newestOrZero

variable {state : SyncState} {debt : UInt64 → Prop}

theorem newestOrZero_of_known {newest : UInt64} (known : state.newest = some newest) :
    state.newestOrZero = newest := by
  unfold newestOrZero
  rw [known]
  rfl

theorem covers_default : Covers {} fun _ => False where
  next_range := .inl rfl
  unanchored _ := .inl rfl
  newest_le := by decide
  owed _ impossible := impossible.elim

/-- What covers a debt covers any part of it. -/
theorem Covers.mono (covers : state.Covers debt) {part : UInt64 → Prop}
    (contained : ∀ number, part number → debt number) : state.Covers part where
  next_range := covers.next_range
  unanchored := covers.unanchored
  newest_le := covers.newest_le
  owed number owed := covers.owed number (contained number owed)

/-- Nothing is owed before the newest number is known. -/
theorem Covers.not_owed (covers : state.Covers debt) (unknown : state.newestOrZero = 0)
    (number : UInt64) : ¬debt number := by
  intro owed
  obtain ⟨-, notCaughtUp, low, high⟩ := covers.owed number owed
  apply notCaughtUp
  rw [unknown] at high
  simp only [UInt64.le_iff_toNat_le, ← UInt64.toNat_inj, toNat_caughtUp, UInt64.toNat_zero] at *
  omega

/-- Fixing the newest number forgets nothing. -/
theorem Covers.anchor (covers : state.Covers debt) {tail : Option UInt64}
    (bounded : ∀ number ∈ tail, number ≤ highestSeq) : (state.anchor tail).Covers debt := by
  unfold SyncState.anchor
  split
  · exact covers
  · next unknown =>
      have zero : state.newestOrZero = 0 := by simp [newestOrZero, unknown]
      constructor
      · rcases covers.next_range with unseen | done | ⟨low, high⟩
        · exact .inl unseen
        · exact .inr (.inl done)
        · right
          right
          rw [zero, UInt64.toNat_zero] at high
          constructor
          · exact low
          · dsimp only
            omega
      · exact nofun
      · cases tail with
        | none =>
            change (0 : UInt64) ≤ highestSeq
            decide
        | some number => exact bounded number rfl
      · intro number owed
        exact (covers.not_owed zero number owed).elim

theorem Covers.anchor_none (covers : state.Covers debt) : (state.anchor none).Covers debt :=
  covers.anchor nofun

theorem synced_anchor (state : SyncState) (tail : Option UInt64) :
    (state.anchor tail).synced = state.synced := by
  unfold SyncState.anchor
  split <;> rfl

theorem next_anchor (state : SyncState) (tail : Option UInt64) :
    (state.anchor tail).next = state.next := by
  unfold SyncState.anchor
  split <;> rfl

theorem newestOrZero_anchor_none (state : SyncState) :
    (state.anchor none).newestOrZero = state.newestOrZero := by
  unfold SyncState.anchor newestOrZero
  cases newest : state.newest <;> simp [newest]

theorem skips_iff {seq : UInt64} (bounded : state.newestOrZero ≤ highestSeq) :
    state.skips seq = true ↔ state.newestOrZero.toNat + 1 < seq.toNat := by
  have sum := Word.toNat_addSat state.newestOrZero 1
  simp only [UInt64.le_iff_toNat_le, toNat_highestSeq, UInt64.size, UInt64.reduceToNat] at *
  rw [skips, decide_eq_true_iff, UInt64.lt_iff_toNat_lt]
  change (Word.addSat state.newestOrZero 1).toNat < seq.toNat ↔ _
  omega

theorem newestOrZero_arrive (state : SyncState) (seq : UInt64) :
    (state.arrive seq).newestOrZero =
      if state.newestOrZero < seq then seq else state.newestOrZero := by
  unfold arrive newestOrZero
  dsimp only
  split <;> rfl

/-- The newest number after an arrival is known, and the arrival is not above it. -/
theorem newest_arrive_anchor (state : SyncState) (seq : UInt64) :
    ∃ newest, ((state.anchor none).arrive seq).newest = some newest ∧ seq ≤ newest := by
  have anchored : ∃ newest, (state.anchor none).newest = some newest := by
    unfold SyncState.anchor
    split
    · next newest known => exact ⟨newest, known⟩
    · exact ⟨_, rfl⟩
  obtain ⟨newest, known⟩ := anchored
  unfold arrive
  simp only [known, Option.getD_some]
  split
  · exact ⟨seq, rfl, UInt64.le_refl seq⟩
  · next notAbove => exact ⟨newest, rfl, UInt64.not_lt.mp notAbove⟩

theorem next_arrive (state : SyncState) (seq : UInt64) :
    (state.arrive seq).next =
      if state.skips seq && (state.next = caughtUp || state.newestOrZero + 1 < state.next) then
        state.newestOrZero + 1
      else state.next :=
  rfl

/-- An arrival never ends the need of a channel. -/
theorem next_arrive_ne_caughtUp (needs : state.next ≠ caughtUp) (seq : UInt64) :
    (state.arrive seq).next ≠ caughtUp := by
  rw [next_arrive]
  split
  · next skipping =>
      have skips : Word.addSat state.newestOrZero 1 < seq :=
        of_decide_eq_true (Bool.and_eq_true_iff.mp skipping).1
      have sum := Word.toNat_addSat state.newestOrZero 1
      have bound := seq.toNat_lt
      simp only [UInt64.lt_iff_toNat_lt, ← UInt64.toNat_inj, UInt64.toNat_add, toNat_caughtUp,
        UInt64.size, UInt64.reduceToNat, ne_eq] at *
      omega
  · exact needs

/-- An arrival that is not above the newest number changes nothing. -/
theorem arrive_of_known {state : SyncState} {seq newest : UInt64}
    (known : state.newest = some newest) (within : seq ≤ newest) : state.arrive seq = state := by
  have notAbove : ¬newest < seq := UInt64.not_lt.mpr within
  have notSkipped : state.skips seq = false := by
    have sum := Word.toNat_addSat newest 1
    rw [UInt64.le_iff_toNat_le] at within
    simp only [UInt64.size, UInt64.reduceToNat] at sum
    rw [skips, known, Option.getD_some, decide_eq_false_iff_not, UInt64.lt_iff_toNat_lt]
    have bound := seq.toNat_lt
    omega
  unfold arrive
  simp only [known, notSkipped, Option.getD_some, notAbove, Bool.false_and, Bool.false_eq_true,
    if_false]
  rw [← known]

/-- An arrival leaves the newest number unknown only if it was and is not above it. -/
theorem newest_of_arrive_eq_none {seq : UInt64} (unknown : (state.arrive seq).newest = none) :
    state.newest = none ∧ seq ≤ state.newestOrZero := by
  unfold arrive at unknown
  dsimp only at unknown
  split at unknown
  · cases unknown
  · next notBelow => exact ⟨unknown, UInt64.not_lt.mp notBelow⟩

/-- An arrival adds the numbers that it skips to the debt. -/
theorem Covers.arrive (covers : state.Covers debt) {seq : UInt64} (bounded : seq ≤ highestSeq) :
    (state.arrive seq).Covers fun number =>
      debt number ∨ (state.newestOrZero < number ∧ number < seq) := by
  obtain ⟨range, unanchored, newestLe, owed⟩ := covers
  have missing : (state.newestOrZero + 1).toNat = state.newestOrZero.toNat + 1 := by
    simp only [UInt64.le_iff_toNat_le, toNat_highestSeq, UInt64.toNat_add,
      UInt64.reduceToNat] at *
    omega
  have newest := newestOrZero_arrive state seq
  have next := next_arrive state seq
  simp only [Bool.and_eq_true, Bool.or_eq_true, decide_eq_true_eq, skips_iff newestLe] at next
  simp only [UInt64.le_iff_toNat_le, UInt64.lt_iff_toNat_lt, ← UInt64.toNat_inj, ne_eq,
    toNat_highestSeq, toNat_unknownSeq, toNat_caughtUp] at *
  constructor
  · simp only [← UInt64.toNat_inj, toNat_unknownSeq, toNat_caughtUp]
    split at next <;> split at newest <;> omega
  · intro unknown
    obtain ⟨before, notBelow⟩ := newest_of_arrive_eq_none unknown
    have sentinel := unanchored before
    simp only [UInt64.le_iff_toNat_le] at notBelow
    simp only [← UInt64.toNat_inj, toNat_unknownSeq, toNat_caughtUp]
    split at next <;> omega
  · simp only [UInt64.le_iff_toNat_le, toNat_highestSeq]
    split at newest <;> omega
  · intro number known
    have before := owed number
    simp only [UInt64.le_iff_toNat_le, ← UInt64.toNat_inj, ne_eq, toNat_unknownSeq,
      toNat_caughtUp]
    rcases known with known | skipped
    · have := before known
      split at next <;> split at newest <;> omega
    · split at next <;> split at newest <;> omega

theorem newestOrZero_advance (state : SyncState) (last : UInt64) :
    (state.advance last).newestOrZero =
      if state.newestOrZero < last then last else state.newestOrZero := by
  unfold advance newestOrZero
  cases state.newest with
  | none =>
      simp only [Option.getD_some, Option.getD_none]
      split
      · rfl
      · next notPositive =>
          simp only [UInt64.lt_iff_toNat_lt, ← UInt64.toNat_inj, UInt64.toNat_zero] at *
          omega
  | some newest =>
      simp only [Option.getD_some]

theorem next_advance (state : SyncState) (last : UInt64) :
    (state.advance last).next =
      if state.next ≠ caughtUp && (state.next = unknownSeq || state.next < Word.addSat last 1) then
        Word.addSat last 1
      else state.next :=
  rfl

/-- Having everything up to a number does not end the need of a channel. -/
theorem next_advance_ne_caughtUp (needs : state.next ≠ caughtUp) (last : UInt64) :
    (state.advance last).next ≠ caughtUp := by
  rw [next_advance]
  split
  · have following := Word.toNat_addSat last 1
    simp only [← UInt64.toNat_inj, toNat_caughtUp, UInt64.size, UInt64.reduceToNat, ne_eq] at *
    omega
  · exact needs

/-- Having everything up to a number that is not above the newest one moves the need behind it. -/
theorem advance_of_needed {newest last : UInt64} (known : state.newest = some newest)
    (within : last ≤ newest) (needs : state.next ≠ caughtUp) (needed : state.next ≤ last) :
    state.advance last = { state with next := Word.addSat last 1 } := by
  have next : (state.advance last).next = Word.addSat last 1 := by
    have following := Word.toNat_addSat last 1
    have limit := last.toNat_lt
    rw [next_advance, if_pos]
    simp only [Bool.and_eq_true, Bool.or_eq_true, decide_eq_true_eq, UInt64.lt_iff_toNat_lt,
      UInt64.le_iff_toNat_le, ← UInt64.toNat_inj, toNat_unknownSeq, UInt64.size,
      UInt64.reduceToNat] at *
    exact ⟨needs, by omega⟩
  have kept : (state.advance last).newest = state.newest := by
    unfold SyncState.advance
    rw [known]
    exact congrArg some (if_neg (UInt64.not_lt.mpr within))
  change (⟨(state.advance last).next, (state.advance last).newest, state.synced⟩ : SyncState) = _
  rw [next, kept]

/-- What is at hand up to a number leaves the debt. -/
theorem Covers.advance (covers : state.Covers debt) {last : UInt64}
    (bounded : last ≤ highestSeq) :
    (state.advance last).Covers fun number => debt number ∧ last < number := by
  obtain ⟨range, -, newestLe, owed⟩ := covers
  have anchored : (state.advance last).newest ≠ none := by
    unfold SyncState.advance
    cases state.newest <;> exact nofun
  have following := Word.toNat_addSat last 1
  have newest := newestOrZero_advance state last
  have next := next_advance state last
  simp only [Bool.and_eq_true, Bool.or_eq_true, decide_eq_true_eq, ne_eq] at next
  simp only [UInt64.le_iff_toNat_le, UInt64.lt_iff_toNat_lt, ← UInt64.toNat_inj, ne_eq,
    toNat_highestSeq, toNat_unknownSeq, toNat_caughtUp, UInt64.size, UInt64.reduceToNat] at *
  constructor
  · simp only [← UInt64.toNat_inj, toNat_unknownSeq, toNat_caughtUp]
    split at next <;> split at newest <;> omega
  · intro unknown
    exact (anchored unknown).elim
  · simp only [UInt64.le_iff_toNat_le, toNat_highestSeq]
    split at newest <;> omega
  · rintro number ⟨known, beyond⟩
    have := owed number known
    simp only [UInt64.le_iff_toNat_le, ← UInt64.toNat_inj, ne_eq, toNat_unknownSeq,
      toNat_caughtUp]
    split at next <;> split at newest <;> omega

/-- Nothing is owed once nothing is missing. -/
theorem Covers.finish (covers : state.Covers debt) :
    Covers { state with next := caughtUp } fun _ => False where
  next_range := .inr (.inl rfl)
  unanchored _ := .inr rfl
  newest_le := covers.newest_le
  owed _ impossible := impossible.elim

/-- Whether a cycle was issued does not matter to the debt. -/
theorem Covers.setSynced (covers : state.Covers debt) (synced : Bool) :
    Covers { state with synced } debt where
  next_range := covers.next_range
  unanchored := covers.unanchored
  newest_le := covers.newest_le
  owed := covers.owed

/-- Something is wanted exactly if the number needed is none of the special values and not above
the newest number. -/
theorem wanted?_eq_some_iff {low high : UInt64} :
    state.wanted? = some (low, high) ↔
      state.next ≠ unknownSeq ∧ state.next ≠ caughtUp ∧ state.next ≤ state.newestOrZero ∧
        low = state.next ∧ high = state.newestOrZero := by
  unfold wanted? newestOrZero
  dsimp only
  split
  · next nothing =>
      simp only [Bool.or_eq_true, decide_eq_true_eq, ← UInt64.not_le] at nothing
      refine ⟨nofun, fun ⟨notUnknown, notCaughtUp, within, _⟩ => ?_⟩
      rcases nothing with (unseen | done) | above
      · exact (notUnknown unseen).elim
      · exact (notCaughtUp done).elim
      · exact (above within).elim
  · next something =>
      simp only [Bool.or_eq_true, decide_eq_true_eq, ← UInt64.not_le, not_or,
        Decidable.not_not] at something
      obtain ⟨⟨notUnknown, notCaughtUp⟩, within⟩ := something
      simp [notUnknown, notCaughtUp, within, eq_comm]

/-- As long as something is owed there is something to fetch, and it contains the debt. -/
theorem Covers.wanted (covers : state.Covers debt) {number : UInt64} (owed : debt number) :
    state.wanted? = some (state.next, state.newestOrZero) := by
  obtain ⟨notUnknown, notCaughtUp, low, high⟩ := covers.owed number owed
  exact wanted?_eq_some_iff.mpr
    ⟨notUnknown, notCaughtUp, UInt64.le_trans low high, rfl, rfl⟩

end SyncState

end Messenger
