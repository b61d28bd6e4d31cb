import Messenger.Proofs.History.Debt

/-!
# Runs of the tracker with its debts

A ledger keeps the debt of every channel beside the tracker.  Along every run the
tracker covers all debts, newest numbers never decrease, and a channel is issued
at most one cycle until the next reconnection.
-/

namespace Messenger

namespace Tracker

/-- A call that changes a tracker. -/
inductive Call where
  | anchor (channel : Channel) (tail : Option UInt64)
  | arrive (channel : Channel) (seq : UInt64)
  | issue (channel : Channel)
  | advance (channel : Channel) (last : UInt64)
  | finish (channel : Channel)
  | rearm
deriving DecidableEq, Repr

namespace Call

/-- The tracker after a call. -/
def apply (tracker : Tracker) : Call → Tracker
  | anchor channel tail => tracker.anchor channel tail
  | arrive channel seq => (tracker.arrive channel seq).2
  | issue channel => (tracker.issue channel).2
  | advance channel last => tracker.advance channel last
  | finish channel => tracker.finish channel
  | rearm => tracker.rearm

/-- The plan that a call returns. -/
def plan? (tracker : Tracker) : Call → Option SyncPlan
  | issue channel => (tracker.issue channel).1
  | _ => none

/-- The number that a call names. -/
def number? : Call → Option UInt64
  | anchor _ tail => tail
  | arrive _ seq => some seq
  | advance _ last => some last
  | _ => none

/-- A call names no number that a frame could not carry. -/
def Bounded (call : Call) : Prop :=
  ∀ number ∈ call.number?, number ≤ highestSeq

instance (call : Call) : Decidable call.Bounded :=
  decidable_of_iff (call.number?.all (· ≤ highestSeq) = true) (by
    unfold Bounded
    cases call.number? <;> simp)

end Call

/-! ## The state of a channel after a call -/

theorem state_setState (tracker : Tracker) (channel other : Channel) (state : SyncState) :
    (tracker.setState channel state).state other =
      if other = channel then state else tracker.state other := by
  unfold Tracker.state state? setState
  rw [Assoc.find?_insert]
  split <;> rfl

theorem state?_setState (tracker : Tracker) (channel other : Channel) (state : SyncState) :
    (tracker.setState channel state).state? other =
      if other = channel then some state else tracker.state? other :=
  Assoc.find?_insert ..

theorem state_of_tracked {tracker : Tracker} {channel : Channel} {state : SyncState}
    (tracked : tracker.state? channel = some state) : tracker.state channel = state := by
  unfold Tracker.state
  rw [tracked]
  rfl

/-- A channel whose newest number is known is tracked. -/
theorem state?_of_newest {tracker : Tracker} {channel : Channel} {newest : UInt64}
    (known : (tracker.state channel).newest = some newest) :
    tracker.state? channel = some (tracker.state channel) := by
  unfold Tracker.state at known ⊢
  cases found : tracker.state? channel with
  | none =>
      rw [found] at known
      cases known
  | some state => rfl

theorem state_rearm (tracker : Tracker) (channel : Channel) :
    tracker.rearm.state channel = { tracker.state channel with synced := false } := by
  unfold Tracker.state state? rearm
  rw [Assoc.find?_mapValues]
  cases tracker.channels.find? channel <;> rfl

theorem state_anchor (tracker : Tracker) (channel other : Channel) (tail : Option UInt64) :
    (tracker.anchor channel tail).state other =
      if other = channel then (tracker.state channel).anchor tail else tracker.state other :=
  state_setState ..

theorem state_arrive (tracker : Tracker) (channel other : Channel) (seq : UInt64) :
    (tracker.arrive channel seq).2.state other =
      if other = channel then ((tracker.state channel).anchor none).arrive seq
      else tracker.state other :=
  state_setState ..

/-- A channel in which a number arrives is tracked. -/
theorem state?_arrive (tracker : Tracker) (channel : Channel) (seq : UInt64) :
    (tracker.arrive channel seq).2.state? channel =
      some (((tracker.state channel).anchor none).arrive seq) :=
  (state?_setState ..).trans (if_pos rfl)

/-- Whether a plan is made or not, the cycle of the channel is used up. -/
theorem issue_eq_setState (tracker : Tracker) (channel : Channel) :
    (tracker.issue channel).2 = tracker.setState channel
      { (tracker.state channel).anchor none with synced := true } := by
  unfold issue
  dsimp only
  split <;> rfl

theorem state_issue (tracker : Tracker) (channel other : Channel) :
    (tracker.issue channel).2.state other =
      if other = channel then { (tracker.state channel).anchor none with synced := true }
      else tracker.state other := by
  rw [issue_eq_setState, state_setState]

theorem state?_issue (tracker : Tracker) (channel other : Channel) :
    (tracker.issue channel).2.state? other =
      if other = channel then some { (tracker.state channel).anchor none with synced := true }
      else tracker.state? other := by
  rw [issue_eq_setState, state?_setState]

theorem state_finish (tracker : Tracker) (channel other : Channel) :
    (tracker.finish channel).state other =
      if other = channel then { tracker.state channel with next := caughtUp }
      else tracker.state other :=
  state_setState ..

/-- Advancing a channel that is not tracked changes nothing. -/
theorem state_advance (tracker : Tracker) (channel other : Channel) (last : UInt64) :
    (tracker.advance channel last).state other =
      if other = channel ∧ (tracker.state? channel).isSome then
        (tracker.state channel).advance last
      else tracker.state other := by
  unfold advance
  cases known : tracker.state? channel with
  | none => simp
  | some state => simp [state_setState, state_of_tracked known]

/-- An arrival that is not above the newest number changes nothing. -/
theorem arrive_of_known {tracker : Tracker} {channel : Channel} {seq newest : UInt64}
    (known : (tracker.state channel).newest = some newest) (within : seq ≤ newest) :
    (tracker.arrive channel seq).2 = tracker := by
  have anchored : (tracker.state channel).anchor none = tracker.state channel := by
    rw [SyncState.anchor, known]
  have same : tracker.channels.insert channel (tracker.state channel) = tracker.channels :=
    Assoc.insert_of_find? (state?_of_newest known)
  unfold arrive setState
  dsimp only
  rw [anchored, SyncState.arrive_of_known known within, same]

/-- What a call does to the state of one channel. -/
inductive Effect (channel : Channel) (state : SyncState) : Call → SyncState → Prop where
  | unchanged {call : Call} (elsewhere : ∀ seq, call ≠ .arrive channel seq) :
      Effect channel state call state
  | anchored (tail : Option UInt64) :
      Effect channel state (.anchor channel tail) (state.anchor tail)
  | arrived (seq : UInt64) :
      Effect channel state (.arrive channel seq) ((state.anchor none).arrive seq)
  | issued : Effect channel state (.issue channel) { state.anchor none with synced := true }
  | advanced (last : UInt64) : Effect channel state (.advance channel last) (state.advance last)
  | finished : Effect channel state (.finish channel) { state with next := caughtUp }
  | rearmed : Effect channel state .rearm { state with synced := false }

/-- Every call has one of the effects on every channel. -/
theorem effect_apply (tracker : Tracker) (call : Call) (channel : Channel) :
    Effect channel (tracker.state channel) call ((call.apply tracker).state channel) := by
  cases call with
  | anchor other tail =>
      rw [Call.apply, state_anchor]
      split
      · next same => exact same ▸ .anchored tail
      · exact .unchanged nofun
  | arrive other seq =>
      rw [Call.apply, state_arrive]
      split
      · next same => exact same ▸ .arrived seq
      · next different =>
          apply Effect.unchanged
          rintro number ⟨⟩
          exact different rfl
  | issue other =>
      rw [Call.apply, state_issue]
      split
      · next same => exact same ▸ .issued
      · exact .unchanged nofun
  | advance other last =>
      rw [Call.apply, state_advance]
      split
      · next tracked => exact tracked.1 ▸ .advanced last
      · exact .unchanged nofun
  | finish other =>
      rw [Call.apply, state_finish]
      split
      · next same => exact same ▸ .finished
      · exact .unchanged nofun
  | rearm =>
      rw [Call.apply, state_rearm]
      exact .rearmed

/-! ## Newest numbers and cycles -/

namespace Effect

variable {channel : Channel} {call : Call} {before after : SyncState}

/-- The newest number is not forgotten and not lowered. -/
theorem newest_le (effect : Effect channel before call after) {newest : UInt64}
    (known : before.newest = some newest) :
    ∃ later, after.newest = some later ∧ newest ≤ later := by
  have kept : ∀ tail, before.anchor tail = before := by
    intro tail
    rw [SyncState.anchor, known]
  have unraised : ∃ later, before.newest = some later ∧ newest ≤ later :=
    ⟨newest, known, UInt64.le_refl newest⟩
  have raised : ∀ number, ∃ later,
      some (if newest < number then number else newest) = some later ∧ newest ≤ later := by
    intro number
    split
    · next below => exact ⟨number, rfl, UInt64.le_of_lt below⟩
    · exact ⟨newest, rfl, UInt64.le_refl newest⟩
  cases effect with
  | anchored tail => rwa [kept]
  | arrived seq =>
      rw [kept, SyncState.arrive, known]
      have result := raised seq
      rwa [apply_ite some] at result
  | issued => rwa [kept]
  | advanced last =>
      rw [SyncState.advance, known]
      exact raised last
  | _ => exact unraised

/-- Only a reconnection allows a channel another cycle. -/
theorem synced (effect : Effect channel before call after) (kept : call ≠ .rearm)
    (synced : before.synced = true) : after.synced = true := by
  cases effect with
  | anchored tail => rwa [SyncState.synced_anchor]
  | arrived seq =>
      change (before.anchor none).synced = true
      rwa [SyncState.synced_anchor]
  | issued => rfl
  | rearmed => exact (kept rfl).elim
  | _ => exact synced

end Effect

theorem synced_issue (tracker : Tracker) (channel : Channel) :
    ((tracker.issue channel).2.state channel).synced = true := by
  rw [state_issue, if_pos rfl]

/-- A cycle is issued exactly if none was since the last reconnection and something is wanted. -/
theorem issue_eq_some_iff {tracker : Tracker} {channel : Channel} {plan : SyncPlan} :
    (tracker.issue channel).1 = some plan ↔
      let state := tracker.state channel
      state.synced = false ∧ state.next ≠ unknownSeq ∧ state.next ≠ caughtUp ∧
        state.next ≤ state.newestOrZero ∧
        plan = ⟨channel, state.next, state.newestOrZero, tracker.pageSize⟩ := by
  unfold issue
  dsimp only
  rw [SyncState.synced_anchor]
  split
  · next synced => simp [synced]
  · next fresh =>
      rw [Option.map_eq_some_iff]
      simp only [Prod.exists, SyncState.wanted?_eq_some_iff, SyncState.next_anchor,
        SyncState.newestOrZero_anchor_none]
      constructor
      · rintro ⟨_, _, ⟨notUnknown, notCaughtUp, within, rfl, rfl⟩, rfl⟩
        exact ⟨eq_false_of_ne_true fresh, notUnknown, notCaughtUp, within, rfl⟩
      · rintro ⟨-, notUnknown, notCaughtUp, within, rfl⟩
        exact ⟨_, _, ⟨notUnknown, notCaughtUp, within, rfl, rfl⟩, rfl⟩

/-- The first number of a plan is none of the special values. -/
theorem low_ne_zero_of_issue {tracker : Tracker} {channel : Channel} {plan : SyncPlan}
    (issued : (tracker.issue channel).1 = some plan) : plan.low ≠ 0 := by
  obtain ⟨-, -, notCaughtUp, -, rfl⟩ := issue_eq_some_iff.mp issued
  exact notCaughtUp

/-- A plan is made by the issue of its own channel, which has had no cycle yet. -/
theorem issued_of_plan {tracker : Tracker} {call : Call} {plan : SyncPlan}
    (made : call.plan? tracker = some plan) :
    call = .issue plan.channel ∧ (tracker.state plan.channel).synced = false := by
  cases call with
  | issue channel =>
      unfold Call.plan? issue at made
      dsimp only at made
      split at made
      · cases made
      · next fresh =>
          obtain ⟨range, -, rfl⟩ := Option.map_eq_some_iff.mp made
          rw [Bool.not_eq_true] at fresh
          constructor
          · rfl
          · rwa [SyncState.synced_anchor] at fresh
  | _ => cases made

/-- The plans that calls return one after another. -/
def plans (tracker : Tracker) : List Call → List SyncPlan
  | [] => []
  | call :: calls => (call.plan? tracker).toList ++ plans (call.apply tracker) calls

/-- The plans for one channel. -/
def plansFor (tracker : Tracker) (calls : List Call) (channel : Channel) : List SyncPlan :=
  (tracker.plans calls).filter fun plan => plan.channel = channel

theorem plansFor_cons (tracker : Tracker) (call : Call) (calls : List Call) (channel : Channel) :
    tracker.plansFor (call :: calls) channel =
      ((call.plan? tracker).toList.filter fun plan => plan.channel = channel) ++
        (call.apply tracker).plansFor calls channel :=
  List.filter_append ..

/-- A channel that has had its cycle is issued none before the next reconnection. -/
theorem plansFor_of_synced {calls : List Call} {channel : Channel}
    (kept : .rearm ∉ calls) {tracker : Tracker} (synced : (tracker.state channel).synced = true) :
    tracker.plansFor calls channel = [] := by
  induction calls generalizing tracker with
  | nil => rfl
  | cons call calls ih =>
      rw [List.mem_cons, not_or] at kept
      have after := (tracker.effect_apply call channel).synced (Ne.symm kept.1) synced
      rw [plansFor_cons, ih kept.2 after, List.append_nil, List.filter_eq_nil_iff]
      intro plan made here
      obtain ⟨-, fresh⟩ := issued_of_plan (Option.mem_toList.mp made)
      rw [decide_eq_true_eq.mp here, synced] at fresh
      cases fresh

/-- A channel is issued at most one plan until the next reconnection. -/
theorem length_plansFor_le_one {calls : List Call} (kept : .rearm ∉ calls) (tracker : Tracker)
    (channel : Channel) : (tracker.plansFor calls channel).length ≤ 1 := by
  induction calls generalizing tracker with
  | nil => exact Nat.zero_le 1
  | cons call calls ih =>
      rw [List.mem_cons, not_or] at kept
      rw [plansFor_cons, List.length_append]
      by_cases issues : call = .issue channel
      · subst issues
        have spent := plansFor_of_synced kept.2 (tracker.synced_issue channel)
        have atMost : ((tracker.issue channel).1.toList.filter
            fun plan => plan.channel = channel).length ≤ 1 :=
          Nat.le_trans (List.length_filter_le ..) Option.length_toList_le
        simp only [Call.apply, Call.plan?, spent]
        exact atMost
      · have none : ((call.plan? tracker).toList.filter
            fun plan => plan.channel = channel) = [] := by
          rw [List.filter_eq_nil_iff]
          intro plan made here
          rw [← decide_eq_true_eq.mp here] at issues
          exact issues (issued_of_plan (Option.mem_toList.mp made)).1
        rw [none, List.length_nil, Nat.zero_add]
        exact ih kept.2 _

end Tracker

/-! ## Runs with debts -/

/-- A tracker with the debt of every channel. -/
structure Ledger where
  tracker : Tracker
  debt : Channel → UInt64 → Prop

namespace Ledger

open Tracker

/-- A tracker that knows no channel, and no debts. -/
def start (pageSize : UInt64) : Ledger where
  tracker := .start pageSize
  debt _ _ := False

/-- The debts after a call: an arrival adds the numbers that it skips, an advance settles those up
to its number, and a finish settles all of them. -/
def debtAfter (ledger : Ledger) : Call → Channel → UInt64 → Prop
  | .arrive other seq, channel, number =>
      ledger.debt channel number ∨ channel = other ∧
        (ledger.tracker.state channel).newestOrZero < number ∧ number < seq
  | .advance other last, channel, number =>
      ledger.debt channel number ∧ (channel = other → last < number)
  | .finish other, channel, number => ledger.debt channel number ∧ channel ≠ other
  | _, channel, number => ledger.debt channel number

/-- The ledger after a call. -/
def step (ledger : Ledger) (call : Call) : Ledger where
  tracker := call.apply ledger.tracker
  debt := ledger.debtAfter call

/-- The ledger after calls one after another. -/
def run (ledger : Ledger) (calls : List Call) : Ledger :=
  calls.foldl step ledger

/-- The tracker covers the debt of every channel. -/
def Covered (ledger : Ledger) : Prop :=
  ∀ channel, (ledger.tracker.state channel).Covers (ledger.debt channel)

theorem covered_start (pageSize : UInt64) : (start pageSize).Covered :=
  fun _ => SyncState.covers_default

/-- A call keeps every debt covered. -/
theorem Covered.step {ledger : Ledger} (covered : ledger.Covered) {call : Call}
    (bounded : call.Bounded) : (ledger.step call).Covered := by
  intro channel
  have before := covered channel
  have effect := ledger.tracker.effect_apply call channel
  change ((call.apply ledger.tracker).state channel).Covers (ledger.debtAfter call channel)
  generalize (call.apply ledger.tracker).state channel = after at effect ⊢
  cases effect with
  | unchanged elsewhere =>
      apply before.mono
      intro number owed
      cases call with
      | arrive other seq =>
          rcases owed with owed | ⟨rfl, -⟩
          · exact owed
          · exact (elsewhere seq rfl).elim
      | advance other last => exact owed.1
      | finish other => exact owed.1
      | _ => exact owed
  | anchored tail => exact before.anchor bounded
  | arrived seq =>
      have arrived := before.anchor_none.arrive (bounded seq rfl)
      rw [SyncState.newestOrZero_anchor_none] at arrived
      apply arrived.mono
      intro number owed
      exact owed.imp_right And.right
  | issued => exact before.anchor_none.setSynced true
  | advanced last =>
      apply (before.advance (bounded last rfl)).mono
      intro number owed
      exact ⟨owed.1, owed.2 rfl⟩
  | finished =>
      apply before.finish.mono
      intro number owed
      exact owed.2 rfl
  | rearmed => exact before.setSynced false

/-- Calls keep every debt covered. -/
theorem Covered.run {calls : List Call} (bounded : ∀ call ∈ calls, call.Bounded)
    {ledger : Ledger} (covered : ledger.Covered) : (ledger.run calls).Covered := by
  induction calls generalizing ledger with
  | nil => exact covered
  | cons call calls ih =>
      rw [List.forall_mem_cons] at bounded
      exact ih bounded.2 (covered.step bounded.1)

/-- Along a run the newest number of a channel never decreases. -/
theorem newest_le_run (ledger : Ledger) (calls : List Call) (channel : Channel) (newest : UInt64)
    (known : (ledger.tracker.state channel).newest = some newest) :
    ∃ later, ((ledger.run calls).tracker.state channel).newest = some later ∧
      newest ≤ later := by
  induction calls generalizing ledger newest with
  | nil => exact ⟨newest, known, UInt64.le_refl newest⟩
  | cons call calls ih =>
      have effect := ledger.tracker.effect_apply call channel
      obtain ⟨middle, middleKnown, low⟩ := effect.newest_le known
      obtain ⟨later, laterKnown, high⟩ := ih (ledger.step call) middle middleKnown
      exact ⟨later, laterKnown, UInt64.le_trans low high⟩

/-- A channel with a debt and without a cycle is issued a plan that contains the debt. -/
theorem Covered.issue {ledger : Ledger} (covered : ledger.Covered) {channel : Channel}
    (fresh : (ledger.tracker.state channel).synced = false) {owed : UInt64}
    (debt : ledger.debt channel owed) :
    ∃ plan, (ledger.tracker.issue channel).1 = some plan ∧ plan.channel = channel ∧
      ∀ number, ledger.debt channel number → plan.low ≤ number ∧ number ≤ plan.high := by
  have anchored := (covered channel).anchor_none
  have unissued : ((ledger.tracker.state channel).anchor none).synced = false := by
    rw [SyncState.synced_anchor, fresh]
  let state := (ledger.tracker.state channel).anchor none
  refine ⟨⟨channel, state.next, state.newestOrZero, ledger.tracker.pageSize⟩, ?_, rfl, ?_⟩
  · unfold Tracker.issue
    dsimp only
    rw [if_neg (by rw [unissued]; exact Bool.false_ne_true), anchored.wanted debt]
    rfl
  · intro number numberOwed
    exact (anchored.owed number numberOwed).2.2

/-- The tracker never forgets a gap.  After every run, any debt of a channel lies between the
number needed and the newest one, which later calls never lower.  A channel that has had no
cycle is issued a plan that contains its whole debt, and no channel is issued a second plan
before the next reconnection. -/
theorem debt_never_forgotten (pageSize : UInt64) (calls : List Call)
    (bounded : ∀ call ∈ calls, call.Bounded) (channel : Channel) :
    let ledger := (start pageSize).run calls
    let state := ledger.tracker.state channel
    (∀ number, ledger.debt channel number →
      state.next ≠ unknownSeq ∧ state.next ≠ caughtUp ∧ state.next ≤ number ∧
        ∃ newest, state.newest = some newest ∧ number ≤ newest) ∧
    (state.next = unknownSeq ∨ state.next = caughtUp ∨
      ∃ newest, state.newest = some newest ∧
        1 ≤ state.next.toNat ∧ state.next.toNat ≤ newest.toNat + 1) ∧
    (∀ later newest, state.newest = some newest →
      ∃ raised, ((ledger.run later).tracker.state channel).newest = some raised ∧
        newest ≤ raised) ∧
    (state.synced = false → ∀ owed, ledger.debt channel owed →
      ∃ plan, (ledger.tracker.issue channel).1 = some plan ∧ plan.channel = channel ∧
        ∀ number, ledger.debt channel number → plan.low ≤ number ∧ number ≤ plan.high) ∧
    (∀ later, .rearm ∉ later → (ledger.tracker.plansFor later channel).length ≤ 1) := by
  intro ledger state
  have covered : ledger.Covered := (covered_start pageSize).run bounded
  have covers : state.Covers (ledger.debt channel) := covered channel
  refine ⟨?_, ?_, fun later => newest_le_run ledger later channel,
    fun fresh _ owed => covered.issue fresh owed,
    fun later kept => length_plansFor_le_one kept ledger.tracker channel⟩
  · intro number owed
    obtain ⟨notUnknown, notCaughtUp, low, high⟩ := covers.owed number owed
    refine ⟨notUnknown, notCaughtUp, low, ?_⟩
    cases known : state.newest with
    | none => exact (covers.unanchored known).elim (absurd · notUnknown) (absurd · notCaughtUp)
    | some newest => exact ⟨newest, rfl, SyncState.newestOrZero_of_known known ▸ high⟩
  · cases known : state.newest with
    | none => exact (covers.unanchored known).imp_right .inl
    | some newest =>
        rcases covers.next_range with unseen | done | range
        · exact .inl unseen
        · exact .inr (.inl done)
        · exact .inr (.inr ⟨newest, rfl, SyncState.newestOrZero_of_known known ▸ range⟩)

/-- Calls that open a gap behind a channel that was finished before. -/
def reopeningCalls : List Call :=
  [.arrive (.between 1 2) 1, .finish (.between 1 2), .arrive (.between 1 2) 5,
    .advance (.between 1 2) 2]

/-- The gap is owed again, and issued as a plan. -/
theorem debt_of_reopened_gap :
    ((start 100).run reopeningCalls).debt (.between 1 2) 4 ∧
      ∃ plan, (((start 100).run reopeningCalls).tracker.issue (.between 1 2)).1 = some plan ∧
        plan.low ≤ 4 ∧ 4 ≤ plan.high := by
  have owed : ((start 100).run reopeningCalls).debt (.between 1 2) 4 := by
    constructor
    · exact .inr ⟨rfl, by decide, by decide⟩
    · intro _
      decide
  have kept := debt_never_forgotten 100 reopeningCalls (by decide) (.between 1 2)
  obtain ⟨plan, issued, -, contains⟩ := kept.2.2.2.1 (by decide) 4 owed
  exact ⟨owed, plan, issued, contains 4 owed⟩

end Ledger

end Messenger
