import Messenger.Proofs.History.Ledger
import Messenger.Proofs.Session.Backing
import Messenger.Proofs.Timeline.Settled

/-!
# Taking in pages

A page of numbered messages goes into a timeline without pending entries: afterwards
the timeline has the numbers of the page beside its own, still ascending if they were.
The page that completes a cycle ends the need of its channel.
-/

namespace Messenger.Session

variable {σ η : Type} {channel : Channel} {before middle after : Session σ η}

/-- A session has taken numbered messages into a channel without pending entries. -/
structure TakesIn (channel : Channel) (taken : Message → Prop) (before after : Session σ η) :
    Prop where
  me_eq : after.me = before.me
  config_eq : after.config = before.config
  settled : (after.timeline channel).pending = []
  seqs : ∀ seq, seq ∈ (after.timeline channel).seqs ↔
    seq ∈ (before.timeline channel).seqs ∨ ∃ message, taken message ∧ message.header.seq = seq
  entries : ∀ entry ∈ (after.timeline channel).entries,
    entry ∈ (before.timeline channel).entries ∨ taken entry
  ascending : (before.timeline channel).Ascending → (after.timeline channel).Ascending

namespace TakesIn

variable {taken others : Message → Prop}

/-- Taking in nothing. -/
theorem of_same (me : after.me = before.me) (config : after.config = before.config)
    (timeline : after.timeline channel = before.timeline channel)
    (settled : (before.timeline channel).pending = []) :
    TakesIn channel (fun _ => False) before after where
  me_eq := me
  config_eq := config
  settled := timeline ▸ settled
  seqs seq := by simp [timeline]
  entries entry member := .inl (timeline ▸ member)
  ascending ordered := timeline ▸ ordered

theorem trans (first : TakesIn channel taken before middle)
    (second : TakesIn channel others middle after) :
    TakesIn channel (fun message => taken message ∨ others message) before after where
  me_eq := second.me_eq.trans first.me_eq
  config_eq := second.config_eq.trans first.config_eq
  settled := second.settled
  seqs seq := by
    rw [second.seqs, first.seqs, or_assoc]
    simp only [or_and_right, exists_or]
  entries entry member := by
    rcases second.entries entry member with known | other
    · exact (first.entries entry known).imp_right .inl
    · exact .inr (.inr other)
  ascending ordered := second.ascending (first.ascending ordered)

/-- What was taken in since one session was taken in since any session with the same timeline. -/
theorem of_before {earlier : Session σ η} (run : TakesIn channel taken before after)
    (me : before.me = earlier.me) (config : before.config = earlier.config)
    (timeline : before.timeline channel = earlier.timeline channel) :
    TakesIn channel taken earlier after where
  me_eq := run.me_eq.trans me
  config_eq := run.config_eq.trans config
  settled := run.settled
  seqs := timeline ▸ run.seqs
  entries := timeline ▸ run.entries
  ascending := timeline ▸ run.ascending

theorem congr (run : TakesIn channel taken before after)
    (same : ∀ message, taken message ↔ others message) : TakesIn channel others before after :=
  (funext fun message => propext (same message) : taken = others) ▸ run

end TakesIn

section Merging

variable [MessageStore σ]

theorem takesIn_of_merge {message : Message} {seq : UInt64} {inserted : Timeline.Inserted}
    (settled : (before.timeline channel).pending = []) (numbered : message.seq? = some seq)
    (done : merge channel message before = .ok inserted after) :
    TakesIn channel (· = message) before after ∧ after.history = before.history ∧
      after.events = before.events := by
  obtain ⟨-, store, rfl⟩ := of_merge_eq_ok numbered done
  obtain ⟨rfl, -⟩ := Message.seq?_eq_some_iff.mp numbered
  have placed : Session.timeline { before.setTimeline channel
        ((before.timeline channel).insert message).2 with
          store, tracker := (before.tracker.arrive channel message.header.seq).2 } channel =
      ((before.timeline channel).insert message).2 :=
    timeline_setTimeline_self before channel _
  refine ⟨⟨rfl, rfl, ?_, ?_, ?_, ?_⟩, rfl, rfl⟩
  · rw [placed]
    exact Timeline.pending_insert settled numbered
  · intro seq
    rw [placed, Timeline.mem_seqs_insert_of_settled settled numbered]
    simp [eq_comm]
  · intro entry member
    rw [placed] at member
    exact (Timeline.mem_entries_insert.mp member).imp_right And.left
  · intro ordered
    rw [placed]
    exact Timeline.ascending_insert_of_settled settled ordered

theorem mergeAll_cons {message : Message} (belongs : message.channel before.me = channel)
    (merged : Nat) (last : Option UInt64) (rest : List Message) :
    mergeAll channel merged last (message :: rest) before =
      (do
        let inserted ← merge channel message
        mergeAll channel (if inserted.isNew then merged + 1 else merged)
          (higher last message.seq?) rest : SessionM σ η (Nat × Option UInt64)) before := by
  have kept : ¬message.channel before.me ≠ channel := not_not_intro belongs
  rw [mergeAll]
  change (if message.channel before.me ≠ channel then _ else _ : SessionM σ η _) before = _
  rw [if_neg kept]

/-- A message of another channel is passed over. -/
theorem mergeAll_cons_of_foreign {message : Message}
    (foreign : message.channel before.me ≠ channel) (merged : Nat) (last : Option UInt64)
    (rest : List Message) :
    mergeAll channel merged last (message :: rest) before =
      mergeAll channel merged last rest before := by
  rw [mergeAll]
  change (if message.channel before.me ≠ channel then _ else _ : SessionM σ η _) before = _
  rw [if_pos foreign]

/-- Merging numbered messages of the channel takes them in. -/
theorem takesIn_of_mergeAll {messages : List Message} {merged : Nat} {last : Option UInt64}
    {result : Nat × Option UInt64} (settled : (before.timeline channel).pending = [])
    (numbered : ∀ message ∈ messages, message.header.seq ≠ 0)
    (belongs : ∀ message ∈ messages, message.channel before.me = channel)
    (done : mergeAll channel merged last messages before = .ok result after) :
    TakesIn channel (· ∈ messages) before after ∧ after.history = before.history ∧
      after.events = before.events := by
  induction messages generalizing before merged last with
  | nil =>
      cases done
      exact ⟨(TakesIn.of_same rfl rfl rfl settled).congr (by simp), rfl, rfl⟩
  | cons message rest ih =>
      rw [mergeAll_cons (belongs message List.mem_cons_self)] at done
      obtain ⟨inserted, middle, first, others⟩ := of_bind_eq_ok done
      have seq := Message.seq?_eq_some_iff.mpr ⟨rfl, numbered message List.mem_cons_self⟩
      obtain ⟨taken, history, events⟩ := takesIn_of_merge settled seq first
      obtain ⟨takenRest, historyRest, eventsRest⟩ := ih taken.settled
        (fun other behind => numbered other (List.mem_cons_of_mem message behind))
        (fun other behind => taken.me_eq ▸ belongs other (List.mem_cons_of_mem message behind))
        others
      exact ⟨(taken.trans takenRest).congr fun _ => List.mem_cons.symm,
        historyRest.trans history, eventsRest.trans events⟩

/-- What is noted once the messages of a page are merged. -/
def closePage (channel : Channel) (complete : Bool) (last : Option UInt64)
    (session : Session σ η) : Session σ η :=
  let tracker := match last with
    | none => session.tracker
    | some last => session.tracker.advance channel last
  if complete then
    { session with
      tracker := tracker.finish channel
      events := session.events ++ [.syncCompleted channel] }
  else { session with tracker }

theorem takePage_of_merged {page : Page} {count : Nat} {last : Option UInt64}
    (merged : mergeAll channel 0 none page.messages before = .ok (count, last) middle) :
    takePage channel page before = .ok count (closePage channel page.complete last middle) := by
  have done : takePage channel page before = _ := bind_of_ok merged _
  rw [done]
  unfold closePage
  cases last <;> cases page.complete <;> rfl

/-- A page of numbered messages of the channel is taken in, and ends the need of the channel if
it is complete. -/
theorem takesIn_of_takePage {page : Page} {count : Nat}
    (settled : (before.timeline channel).pending = [])
    (numbered : ∀ message ∈ page.messages, message.header.seq ≠ 0)
    (belongs : ∀ message ∈ page.messages, message.channel before.me = channel)
    (done : takePage channel page before = .ok count after) :
    TakesIn channel (· ∈ page.messages) before after ∧ after.history = before.history ∧
      after.events = before.events ++ (if page.complete then [.syncCompleted channel] else []) ∧
      (page.complete = true → (after.tracker.state channel).next = caughtUp) := by
  obtain ⟨⟨merged, last⟩, middle, mergedAll, -⟩ := of_bind_eq_ok done
  obtain ⟨taken, history, events⟩ := takesIn_of_mergeAll settled numbered belongs mergedAll
  cases (takePage_of_merged mergedAll).symm.trans done
  have closed : TakesIn channel (fun _ => False) middle
      (closePage channel page.complete last middle) := by
    unfold closePage
    cases page.complete <;> exact .of_same rfl rfl rfl taken.settled
  refine ⟨(taken.trans closed).congr (by simp), ?_, ?_, ?_⟩
  · rw [← history]
    unfold closePage
    cases page.complete <;> rfl
  · rw [← events]
    unfold closePage
    cases page.complete
    · exact (List.append_nil _).symm
    · rfl
  · intro complete
    unfold closePage
    rw [complete, if_pos rfl, Tracker.state_finish, if_pos rfl]

end Merging

/-! ## Over a store in memory -/

section Memory

theorem exists_merge {message : Message} {seq : UInt64} (session : Session MemoryStore η)
    (numbered : message.seq? = some seq) :
    ∃ inserted after, merge channel message session = .ok inserted after := by
  cases new : ((session.timeline channel).insert message).1.isNew with
  | false => exact ⟨_, _, merge_of_duplicate numbered new⟩
  | true =>
      obtain ⟨outcome, store, saved, -⟩ := session.store.save_of_numbered channel numbered
      exact ⟨_, _, merge_of_saved numbered new saved⟩

theorem exists_mergeAll {messages : List Message} (session : Session MemoryStore η)
    (numbered : ∀ message ∈ messages, message.header.seq ≠ 0)
    (belongs : ∀ message ∈ messages, message.channel session.me = channel) (merged : Nat)
    (last : Option UInt64) :
    ∃ result after, mergeAll channel merged last messages session = .ok result after := by
  induction messages generalizing session merged last with
  | nil => exact ⟨_, _, rfl⟩
  | cons message rest ih =>
      have seq := Message.seq?_eq_some_iff.mpr ⟨rfl, numbered message List.mem_cons_self⟩
      obtain ⟨inserted, middle, first⟩ := exists_merge session seq
      have same : middle.me = session.me := by
        obtain ⟨-, store, rfl⟩ := of_merge_eq_ok seq first
        rfl
      rw [mergeAll_cons (belongs message List.mem_cons_self), bind_of_ok first]
      exact ih middle (fun other behind => numbered other (List.mem_cons_of_mem message behind))
        (fun other behind => same ▸ belongs other (List.mem_cons_of_mem message behind)) _ _

theorem exists_takePage {page : Page} (session : Session MemoryStore η)
    (numbered : ∀ message ∈ page.messages, message.header.seq ≠ 0)
    (belongs : ∀ message ∈ page.messages, message.channel session.me = channel) :
    ∃ count after, takePage channel page session = .ok count after := by
  obtain ⟨result, middle, merged⟩ := exists_mergeAll session numbered belongs 0 none
  exact ⟨_, _, takePage_of_merged merged⟩

end Memory

/-! ## What fails -/

section Failures

variable {causes : SessionError → Prop}

theorem failsOnly_emit (event : Event) : FailsOnly causes (emit event : SessionM σ η Unit) :=
  .modify _

theorem failsOnly_track (change : Tracker → Tracker) :
    FailsOnly causes (track change : SessionM σ η Unit) :=
  .modify _

theorem failsOnly_finishSync (channel : Channel) :
    FailsOnly causes (finishSync channel : SessionM σ η Unit) :=
  .bind (failsOnly_track _) fun _ => failsOnly_emit _

variable [MessageStore σ]

theorem failsOnly_save (channel : Channel) (message : Message)
    (stores : ∀ fault, causes (.store fault)) :
    FailsOnly causes (save channel message : SessionM σ η SaveOutcome) := by
  intro session cause left failed
  unfold save at failed
  split at failed
  · cases failed
  · cases failed
    exact stores _

theorem failsOnly_merge (channel : Channel) (message : Message)
    (stores : ∀ fault, causes (.store fault)) :
    FailsOnly causes (merge channel message : SessionM σ η Timeline.Inserted) := by
  refine .get fun session => ?_
  cases (session.timeline channel).insert message with
  | mk inserted timeline =>
      refine .set ?_
      cases message.seq? with
      | none => exact .pure _
      | some seq =>
          dsimp only
          split
          · exact .bind (failsOnly_save _ _ stores) fun _ => .bind (failsOnly_track _) fun _ =>
              .pure _
          · exact .bind (failsOnly_track _) fun _ => .pure _

theorem failsOnly_mergeAll (channel : Channel) (merged : Nat) (last : Option UInt64)
    (messages : List Message) (stores : ∀ fault, causes (.store fault)) :
    FailsOnly causes
      (mergeAll channel merged last messages : SessionM σ η (Nat × Option UInt64)) := by
  induction messages generalizing merged last with
  | nil => exact .pure _
  | cons message rest ih =>
      refine .get fun session => ?_
      split
      · exact ih _ _
      · exact .bind (failsOnly_merge _ _ stores) fun _ => ih _ _

theorem failsOnly_takePage (channel : Channel) (page : Page)
    (stores : ∀ fault, causes (.store fault)) :
    FailsOnly causes (takePage channel page : SessionM σ η Nat) := by
  refine .bind (failsOnly_mergeAll _ _ _ _ stores) fun (count, last) => ?_
  have ending : FailsOnly causes
      (do
        if page.complete then finishSync channel
        return count : SessionM σ η Nat) := by
    split
    · exact .bind (failsOnly_finishSync _) fun _ => .pure _
    · exact .pure _
  cases last with
  | none => exact ending
  | some last => exact .bind (failsOnly_track _) fun _ => ending

/-- Only the store keeps a page from being taken in. -/
theorem exists_fault_of_takePage {page : Page} {cause : SessionError}
    (failed : takePage channel page before = .error cause after) :
    ∃ fault, cause = .store fault := by
  have stores : FailsOnly (fun cause : SessionError => ∃ fault, cause = .store fault)
      (takePage channel page : SessionM σ η Nat) :=
    failsOnly_takePage channel page fun fault => ⟨fault, rfl⟩
  exact stores _ _ _ failed

end Failures

end Messenger.Session
