import Messenger.Proofs.Session.Acknowledgement

/-!
# Confirmed entries outlive the session

An entry is confirmed by a merge or an acknowledgement that is saved at once, or comes
from the store itself.  The store never lets go of a message, so that a number that was
confirmed once is stored from then on.
-/

namespace Messenger.Session

variable {η : Type} [HistorySource η] {submits : Message → Prop}

/-- Whatever requests follow, and even if they fail, what is stored stays stored. -/
theorem Later.within {before after : Session MemoryStore η}
    (later : Later submits before after) : before.store.Within after.store :=
  later.preserves (P := fun session => before.store.Within session.store)
    (fun _ _ change within channel =>
      List.Subset.trans (within channel) (change.conserves.store channel))
    (.refl _)

/-- If the owner only submits messages without a number, a message with the number of a confirmed
entry is stored under its channel, and it stays there whatever requests follow. -/
theorem confirmed_entry_stored {session : Session MemoryStore η}
    (reachable : Reachable submits session)
    (unnumbered : ∀ message, submits message → message.seq? = none) {channel : Channel}
    {entry : Message} {seq : UInt64} (listed : entry ∈ (session.timeline channel).entries)
    (confirmed : entry.seq? = some seq) :
    ∃ stored ∈ session.store.shelf channel, stored.header.seq = seq ∧
      ∀ later, Later (fun _ => True) session later → stored ∈ later.store.shelf channel := by
  have member : seq ∈ (session.timeline channel).seqs :=
    List.mem_filterMap.mpr ⟨entry, listed, confirmed⟩
  obtain ⟨stored, onShelf, number⟩ := (reachable.backed unnumbered).held channel seq member
  exact ⟨stored, onShelf, number, fun _ later => later.within channel onShelf⟩

/-- A session of account 1 whose sent text was acknowledged under the number 3, after a frame
that could not be read. -/
def acknowledged : Session MemoryStore Silence :=
  let sent := (leaves flush (connected, aboutToSend 900)).2
  leaves (receive textAck.spelling) (leaves (receive [0]) sent)

theorem reachable_acknowledged : Reachable (· = .bareText 1 2 0 1000) acknowledged := by
  unfold acknowledged
  exact .receive (.receive (.flush (reachable_aboutToSend 900) connected) _) _

/-- The acknowledged text is stored, and stays stored after the session is disconnected. -/
theorem acknowledged_text_stored :
    ∃ stored ∈ acknowledged.store.shelf ⟨1, 2⟩, stored.header.seq = 3 ∧
      stored ∈ (leaves disconnect acknowledged).store.shelf ⟨1, 2⟩ := by
  have unnumbered : ∀ message, message = Message.bareText 1 2 0 1000 → message.seq? = none := by
    rintro _ rfl
    rfl
  have entries : (acknowledged.timeline ⟨1, 2⟩).entries =
      [.bareText 2 1 1 900, Timeline.confirmedCopy (.bareText 1 2 0 1000) 3 1005] :=
    List.mergeSort_of_pairwise (by decide : List.Pairwise _ [Message.bareText 2 1 1 900,
      Timeline.confirmedCopy (.bareText 1 2 0 1000) 3 1005])
  have listed : Timeline.confirmedCopy (.bareText 1 2 0 1000) 3 1005 ∈
      (acknowledged.timeline ⟨1, 2⟩).entries :=
    entries ▸ List.mem_cons_of_mem _ List.mem_cons_self
  obtain ⟨stored, onShelf, number, kept⟩ :=
    confirmed_entry_stored reachable_acknowledged unnumbered listed rfl
  exact ⟨stored, onShelf, number, kept _ (.single (.disconnect acknowledged))⟩

end Messenger.Session
