import Messenger.Proofs.Store.Agreement

/-!
# Ranges of what was saved

After any run of saves a store in memory answers a request for a run of numbers with the
first message that was saved under each of them.  So does a database, unless the lower
bound reads as negative: then it answers with every message of the channel up to the
upper bound.
-/

namespace Messenger

namespace MessageStore

/-- The store after messages were saved under their channels, one after the other. -/
def saveAll {σ : Type} [MessageStore σ] (store : σ) :
    List (Channel × Message) → Except StoreError σ
  | [] => .ok store
  | (channel, message) :: rest => do
      let (_, after) ← save store channel message
      saveAll after rest

/-- The first message that is saved under a channel with a number. -/
def firstSaved? (saves : List (Channel × Message)) (channel : Channel) (seq : UInt64) :
    Option Message :=
  (saves.find? fun save => save.1 = channel && save.2.header.seq = seq).map Prod.snd

/-- Messages are the first ones that were saved under a channel with the numbers from `low` to
`high`, in ascending order, and no others. -/
structure RangeOf (saves : List (Channel × Message)) (channel : Channel) (low high : UInt64)
    (messages : List Message) : Prop where
  ascending : Message.Ascending messages
  mem_iff : ∀ message, message ∈ messages ↔
    firstSaved? saves channel message.header.seq = some message ∧
      low ≤ message.header.seq ∧ message.header.seq ≤ high

variable {saves : List (Channel × Message)} {channel : Channel} {seq : UInt64}

/-- There is one right answer. -/
theorem RangeOf.unique {low high : UInt64} {messages others : List Message}
    (answer : RangeOf saves channel low high messages)
    (other : RangeOf saves channel low high others) : messages = others :=
  answer.ascending.eq_of_mem_iff other.ascending fun message =>
    (answer.mem_iff message).trans (other.mem_iff message).symm

/-- A later save counts only if its number was free. -/
theorem firstSaved?_append (saves : List (Channel × Message)) (place : Channel)
    (message : Message) (channel : Channel) (seq : UInt64) :
    firstSaved? (saves ++ [(place, message)]) channel seq =
      (firstSaved? saves channel seq).or
        (if place = channel ∧ message.header.seq = seq then some message else none) := by
  unfold firstSaved?
  rw [List.find?_append, Option.map_or, List.find?_singleton]
  simp only [Bool.and_eq_true, decide_eq_true_eq]
  split <;> rfl

/-- The first message was saved, under the channel and with the number. -/
theorem of_firstSaved? {message : Message}
    (first : firstSaved? saves channel seq = some message) :
    (channel, message) ∈ saves ∧ message.header.seq = seq := by
  obtain ⟨save, found, rfl⟩ := Option.map_eq_some_iff.mp first
  have listed := List.mem_of_find?_eq_some found
  have accepted := List.find?_some found
  simp only [Bool.and_eq_true, decide_eq_true_eq] at accepted
  obtain ⟨rfl, same⟩ := accepted
  exact ⟨listed, same⟩

/-- Some message is the first under every number that was saved under a channel. -/
theorem exists_firstSaved? {message : Message} (saved : (channel, message) ∈ saves) :
    ∃ first, firstSaved? saves channel message.header.seq = some first := by
  unfold firstSaved?
  rw [← Option.isSome_iff_exists, Option.isSome_map, List.find?_isSome]
  exact ⟨_, saved, by simp⟩

end MessageStore

namespace MemoryStore

open MessageStore

/-- Every shelf holds, in ascending order, the first messages that were saved under its channel. -/
structure Records (store : MemoryStore) (saves : List (Channel × Message)) : Prop where
  ascending : ∀ channel, Message.Ascending (store.shelf channel)
  mem_iff : ∀ channel message, message ∈ store.shelf channel ↔
    firstSaved? saves channel message.header.seq = some message

variable {store after : MemoryStore} {saves : List (Channel × Message)} {channel : Channel}
  {message : Message}

/-- The number of a message is free exactly if no message with it was saved. -/
theorem Records.place_eq_none_iff (records : store.Records saves) :
    place message (store.shelf channel) = none ↔
      (firstSaved? saves channel message.header.seq).isSome := by
  rw [MemoryStore.place_eq_none_iff (records.ascending channel), Option.isSome_iff_exists]
  constructor
  · rintro ⟨taken, onShelf, same⟩
    exact ⟨taken, same ▸ (records.mem_iff channel taken).mp onShelf⟩
  · rintro ⟨taken, first⟩
    have same := (of_firstSaved? first).2
    exact ⟨taken, (records.mem_iff channel taken).mpr (same.symm ▸ first), same⟩

theorem Records.of_empty : empty.Records [] :=
  ⟨fun _ => List.Pairwise.nil, fun _ _ => iff_of_false nofun nofun⟩

/-- One more save is recorded. -/
theorem Records.save {outcome : SaveOutcome} (records : store.Records saves)
    (saved : store.save channel message = .ok (outcome, after)) :
    after.Records (saves ++ [(channel, message)]) := by
  have free_iff : place message (store.shelf channel) = none ↔
      (firstSaved? saves channel message.header.seq).isSome := records.place_eq_none_iff
  rcases of_save_eq_ok saved with ⟨refused, rfl⟩ | ⟨placed, placing, rfl⟩
  · refine ⟨records.ascending, fun other entry => ?_⟩
    rw [records.mem_iff, firstSaved?_append]
    obtain ⟨taken, first⟩ := Option.isSome_iff_exists.mp (free_iff.mp refused)
    split
    · next here =>
        obtain ⟨rfl, same⟩ := here
        rw [← same, first]
        rfl
    · rw [Option.or_none]
  · have free : firstSaved? saves channel message.header.seq = none := by
      rw [placing] at free_iff
      simpa using free_iff
    constructor
    · intro other
      rw [shelf_insert]
      split
      · exact ascending_of_place placing (records.ascending channel)
      · exact records.ascending other
    · intro other entry
      rw [shelf_insert, firstSaved?_append]
      by_cases here : other = channel
      · subst here
        rw [if_pos rfl, mem_of_place placing, records.mem_iff]
        by_cases same : message.header.seq = entry.header.seq
        · rw [← same, free]
          simp [eq_comm]
        · rw [if_neg (by simp [same]), Option.or_none]
          exact or_iff_right fun equal => same (congrArg (fun m => m.header.seq) equal.symm)
      · rw [if_neg here, if_neg (fun both => here both.1.symm), Option.or_none, records.mem_iff]

theorem Records.range (records : store.Records saves) (channel : Channel) (low high : UInt64) :
    RangeOf saves channel low high (store.range channel low high) where
  ascending := (records.ascending channel).filter _
  mem_iff message := by
    unfold MemoryStore.range
    rw [List.mem_filter, records.mem_iff]
    simp

end MemoryStore

namespace Mirrors

open MessageStore

variable {database : Database} {store : MemoryStore} {channel : Channel} {message : Message}

/-- Both stores save a message with a number whose frame can be written. -/
theorem exists_save (mirrors : Mirrors database store) (channel : Channel)
    (numbered : message.seq?.isSome) (written : ∃ frame, message.encode = .ok frame) :
    ∃ outcome after tables, store.save channel message = .ok (outcome, after) ∧
      database.save channel message = .ok (outcome, tables) ∧ Mirrors tables after := by
  obtain ⟨seq, hasSeq⟩ := Option.isSome_iff_exists.mp numbered
  obtain ⟨outcome, after, saved, -, -⟩ := store.save_of_numbered channel hasSeq
  have alike := mirrors.alike_save channel fun _ => written
  dsimp only [MessageStore.ask, MessageStore.save] at alike
  rw [saved] at alike
  cases inTables : database.save channel message with
  | error cause =>
      rw [inTables] at alike
      cases alike
  | ok result =>
      obtain ⟨known, tables⟩ := result
      rw [inTables] at alike
      cases alike with
      | answered _ still => exact ⟨outcome, after, tables, saved, rfl, still⟩

/-- After the same saves, the stores still mirror each other. -/
theorem exists_saveAll {saves : List (Channel × Message)} (mirrors : Mirrors database store)
    {earlier : List (Channel × Message)} (records : store.Records earlier)
    (writable : ∀ save ∈ saves, save.2.seq?.isSome ∧ ∃ frame, save.2.encode = .ok frame) :
    ∃ after tables, saveAll store saves = .ok after ∧ saveAll database saves = .ok tables ∧
      Mirrors tables after ∧ after.Records (earlier ++ saves) := by
  induction saves generalizing database store earlier with
  | nil => exact ⟨store, database, rfl, rfl, mirrors, by rwa [List.append_nil]⟩
  | cons save rest ih =>
      obtain ⟨channel, message⟩ := save
      obtain ⟨⟨numbered, written⟩, others⟩ := List.forall_mem_cons.mp writable
      obtain ⟨outcome, after, tables, saved, stored, still⟩ :=
        mirrors.exists_save channel numbered written
      obtain ⟨last, lastTables, savedRest, storedRest, mirrored, recorded⟩ :=
        ih still (records.save saved) others
      refine ⟨last, lastTables, ?_, ?_, mirrored, by rwa [List.append_assoc] at recorded⟩
      · change (store.save channel message >>= fun result => saveAll result.2 rest) = _
        rw [saved]
        exact savedRest
      · change (database.save channel message >>= fun result => saveAll result.2 rest) = _
        rw [stored]
        exact storedRest

/-- The upper bound is only cut where no number is. -/
theorem le_signedBound_iff (wellFormed : message.WellFormed) (bound : UInt64) :
    (message.header.seq.toNat : Int) ≤ Database.signedBound bound ↔ message.header.seq ≤ bound := by
  have number := wellFormed.seq_lt
  have largest : Word.signedMax.toNat = 9223372036854775807 := rfl
  rw [UInt64.le_iff_toNat_le]
  unfold Database.signedBound
  split
  · next small => rw [Word.signed_of_le small, Int.ofNat_le]
  · next large =>
      rw [Word.signed_of_le (UInt64.le_refl _)]
      rw [UInt64.le_iff_toNat_le] at large
      omega

/-- A lower bound above the signed numbers reads as negative, and no number is below it. -/
theorem signed_le_iff (message : Message) (bound : UInt64) :
    Word.signed bound ≤ (message.header.seq.toNat : Int) ↔
      (if Word.signedMax < bound then 0 else bound) ≤ message.header.seq := by
  have limit := bound.toNat_lt
  by_cases small : bound ≤ Word.signedMax
  · rw [Word.signed_of_le small, if_neg (UInt64.not_lt.mpr small), Int.ofNat_le,
      UInt64.le_iff_toNat_le]
  · have negative : Word.signed bound = (bound.toNat : Int) - UInt64.size := if_neg small
    rw [negative, if_pos (UInt64.not_le.mp small)]
    refine iff_of_true ?_ UInt64.zero_le
    simp only [UInt64.size]
    omega

/-- A database answers as the store in memory does, but for a lower bound that reads as negative
it has none. -/
theorem range_eq (mirrors : Mirrors database store) (channel : Channel) (low high : UInt64) :
    database.range channel low high =
      .ok (store.range channel (if low ≤ high ∧ Word.signedMax < low then 0 else low) high) := by
  unfold Database.range
  split
  · next empty =>
      rw [if_neg (fun both => UInt64.not_le.mpr empty both.1)]
      refine congrArg Except.ok (List.filter_eq_nil_iff.mpr fun message _ within => ?_).symm
      simp only [Bool.and_eq_true, decide_eq_true_eq] at within
      exact UInt64.not_le.mpr empty (UInt64.le_trans within.1 within.2)
  · next ordered =>
      obtain ⟨rows, table, shelved⟩ := mirrors.shelved
      simp only [UInt64.not_lt.mp ordered, true_and]
      rw [table]
      dsimp only [Database.need, bind, Except.bind]
      let within (message : Message) : Bool :=
        decide ((if Word.signedMax < low then 0 else low) ≤ message.header.seq) &&
          decide (message.header.seq ≤ high)
      have selected : Database.selectRows rows channel
          (fun seq => decide (Word.signed low ≤ seq) && decide (seq ≤ Database.signedBound high)) =
          ((store.shelf channel).filter within).map (MessageRow.of channel) := by
        refine Database.selectRows_eq (shelved channel) (mirrors.ascending channel) ?_
        intro message onShelf
        have wellFormed := mirrors.wellFormed channel message onShelf
        rw [decide_eq_decide.mpr (signed_le_iff message low),
          decide_eq_decide.mpr (le_signedBound_iff wellFormed high)]
      rw [selected]
      exact Database.decodeFrames_of_wellFormed fun message member =>
        mirrors.wellFormed channel message (List.mem_of_mem_filter member)

end Mirrors

namespace MessageStore

variable {saves : List (Channel × Message)}

/-- Beyond the signed numbers there is nothing to answer with, so the whole channel is the right
answer only if nothing was saved under it. -/
theorem rangeOf_zero_iff {messages : List Message} {channel : Channel} {low high : UInt64}
    (writable : ∀ save ∈ saves, save.2.seq?.isSome ∧ ∃ frame, save.2.encode = .ok frame)
    (beyond : Word.signedMax < low) (ordered : low ≤ high)
    (answer : RangeOf saves channel 0 high messages) :
    RangeOf saves channel low high messages ↔ ∀ save ∈ saves, save.1 ≠ channel := by
  have largest : Word.signedMax.toNat = 9223372036854775807 := rfl
  have small : ∀ message, (channel, message) ∈ saves → message.header.seq < low := by
    intro message saved
    obtain ⟨-, frame, written⟩ := writable _ saved
    have number := (Message.encode_eq_ok_iff.mp written).1.seq_lt
    rw [UInt64.lt_iff_toNat_lt] at beyond ⊢
    dsimp only at number
    omega
  constructor
  · rintro exact ⟨place, message⟩ saved rfl
    obtain ⟨first, isFirst⟩ := exists_firstSaved? saved
    obtain ⟨firstSaved, same⟩ := of_firstSaved? isFirst
    have below := small first firstSaved
    have listed := (answer.mem_iff first).mpr ⟨same.symm ▸ isFirst, UInt64.zero_le,
      UInt64.le_of_lt (UInt64.lt_of_lt_of_le below ordered)⟩
    exact UInt64.not_le.mpr below ((exact.mem_iff first).mp listed).2.1
  · intro none
    refine ⟨answer.ascending, fun message => ?_⟩
    have unsaved : firstSaved? saves channel message.header.seq ≠ some message :=
      fun first => none _ (of_firstSaved? first).1 rfl
    rw [answer.mem_iff]
    exact iff_of_false (fun first => unsaved first.1) fun first => unsaved first.1

/-- Every run of saves of numbered messages whose frames can be written is accepted by both stores.
Afterwards the store in memory answers every request for a range exactly.  A database does so
exactly if the lower bound is not above the signed numbers, or the range is empty anyway, or
nothing was saved under the channel; else it answers as if there was no lower bound. -/
theorem range_exact_iff
    (writable : ∀ save ∈ saves, save.2.seq?.isSome ∧ ∃ frame, save.2.encode = .ok frame)
    (channel : Channel) (low high : UInt64) :
    ∃ store fresh database inMemory inTables,
      saveAll MemoryStore.empty saves = .ok store ∧
      Database.blank.migrate = (.ok (), fresh) ∧ saveAll fresh saves = .ok database ∧
      range store channel low high = .ok inMemory ∧ RangeOf saves channel low high inMemory ∧
      range database channel low high = .ok inTables ∧
      RangeOf saves channel (if low ≤ high ∧ Word.signedMax < low then 0 else low) high inTables ∧
      (RangeOf saves channel low high inTables ↔
        (low ≤ high → Word.signedMax < low → ∀ save ∈ saves, save.1 ≠ channel)) := by
  obtain ⟨store, database, saved, stored, mirrors, records⟩ :=
    (Mirrors.of_empty _).exists_saveAll MemoryStore.Records.of_empty writable
  have tables := records.range channel (if low ≤ high ∧ Word.signedMax < low then 0 else low) high
  refine ⟨store, _, database, _, _, saved, rfl, stored, rfl, records.range channel low high,
    mirrors.range_eq channel low high, tables, ?_⟩
  split at tables
  · next beyond =>
      rw [if_pos beyond, rangeOf_zero_iff writable beyond.2 beyond.1 tables]
      exact ⟨fun none _ _ => none, fun none => none beyond.1 beyond.2⟩
  · next bounded =>
      rw [if_neg bounded]
      exact iff_of_true tables fun ordered beyond => (bounded ⟨ordered, beyond⟩).elim

/-- Of two messages under the number 5 both stores answer with the first one, and a message of
another channel is left out. -/
theorem range_of_repeated_number :
    let saves : List (Channel × Message) :=
      [(⟨1, 2⟩, .bareText 2 1 7 1007), (⟨1, 2⟩, .bareText 2 1 5 1005),
        (⟨1, 2⟩, .bareText 1 2 5 1006), (⟨1, 12⟩, .bareText 12 1 6 1006)]
    let answer : List Message := [.bareText 2 1 5 1005, .bareText 2 1 7 1007]
    (∀ save ∈ saves, save.2.seq?.isSome ∧ ∃ frame, save.2.encode = .ok frame) ∧
      ∃ store fresh database, saveAll MemoryStore.empty saves = .ok store ∧
        Database.blank.migrate = (.ok (), fresh) ∧ saveAll fresh saves = .ok database ∧
        range store ⟨1, 2⟩ 5 Word.top = .ok answer ∧
        range database ⟨1, 2⟩ 5 Word.top = .ok answer := by
  intro saves answer
  have wellFormed : ∀ save ∈ saves, save.2.seq?.isSome ∧ save.2.WellFormed := by decide
  have writable : ∀ save ∈ saves, save.2.seq?.isSome ∧ ∃ frame, save.2.encode = .ok frame :=
    fun save listed => ⟨(wellFormed save listed).1, save.2.spelling,
      Message.encode_eq_ok_iff.mpr ⟨(wellFormed save listed).2, rfl⟩⟩
  obtain ⟨store, fresh, database, inMemory, inTables, saved, migrated, stored, answered, exact,
    selected, -, tablesExact⟩ := range_exact_iff writable ⟨1, 2⟩ 5 Word.top
  have same := exact.unique (tablesExact.mpr fun _ beyond => absurd beyond (by decide))
  obtain rfl : inMemory = answer := by
    cases saved
    cases answered
    decide
  exact ⟨writable, store, fresh, database, saved, migrated, stored, answered, same ▸ selected⟩

/-- From a bound that reads as negative on, a database answers with a message below the bound. -/
theorem range_beyond_signed :
    let saves : List (Channel × Message) := [(⟨1, 2⟩, .bareText 2 1 5 1000)]
    ∃ fresh database, Database.blank.migrate = (.ok (), fresh) ∧
      saveAll fresh saves = .ok database ∧
      range database ⟨1, 2⟩ 0x8000000000000000 Word.top = .ok [.bareText 2 1 5 1000] ∧
      ¬RangeOf saves ⟨1, 2⟩ 0x8000000000000000 Word.top [.bareText 2 1 5 1000] := by
  intro saves
  refine ⟨_, _, rfl, rfl, by decide +kernel, fun answer => ?_⟩
  exact absurd ((answer.mem_iff _).mp List.mem_cons_self).2.1 (by decide)

end MessageStore

end Messenger
