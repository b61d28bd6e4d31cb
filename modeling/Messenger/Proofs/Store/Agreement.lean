import Messenger.Proofs.Store.Rows

/-!
# The two stores answer alike

A database mirrors a store in memory if it has the rows of every shelf and the same
values.  Every request gets the same answer from both, and they still mirror each other
afterwards, so from empty stores on no run of requests tells them apart.
-/

namespace Messenger

namespace MessageStore

/-- What is asked of a store. -/
inductive Request where
  | save (channel : Channel) (message : Message)
  | before (channel : Channel) (bound limit : UInt64)
  | latest (channel : Channel)
  | value (key : String)
  | setValue (key : String) (value : Octets)
  | dropValue (key : String)
deriving DecidableEq, Repr

/-- What is answered to a request that is not refused. -/
inductive Reply where
  | outcome (outcome : SaveOutcome)
  | messages (messages : List Message)
  | number (seq? : Option UInt64)
  | value (value? : Option Octets)
  | done
deriving DecidableEq, Repr

variable {σ : Type} [MessageStore σ]

/-- The reply to a request, and the store after it. -/
def ask (store : σ) : Request → Except StoreError (Reply × σ)
  | .save channel message => do
      let (outcome, after) ← save store channel message
      return (.outcome outcome, after)
  | .before channel bound limit => do
      return (.messages (← before store channel bound limit), store)
  | .latest channel => do return (.number (← latest store channel), store)
  | .value key => do return (.value (← value store key), store)
  | .setValue key value => do return (.done, ← setValue store key value)
  | .dropValue key => do return (.done, ← dropValue store key)

/-- The replies to requests one after the other.  A refused request leaves the store as it was. -/
def replies (store : σ) : List Request → List (Except StoreError Reply)
  | [] => []
  | request :: rest =>
      match ask store request with
      | .ok (reply, after) => .ok reply :: replies after rest
      | .error cause => .error cause :: replies store rest

/-- If a message with a number is to be saved, its frame can be written. -/
def Request.Writable : Request → Prop
  | .save _ message => message.seq?.isSome → ∃ frame, message.encode = .ok frame
  | _ => True

instance : DecidablePred Request.Writable
  | .save _ message =>
      have exists_iff : (∃ frame, message.encode = .ok frame) ↔ message.WellFormed := by
        simp [Message.encode_eq_ok_iff]
      decidable_of_iff (message.seq?.isSome → message.WellFormed)
        (imp_congr_right fun _ => exists_iff.symm)
  | .before .. | .latest .. | .value .. | .setValue .. | .dropValue .. => isTrue trivial

end MessageStore

/-- A database has what a store in memory has. -/
structure Mirrors (database : Database) (store : MemoryStore) : Prop where
  shelved : ∃ rows, database.messages = some rows ∧
    ∀ channel, Database.Shelved rows channel (store.shelf channel)
  ascending : ∀ channel, Message.Ascending (store.shelf channel)
  wellFormed : ∀ channel, ∀ message ∈ store.shelf channel, message.WellFormed
  values : database.values = some store.values

namespace Mirrors

variable {database : Database} {store : MemoryStore}

/-- The two stores that a request leaves mirror each other, and the reply was the same. -/
inductive Alike : Except StoreError (MessageStore.Reply × MemoryStore) →
    Except StoreError (MessageStore.Reply × Database) → Prop
  | answered (reply : MessageStore.Reply) {store : MemoryStore} {database : Database}
      (mirrors : Mirrors database store) : Alike (.ok (reply, store)) (.ok (reply, database))
  | refused (cause : StoreError) : Alike (.error cause) (.error cause)

/-- The numbers on a shelf that are below a bound are below it in the signed reading. -/
theorem lt_signedBound_iff {message : Message} (wellFormed : message.WellFormed)
    (bound : UInt64) :
    (message.header.seq.toNat : Int) < Database.signedBound bound ↔ message.header.seq < bound := by
  have number := wellFormed.seq_lt
  have largest : Word.signedMax.toNat = 9223372036854775807 := rfl
  rw [UInt64.lt_iff_toNat_lt]
  unfold Database.signedBound
  split
  · next small => rw [Word.signed_of_le small, Int.ofNat_lt]
  · next large =>
      rw [Word.signed_of_le (UInt64.le_refl _)]
      rw [UInt64.le_iff_toNat_le] at large
      omega

/-- A limit that reads as negative is beyond the length of every shelf. -/
theorem lastOf_eq_self {messages : List Message} (ascending : Message.Ascending messages)
    (wellFormed : ∀ message ∈ messages, message.WellFormed) {limit : UInt64}
    (negative : Word.signed limit < 0) : lastOf limit.toNat messages = messages := by
  have few := ascending.length_le fun message member => (wellFormed message member).seq_lt
  have many : Word.signedMax.toNat < limit.toNat := by
    rw [← UInt64.lt_iff_toNat_lt]
    by_contra small
    rw [Word.signed_of_le (UInt64.not_lt.mp small)] at negative
    omega
  have largest : Word.signedMax.toNat = 9223372036854775807 := rfl
  unfold lastOf
  rw [Nat.sub_eq_zero_of_le (by omega), List.drop_zero]

theorem before_eq (mirrors : Mirrors database store) (channel : Channel) (bound limit : UInt64) :
    database.before channel bound limit = .ok (store.before channel bound limit) := by
  obtain ⟨rows, table, shelved⟩ := mirrors.shelved
  let below := (store.shelf channel).filter fun message => message.header.seq < bound
  have inShelf : ∀ message ∈ below, message.WellFormed := fun message member =>
    mirrors.wellFormed channel message (List.mem_of_mem_filter member)
  have selected : Database.selectRows rows channel (fun seq => seq < Database.signedBound bound) =
      below.map (MessageRow.of channel) := by
    refine Database.selectRows_eq (shelved channel) (mirrors.ascending channel) ?_
    intro message member
    exact decide_eq_decide.mpr (lt_signedBound_iff (mirrors.wellFormed channel message member) _)
  have kept : (if Word.signed limit < 0 then below.map (MessageRow.of channel)
      else lastOf limit.toNat (below.map (MessageRow.of channel))) =
      (lastOf limit.toNat below).map (MessageRow.of channel) := by
    split
    · next negative =>
        rw [lastOf_eq_self ((mirrors.ascending channel).filter _) inShelf negative]
    · unfold lastOf
      rw [List.length_map, List.map_drop]
  unfold Database.before
  rw [table]
  dsimp only [Database.need, bind, Except.bind]
  rw [selected, kept]
  exact Database.decodeFrames_of_wellFormed fun message member =>
    inShelf message (List.mem_of_mem_drop member)

theorem latest_eq (mirrors : Mirrors database store) (channel : Channel) :
    database.latest channel = .ok (store.latest channel) := by
  obtain ⟨rows, table, shelved⟩ := mirrors.shelved
  have numbers : ((rows.filter fun row => row.channel = channel.render).map MessageRow.seq).Perm
      ((store.shelf channel).map fun message => (message.header.seq.toNat : Int)) := by
    have listed := (shelved channel).map MessageRow.seq
    rwa [List.map_map] at listed
  have highest : ((rows.filter fun row => row.channel = channel.render).map
      MessageRow.seq).max?.map Word.ofSigned = store.latest channel := by
    unfold MemoryStore.latest
    have ascending := mirrors.ascending channel
    rcases List.eq_nil_or_concat (store.shelf channel) with empty | ⟨lower, last, ends⟩
    · rw [empty] at numbers ⊢
      rw [numbers.eq_nil]
      rfl
    · rw [ends, List.concat_eq_append] at numbers ascending ⊢
      have top : ((rows.filter fun row => row.channel = channel.render).map
          MessageRow.seq).max? = some (last.header.seq.toNat : Int) := by
        refine List.max?_eq_some_iff.mpr ⟨numbers.mem_iff.mpr (by simp), fun number member => ?_⟩
        obtain ⟨message, listed, rfl⟩ := List.mem_map.mp (numbers.mem_iff.mp member)
        rcases List.mem_append.mp listed with before | atEnd
        · have lower := (List.pairwise_append.mp ascending).2.2 message before last (by simp)
          exact Int.ofNat_le.mpr (Nat.le_of_lt (UInt64.lt_iff_toNat_lt.mp lower))
        · rw [List.mem_singleton.mp atEnd]
      rw [top, List.getLast?_append, List.getLast?_singleton]
      exact congrArg some (Word.ofSigned_natCast _)
  unfold Database.latest
  rw [table]
  exact congrArg Except.ok highest

/-- The database has a row with the number of a message exactly if the shelf has the number. -/
theorem any_taken_iff {rows : List MessageRow} {channel : Channel} {shelf : List Message}
    (shelved : Database.Shelved rows channel shelf) (message : Message) :
    (rows.any fun row => row.channel = channel.render && row.seq = message.header.seq.toNat) ↔
      ∃ taken ∈ shelf, taken.header.seq = message.header.seq := by
  simp only [List.any_eq_true, Bool.and_eq_true, decide_eq_true_eq]
  constructor
  · rintro ⟨row, listed, inChannel, number⟩
    have member := shelved.mem_iff.mp (List.mem_filter.mpr ⟨listed, decide_eq_true inChannel⟩)
    obtain ⟨taken, onShelf, rfl⟩ := List.mem_map.mp member
    exact ⟨taken, onShelf, UInt64.toNat_inj.mp (Int.ofNat_inj.mp number)⟩
  · rintro ⟨taken, onShelf, number⟩
    have member := shelved.mem_iff.mpr (List.mem_map_of_mem onShelf)
    obtain ⟨listed, inChannel⟩ := List.mem_filter.mp member
    exact ⟨_, listed, of_decide_eq_true inChannel, congrArg (fun seq => (seq.toNat : Int)) number⟩

/-- A row more is a message more on the shelf of its channel, and nothing on the others. -/
theorem shelved_append {rows : List MessageRow} {channel : Channel} {message : Message}
    {placed : List Message} (shelved : ∀ other, Database.Shelved rows other (store.shelf other))
    (placing : MemoryStore.place message (store.shelf channel) = some placed) (other : Channel) :
    Database.Shelved (rows ++ [.of channel message]) other
      (MemoryStore.shelf { store with shelves := store.shelves.insert channel placed } other) := by
  have sameText : (MessageRow.of channel message).channel = other.render ↔ other = channel :=
    ⟨fun same => (Channel.render_injective same).symm, fun same => congrArg Channel.render same.symm⟩
  unfold Database.Shelved
  rw [MemoryStore.shelf_insert, List.filter_append, List.filter_cons, List.filter_nil]
  simp only [sameText, decide_eq_true_eq]
  split
  · next same =>
      rw [same]
      have added := (MemoryStore.perm_of_place placing).map (MessageRow.of channel)
      exact ((shelved channel).append_right _).trans (List.perm_append_comm.trans added.symm)
  · rw [List.append_nil]
    exact shelved other

theorem save_eq {rows : List MessageRow} (table : database.messages = some rows)
    (channel : Channel) {message : Message} (numbered : message.seq? = some message.header.seq)
    (wellFormed : message.WellFormed) :
    database.save channel message =
      if rows.any fun row => row.channel = channel.render && row.seq = message.header.seq.toNat
      then .ok (.alreadyThere, database)
      else .ok (.saved, { database with messages := some (rows ++ [.of channel message]) }) := by
  have written : message.encode = .ok message.spelling :=
    Message.encode_eq_ok_iff.mpr ⟨wellFormed, rfl⟩
  unfold Database.save requireSeq
  rw [numbered, written, table]
  dsimp only [Database.need, bind, Except.bind, pure, Except.pure]
  rw [wellFormed.signed_seq]
  rfl

/-- The first message that is saved under a number stays, in both stores. -/
theorem alike_save (mirrors : Mirrors database store) (channel : Channel) {message : Message}
    (writable : message.seq?.isSome → ∃ frame, message.encode = .ok frame) :
    Alike (MessageStore.ask store (.save channel message))
      (MessageStore.ask database (.save channel message)) := by
  cases numbered : message.seq? with
  | none =>
      have refused : database.save channel message = .error (.unsequenced message) := by
        unfold Database.save requireSeq
        rw [numbered]
        rfl
      have same := store.save_of_unnumbered channel numbered
      dsimp only [MessageStore.ask, MessageStore.save]
      rw [refused, same]
      exact .refused _
  | some seq =>
      rw [numbered] at writable
      obtain ⟨frame, written⟩ := writable rfl
      have wellFormed := (Message.encode_eq_ok_iff.mp written).1
      obtain ⟨rfl, -⟩ := Message.seq?_eq_some_iff.mp numbered
      obtain ⟨rows, table, shelved⟩ := mirrors.shelved
      have taken := any_taken_iff (shelved channel) message
      rw [← MemoryStore.place_eq_none_iff (mirrors.ascending channel)] at taken
      dsimp only [MessageStore.ask, MessageStore.save]
      rw [save_eq table channel numbered wellFormed]
      unfold MemoryStore.save requireSeq
      rw [numbered]
      dsimp only
      cases placing : MemoryStore.place message (store.shelf channel) with
      | none =>
          rw [if_pos (taken.mpr placing)]
          exact .answered _ mirrors
      | some placed =>
          have free := fun isTaken => Option.some_ne_none _ (placing.symm.trans (taken.mp isTaken))
          rw [if_neg free]
          refine .answered _ ⟨⟨_, rfl, shelved_append shelved placing⟩, ?_, ?_, mirrors.values⟩
          · intro other
            rw [MemoryStore.shelf_insert]
            split
            · exact MemoryStore.ascending_of_place placing (mirrors.ascending channel)
            · exact mirrors.ascending other
          · intro other entry onShelf
            rw [MemoryStore.shelf_insert] at onShelf
            split at onShelf
            · rcases (MemoryStore.mem_of_place placing).mp onShelf with rfl | known
              · exact wellFormed
              · exact mirrors.wellFormed channel entry known
            · exact mirrors.wellFormed other entry onShelf

/-- Every request gets the same reply, and the stores still mirror each other after it. -/
theorem alike_ask (mirrors : Mirrors database store) {request : MessageStore.Request}
    (writable : request.Writable) :
    Alike (MessageStore.ask store request) (MessageStore.ask database request) := by
  cases request with
  | save channel message => exact alike_save mirrors channel writable
  | before channel bound limit =>
      dsimp only [MessageStore.ask, MessageStore.before]
      rw [mirrors.before_eq]
      exact .answered _ mirrors
  | latest channel =>
      dsimp only [MessageStore.ask, MessageStore.latest]
      rw [mirrors.latest_eq]
      exact .answered _ mirrors
  | value key =>
      dsimp only [MessageStore.ask, MessageStore.value]
      rw [mirrors.values]
      exact .answered _ mirrors
  | setValue key value =>
      dsimp only [MessageStore.ask, MessageStore.setValue]
      rw [mirrors.values]
      exact .answered _ ⟨mirrors.shelved, mirrors.ascending, mirrors.wellFormed, rfl⟩
  | dropValue key =>
      dsimp only [MessageStore.ask, MessageStore.dropValue]
      rw [mirrors.values]
      exact .answered _ ⟨mirrors.shelved, mirrors.ascending, mirrors.wellFormed, rfl⟩

/-- Stores that mirror each other give the same replies to every run of requests. -/
theorem replies_eq (mirrors : Mirrors database store) {requests : List MessageStore.Request}
    (writable : ∀ request ∈ requests, request.Writable) :
    MessageStore.replies store requests = MessageStore.replies database requests := by
  induction requests generalizing database store with
  | nil => rfl
  | cons request rest ih =>
      obtain ⟨first, others⟩ := List.forall_mem_cons.mp writable
      have alike := mirrors.alike_ask first
      unfold MessageStore.replies
      generalize MessageStore.ask store request = inMemory at alike ⊢
      generalize MessageStore.ask database request = inTables at alike ⊢
      cases alike with
      | answered reply after =>
          dsimp only
          rw [ih after others]
      | refused cause =>
          dsimp only
          rw [ih mirrors others]

theorem of_empty (versions : Option (List Int)) :
    Mirrors ⟨some [], some .empty, versions⟩ .empty where
  shelved := ⟨[], rfl, fun _ => .refl _⟩
  ascending _ := List.Pairwise.nil
  wellFormed _ _ onShelf := nomatch onShelf
  values := rfl

end Mirrors

/-- No run of requests whose numbered messages can be written tells a new database from an empty
store in memory. -/
theorem replies_eq_from_empty {requests : List MessageStore.Request}
    (writable : ∀ request ∈ requests, request.Writable) :
    ∃ database, Database.blank.migrate = (.ok (), database) ∧
      MessageStore.replies database requests = MessageStore.replies MemoryStore.empty requests :=
  ⟨_, rfl, ((Mirrors.of_empty _).replies_eq writable).symm⟩

/-- The second message under a number is not saved, and a limit beyond the signed numbers is no
limit. -/
theorem replies_of_repeated_number :
    let requests : List MessageStore.Request :=
      [.save ⟨1, 2⟩ (.bareText 2 1 5 1005), .save ⟨1, 2⟩ (.bareText 1 2 5 1006),
        .save ⟨1, 12⟩ (.bareText 12 1 7 1007), .before ⟨1, 2⟩ Word.top Word.top,
        .latest ⟨1, 12⟩, .setValue "key" [1], .dropValue "key", .value "key"]
    let replies := [.outcome .saved, .outcome .alreadyThere, .outcome .saved,
      .messages [.bareText 2 1 5 1005], .number (some 7), .done, .done, .value none]
    (∀ request ∈ requests, request.Writable) ∧
      ∃ database, Database.blank.migrate = (.ok (), database) ∧
        MessageStore.replies database requests = replies.map .ok := by
  intro requests replies
  have writable : ∀ request ∈ requests, request.Writable := by decide
  obtain ⟨database, migrated, same⟩ := replies_eq_from_empty writable
  have inMemory : MessageStore.replies MemoryStore.empty requests = replies.map .ok := by decide
  exact ⟨writable, database, migrated, same.trans inMemory⟩

end Messenger
