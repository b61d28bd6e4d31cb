import Messenger.Conversation.Stored
import Messenger.Proofs.Cbor.ReadBack
import Messenger.Proofs.Conversation.Order
import Messenger.Proofs.Frame.Payloads
import Messenger.Proofs.Store.Values

/-!
# Conversation lists that are loaded as they were stored

A list whose latest activity comes first, and whose previews a head can count, is loaded
exactly as it was stored.  Whatever a session does to its list keeps it in this form.
-/

namespace Messenger

/-! ## Previews -/

namespace Message

/-- The preview of a message whose payload can be counted can be counted. -/
theorem length_preview_lt {message : Message} (short : message.payload.length < UInt64.size) :
    (Utf8.encode message.preview).length < UInt64.size := by
  have named : ∀ kind : Kind,
      (Utf8.encode ("[" ++ lowercase kind.name ++ "]")).length < UInt64.size := by
    intro kind
    cases kind <;> decide
  have spelled : ∀ {text : String}, message.text = .ok text →
      (Utf8.encode text).length < UInt64.size := by
    intro text read
    rwa [text_eq_ok_iff.mp read]
  have replaced : (Utf8.encode "[message]").length < UInt64.size := by decide
  cases read : message.text with
  | ok text =>
      simp only [preview, read]
      split
      · exact spelled read
      · exact spelled read
      · exact named _
  | error cause =>
      simp only [preview, read]
      split
      · exact replaced
      · exact replaced
      · exact named _

theorem WellFormed.length_preview_lt {message : Message} (wellFormed : message.WellFormed) :
    (Utf8.encode message.preview).length < UInt64.size := by
  refine Message.length_preview_lt ?_
  rw [← wellFormed.payloadLength_eq]
  exact Nat.lt_trans message.header.payloadLength.toNat_lt (by decide)

end Message

namespace Conversation

/-- The preview of a conversation can be counted. -/
def Brief (conversation : Conversation) : Prop :=
  (Utf8.encode conversation.preview).length < UInt64.size

instance (conversation : Conversation) : Decidable conversation.Brief :=
  inferInstanceAs (Decidable (_ < _))

theorem reads_kind (kind : Kind) : Cbor.Reads readKind (Cbor.writeText kind.name) kind := by
  intro rest
  have short : (Utf8.encode kind.name).length ≤ Cbor.nameLimit := by cases kind <;> decide
  have found : Kind.all.find? (fun other => Utf8.encode other.name = Utf8.encode kind.name) =
      some kind := by
    simp only [Utf8.encode_injective.eq_iff]
    exact Kind.ofName?_name kind
  simp only [readKind, Cbor.reads_choice short _, found, Option.bind_eq_bind, Option.bind_some,
    Option.pure_def]

theorem reads_field {α : Type} {read : Cbor.Reader α} {octets : Octets} {value : α}
    (reads : Cbor.Reads read octets value) :
    Cbor.Reads (readField none read) octets (some value) := by
  intro rest
  simp only [readField, reads _, Option.map_some]

/-- A conversation is read back from its record. -/
theorem reads {conversation : Conversation} (brief : conversation.Brief) :
    Cbor.Reads CborForm.read (CborForm.write conversation) conversation := by
  obtain ⟨peer, lastActivity, preview, unread, lastKind⟩ := conversation
  have distinct {name field : String} : Utf8.encode name = Utf8.encode field ↔ name = field :=
    Utf8.encode_injective.eq_iff
  -- One step per field: its name differs from the names that are tried before.
  have first : Cbor.Reads (readNamed (Utf8.encode "peer_id") {}) (CborForm.write peer)
      { peer := some peer } := fun rest => by
    simp [readNamed, CborForm.write, reads_field (Cbor.reads_word peer) rest]
  have second : Cbor.Reads (readNamed (Utf8.encode "last_activity") { peer := some peer })
      (CborForm.write lastActivity) ⟨some peer, some lastActivity, none, none, none⟩ :=
    fun rest => by
      simp [readNamed, distinct, CborForm.write, reads_field (Cbor.reads_word lastActivity) rest]
  have third : Cbor.Reads
      (readNamed (Utf8.encode "preview") ⟨some peer, some lastActivity, none, none, none⟩)
      (CborForm.write preview) ⟨some peer, some lastActivity, some preview, none, none⟩ :=
    fun rest => by
      simp [readNamed, distinct, CborForm.write, reads_field (Cbor.reads_text brief) rest]
  have fourth : Cbor.Reads
      (readNamed (Utf8.encode "unread") ⟨some peer, some lastActivity, some preview, none, none⟩)
      (CborForm.write unread) ⟨some peer, some lastActivity, some preview, some unread, none⟩ :=
    fun rest => by
      simp [readNamed, distinct, CborForm.write, reads_field (Cbor.reads_half unread) rest]
  have fifth : Cbor.Reads
      (readNamed (Utf8.encode "last_type")
        ⟨some peer, some lastActivity, some preview, some unread, none⟩)
      (Cbor.writeText lastKind.name)
      ⟨some peer, some lastActivity, some preview, some unread, some lastKind⟩ :=
    fun rest => by simp [readNamed, distinct, reads_field (reads_kind lastKind) rest]
  have fills := Cbor.Fills.cons (by decide) first <| .cons (by decide) second <|
    .cons (by decide) third <| .cons (by decide) fourth <| .cons (by decide) fifth <| .nil _
  intro rest
  have counted : 5 < UInt64.size := by decide
  exact Option.bind_eq_some_iff.mpr ⟨_, fills.reads counted rest, rfl⟩

end Conversation

namespace ConversationList

/-! ## The form of a list -/

/-- The latest activity comes first, and every preview can be counted. -/
structure Storable (list : ConversationList) : Prop where
  arranged : list.entries.Pairwise fun a b => b.lastActivity ≤ a.lastActivity
  brief : ∀ entry ∈ list.entries, entry.Brief

theorem storable_empty : empty.Storable :=
  ⟨.nil, nofun⟩

/-- Arranging a list whose latest activity comes first changes nothing. -/
theorem Storable.arrange_eq {list : ConversationList} (storable : list.Storable) :
    arrange list.entries = list := by
  have sorted : list.entries.Pairwise
      fun a b => decide (b.lastActivity ≤ a.lastActivity) = true := by
    simpa using storable.arranged
  exact congrArg ConversationList.mk (List.mergeSort_of_pairwise sorted)

/-! ## Changes -/

section Changes

variable {p : Conversation → Prop} {list : ConversationList} {entries : List Conversation}

/-- What holds of all conversations still holds if a change leaves it true. -/
theorem forall_change {peer : AccountId} {f : Conversation → Conversation}
    (each : ∀ entry ∈ entries, p entry)
    (keeps : ∀ entry ∈ entries, entry.peer = peer → p (f entry)) :
    ∀ entry ∈ change peer f entries, p entry := by
  induction entries with
  | nil => exact nofun
  | cons first rest ih =>
      obtain ⟨ofFirst, ofRest⟩ := List.forall_mem_cons.mp each
      obtain ⟨keepsFirst, keepsRest⟩ := List.forall_mem_cons.mp keeps
      unfold change
      split
      · next here => exact List.forall_mem_cons.mpr ⟨keepsFirst here, ofRest⟩
      · exact List.forall_mem_cons.mpr ⟨ofFirst, ih ofRest keepsRest⟩

/-- Of conversations with distinct peers a change leaves only those with other peers. -/
theorem forall_change_of_nodup {peer : AccountId} {f : Conversation → Conversation}
    (nodup : (entries.map Conversation.peer).Nodup)
    (others : ∀ entry ∈ entries, entry.peer ≠ peer → p entry)
    (changed : ∀ entry ∈ entries, entry.peer = peer → p (f entry)) :
    ∀ entry ∈ change peer f entries, p entry := by
  induction entries with
  | nil => exact nofun
  | cons first rest ih =>
      obtain ⟨single, nodupRest⟩ := List.nodup_cons.mp nodup
      obtain ⟨ofFirst, ofRest⟩ := List.forall_mem_cons.mp others
      obtain ⟨changedFirst, changedRest⟩ := List.forall_mem_cons.mp changed
      unfold change
      split
      · next here =>
          refine List.forall_mem_cons.mpr ⟨changedFirst here, fun entry member => ?_⟩
          refine ofRest entry member fun same => single ?_
          exact here ▸ same ▸ List.mem_map_of_mem member
      · next elsewhere =>
          exact List.forall_mem_cons.mpr ⟨ofFirst elsewhere, ih nodupRest ofRest changedRest⟩

theorem forall_append_singleton {added : Conversation} (each : ∀ entry ∈ entries, p entry)
    (ofAdded : p added) : ∀ entry ∈ entries ++ [added], p entry :=
  List.forall_mem_append.mpr ⟨each, List.forall_mem_singleton.mpr ofAdded⟩

theorem forall_arrange (each : ∀ entry ∈ entries, p entry) :
    ∀ entry ∈ (arrange entries).entries, p entry :=
  fun entry member => each entry (List.mem_mergeSort.mp member)

/-- What holds of all conversations holds after a message is accounted for, if it holds of what
the message makes of its conversation. -/
theorem forall_noteMessage {peer : AccountId} {message : Message} {countsUnread : Bool}
    (each : ∀ entry ∈ list.entries, p entry)
    (added : p (summarize peer message (unreadBy peer message countsUnread)))
    (changed : ∀ entry ∈ list.entries, entry.peer = peer →
      p (summarize peer message (entry.unread + unreadBy peer message countsUnread))) :
    ∀ entry ∈ (list.noteMessage peer message countsUnread).entries, p entry := by
  unfold ConversationList.noteMessage
  dsimp only
  split
  · exact forall_arrange (forall_append_singleton each added)
  · split
    · exact each
    · exact forall_arrange (forall_change each changed)

theorem forall_noteConfirmation {peer : AccountId} {time : UInt64}
    (each : ∀ entry ∈ list.entries, p entry)
    (keeps : ∀ entry, p entry → p (notBefore time entry)) :
    ∀ entry ∈ (list.noteConfirmation peer time).entries, p entry := by
  unfold ConversationList.noteConfirmation
  split
  · exact each
  · exact forall_arrange (forall_change each fun entry member _ => keeps entry (each entry member))

theorem forall_noteRoster {roster : List (AccountId × UInt64)}
    (each : ∀ entry ∈ list.entries, p entry)
    (keeps : ∀ entry time, p entry → p (notBefore time entry))
    (added : ∀ peer time,
      p { peer, lastActivity := time, preview := "", unread := 0, lastKind := .na }) :
    ∀ entry ∈ (list.noteRoster roster).entries, p entry := by
  refine forall_arrange ?_
  generalize list.entries = entries at each ⊢
  induction roster generalizing entries with
  | nil => exact each
  | cons named rest ih =>
      refine ih _ ?_
      unfold admitPeer
      split
      · exact forall_change each fun entry member _ => keeps entry named.2 (each entry member)
      · exact forall_append_singleton each (added named.1 named.2)

theorem Storable.noteMessage (storable : list.Storable) (peer : AccountId) {message : Message}
    (brief : (Utf8.encode message.preview).length < UInt64.size) (countsUnread : Bool) :
    (list.noteMessage peer message countsUnread).Storable where
  arranged := Arranged.noteMessage storable.arranged peer message countsUnread
  brief := forall_noteMessage storable.brief brief fun _ _ _ => brief

theorem Storable.noteConfirmation (storable : list.Storable) (peer : AccountId) (time : UInt64) :
    (list.noteConfirmation peer time).Storable where
  arranged := Arranged.noteConfirmation storable.arranged peer time
  brief := forall_noteConfirmation storable.brief fun _ brief => brief

theorem Storable.noteRoster (storable : list.Storable) (roster : List (AccountId × UInt64)) :
    (list.noteRoster roster).Storable where
  arranged := arranged_noteRoster list roster
  brief := forall_noteRoster storable.brief (fun _ _ brief => brief)
    fun _ _ => (by decide : (Utf8.encode "").length < UInt64.size)

theorem Storable.clearUnread (storable : list.Storable) (peer : AccountId) :
    (list.clearUnread peer).Storable where
  arranged := Arranged.clearUnread storable.arranged peer
  brief := forall_change storable.brief fun entry member _ => storable.brief entry member

end Changes

/-! ## Storing and loading -/

variable {σ : Type} [MessageStore σ] [MessageStore.KeepsValues σ]

/-- What is stored under an account is loaded again, as it was. -/
theorem load_of_save {list : ConversationList} {store after : σ} {account : AccountId}
    (storable : list.Storable) (counted : list.entries.length < UInt64.size)
    (saved : list.save store account = .ok after) : load after account = .ok list := by
  have reads : Cbor.Reads CborForm.read (CborForm.write list.entries) list.entries :=
    Cbor.reads_list counted fun entry member => Conversation.reads (storable.brief entry member)
  have read : CborForm.read (CborForm.write list.entries) = some (list.entries, []) := by
    have whole := reads []
    rwa [List.append_nil] at whole
  have held : MessageStore.value after (storageKey account) =
      .ok (some (CborForm.write list.entries)) := by
    rw [MessageStore.KeepsValues.value_of_setValue saved, if_pos rfl]
  have found : MessageStore.typedValue (List Conversation) after (storageKey account) =
      .ok (some list.entries) := by
    unfold MessageStore.typedValue
    simp only [held, bind, Except.bind, read]
    rfl
  unfold load
  rw [found]
  exact congrArg Except.ok storable.arrange_eq

/-- Distinct accounts keep their lists under distinct keys. -/
theorem storageKey_injective : Function.Injective storageKey := by
  intro account other same
  have characters := congrArg String.toList same
  unfold storageKey at characters
  rw [String.toList_append, String.toList_append] at characters
  have digits := String.toList_injective (List.append_cancel_left characters)
  exact UInt64.toNat_inj.mp (Nat.toString_injective digits)

/-- Storing the list of one account leaves what is loaded for the others. -/
theorem load_of_save_of_ne {list : ConversationList} {store after : σ} {account other : AccountId}
    (different : other ≠ account) (saved : list.save store account = .ok after) :
    load after other = load store other := by
  have same : MessageStore.value after (storageKey other) =
      MessageStore.value store (storageKey other) := by
    rw [MessageStore.KeepsValues.value_of_setValue saved,
      if_neg (storageKey_injective.ne different)]
  unfold load MessageStore.typedValue
  rw [same]

end ConversationList

end Messenger
