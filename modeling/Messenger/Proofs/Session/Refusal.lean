import Messenger.Proofs.Frame.Payloads
import Messenger.Proofs.Json.Shapes
import Messenger.Proofs.Session.Pages

/-!
# Refused frames

A frame is refused as such exactly if it cannot be decoded or its payload has not the form
that its kind demands.  It is refused before anything else happens, and whatever fails later
is not blamed on the frame.
-/

namespace Messenger

/-! ## Payloads -/

namespace Message

/-- The payload is the text of a numeral, with nothing but blanks around it. -/
def EchoesTime (message : Message) : Prop :=
  ∃ before numeral after minted,
    message.payload = Utf8.encode (String.ofList (before ++ numeral ++ after)) ∧
      Numeral.Spells numeral minted ∧ (∀ c ∈ before, Blank.isBlank c) ∧
      ∀ c ∈ after, Blank.isBlank c

/-- The payload is the text of an array of pairs of words. -/
def ListsPairs (message : Message) : Prop :=
  ∃ pairs read spaces, message.payload = Utf8.encode (String.ofList (read ++ spaces)) ∧
    Json.Spaced (Json.pairTokens pairs) read ∧ ∀ c ∈ spaces, Json.isSpace c

/-- The payload has not the form that the kind of the message demands. -/
def Unreadable (message : Message) : Prop :=
  match message.header.kind with
  | .ack => ¬ message.EchoesTime
  | .box => message.payload ≠ [] ∧ ¬ message.ListsPairs
  | .sync => message.payload.length ≠ 8
  | _ => False

theorem exists_mintedTimestamp_iff (message : Message) :
    (∃ minted, message.mintedTimestamp = .ok minted) ↔ message.EchoesTime := by
  constructor
  · rintro ⟨minted, read⟩
    obtain ⟨text, spelled, word⟩ := mintedTimestamp_eq_ok_iff.mp read
    obtain ⟨before, numeral, after, split, spells, blank⟩ :=
      Numeral.word?_trim_eq_some_iff.mp word
    refine ⟨before, numeral, after, minted, ?_, spells, blank⟩
    rw [← split, String.ofList_toList, spelled]
  · rintro ⟨before, numeral, after, minted, spelled, spells, blank⟩
    refine ⟨minted, mintedTimestamp_eq_ok_iff.mpr ⟨_, spelled.symm, ?_⟩⟩
    rw [String.toList_ofList]
    exact Numeral.word?_trim_eq_some_iff.mpr ⟨before, numeral, after, rfl, spells, blank⟩

theorem exists_readRoster_iff (message : Message) :
    (∃ roster, Session.readRoster message = .ok roster) ↔
      message.payload = [] ∨ message.ListsPairs := by
  unfold Session.readRoster
  by_cases empty : message.payload = []
  · rw [empty]
    exact ⟨fun _ => .inl rfl, fun _ => ⟨[], rfl⟩⟩
  · rw [if_neg (mt List.isEmpty_iff.mp empty), or_iff_right empty]
    constructor
    · rintro ⟨roster, read⟩
      split at read
      · cases read
      · next text decoded =>
        split at read
        · next pairs parsed =>
          obtain ⟨front, spaces, split, spaced, blank⟩ := Json.parse_pairs_eq_some_iff.mp parsed
          refine ⟨pairs, front, spaces, ?_, spaced, blank⟩
          rw [← split, String.ofList_toList, Utf8.decode_eq_ok_iff.mp decoded]
        · cases read
    · rintro ⟨pairs, front, spaces, spelled, spaced, blank⟩
      have parsed : JsonForm.parse (String.ofList (front ++ spaces)) = some pairs :=
        Json.parse_pairs_eq_some_iff.mpr
          ⟨front, spaces, String.toList_ofList, spaced, blank⟩
      rw [Utf8.decode_eq_ok_iff.mpr spelled.symm]
      refine ⟨pairs, ?_⟩
      dsimp only
      rw [parsed]

theorem exists_remaining_iff (message : Message) :
    (∃ count, message.remaining = .ok count) ↔ message.payload.length = 8 := by
  unfold remaining
  split
  · next length => exact ⟨fun _ => length, fun _ => ⟨_, rfl⟩⟩
  · next length => exact ⟨nofun, fun same => absurd same length⟩

end Message

/-- A cause is not that a frame cannot be written or read. -/
def SessionError.BlamesNoFrame (cause : SessionError) : Prop :=
  ∀ fault, cause ≠ .frame fault

namespace Session

/-! ## Whatever fails after reading -/

section Later

variable {σ η : Type}

open SessionError (BlamesNoFrame)

theorem failsOnly_note (peer : AccountId) (message : Message) (countsUnread : Bool) :
    FailsOnly BlamesNoFrame (note peer message countsUnread : SessionM σ η Unit) := by
  intro session cause left failed
  unfold note at failed
  split at failed
  · cases failed
  · cases failed
    exact nofun

theorem failsOnly_receiveAuth (message : Message) :
    FailsOnly BlamesNoFrame (receiveAuth message : SessionM σ η Routed) := by
  unfold receiveAuth
  dsimp only
  split <;> exact .bind (.modify _) fun _ => .bind (failsOnly_emit _) fun _ => .pure _

theorem failsOnly_receiveSync {message : Message} {remaining : UInt64}
    (read : message.remaining = .ok remaining) :
    FailsOnly BlamesNoFrame (receiveSync message : SessionM σ η Routed) := by
  unfold receiveSync
  rw [read]
  refine .answer (.get fun session => ?_)
  split
  · exact .bind (failsOnly_finishSync _) fun _ => .pure _
  · exact .pure _

variable [MessageStore σ]

theorem failsOnly_saveConversations :
    FailsOnly BlamesNoFrame (saveConversations : SessionM σ η Unit) := by
  intro session cause left failed
  unfold saveConversations at failed
  split at failed
  · cases failed
  · cases failed
    exact nofun

theorem failsOnly_anchor (channel : Channel) :
    FailsOnly BlamesNoFrame (anchor channel : SessionM σ η Unit) := by
  intro session cause left failed
  unfold anchor at failed
  split at failed
  · cases failed
  · split at failed
    · cases failed
    · cases failed
      exact nofun

theorem failsOnly_receiveAck {message : Message} {minted : UInt64}
    (read : message.mintedTimestamp = .ok minted) :
    FailsOnly BlamesNoFrame (receiveAck message : SessionM σ η Routed) := by
  unfold receiveAck
  rw [read]
  refine .answer (.get fun session => ?_)
  dsimp only
  cases (session.timeline (message.channel session.me)).confirm message.header.sender
      message.header.receiver minted message.header.seq message.header.timestamp with
  | mk entry timeline =>
      cases entry with
      | none => exact .pure _
      | some entry =>
          exact .set (.bind (failsOnly_save _ _ nofun) fun _ => .bind (.modify _) fun _ =>
            .bind (.modify _) fun _ => .bind failsOnly_saveConversations fun _ =>
            .bind (failsOnly_emit _) fun _ => .pure _)

variable [HistorySource η]

theorem failsOnly_catchUpFrom (channel : Channel) (cursor : Cursor) (merged : Nat) :
    FailsOnly BlamesNoFrame (catchUpFrom channel cursor merged : SessionM σ η SyncOutcome) := by
  rw [catchUpFrom]
  refine .get fun session => ?_
  split
  · exact .set (.bind (failsOnly_emit _) fun _ => .pure _)
  · exact .set (.throw nofun)
  · exact .set (.pure _)
  · next page moved history _ =>
      refine .set (.bind (failsOnly_takePage channel page nofun) fun count => ?_)
      exact failsOnly_catchUpFrom channel moved (merged + count)
termination_by cursor.distance
decreasing_by exact Backfill.distance_lt_of_nextPage (by assumption)

theorem failsOnly_catchUp (channel : Channel) :
    FailsOnly BlamesNoFrame (catchUp channel : SessionM σ η SyncOutcome) := by
  refine .get fun session => ?_
  cases session.tracker.issue channel with
  | mk plan tracker =>
      refine .set ?_
      cases plan with
      | none => exact .pure _
      | some plan => exact failsOnly_catchUpFrom _ _ _

theorem failsOnly_catchUpWith (peers : List AccountId) :
    FailsOnly BlamesNoFrame (catchUpWith peers : SessionM σ η Unit) := by
  induction peers with
  | nil => exact .pure _
  | cons peer rest ih =>
      refine .get fun session => ?_
      exact .bind (failsOnly_anchor _) fun _ => .bind (failsOnly_catchUp _) fun _ => ih

theorem failsOnly_announce (session : Session σ η) (message : Message)
    (inserted : Timeline.Inserted) :
    FailsOnly BlamesNoFrame (announce session message inserted) := by
  have ending : FailsOnly BlamesNoFrame
      (do
        if (session.tracker.state? (message.channel session.me)).isNone then
          let _ ← catchUp (message.channel session.me)
        return Routed.content (message.channel session.me) inserted : SessionM σ η Routed) := by
    split
    · exact .bind (failsOnly_catchUp _) fun _ => .pure _
    · exact .pure _
  unfold announce
  dsimp only
  split
  · exact .bind (failsOnly_note _ _ _) fun _ => .bind failsOnly_saveConversations fun _ =>
      .bind (failsOnly_emit _) fun _ => ending
  · exact ending

theorem failsOnly_receiveContent (message : Message) :
    FailsOnly BlamesNoFrame (receiveContent message : SessionM σ η Routed) := by
  refine .get fun session => ?_
  exact .bind (failsOnly_anchor _) fun _ => .bind (failsOnly_merge _ _ nofun) fun inserted =>
    failsOnly_announce session message inserted

theorem failsOnly_receiveRoster {message : Message} {roster : List (AccountId × UInt64)}
    (read : readRoster message = .ok roster) :
    FailsOnly BlamesNoFrame (receiveRoster message : SessionM σ η Routed) := by
  unfold receiveRoster
  rw [read]
  refine .answer ?_
  exact .bind (.modify _) fun _ => .bind failsOnly_saveConversations fun _ =>
    .bind (failsOnly_emit _) fun _ => .bind (failsOnly_catchUpWith _) fun _ => .pure _

end Later

section Handling

variable {σ η : Type} [MessageStore σ] [HistorySource η] {message : Message}

/-- A message whose payload can be read is handled without blaming it. -/
theorem failsOnly_receiveMessage (readable : ¬ message.Unreadable) :
    FailsOnly SessionError.BlamesNoFrame (receiveMessage message : SessionM σ η Routed) := by
  have surfaced : ∀ event answer, FailsOnly SessionError.BlamesNoFrame
      (do emit event; return answer : SessionM σ η Routed) :=
    fun event answer => .bind (failsOnly_emit event) fun _ => .pure answer
  unfold Message.Unreadable at readable
  unfold receiveMessage
  dsimp only
  split
  · exact failsOnly_receiveContent message
  · split
    · next ack =>
      rw [ack] at readable
      obtain ⟨minted, read⟩ := message.exists_mintedTimestamp_iff.mpr (not_not.mp readable)
      exact failsOnly_receiveAck read
    · next box =>
      rw [box] at readable
      obtain ⟨roster, read⟩ := message.exists_readRoster_iff.mpr (by
        by_cases empty : message.payload = []
        · exact .inl empty
        · exact .inr (not_not.mp fun other => readable ⟨empty, other⟩))
      exact failsOnly_receiveRoster read
    · next sync =>
      rw [sync] at readable
      obtain ⟨remaining, read⟩ := message.exists_remaining_iff.mpr (not_not.mp readable)
      exact failsOnly_receiveSync read
    · exact failsOnly_receiveAuth message
    · exact surfaced _ _
    · exact surfaced _ _
    · exact surfaced _ _
    · split
      · exact .pure _
      · exact surfaced _ _

/-- A message whose payload cannot be read changes nothing. -/
theorem receiveMessage_of_unreadable (unreadable : message.Unreadable) :
    ∃ cause, ∀ session : Session σ η,
      receiveMessage message session = .error (.frame cause) session := by
  unfold Message.Unreadable at unreadable
  split at unreadable
  · next ack =>
    cases read : message.mintedTimestamp with
    | ok minted => exact absurd (message.exists_mintedTimestamp_iff.mp ⟨minted, read⟩) unreadable
    | error cause =>
        refine ⟨cause, fun session => ?_⟩
        rw [receiveMessage_of_ack ack]
        exact receiveAck_of_unread session read
  · next box =>
    cases read : readRoster message with
    | ok roster =>
        rcases message.exists_readRoster_iff.mp ⟨roster, read⟩ with empty | lists
        · exact absurd empty unreadable.1
        · exact absurd lists unreadable.2
    | error cause =>
        refine ⟨cause, fun session => ?_⟩
        unfold receiveMessage receiveRoster
        simp only [box, read]
        rfl
  · next sync =>
    cases read : message.remaining with
    | ok remaining => exact absurd (message.exists_remaining_iff.mp ⟨remaining, read⟩) unreadable
    | error cause =>
        refine ⟨cause, fun session => ?_⟩
        unfold receiveMessage receiveSync
        simp only [sync, read]
        rfl
  · exact unreadable.elim

/-- Handling a frame blames it exactly if it cannot be decoded, or if the payload of its message
is not what its kind demands: the numeral of a word for an acknowledgement, nothing or an array of
pairs of words for a roster, and eight octets for a remaining count.  In all these cases the
session stays as it was. -/
theorem refused_iff_unreadable (session : Session σ η) (frame : Octets) :
    ((∃ cause left, receive frame session = .error (.frame cause) left) ↔
        (¬ ∃ message, Message.decode frame = .ok message) ∨
          ∃ message, Message.decode frame = .ok message ∧ message.Unreadable) ∧
      ∀ cause left, receive frame session = .error (.frame cause) left → left = session := by
  cases decoded : Message.decode frame with
  | error fault =>
      unfold receive
      rw [decoded]
      refine ⟨⟨fun _ => .inl nofun, fun _ => ⟨fault, session, rfl⟩⟩, ?_⟩
      rintro _ _ ⟨⟩
      rfl
  | ok message =>
      rw [receive_of_decoded decoded]
      have undecoded : ¬ ¬ ∃ other, Except.ok message = (.ok other : Except FrameError Message) :=
        not_not.mpr ⟨message, rfl⟩
      by_cases unreadable : message.Unreadable
      · obtain ⟨cause, refused⟩ := @receiveMessage_of_unreadable σ η _ _ _ unreadable
        rw [refused session]
        refine ⟨⟨fun _ => .inr ⟨message, rfl, unreadable⟩, fun _ => ⟨cause, session, rfl⟩⟩, ?_⟩
        rintro _ _ ⟨⟩
        rfl
      · have blameless := failsOnly_receiveMessage unreadable session
        refine ⟨⟨?_, ?_⟩, ?_⟩
        · rintro ⟨cause, left, refused⟩
          exact absurd rfl (blameless _ _ refused cause)
        · rintro (impossible | ⟨_, ⟨⟩, impossible⟩)
          · exact absurd impossible undecoded
          · exact absurd impossible unreadable
        · intro cause left refused
          exact absurd rfl (blameless _ _ refused cause)

end Handling

end Session

end Messenger
