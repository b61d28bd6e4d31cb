import Mathlib.Algebra.Group.Nat.Defs
import Messenger.Message.Compose
import Messenger.Proofs.Frame.Payloads

/-!
# Composed messages

A message is composed exactly if all that is given for it fits its header, and otherwise the first
value that does not fit is named.  What is composed can be written, and what is read from its frame
says what the message was drafted to say.
-/

namespace Messenger.Message

/-! ## The contents of a message -/

/-- What a message is composed of: the given fields of its header, and its parts. -/
structure Contents where
  kind : Kind
  sender : AccountId
  receiver : AccountId := 0
  nodeId : UInt32 := 0
  timestamp : UInt64
  seq : UInt64 := 0
  payload : Octets := []
  extension : Octets := []
deriving DecidableEq, Repr

/-- What a message holds apart from its version and its lengths. -/
def contents (message : Message) : Contents where
  kind := message.header.kind
  sender := message.header.sender
  receiver := message.header.receiver
  nodeId := message.header.nodeId
  timestamp := message.header.timestamp
  seq := message.header.seq
  payload := message.payload
  extension := message.extension

namespace Contents

/-- The message that holds contents, with their lengths cut to the width of a header. -/
def message (contents : Contents) : Message where
  header :=
    { version := 0
      sender := contents.sender
      nodeId := contents.nodeId
      receiver := contents.receiver
      kind := contents.kind
      extensionLength := .ofNat contents.extension.length
      timestamp := contents.timestamp
      payloadLength := .ofNat contents.payload.length
      seq := contents.seq }
  payload := contents.payload
  extension := contents.extension

/-- The value that contents have for a field of the header, uncut. -/
def value (contents : Contents) : HeaderField → Nat
  | .payloadLength => contents.payload.length
  | .extensionLength => contents.extension.length
  | field => contents.message.header.value field

/-- Every value fits its field. -/
def Fits (contents : Contents) : Prop :=
  ∀ field, contents.value field < field.capacity

/-- Contents are checked by their lengths first, and then by the header that declares them. -/
def compose (contents : Contents) : Except FrameError Message := do
  Header.checkField .payloadLength contents.payload.length
  Header.checkField .extensionLength contents.extension.length
  contents.message.header.check
  return contents.message

/-- The fields in the order in which composing comes across them. -/
def inspected : List HeaderField :=
  .payloadLength :: .extensionLength :: Header.fields

variable {contents : Contents}

/-- The values that can be too large: nothing is given for the version, and a kind always fits. -/
theorem fits_iff :
    contents.Fits ↔
      contents.payload.length ≤ 16383 ∧ contents.extension.length ≤ 63 ∧
      contents.sender.toNat < 2 ^ 46 ∧ contents.receiver.toNat < 2 ^ 46 ∧
      contents.nodeId.toNat < 2 ^ 18 ∧ contents.timestamp.toNat < 2 ^ 46 ∧
      contents.seq.toNat < 2 ^ 50 := by
  constructor
  · intro fits
    exact ⟨Nat.le_of_lt_succ (fits .payloadLength), Nat.le_of_lt_succ (fits .extensionLength),
      fits .sender, fits .receiver, fits .nodeId, fits .timestamp, fits .seq⟩
  · rintro ⟨payload, extension, sender, receiver, nodeId, timestamp, seq⟩ field
    cases field with
    | version => exact (by decide : 0 < 1 <<< 18)
    | kind => exact contents.kind.code_lt
    | payloadLength => exact Nat.lt_succ_of_le payload
    | extensionLength => exact Nat.lt_succ_of_le extension
    | _ => assumption

/-- Lengths that fit are declared uncut. -/
theorem value_message (payload : contents.payload.length < HeaderField.payloadLength.capacity)
    (extension : contents.extension.length < HeaderField.extensionLength.capacity) :
    contents.message.header.value = contents.value := by
  funext field
  cases field with
  | payloadLength => exact UInt16.toNat_ofNat_of_lt' (Nat.lt_trans payload (by decide))
  | extensionLength => exact UInt8.toNat_ofNat_of_lt' (Nat.lt_trans extension (by decide))
  | _ => rfl

theorem Fits.value_message (fits : contents.Fits) :
    contents.message.header.value = contents.value :=
  Contents.value_message (fits .payloadLength) (fits .extensionLength)

theorem Fits.wellFormed (fits : contents.Fits) : contents.message.WellFormed where
  payloadLength_eq := congrFun fits.value_message .payloadLength
  extensionLength_eq := congrFun fits.value_message .extensionLength
  fits field := by
    rw [fits.value_message]
    exact fits field

/-- Composing checks the uncut values of the fields, one after the other. -/
theorem compose_eq_forM (contents : Contents) :
    contents.compose =
      (forM inspected fun field => Header.checkField field (contents.value field)) >>=
        fun _ => .ok contents.message := by
  rw [inspected, List.forM_cons, List.forM_cons, bind_assoc, bind_assoc]
  unfold compose
  by_cases payload : contents.payload.length < HeaderField.payloadLength.capacity
  · by_cases extension : contents.extension.length < HeaderField.extensionLength.capacity
    · rw [Header.check, value_message payload extension]
      rfl
    · have refused : Header.checkField .extensionLength contents.extension.length =
          .error (.fieldOverflow .extensionLength contents.extension.length) := if_neg extension
      have same : contents.value .extensionLength = contents.extension.length := rfl
      rw [same, refused]
      rfl
  · have refused : Header.checkField .payloadLength contents.payload.length =
        .error (.fieldOverflow .payloadLength contents.payload.length) := if_neg payload
    have same : contents.value .payloadLength = contents.payload.length := rfl
    rw [same, refused]
    rfl

/-- Composing names the first field whose value does not fit, with the value. -/
theorem compose_eq (contents : Contents) :
    contents.compose =
      match inspected.find? fun field => field.capacity ≤ contents.value field with
      | none => .ok contents.message
      | some field => .error (.fieldOverflow field (contents.value field)) := by
  rw [compose_eq_forM, Header.forM_checkField_eq]
  cases inspected.find? fun field => field.capacity ≤ contents.value field <;> rfl

/-- Contents are composed exactly if they fit, as the message that holds them. -/
theorem compose_eq_ok_iff {composed : Message} :
    contents.compose = .ok composed ↔ contents.Fits ∧ contents.message = composed := by
  have inspects : ∀ field, field ∈ inspected := fun field =>
    List.mem_cons_of_mem _ (List.mem_cons_of_mem _ (Header.mem_fields field))
  have fits_iff_none : contents.Fits ↔
      (inspected.find? fun field => field.capacity ≤ contents.value field) = none := by
    rw [Header.find?_eq_none_iff]
    exact ⟨fun fits field _ => fits field, fun each field => each field (inspects field)⟩
  rw [compose_eq, fits_iff_none]
  cases inspected.find? fun field => field.capacity ≤ contents.value field with
  | none => exact ⟨fun composed => ⟨rfl, Except.ok.inj composed⟩, fun fits => congrArg _ fits.2⟩
  | some field => exact iff_of_false nofun fun fits => nomatch fits.1

end Contents

/-! ## Drafts -/

/-- What a message is to say: anything at all, or one of the forms with their own payloads. -/
inductive Draft where
  | general (kind : Kind) (sender receiver : AccountId) (nodeId : UInt32) (timestamp : UInt64)
      (payload extension : Octets)
  | text (sender receiver : AccountId) (nodeId : UInt32) (timestamp : UInt64) (text : String)
  | acknowledgement (sender receiver : AccountId) (nodeId : UInt32) (timestamp seq minted : UInt64)
  | authentication (account : AccountId) (nodeId : UInt32) (timestamp : UInt64) (token : String)
  | probe (account : AccountId) (nodeId : UInt32) (timestamp : UInt64)
  | historyProgress (sender receiver : AccountId) (timestamp remaining : UInt64)
  | historyEnd (sender receiver : AccountId) (timestamp : UInt64)
  | rosterRequest (account : AccountId) (nodeId : UInt32) (timestamp : UInt64)
deriving DecidableEq, Repr

namespace Draft

/-- The message of a draft. -/
def compose : Draft → Except FrameError Message
  | .general kind sender receiver nodeId timestamp payload extension =>
      Message.compose kind sender receiver nodeId timestamp payload extension
  | .text sender receiver nodeId timestamp content =>
      ofText sender receiver nodeId timestamp content
  | .acknowledgement sender receiver nodeId timestamp seq minted =>
      Message.acknowledgement sender receiver nodeId timestamp seq minted
  | .authentication account nodeId timestamp token =>
      Message.authentication account nodeId timestamp token
  | .probe account nodeId timestamp => Message.probe account nodeId timestamp
  | .historyProgress sender receiver timestamp remaining =>
      Message.historyProgress sender receiver timestamp remaining
  | .historyEnd sender receiver timestamp => Message.historyEnd sender receiver timestamp
  | .rosterRequest account nodeId timestamp => Message.rosterRequest account nodeId timestamp

/-- What is given for the message of a draft. -/
def contents : Draft → Contents
  | .general kind sender receiver nodeId timestamp payload extension =>
      { kind, sender, receiver, nodeId, timestamp, payload, extension }
  | .text sender receiver nodeId timestamp content =>
      { kind := .text, sender, receiver, nodeId, timestamp, payload := Utf8.encode content }
  | .acknowledgement sender receiver nodeId timestamp seq minted =>
      { kind := .ack, sender, receiver, nodeId, timestamp, seq
        payload := Utf8.encode (toString minted.toNat) }
  | .authentication account nodeId timestamp token =>
      { kind := .auth, sender := account, nodeId, timestamp, payload := Utf8.encode token }
  | .probe account nodeId timestamp => { kind := .ping, sender := account, nodeId, timestamp }
  | .historyProgress sender receiver timestamp remaining =>
      { kind := .sync, sender, receiver, timestamp
        payload := Octets.bigEndian 8 remaining.toNat }
  | .historyEnd sender receiver timestamp =>
      { kind := .sync, sender, receiver, timestamp, payload := Octets.bigEndian 8 0 }
  | .rosterRequest account nodeId timestamp =>
      { kind := .box, sender := account, nodeId, timestamp }

/-- The payload of a message is read as what a draft was to say. -/
def Conveys : Draft → Message → Prop
  | .text _ _ _ _ content, message => message.text = .ok content
  | .authentication _ _ _ token, message => message.text = .ok token
  | .acknowledgement _ _ _ _ _ minted, message => message.mintedTimestamp = .ok minted
  | .historyProgress _ _ _ remaining, message =>
      message.remaining = .ok remaining ∧ (message.endsHistory = true ↔ remaining = 0)
  | .historyEnd .., message => message.remaining = .ok 0 ∧ message.endsHistory = true
  | .general .., _ | .probe .., _ | .rosterRequest .., _ => True

/-- The number is the last field of a header that is checked. -/
theorem check_eq_bind (header : Header) :
    header.check =
      (Header.fields.dropLast.forM fun field => Header.checkField field (header.value field)) >>=
        fun _ => Header.checkField .seq header.seq.toNat := by
  have parts : Header.fields = Header.fields.dropLast ++ [.seq] := rfl
  rw [Header.check, parts, List.forM_eq_forM, List.forM_append]
  refine congrArg _ (funext fun _ => ?_)
  rw [List.forM_cons]
  exact bind_pure _

/-- An acknowledgement is checked without its number first, and then as a whole: the second check
finds what the first one finds. -/
theorem acknowledgement_eq_compose (sender receiver : AccountId) (nodeId : UInt32)
    (timestamp seq minted : UInt64) :
    Message.acknowledgement sender receiver nodeId timestamp seq minted =
      (acknowledgement sender receiver nodeId timestamp seq minted).contents.compose := by
  let numbered := (acknowledgement sender receiver nodeId timestamp seq minted).contents
  let unnumbered : Contents := { numbered with seq := 0 }
  have twice : (do
        unnumbered.message.header.check
        numbered.message.header.check
        return numbered.message) =
      (do
        numbered.message.header.check
        return numbered.message : Except FrameError Message) := by
    rw [check_eq_bind, check_eq_bind, bind_assoc]
    have same : (Header.fields.dropLast.forM fun field =>
          Header.checkField field (unnumbered.message.header.value field)) =
        Header.fields.dropLast.forM fun field =>
          Header.checkField field (numbered.message.header.value field) := rfl
    rw [same]
    cases Header.fields.dropLast.forM fun field =>
      Header.checkField field (numbered.message.header.value field) <;> rfl
  change unnumbered.compose >>= (fun message => do
    (message.withSeq seq).header.check
    return message.withSeq seq) = numbered.compose
  unfold Contents.compose
  simp only [bind_assoc, pure_bind]
  exact congrArg _ (funext fun _ => congrArg _ (funext fun _ => twice))

/-- A draft is composed from its contents. -/
theorem compose_eq (draft : Draft) : draft.compose = draft.contents.compose := by
  cases draft with
  | acknowledgement => exact acknowledgement_eq_compose ..
  | _ => rfl

/-- A message with the contents of a draft says what the draft was to say. -/
theorem conveys_of_contents_eq {draft : Draft} {message : Message}
    (same : message.contents = draft.contents) : draft.Conveys message := by
  have kind : message.header.kind = draft.contents.kind := congrArg Contents.kind same
  have payload : message.payload = draft.contents.payload := congrArg Contents.payload same
  cases draft with
  | text | authentication => exact text_eq_ok_iff.mpr payload.symm
  | acknowledgement => exact mintedTimestamp_of_digits payload
  | historyProgress =>
      have read := remaining_eq_ok_iff.mpr payload
      exact ⟨read, endsHistory_iff_of_remaining kind read⟩
  | historyEnd =>
      have read : message.remaining = .ok 0 := remaining_eq_ok_iff.mpr payload
      exact ⟨read, (endsHistory_iff_of_remaining kind read).mpr rfl⟩
  | general | probe | rosterRequest => trivial

end Draft

/-- A draft is composed exactly if its parts and all that is given for its header fit.  Its message
is then written, and the frame is read as a message with what was given, whose payload says what
the draft was to say. -/
theorem Draft.composed_and_delivered (draft : Draft) :
    ((∃ message, draft.compose = .ok message) ↔
        draft.contents.payload.length ≤ 16383 ∧ draft.contents.extension.length ≤ 63 ∧
        draft.contents.sender.toNat < 2 ^ 46 ∧ draft.contents.receiver.toNat < 2 ^ 46 ∧
        draft.contents.nodeId.toNat < 2 ^ 18 ∧ draft.contents.timestamp.toNat < 2 ^ 46 ∧
        draft.contents.seq.toNat < 2 ^ 50) ∧
      ∀ message, draft.compose = .ok message →
        ∃ frame, message.encode = .ok frame ∧ decode frame = .ok message ∧
          message.contents = draft.contents ∧ draft.Conveys message := by
  rw [← Contents.fits_iff, Draft.compose_eq]
  simp only [Contents.compose_eq_ok_iff]
  refine ⟨⟨fun ⟨_, fits, _⟩ => fits, fun fits => ⟨_, fits, rfl⟩⟩, ?_⟩
  rintro _ ⟨fits, rfl⟩
  have written : draft.contents.message.encode = .ok draft.contents.message.spelling :=
    encode_eq_ok_iff.mpr ⟨fits.wellFormed, rfl⟩
  exact ⟨_, written, decode_eq_ok_iff.mpr written, rfl, Draft.conveys_of_contents_eq rfl⟩

/-- An acknowledgement with the largest value in every field echoes the largest timestamp. -/
theorem widest_acknowledgement_delivered :
    let draft : Draft := .acknowledgement 70368744177663 70368744177663 262143 70368744177663
      1125899906842623 18446744073709551615
    ∃ message frame, draft.compose = .ok message ∧ message.encode = .ok frame ∧
      decode frame = .ok message ∧ message.header.seq = 1125899906842623 ∧
      message.mintedTimestamp = .ok 18446744073709551615 := by
  intro draft
  obtain ⟨composes, delivered⟩ := Draft.composed_and_delivered draft
  obtain ⟨message, composed⟩ := composes.mpr (by decide +kernel)
  obtain ⟨frame, written, read, held, conveyed⟩ := delivered message composed
  exact ⟨message, frame, composed, written, read, congrArg Contents.seq held, conveyed⟩

end Messenger.Message
