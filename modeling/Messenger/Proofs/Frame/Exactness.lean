import Messenger.Message.Basic
import Messenger.Proofs.Frame.Words

/-!
# Frames and messages

Writing and reading frames are inverse to each other on exactly the well-formed
messages.  Frames are therefore prefix-free, and no field of a header is cut.
-/

namespace Messenger

theorem Except.bind_eq_ok_iff {ε α β : Type} {first : Except ε α} {next : α → Except ε β}
    {result : β} :
    (first >>= next) = .ok result ↔ ∃ value, first = .ok value ∧ next value = .ok result := by
  cases first with
  | error cause => simp [bind, Except.bind]
  | ok value => simp [bind, Except.bind]

/-- Reading the written items gives the items back if each is read back. -/
theorem Except.mapM_map_eq_ok {ε α β : Type} {read : β → Except ε α} {write : α → β}
    {items : List α} (each : ∀ item ∈ items, read (write item) = .ok item) :
    (items.map write).mapM read = .ok items := by
  induction items with
  | nil => rfl
  | cons item rest ih =>
      rw [List.map_cons, List.mapM_cons, each item List.mem_cons_self,
        ih fun other member => each other (List.mem_cons_of_mem item member)]
      rfl

namespace Header

/-- Every field is within the width that a header gives it. -/
def Fits (header : Header) : Prop :=
  ∀ field, header.value field < field.capacity

/-- The widths that can be exceeded: a kind always fits. -/
theorem fits_iff {header : Header} :
    header.Fits ↔
      header.version.toNat < 1 <<< 18 ∧ header.sender.toNat < 1 <<< 46 ∧
      header.nodeId.toNat < 1 <<< 18 ∧ header.receiver.toNat < 1 <<< 46 ∧
      header.extensionLength.toNat < 1 <<< 6 ∧ header.timestamp.toNat < 1 <<< 46 ∧
      header.payloadLength.toNat < 1 <<< 14 ∧ header.seq.toNat < 1 <<< 50 := by
  constructor
  · intro fits
    exact ⟨fits .version, fits .sender, fits .nodeId, fits .receiver, fits .extensionLength,
      fits .timestamp, fits .payloadLength, fits .seq⟩
  · rintro ⟨version, sender, nodeId, receiver, extensionLength, timestamp, payloadLength, seq⟩
      field
    cases field with
    | kind => exact header.kind.code_lt
    | _ => assumption

instance (header : Header) : Decidable header.Fits :=
  decidable_of_iff _ fits_iff.symm

theorem mem_fields (field : HeaderField) : field ∈ fields := by
  cases field <;> decide

theorem checkField_eq_ok_iff {field : HeaderField} {value : Nat} :
    checkField field value = .ok () ↔ value < field.capacity := by
  unfold checkField
  split <;> simp_all

/-- Fields are checked up to the first one whose value does not fit. -/
theorem forM_checkField_eq (value : HeaderField → Nat) (checked : List HeaderField) :
    (forM checked fun field => checkField field (value field)) =
      match checked.find? fun field => field.capacity ≤ value field with
      | none => .ok ()
      | some field => .error (.fieldOverflow field (value field)) := by
  induction checked with
  | nil => rfl
  | cons field rest ih =>
      rw [List.forM_cons, ih]
      by_cases fits : value field < field.capacity
      · rw [checkField_eq_ok_iff.mpr fits, List.find?_cons_of_neg (by simpa using fits)]
        rfl
      · rw [List.find?_cons_of_pos (by simpa using fits), checkField, if_neg fits]
        rfl

/-- No value is found too large exactly if each value fits its field. -/
theorem find?_eq_none_iff {value : HeaderField → Nat} {checked : List HeaderField} :
    (checked.find? fun field => field.capacity ≤ value field) = none ↔
      ∀ field ∈ checked, value field < field.capacity := by
  simp only [List.find?_eq_none, decide_eq_true_eq, Nat.not_le]

/-- The checks of fields pass together exactly if each of them passes. -/
theorem forM_checkField_eq_ok_iff {value : HeaderField → Nat} {checked : List HeaderField} :
    (forM checked fun field => checkField field (value field)) = .ok () ↔
      ∀ field ∈ checked, value field < field.capacity := by
  rw [forM_checkField_eq, ← find?_eq_none_iff]
  cases checked.find? fun field => field.capacity ≤ value field with
  | none => exact iff_of_true rfl rfl
  | some field => exact iff_of_false nofun nofun

theorem check_eq_ok_iff {header : Header} : header.check = .ok () ↔ header.Fits := by
  rw [check, List.forM_eq_forM, forM_checkField_eq_ok_iff]
  exact ⟨fun each field => each field (mem_fields field), fun each field _ => each field⟩

/-- A header is written exactly if its fields fit, as its four words. -/
theorem encode_eq_ok_iff {header : Header} {octets : Octets} :
    header.encode = .ok octets ↔
      header.Fits ∧ header.words.flatMap (Octets.bigEndian 8) = octets := by
  rw [encode, Except.bind_eq_ok_iff, ← check_eq_ok_iff]
  constructor
  · rintro ⟨_, checked, written⟩
    exact ⟨checked, Except.ok.inj written⟩
  · rintro ⟨checked, rfl⟩
    exact ⟨(), checked, rfl⟩

/-- The kind and the extension length are packed first, and the timestamp below them. -/
theorem third_word (kind extension timestamp : Nat) :
    kind <<< 52 + extension <<< 46 + timestamp =
      (kind <<< 6 + extension) <<< 46 + timestamp := by
  have upper : kind <<< 52 = kind <<< 6 <<< 46 := Nat.shiftLeft_add kind 6 46
  rw [upper, Nat.shiftLeft_eq _ 46, Nat.shiftLeft_eq _ 46, Nat.shiftLeft_eq _ 46, Nat.add_mul]

/-- The words of a header whose fields fit have 64 bits. -/
theorem words_lt {header : Header} (fits : header.Fits) :
    ∀ word ∈ header.words, word < 1 <<< 64 := by
  obtain ⟨version, sender, nodeId, receiver, extensionLength, timestamp, payloadLength, seq⟩ :=
    fits_iff.mp fits
  have kind : header.kind.code < 1 <<< 12 := header.kind.code_lt
  intro word member
  simp only [words, List.mem_cons, List.not_mem_nil, or_false] at member
  rcases member with rfl | rfl | rfl | rfl
  · exact packed_lt version sender
  · exact packed_lt nodeId receiver
  · rw [third_word]
    exact packed_lt (packed_lt kind extensionLength) timestamp
  · exact packed_lt payloadLength seq

theorem length_flatMap_words (header : Header) :
    (header.words.flatMap (Octets.bigEndian 8)).length = headerLength := by
  simp [words, headerLength]

/-- The words are read back from a frame that begins with them. -/
theorem words_eq_map_wordAt {header : Header} (fits : header.Fits) (rest : Octets) :
    header.words =
      (List.range 4).map (wordAt (header.words.flatMap (Octets.bigEndian 8) ++ rest)) := by
  apply List.ext_getElem
  · simp [words]
  · intro index inWords inRange
    rw [List.getElem_map, List.getElem_range]
    exact (wordAt_flatMap_append (words_lt fits) rest (List.getElem?_eq_getElem inWords)).symm

/-- Octets that begin with the words of a header whose fields fit are read as this header. -/
theorem decode_of_words_eq {octets : Octets} {header : Header}
    (enough : headerLength ≤ octets.length) (fits : header.Fits)
    (spelled : header.words = (List.range 4).map (wordAt octets)) :
    decode octets = .ok header := by
  obtain ⟨-, sender, -, receiver, extensionLength, timestamp, -, seq⟩ := fits_iff.mp fits
  have each : header.words =
      [wordAt octets 0, wordAt octets 1, wordAt octets 2, wordAt octets 3] := spelled
  simp only [words, third_word, List.cons.injEq, and_true] at each
  obtain ⟨first, second, third, fourth⟩ := each
  have upper : wordAt octets 2 >>> 46 =
      header.kind.code <<< 6 + header.extensionLength.toNat := by
    rw [← third, shiftRight_packed timestamp]
  have code : wordAt octets 2 >>> 52 = header.kind.code := by
    rw [Nat.shiftRight_add _ 46 6, upper, shiftRight_packed extensionLength]
  unfold decode
  rw [if_neg (Nat.not_lt.mpr enough)]
  simp only [code, Kind.ofCode?_code]
  rw [upper, ← first, ← second, ← third, ← fourth, shiftRight_packed sender, mod_packed sender,
    shiftRight_packed receiver, mod_packed receiver, mod_packed extensionLength,
    mod_packed timestamp, shiftRight_packed seq, mod_packed seq]
  simp only [UInt64.ofNat_toNat, UInt32.ofNat_toNat, UInt16.ofNat_toNat, UInt8.ofNat_toNat]

/-- Octets that are read as a header begin with its words, and its fields fit. -/
theorem of_decode_eq_ok {octets : Octets} {header : Header}
    (decoded : decode octets = .ok header) :
    headerLength ≤ octets.length ∧ header.Fits ∧
      header.words = (List.range 4).map (wordAt octets) := by
  unfold decode at decoded
  split at decoded
  · cases decoded
  · next enough =>
      dsimp only at decoded
      split at decoded
      · cases decoded
      · next kind found =>
          cases decoded
          -- Each part of a word is narrower than the machine word that holds it.
          have low := fun index bits => mod_lt (wordAt octets index) bits
          have version : wordAt octets 0 >>> 46 < 1 <<< 18 := shiftRight_lt (wordAt_lt octets 0)
          have nodeId : wordAt octets 1 >>> 46 < 1 <<< 18 := shiftRight_lt (wordAt_lt octets 1)
          have payloadLength : wordAt octets 3 >>> 50 < 1 <<< 14 :=
            shiftRight_lt (wordAt_lt octets 3)
          have extensionLength := mod_lt (wordAt octets 2 >>> 46) 6
          have versionEq := UInt32.toNat_ofNat_of_lt' (Nat.lt_trans version (by decide))
          have senderEq := UInt64.toNat_ofNat_of_lt' (Nat.lt_trans (low 0 46) (by decide))
          have nodeIdEq := UInt32.toNat_ofNat_of_lt' (Nat.lt_trans nodeId (by decide))
          have receiverEq := UInt64.toNat_ofNat_of_lt' (Nat.lt_trans (low 1 46) (by decide))
          have extensionEq := UInt8.toNat_ofNat_of_lt' (Nat.lt_trans extensionLength (by decide))
          have timestampEq := UInt64.toNat_ofNat_of_lt' (Nat.lt_trans (low 2 46) (by decide))
          have payloadEq := UInt16.toNat_ofNat_of_lt' (Nat.lt_trans payloadLength (by decide))
          have seqEq := UInt64.toNat_ofNat_of_lt' (Nat.lt_trans (low 3 50) (by decide))
          refine ⟨Nat.not_lt.mp enough, fits_iff.mpr ?_, ?_⟩
          · rw [versionEq, senderEq, nodeIdEq, receiverEq, extensionEq, timestampEq, payloadEq,
              seqEq]
            exact ⟨version, low 0 46, nodeId, low 1 46, extensionLength, low 2 46, payloadLength,
              low 3 50⟩
          · have code := Kind.ofCode?_eq_some_iff.mp found
            simp only [words, third_word]
            rw [versionEq, senderEq, nodeIdEq, receiverEq, extensionEq, timestampEq, payloadEq,
              seqEq, ← code, Nat.shiftRight_add _ 46 6]
            simp only [packed_eq]
            rfl

end Header

namespace Message

/-- The declared lengths are those of the parts, and the header's fields fit. -/
structure WellFormed (message : Message) : Prop where
  payloadLength_eq : message.header.payloadLength.toNat = message.payload.length
  extensionLength_eq : message.header.extensionLength.toNat = message.extension.length
  fits : message.header.Fits

instance (message : Message) : Decidable message.WellFormed :=
  decidable_of_iff
    (message.header.payloadLength.toNat = message.payload.length ∧
      message.header.extensionLength.toNat = message.extension.length ∧ message.header.Fits)
    ⟨fun ⟨payload, extension, fits⟩ => ⟨payload, extension, fits⟩,
      fun ⟨payload, extension, fits⟩ => ⟨payload, extension, fits⟩⟩

/-- The number of a well-formed message has 50 bits. -/
theorem WellFormed.seq_lt {message : Message} (wellFormed : message.WellFormed) :
    message.header.seq.toNat < 1 <<< 50 :=
  wellFormed.fits .seq

/-- The octets of the header, the payload and the extension in this order. -/
def spelling (message : Message) : Octets :=
  message.header.words.flatMap (Octets.bigEndian 8) ++ message.payload ++ message.extension

theorem checkLength_eq_ok_iff {part : Part} {declared actual : Nat} :
    checkLength part declared actual = .ok () ↔ declared = actual := by
  unfold checkLength
  split
  · next equal => exact iff_of_true rfl equal.symm
  · next different => exact iff_of_false (by simp) (Ne.symm different)

/-- A message is written exactly if it is well-formed, as its spelling. -/
theorem encode_eq_ok_iff {message : Message} {frame : Octets} :
    message.encode = .ok frame ↔ message.WellFormed ∧ message.spelling = frame := by
  rw [encode, Except.bind_eq_ok_iff]
  simp only [Except.bind_eq_ok_iff, Header.encode_eq_ok_iff]
  constructor
  · rintro ⟨_, payload, _, extension, octets, ⟨fits, rfl⟩, written⟩
    exact ⟨⟨checkLength_eq_ok_iff.mp payload, checkLength_eq_ok_iff.mp extension, fits⟩,
      Except.ok.inj written⟩
  · rintro ⟨⟨payload, extension, fits⟩, rfl⟩
    exact ⟨(), checkLength_eq_ok_iff.mpr payload, (), checkLength_eq_ok_iff.mpr extension, _,
      ⟨fits, rfl⟩, rfl⟩

theorem length_spelling (message : Message) :
    message.spelling.length =
      headerLength + message.payload.length + message.extension.length := by
  rw [spelling, List.length_append, List.length_append, Header.length_flatMap_words]

theorem length_spelling_of_wellFormed {message : Message} (wellFormed : message.WellFormed) :
    message.spelling.length = message.header.frameLength := by
  rw [length_spelling, Header.frameLength, wellFormed.payloadLength_eq,
    wellFormed.extensionLength_eq]

/-- Whatever follows the spelling of a well-formed message, its header is read back. -/
theorem headerDecode_spelling_append {message : Message} (wellFormed : message.WellFormed)
    (rest : Octets) : Header.decode (message.spelling ++ rest) = .ok message.header := by
  apply Header.decode_of_words_eq _ wellFormed.fits
  · rw [spelling, List.append_assoc, List.append_assoc]
    exact Header.words_eq_map_wordAt wellFormed.fits _
  · rw [List.length_append, length_spelling]
    omega

/-- A well-formed message is read back from its spelling. -/
theorem decode_spelling {message : Message} (wellFormed : message.WellFormed) :
    decode message.spelling = .ok message := by
  have whole := length_spelling_of_wellFormed wellFormed
  have header := headerDecode_spelling_append wellFormed []
  rw [List.append_nil] at header
  have parts : message.spelling.drop headerLength = message.payload ++ message.extension := by
    rw [spelling, List.append_assoc, List.drop_left' (Header.length_flatMap_words message.header)]
  unfold decode
  rw [header]
  dsimp only
  rw [if_neg (by omega), if_neg (by omega), parts, wellFormed.payloadLength_eq,
    List.take_left' rfl, List.drop_left' rfl]

/-- What a frame is read as is well-formed, and the frame is its spelling. -/
theorem of_decode_eq_ok {frame : Octets} {message : Message}
    (decoded : decode frame = .ok message) : message.WellFormed ∧ message.spelling = frame := by
  unfold decode at decoded
  split at decoded
  · cases decoded
  · next header headerDecoded =>
      obtain ⟨enough, fits, words⟩ := Header.of_decode_eq_ok headerDecoded
      dsimp only at decoded
      split at decoded
      · cases decoded
      · next notShort =>
          split at decoded
          · cases decoded
          · next notLong =>
              cases decoded
              have whole : frame.length = header.frameLength := by omega
              unfold Header.frameLength at whole
              refine ⟨⟨?_, ?_, fits⟩, ?_⟩
              · simp only [List.length_take, List.length_drop]
                omega
              · simp only [List.length_drop]
                omega
              · have spelled := Header.flatMap_wordAt 4 enough
                rw [spelling, words, spelled, List.append_assoc, List.take_append_drop]
                exact List.take_append_drop headerLength frame

/-- A frame is read exactly if it is what the message read is written as. -/
theorem decode_eq_ok_iff {frame : Octets} {message : Message} :
    decode frame = .ok message ↔ message.encode = .ok frame := by
  rw [encode_eq_ok_iff]
  constructor
  · exact of_decode_eq_ok
  · rintro ⟨wellFormed, rfl⟩
    exact decode_spelling wellFormed

/-- A frame that begins with a frame is this frame. -/
theorem frame_eq_of_prefix {frame longer : Octets} {message other : Message}
    (encoded : message.encode = .ok frame) (otherEncoded : other.encode = .ok longer)
    (begins : frame <+: longer) : frame = longer := by
  obtain ⟨wellFormed, rfl⟩ := encode_eq_ok_iff.mp encoded
  obtain ⟨otherWellFormed, rfl⟩ := encode_eq_ok_iff.mp otherEncoded
  obtain ⟨rest, longerEq⟩ := begins
  have header := headerDecode_spelling_append wellFormed rest
  have otherHeader := headerDecode_spelling_append otherWellFormed []
  rw [longerEq] at header
  rw [List.append_nil, header] at otherHeader
  have sameHeader : message.header = other.header := Except.ok.inj otherHeader
  have sameLength : message.spelling.length = other.spelling.length := by
    rw [length_spelling_of_wellFormed wellFormed, length_spelling_of_wellFormed otherWellFormed,
      sameHeader]
  exact List.IsPrefix.eq_of_length ⟨rest, longerEq⟩ sameLength

/-- Writing and reading are inverse to each other on exactly the well-formed messages: these
are written, a frame is read exactly if it is written for the message read, no frame is a
proper prefix of another, and the words of a header stand in its frame uncut. -/
theorem encode_decode_exact :
    (∀ message : Message, (∃ frame, message.encode = .ok frame) ↔ message.WellFormed) ∧
      (∀ frame message, decode frame = .ok message ↔ message.encode = .ok frame) ∧
      (∀ frame longer : Octets, ∀ message other : Message, decode frame = .ok message →
        decode longer = .ok other → frame <+: longer → frame = longer) ∧
      ∀ (message : Message) frame, message.encode = .ok frame →
        message.header.words = (List.range 4).map (Header.wordAt frame) := by
  refine ⟨?_, fun frame message => decode_eq_ok_iff, ?_, ?_⟩
  · intro message
    simp only [encode_eq_ok_iff, exists_and_left, exists_eq', and_true]
  · intro frame longer message other decoded otherDecoded
    exact frame_eq_of_prefix (decode_eq_ok_iff.mp decoded) (decode_eq_ok_iff.mp otherDecoded)
  · intro message frame encoded
    obtain ⟨wellFormed, rfl⟩ := encode_eq_ok_iff.mp encoded
    rw [spelling, List.append_assoc]
    exact Header.words_eq_map_wordAt wellFormed.fits _

end Message

end Messenger
