import Messenger.Cbor.Read
import Messenger.Cbor.Write
import Messenger.Proofs.Frame.Words
import Messenger.Proofs.Text.Encoding

/-!
# CBOR values read back

Whatever follows the written form of a value, a reader of such values takes exactly
this form and gives the value back, as long as a head can count its parts.
-/

namespace Messenger

theorem Utf8.encode_injective : Function.Injective Utf8.encode := by
  intro text other same
  have first : Utf8.decode (Utf8.encode other) = .ok text := Utf8.decode_eq_ok_iff.mpr same
  have second : Utf8.decode (Utf8.encode other) = .ok other := Utf8.decode_eq_ok_iff.mpr rfl
  exact Except.ok.inj (first.symm.trans second)

namespace Cbor

/-- Whatever follows them, octets are read as a value, and nothing after them is taken. -/
def Reads {α : Type} (read : Reader α) (octets : Octets) (value : α) : Prop :=
  ∀ rest, read (octets ++ rest) = some (value, rest)

/-! ## Heads -/

theorem split?_append (octets rest : Octets) :
    split? octets.length (octets ++ rest) = some (octets, rest) := by
  unfold split?
  rw [if_pos (by rw [List.length_append]; omega), List.take_left, List.drop_left]

theorem reads_number {width n : Nat} (fits : n < 1 <<< (8 * width)) :
    Reads (readNumber width) (Octets.bigEndian width n) n := by
  intro rest
  have parts := split?_append (Octets.bigEndian width n) rest
  rw [Octets.length_bigEndian] at parts
  simp only [readNumber, parts, Option.map_some, Octets.number_bigEndian_of_lt fits]

/-- The first octet of a head gives its major type and the low bits back. -/
theorem readHead_cons {major low : Nat} (known : major < 8) (short : low < 32) (rest : Octets) :
    readHead (UInt8.ofNat (major * 32 + low) :: rest) =
      (readArgument low rest).bind fun (argument, rest) =>
        (ofArgument major low argument).map fun head => (head, rest) := by
  have octet : (UInt8.ofNat (major * 32 + low)).toNat = major * 32 + low := by
    rw [UInt8.toNat_ofNat']
    omega
  have upper : (major * 32 + low) / 32 = major := by omega
  have lower : (major * 32 + low) % 32 = low := by omega
  simp only [readHead, octet, upper, lower, Option.bind_eq_bind, Option.map_eq_bind]
  rfl

/-- A head is read back from its shortest form. -/
theorem reads_head {major argument : Nat} {head : Head} (known : major < 8)
    (fits : argument < UInt64.size)
    (means : ∀ low, ofArgument major low (some argument) = some head) :
    Reads readHead (writeHead major argument) head := by
  intro rest
  -- One case per width of the argument: `low` says the width, the octets that follow the number.
  have wide : ∀ {low width : Nat}, low < 32 →
      (∀ octets, readArgument low octets =
        (readNumber width octets).map fun part => (some part.1, part.2)) →
      argument < 1 <<< (8 * width) →
      readHead (UInt8.ofNat (major * 32 + low) :: Octets.bigEndian width argument ++ rest) =
        some (head, rest) := by
    intro low width short announces bound
    rw [List.cons_append, readHead_cons known short, announces, reads_number bound]
    simp only [Option.map_some, Option.bind_some, means]
  unfold writeHead
  split
  · next small =>
      rw [List.singleton_append, readHead_cons known (by omega), readArgument, if_pos small]
      simp only [Option.bind_some, means, Option.map_some]
  split
  · next bound => exact wide (by decide) (fun _ => rfl) bound
  split
  · next bound => exact wide (by decide) (fun _ => rfl) bound
  split
  · next bound => exact wide (by decide) (fun _ => rfl) bound
  · exact wide (by decide) (fun _ => rfl) fits

theorem Reads.length_pos {head : Head} {octets : Octets} (reads : Reads readHead octets head)
    (rest : Octets) : 0 < (octets ++ rest).length := by
  refine List.length_pos_iff.mpr fun empty => ?_
  have impossible := reads rest
  rw [empty] at impossible
  cases impossible

/-- A head that is no tag is the first one that is no tag. -/
theorem Reads.untagged {head : Head} {octets : Octets} (reads : Reads readHead octets head)
    (plain : ∀ n, head ≠ .tag n) : Reads untagged octets head := by
  intro rest
  obtain ⟨fuel, enough⟩ := Nat.exists_eq_succ_of_ne_zero (Nat.ne_of_gt (reads.length_pos rest))
  unfold Cbor.untagged
  rw [enough, untaggedWithin, reads rest]
  split
  · next tagged =>
      cases tagged
      exact (plain _ rfl).elim
  · rfl

/-! ## Numbers and texts -/

theorem reads_below {bound n : Nat} (below : n < bound) (fits : n < UInt64.size) :
    Reads (readBelow bound) (writeNumber n) n := by
  intro rest
  have reads : Reads readHead (writeNumber n) (.positive n) :=
    reads_head (by decide) fits fun _ => rfl
  obtain ⟨fuel, enough⟩ := Nat.exists_eq_succ_of_ne_zero (Nat.ne_of_gt (reads.length_pos rest))
  unfold readBelow
  rw [enough, integerWithin, reads rest]
  exact if_pos below

theorem reads_word (word : UInt64) : Reads readWord (writeNumber word.toNat) word := by
  intro rest
  simp only [readWord, reads_below word.toNat_lt word.toNat_lt rest, Option.map_some,
    UInt64.ofNat_toNat]

theorem reads_half (half : UInt32) : Reads readHalf (writeNumber half.toNat) half := by
  intro rest
  have fits : half.toNat < UInt64.size := Nat.lt_trans half.toNat_lt (by decide)
  simp only [readHalf, reads_below half.toNat_lt fits rest, Option.map_some, UInt32.ofNat_toNat]

section Texts

variable {text : String}

theorem untagged_writeText (counted : (Utf8.encode text).length < UInt64.size) (rest : Octets) :
    untagged (writeText text ++ rest) =
      some (.text (some (Utf8.encode text).length), Utf8.encode text ++ rest) := by
  have reads : Reads readHead (writeHead 3 (Utf8.encode text).length)
      (.text (some (Utf8.encode text).length)) := reads_head (by decide) counted fun _ => rfl
  unfold writeText
  rw [List.append_assoc]
  exact reads.untagged nofun _

theorem reads_text (counted : (Utf8.encode text).length < UInt64.size) :
    Reads readText (writeText text) text := by
  intro rest
  have decoded : Utf8.decode (Utf8.encode text) = .ok text := Utf8.decode_eq_ok_iff.mpr rfl
  have whole : textOfChunks [Utf8.encode text] = some text := by
    rw [textOfChunks, decoded]
    exact congrArg some String.append_empty
  have chunk : readString .text (some (Utf8.encode text).length) (Utf8.encode text ++ rest) =
      some ([Utf8.encode text], rest) := by
    simp only [readString, split?_append, Option.bind_eq_bind, Option.bind_some, Option.pure_def]
  simp only [readText, untagged_writeText counted, chunk, whole, Option.bind_eq_bind,
    Option.bind_some, Option.pure_def]

theorem reads_name (short : (Utf8.encode text).length ≤ nameLimit) :
    Reads readName (writeText text) (Utf8.encode text) := by
  intro rest
  have decoded : Utf8.decode (Utf8.encode text) = .ok text := Utf8.decode_eq_ok_iff.mpr rfl
  simp only [readName, untagged_writeText (Nat.lt_of_le_of_lt short (by decide)), if_pos short,
    split?_append, decoded, Option.bind_eq_bind, Option.bind_some]

theorem reads_choice (short : (Utf8.encode text).length ≤ nameLimit) :
    Reads readChoice (writeText text) (Utf8.encode text) := by
  intro rest
  unfold readChoice
  rw [untagged_writeText (Nat.lt_of_le_of_lt short (by decide))]
  exact reads_name short rest

end Texts

/-! ## Lists and records -/

theorem reads_times {α : Type} {read : Reader α} {write : α → Octets} {values : List α}
    (each : ∀ value ∈ values, Reads read (write value) value) :
    Reads (readTimes read values.length) (values.map write).flatten values := by
  intro rest
  induction values with
  | nil => rfl
  | cons value values ih =>
      obtain ⟨first, others⟩ := List.forall_mem_cons.mp each
      simp only [List.map_cons, List.flatten_cons, List.append_assoc, List.length_cons, readTimes,
        first _, ih others, Option.bind_eq_bind, Option.bind_some, Option.pure_def]

/-- A list is read back from its values. -/
theorem reads_list {α : Type} {ofOctet : UInt8 → Option α} {read : Reader α}
    {write : α → Octets} {values : List α} (counted : values.length < UInt64.size)
    (each : ∀ value ∈ values, Reads read (write value) value) :
    Reads (readList ofOctet read) (writeList (values.map write)) values := by
  intro rest
  have reads : Reads readHead (writeHead 4 values.length) (.array (some values.length)) :=
    reads_head (by decide) counted fun _ => rfl
  unfold writeList readList
  rw [List.length_map, List.append_assoc, reads.untagged nofun]
  exact reads_times each rest

/-- Named values lead from one draft of a record to another. -/
inductive Fills {σ : Type} (entry : Octets → σ → Reader σ) :
    σ → List (String × Octets) → σ → Prop where
  | nil (draft : σ) : Fills entry draft [] draft
  | cons {name : String} {octets : Octets} {draft next last : σ} {rest : List (String × Octets)}
      (short : (Utf8.encode name).length ≤ nameLimit)
      (reads : Reads (entry (Utf8.encode name) draft) octets next)
      (others : Fills entry next rest last) : Fills entry draft ((name, octets) :: rest) last

section Records

variable {σ : Type} {entry : Octets → σ → Reader σ} {draft last : σ}
  {entries : List (String × Octets)}

theorem Fills.readEntries (fills : Fills entry draft entries last) :
    Reads (readEntries entry entries.length draft)
      (entries.flatMap fun entry => writeText entry.1 ++ entry.2) last := by
  intro rest
  induction fills with
  | nil draft => rfl
  | @cons name octets draft next last others short reads fills ih =>
      simp only [List.flatMap_cons, List.append_assoc, List.length_cons, Cbor.readEntries,
        readEntry, reads_name short _, reads _, ih, Option.bind_eq_bind, Option.bind_some]

/-- A record is read back from its named values. -/
theorem Fills.reads (fills : Fills entry draft entries last)
    (counted : entries.length < UInt64.size) :
    Reads (readRecord entry draft) (writeRecord entries) last := by
  intro rest
  have reads : Reads readHead (writeHead 5 entries.length) (.map (some entries.length)) :=
    reads_head (by decide) counted fun _ => rfl
  unfold writeRecord readRecord
  rw [List.append_assoc, reads.untagged nofun]
  exact fills.readEntries rest

end Records

end Cbor

end Messenger
