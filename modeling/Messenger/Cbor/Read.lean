import Messenger.Cbor.Head
import Messenger.Text.Utf8

/-!
# Reading CBOR values

Readers take octets and give a value with the octets after it.  Tags in front
of a value are skipped, except that the two tags for large integers give their
value.  Strings may come in chunks, a list of octets may stand for a list of
small numbers, and what follows a complete value is never looked at.
-/

namespace Messenger.Cbor

/-- A reader of values. -/
abbrev Reader (α : Type) := Octets → Option (α × Octets)

/-- The greatest length of a name. -/
def nameLimit : Nat := 4096

/-- How deep values may be nested. -/
def depthLimit : Nat := 256

/-- The two sorts of strings. -/
inductive StringSort where
  | bytes
  | text
deriving DecidableEq, Repr

/-- The length that a head of the given sort announces. -/
def stringLength? (sort : StringSort) (head : Head) : Option (Option Nat) :=
  match sort, head with
  | .bytes, .bytes length => some length
  | .text, .text length => some length
  | _, _ => none

/-- The chunks of strings without a length, `nested` of which are still open.
Each chunk takes an octet, so `fuel` octets are enough. -/
def readChunks (sort : StringSort) : Nat → Nat → Reader (List Octets)
  | _, 0, octets => some ([], octets)
  | 0, _ + 1, _ => none
  | fuel + 1, nested + 1, octets =>
      match readHead octets with
      | none => none
      | some (.stop, rest) => readChunks sort fuel nested rest
      | some (head, rest) =>
          match stringLength? sort head with
          | none => none
          | some none => readChunks sort fuel (nested + 2) rest
          | some (some length) => do
              let (chunk, rest) ← split? length rest
              let (chunks, rest) ← readChunks sort fuel (nested + 1) rest
              return (chunk :: chunks, rest)

/-- The chunks of a string whose length the head gave: a string with a length is
one chunk. -/
def readString (sort : StringSort) (length : Option Nat) : Reader (List Octets) := fun octets =>
  match length with
  | some length => do
      let (chunk, rest) ← split? length octets
      return ([chunk], rest)
  | none => readChunks sort octets.length 1 octets

/-- The text of chunks, each of which is text. -/
def textOfChunks : List Octets → Option String
  | [] => some ""
  | chunk :: chunks =>
      match Utf8.decode chunk with
      | .error _ => none
      | .ok text => (textOfChunks chunks).map (text ++ ·)

/-- The first head that is not a tag.  Each tag takes an octet. -/
def untaggedWithin : Nat → Reader Head
  | 0, _ => none
  | fuel + 1, octets =>
      match readHead octets with
      | some (.tag _, rest) => untaggedWithin fuel rest
      | other => other

/-- The first head that is not a tag. -/
def untagged : Reader Head := fun octets =>
  untaggedWithin octets.length octets

/-- The number in a byte string of at most sixteen octets after its leading zeros. -/
def readLarge : Reader Nat := fun octets =>
  match readHead octets with
  | some (.bytes length, rest) => do
      let (chunks, rest) ← readString .bytes length rest
      let digits := chunks.flatten.dropWhile (· = 0)
      if digits.length ≤ 16 then some (Octets.number digits, rest) else none
  | _ => none

/-- The first integer after any tags: whether it is negative, and its argument. -/
def integerWithin : Nat → Reader (Bool × Nat)
  | 0, _ => none
  | fuel + 1, octets =>
      match readHead octets with
      | some (.positive n, rest) => some ((false, n), rest)
      | some (.negative n, rest) => some ((true, n), rest)
      | some (.tag 2, rest) => (readLarge rest).map fun (n, rest) => ((false, n), rest)
      | some (.tag 3, rest) => (readLarge rest).map fun (n, rest) => ((true, n), rest)
      | some (.tag _, rest) => integerWithin fuel rest
      | _ => none

/-- A number that is not negative and below a bound. -/
def readBelow (bound : Nat) : Reader Nat := fun octets =>
  match integerWithin octets.length octets with
  | some ((false, n), rest) => if n < bound then some (n, rest) else none
  | _ => none

/-- A word. -/
def readWord : Reader UInt64 := fun octets =>
  (readBelow UInt64.size octets).map fun (n, rest) => (UInt64.ofNat n, rest)

/-- A number of 32 bits. -/
def readHalf : Reader UInt32 := fun octets =>
  (readBelow UInt32.size octets).map fun (n, rest) => (UInt32.ofNat n, rest)

/-- A text. -/
def readText : Reader String := fun octets =>
  match untagged octets with
  | some (.text length, rest) => do
      let (chunks, rest) ← readString .text length rest
      let text ← textOfChunks chunks
      return (text, rest)
  | _ => none

/-- The octets of a name: a short string with a length, and text if it says so. -/
def readName : Reader Octets := fun octets =>
  match untagged octets with
  | some (.text (some length), rest) =>
      if length ≤ nameLimit then do
        let (name, rest) ← split? length rest
        match Utf8.decode name with
        | .ok _ => some (name, rest)
        | .error _ => none
      else none
  | some (.bytes (some length), rest) =>
      if length ≤ nameLimit then split? length rest else none
  | _ => none

/-- The octets of a choice without content: its name, or a map of one entry whose
key is the name.  The entry's value is left to be read. -/
def readChoice : Reader Octets := fun octets =>
  match untagged octets with
  | some (.map (some 1), rest) => readName rest
  | some (.text _, _) => readName octets
  | _ => none

/-- Skip `count` times. -/
def skipTimes (skip : Octets → Option Octets) : Nat → Octets → Option Octets
  | 0, octets => some octets
  | count + 1, octets => (skip octets).bind (skipTimes skip count)

/-- Skip until a stop.  Each value takes an octet. -/
def skipUntilStop (skip : Octets → Option Octets) : Nat → Octets → Option Octets
  | 0, _ => none
  | fuel + 1, octets =>
      match readHead octets with
      | some (.stop, rest) => some rest
      | _ => (skip octets).bind (skipUntilStop skip fuel)

/-- Skip the given number of values, or values up to a stop. -/
def skipMany (skip : Octets → Option Octets) (length : Option Nat) (octets : Octets) :
    Option Octets :=
  match length with
  | some count => skipTimes skip count octets
  | none => skipUntilStop skip octets.length octets

/-- The length of the byte string that makes a tag the tag of an integer: a string of
at most sixteen octets after one of the two tags for large integers. -/
def integerLength? (tag : Nat) (octets : Octets) : Option (Nat × Octets) :=
  match readHead octets with
  | some (.bytes (some length), rest) =>
      if (tag = 2 ∨ tag = 3) ∧ length ≤ 16 then some (length, rest) else none
  | _ => none

/-- Skip an integer in a byte string.  A negative one is refused below `-(1 <<< 127)`. -/
def skipInteger (tag length : Nat) (octets : Octets) : Option Octets := do
  let (digits, rest) ← split? length octets
  if tag = 3 ∧ 1 <<< 127 ≤ Octets.number digits then none else some rest

/-- Skip any value nested no deeper than the limit.  A tag is one more level, unless
it makes an integer.  Of the simple values only truth values, null and undefined are
known. -/
def skipValue : Nat → Octets → Option Octets
  | depth, octets =>
      match readHead octets with
      | some (.positive _, rest) => some rest
      | some (.negative _, rest) => some rest
      | some (.bytes length, rest) => (readString .bytes length rest).map Prod.snd
      | some (.text length, rest) => do
          let (chunks, rest) ← readString .text length rest
          let _ ← textOfChunks chunks
          return rest
      | some (.array length, rest) =>
          match depth with
          | 0 => none
          | depth + 1 => skipMany (skipValue depth) length rest
      | some (.map length, rest) =>
          match depth with
          | 0 => none
          | depth + 1 =>
              skipMany (fun octets => (skipValue depth octets).bind (skipValue depth)) length rest
      | some (.tag tag, rest) =>
          match integerLength? tag rest with
          | some (length, rest) => skipInteger tag length rest
          | none =>
              match depth with
              | 0 => none
              | depth + 1 => skipValue depth rest
      | some (.float, rest) => some rest
      | some (.simple n, rest) => if 20 ≤ n ∧ n ≤ 23 then some rest else none
      | _ => none

/-- Read `count` values. -/
def readTimes {α : Type} (read : Reader α) : Nat → Reader (List α)
  | 0, octets => some ([], octets)
  | count + 1, octets => do
      let (value, rest) ← read octets
      let (values, rest) ← readTimes read count rest
      return (value :: values, rest)

/-- Read values until a stop.  Each value takes an octet. -/
def readUntilStop {α : Type} (read : Reader α) : Nat → Reader (List α)
  | 0, _ => none
  | fuel + 1, octets =>
      match readHead octets with
      | some (.stop, rest) => some ([], rest)
      | _ => do
          let (value, rest) ← read octets
          let (values, rest) ← readUntilStop read fuel rest
          return (value :: values, rest)

/-- A list of values.  A byte string is the list of its octets, for values that an
octet can be. -/
def readList {α : Type} (ofOctet : UInt8 → Option α) (read : Reader α) : Reader (List α) :=
  fun octets =>
    match untagged octets with
    | some (.array (some count), rest) => readTimes read count rest
    | some (.array none, rest) => readUntilStop read rest.length rest
    | some (.bytes length, rest) => do
        let (chunks, rest) ← readString .bytes length rest
        let values ← chunks.flatten.mapM ofOctet
        return (values, rest)
    | _ => none

/-- Read the next value of a list of which `count` values are left; without a count
a stop says that none is. -/
def readNext {α : Type} (read : Reader α) (count : Option Nat) : Reader (α × Option Nat) :=
  fun octets =>
    match count with
    | some 0 => none
    | some (count + 1) => (read octets).map fun (value, rest) => ((value, some count), rest)
    | none =>
        match readHead octets with
        | some (.stop, _) => none
        | _ => (read octets).map fun (value, rest) => ((value, none), rest)

/-- Two values in a list; further values are left unread. -/
def readPair {α β : Type} (first : Reader α) (second : Reader β) : Reader (α × β) :=
  fun octets =>
    match untagged octets with
    | some (.array count, rest) => do
        let ((a, count), rest) ← readNext first count rest
        let ((b, _), rest) ← readNext second count rest
        return ((a, b), rest)
    | _ => none

/-- Read the entry whose name comes next into a record under construction. -/
def readEntry {σ : Type} (entry : Octets → σ → Reader σ) (draft : σ) : Reader σ := fun octets => do
  let (name, rest) ← readName octets
  entry name draft rest

/-- Read `count` entries into a record under construction. -/
def readEntries {σ : Type} (entry : Octets → σ → Reader σ) : Nat → σ → Reader σ
  | 0, draft, octets => some (draft, octets)
  | count + 1, draft, octets => do
      let (draft, rest) ← readEntry entry draft octets
      readEntries entry count draft rest

/-- Read entries until a stop into a record under construction.  Each entry takes
an octet. -/
def readEntriesUntilStop {σ : Type} (entry : Octets → σ → Reader σ) : Nat → σ → Reader σ
  | 0, _, _ => none
  | fuel + 1, draft, octets =>
      match readHead octets with
      | some (.stop, rest) => some (draft, rest)
      | _ => do
          let (draft, rest) ← readEntry entry draft octets
          readEntriesUntilStop entry fuel draft rest

/-- A map of named entries, read into a record from an empty one. -/
def readRecord {σ : Type} (entry : Octets → σ → Reader σ) (empty : σ) : Reader σ :=
  fun octets =>
    match untagged octets with
    | some (.map (some count), rest) => readEntries entry count empty rest
    | some (.map none, rest) => readEntriesUntilStop entry rest.length empty rest
    | _ => none

end Messenger.Cbor
