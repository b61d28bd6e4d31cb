import Messenger.Octets

/-!
# Heads of CBOR items

Every CBOR item begins with a head: a major type in the upper three bits of an
octet and an argument in the lower five bits or in the octets that follow.
Writing picks the shortest form of an argument; reading takes any form.
-/

namespace Messenger.Cbor

/-- What the head of an item says. -/
inductive Head where
  | positive (n : Nat)
  | negative (n : Nat)
  /-- A byte string; no length means that chunks follow. -/
  | bytes (length : Option Nat)
  /-- A text string; no length means that chunks follow. -/
  | text (length : Option Nat)
  /-- An array; no length means that a stop ends it. -/
  | array (length : Option Nat)
  /-- A map; no length means that a stop ends it. -/
  | map (length : Option Nat)
  | tag (n : Nat)
  | simple (n : Nat)
  | float
  /-- The end of an item without a length. -/
  | stop
deriving DecidableEq, Repr

/-- A head in its shortest form. -/
def writeHead (major argument : Nat) : Octets :=
  if argument < 24 then [UInt8.ofNat (major * 32 + argument)]
  else if argument < UInt8.size then
    UInt8.ofNat (major * 32 + 24) :: Octets.bigEndian 1 argument
  else if argument < UInt16.size then
    UInt8.ofNat (major * 32 + 25) :: Octets.bigEndian 2 argument
  else if argument < UInt32.size then
    UInt8.ofNat (major * 32 + 26) :: Octets.bigEndian 4 argument
  else UInt8.ofNat (major * 32 + 27) :: Octets.bigEndian 8 argument

/-- The first `count` octets and the rest, if there are so many. -/
def split? (count : Nat) (octets : Octets) : Option (Octets × Octets) :=
  if count ≤ octets.length then some (octets.take count, octets.drop count) else none

/-- The number in the first `count` octets, and the rest. -/
def readNumber (count : Nat) (octets : Octets) : Option (Nat × Octets) :=
  (split? count octets).map fun (digits, rest) => (Octets.number digits, rest)

/-- The argument that the low bits announce, none for the indefinite form, and the rest. -/
def readArgument (low : Nat) (octets : Octets) : Option (Option Nat × Octets) :=
  let definite (count : Nat) := (readNumber count octets).map fun (n, rest) => (some n, rest)
  if low < 24 then some (some low, octets)
  else if low = 24 then definite 1
  else if low = 25 then definite 2
  else if low = 26 then definite 4
  else if low = 27 then definite 8
  else if low = 31 then some (none, octets)
  else none

/-- What a major type and an argument mean together. -/
def ofArgument (major low : Nat) (argument : Option Nat) : Option Head :=
  match major, argument with
  | 0, some n => some (.positive n)
  | 1, some n => some (.negative n)
  | 2, length => some (.bytes length)
  | 3, length => some (.text length)
  | 4, length => some (.array length)
  | 5, length => some (.map length)
  | 6, some n => some (.tag n)
  | 7, none => some .stop
  | 7, some n => some (if low ≤ 24 then .simple n else .float)
  | _, _ => none

/-- Read a head. -/
def readHead : Octets → Option (Head × Octets)
  | [] => none
  | octet :: rest => do
      let (argument, rest) ← readArgument (octet.toNat % 32) rest
      let head ← ofArgument (octet.toNat / 32) (octet.toNat % 32) argument
      return (head, rest)

end Messenger.Cbor
