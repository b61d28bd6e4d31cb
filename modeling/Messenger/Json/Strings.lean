import Messenger.Json.Basic
import Messenger.Octets

/-!
# JSON strings

A string as written is read in one of three ways: as text, as octets, or not at
all.  Text admits neither controls nor surrogates without a partner.  Octets
admit both, and write a surrogate as if it were a character.  A string that is
skipped admits any surrogate but no control.
-/

namespace Messenger.Json

/-- The number that four hexadecimal digits denote. -/
def hexNumber? (a b c d : Char) : Option Nat := do
  let upper := (← Octets.hexValue? a) * 16 + (← Octets.hexValue? b)
  let lower := (← Octets.hexValue? c) * 16 + (← Octets.hexValue? d)
  return upper * 256 + lower

/-- The character that an escape letter stands for. -/
def shortEscape? (letter : Char) : Option Char :=
  match letter with
  | '"' => some '"'
  | '\\' => some '\\'
  | '/' => some '/'
  | 'b' => some (Char.ofNat 8)
  | 'f' => some (Char.ofNat 12)
  | 'n' => some '\n'
  | 'r' => some '\r'
  | 't' => some '\t'
  | _ => none

/-- The code units and characters of a string as written: an escaped number is a
unit of 16 bits, all else a character. -/
inductive Piece where
  | character (c : Char)
  | unit (n : Nat)
deriving DecidableEq, Repr

/-- Split a string as written into its pieces, unless an escape is unknown. -/
def pieces : List Char → Option (List Piece)
  | [] => some []
  | '\\' :: 'u' :: a :: b :: c :: d :: rest =>
      match hexNumber? a b c d with
      | some n => (pieces rest).map (.unit n :: ·)
      | none => none
  | '\\' :: letter :: rest =>
      match shortEscape? letter with
      | some c => (pieces rest).map (.character c :: ·)
      | none => none
  | c :: rest => (pieces rest).map (.character c :: ·)

/-- Whether a number is the first of two units of a character. -/
def isLeading (n : Nat) : Bool :=
  0xd800 ≤ n && n < 0xdc00

/-- Whether a number is the second of two units of a character. -/
def isTrailing (n : Nat) : Bool :=
  0xdc00 ≤ n && n < 0xe000

/-- The character of two units. -/
def joined (leading trailing : Nat) : Nat :=
  0x10000 + (leading - 0xd800) * 1024 + (trailing - 0xdc00)

/-- The code points of pieces, units joined where they make a pair. -/
def codePoints : List Piece → List Nat
  | [] => []
  | .character c :: rest => c.toNat :: codePoints rest
  | .unit m :: .unit n :: rest =>
      if isLeading m && isTrailing n then joined m n :: codePoints rest
      else m :: codePoints (.unit n :: rest)
  | .unit m :: rest => m :: codePoints rest

/-- Whether a string as written holds a control that is not escaped. -/
def hasControl (written : List Char) : Bool :=
  written.any fun c => c.toNat < 0x20

/-- The string as text. -/
def text? (written : List Char) : Option String := do
  if hasControl written then none
  else
    let points := codePoints (← pieces written)
    if points.any fun n => isLeading n || isTrailing n then none
    else some (String.ofList (points.map Char.ofNat))

/-- The octets of a code point in the shape of UTF-8, surrogates included. -/
def pointOctets (n : Nat) : Octets :=
  let rest (shift : Nat) := UInt8.ofNat (0x80 + n >>> (6 * shift) % 64)
  if n < 0x80 then [UInt8.ofNat n]
  else if n < 0x800 then [UInt8.ofNat (0xc0 + n >>> 6), rest 0]
  else if n < 0x10000 then [UInt8.ofNat (0xe0 + n >>> 12), rest 1, rest 0]
  else [UInt8.ofNat (0xf0 + n >>> 18), rest 2, rest 1, rest 0]

/-- The string as octets. -/
def octets? (written : List Char) : Option Octets := do
  let points := codePoints (← pieces written)
  return points.flatMap pointOctets

/-- Whether a string may be skipped. -/
def isSkippable (written : List Char) : Bool :=
  !hasControl written && (pieces written).isSome

mutual

/-- Whether a value may be skipped: every string in it may be. -/
def canSkip : Json → Bool
  | .string written => isSkippable written
  | .array items => canSkipItems items
  | .object members => canSkipMembers members
  | _ => true

/-- Whether every item may be skipped. -/
def canSkipItems : List Json → Bool
  | [] => true
  | item :: rest => canSkip item && canSkipItems rest

/-- Whether every name and value may be skipped. -/
def canSkipMembers : List (List Char × Json) → Bool
  | [] => true
  | (name, value) :: rest => isSkippable name && canSkip value && canSkipMembers rest

end

end Messenger.Json
