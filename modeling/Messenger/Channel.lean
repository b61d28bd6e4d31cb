import Messenger.Frame.Error
import Messenger.Text.Numeral

/-!
# Channels

A channel is the conversation between two parties.  It is named by the two
identifiers in ascending order, so both parties name it alike, and distinct
pairs name distinct channels.
-/

namespace Messenger

/-- The identifier of an account or a group. -/
abbrev AccountId := UInt64

/-- Identifiers from here on name groups. -/
def firstGroup : AccountId := 68719476736

/-- Whether an identifier names a group. -/
def isGroup (id : AccountId) : Bool :=
  firstGroup ≤ id

/-- A conversation, named by its parties. -/
structure Channel where
  low : AccountId
  high : AccountId
deriving DecidableEq, Repr, Inhabited

namespace Channel

/-- The channel of two parties, in either order. -/
def between (a b : AccountId) : Channel :=
  if a ≤ b then ⟨a, b⟩ else ⟨b, a⟩

/-- The number with the low party in its upper 64 bits and the high party below. -/
def number (channel : Channel) : Nat :=
  channel.low.toNat * UInt64.size + channel.high.toNat

/-- How many numbers a channel can have. -/
def count : Nat :=
  UInt64.size * UInt64.size

/-- The channel with a number. -/
def ofNumber? (n : Nat) : Option Channel :=
  if n < count then some ⟨UInt64.ofNat (n / UInt64.size), UInt64.ofNat (n % UInt64.size)⟩
  else none

/-- Channels are ordered by low party, then by high party. -/
def ble (a b : Channel) : Bool :=
  a.number ≤ b.number

/-- The party that is not `me`; a channel of `me` alone gives `me`. -/
def other (channel : Channel) (me : AccountId) : AccountId :=
  if channel.low = me then channel.high else channel.low

/-- Whether an identifier is one of the parties. -/
def has (channel : Channel) (id : AccountId) : Bool :=
  channel.low = id || channel.high = id

/-- The parties in decimal, joined by a hyphen. -/
def render (channel : Channel) : String :=
  toString channel.low.toNat ++ "-" ++ toString channel.high.toNat

/-- The text before and after the first hyphen. -/
def splitHyphen : List Char → Option (List Char × List Char)
  | [] => none
  | c :: rest =>
      if c = '-' then some ([], rest)
      else (splitHyphen rest).map fun (before, after) => (c :: before, after)

/-- The channel that a text names, in either order of the parties. -/
def parse (text : String) : Except FrameError Channel :=
  let parties := do
    let (first, second) ← splitHyphen text.toList
    let a ← Numeral.word? first
    let b ← Numeral.word? second
    return between a b
  match parties with
  | some channel => .ok channel
  | none => .error (.malformedPayload (.channelText text))

end Channel

end Messenger
