import Messenger.Octets

/-!
# UTF-8 text in octets

A decoder that names the first fault, and a forgiving decoder that replaces
every fault.  A fault is the longest run of octets that begins a character and
cannot be finished: either an octet that does not fit ends it, or the input
does.
-/

namespace Messenger.Utf8

/-- The octets of a text. -/
def encode (text : String) : Octets :=
  text.toList.flatMap String.utf8EncodeChar

/-- Why octets are not UTF-8. -/
inductive Fault where
  /-- The `length` octets from `index` cannot be continued by the octet that follows. -/
  | invalid (index length : Nat)
  /-- The input ends inside the character that starts at `index`. -/
  | incomplete (index : Nat)
deriving DecidableEq, Repr

/-- The fault in words. -/
def Fault.message : Fault → String
  | .invalid index length => s!"invalid utf-8 sequence of {length} bytes from index {index}"
  | .incomplete index => s!"incomplete utf-8 byte sequence from index {index}"

/-- An inclusive range of octets. -/
structure Span where
  low : UInt8
  high : UInt8
deriving DecidableEq, Repr

/-- The octets that continue a character. -/
def continuation : Span := ⟨0x80, 0xbf⟩

/-- Whether an octet lies in the range. -/
def Span.has (span : Span) (octet : UInt8) : Bool :=
  span.low ≤ octet && octet ≤ span.high

/-- What the first octet of a character says: the bits it carries and the ranges
of the octets that must follow.  The narrowed ranges exclude overlong forms,
surrogates and numbers above the last character. -/
def opening (octet : UInt8) : Option (Nat × List Span) :=
  let n := octet.toNat
  if n < 0x80 then some (n, [])
  else if n < 0xc2 then none
  else if n < 0xe0 then some (n - 0xc0, [continuation])
  else if n = 0xe0 then some (0, [⟨0xa0, 0xbf⟩, continuation])
  else if n = 0xed then some (13, [⟨0x80, 0x9f⟩, continuation])
  else if n < 0xf0 then some (n - 0xe0, [continuation, continuation])
  else if n = 0xf0 then some (0, [⟨0x90, 0xbf⟩, continuation, continuation])
  else if n < 0xf4 then some (n - 0xf0, [continuation, continuation, continuation])
  else if n = 0xf4 then some (4, [⟨0x80, 0x8f⟩, continuation, continuation])
  else none

/-- A character begun and not finished: where it started, how many octets it has,
its number so far, and the ranges still to be met. -/
structure Unfinished where
  start : Nat
  taken : Nat
  code : Nat
  next : Span
  later : List Span
deriving DecidableEq, Repr

/-- The effect of one octet on a decoder that may be inside a character. -/
inductive Step where
  /-- A character is complete. -/
  | finished (c : Char)
  /-- The character needs more octets. -/
  | unfinished (state : Unfinished)
  /-- The octet starts no character. -/
  | stray
  /-- The octet does not continue the character it follows. -/
  | broken (state : Unfinished)
deriving DecidableEq, Repr

/-- Begin a character with an octet at a position. -/
def begin (position : Nat) (octet : UInt8) : Step :=
  match opening octet with
  | none => .stray
  | some (code, []) => .finished (Char.ofNat code)
  | some (code, next :: later) => .unfinished ⟨position, 1, code, next, later⟩

/-- Continue a character with an octet. -/
def resume (state : Unfinished) (octet : UInt8) : Step :=
  if state.next.has octet then
    let code := state.code * 64 + octet.toNat % 64
    match state.later with
    | [] => .finished (Char.ofNat code)
    | next :: later => .unfinished ⟨state.start, state.taken + 1, code, next, later⟩
  else .broken state

/-- Feed one octet to a decoder that may be inside a character. -/
def feed (position : Nat) (octet : UInt8) : Option Unfinished → Step
  | none => begin position octet
  | some state => resume state octet

/-- Decode strictly from a position, possibly inside a character. -/
def decodeFrom (position : Nat) (state : Option Unfinished) : Octets → Except Fault (List Char)
  | [] =>
      match state with
      | none => .ok []
      | some open_ => .error (.incomplete open_.start)
  | octet :: rest =>
      match feed position octet state with
      | .finished c => (decodeFrom (position + 1) none rest).map (c :: ·)
      | .unfinished open_ => decodeFrom (position + 1) (some open_) rest
      | .stray => .error (.invalid position 1)
      | .broken open_ => .error (.invalid open_.start open_.taken)

/-- The text that octets spell, or the first fault. -/
def decode (octets : Octets) : Except Fault String :=
  (decodeFrom 0 none octets).map String.ofList

/-- The character that stands for a fault. -/
def replacement : Char := Char.ofNat 0xfffd

/-- Decode from a position, writing one replacement per fault. -/
def decodeLossyFrom (position : Nat) (state : Option Unfinished) : Octets → List Char
  | [] =>
      match state with
      | none => []
      | some _ => [replacement]
  | octet :: rest =>
      match feed position octet state with
      | .finished c => c :: decodeLossyFrom (position + 1) none rest
      | .unfinished open_ => decodeLossyFrom (position + 1) (some open_) rest
      | .stray => replacement :: decodeLossyFrom (position + 1) none rest
      | .broken _ =>
          match begin position octet with
          | .finished c => replacement :: c :: decodeLossyFrom (position + 1) none rest
          | .unfinished open_ => replacement :: decodeLossyFrom (position + 1) (some open_) rest
          | _ => replacement :: replacement :: decodeLossyFrom (position + 1) none rest

/-- The text that octets spell, each fault replaced by one replacement character. -/
def decodeLossy (octets : Octets) : String :=
  String.ofList (decodeLossyFrom 0 none octets)

end Messenger.Utf8
