/-!
# Decimal numerals of words

A numeral is a nonempty run of ASCII digits, optionally after one plus sign,
whose value is a word.
-/

namespace Messenger.Numeral

/-- The value of an ASCII digit. -/
def digit? (c : Char) : Option Nat :=
  if '0' ≤ c ∧ c ≤ '9' then some (c.toNat - 48) else none

/-- The number that digits denote, read after a number already read. -/
def digits? (read : Nat) : List Char → Option Nat
  | [] => some read
  | c :: rest =>
      match digit? c with
      | none => none
      | some d => digits? (read * 10 + d) rest

/-- The number that a nonempty run of digits denotes. -/
def natural? : List Char → Option Nat
  | [] => none
  | text => digits? 0 text

/-- The word that a numeral denotes. -/
def word? (text : List Char) : Option UInt64 :=
  let unsigned := match text with
    | '+' :: rest => rest
    | other => other
  match natural? unsigned with
  | some n => if n < UInt64.size then some (UInt64.ofNat n) else none
  | none => none

end Messenger.Numeral
