/-!
# Octet strings

Frames, payloads and stored values are finite lists of octets.  This module
writes numbers as big-endian octets and octets as hexadecimal text, and reads
both back.
-/

namespace Messenger

/-- A finite string of octets. -/
abbrev Octets := List UInt8

namespace Octets

/-- The `width` octets of `n`, most significant first; higher digits are dropped. -/
def bigEndian : Nat → Nat → Octets
  | 0, _ => []
  | width + 1, n => bigEndian width (n / 256) ++ [UInt8.ofNat (n % 256)]

/-- The number that octets denote, most significant first. -/
def number (octets : Octets) : Nat :=
  octets.foldl (fun total octet => total * 256 + octet.toNat) 0

/-- The lowercase hexadecimal digit of a number below 16. -/
def hexDigit (n : Nat) : Char :=
  Char.ofNat (if n < 10 then 48 + n else 87 + n)

/-- Two lowercase hexadecimal digits per octet. -/
def hexDigits (octets : Octets) : List Char :=
  octets.flatMap fun octet => [hexDigit (octet.toNat / 16), hexDigit (octet.toNat % 16)]

/-- Lowercase hexadecimal text. -/
def hex (octets : Octets) : String :=
  String.ofList (hexDigits octets)

/-- The value of a hexadecimal digit of either case. -/
def hexValue? (c : Char) : Option Nat :=
  let n := c.toNat
  if 48 ≤ n ∧ n ≤ 57 then some (n - 48)
  else if 97 ≤ n ∧ n ≤ 102 then some (n - 87)
  else if 65 ≤ n ∧ n ≤ 70 then some (n - 55)
  else none

/-- The octets that pairs of hexadecimal digits spell. -/
def ofHexDigits? : List Char → Option Octets
  | [] => some []
  | [_] => none
  | first :: second :: rest => do
      let octet := (← hexValue? first) * 16 + (← hexValue? second)
      return UInt8.ofNat octet :: (← ofHexDigits? rest)

/-- The octets that a hexadecimal text spells. -/
def ofHex? (text : String) : Option Octets :=
  ofHexDigits? text.toList

@[simp]
theorem length_bigEndian (width n : Nat) : (bigEndian width n).length = width := by
  induction width generalizing n with
  | zero => rfl
  | succ width ih => simp [bigEndian, ih]

theorem number_append_singleton (octets : Octets) (octet : UInt8) :
    number (octets ++ [octet]) = number octets * 256 + octet.toNat := by
  simp [number, List.foldl_append]

/-- Reading the written octets gives the number back, modulo the width. -/
theorem number_bigEndian (width n : Nat) :
    number (bigEndian width n) = n % (1 <<< (8 * width)) := by
  induction width generalizing n with
  | zero => simp [bigEndian, number, Nat.mod_one]
  | succ width ih =>
      have wider : 1 <<< (8 * (width + 1)) = 256 * 1 <<< (8 * width) := by
        rw [Nat.shiftLeft_eq, Nat.shiftLeft_eq, Nat.mul_succ, Nat.pow_add]
        omega
      rw [bigEndian, number_append_singleton, ih, wider]
      have octetValue : (UInt8.ofNat (n % 256)).toNat = n % 256 := by
        simp [UInt8.toNat_ofNat']
      rw [octetValue, Nat.mod_mul, Nat.mul_comm, Nat.add_comm]

theorem hexValue?_hexDigit : ∀ n < 16, hexValue? (hexDigit n) = some n := by
  decide

/-- Octets are read back from their digits. -/
theorem ofHexDigits?_hexDigits (octets : Octets) :
    ofHexDigits? (hexDigits octets) = some octets := by
  induction octets with
  | nil => rfl
  | cons octet rest ih =>
      have bound := octet.toNat_lt
      have upper := hexValue?_hexDigit (octet.toNat / 16) (by omega)
      have lower := hexValue?_hexDigit (octet.toNat % 16) (by omega)
      have whole : octet.toNat / 16 * 16 + octet.toNat % 16 = octet.toNat := by omega
      rw [hexDigits] at ih
      simp only [hexDigits, List.flatMap_cons, List.cons_append, List.nil_append, ofHexDigits?,
        upper, lower, ih, Option.bind_eq_bind, Option.bind_some, whole, UInt8.ofNat_toNat]
      rfl

end Octets

end Messenger
