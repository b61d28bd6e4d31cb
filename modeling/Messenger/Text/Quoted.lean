import Messenger.Text.Unprintable
import Messenger.Text.Extending

/-!
# Quoted text

Text between double quotes in which every character that would be unreadable
is escaped.  Quotation marks and backslashes are escaped by a backslash, four
controls have short names, and all else without a printed form is written as
its number in braces.
-/

namespace Messenger.Quoted

/-- A number escape: `\u`, then the hexadecimal code point in braces. -/
def numbered (c : Char) : List Char :=
  ['\\', 'u', '\x7b'] ++ Nat.toDigits 16 c.toNat ++ ['\x7d']

/-- The written form of one character. -/
def escape (c : Char) : List Char :=
  if c = '"' then ['\\', '"']
  else if c = '\\' then ['\\', '\\']
  else if c.toNat = 0 then ['\\', '0']
  else if c = '\t' then ['\\', 't']
  else if c = '\n' then ['\\', 'n']
  else if c = '\r' then ['\\', 'r']
  else if 0x20 ≤ c.toNat ∧ c.toNat < 0x7f then [c]
  else if Extending.isExtending c then numbered c
  else if Unprintable.isUnprintable c then numbered c
  else [c]

/-- The quoted form of a text. -/
def quote (text : String) : String :=
  String.ofList (['"'] ++ text.toList.flatMap escape ++ ['"'])

end Messenger.Quoted
