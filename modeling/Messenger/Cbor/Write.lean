import Messenger.Cbor.Head
import Messenger.Text.Utf8

/-!
# Writing CBOR values

Numbers, texts, lists and maps, each with the shortest head.
-/

namespace Messenger.Cbor

/-- A number that is not negative. -/
def writeNumber (n : Nat) : Octets :=
  writeHead 0 n

/-- A text. -/
def writeText (text : String) : Octets :=
  let octets := Utf8.encode text
  writeHead 3 octets.length ++ octets

/-- A list of written values. -/
def writeList (values : List Octets) : Octets :=
  writeHead 4 values.length ++ values.flatten

/-- A map from names to written values. -/
def writeRecord (entries : List (String × Octets)) : Octets :=
  writeHead 5 entries.length ++ entries.flatMap fun entry => writeText entry.1 ++ entry.2

end Messenger.Cbor
