import Messenger.Json.Strings
import Messenger.Text.Numeral

/-!
# Values in JSON

How numbers, texts, lists and records are read from JSON values and written as
compact text.  A record is an object with its fields under their names, or an
array with its fields in order.  An object may hold members that are no fields
of the record, and no field twice.
-/

namespace Messenger

/-- Values that have a JSON form. -/
class JsonForm (α : Type) where
  /-- The value that a JSON value stands for. -/
  ofJson : Json → Option α
  /-- The compact text of a value. -/
  toText : α → String

namespace Json

/-- A whole number below a bound, written without sign, fraction or exponent. -/
def natural? (bound : Nat) : Json → Option Nat
  | .number written => do
      let n ← Numeral.natural? written
      if n < bound then some n else none
  | _ => none

/-- A text. -/
def string? : Json → Option String
  | .string written => text? written
  | _ => none

/-- The items of an array. -/
def items? : Json → Option (List Json)
  | .array items => some items
  | _ => none

/-- The value under a name, if any; none at all if the name comes twice. -/
def member? (name : String) (members : List (String × Json)) : Option (Option Json) :=
  match members.filter fun member => member.1 = name with
  | [] => some none
  | [member] => some (some member.2)
  | _ => none

/-- The names of an object's members as texts. -/
def named? (members : List (List Char × Json)) : Option (List (String × Json)) :=
  members.mapM fun member => (text? member.1).map fun name => (name, member.2)

/-- The values of the named fields, in the order of the names, where they are given.
Other members are refused if the record is `closed`, and must at least be skippable. -/
def fields? (names : List String) (closed : Bool) : Json → Option (List (Option Json))
  | .array items =>
      if items.length ≤ names.length then
        some (items.map some ++ List.replicate (names.length - items.length) none)
      else none
  | .object members => do
      let members ← named? members
      let others := members.filter fun member => !names.contains member.1
      if others.all fun other => !closed && canSkip other.2 then
        names.mapM fun name => member? name members
      else none
  | _ => none

/-- The value of a field that must be given. -/
def required? {α : Type} (read : Json → Option α) (field : Option Json) : Option α :=
  field.bind read

/-- The value of a field that has a default. -/
def defaulted? {α : Type} (read : Json → Option α) (default : α) : Option Json → Option α
  | none => some default
  | some value => read value

/-- The name and content of a choice: an object with one member. -/
def choice? : Json → Option (String × Json)
  | .object [(name, content)] => (text? name).map fun name => (name, content)
  | _ => none

/-- The name of a choice without content: a text, or an object whose one member is null. -/
def bareChoice? : Json → Option String
  | .string written => text? written
  | .object [(name, .null)] => text? name
  | _ => none

/-- The written form of a character in a string. -/
def escape (c : Char) : List Char :=
  if c = '"' then ['\\', '"']
  else if c = '\\' then ['\\', '\\']
  else if c = '\n' then ['\\', 'n']
  else if c = '\r' then ['\\', 'r']
  else if c = '\t' then ['\\', 't']
  else if c.toNat = 8 then ['\\', 'b']
  else if c.toNat = 12 then ['\\', 'f']
  else if c.toNat < 0x20 then
    ['\\', 'u', '0', '0', Octets.hexDigit (c.toNat / 16), Octets.hexDigit (c.toNat % 16)]
  else [c]

/-- The written form of a text. -/
def writeString (text : String) : String :=
  String.ofList ('"' :: text.toList.flatMap escape ++ ['"'])

/-- A list of written values. -/
def writeArray (items : List String) : String :=
  "[" ++ String.intercalate "," items ++ "]"

/-- A record of written values under their names. -/
def writeObject (members : List (String × String)) : String :=
  let member (entry : String × String) := writeString entry.1 ++ ":" ++ entry.2
  "\x7b" ++ String.intercalate "," (members.map member) ++ "\x7d"

end Json

/-- The value that a document stands for. -/
def JsonForm.parse {α : Type} [JsonForm α] (text : String) : Option α :=
  (Json.parse text.toList).bind JsonForm.ofJson

instance : JsonForm UInt64 where
  ofJson value := (Json.natural? UInt64.size value).map UInt64.ofNat
  toText n := toString n.toNat

instance : JsonForm UInt32 where
  ofJson value := (Json.natural? UInt32.size value).map UInt32.ofNat
  toText n := toString n.toNat

instance : JsonForm UInt16 where
  ofJson value := (Json.natural? UInt16.size value).map UInt16.ofNat
  toText n := toString n.toNat

instance : JsonForm UInt8 where
  ofJson value := (Json.natural? UInt8.size value).map UInt8.ofNat
  toText n := toString n.toNat

instance : JsonForm String where
  ofJson := Json.string?
  toText := Json.writeString

instance {α : Type} [JsonForm α] : JsonForm (List α) where
  ofJson value := (Json.items? value).bind fun items => items.mapM JsonForm.ofJson
  toText values := Json.writeArray (values.map JsonForm.toText)

instance {α β : Type} [JsonForm α] [JsonForm β] : JsonForm (α × β) where
  ofJson
    | .array [first, second] => do
        return (← JsonForm.ofJson first, ← JsonForm.ofJson second)
    | _ => none
  toText pair := Json.writeArray [JsonForm.toText pair.1, JsonForm.toText pair.2]

end Messenger
