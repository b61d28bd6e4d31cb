/-!
# JSON documents

A reader from text to a tree.  Numbers and strings keep their written form:
what a number or a string may hold depends on what is expected in its place,
and a value that nobody asks for is held to weaker rules.
-/

namespace Messenger

/-- A JSON value, its numbers and strings as written. -/
inductive Json where
  | null
  | bool (value : Bool)
  | number (written : List Char)
  /-- The characters between the quotation marks, escapes unread. -/
  | string (written : List Char)
  | array (items : List Json)
  | object (members : List (List Char × Json))
deriving Repr, Inhabited

namespace Json

/-- Whether a character may stand between tokens. -/
def isSpace (c : Char) : Bool :=
  c = ' ' || c = '\n' || c = '\t' || c = '\r'

/-- The text after leading spaces. -/
def skipSpace (text : List Char) : List Char :=
  text.dropWhile isSpace

/-- Whether a character is an ASCII digit. -/
def isDigit (c : Char) : Bool :=
  '0' ≤ c && c ≤ '9'

/-- The text after a word, if it starts with it. -/
def after? (word text : List Char) : Option (List Char) :=
  match word, text with
  | [], rest => some rest
  | _ :: _, [] => none
  | c :: word, d :: rest => if c = d then after? word rest else none

/-- A nonempty run of digits. -/
def readDigits (text : List Char) : Option (List Char × List Char) :=
  match text.takeWhile isDigit with
  | [] => none
  | digits => some (digits, text.dropWhile isDigit)

/-- The digits of a whole number: zero, or digits that do not start with zero. -/
def readWhole (text : List Char) : Option (List Char × List Char) := do
  let (digits, rest) ← readDigits text
  match digits with
  | '0' :: _ :: _ => none
  | _ => some (digits, rest)

/-- A fraction, if a point comes next. -/
def readFraction (text : List Char) : Option (List Char × List Char) :=
  match text with
  | '.' :: rest => (readDigits rest).map fun (digits, rest) => ('.' :: digits, rest)
  | _ => some ([], text)

/-- An exponent, if its letter comes next. -/
def readExponent (text : List Char) : Option (List Char × List Char) :=
  let signed (letter : Char) (rest : List Char) :=
    match rest with
    | '+' :: rest => (readDigits rest).map fun (digits, rest) => (letter :: '+' :: digits, rest)
    | '-' :: rest => (readDigits rest).map fun (digits, rest) => (letter :: '-' :: digits, rest)
    | _ => (readDigits rest).map fun (digits, rest) => (letter :: digits, rest)
  match text with
  | 'e' :: rest => signed 'e' rest
  | 'E' :: rest => signed 'E' rest
  | _ => some ([], text)

/-- A number as written. -/
def readNumber (text : List Char) : Option (List Char × List Char) := do
  let (sign, rest) := match text with
    | '-' :: rest => (['-'], rest)
    | _ => ([], text)
  let (whole, rest) ← readWhole rest
  let (fraction, rest) ← readFraction rest
  let (exponent, rest) ← readExponent rest
  return (sign ++ whole ++ fraction ++ exponent, rest)

/-- The characters of a string up to its closing quotation mark. -/
def readString : List Char → Option (List Char × List Char)
  | [] => none
  | '"' :: rest => some ([], rest)
  | '\\' :: c :: rest => (readString rest).map fun (written, rest) => ('\\' :: c :: written, rest)
  | c :: rest => (readString rest).map fun (written, rest) => (c :: written, rest)

mutual

/-- Read a value.  Every second step takes a character, so a fuel of twice the
length is enough. -/
def readValue : Nat → List Char → Option (Json × List Char)
  | 0, _ => none
  | fuel + 1, text =>
      match skipSpace text with
      | 'n' :: rest => (after? "ull".toList rest).map fun rest => (.null, rest)
      | 't' :: rest => (after? "rue".toList rest).map fun rest => (.bool true, rest)
      | 'f' :: rest => (after? "alse".toList rest).map fun rest => (.bool false, rest)
      | '"' :: rest => (readString rest).map fun (written, rest) => (.string written, rest)
      | '[' :: rest =>
          match skipSpace rest with
          | ']' :: rest => some (.array [], rest)
          | _ => (readItems fuel rest).map fun (items, rest) => (.array items, rest)
      | '\x7b' :: rest =>
          match skipSpace rest with
          | '\x7d' :: rest => some (.object [], rest)
          | _ => (readMembers fuel rest).map fun (members, rest) => (.object members, rest)
      | other => (readNumber other).map fun (written, rest) => (.number written, rest)

/-- Read the items of a nonempty array and its closing bracket. -/
def readItems : Nat → List Char → Option (List Json × List Char)
  | 0, _ => none
  | fuel + 1, text => do
      let (item, rest) ← readValue fuel text
      match skipSpace rest with
      | ',' :: rest => do
          let (items, rest) ← readItems fuel rest
          return (item :: items, rest)
      | ']' :: rest => return ([item], rest)
      | _ => none

/-- Read the members of a nonempty object and its closing brace. -/
def readMembers : Nat → List Char → Option (List (List Char × Json) × List Char)
  | 0, _ => none
  | fuel + 1, text => do
      match skipSpace text with
      | '"' :: rest =>
          let (name, rest) ← readString rest
          match skipSpace rest with
          | ':' :: rest =>
              let (value, rest) ← readValue fuel rest
              match skipSpace rest with
              | ',' :: rest => do
                  let (members, rest) ← readMembers fuel rest
                  return ((name, value) :: members, rest)
              | '\x7d' :: rest => return ([(name, value)], rest)
              | _ => none
          | _ => none
      | _ => none

end

/-- The value of a document: one value with nothing but spaces around it. -/
def parse (text : List Char) : Option Json := do
  let (value, rest) ← readValue (2 * text.length + 2) text
  if skipSpace rest = [] then some value else none

end Json

end Messenger
