import Messenger.Store.Database

/-!
# Stores over a relational database

Messages are stored as frames.  Sequence numbers are compared in their signed
reading: of a range only the upper bound is cut to the largest signed number,
and a limit that reads as negative is no limit.
-/

namespace Messenger.Database

/-- The rows of a channel whose number meets a condition, ascending. -/
def selectRows (rows : List MessageRow) (channel : Channel) (accept : Int → Bool) :
    List MessageRow :=
  (rows.filter fun row => row.channel = channel.render && accept row.seq).mergeSort
    fun a b => a.seq ≤ b.seq

/-- The messages that frames spell; the first frame that spells none is reported. -/
def decodeFrames (frames : List Octets) : Except StoreError (List Message) :=
  frames.mapM fun frame =>
    match Message.decode frame with
    | .ok message => .ok message
    | .error cause => .error (.corrupt cause)

/-- A word cut to the largest signed number, in its signed reading. -/
def signedBound (bound : UInt64) : Int :=
  Word.signed (if bound ≤ Word.signedMax then bound else Word.signedMax)

/-- Save a message whose frame can be written. -/
def save (database : Database) (channel : Channel) (message : Message) :
    Except StoreError (SaveOutcome × Database) := do
  let seq ← requireSeq message
  let frame ← match message.encode with
    | .ok frame => pure frame
    | .error cause => throw (.corrupt cause)
  let rows ← need messagesTable database.messages
  let taken (row : MessageRow) : Bool :=
    row.channel = channel.render && row.seq = Word.signed seq
  if rows.any taken then return (.alreadyThere, database)
  else
    let row : MessageRow := { channel := channel.render, seq := Word.signed seq, frame }
    return (.saved, { database with messages := some (rows ++ [row]) })

/-- The messages of a channel from one sequence number to another. -/
def range (database : Database) (channel : Channel) (low high : UInt64) :
    Except StoreError (List Message) :=
  if high < low then .ok []
  else do
    let rows ← need messagesTable database.messages
    let selected := selectRows rows channel fun seq =>
      Word.signed low ≤ seq && seq ≤ signedBound high
    decodeFrames (selected.map MessageRow.frame)

/-- The last messages of a channel below a sequence number. -/
def before (database : Database) (channel : Channel) (bound limit : UInt64) :
    Except StoreError (List Message) := do
  let rows ← need messagesTable database.messages
  let selected := selectRows rows channel fun seq => seq < signedBound bound
  let kept := if Word.signed limit < 0 then selected else lastOf limit.toNat selected
  decodeFrames (kept.map MessageRow.frame)

/-- The highest sequence number of a channel. -/
def latest (database : Database) (channel : Channel) : Except StoreError (Option UInt64) := do
  let rows ← need messagesTable database.messages
  let seqs := (rows.filter fun row => row.channel = channel.render).map MessageRow.seq
  return seqs.max?.map Word.ofSigned

instance : MessageStore Database where
  save := save
  range := range
  before := before
  latest := latest
  value database key := do
    return (← need valuesTable database.values).find? key
  setValue database key value := do
    let values ← need valuesTable database.values
    return { database with values := some (values.insert key value) }
  dropValue database key := do
    let values ← need valuesTable database.values
    return { database with values := some (values.erase key) }

end Messenger.Database
