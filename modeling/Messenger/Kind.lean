/-!
# Message kinds

The kind of a message says how its payload is read and who handles it.  Codes
come in ranges of 32: content, control, logic, business, and traffic between
servers that never reaches a user.
-/

namespace Messenger

/-- The kind of a message. -/
inductive Kind where
  | na
  | ack
  | text
  | meme
  | file
  | image
  | video
  | audio
  | edit
  | withdraw
  | auth
  | ping
  | pong
  | echo
  | error
  | beOffline
  | internalError
  | sync
  | box
  | systemMessage
  | addFriend
  | removeFriend
  | joinGroup
  | leaveGroup
  | remoteInvoke
  | setRelationship
  | noop
  | close
  | compressed
deriving DecidableEq, Repr

namespace Kind

/-- Every kind, by ascending code. -/
def all : List Kind :=
  [na, ack, text, meme, file, image, video, audio, edit, withdraw, auth, ping, pong, echo,
    error, beOffline, internalError, sync, box, systemMessage, addFriend, removeFriend,
    joinGroup, leaveGroup, remoteInvoke, setRelationship, noop, close, compressed]

/-- The number that stands for a kind in a header. -/
def code : Kind → Nat
  | na => 0
  | ack => 1
  | text => 32
  | meme => 33
  | file => 34
  | image => 35
  | video => 36
  | audio => 37
  | edit => 64
  | withdraw => 65
  | auth => 96
  | ping => 97
  | pong => 98
  | echo => 99
  | error => 100
  | beOffline => 101
  | internalError => 102
  | sync => 103
  | box => 104
  | systemMessage => 128
  | addFriend => 129
  | removeFriend => 130
  | joinGroup => 131
  | leaveGroup => 132
  | remoteInvoke => 133
  | setRelationship => 134
  | noop => 160
  | close => 161
  | compressed => 162

/-- The name of a kind. -/
def name : Kind → String
  | na => "NA"
  | ack => "Ack"
  | text => "Text"
  | meme => "Meme"
  | file => "File"
  | image => "Image"
  | video => "Video"
  | audio => "Audio"
  | edit => "Edit"
  | withdraw => "Withdraw"
  | auth => "Auth"
  | ping => "Ping"
  | pong => "Pong"
  | echo => "Echo"
  | error => "Error"
  | beOffline => "BeOffline"
  | internalError => "InternalError"
  | sync => "Sync"
  | box => "Box"
  | systemMessage => "SystemMessage"
  | addFriend => "AddFriend"
  | removeFriend => "RemoveFriend"
  | joinGroup => "JoinGroup"
  | leaveGroup => "LeaveGroup"
  | remoteInvoke => "RemoteInvoke"
  | setRelationship => "SetRelationship"
  | noop => "Noop"
  | close => "Close"
  | compressed => "Compressed"

/-- The kind with a code. -/
def ofCode? (n : Nat) : Option Kind :=
  all.find? fun kind => kind.code = n

/-- The kind with a name. -/
def ofName? (s : String) : Option Kind :=
  all.find? fun kind => kind.name = s

/-- The name with the code in parentheses. -/
def render (kind : Kind) : String :=
  kind.name ++ "(" ++ toString kind.code ++ ")"

/-- Whether a message is content that a user sees in a channel. -/
def isContent (kind : Kind) : Bool :=
  32 ≤ kind.code && kind.code ≤ 37

/-- Whether a message changes or withdraws earlier content. -/
def isControl (kind : Kind) : Bool :=
  64 ≤ kind.code && kind.code ≤ 95

/-- Whether a message belongs to the session with the server. -/
def isLogic (kind : Kind) : Bool :=
  96 ≤ kind.code && kind.code ≤ 127

/-- Whether a message is about relationships or the system. -/
def isBusiness (kind : Kind) : Bool :=
  128 ≤ kind.code && kind.code ≤ 159

/-- Whether a message is traffic between servers. -/
def isInternal (kind : Kind) : Bool :=
  160 ≤ kind.code

theorem mem_all (kind : Kind) : kind ∈ all := by
  cases kind <;> decide

theorem ofCode?_code (kind : Kind) : ofCode? kind.code = some kind := by
  cases kind <;> rfl

theorem ofCode?_eq_some_iff {n : Nat} {kind : Kind} :
    ofCode? n = some kind ↔ n = kind.code := by
  constructor
  · intro found
    have := List.find?_some found
    simpa using (of_decide_eq_true this).symm
  · rintro rfl
    exact ofCode?_code kind

theorem ofName?_name (kind : Kind) : ofName? kind.name = some kind := by
  cases kind <;> decide

/-- Every code fits the twelve bits that a header gives it. -/
theorem code_lt (kind : Kind) : kind.code < 4096 := by
  cases kind <;> decide

end Kind

end Messenger
