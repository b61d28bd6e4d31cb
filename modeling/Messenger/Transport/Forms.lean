import Messenger.Json.Form
import Messenger.Transport.Basic

/-!
# Connect modes in JSON
-/

namespace Messenger.ConnectMode

/-- Every mode. -/
def all : List ConnectMode :=
  [.tcp, .udp, .quic]

/-- The name of a mode in a document. -/
def name : ConnectMode → String
  | .tcp => "tcp"
  | .udp => "udp"
  | .quic => "quic"

/-- The mode with a name. -/
def ofName? (s : String) : Option ConnectMode :=
  all.find? fun mode => mode.name = s

instance : JsonForm ConnectMode where
  ofJson value := (Json.bareChoice? value).bind ofName?
  toText mode := Json.writeString mode.name

end Messenger.ConnectMode
