import Messenger.Transport.Basic
import Messenger.Message.Basic

/-!
# Links in memory

One link between a client and a server, both ends at hand.  The server can put
frames on the link, take what the client sent, and cut the connection.
-/

namespace Messenger

/-- Where a client connected to. -/
structure Connection where
  address : String
  account : AccountId
  mode : ConnectMode
deriving DecidableEq, Repr

/-- Both ends of a link. -/
structure Link where
  /-- Whether the server can reach the client. -/
  reachable : Bool := true
  /-- The frames on the way to the client, oldest first. -/
  toClient : List Octets := []
  /-- The frames that the server has not taken, oldest first. -/
  toServer : List Octets := []
  connection : Option Connection := none
deriving DecidableEq, Repr, Inhabited

namespace Link

/-- Put a frame on the way to the client. -/
def push (link : Link) (frame : Octets) : Except SessionError Link :=
  if link.reachable then .ok { link with toClient := link.toClient ++ [frame] }
  else .error .notConnected

/-- Put a message on the way to the client. -/
def pushMessage (link : Link) (message : Message) : Except SessionError Link :=
  match message.encode with
  | .ok frame => link.push frame
  | .error cause => .error (.frame cause)

/-- Take all that the client sent. -/
def takeSent (link : Link) : List Octets × Link :=
  (link.toServer, { link with toServer := [] })

/-- Take all that the client sent, as messages.  The frames are taken in any case. -/
def takeSentMessages (link : Link) : Except SessionError (List Message) × Link :=
  let (frames, link) := link.takeSent
  let messages := frames.mapM fun frame =>
    match Message.decode frame with
    | .ok message => .ok message
    | .error cause => .error (.frame cause)
  (messages, link)

/-- Cut the connection.  The client still gets what is on its way. -/
def cut (link : Link) : Link :=
  { link with reachable := false, connection := none }

/-- Connect, with nothing on the way if the connection was cut. -/
def connect (link : Link) (address : String) (credentials : Credentials) (mode : ConnectMode) :
    Link :=
  { link with
    reachable := true
    toClient := if link.reachable then link.toClient else []
    connection := some { address, account := credentials.account, mode } }

/-- Send a frame to the server. -/
def send (link : Link) (frame : Octets) : Except SessionError Unit × Link :=
  match link.connection with
  | none => (.error .notConnected, link)
  | some _ => (.ok (), { link with toServer := link.toServer ++ [frame] })

/-- Receive the next frame on its way to the client. -/
def receive (link : Link) : Receipt × Link :=
  match link.toClient with
  | frame :: rest => (.frame frame, { link with toClient := rest })
  | [] => (if link.reachable then .waiting else .closed, link)

instance : Transport Link where
  connect link address credentials mode := (.ok (), link.connect address credentials mode)
  send := send
  receive link := (.ok link.receive.1, link.receive.2)
  backlog link := link.toClient.length
  backlog_receive {link after frame} received := by
    simp only [receive, Prod.mk.injEq, Except.ok.injEq] at received
    obtain ⟨taken, rfl⟩ := received
    cases waiting : link.toClient with
    | nil =>
        simp only [waiting] at taken
        split at taken <;> simp at taken
    | cons first rest => simp

end Link

end Messenger
