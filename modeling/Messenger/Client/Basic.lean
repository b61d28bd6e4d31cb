import Messenger.Client.Config
import Messenger.Message.Compose
import Messenger.Session.Browsing
import Messenger.Session.Inbound
import Messenger.Session.Outbound

/-!
# Clients

A client is a session with a transport.  It connects, sends and receives on
behalf of its account; the time is given to it with every request that needs
it.
-/

namespace Messenger

/-- The state of a client. -/
structure Client (τ σ η : Type) where
  config : ClientConfig
  link : τ
  session : Session σ η
  connected : Bool
  /-- The timestamp of the latest message that was minted. -/
  lastMinted : UInt64
deriving DecidableEq

/-- A request to a client: it answers or fails, and leaves a client in both cases. -/
abbrev ClientM (τ σ η : Type) := EStateM SessionError (Client τ σ η)

namespace Client

variable {τ σ η : Type}

/-- A client that is not connected. -/
def start (config : ClientConfig) (link : τ) (store : σ) (history : η) : Client τ σ η :=
  { config
    link
    session := Session.start config.account config.session store history
    connected := false
    lastMinted := 0 }

/-- A request to the session of a client. -/
def onSession {α : Type} (request : SessionM σ η α) : ClientM τ σ η α := fun client =>
  match request client.session with
  | .ok answer session => .ok answer { client with session }
  | .error cause session => .error cause { client with session }

/-- A request to the session and the transport of a client. -/
def onBoth {α : Type} (request : Session.LinkedM τ σ η α) : ClientM τ σ η α := fun client =>
  match request (client.link, client.session) with
  | .ok answer (link, session) => .ok answer { client with link, session }
  | .error cause (link, session) => .error cause { client with link, session }

/-- A message that could be composed. -/
def composed {α : Type} (result : Except FrameError α) : ClientM τ σ η α :=
  match result with
  | .ok value => pure value
  | .error cause => throw (.frame cause)

/-- What a client does with one frame that it awaits. -/
inductive Step where
  | routed (routed : Routed)
  /-- The transport went away. -/
  | disconnected
  /-- Nothing has arrived. -/
  | waiting
deriving DecidableEq, Repr

variable [Transport τ]

/-- Establish the connection of a client. -/
def establish : ClientM τ σ η Unit := fun client =>
  let config := client.config
  match Transport.connect client.link config.address ⟨config.account, config.token⟩
      config.mode with
  | (.ok (), link) => .ok () { client with link, connected := true }
  | (.error cause, link) => .error cause { client with link }

/-- Send a message over the transport at once. -/
def sendNow (message : Message) : ClientM τ σ η Unit := do
  let frame ← composed message.encode
  onBoth (Session.transmit frame)

/-- Fail unless the client is connected. -/
def requireConnection : ClientM τ σ η Unit := do
  unless (← get).connected do throw .notConnected

/-- Send a probe that keeps the session alive. -/
def probe (now : UInt64) : ClientM τ σ η Unit := do
  requireConnection
  let config := (← get).config
  sendNow (← composed (Message.probe config.account config.nodeId now))

/-- A timestamp for a message, later than every one before. -/
def mint (now : UInt64) : ClientM τ σ η UInt64 := do
  let client ← get
  let minted := max now (client.lastMinted + 1)
  set { client with lastMinted := minted }
  return minted

variable [MessageStore σ]

/-- Connect, present the credentials, ask for the roster and send what waits. -/
def connect (now : UInt64) : ClientM τ σ η Unit := do
  establish
  onSession Session.reload
  let config := (← get).config
  sendNow (← composed (Message.authentication config.account config.nodeId now config.token))
  sendNow (← composed (Message.rosterRequest config.account config.nodeId now))
  let _ ← onBoth Session.flush

/-- Send a text to a peer.  The message waits if it cannot be sent. -/
def sendText (now : UInt64) (peer : AccountId) (text : String) : ClientM τ σ η Unit := do
  match (← get).session.auth with
  | .rejected reason => throw (.rejected reason)
  | _ => pure ()
  let config := (← get).config
  let minted ← mint now
  let message ← composed (Message.ofText config.account peer config.nodeId minted text)
  onSession (Session.submit message)
  requireConnection
  let _ ← onBoth Session.flush

variable [HistorySource η]

/-- Take note that the transport went away. -/
def disconnect : ClientM τ σ η Unit := do
  modify fun client => { client with connected := false }
  onSession Session.disconnect

/-- Handle what was received. -/
def handle : Receipt → ClientM τ σ η Step
  | .frame octets => do return .routed (← onSession (Session.receive octets))
  | .closed => do
      disconnect
      return .disconnected
  | .waiting => return .waiting

/-- Await one frame and handle it. -/
def step : ClientM τ σ η Step := do
  requireConnection
  let client ← get
  let (result, link) := Transport.receive client.link
  set { client with link }
  match result with
  | .error cause => throw cause
  | .ok receipt => handle receipt

/-- Handle frames until the transport goes away, or nothing more has arrived.  Frames
that are refused are passed over. -/
def run (client : Client τ σ η) : Except SessionError Step × Client τ σ η :=
  if !client.connected then (.error .notConnected, client)
  else
    match _received : Transport.receive client.link with
    | (.error cause, link) => (.error cause, { client with link })
    | (.ok (.frame octets), link) =>
        match Session.receive octets client.session with
        | .ok _ session => run { client with link, session }
        | .error (.frame _) session => run { client with link, session }
        | .error cause session => (.error cause, { client with link, session })
    | (.ok receipt, link) =>
        match handle receipt { client with link } with
        | .ok step client => (.ok step, client)
        | .error cause client => (.error cause, client)
termination_by Transport.backlog client.link
decreasing_by all_goals exact Transport.backlog_receive _received

/-- Make the conversation with a peer the active one. -/
def openConversation (peer : AccountId) : ClientM τ σ η SyncOutcome :=
  onSession (Session.openConversation peer)

/-- Load older messages of the conversation with a peer. -/
def loadOlder (peer : AccountId) : ClientM τ σ η Nat := do
  let channel := Channel.between (← get).config.account peer
  onSession (Session.loadOlder channel)

end Client

end Messenger
