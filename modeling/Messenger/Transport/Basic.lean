import Messenger.Session.Error

/-!
# Transports

A transport carries whole frames between a client and its server.  A finite
number of frames waits to be received at any time.
-/

namespace Messenger

/-- The protocol below the frames. -/
inductive ConnectMode where
  | tcp
  | udp
  | quic
deriving DecidableEq, Repr, Inhabited

/-- Who connects. -/
structure Credentials where
  account : AccountId
  token : String
deriving DecidableEq, Repr

/-- What there is to receive. -/
inductive Receipt where
  | frame (octets : Octets)
  /-- The connection is gone, and nothing is left of it. -/
  | closed
  /-- Nothing has arrived. -/
  | waiting
deriving DecidableEq, Repr

/-- Carriers of frames. -/
class Transport (τ : Type) where
  /-- Establish the connection, or establish it anew. -/
  connect (link : τ) (address : String) (credentials : Credentials) (mode : ConnectMode) :
    Except SessionError Unit × τ
  /-- Send one frame. -/
  send (link : τ) (frame : Octets) : Except SessionError Unit × τ
  /-- Receive the next frame. -/
  receive (link : τ) : Except SessionError Receipt × τ
  /-- How many frames wait to be received. -/
  backlog : τ → Nat
  /-- A received frame no longer waits. -/
  backlog_receive {link after : τ} {frame : Octets}
    (received : receive link = (.ok (.frame frame), after)) : backlog after < backlog link

end Messenger
