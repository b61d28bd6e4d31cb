import Messenger.Transport.Basic

/-!
# Flaky transports

A transport over another one that fails on demand: after a number of calls of
one sort, every further call of this sort fails and does not reach the other.
-/

namespace Messenger

/-- A transport with a limit for each sort of call, none where calls do not fail. -/
structure Flaky (τ : Type) where
  link : τ
  connects : Option Nat := none
  sends : Option Nat := none
  receives : Option Nat := none
deriving DecidableEq, Repr, Inhabited

namespace Flaky

/-- Use up a call: what is left, and none at all if no call is left. -/
def use : Option Nat → Option (Option Nat)
  | none => some none
  | some 0 => none
  | some (left + 1) => some (some left)

/-- The failure of a call that the script names. -/
def failure (call : String) : SessionError :=
  .transport ("scripted " ++ call ++ " failure")

variable {τ : Type} [Transport τ]

/-- Connect while connecting is allowed. -/
def connect (flaky : Flaky τ) (address : String) (credentials : Credentials)
    (mode : ConnectMode) : Except SessionError Unit × Flaky τ :=
  match use flaky.connects with
  | none => (.error (failure "connect"), flaky)
  | some connects =>
      let (result, link) := Transport.connect flaky.link address credentials mode
      (result, { flaky with link, connects })

/-- Send while sending is allowed. -/
def send (flaky : Flaky τ) (frame : Octets) : Except SessionError Unit × Flaky τ :=
  match use flaky.sends with
  | none => (.error (failure "send"), flaky)
  | some sends =>
      let (result, link) := Transport.send flaky.link frame
      (result, { flaky with link, sends })

/-- Receive while receiving is allowed. -/
def receive (flaky : Flaky τ) : Except SessionError Receipt × Flaky τ :=
  match use flaky.receives with
  | none => (.error (failure "recv"), flaky)
  | some receives =>
      let (result, link) := Transport.receive flaky.link
      (result, { flaky with link, receives })

instance : Transport (Flaky τ) where
  connect := connect
  send := send
  receive := receive
  backlog flaky := Transport.backlog flaky.link
  backlog_receive {flaky after frame} received := by
    unfold receive at received
    split at received
    · simp at received
    · simp only [Prod.mk.injEq] at received
      obtain ⟨taken, rfl⟩ := received
      exact Transport.backlog_receive (Prod.ext taken rfl)

end Flaky

end Messenger
