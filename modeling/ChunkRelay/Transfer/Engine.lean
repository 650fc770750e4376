import ChunkRelay.Transfer.Receiver
import ChunkRelay.Transfer.Sender

/-!
# Engines

An engine is the local party of a transfer, in either role.
-/

set_option autoImplicit false

namespace ChunkRelay

inductive Engine where
  | sending (sender : Sender)
  | receiving (receiver : Receiver)
deriving DecidableEq, Repr

namespace Engine

def fresh : Role → Engine
  | .sender => .sending .fresh
  | .receiver => .receiving .fresh

def role : Engine → Role
  | .sending _ => .sender
  | .receiving _ => .receiver

def state : Engine → TransferState
  | .sending sender => sender.state
  | .receiving receiver => receiver.state

def progress : Engine → Progress
  | .sending sender => sender.progress
  | .receiving receiver => receiver.progress

def error? : Engine → Option RelayError
  | .sending { phase := .failed error, .. } => some error
  | .receiving { phase := .failed error, .. } => some error
  | _ => none

def isReady : Engine → Bool
  | .sending sender => sender.phase = .ready
  | .receiving receiver => receiver.phase = .ready

def report (engine : Engine) : TransferReport :=
  { role := engine.role, state := engine.state, progress := engine.progress }

/-- What an engine does next with a buffer of a capacity at an address. -/
def action (address : UInt64) (capacity : Nat) : Engine → Action Engine
  | .sending sender => (sender.action address).map .sending
  | .receiving receiver => (receiver.action address capacity).map .receiving

end Engine

end ChunkRelay
