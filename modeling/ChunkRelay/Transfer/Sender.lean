import ChunkRelay.Channel
import ChunkRelay.Transfer.Action
import ChunkRelay.Transfer.Progress

/-!
# The sender

The sender moves local data to the remote, one chunk at a time: it clears the buffer, fills it,
announces the chunk and waits until the remote has read all of it. A fill that gives nothing is the
end of the data; announcing it ends the transfer.
-/

set_option autoImplicit false

namespace ChunkRelay

inductive SenderPhase where
  | idle
  /-- Between two chunks. -/
  | ready
  | filling
  | announcing (length : Nat)
  | awaiting (length : Nat)
  | completed
  | failed (error : RelayError)
deriving DecidableEq, Repr

structure Sender where
  phase : SenderPhase
  progress : Progress
deriving DecidableEq, Repr

namespace Sender

def fresh : Sender :=
  { phase := .idle, progress := .none }

def state (sender : Sender) : TransferState :=
  match sender.phase with
  | .idle => .idle
  | .completed => .completed
  | .failed _ => .failed
  | .ready | .filling | .announcing _ | .awaiting _ => .transferring

/-- Starts the transfer; the second time nothing happens. -/
def start (sender : Sender) : Sender :=
  if sender.phase = .idle then { sender with phase := .ready } else sender

def goTo (sender : Sender) (phase : SenderPhase) : Turn Sender :=
  .silent { sender with phase }

def fail (sender : Sender) (error : RelayError) : Turn Sender :=
  { next := { sender with phase := .failed error }
    notices := [sender.progress.failedNotice .sender error] }

def complete (sender : Sender) : Turn Sender :=
  { next := { sender with phase := .completed }
    notices := [sender.progress.completedNotice .sender] }

def confirm (sender : Sender) (length : Nat) : Turn Sender :=
  let progress := sender.progress.confirm length
  { next := { phase := .ready, progress }
    notices := [progress.chunkNotice "chunk sent" length] }

def settle (sender : Sender) (announced reported : Nat) : Turn Sender :=
  if reported = 0 then sender.fail (.protocol (.remoteReadNothing announced))
  else if reported ≠ announced then
    sender.fail (.protocol (.readCountMismatch announced reported))
  else sender.confirm announced

def action (address : UInt64) (sender : Sender) : Action Sender :=
  match sender.phase with
  | .idle | .ready => .ask .clear fun () => sender.goTo .filling
  | .filling => .ask .fill fun
    | .ok length => sender.goTo (.announcing length)
    | .error cause => sender.fail (.localIO (.read cause))
  | .announcing length => .ask (.send (.dataReady address (.ofNat length))) fun
    | .ok () => if length = 0 then sender.complete else sender.goTo (.awaiting length)
    | .error error => sender.fail (.channel error)
  | .awaiting length => .ask .receive fun answer =>
    match answer >>= Message.readDone? with
    | .ok reported => sender.settle length reported.toNat
    | .error error => sender.fail (.channel error)
  | .completed | .failed _ => .stop

end Sender

end ChunkRelay
