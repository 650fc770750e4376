import ChunkRelay.Channel
import ChunkRelay.Transfer.Action
import ChunkRelay.Transfer.Progress

/-!
# The receiver

The receiver tells the remote where its cleared buffer lives and then waits for chunks written there.
It puts each chunk into the local destination, clears the buffer and only then hands it back. A chunk
of no bytes ends the transfer.
-/

set_option autoImplicit false

namespace ChunkRelay

inductive ReceiverPhase where
  | idle
  | introducing
  /-- Between two chunks. -/
  | ready
  | draining (length : Nat)
  | clearing (length : Nat)
  | acknowledging (length : Nat)
  | flushing
  | completed
  | failed (error : RelayError)
deriving DecidableEq, Repr

structure Receiver where
  phase : ReceiverPhase
  progress : Progress
deriving DecidableEq, Repr

namespace Receiver

def fresh : Receiver :=
  { phase := .idle, progress := .none }

def state (receiver : Receiver) : TransferState :=
  match receiver.phase with
  | .idle | .introducing => .idle
  | .completed => .completed
  | .failed _ => .failed
  | .ready | .draining _ | .clearing _ | .acknowledging _ | .flushing => .transferring

def goTo (receiver : Receiver) (phase : ReceiverPhase) : Turn Receiver :=
  .silent { receiver with phase }

def fail (receiver : Receiver) (error : RelayError) : Turn Receiver :=
  { next := { receiver with phase := .failed error }
    notices := [receiver.progress.failedNotice .receiver error] }

def complete (receiver : Receiver) : Turn Receiver :=
  { next := { receiver with phase := .completed }
    notices := [receiver.progress.completedNotice .receiver] }

def introduced (receiver : Receiver) (address : UInt64) : Turn Receiver :=
  { next := { receiver with phase := .ready }
    notices :=
      [{ level := .debug
         text := "announced relay buffer"
         fields := [("address", Text.hex address.toNat)] }] }

def confirm (receiver : Receiver) (length : Nat) : Turn Receiver :=
  let progress := receiver.progress.confirm length
  { next := { phase := .ready, progress }
    notices := [progress.chunkNotice "chunk received" length] }

/-- Accepts a chunk only at the buffer's own address and no longer than the buffer. -/
def consider (receiver : Receiver) (address : UInt64) (capacity : Nat) (remote length : UInt64) :
    Turn Receiver :=
  if length = 0 then receiver.goTo .flushing
  else if remote ≠ address then receiver.fail (.protocol (.addressMismatch address remote))
  else if capacity < length.toNat then
    receiver.fail (.protocol (.oversizedChunk length.toNat capacity))
  else receiver.goTo (.draining length.toNat)

/-- The error of a destination that did not take a chunk of that length. -/
def drainError (length : Nat) : WriteFailure → LocalIOError
  | .stalled written => .shortWrite length written
  | .failed cause => .write cause

/-- What a receiver does next with a buffer of a capacity at an address. -/
def action (address : UInt64) (capacity : Nat) (receiver : Receiver) : Action Receiver :=
  match receiver.phase with
  | .idle => .ask .clear fun () => receiver.goTo .introducing
  | .introducing => .ask (.send (.baseAddress address)) fun
    | .ok () => receiver.introduced address
    | .error error => receiver.fail (.channel error)
  | .ready => .ask .receive fun answer =>
    match answer >>= Message.writeDone? with
    | .ok (remote, length) => receiver.consider address capacity remote length
    | .error error => receiver.fail (.channel error)
  | .draining length => .ask (.drain length) fun
    | .ok () => receiver.goTo (.clearing length)
    | .error failure => receiver.fail (.localIO (drainError length failure))
  | .clearing length => .ask .clear fun () => receiver.goTo (.acknowledging length)
  | .acknowledging length => .ask (.send (.readDone (.ofNat length))) fun
    | .ok () => receiver.confirm length
    | .error error => receiver.fail (.channel error)
  | .flushing => .ask .flush fun
    | .ok () => receiver.complete
    | .error cause => receiver.fail (.localIO (.write cause))
  | .completed | .failed _ => .stop

end Receiver

end ChunkRelay
