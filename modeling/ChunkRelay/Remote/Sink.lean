import ChunkRelay.Transfer.Action
import ChunkRelay.Transfer.Progress

/-!
# The sink

The sink is the remote side of a sender. It fetches each announced chunk by address, puts it into its
destination and then says how much it has read. A chunk of no bytes is the end.
-/

set_option autoImplicit false

namespace ChunkRelay

def Progress.remoteNotice (progress : Progress) (text : String) (length : Nat) : Notice :=
  { level := .debug
    text
    fields := [("chunk", toString progress.chunks), ("len", toString length)] }

def Progress.remoteFinished (progress : Progress) (text : String) : Notice :=
  { level := .info, text, fields := progress.fields }

inductive SinkPhase where
  | awaiting
  | fetching (address : UInt64) (length : Nat)
  | draining (length : Nat)
  | acknowledging (length : Nat)
  | flushing
  | finished
  | failed (error : RelayError)
deriving DecidableEq, Repr

structure Sink where
  phase : SinkPhase
  progress : Progress
deriving DecidableEq, Repr

namespace Sink

def fresh : Sink :=
  { phase := .awaiting, progress := .none }

def goTo (sink : Sink) (phase : SinkPhase) : Turn Sink :=
  .silent { sink with phase }

def fail (sink : Sink) (error : RelayError) : Turn Sink :=
  sink.goTo (.failed error)

def consider (capacity : Nat) (sink : Sink) : Message → Turn Sink
  | .dataReady address length =>
    if length = 0 then sink.goTo .flushing
    else if capacity < length.toNat then
      sink.fail (.protocol (.oversizedChunk length.toNat capacity))
    else sink.goTo (.fetching address length.toNat)
  | other => sink.fail (.channel (.unexpected "data-ready" other.name))

def confirm (sink : Sink) (length : Nat) : Turn Sink :=
  let progress := sink.progress.confirm length
  { next := { phase := .awaiting, progress }
    notices := [progress.remoteNotice "peer consumed chunk" length] }

def finish (sink : Sink) : Turn Sink :=
  { next := { sink with phase := .finished }
    notices := [sink.progress.remoteFinished "peer sink finished"] }

/-- The error of a destination that did not take a chunk. -/
def drainError : WriteFailure → LocalIOError
  | .stalled _ => .write (.custom .writeZero "failed to write whole buffer")
  | .failed cause => .write cause

def action (capacity : Nat) (sink : Sink) : Action Sink :=
  match sink.phase with
  | .awaiting => .ask .receive fun
    | .ok message => sink.consider capacity message
    | .error error => sink.fail (.channel error)
  | .fetching address length => .ask (.fetch address length) fun
    | .ok () => sink.goTo (.draining length)
    | .error error => sink.fail (.allocation error)
  | .draining length => .ask (.drain length) fun
    | .ok () => sink.goTo (.acknowledging length)
    | .error failure => sink.fail (.localIO (drainError failure))
  | .acknowledging length => .ask (.send (.readDone (.ofNat length))) fun
    | .ok () => sink.confirm length
    | .error error => sink.fail (.channel error)
  | .flushing => .ask .flush fun
    | .ok () => sink.finish
    | .error cause => sink.fail (.localIO (.write cause))
  | .finished | .failed _ => .stop

end Sink

end ChunkRelay
