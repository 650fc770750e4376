import ChunkRelay.Channel
import ChunkRelay.Remote.Sink

/-!
# The source

The source is the remote side of a receiver. It learns where the receiver's buffer lives, writes one
chunk at a time there and waits until the receiver has read all of it. A fill that gives nothing is
the end of the data, which is announced as a chunk of no bytes.
-/

set_option autoImplicit false

namespace ChunkRelay

/-- Where a source stands; after the first message it knows the address of the buffer. -/
inductive SourcePhase where
  | opening
  | filling (address : UInt64)
  | placing (address : UInt64) (length : Nat)
  | announcing (address : UInt64) (length : Nat)
  | awaiting (address : UInt64) (length : Nat)
  | finished
  | failed (error : RelayError)
deriving DecidableEq, Repr

structure Source where
  phase : SourcePhase
  progress : Progress
deriving DecidableEq, Repr

namespace Source

def fresh : Source :=
  { phase := .opening, progress := .none }

def goTo (source : Source) (phase : SourcePhase) : Turn Source :=
  .silent { source with phase }

def fail (source : Source) (error : RelayError) : Turn Source :=
  source.goTo (.failed error)

def consider (source : Source) : Message → Turn Source
  | .baseAddress address => source.goTo (.filling address)
  | other => source.fail (.channel (.unexpected "base-address" other.name))

def confirm (source : Source) (address : UInt64) (length : Nat) : Turn Source :=
  let progress := source.progress.confirm length
  { next := { phase := .filling address, progress }
    notices := [progress.remoteNotice "peer produced chunk" length] }

def finish (source : Source) : Turn Source :=
  { next := { source with phase := .finished }
    notices := [source.progress.remoteFinished "peer source finished"] }

def settle (source : Source) (address : UInt64) (announced reported : Nat) : Turn Source :=
  if reported = 0 then source.fail (.protocol (.remoteReadNothing announced))
  else if reported ≠ announced then
    source.fail (.protocol (.readCountMismatch announced reported))
  else source.confirm address announced

def action (source : Source) : Action Source :=
  match source.phase with
  | .opening => .ask .receive fun
    | .ok message => source.consider message
    | .error error => source.fail (.channel error)
  | .filling address => .ask .fill fun
    | .ok length =>
      source.goTo (if length = 0 then .announcing address 0 else .placing address length)
    | .error cause => source.fail (.localIO (.read cause))
  | .placing address length => .ask (.place address length) fun
    | .ok () => source.goTo (.announcing address length)
    | .error error => source.fail (.allocation error)
  | .announcing address length => .ask (.send (.writeDone address (.ofNat length))) fun
    | .ok () => if length = 0 then source.finish else source.goTo (.awaiting address length)
    | .error error => source.fail (.channel error)
  | .awaiting address length => .ask .receive fun answer =>
    match answer >>= Message.readDone? with
    | .ok reported => source.settle address length reported.toNat
    | .error error => source.fail (.channel error)
  | .finished | .failed _ => .stop

end Source

end ChunkRelay
