import ChunkRelay.Remote.Source
import ChunkRelay.Transfer.Advance

/-!
# Peers

A peer is the remote party of a transfer: a sink, a source, or one that lets the first message decide.
-/

set_option autoImplicit false

namespace ChunkRelay

inductive PeerMode where
  | sink
  | source
  /-- Whatever the first message calls for, as far as there are data and a destination. -/
  | serve (hasReader hasWriter : Bool)
deriving DecidableEq, Repr

inductive PeerRole where
  | sink
  | source
deriving DecidableEq, Repr

def PeerRole.label : PeerRole → String
  | .sink => "Sink"
  | .source => "Source"

inductive Peer where
  | greeting (hasReader hasWriter : Bool)
  | sinking (sink : Sink)
  | sourcing (source : Source)
  /-- The first message did not come, or calls for something this peer is not. -/
  | refused (error : RelayError)
deriving DecidableEq, Repr

namespace Peer

def fresh : PeerMode → Peer
  | .sink => .sinking .fresh
  | .source => .sourcing .fresh
  | .serve hasReader hasWriter => .greeting hasReader hasWriter

def greet (capacity : Nat) (hasReader hasWriter : Bool) (message : Message) : Turn Peer :=
  match message, hasReader, hasWriter with
  | .dataReady _ _, _, true => (Sink.fresh.consider capacity message).map .sinking
  | .baseAddress _, true, _ => (Source.fresh.consider message).map .sourcing
  | other, _, _ =>
    .silent (.refused
      (.channel (.unexpected "a handshake this peer can serve" other.name)))

def action (capacity : Nat) : Peer → Action Peer
  | .greeting hasReader hasWriter => .ask .receive fun
    | .ok message => greet capacity hasReader hasWriter message
    | .error error => .silent (.refused (.channel error))
  | .sinking sink => (sink.action capacity).map .sinking
  | .sourcing source => source.action.map .sourcing
  | .refused _ => .stop

def outcome? : Peer → Option (Except RelayError (PeerRole × Progress))
  | .sinking { phase := .finished, progress } => some (.ok (.sink, progress))
  | .sinking { phase := .failed error, .. } => some (.error error)
  | .sourcing { phase := .finished, progress } => some (.ok (.source, progress))
  | .sourcing { phase := .failed error, .. } => some (.error error)
  | .refused error => some (.error error)
  | _ => none

/-- Plays a peer while nobody else acts: how it ended, unless it waits without end, and the station
after it. -/
def run (mode : PeerMode) (capacity : Nat) (station : Station) :
    HostM (Option (Except RelayError (PeerRole × Progress)) × Station) := do
  let advanced ← advanceAlone (action capacity) (fun _ => false) (fresh mode) station
  return (advanced.party.outcome?, advanced.station)

end Peer

end ChunkRelay
