import ChunkRelay.Channel.Connector
import ChunkRelay.Remote.Peer
import ChunkRelay.Transfer.Advance

/-!
# Services

A service accepts one connection, plays the peer on it and then takes its end of the connection away.
-/

set_option autoImplicit false

namespace ChunkRelay

structure ServiceConfig where
  mode : PeerMode
  capacity : Nat
  wait : Wait
  memory : AddressedMemory
  reader : Reader
  writer : Writer

inductive Service where
  | accepting (acceptor : Acceptor) (config : ServiceConfig)
  | serving (capacity : Nat) (peer : Peer) (station : Station)
  | finished (outcome : Except RelayError (PeerRole × Progress)) (writer : Writer)

namespace Service

def onTransport (config : ServiceConfig) (transport : Transport) : Service :=
  .serving config.capacity (.fresh config.mode)
    (.ofPeer config.capacity transport config.wait config.memory config.reader config.writer)

def settle (capacity : Nat) (peer : Peer) (station : Station) : HostM Service := do
  match peer.outcome? with
  | none => return .serving capacity peer station
  | some outcome =>
    if let some transport := station.transport then transport.drop
    return .finished outcome station.writer

/-- Lets a service act as long as it can: whether it did anything, and the service after it. -/
def advance : Service → HostM (Bool × Service)
  | .accepting acceptor config => do
    match ← acceptor.accept with
    | none => return (false, .accepting acceptor config)
    | some transport => return (true, onTransport config transport)
  | .serving capacity peer station => do
    let advanced ← ChunkRelay.advance (Peer.action capacity) (fun _ => false) peer station
    return (advanced.moved, ← settle capacity advanced.party advanced.station)
  | .finished outcome writer => return (false, .finished outcome writer)

/-- Ends the bounded wait of the peer; nothing if there is none. -/
def expire : Service → HostM (Option Service)
  | .serving capacity peer station => do
    match ← ChunkRelay.expire (Peer.action capacity) peer station with
    | none => return none
    | some peer => return some (← settle capacity peer station)
  | _ => return none

def wait? : Service → Option Wait
  | .serving _ _ station => some station.wait
  | _ => none

def supply (files : FileTree) : Service → Nat
  | .accepting _ config => config.reader.supply files
  | .serving _ _ station => station.reader.supply files
  | .finished _ _ => 0

def pendingWrites : Service → Nat
  | .accepting _ config => config.writer.pending
  | .serving _ _ station => station.writer.pending
  | .finished _ _ => 0

end Service

end ChunkRelay
