import ChunkRelay.Channel.Transport
import ChunkRelay.Memory.Addressed
import ChunkRelay.Memory.Buffer
import ChunkRelay.Stream.Reader
import ChunkRelay.Transfer.Action

/-!
# Stations

A station is the surroundings of one party: the stage it works on, its transport, its local data and
the memory it reaches by address. It answers every request at once, except a receive for which no
message is there yet.
-/

set_option autoImplicit false

namespace ChunkRelay

inductive Stage where
  | relay (buffer : RelayBuffer)
  | scratch (contents : Extent)

namespace Stage

def capacity : Stage → Nat
  | .relay buffer => buffer.capacity
  | .scratch contents => contents.size

def front (stage : Stage) (length : Nat) (host : Host) : ByteArray :=
  match stage with
  | .relay buffer => buffer.read 0 length host
  | .scratch contents => contents.read 0 length

def setFront (stage : Stage) (bytes : ByteArray) : HostM Stage := do
  match stage with
  | .relay buffer =>
    buffer.write 0 bytes
    return stage
  | .scratch contents => return .scratch (contents.write 0 bytes)

def clear (stage : Stage) : HostM Stage := do
  match stage with
  | .relay buffer =>
    buffer.clear
    return stage
  | .scratch contents => return .scratch (contents.clear 0 contents.size)

end Stage

structure Station where
  stage : Stage
  transport : Option Transport
  /-- How long the party waits for a message. -/
  wait : Wait
  memory : AddressedMemory
  reader : Reader
  writer : Writer

namespace Station

def ofEngine (buffer : RelayBuffer) (transport : Option Transport) (wait : Wait) (reader : Reader)
    (writer : Writer) : Station :=
  { stage := .relay buffer, transport, wait, memory := .throughBus, reader, writer }

/-- The station of a peer, which has a scratch of its own and reaches buffers by address. Memory is
idealised: there is a scratch of every capacity, where a process has as much memory as it has, and
never more than half its address space for one piece. -/
def ofPeer (capacity : Nat) (transport : Transport) (wait : Wait) (memory : AddressedMemory)
    (reader : Reader) (writer : Writer) : Station :=
  { stage := .scratch (.zeroed capacity), transport := some transport, wait, memory, reader,
    writer }

/-- Fills the stage with local data; what was read before a failure is on the stage as well. -/
def answerFill (station : Station) : HostM (Except IoError Nat × Station) := do
  let host ← get
  let filled := station.reader.fill host.files station.stage.capacity
  let stage ← station.stage.setFront filled.bytes
  return (filled.outcome.map fun _ => filled.bytes.size,
    { station with stage, reader := filled.reader })

/-- Puts the first bytes of the stage into the local destination. -/
def answerDrain (station : Station) (length : Nat) :
    HostM (Except WriteFailure Unit × Station) := do
  let host ← get
  let put := station.writer.put host.files (station.stage.front length host)
  set { host with files := put.files }
  return (put.outcome, { station with writer := put.writer })

def answerSend (station : Station) (message : Message) :
    HostM (Except ChannelError Unit) :=
  match station.transport with
  | none => pure (.error .closed)
  | some transport => transport.send message

/-- Looks for a message; from a closed transport none will come. -/
def answerReceive (station : Station) : HostM (Option (Except ChannelError Message)) :=
  match station.transport with
  | none => pure (some (.error .closed))
  | some transport => transport.poll

def answerFetch (station : Station) (address : UInt64) (length : Nat) :
    HostM (Except AllocationError Unit × Station) := do
  match station.memory.read address length (← get) with
  | .error error => return (.error error, station)
  | .ok bytes =>
    let stage ← station.stage.setFront bytes
    return (.ok (), { station with stage })

def answerPlace (station : Station) (address : UInt64) (length : Nat) :
    HostM (Except AllocationError Unit) := do
  station.memory.write address (station.stage.front length (← get))

/-- The answer to a request, and the station after it; nothing while a message may still come. -/
def answer (station : Station) : (request : Request) → HostM (Option request.Answer × Station)
  | .clear => do
    let stage ← station.stage.clear
    return (some (), { station with stage })
  | .fill => do
    let (result, station) ← station.answerFill
    return (some result, station)
  | .drain length => do
    let (result, station) ← station.answerDrain length
    return (some result, station)
  | .flush => return (some station.writer.flush, station)
  | .send message => do
    let result ← station.answerSend message
    return (some result, station)
  | .receive => do
    let result ← station.answerReceive
    return (result, station)
  | .fetch address length => do
    let (result, station) ← station.answerFetch address length
    return (some result, station)
  | .place address length => do
    let result ← station.answerPlace address length
    return (some result, station)

def backlog (station : Station) (host : Host) : Nat :=
  station.transport.elim 0 (·.backlog host)

end Station

end ChunkRelay
