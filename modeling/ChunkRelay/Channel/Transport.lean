import ChunkRelay.Message.Frame
import ChunkRelay.Socket.Claim
import ChunkRelay.Socket.Wires
import ChunkRelay.Socket.Listen

/-!
# Transports

A transport carries control messages: an end of an in-process link, or a stream socket on which each
message is one frame. Receiving first looks for an answer that is there already (`poll`); only if
there is none does a wait begin, and a bounded one may run out (`expire`).
-/

set_option autoImplicit false

namespace ChunkRelay

structure SocketTransport where
  /-- The wire and the side of it; nothing once the transport is closed. -/
  stream : Option (Nat × Side)
  port : UInt32
  claim : Option PortClaim
deriving DecidableEq, Repr

inductive Transport where
  | link (index : Nat) (side : Side)
  | socket (transport : SocketTransport)
deriving DecidableEq, Repr

namespace SocketTransport

/-- A wait on a socket is never shorter than a millisecond. -/
def shortestWait : Duration := .ofMilliseconds 1

def onWire (wire : Nat) (side : Side) (port : UInt32) : SocketTransport :=
  { stream := some (wire, side), port, claim := none }

def send (transport : SocketTransport) (message : Message) : HostM (Except ChannelError Unit) := do
  note .trace "send" [("port", toString transport.port.toNat), ("msg", message.name)]
  match transport.stream with
  | none => return .error .closed
  | some (wire, side) =>
    let result ← changeWire wire fun state => state.write side (message.encode transport.port)
    return result.mapError fun _ => .closed

/-- The message in a frame, which has to be for this port. -/
def accept (transport : SocketTransport) (frame : List UInt8) : Except ChannelError Message := do
  let (port, message) ← Message.decode frame
  if port ≠ transport.port then throw (.portMismatch transport.port port)
  return message

/-- Takes a frame if there is one, or the reason why none will come. -/
def poll (transport : SocketTransport) : HostM (Option (Except ChannelError Message)) := do
  match transport.stream with
  | none => return some (.error .closed)
  | some (wire, side) =>
    match ← changeWire wire fun state => state.readExactly side frameLength with
    | none => return none
    | some none => return some (.error .closed)
    | some (some frame) =>
      let result := transport.accept frame
      if let .ok message := result then
        note .trace "recv" [("port", toString transport.port.toNat), ("msg", message.name)]
      return some result

/-- Ends a wait without a message: the part of a frame that had arrived is lost. -/
def expire (transport : SocketTransport) (limit : Duration) : HostM ChannelError := do
  if let some (wire, side) := transport.stream then
    changeWire wire fun state => ((), state.discard side)
  return .timeout (limit.longer shortestWait)

def close (transport : SocketTransport) : HostM SocketTransport := do
  if let some (wire, side) := transport.stream then dropSocket wire side
  if let some claim := transport.claim then claim.release
  return { transport with stream := none, claim := none }

end SocketTransport

namespace Transport

def send (transport : Transport) (message : Message) : HostM (Except ChannelError Unit) := do
  match transport with
  | .link index side =>
    let hub := (← get).hub
    if hub.isOpen index side then note .trace "send" ((hub.idOf index).fields ++ [("msg", message.name)])
    modifyGet fun host =>
      let (result, hub) := host.hub.send index side message
      (result, { host with hub })
  | .socket transport => transport.send message

/-- Takes the next message if there is one, or the reason why none will come. -/
def poll (transport : Transport) : HostM (Option (Except ChannelError Message)) := do
  match transport with
  | .link index side =>
    let host ← get
    let (result, hub) := host.hub.receive index side
    set { host with hub }
    if let some (.ok message) := result then
      note .trace "recv" ((hub.idOf index).fields ++ [("msg", message.name)])
    return result
  | .socket transport => transport.poll

def expire (transport : Transport) (limit : Duration) : HostM ChannelError := do
  match transport with
  | .link _ _ => return .timeout limit
  | .socket transport => transport.expire limit

/-- Receives a message while nobody else acts; nothing if the wait would have no end. -/
def receive (transport : Transport) (wait : Wait) :
    HostM (Option (Except ChannelError Message)) := do
  match ← transport.poll with
  | some result => return some result
  | none =>
    match wait with
    | .unbounded => return none
    | .atMost limit => return some (.error (← transport.expire limit))

/-- Receives for at most so many messages, until something else than a message comes: the messages
and, unless the wait would have no end, what came. -/
def receiveAll (transport : Transport) (wait : Wait) :
    Nat → HostM (List Message × Option ChannelError)
  | 0 => return ([], none)
  | limit + 1 => do
    match ← transport.receive wait with
    | none => return ([], none)
    | some (.error error) => return ([], some error)
    | some (.ok message) =>
      let (rest, last) ← transport.receiveAll wait limit
      return (message :: rest, last)

def backlog (transport : Transport) (host : Host) : Nat :=
  match transport with
  | .link index side => (host.hub.links[index]?).elim 0 (·.atSide side |>.inbox.length)
  | .socket transport =>
    transport.stream.elim 0 fun (wire, side) =>
      (host.wires.getD wire .fresh).atSide side |>.inbox.length

def close (transport : Transport) : HostM Transport := do
  match transport with
  | .link index side =>
    modify fun host => { host with hub := host.hub.close index side }
    return transport
  | .socket transport => return .socket (← transport.close)

def drop (transport : Transport) : HostM Unit := do
  match transport with
  | .link index side => modify fun host => { host with hub := host.hub.drop index side }
  | .socket transport => let _ ← transport.close

end Transport

end ChunkRelay
