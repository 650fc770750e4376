import ChunkRelay.Channel.Connector

/-!
# Channels

A channel binds a transport to an endpoint and port and speaks the handshake: announcements and the
waits for their answers. It tries nothing twice.
-/

set_option autoImplicit false

namespace ChunkRelay

structure Channel where
  id : ChannelId
  wait : Wait
  /-- The transport; nothing once the channel is closed. -/
  transport : Option Transport
deriving DecidableEq, Repr

/-- The length that ended a chunk, or the kind of message that came instead. -/
def Message.readDone? : Message → Except ChannelError UInt64
  | .readDone length => .ok length
  | other => .error (.unexpected "read-done" other.name)

/-- Where a chunk was written and how long it is, or the kind of message that came instead. -/
def Message.writeDone? : Message → Except ChannelError (UInt64 × UInt64)
  | .writeDone address length => .ok (address, length)
  | other => .error (.unexpected "write-done" other.name)

namespace Channel

def onTransport (id : ChannelId) (wait : Wait) (transport : Transport) : Channel :=
  { id, wait, transport := some transport }

/-- Opens a channel on a transport that a connector has opened, if it has. -/
def openOn (id : ChannelId) (wait : Wait) (opened : Except ChannelError Transport) :
    HostM (Except ChannelError Channel) := do
  match opened with
  | .error error => return .error error
  | .ok transport =>
    note .debug "opened message channel" id.fields
    return .ok (onTransport id wait transport)

def openVia (connector : Connector) (id : ChannelId) (wait : Wait) :
    HostM (Except ChannelError Channel) := do
  openOn id wait (← connector.openFor id)

def send (channel : Channel) (message : Message) : HostM (Except ChannelError Unit) :=
  match channel.transport with
  | none => pure (.error .closed)
  | some transport => transport.send message

/-- Receives a message while nobody else acts; nothing if the wait would have no end. -/
def receive (channel : Channel) (wait : Wait) : HostM (Option (Except ChannelError Message)) :=
  match channel.transport with
  | none => pure (some (.error .closed))
  | some transport => transport.receive wait

def announceReady (channel : Channel) (address length : UInt64) :
    HostM (Except ChannelError Unit) :=
  channel.send (.dataReady address length)

def announceReadDone (channel : Channel) (length : UInt64) : HostM (Except ChannelError Unit) :=
  channel.send (.readDone length)

def sendBaseAddress (channel : Channel) (address : UInt64) : HostM (Except ChannelError Unit) :=
  channel.send (.baseAddress address)

def waitReadDone (channel : Channel) (wait : Wait) :
    HostM (Option (Except ChannelError UInt64)) := do
  return (← channel.receive wait).map (· >>= Message.readDone?)

def waitWriteDone (channel : Channel) (wait : Wait) :
    HostM (Option (Except ChannelError (UInt64 × UInt64))) := do
  return (← channel.receive wait).map (· >>= Message.writeDone?)

def close (channel : Channel) : HostM Channel := do
  match channel.transport with
  | none => return channel
  | some transport =>
    let transport ← transport.close
    note .debug "closed message channel" channel.id.fields
    transport.drop
    return { channel with transport := none }

end Channel

end ChunkRelay
