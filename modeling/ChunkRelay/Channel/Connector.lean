import ChunkRelay.Channel.Transport

/-!
# Connectors

A connector opens the transport of a session by endpoint and port, and refuses while another session
holds them.
-/

set_option autoImplicit false

namespace ChunkRelay

inductive Connector where
  | viaHub
  | viaSockets (directory : String)
deriving DecidableEq, Repr

namespace Connector

/-- Opens a link at the hub and reports the parked ends that it let go of. -/
def openLink (id : ChannelId) : HostM (Except ChannelError Transport) := do
  let host ← get
  match host.hub.openLink id with
  | .error error => return .error error
  | .ok (index, hub) =>
    host.hub.stale.forM fun stale =>
      note .trace "dropping stale parked end" (host.hub.idOf stale).fields
    modify fun host => { host with hub }
    return .ok (.link index .near)

/-- Claims a port and connects to its endpoint. A failed connection gives the claim up. -/
def openSocket (directory : String) (id : ChannelId) :
    HostM (Except ChannelError Transport) := do
  match ← PortClaim.acquire directory id with
  | .error error => return .error error
  | .ok claim =>
    let path := socketPath directory id.endpoint
    match ← connectTo path with
    | .error cause =>
      claim.release
      return .error (.io cause)
    | .ok wire =>
      note .debug "connected to endpoint"
        [("path", path), ("port", toString id.port.toNat)]
      return .ok (.socket { stream := some (wire, .near), port := id.port, claim := some claim })

def openFor (connector : Connector) (id : ChannelId) : HostM (Except ChannelError Transport) :=
  match connector with
  | .viaHub => openLink id
  | .viaSockets directory => openSocket directory id

end Connector

def newLink (id : ChannelId) : HostM Nat :=
  modifyGet fun host =>
    let (index, hub) := host.hub.join id
    (index, { host with hub })

inductive Acceptor where
  | parkedEnds
  /-- The connections made to a listener; the frames are to be for one port. -/
  | listener (index : Nat) (port : UInt32)
deriving DecidableEq, Repr

/-- Takes the connection that has waited longest, if there is one. -/
def Acceptor.accept : Acceptor → HostM (Option Transport)
  | .parkedEnds => do
    let host ← get
    match host.hub.accept with
    | none => return none
    | some (index, hub) =>
      set { host with hub }
      return some (.link index .far)
  | .listener index port => do
    return (← acceptFrom index).map fun wire => .socket (.onWire wire .far port)

end ChunkRelay
