import ChunkRelay.Endpoint
import ChunkRelay.Socket.Wires

/-!
# Listening endpoints

An endpoint binds a socket file and accepts the connections made to it, oldest first. Connecting puts
a new wire into the listener's queue: its near end is the caller's, its far end the listener's.
-/

set_option autoImplicit false

namespace ChunkRelay

def socketPathLimit : Nat := 108

def checkSocketPath (path : String) : Except IoError Unit :=
  if path.any (· = '\x00') then
    .error (.custom .invalidInput "paths must not contain interior null bytes")
  else if socketPathLimit ≤ path.utf8ByteSize then
    .error (.custom .invalidInput "path must be shorter than SUN_LEN")
  else .ok ()

/-- Binds the socket file of an endpoint, in place of one that is there already. -/
def listenAt (directory : String) (endpoint : UInt32) : HostM (Except IoError Nat) := do
  let path := socketPath directory endpoint
  let host ← get
  match host.files.remove path with
  | .ok files =>
    set { host with files }
    note .debug "removed stale socket" [("path", path)]
  | .error cause =>
    if cause.kind ≠ .notFound then return .error cause
  let host ← get
  let location : Except IoError Location := do
    checkSocketPath path
    let location ← host.files.creatable path
    if (host.files.node? location).isSome then throw (.os 98)
    return location
  match location with
  | .error cause => return .error cause
  | .ok location =>
    let index := host.listeners.size
    set { host with
      files := host.files.add location (.socket index)
      listeners := host.listeners.push { live := true, waiting := [] } }
    return .ok index

def listenerAt (path : String) (host : Host) : Except IoError Nat := do
  checkSocketPath path
  match (← host.files.find path).2 with
  | .socket index =>
    if (host.listeners[index]?).any (·.live) then return index else throw (.os 111)
  | _ => throw (.os 111)

def connectTo (path : String) : HostM (Except IoError Nat) := do
  let host ← get
  match listenerAt path host with
  | .error cause => return .error cause
  | .ok index =>
    let wire ← newWire
    modify fun host => { host with
      listeners := host.listeners.modify index fun listener =>
        { listener with waiting := listener.waiting ++ [wire] } }
    return .ok wire

/-- Takes the connection that has waited longest, if there is one. -/
def acceptFrom (index : Nat) : HostM (Option Nat) := do
  let host ← get
  match (host.listeners[index]?).elim [] (·.waiting) with
  | [] => return none
  | wire :: rest =>
    set { host with
      listeners := host.listeners.modify index fun listener => { listener with waiting := rest } }
    return some wire

/-- Stops listening. The connections still waiting are reset; the socket file stays. -/
def stopListening (index : Nat) : HostM Unit := do
  let host ← get
  let waiting := (host.listeners[index]?).elim [] (·.waiting)
  set { host with listeners := host.listeners.modify index fun _ => { live := false, waiting := [] } }
  waiting.forM fun wire => changeWire wire fun state => ((), state.dropUnread .far true)

end ChunkRelay
