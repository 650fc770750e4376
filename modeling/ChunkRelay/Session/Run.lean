import ChunkRelay.Session.Drive
import ChunkRelay.Stream.LocalFile

/-!
# Sessions

A session opens a channel, acquires a buffer, opens the local file, drives its engine to the end and
gives everything back on every path. While its engine waits for a message, others may act; so a session
is begun, moved forward as long as it can act, and concluded.
-/

set_option autoImplicit false

namespace ChunkRelay

structure Session where
  config : SessionConfig
  buffer : RelayBuffer
  channel : Channel
  engine : Engine
  station : Station

namespace Session

def openLocal (role : Role) (path : String) :
    HostM (Except LocalIOError (Reader × Writer)) := do
  let host ← get
  match role with
  | .sender =>
    match host.files.openReader path with
    | .error cause => return .error (.openFailed path cause)
    | .ok reader => return .ok (reader, .discard)
  | .receiver =>
    match host.files.openWriter path with
    | .error cause => return .error (.openFailed path cause)
    | .ok (writer, files) =>
      set { host with files }
      return .ok (.empty, writer)

def announce (config : SessionConfig) (role : Role) : HostM Unit :=
  note .info "span relay_session" (("role", role.label) :: config.channelId.fields)

/-- Takes what a session needs, in order: a channel on the transport that was opened for it, a buffer
and its file. On a failure nothing is kept. -/
def startOn (config : SessionConfig) (role : Role) (path : String) (allocator : Allocator)
    (opened : Except ChannelError Transport) : HostM (Except SessionFailure Session) := do
  match ← Channel.openOn config.channelId config.wait opened with
  | .error error => return .error (.inSetup role (.channel error))
  | .ok channel =>
    match ← RelayBuffer.acquire allocator config.capacity with
    | .error error =>
      let _ ← channel.close
      return .error (.inSetup role (.allocation error))
    | .ok buffer =>
      match ← openLocal role path with
      | .error error =>
        let _ ← buffer.release
        let _ ← channel.close
        return .error (.inSetup role (.localIO error))
      | .ok (reader, writer) =>
        note .info "session started"
          [("path", path), ("capacity", toString config.capacity)]
        return .ok
          { config, buffer, channel
            engine := .fresh role
            station := .ofEngine buffer channel.transport channel.wait reader writer }

def start (config : SessionConfig) (role : Role) (path : String) (allocator : Allocator)
    (connector : Connector) : HostM (Except SessionFailure Session) := do
  announce config role
  startOn config role path allocator (← connector.openFor config.channelId)

def action (session : Session) : Engine → Action Engine :=
  Engine.action session.buffer.address session.buffer.capacity

/-- Lets the engine act as long as it can: whether it did anything, and the session after it. -/
def advance (session : Session) : HostM (Bool × Session) := do
  let advanced ←
    ChunkRelay.advance session.action (fun _ => false) session.engine session.station
  return (advanced.moved, { session with engine := advanced.party, station := advanced.station })

/-- Ends the bounded wait of the engine; nothing if there is none. -/
def expire (session : Session) : HostM (Option Session) := do
  return (← ChunkRelay.expire session.action session.engine session.station).map fun engine =>
    { session with engine }

def isOver (session : Session) : Bool :=
  session.engine.state.isTerminal

def conclude (session : Session) : HostM TransferResult := do
  let _ ← session.buffer.release
  let _ ← session.channel.close
  let result := session.engine.result
  match result with
  | .ok report => note .info "session finished" report.progress.fields
  | .error failure =>
    note .warn "session failed"
      [("kind", failure.error.family.label), ("bytes", toString failure.report.progress.bytes),
        ("error", failure.error.message)]
  return result

/-- Moves a session to its end while nobody else acts. What comes back is nothing if it waits
without end. -/
def finish (session : Session) : HostM (Option TransferResult) := do
  let (_, session) ← session.advance
  if session.isOver then return some (← session.conclude)
  match ← session.expire with
  | none => return none
  | some session => return some (← session.conclude)

/-- Runs a session while nobody else acts. What comes back is nothing if it waits without end. -/
def run (config : SessionConfig) (role : Role) (path : String) (allocator : Allocator)
    (connector : Connector) : HostM (Option TransferResult) := do
  match ← start config role path allocator connector with
  | .error failure => return some (.error failure)
  | .ok session => session.finish

end Session

end ChunkRelay
