import ChunkRelay.Session.Run

/-!
# Preloaded remotes

A remote that says everything it has to say as soon as the link is open, and then listens or hangs up.
-/

set_option autoImplicit false

namespace ChunkRelay

/-- Accepts the far end that has been parked longest and lets it send its messages; it stays unless
it hangs up. -/
def preload (messages : List Message) (hangUp : Bool) : HostM (Option Transport) := do
  match ← Acceptor.parkedEnds.accept with
  | none => return none
  | some transport =>
    messages.forM fun message => do let _ ← transport.send message
    if hangUp then
      transport.drop
      return none
    else return some transport

/-- Runs a session through the hub against a preloaded remote, which speaks before the session knows
that its channel is open: the result, unless the session waits without end, and the remote's end if
there is one and it is still there. -/
def Session.runPreloaded (config : SessionConfig) (role : Role) (path : String)
    (allocator : Allocator) (messages : List Message) (hangUp : Bool) :
    HostM (Option TransferResult × Option Transport) := do
  announce config role
  let opened ← Connector.viaHub.openFor config.channelId
  let remote ← if opened.isOk then preload messages hangUp else pure none
  match ← startOn config role path allocator opened with
  | .error failure => return (some (.error failure), remote)
  | .ok session => return (← session.finish, remote)

end ChunkRelay
