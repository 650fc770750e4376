import ChunkRelay.Channel.Error
import ChunkRelay.Endpoint
import ChunkRelay.Host

/-!
# Port claims

Whoever opens a session over a socket locks the file of its endpoint and port, so there is one
session at most for each. Giving the claim up unlocks the file and leaves it in place.
-/

set_option autoImplicit false

namespace ChunkRelay

structure PortClaim where
  node : Node
  path : String
deriving DecidableEq, Repr

namespace PortClaim

/-- Locks the file of an endpoint and port, which is made if it is not there. -/
def acquire (directory : String) (id : ChannelId) : HostM (Except ChannelError PortClaim) := do
  let path := lockPath directory id
  let host ← get
  match host.files.openOrCreate path with
  | .error cause => return .error (.io cause)
  | .ok (node, files) =>
    set { host with files }
    if node ∈ host.locked then return .error (.busy id.endpoint id.port)
    modify fun host => { host with locked := node :: host.locked }
    note .trace "claimed port" [("path", path)]
    return .ok { node, path }

def release (claim : PortClaim) : HostM Unit := do
  modify fun host => { host with locked := host.locked.erase claim.node }
  note .trace "released port" [("path", claim.path)]

end PortClaim

end ChunkRelay
