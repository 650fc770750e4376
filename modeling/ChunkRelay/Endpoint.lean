import ChunkRelay.Files.Path
import ChunkRelay.Message

/-!
# Endpoint files

An endpoint listens on one socket file of a directory. Whoever opens a session on one of its ports
locks a file named for endpoint and port, which stays behind.
-/

set_option autoImplicit false

namespace ChunkRelay

def socketName (endpoint : UInt32) : String :=
  "relay-ep" ++ toString endpoint.toNat ++ ".sock"

def lockName (id : ChannelId) : String :=
  "relay-ep" ++ toString id.endpoint.toNat ++ "-p" ++ toString id.port.toNat ++ ".lock"

def socketPath (directory : String) (endpoint : UInt32) : String :=
  joinPath directory (socketName endpoint)

def lockPath (directory : String) (id : ChannelId) : String :=
  joinPath directory (lockName id)

end ChunkRelay
