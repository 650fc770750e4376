import ChunkRelay.Hub
import ChunkRelay.Memory.Bus
import ChunkRelay.Memory.Device
import ChunkRelay.Memory.Segment
import ChunkRelay.Notice
import ChunkRelay.Socket.Wire

/-!
# The host

Everything the parties of a relay share: the bus, the hub, the files, the sockets and the locks, and
the notices written so far. An action of a party is a function on the host.
-/

set_option autoImplicit false

namespace ChunkRelay

structure Host where
  /-- The number of the process that makes segments. -/
  processId : UInt32
  bus : Bus
  hub : Hub
  files : FileTree
  /-- Why the system does not give a new file that size, if it does not. -/
  sizing : Nat → Option IoError
  window : Window
  /-- The driver behind every device node, if one is loaded. -/
  driver : Option Driver
  wires : Array Wire
  listeners : Array Listener
  locked : List Node
  notices : Array Notice

namespace Host

def fresh (processId : UInt32) (busBase : UInt64) (files : FileTree) : Host :=
  { processId
    bus := .withBase busBase
    hub := .empty
    files
    sizing := fun _ => none
    window := .fresh
    driver := none
    wires := #[]
    listeners := #[]
    locked := []
    notices := #[] }

end Host

abbrev HostM := StateM Host

def note (level : Level) (text : String) (fields : List (String × String)) : HostM Unit :=
  modify fun host => { host with notices := host.notices.push { level, text, fields } }

def unnoticed {α : Type} (action : HostM α) : HostM α := do
  let before := (← get).notices
  let result ← action
  modify fun host => { host with notices := before }
  return result

end ChunkRelay
