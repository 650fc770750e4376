import ChunkRelay.Host

/-!
# Access by address

The remote side knows a buffer by its physical address only. It reaches the bytes through the bus or
through the segments of a directory.
-/

set_option autoImplicit false

namespace ChunkRelay

inductive AddressedMemory where
  | throughBus
  | throughSegments (directory : String)
deriving DecidableEq, Repr

namespace AddressedMemory

def read (memory : AddressedMemory) (address : UInt64) (length : Nat) (host : Host) :
    Except AllocationError ByteArray :=
  match memory with
  | .throughBus => host.bus.read address length
  | .throughSegments directory =>
    (host.files.resolveSegment directory address length).map fun (contents, offset) =>
      (host.files.extent contents).read offset length

def write (memory : AddressedMemory) (address : UInt64) (bytes : ByteArray) :
    HostM (Except AllocationError Unit) := do
  let host ← get
  match memory with
  | .throughBus =>
    match host.bus.write address bytes with
    | .error error => return .error error
    | .ok bus =>
      set { host with bus }
      return .ok ()
  | .throughSegments directory =>
    match host.files.resolveSegment directory address bytes.size with
    | .error error => return .error error
    | .ok (contents, offset) =>
      set { host with files := host.files.modify contents (Extent.write · offset bytes) }
      return .ok ()

end AddressedMemory

end ChunkRelay
