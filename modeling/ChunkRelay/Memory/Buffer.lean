import ChunkRelay.Memory.Handle

/-!
# Relay buffers

A relay buffer is a mapped region whose physical address the remote side knows. Acquiring one either
passes every stage or leaves nothing behind; releasing it gives the region back before the handle.
-/

set_option autoImplicit false

namespace ChunkRelay

/-- The capacity of a relay buffer unless a caller says otherwise. -/
def defaultCapacity : Nat := 0x300000

structure Holding where
  region : Region
  handle : Handle
deriving DecidableEq, Repr

structure RelayBuffer where
  /-- The region and its handle; nothing once the buffer is released. -/
  holding : Option Holding
  address : UInt64
  capacity : Nat
deriving DecidableEq, Repr

namespace RelayBuffer

/-- Allocates on a handle, checks the address and maps: all that is needed for a buffer. -/
def establish (handle : Handle) (capacity : Nat) :
    HostM (Except AllocationError (UInt64 × Region) × Handle) := do
  let (result, handle) ← handle.alloc capacity
  let host ← get
  match result >>= fun _ => handle.physicalAddress host >>= validateAddress with
  | .error error => return (.error error, handle)
  | .ok address =>
    let mapped ← handle.map capacity
    let region : Except AllocationError Region := do
      let region ← mapped
      if region.length < capacity then throw (.mapFailed capacity (.bare .unexpectedEof))
      return region
    return (region.map fun region => (address, region), handle)

/-- Acquires a buffer of a capacity that is positive as a signed number. -/
def acquire (allocator : Allocator) (capacity : Nat) :
    HostM (Except AllocationError RelayBuffer) := do
  if capacity = 0 ∨ maxSigned < capacity then return .error (.invalidCapacity capacity)
  match ← Handle.openOn allocator with
  | .error error => return .error error
  | .ok handle =>
    match ← establish handle capacity with
    | (.error error, handle) =>
      let _ ← handle.close
      return .error error
    | (.ok (address, region), handle) =>
      note .debug "acquired relay buffer"
        [("allocator", allocator.describe), ("capacity", toString capacity),
          ("physical_address", Text.hex address.toNat)]
      return .ok { holding := some { region, handle }, address, capacity }

def release (buffer : RelayBuffer) : HostM RelayBuffer := do
  match buffer.holding with
  | none => return buffer
  | some holding =>
    let _ ← holding.handle.close
    note .debug "released relay buffer" [("physical_address", Text.hex buffer.address.toNat)]
    return { buffer with holding := none }

def read (buffer : RelayBuffer) (start length : Nat) (host : Host) : ByteArray :=
  match buffer.holding with
  | none => .empty
  | some holding => holding.region.read start length host

def toBytes (buffer : RelayBuffer) (host : Host) : ByteArray :=
  buffer.read 0 buffer.capacity host

def write (buffer : RelayBuffer) (start : Nat) (bytes : ByteArray) : HostM Unit :=
  match buffer.holding with
  | none => pure ()
  | some holding => modify (holding.region.write start bytes)

def clear (buffer : RelayBuffer) : HostM Unit :=
  match buffer.holding with
  | none => pure ()
  | some holding => modify (holding.region.clear buffer.capacity)

/-- The first bytes of a buffer, as many as it has room for. -/
def chunk (buffer : RelayBuffer) (length : Nat) (host : Host) :
    Except AllocationError ByteArray :=
  if buffer.capacity < length then .error (.invalidCapacity length)
  else .ok (buffer.read 0 length host)

def describe (buffer : RelayBuffer) : String :=
  "RelayBuffer \x7b capacity: " ++ toString buffer.capacity ++ ", physical_address: " ++
    Text.hex buffer.address.toNat ++ ", mapped: " ++ toString buffer.holding.isSome ++ " \x7d"

end RelayBuffer

end ChunkRelay
