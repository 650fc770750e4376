import ChunkRelay.Memory.Region

/-!
# Allocators

An allocator is a source of relay buffers. Opening it gives a handle; the handle allocates one
buffer, tells its address, maps it and, when it is closed, gives it back. Nothing here knows about
transfers.
-/

set_option autoImplicit false

namespace ChunkRelay

structure Overrides where
  openFailure : Option IoError
  allocFailure : Option IoError
  addressFailure : Option IoError
  address : Option UInt64
  mapSize : Option Nat
deriving DecidableEq, Repr

inductive Allocator where
  | bus
  | segments (directory : String)
  | device (path : String)
  /-- The bus with some answers overridden, for staging failures. -/
  | staged (overrides : Overrides)
deriving DecidableEq, Repr

def stagedName : String := "mock"

def Allocator.describe : Allocator → String
  | .bus => "simulated bus"
  | .segments directory => "shm " ++ directory
  | .device path => "device " ++ path
  | .staged _ => stagedName

inductive Handle where
  | onBus (handle : BusHandle)
  | onSegments (handle : SegmentHandle)
  | onDevice (handle : DeviceHandle)
  | staged (overrides : Overrides) (handle : BusHandle)
deriving DecidableEq, Repr

namespace Handle

def openOn (allocator : Allocator) : HostM (Except AllocationError Handle) := do
  match allocator with
  | .bus =>
    modify fun host => { host with bus := host.bus.openHandle }
    return .ok (.onBus .fresh)
  | .segments directory => return (SegmentHandle.openIn (← get).files directory).map .onSegments
  | .device path =>
    match DeviceHandle.openAt (← get).files path with
    | .error error => return .error error
    | .ok handle =>
      note .debug "opened relay memory device" [("path", path)]
      return .ok (.onDevice handle)
  | .staged overrides =>
    match overrides.openFailure with
    | some cause => return .error (.openFailed stagedName cause)
    | none =>
      modify fun host => { host with bus := host.bus.openHandle }
      return .ok (.staged overrides .fresh)

def allocFrame (handle : BusHandle) (size : Nat) :
    HostM (Except AllocationError UInt64 × BusHandle) := do
  let host ← get
  match handle.alloc host.bus size with
  | .error error => return (.error error, handle)
  | .ok (address, handle, bus) =>
    set { host with bus }
    return (.ok address, handle)

def alloc (handle : Handle) (size : Nat) : HostM (Except AllocationError UInt64 × Handle) := do
  match handle with
  | .onBus handle =>
    let (result, handle) ← allocFrame handle size
    return (result, .onBus handle)
  | .onSegments handle =>
    let host ← get
    let (result, handle, files, window) :=
      handle.alloc host.files host.window host.processId (host.sizing size) size
    set { host with files, window }
    match result with
    | .error error => return (.error error, .onSegments handle)
    | .ok segment =>
      note .debug "created shm segment" [("path", segment.path), ("size", toString size)]
      return (.ok segment.address, .onSegments handle)
  | .onDevice handle =>
    let host ← get
    match handle.alloc host.files host.driver size with
    | .error error => return (.error error, .onDevice handle)
    | .ok (number, handle, files) =>
      set { host with files }
      return (.ok number, .onDevice handle)
  | .staged overrides handle =>
    match overrides.allocFailure with
    | some cause => return (.error (.allocFailed size cause), .staged overrides handle)
    | none =>
      let (result, handle) ← allocFrame handle size
      return (result, .staged overrides handle)

def physicalAddress (handle : Handle) (host : Host) : Except AllocationError UInt64 :=
  match handle with
  | .onBus handle => handle.physicalAddress
  | .onSegments handle => handle.physicalAddress
  | .onDevice handle => handle.physicalAddress host.driver
  | .staged overrides handle =>
    match overrides.addressFailure with
    | some cause => .error (.addressQuery cause)
    | none => handle.physicalAddress.map fun address => overrides.address.getD address

def mapFrame (handle : BusHandle) (size : Nat) : HostM (Except AllocationError Region) := do
  return (handle.map (← get).bus size).map fun contents => ⟨.frame contents, size⟩

def map (handle : Handle) (size : Nat) : HostM (Except AllocationError Region) := do
  match handle with
  | .onBus handle => mapFrame handle size
  | .onSegments handle => return (handle.map size).map fun contents => ⟨.file contents, size⟩
  | .onDevice handle =>
    let host ← get
    match handle.map host.files size with
    | .error error => return .error error
    | .ok (contents, files) =>
      set { host with files }
      return .ok ⟨.file contents, size⟩
  | .staged overrides handle => mapFrame handle (overrides.mapSize.getD size)

def closeFrame (handle : BusHandle) : HostM BusHandle := do
  let host ← get
  let (handle, bus) := handle.close host.bus
  set { host with bus }
  return handle

def close (handle : Handle) : HostM Handle := do
  match handle with
  | .onBus handle => return .onBus (← closeFrame handle)
  | .onSegments handle =>
    let host ← get
    let (removal, handle, files) := handle.close host.files
    set { host with files }
    match removal with
    | .nothing => pure ()
    | .removed path => note .debug "removed shm segment" [("path", path)]
    | .failed path cause =>
      note .warn ("failed to remove shm segment: " ++ cause.message) [("path", path)]
    return .onSegments handle
  | .onDevice handle =>
    let (wasOpen, handle) := handle.close
    if wasOpen then note .debug "closed relay memory device handle" []
    return .onDevice handle
  | .staged overrides handle => return .staged overrides (← closeFrame handle)

end Handle

end ChunkRelay
