import ChunkRelay.Files.Tree
import ChunkRelay.Memory.Address

/-!
# The buffer device

A driver behind a device node hands out one buffer per open file. It answers two requests, one that
allocates and one that tells the address; mapping the file then reaches the bytes. A node without
that driver knows neither request.
-/

set_option autoImplicit false

namespace ChunkRelay

def defaultDevicePath : String := "/dev/relay_mem"

namespace DeviceRequest

/-- The number of a request: its direction, a letter, a number and the size of its operand. -/
def code (direction : Nat) (letter : Char) (number size : Nat) : Nat :=
  direction <<< 30 ||| size <<< 16 ||| letter.toNat <<< 8 ||| number

def allocate : Nat := code 1 'R' 1 8

def physicalAddress : Nat := code 2 'R' 2 8

end DeviceRequest

/-- What a driver does with a request: it answers with a number, or refuses with an error number. -/
inductive DriverReply where
  | answer (value : Nat)
  | refuse (code : Nat)
deriving DecidableEq, Repr

structure Driver where
  allocate : DriverReply
  physicalAddress : DriverReply
deriving DecidableEq, Repr

/-- The error number for a request the driver does not know. -/
def unknownRequest : Nat := 25

def allocateReply (driver : Option Driver) : DriverReply :=
  driver.elim (.refuse unknownRequest) (·.allocate)

def physicalAddressReply (driver : Option Driver) : DriverReply :=
  driver.elim (.refuse unknownRequest) (·.physicalAddress)

/-- A handle on a device node: the node while it is open, and the size allocated on it. -/
structure DeviceHandle where
  node : Option Node
  allocated : Option Nat
deriving DecidableEq, Repr

namespace DeviceHandle

def openAt (tree : FileTree) (path : String) : Except AllocationError DeviceHandle :=
  match tree.openWritable path with
  | .error cause => .error (.openFailed path cause)
  | .ok node => .ok { node := some node, allocated := none }

/-- Asks the driver for a buffer, once; the driver sizes the file. A negative answer is a failure. -/
def alloc (handle : DeviceHandle) (tree : FileTree) (driver : Option Driver) (size : Nat) :
    Except AllocationError (UInt64 × DeviceHandle × FileTree) :=
  if handle.allocated.isSome then .error .alreadyAllocated
  else match handle.node with
    | none => .error .closed
    | some node =>
      match allocateReply driver with
      | .refuse code => .error (.allocFailed size (.os (systemNumber code)))
      | .answer value =>
        let result := systemNumber value
        if result < 0 then .error (.allocFailed size (.os 0))
        else
          let tree := match node with
            | .file contents =>
              if size ≤ maxSigned then tree.modify contents (Extent.resize · size) else tree
            | _ => tree
          .ok (.ofNat result.toNat, { handle with allocated := some size }, tree)

def physicalAddress (handle : DeviceHandle) (driver : Option Driver) :
    Except AllocationError UInt64 :=
  if handle.allocated.isNone then .error .addressBeforeAlloc
  else if handle.node.isNone then .error .closed
  else match physicalAddressReply driver with
    | .refuse code => .error (.addressQuery (.os (systemNumber code)))
    | .answer value => .ok (.ofNat value)

/-- The contents to map, for a size up to the allocated one that a process can reach. Every mapping
of the zero device has contents of its own. -/
def map (handle : DeviceHandle) (tree : FileTree) (size : Nat) :
    Except AllocationError (Nat × FileTree) :=
  match handle.allocated with
  | none => .error .mapBeforeAlloc
  | some allocated =>
    if allocated < size then .error (.mapFailed size (.bare .invalidInput))
    else match handle.node with
      | none => .error .closed
      | some node =>
        if maxSigned < size then
          .error (.mapFailed size (.custom .invalidInput "memory map length overflows isize"))
        else if addressSpace ≤ size then .error (.mapFailed size (.os 12))
        else match node with
          | .file contents => .ok (contents, tree)
          | .zeroDevice => .ok (tree.addContents (.zeroed size))
          | _ => .error (.mapFailed size (.os 19))

/-- Closes the node and with it the buffer: whether it was open, and the closed handle. -/
def close (handle : DeviceHandle) : Bool × DeviceHandle :=
  (handle.node.isSome, { node := none, allocated := none })

end DeviceHandle

end ChunkRelay
