import ChunkRelay.Bytes.Extent
import ChunkRelay.Memory.Address

/-!
# The simulated bus

A bus hands out zeroed frames at ascending addresses and answers accesses by address. An access
looks at one frame only, the one with the greatest base at or below the address. The bus counts its
open handles and its live frames, so a caller sees whether everything was given back. Contents
outlive their frame, because a mapping may still look at them.
-/

set_option autoImplicit false

namespace ChunkRelay

structure Bus where
  next : UInt64
  /-- The base of each live frame and the index of its contents. -/
  frames : List (UInt64 × Nat)
  /-- The contents of all frames ever handed out. -/
  contents : Array Extent
  openHandles : Nat

namespace Bus

def defaultBase : UInt64 := 0x80000000

/-- A bus without frames whose first one will be at `base`. -/
def withBase (base : UInt64) : Bus :=
  { next := base, frames := [], contents := #[], openHandles := 0 }

def liveFrames (bus : Bus) : Nat :=
  bus.frames.length

def openHandle (bus : Bus) : Bus :=
  { bus with openHandles := bus.openHandles + 1 }

/-- The greatest size a frame may have, so that its end can be rounded up to a page. -/
def maxFrame : Nat := maxSigned - (pageSize - 1)

/-- Hands out a zeroed frame: its base and the index of its contents. A frame at an address in use
takes the place of the one there. -/
def insert (bus : Bus) (size : Nat) : Except AllocationError ((UInt64 × Nat) × Bus) :=
  if maxFrame < size then .error (.invalidCapacity size)
  else if addressSpace ≤ size then .error (.allocFailed size (.bare .outOfMemory))
  else
    let frame := (bus.next, bus.contents.size)
    .ok (frame,
      { bus with
        next := bus.next + .ofNat (roundToPage size)
        frames := frame :: bus.frames.filter (·.1 ≠ bus.next)
        contents := bus.contents.push (.zeroed size) })

def remove (bus : Bus) (address : UInt64) : Bus :=
  { bus with frames := bus.frames.filter (·.1 ≠ address) }

/-- The live frame with the greatest base at or below an address. -/
def nearest? (bus : Bus) (address : UInt64) : Option (UInt64 × Nat) :=
  bus.frames.foldl (fun best? frame =>
    if frame.1 ≤ address then
      match best? with
      | none => some frame
      | some best => if best.1 ≤ frame.1 then some frame else some best
    else best?) none

def extent (bus : Bus) (index : Nat) : Extent :=
  bus.contents.getD index default

def resolve (bus : Bus) (address : UInt64) (length : Nat) : Except AllocationError (Nat × Nat) :=
  match bus.nearest? address with
  | none => .error (.unmapped address length)
  | some (base, index) =>
    let offset := (address - base).toNat
    if (bus.extent index).size < offset + length then .error (.unmapped address length)
    else .ok (index, offset)

def modify (bus : Bus) (index : Nat) (change : Extent → Extent) : Bus :=
  { bus with contents := bus.contents.modify index change }

def read (bus : Bus) (address : UInt64) (length : Nat) : Except AllocationError ByteArray :=
  (bus.resolve address length).map fun (index, offset) => (bus.extent index).read offset length

def write (bus : Bus) (address : UInt64) (bytes : ByteArray) : Except AllocationError Bus :=
  (bus.resolve address bytes.size).map fun (index, offset) =>
    bus.modify index (Extent.write · offset bytes)

end Bus

/-- A handle on a bus: the frame it holds, and whether it was closed. -/
structure BusHandle where
  frame : Option (UInt64 × Nat)
  closed : Bool
deriving DecidableEq, Repr

namespace BusHandle

def fresh : BusHandle :=
  { frame := none, closed := false }

def alloc (handle : BusHandle) (bus : Bus) (size : Nat) :
    Except AllocationError (UInt64 × BusHandle × Bus) :=
  if handle.closed then .error .closed
  else if handle.frame.isSome then .error .alreadyAllocated
  else if size = 0 then .error (.invalidCapacity size)
  else (bus.insert size).map fun (frame, bus) => (frame.1, { handle with frame := some frame }, bus)

def physicalAddress (handle : BusHandle) : Except AllocationError UInt64 :=
  if handle.closed then .error .closed
  else match handle.frame with
    | none => .error .addressBeforeAlloc
    | some (address, _) => .ok address

def map (handle : BusHandle) (bus : Bus) (size : Nat) : Except AllocationError Nat :=
  if handle.closed then .error .closed
  else match handle.frame with
    | none => .error .mapBeforeAlloc
    | some (_, index) =>
      if (bus.extent index).size < size then .error (.mapFailed size (.bare .invalidInput))
      else .ok index

def close (handle : BusHandle) (bus : Bus) : BusHandle × Bus :=
  if handle.closed then (handle, bus)
  else
    let bus := match handle.frame with
      | none => bus
      | some (address, _) => bus.remove address
    ({ frame := none, closed := true }, { bus with openHandles := bus.openHandles - 1 })

end BusHandle

end ChunkRelay
