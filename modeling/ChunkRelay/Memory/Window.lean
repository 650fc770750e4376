import ChunkRelay.Memory.Address

/-!
# The address window of a process

Shared-memory segments live at made-up addresses: the process number above, and below it an offset
that goes up by whole pages. An offset that would leave the window starts over at its beginning.
-/

set_option autoImplicit false

namespace ChunkRelay

/-- The offset at which the next segment starts, if it fits. -/
structure Window where
  next : Nat
deriving DecidableEq, Repr

namespace Window

def first : Nat := 0x10000000

def last : Nat := 0x100000000

def fresh : Window := ⟨first⟩

def startFor (window : Window) (span : Nat) : Nat :=
  if last < window.next + span then first else window.next

/-- Reserves room for a segment: its address and the window after it. -/
def reserve (window : Window) (processId : UInt32) (size : Nat) :
    Except AllocationError (UInt64 × Window) :=
  let span := roundToPage size
  if last - first < span then .error (.invalidCapacity size)
  else
    let start := window.startFor span
    .ok ((processId.toUInt64 <<< 32) ||| .ofNat start, ⟨start + span⟩)

end Window

end ChunkRelay
