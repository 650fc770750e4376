import ChunkRelay.Memory.Error

/-!
# Physical addresses

An address is a 64-bit word. The remote side reads it as a signed number, so only positive ones are
of use. Buffers start at page boundaries relative to their first address.
-/

set_option autoImplicit false

namespace ChunkRelay

def pageSize : Nat := 4096

def roundToPage (size : Nat) : Nat :=
  (size + (pageSize - 1)) / pageSize * pageSize

def maxSigned : Nat := 0x7FFFFFFFFFFFFFFF

/-- Accepts an address that is positive as a signed number. -/
def validateAddress (address : UInt64) : Except AllocationError UInt64 :=
  if address = 0 ∨ maxSigned < address.toNat then .error (.invalidAddress address)
  else .ok address

end ChunkRelay
