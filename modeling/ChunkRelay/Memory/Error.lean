import ChunkRelay.IoError
import ChunkRelay.Text.Hex

/-!
# Allocation errors

Everything that can go wrong between asking for a relay buffer and reaching its bytes by address.
-/

set_option autoImplicit false

namespace ChunkRelay

open Text (hex)

inductive AllocationError where
  /-- The source of buffers could not be opened. -/
  | openFailed (path : String) (cause : IoError)
  /-- The source refused to hand out that many bytes. -/
  | allocFailed (size : Nat) (cause : IoError)
  /-- The wanted capacity is zero or more than the source can describe. -/
  | invalidCapacity (requested : Nat)
  | addressQuery (cause : IoError)
  /-- The reported address is not positive as a signed number. -/
  | invalidAddress (address : UInt64)
  /-- Mapping failed or gave fewer bytes than asked for. -/
  | mapFailed (size : Nat) (cause : IoError)
  | outOfOrder (what : String)
  | unmapped (address : UInt64) (length : Nat)
  | closed
deriving DecidableEq, Repr

namespace AllocationError

def label : AllocationError → String
  | .openFailed _ _ => "Open"
  | .allocFailed _ _ => "Alloc"
  | .invalidCapacity _ => "InvalidCapacity"
  | .addressQuery _ => "PhysicalAddress"
  | .invalidAddress _ => "InvalidPhysicalAddress"
  | .mapFailed _ _ => "Map"
  | .outOfOrder _ => "OutOfOrder"
  | .unmapped _ _ => "Unmapped"
  | .closed => "Closed"

def message : AllocationError → String
  | .openFailed path cause => "failed to open allocator " ++ path ++ ": " ++ cause.message
  | .allocFailed size cause =>
    "allocation of " ++ toString size ++ " bytes failed: " ++ cause.message
  | .invalidCapacity requested => "invalid relay buffer capacity " ++ toString requested
  | .addressQuery cause => "failed to query physical address: " ++ cause.message
  | .invalidAddress address =>
    "allocator reported non-positive physical address " ++ hex address.toNat
  | .mapFailed size cause => "failed to map " ++ toString size ++ " bytes: " ++ cause.message
  | .outOfOrder what => "allocator handle used out of order: " ++ what
  | .unmapped address length =>
    "physical range " ++ hex address.toNat ++ "+" ++ toString length ++
      " is not backed by a live buffer"
  | .closed => "allocator handle is closed"

/-- The system's error behind an allocation error, if there is one. -/
def cause? : AllocationError → Option IoError
  | .openFailed _ cause | .allocFailed _ cause | .addressQuery cause | .mapFailed _ cause =>
    some cause
  | .invalidCapacity _ | .invalidAddress _ | .outOfOrder _ | .unmapped _ _ | .closed => none

def alreadyAllocated : AllocationError :=
  .outOfOrder "handle already holds a buffer"

def addressBeforeAlloc : AllocationError :=
  .outOfOrder "physical address queried before alloc"

def mapBeforeAlloc : AllocationError :=
  .outOfOrder "map issued before alloc"

end AllocationError

end ChunkRelay
