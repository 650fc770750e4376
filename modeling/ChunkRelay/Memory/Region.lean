import ChunkRelay.Host

/-!
# Regions

A region is a local view of the first bytes of a frame or of a file. Whoever reaches the same bytes
by address sees what is written here, and the other way round.
-/

set_option autoImplicit false

namespace ChunkRelay

inductive Backing where
  | frame (contents : Nat)
  | file (contents : Nat)
deriving DecidableEq, Repr

structure Region where
  backing : Backing
  length : Nat
deriving DecidableEq, Repr

namespace Region

def extent (region : Region) (host : Host) : Extent :=
  match region.backing with
  | .frame contents => host.bus.extent contents
  | .file contents => host.files.extent contents

def modify (region : Region) (change : Extent → Extent) (host : Host) : Host :=
  match region.backing with
  | .frame contents => { host with bus := host.bus.modify contents change }
  | .file contents => { host with files := host.files.modify contents change }

def read (region : Region) (start length : Nat) (host : Host) : ByteArray :=
  (region.extent host).read start length

def write (region : Region) (start : Nat) (bytes : ByteArray) (host : Host) : Host :=
  region.modify (Extent.write · start bytes) host

def clear (region : Region) (count : Nat) (host : Host) : Host :=
  region.modify (Extent.clear · 0 count) host

end Region

end ChunkRelay
