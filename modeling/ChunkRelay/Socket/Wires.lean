import ChunkRelay.Host

/-!
# Wires of a host

A host keeps all wires by number. Acting on a number nobody gave out does nothing.
-/

set_option autoImplicit false

namespace ChunkRelay

def newWire : HostM Nat :=
  modifyGet fun host => (host.wires.size, { host with wires := host.wires.push .fresh })

def changeWire {α : Type} (index : Nat) (act : Wire → α × Wire) : HostM α :=
  modifyGet fun host =>
    let (result, wire) := act (host.wires.getD index .fresh)
    (result, { host with wires := host.wires.setIfInBounds index wire })

def dropSocket (wire : Nat) (side : Side) : HostM Unit :=
  changeWire wire fun state => ((), state.drop side)

end ChunkRelay
