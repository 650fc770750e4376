import ChunkRelay.IoError
import ChunkRelay.Link

/-!
# Connected sockets

A wire joins two stream sockets by one queue of bytes each way. Either end may stop writing, or stop
altogether; what was sent before stays readable. An end that goes away with bytes unread resets the
other one, which then fails once when it has nothing more to read, and reads as ended after that.
-/

set_option autoImplicit false

namespace ChunkRelay

/-- One end of a wire and the bytes on their way to it, oldest first. -/
structure SocketEnd where
  inbox : List UInt8
  readEnded : Bool
  writeEnded : Bool
  /-- The other end went away without reading everything. -/
  reset : Bool
deriving DecidableEq, Repr

def SocketEnd.fresh : SocketEnd :=
  { inbox := [], readEnded := false, writeEnded := false, reset := false }

structure Wire where
  near : SocketEnd
  far : SocketEnd
deriving DecidableEq, Repr

namespace Wire

def fresh : Wire :=
  { near := .fresh, far := .fresh }

def atSide (wire : Wire) : Side → SocketEnd
  | .near => wire.near
  | .far => wire.far

def setSide (wire : Wire) (side : Side) (value : SocketEnd) : Wire :=
  match side with
  | .near => { wire with near := value }
  | .far => { wire with far := value }

/-- Sends bytes from a side, unless it may not write any more. -/
def write (wire : Wire) (side : Side) (bytes : List UInt8) : Except IoError Unit × Wire :=
  if bytes.isEmpty then (.ok (), wire)
  else if (wire.atSide side).writeEnded then (.error (.os 32), wire)
  else
    let target := wire.atSide side.other
    (.ok (), wire.setSide side.other { target with inbox := target.inbox ++ bytes })

/-- Reads at most `limit` bytes without waiting; no bytes mean the end. -/
def read (wire : Wire) (side : Side) (limit : Nat) : Except IoError (List UInt8) × Wire :=
  let own := wire.atSide side
  if own.inbox ≠ [] then
    (.ok (own.inbox.take limit), wire.setSide side { own with inbox := own.inbox.drop limit })
  else if own.reset then (.error (.os 104), wire.setSide side { own with reset := false })
  else if own.readEnded then (.ok [], wire)
  else (.error (.os 11), wire)

/-- Takes exactly `count` bytes, or finds that they will never come; nothing while they still may. -/
def readExactly (wire : Wire) (side : Side) (count : Nat) : Option (Option (List UInt8)) × Wire :=
  let own := wire.atSide side
  if count ≤ own.inbox.length then
    (some (some (own.inbox.take count)),
      wire.setSide side { own with inbox := own.inbox.drop count })
  else if own.reset ∨ own.readEnded then
    (some none, wire.setSide side { own with inbox := [], reset := false })
  else (none, wire)

def discard (wire : Wire) (side : Side) : Wire :=
  wire.setSide side { wire.atSide side with inbox := [] }

def shutdownWrite (wire : Wire) (side : Side) : Wire :=
  let wire := wire.setSide side { wire.atSide side with writeEnded := true }
  wire.setSide side.other { wire.atSide side.other with readEnded := true }

/-- Takes a side's socket away; `unread` tells whether it leaves anything unread. -/
def dropUnread (wire : Wire) (side : Side) (unread : Bool) : Wire :=
  let other := wire.atSide side.other
  let wire := wire.setSide side.other
    { other with readEnded := true, writeEnded := true, reset := other.reset || unread }
  wire.setSide side { inbox := [], readEnded := true, writeEnded := true, reset := false }

def drop (wire : Wire) (side : Side) : Wire :=
  wire.dropUnread side !(wire.atSide side).inbox.isEmpty

end Wire

/-- A bound socket: the wires whose far end waits to be accepted, oldest first. -/
structure Listener where
  live : Bool
  waiting : List Nat
deriving DecidableEq, Repr

end ChunkRelay
