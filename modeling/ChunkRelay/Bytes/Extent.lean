/-!
# Sparse contents

The contents of a frame or a file: pieces of bytes laid over zeros. Clearing a range cuts it out of
every piece, so clearing and sizing cost nothing however large the extent is. What an extent holds is
its byte at each offset (`Extent.get`). Extents are idealised: none runs out of memory.
-/

set_option autoImplicit false

namespace ChunkRelay

def addressSpace : Nat := 0x800000000000

def zeros (count : Nat) : ByteArray :=
  if count = 0 then ByteArray.empty
  else
    let half := zeros (count / 2)
    let even := half ++ half
    if count % 2 = 0 then even else even.push 0
termination_by count
decreasing_by omega

structure Piece where
  start : Nat
  bytes : ByteArray

namespace Piece

def stop (piece : Piece) : Nat :=
  piece.start + piece.bytes.size

/-- The byte of a piece at an offset, if it reaches there. -/
def get? (piece : Piece) (offset : Nat) : Option UInt8 :=
  if piece.start ≤ offset then piece.bytes.data[offset - piece.start]? else none

/-- What is left of a piece once the offsets from `first` up to `last` are cut out. -/
def outside (first last : Nat) (piece : Piece) : List Piece :=
  if piece.stop ≤ first ∨ last ≤ piece.start then [piece]
  else
    let before := piece.bytes.extract 0 (first - piece.start)
    let after := piece.bytes.extract (last - piece.start) piece.bytes.size
    (if piece.start < first then [⟨piece.start, before⟩] else []) ++
      (if last < piece.stop then [⟨last, after⟩] else [])

def below (last : Nat) (piece : Piece) : Option Piece :=
  if piece.stop ≤ last then some piece
  else if piece.start < last then
    some ⟨piece.start, piece.bytes.extract 0 (last - piece.start)⟩
  else none

def overlay (start : Nat) (target : ByteArray) (piece : Piece) : ByteArray :=
  let first := max start piece.start
  let last := min (start + target.size) piece.stop
  if first < last then
    piece.bytes.copySlice (first - piece.start) target (first - start) (last - first)
  else target

end Piece

/-- Sized contents: pieces that do not overlap, and zeros everywhere else. -/
structure Extent where
  size : Nat
  pieces : List Piece

instance : Inhabited Extent := ⟨⟨0, []⟩⟩

namespace Extent

def zeroed (size : Nat) : Extent :=
  ⟨size, []⟩

def get (extent : Extent) (offset : Nat) : UInt8 :=
  (extent.pieces.findSome? (Piece.get? · offset)).getD 0

def clear (extent : Extent) (first last : Nat) : Extent :=
  { extent with pieces := extent.pieces.flatMap (Piece.outside first last) }

/-- Lays a piece that overlaps no other one over the contents; one that goes on where the latest
piece stops is joined to it. -/
def insertPiece (start : Nat) (bytes : ByteArray) : List Piece → List Piece
  | [] => [⟨start, bytes⟩]
  | ⟨otherStart, otherBytes⟩ :: rest =>
    if otherStart + otherBytes.size = start then ⟨otherStart, otherBytes ++ bytes⟩ :: rest
    else ⟨start, bytes⟩ :: ⟨otherStart, otherBytes⟩ :: rest

def write (extent : Extent) (start : Nat) (bytes : ByteArray) : Extent :=
  if bytes.size = 0 then extent
  else
    let ⟨size, pieces⟩ := extent.clear start (start + bytes.size)
    ⟨size, insertPiece start bytes pieces⟩

def read (extent : Extent) (start length : Nat) : ByteArray :=
  extent.pieces.foldl (Piece.overlay start) (zeros length)

def resize (extent : Extent) (size : Nat) : Extent :=
  ⟨size, extent.pieces.filterMap (Piece.below size)⟩

def writeGrowing (extent : Extent) (start : Nat) (bytes : ByteArray) : Extent :=
  let ⟨size, pieces⟩ := extent.write start bytes
  ⟨if bytes.size = 0 then size else max size (start + bytes.size), pieces⟩

def toBytes (extent : Extent) : ByteArray :=
  extent.read 0 extent.size

def ofBytes (bytes : ByteArray) : Extent :=
  (zeroed bytes.size).write 0 bytes

end Extent

end ChunkRelay
