import ChunkRelay.Files.Path
import ChunkRelay.Files.Tree
import ChunkRelay.Memory.Window
import ChunkRelay.Text.Numeral

/-!
# Shared-memory segments

A segment is a file named for its address, so another process finds the bytes at an address by the
names in a directory. A handle makes one such file and removes it when it is closed.
-/

set_option autoImplicit false

namespace ChunkRelay

def defaultSegmentDirectory : String := "/dev/shm"

def segmentMark : String := "relay-"

def segmentName (address : UInt64) : String :=
  segmentMark ++ Text.paddedHex 16 address.toNat

/-- The address a name stands for, if it has a segment's form. -/
def segmentBase? (name : String) : Option UInt64 :=
  if name.startsWith segmentMark then
    let digits := name.toList.drop segmentMark.length
    if digits.length ≠ 16 then none
    else match Text.readNatural 16 0xFFFFFFFFFFFFFFFF digits with
      | .ok value => some (.ofNat value)
      | .error _ => none
  else none

structure SegmentFile where
  base : UInt64
  contents : Nat
  size : Nat
deriving DecidableEq, Repr

namespace SegmentFile

def holds (file : SegmentFile) (address : UInt64) (length : Nat) : Bool :=
  file.base ≤ address &&
    (address - file.base).toNat < file.size &&
    (address - file.base).toNat + length ≤ file.size

/-- The contents and offset of a range in the first segment that holds it. -/
def locate (files : List SegmentFile) (address : UInt64) (length : Nat) : Option (Nat × Nat) :=
  (files.find? (·.holds address length)).map fun file =>
    (file.contents, (address - file.base).toNat)

end SegmentFile

def FileTree.segments (tree : FileTree) (directory : String) : List SegmentFile :=
  match tree.list directory with
  | .error _ => []
  | .ok entries => entries.filterMap fun (name, node) =>
    match segmentBase? name, node with
    | some base, .file contents => some { base, contents, size := (tree.extent contents).size }
    | _, _ => none

def FileTree.resolveSegment (tree : FileTree) (directory : String) (address : UInt64)
    (length : Nat) : Except AllocationError (Nat × Nat) :=
  match SegmentFile.locate (tree.segments directory) address length with
  | none => .error (.unmapped address length)
  | some place => .ok place

structure Segment where
  path : String
  contents : Nat
  address : UInt64
  size : Nat
deriving DecidableEq, Repr

/-- A handle on a directory of segments: the one it holds, and whether it was closed. -/
structure SegmentHandle where
  directory : String
  segment : Option Segment
  closed : Bool
deriving DecidableEq, Repr

inductive SegmentRemoval where
  /-- There was no file, or nothing to do. -/
  | nothing
  | removed (path : String)
  | failed (path : String) (cause : IoError)
deriving DecidableEq, Repr

namespace SegmentHandle

def openIn (tree : FileTree) (directory : String) : Except AllocationError SegmentHandle :=
  match tree.find directory with
  | .error cause => .error (.openFailed directory cause)
  | .ok (_, .directory) => .ok { directory, segment := none, closed := false }
  | .ok (_, _) => .error (.openFailed directory (.custom .invalidInput "not a directory"))

/-- Makes a segment, once. The window moves on even if the file cannot be made, and a file that
cannot be sized is removed again. -/
def alloc (handle : SegmentHandle) (tree : FileTree) (window : Window) (processId : UInt32)
    (sizing : Option IoError) (size : Nat) :
    Except AllocationError Segment × SegmentHandle × FileTree × Window :=
  if handle.closed then (.error .closed, handle, tree, window)
  else if handle.segment.isSome then (.error .alreadyAllocated, handle, tree, window)
  else if size = 0 then (.error (.invalidCapacity size), handle, tree, window)
  else match window.reserve processId size with
    | .error error => (.error error, handle, tree, window)
    | .ok (address, window) =>
      let path := joinPath handle.directory (segmentName address)
      match tree.createNew path with
      | .error cause => (.error (.allocFailed size cause), handle, tree, window)
      | .ok (contents, tree) =>
        match sizing with
        | some cause =>
          (.error (.allocFailed size cause), handle, (tree.remove path).toOption.getD tree, window)
        | none =>
          let segment := { path, contents, address, size }
          (.ok segment, { handle with segment := some segment },
            tree.modify contents (Extent.resize · size), window)

def physicalAddress (handle : SegmentHandle) : Except AllocationError UInt64 :=
  if handle.closed then .error .closed
  else match handle.segment with
    | none => .error .addressBeforeAlloc
    | some segment => .ok segment.address

def map (handle : SegmentHandle) (size : Nat) : Except AllocationError Nat :=
  if handle.closed then .error .closed
  else match handle.segment with
    | none => .error .mapBeforeAlloc
    | some segment =>
      if segment.size < size then .error (.mapFailed size (.bare .invalidInput))
      else .ok segment.contents

def close (handle : SegmentHandle) (tree : FileTree) :
    SegmentRemoval × SegmentHandle × FileTree :=
  if handle.closed then (.nothing, handle, tree)
  else
    let closed := { handle with segment := none, closed := true }
    match handle.segment with
    | none => (.nothing, closed, tree)
    | some segment =>
      match tree.remove segment.path with
      | .ok tree => (.removed segment.path, closed, tree)
      | .error cause =>
        if cause.kind = .notFound then (.nothing, closed, tree)
        else (.failed segment.path cause, closed, tree)

end SegmentHandle

end ChunkRelay
