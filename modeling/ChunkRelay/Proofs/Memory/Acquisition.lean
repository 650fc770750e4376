import Mathlib.Logic.Relation
import ChunkRelay.Memory.Addressed
import ChunkRelay.Proofs.Memory.Handles
import ChunkRelay.Proofs.Memory.Stages

/-! Acquiring a relay buffer either passes every stage or fails in one of them,
and then everything is as it was: the handles and frames of the bus, the names
of all files, and what was stored before. A buffer that was acquired gives all
of it back when it is released, however it was used. -/

set_option autoImplicit false

namespace ChunkRelay

/-!
## Giving back
-/

/-- The handles and frames of the bus and the names of all files are what they were. -/
structure Host.Restored (before after : Host) : Prop where
  openHandles : after.bus.openHandles = before.bus.openHandles
  frames : after.bus.frames = before.bus.frames
  nodes : after.files.nodes = before.files.nodes

/-- Closing the handle gives back all that was taken since. -/
structure Handle.Returns (handle : Handle) (before host : Host) : Prop where
  owes : handle.Owes before.bus.loans host
  clears : handle.Clears before.files.nodes host

namespace Handle

variable {handle next : Handle} {before host after : Host}

theorem Returns.close (returns : handle.Returns before host) :
    before.Restored (handle.close.run host).2 where
  openHandles := congrArg Bus.Loans.openHandles returns.owes
  frames := congrArg Bus.Loans.frames returns.owes
  nodes := returns.clears.close

theorem Returns.congr (returns : handle.Returns before host)
    (loans : after.bus.loans = host.bus.loans) (nodes : after.files.nodes = host.files.nodes)
    (current : after.files.current = host.files.current) : handle.Returns before after where
  owes := returns.owes.congr loans
  clears := returns.clears.congr nodes current

/-- Closing changes the contents of nothing. -/
theorem close_spares (driven : Nat → Prop) (handle : Handle) (host : Host) :
    host.Spares driven (handle.close.run host).2 := by
  have bus : (handle.close.run host).2.bus.contents = host.bus.contents := by
    rw [close_bus]
    cases handle with
    | onBus held | staged overrides held =>
      obtain ⟨_ | frame, _ | _⟩ := held <;> rfl
    | onSegments held | onDevice held => rfl
  refine .of_eq bus ?_
  rw [close_files]
  cases handle with
  | onBus held | staged overrides held | onDevice held => rfl
  | onSegments held =>
    rcases held.close_cases host.files with same | ⟨_, _, same | ⟨segment, _, removed⟩⟩
    · exact congrArg (·.2.contents) same
    · exact congrArg (·.contents) same
    · obtain ⟨_, _, _, _, left⟩ := FileTree.remove_inv removed
      dsimp only
      rw [left]

/-- Closing a handle once more changes nothing. -/
theorem close_close (handle : Handle) (host : Host) :
    (handle.close.run host).1.close.run (handle.close.run host).2 = handle.close.run host := by
  cases handle with
  | onBus held | staged overrides held =>
    obtain ⟨_ | frame, _ | _⟩ := held <;> rfl
  | onDevice held =>
    obtain ⟨_ | node, allocated⟩ := held <;> rfl
  | onSegments held =>
    obtain ⟨directory, _ | segment, _ | _⟩ := held
    · rfl
    · rfl
    · simp only [close, SegmentHandle.close, StateT.run_bind, StateT.run_get, pure_bind]
      cases removed : host.files.remove segment.path with
      | ok later => rfl
      | error cause =>
        by_cases absent : cause.kind = .notFound
        · simp only [absent, Bool.false_eq_true, ↓reduceIte]
          rfl
        · simp only [absent, Bool.false_eq_true, ↓reduceIte]
          rfl
    · rfl

end Handle

namespace RelayBuffer

theorem Establishes.returns {handle next : Handle} {capacity : Nat} {before host after : Host}
    {result : Except AllocationError (UInt64 × Region)}
    (establishes : Establishes handle capacity host result next after)
    (returns : handle.Returns before host) (free : handle.OnBus → host.bus.NextFree) :
    next.Returns before after ∧ host.Spares handle.Drives after := by
  have allotted : ∀ {given : Except AllocationError UInt64} {middle : Host},
      (handle.alloc capacity).run host = ((given, next), middle) →
        next.Returns before middle ∧ host.Spares handle.Drives middle := by
    intro given middle allots
    obtain ⟨clears, spares⟩ := returns.clears.alloc allots
    exact ⟨⟨returns.owes.alloc_of free allots, clears⟩, spares⟩
  have mapped : ∀ {given : Except AllocationError UInt64} {region : Except AllocationError Region}
      {middle : Host}, (handle.alloc capacity).run host = ((given, next), middle) →
        (next.map capacity).run middle = (region, after) →
          next.Returns before after ∧ host.Spares handle.Drives after := by
    intro given region middle allots maps
    obtain ⟨returns, spares⟩ := allotted allots
    obtain ⟨bus, nodes, current, later⟩ := Handle.map_spares maps
    exact ⟨returns.congr (congrArg Bus.loans bus) nodes current, spares.trans later⟩
  cases establishes with
  | unallotted allots => exact allotted allots
  | unlocated allots _ => exact allotted allots
  | misplaced allots _ _ => exact allotted allots
  | unmapped allots _ _ maps => exact mapped allots maps
  | short allots _ _ maps _ => exact mapped allots maps
  | established allots _ _ maps _ => exact mapped allots maps

/-- A handle that was opened is fresh, so what it comes to is what was taken since. -/
theorem Establishes.returns_of_open {allocator : Allocator} {handle next : Handle} {capacity : Nat}
    {before opened after : Host} {result : Except AllocationError (UInt64 × Region)}
    (opens : (Handle.openOn allocator).run before = (.ok handle, opened))
    (establishes : Establishes handle capacity opened result next after)
    (free : allocator.OnBus → before.bus.NextFree) :
    next.Returns before after ∧ before.Spares (allocator.Drives before.files) after := by
  obtain ⟨_, further, frames, outcome⟩ := Handle.openOn_owes opens
  obtain ⟨clears, files, contents, onBus, drives, _⟩ := Handle.openOn_ok opens
  rcases outcome with ⟨⟨error, failed⟩, _⟩ | ⟨fresh, began, owes⟩
  · cases failed
  · cases began
    have free : handle.OnBus → opened.bus.NextFree := by
      intro given
      unfold Bus.NextFree
      rw [further, frames]
      exact free (onBus given)
    obtain ⟨returns, spares⟩ := establishes.returns ⟨owes, clears⟩ free
    have early : before.Spares (allocator.Drives before.files) opened :=
      .of_eq contents (congrArg FileTree.contents files)
    refine ⟨returns, early.trans { spares with files := fun index present foreign => ?_ }⟩
    exact spares.files index present fun driven => foreign (drives index driven)

/-- A buffer that was established is backed by contents. -/
theorem Establishes.present {allocator : Allocator} {handle next : Handle} {capacity : Nat}
    {before opened after : Host} {address : UInt64} {region : Region}
    (opens : (Handle.openOn allocator).run before = (.ok handle, opened))
    (establishes : Establishes handle capacity opened (.ok (address, region)) next after)
    (rooted : allocator.Rooted before.files) (some_capacity : capacity ≠ 0) :
    region.Present after := by
  obtain ⟨clears, _, _, _, _, roots⟩ := Handle.openOn_ok opens
  cases establishes with
  | established allots _ _ maps reaches =>
    have taken := (roots rooted).alloc allots (clears.alloc allots).2.fileSize
    exact taken.map (by omega) maps

/-!
## Using a buffer
-/

/-- One use of a buffer: through its own view, or by address from anywhere. -/
inductive Use (buffer : RelayBuffer) : Host → Host → Prop
  | cleared (host : Host) : Use buffer host (buffer.clear.run host).2
  | written (host : Host) {start : Nat} {bytes : ByteArray} :
      start + bytes.size ≤ buffer.capacity →
      Use buffer host ((buffer.write start bytes).run host).2
  | reached (host : Host) (memory : AddressedMemory) (address : UInt64) (bytes : ByteArray) :
      Use buffer host ((memory.write address bytes).run host).2

abbrev Uses (buffer : RelayBuffer) : Host → Host → Prop :=
  Relation.ReflTransGen buffer.Use

end RelayBuffer

/-- Nothing is opened, closed or named; only bytes change. -/
structure Host.Rewritten (before after : Host) : Prop where
  loans : after.bus.loans = before.bus.loans
  frames : after.bus.contents.size = before.bus.contents.size
  nodes : after.files.nodes = before.files.nodes
  current : after.files.current = before.files.current
  files : after.files.contents.size = before.files.contents.size

theorem Region.modify_rewritten (region : Region) (change : Extent → Extent) (host : Host) :
    host.Rewritten (region.modify change host) := by
  obtain ⟨contents | contents, length⟩ := region
  · exact ⟨rfl, Array.size_modify .., rfl, rfl, rfl⟩
  · exact ⟨rfl, rfl, rfl, rfl, Array.size_modify ..⟩

theorem Region.Present.rewritten {region : Region} {before after : Host}
    (present : region.Present before) (rewritten : before.Rewritten after) :
    region.Present after := by
  obtain ⟨contents | contents, length⟩ := region
  · exact Nat.lt_of_lt_of_eq present rewritten.frames.symm
  · exact Nat.lt_of_lt_of_eq present rewritten.files.symm

theorem AddressedMemory.write_rewritten (memory : AddressedMemory) (address : UInt64)
    (bytes : ByteArray) (host : Host) :
    host.Rewritten ((memory.write address bytes).run host).2 := by
  rcases memory.write_cases address bytes host with same | ⟨region, start, wrote⟩
  · rw [same]
    exact ⟨rfl, rfl, rfl, rfl, rfl⟩
  · rw [wrote]
    exact region.modify_rewritten _ host

namespace RelayBuffer

variable {buffer : RelayBuffer} {holding : Holding} {before host after : Host}

theorem Use.rewritten (use : buffer.Use host after) : host.Rewritten after := by
  cases use with
  | cleared | written =>
    obtain ⟨_ | holding, address, capacity⟩ := buffer
    · exact ⟨rfl, rfl, rfl, rfl, rfl⟩
    · exact holding.region.modify_rewritten _ host
  | reached memory address bytes => exact memory.write_rewritten address bytes host

theorem Uses.returns (uses : buffer.Uses host after) {handle : Handle}
    (returns : handle.Returns before host) : handle.Returns before after := by
  induction uses with
  | refl => exact returns
  | tail _ use ih =>
    have same := use.rewritten
    exact ih.congr same.loans same.nodes same.current

theorem Uses.present (uses : buffer.Uses host after) {region : Region}
    (present : region.Present host) : region.Present after := by
  induction uses with
  | refl => exact present
  | tail _ use ih => exact ih.rewritten use.rewritten

theorem Acquires.error {allocator : Allocator} {capacity : Nat} {error : AllocationError}
    (acquires : Acquires allocator capacity before (.error error) after)
    (free : allocator.OnBus → before.bus.NextFree) :
    before.Restored after ∧ before.Spares (allocator.Drives before.files) after := by
  cases acquires with
  | unopened failed =>
    cases Handle.openOn_error failed
    exact ⟨⟨rfl, rfl, rfl⟩, .of_eq rfl rfl⟩
  | abandoned opens establishes =>
    obtain ⟨returns, spares⟩ := establishes.returns_of_open opens free
    exact ⟨returns.close, spares.trans (Handle.close_spares _ _ _)⟩

/-- What an acquired buffer is, and what its handle will give back. -/
theorem Acquires.ok {allocator : Allocator} {capacity : Nat}
    (acquires : Acquires allocator capacity before (.ok buffer) after)
    (free : allocator.OnBus → before.bus.NextFree) :
    buffer.capacity = capacity ∧ 0 < buffer.address.toInt64.toInt ∧ ∃ holding,
      buffer.holding = some holding ∧ capacity ≤ holding.region.length ∧
        holding.handle.Returns before after ∧
        (allocator.Rooted before.files → capacity ≠ 0 → holding.region.Present after) := by
  cases acquires with
  | acquired opens establishes =>
    obtain ⟨returns, _⟩ := establishes.returns_of_open opens free
    have present := establishes.present opens
    cases establishes with
    | established allots told positive maps reaches =>
      exact ⟨rfl, positive, _, rfl, reaches, returns.congr rfl rfl rfl, present⟩

end RelayBuffer

end ChunkRelay
