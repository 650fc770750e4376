import ChunkRelay.Proofs.Memory.Traffic
import ChunkRelay.Proofs.Memory.Twins

/-! What is written by address is read back there, through the bus as through
the segments of a directory. -/

set_option autoImplicit false

namespace ChunkRelay

variable {address : UInt64} {length : Nat}

/-- A range with a byte in it lies in a frame that is there. -/
theorem Bus.present_of_resolve {bus : Bus} {index offset : Nat} (some_bytes : length ≠ 0)
    (resolves : bus.resolve address length = .ok (index, offset)) :
    index < bus.contents.size := by
  by_contra absent
  have nothing : (bus.extent index).size = 0 := by
    rw [extent, Array.getD_eq_getD_getElem?, Array.getElem?_eq_none (Nat.not_lt.mp absent)]
    rfl
  unfold resolve at resolves
  dsimp only at resolves
  split at resolves
  · cases resolves
  · split at resolves
    · cases resolves
    · cases resolves
      omega

namespace FileTree

variable {tree : FileTree} {directory : String} {contents offset : Nat}

/-- A range that is found lies in a file that is there, in a directory that can be listed. -/
theorem present_of_resolve
    (resolves : tree.resolveSegment directory address length = .ok (contents, offset)) :
    contents < tree.contents.size ∧ ∃ entries, tree.list directory = .ok entries := by
  unfold resolveSegment at resolves
  split at resolves
  · cases resolves
  · next located =>
    cases resolves
    obtain ⟨file, found, same⟩ := Option.map_eq_some_iff.mp located
    cases listed : tree.list directory with
    | error cause =>
      simp only [segments, listed] at found
      cases found
    | ok entries =>
      obtain ⟨name, member, parsed, sized⟩ :=
        (mem_segments_iff listed).mp (List.mem_of_find?_eq_some found)
      have holds := List.find?_some found
      simp only [SegmentFile.holds, Bool.and_eq_true, decide_eq_true_eq] at holds
      cases same
      exact ⟨present_of_size (by omega), entries, rfl⟩

/-- Writing to a file of segments moves none of them. -/
theorem resolveSegment_modify
    (resolves : tree.resolveSegment directory address length = .ok (contents, offset))
    (start : Nat) (bytes : ByteArray) :
    (tree.modify contents (Extent.write · start bytes)).resolveSegment directory address length =
      .ok (contents, offset) := by
  obtain ⟨present, entries, listed⟩ := present_of_resolve resolves
  have patched := patched_modify present start bytes
  have same : (tree.modify contents (Extent.write · start bytes)).segments directory =
      tree.segments directory := by
    simp only [segments, list_modify listed, listed, patched.sizes]
  rw [← resolves, resolveSegment, same, resolveSegment]

end FileTree

/-- A range that can be read gives as many bytes as were asked for. -/
theorem AddressedMemory.size_of_read {memory : AddressedMemory} {host : Host} {bytes : ByteArray}
    (reads : memory.read address length host = .ok bytes) : bytes.size = length := by
  cases memory with
  | throughBus =>
    cases resolves : host.bus.resolve address length with
    | error error => cases (Twin.read_bus_of_unresolved resolves).symm.trans reads
    | ok place =>
      cases (Twin.read_bus_of_resolve resolves).symm.trans reads
      exact Extent.size_read _ _ _
  | throughSegments directory =>
    cases resolves : host.files.resolveSegment directory address length with
    | error error => cases (read_of_unresolved resolves).symm.trans reads
    | ok place =>
      cases (read_of_resolve resolves).symm.trans reads
      exact Extent.size_read _ _ _

/-- Whoever has written bytes to an address can read them there. -/
theorem AddressedMemory.read_of_write {memory : AddressedMemory} {bytes : ByteArray}
    {host after : Host} (some_bytes : bytes.size ≠ 0)
    (ran : (memory.write address bytes).run host = (.ok (), after)) :
    memory.read address bytes.size after = .ok bytes := by
  cases memory with
  | throughBus =>
    obtain ⟨index, offset, resolves, rfl⟩ := write_ok ran
    have still := (Bus.resolve_modify host.bus index (Bus.keeping_write offset bytes) address
      bytes.size).trans resolves
    have own := Bus.extent_modify (Bus.present_of_resolve some_bytes resolves)
      (Extent.write · offset bytes) index
    rw [if_pos rfl] at own
    rw [Twin.read_bus_of_resolve still, own, Extent.read_write]
  | throughSegments directory =>
    cases resolves : host.files.resolveSegment directory address bytes.size with
    | error error => cases (write_of_unresolved resolves).symm.trans ran
    | ok place =>
      obtain ⟨contents, offset⟩ := place
      let after := { host with files := host.files.modify contents (Extent.write · offset bytes) }
      have still := FileTree.resolveSegment_modify resolves offset bytes
      have found : (throughSegments directory).read address bytes.size after =
        .ok ((after.files.extent contents).read offset bytes.size) := read_of_resolve still
      have own := FileTree.extent_modify host.files contents contents (Extent.write · offset bytes)
        (FileTree.present_of_resolve resolves).1
      rw [if_pos rfl] at own
      rw [← (Prod.mk.inj ((write_of_resolve resolves).symm.trans ran)).2]
      rw [own, Extent.read_write] at found
      exact found

end ChunkRelay
