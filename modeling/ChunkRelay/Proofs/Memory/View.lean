import ChunkRelay.Proofs.Memory.Lookup
import ChunkRelay.Proofs.Stream.Intake

/-! What a relay buffer shows. Its bytes are the first ones of its region, and
writing or clearing it changes exactly the bytes that are meant, as long as the
contents behind the region exist. -/

set_option autoImplicit false

namespace ChunkRelay

/-!
## Parts of windows
-/

namespace Extent

theorem take_window (extent : Extent) (start : Nat) {length part : Nat} (fits : part ≤ length) :
    (extent.window start length).take part = extent.window start part := by
  obtain ⟨rest, rfl⟩ := Nat.exists_eq_add_of_le fits
  rw [window_add, List.take_left' (extent.length_window start part)]

theorem drop_window (extent : Extent) (start part rest : Nat) :
    (extent.window start (part + rest)).drop part = extent.window (start + part) rest := by
  rw [window_add, List.drop_left' (extent.length_window start part)]

/-- Writing replaces the bytes that are written. -/
theorem window_write_within (extent : Extent) {start : Nat} {bytes : ByteArray} {length : Nat}
    (within : start + bytes.size ≤ length) : (extent.write start bytes).window 0 length =
      (extent.window 0 length).take start ++ bytes.data.toList ++
        (extent.window 0 length).drop (start + bytes.size) := by
  obtain ⟨rest, rfl⟩ := Nat.exists_eq_add_of_le within
  have after : (extent.write start bytes).window (start + bytes.size) rest =
      extent.window (start + bytes.size) rest :=
    window_congr fun _ later _ => extent.byteAt_write_outside (.inr later)
  have before := extent.window_write_before bytes (Nat.le_of_eq (Nat.zero_add start))
  rw [extent.take_window 0 (by omega), extent.drop_window, window_add, window_add, before,
    Nat.zero_add, Nat.zero_add, window_write, after]

theorem window_clear (extent : Extent) (count : Nat) :
    (extent.clear 0 count).window 0 count = List.replicate count 0 := by
  refine List.eq_replicate_iff.mpr ⟨length_window .., ?_⟩
  intro byte member
  obtain ⟨offset, inside, rfl⟩ := List.mem_map.mp member
  rw [List.mem_range'_1, Nat.zero_add] at inside
  rw [byteAt_clear, if_pos inside]

end Extent

/-!
## Regions
-/

namespace Region

variable {region : Region} {host : Host}

/-- The contents behind a region exist. -/
def Present (region : Region) (host : Host) : Prop :=
  match region.backing with
  | .frame contents => contents < host.bus.contents.size
  | .file contents => contents < host.files.contents.size

theorem extent_modify (present : region.Present host) (change : Extent → Extent) :
    region.extent (region.modify change host) = change (region.extent host) := by
  obtain ⟨contents | contents, length⟩ := region
  · exact (Bus.extent_modify present change contents).trans (if_pos rfl)
  · exact (FileTree.extent_modify _ contents contents change present).trans (if_pos rfl)

end Region

/-!
## Buffers
-/

namespace RelayBuffer

variable {buffer : RelayBuffer} {holding : Holding} {host : Host} {start length : Nat}
  {bytes : ByteArray}

theorem toList_toBytes (held : buffer.holding = some holding) (host : Host) :
    (buffer.toBytes host).data.toList =
      (holding.region.extent host).window 0 buffer.capacity := by
  rw [toBytes, read, held]
  exact Extent.toList_read ..

theorem size_toBytes (held : buffer.holding = some holding) (host : Host) :
    (buffer.toBytes host).size = buffer.capacity := by
  rw [toBytes, read, held]
  exact Extent.size_read ..

/-- The front of a buffer is as much of its bytes. -/
theorem toList_read (held : buffer.holding = some holding) (fits : length ≤ buffer.capacity) :
    (buffer.read 0 length host).data.toList = (buffer.toBytes host).data.toList.take length := by
  rw [toList_toBytes held, Extent.take_window _ _ fits, read, held]
  exact Extent.toList_read ..

theorem toBytes_write (held : buffer.holding = some holding)
    (present : holding.region.Present host) (within : start + bytes.size ≤ buffer.capacity) :
    (buffer.toBytes ((buffer.write start bytes).run host).2).data.toList =
      (buffer.toBytes host).data.toList.take start ++ bytes.data.toList ++
        (buffer.toBytes host).data.toList.drop (start + bytes.size) := by
  have wrote : ((buffer.write start bytes).run host).2 = holding.region.write start bytes host := by
    rw [write, held]
    rfl
  rw [toList_toBytes held, toList_toBytes held, wrote, Region.write, Region.extent_modify present,
    Extent.window_write_within _ within]

theorem toBytes_clear (held : buffer.holding = some holding)
    (present : holding.region.Present host) :
    (buffer.toBytes (buffer.clear.run host).2).data.toList = List.replicate buffer.capacity 0 := by
  have cleared : (buffer.clear.run host).2 = holding.region.clear buffer.capacity host := by
    rw [clear, held]
    rfl
  rw [toList_toBytes held, cleared, Region.clear, Region.extent_modify present,
    Extent.window_clear]

end RelayBuffer

end ChunkRelay
