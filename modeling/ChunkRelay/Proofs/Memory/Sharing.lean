import ChunkRelay.Proofs.Channel.Transports
import ChunkRelay.Proofs.Memory.Acquisition

/-! A buffer that is shared with a remote. Whoever writes by address lays bytes
over what the buffer shows, wherever they fall. What it shows after clearing
and filling does not depend on what was there. -/

set_option autoImplicit false

namespace ChunkRelay

/-!
## Overlays
-/

/-- Bytes with a part laid over them from `start` on; what would stand behind their end is lost. -/
def overlay (bytes : List UInt8) (start : Nat) (part : List UInt8) : List UInt8 :=
  (bytes.take start ++ part ++ bytes.drop (start + part.length)).take bytes.length

/-- What comes of so many zeros when parts are laid over them one after the other. -/
def overlaid (capacity : Nat) (parts : List (Nat × List UInt8)) : List UInt8 :=
  parts.foldl (fun bytes part => overlay bytes part.1 part.2) (List.replicate capacity 0)

theorem overlay_within {bytes part : List UInt8} {start : Nat}
    (within : start + part.length ≤ bytes.length) :
    overlay bytes start part = bytes.take start ++ part ++ bytes.drop (start + part.length) := by
  refine List.take_of_length_le ?_
  simp only [List.length_append, List.length_take, List.length_drop]
  omega

theorem overlay_behind {bytes : List UInt8} {start : Nat} (part : List UInt8)
    (behind : bytes.length ≤ start) : overlay bytes start part = bytes := by
  rw [overlay, List.take_of_length_le behind, List.append_assoc, List.take_left' rfl]

/-- A part that does not fit is cut off. -/
theorem overlay_across {bytes part : List UInt8} {start : Nat} (begins : start ≤ bytes.length)
    (across : bytes.length ≤ start + part.length) :
    overlay bytes start part = bytes.take start ++ part.take (bytes.length - start) := by
  have front : (bytes.take start).length = start := List.length_take_of_le begins
  have short : (bytes.take start).length ≤ bytes.length := List.length_take_le' ..
  rw [overlay, List.drop_of_length_le across, List.append_nil, List.take_append, front,
    List.take_of_length_le short]

theorem overlaid_concat (capacity : Nat) (parts : List (Nat × List UInt8)) (start : Nat)
    (part : List UInt8) :
    overlaid capacity (parts ++ [(start, part)]) = overlay (overlaid capacity parts) start part :=
  List.foldl_concat ..

/-- Writing lays the bytes over every window from the beginning. -/
theorem Extent.window_write_overlay (extent : Extent) (start : Nat) (bytes : ByteArray)
    (length : Nat) : (extent.write start bytes).window 0 length =
      overlay (extent.window 0 length) start bytes.data.toList := by
  have sized : bytes.data.toList.length = bytes.size := Array.length_toList
  by_cases behind : length ≤ start
  · rw [overlay_behind _ (by rwa [length_window]),
      window_write_before _ _ (by rwa [Nat.zero_add])]
  by_cases within : start + bytes.size ≤ length
  · rw [overlay_within (by rwa [length_window, sized]), window_write_within _ within, sized]
  · obtain ⟨rest, rfl⟩ := Nat.exists_eq_add_of_le (Nat.le_of_not_le behind)
    have before := extent.window_write_before bytes (Nat.le_of_eq (Nat.zero_add start))
    have cut : ((extent.write start bytes).window start bytes.size).take rest =
        (extent.write start bytes).window start rest := take_window _ _ (by omega)
    rw [overlay_across (by rw [length_window]; omega) (by rw [length_window, sized]; omega),
      length_window, Nat.add_sub_cancel_left, extent.take_window 0 (Nat.le_add_right start rest),
      window_add, before, Nat.zero_add, ← cut, window_write]

/-!
## Regions
-/

/-- Changing one region leaves what another one looks at, unless both have the same backing. -/
theorem Region.extent_modify_ne {region other : Region} (change : Extent → Extent) (host : Host)
    (apart : other.backing ≠ region.backing) :
    region.extent (other.modify change host) = region.extent host := by
  obtain ⟨contents | contents, length⟩ := region <;> obtain ⟨index | index, reach⟩ := other
  · exact Bus.extent_modify_ne host.bus change fun same => apart (congrArg Backing.frame same)
  · rfl
  · rfl
  · exact FileTree.extent_modify_ne host.files change fun same => apart (congrArg Backing.file same)

/-!
## What a buffer shows
-/

namespace RelayBuffer

/-- All bytes of a buffer, as anybody finds them there. -/
def shown (buffer : RelayBuffer) (host : Host) : List UInt8 :=
  (buffer.toBytes host).data.toList

/-- The buffer is mapped, and the contents behind it exist. -/
def Backed (buffer : RelayBuffer) (host : Host) : Prop :=
  ∃ holding, buffer.holding = some holding ∧ holding.region.Present host

/-- The buffer shows what it showed before. -/
structure Spared (buffer : RelayBuffer) (before after : Host) : Prop where
  backed : buffer.Backed before → buffer.Backed after
  shown : buffer.shown after = buffer.shown before

/-- The buffer shows what it showed before with a part laid over it. -/
structure Overwritten (buffer : RelayBuffer) (start : Nat) (part : List UInt8)
    (before after : Host) : Prop where
  backed : buffer.Backed before → buffer.Backed after
  shown : buffer.shown after = overlay (buffer.shown before) start part

variable {buffer : RelayBuffer} {before host after : Host}

theorem Backed.rewritten (backed : buffer.Backed before) (rewritten : before.Rewritten after) :
    buffer.Backed after := by
  obtain ⟨holding, held, present⟩ := backed
  exact ⟨holding, held, present.rewritten rewritten⟩

theorem Backed.write (backed : buffer.Backed host) (start : Nat) (bytes : ByteArray) :
    buffer.Backed ((buffer.write start bytes).run host).2 := by
  obtain ⟨_ | holding, address, capacity⟩ := buffer
  · exact backed
  · exact backed.rewritten (holding.region.modify_rewritten _ host)

theorem Backed.length_shown (backed : buffer.Backed host) (other : Host) :
    (buffer.shown other).length = buffer.capacity := by
  obtain ⟨holding, held, _⟩ := backed
  rw [shown, Array.length_toList, ByteArray.size_data, size_toBytes held]

/-- A buffer that was just acquired is backed. -/
theorem backed_of_acquired {allocator : Allocator} {capacity : Nat}
    (rooted : allocator.Rooted before.files)
    (acquired : (RelayBuffer.acquire allocator capacity).run before = (.ok buffer, after)) :
    buffer.Backed after := by
  obtain ⟨_, some_capacity, fits⟩ := acquire_capacity acquired
  have acquires := acquires_of_run some_capacity fits acquired
  cases acquires with
  | acquired opens establishes =>
    have present := establishes.present opens rooted some_capacity
    exact ⟨_, rfl, present.rewritten ⟨rfl, rfl, rfl, rfl, rfl⟩⟩

theorem Spared.of_untouched (untouched : before.Untouched after) : buffer.Spared before after := by
  obtain ⟨bus, files⟩ := untouched
  refine ⟨?_, ?_⟩
  · rintro ⟨holding, held, present⟩
    exact ⟨holding, held, present.rewritten
      ⟨by rw [bus], by rw [bus], by rw [files], by rw [files], by rw [files]⟩⟩
  · obtain ⟨_ | ⟨⟨contents | contents, length⟩, handle⟩, address, capacity⟩ := buffer
    · rfl
    · simp only [RelayBuffer.shown, toBytes, read, Region.read, Region.extent, bus]
    · simp only [RelayBuffer.shown, toBytes, read, Region.read, Region.extent, files]

/-- Writing to any region lays bytes over the buffer, if only in a place where it has none. -/
theorem Backed.overwritten_of_region (backed : buffer.Backed host) (other : Region) (start : Nat)
    (bytes : ByteArray) :
    ∃ first part, buffer.Overwritten first part host (other.write start bytes host) := by
  have rewritten := other.modify_rewritten (Extent.write · start bytes) host
  have sized := backed.length_shown host
  obtain ⟨holding, held, present⟩ := backed
  have keeps : buffer.Backed host → buffer.Backed (other.write start bytes host) :=
    fun backed => backed.rewritten rewritten
  by_cases same : other.backing = holding.region.backing
  · have changed : holding.region.extent (other.write start bytes host) =
        (holding.region.extent host).write start bytes := by
      obtain ⟨_, length⟩ := other
      subst same
      exact Region.extent_modify present _
    refine ⟨start, bytes.data.toList, keeps, ?_⟩
    rw [shown, shown, toList_toBytes held, toList_toBytes held, changed,
      Extent.window_write_overlay]
  · have changed : holding.region.extent (other.write start bytes host) =
        holding.region.extent host := Region.extent_modify_ne _ host same
    refine ⟨buffer.capacity, [], keeps, ?_⟩
    rw [overlay_behind _ (Nat.le_of_eq sized), shown, shown, toList_toBytes held,
      toList_toBytes held, changed]

/-- Whatever anybody writes by address, to whatever memory, lays bytes over the buffer. -/
theorem Backed.overwritten_of_write (backed : buffer.Backed host) (memory : AddressedMemory)
    (address : UInt64) (bytes : ByteArray) :
    ∃ start part, buffer.Overwritten start part host ((memory.write address bytes).run host).2 := by
  rcases memory.write_cases address bytes host with same | ⟨other, start, wrote⟩
  · rw [same]
    refine ⟨buffer.capacity, [], id, ?_⟩
    rw [overlay_behind _ (Nat.le_of_eq (backed.length_shown host))]
  · rw [wrote]
    exact backed.overwritten_of_region other start bytes

/-!
## What the local side does with a buffer
-/

theorem Backed.clear (backed : buffer.Backed host) :
    buffer.Backed (buffer.clear.run host).2 ∧
      buffer.shown (buffer.clear.run host).2 = List.replicate buffer.capacity 0 := by
  refine ⟨backed.rewritten (Use.cleared host).rewritten, ?_⟩
  obtain ⟨holding, held, present⟩ := backed
  exact toBytes_clear held present

/-- Bytes that are put to the front of a clear buffer stand before zeros only. -/
theorem Backed.fill (backed : buffer.Backed host)
    (clear : buffer.shown host = List.replicate buffer.capacity 0) {bytes : ByteArray}
    (fits : bytes.size ≤ buffer.capacity) :
    buffer.shown ((buffer.write 0 bytes).run host).2 =
      bytes.data.toList ++ List.replicate (buffer.capacity - bytes.size) 0 := by
  have within : 0 + bytes.size ≤ buffer.capacity := by rwa [Nat.zero_add]
  obtain ⟨holding, held, present⟩ := backed
  have wrote := toBytes_write held present within
  rw [shown] at clear
  rw [shown, wrote, clear, List.take_zero, List.nil_append, Nat.zero_add, List.drop_replicate]

/-- The front of the buffer is the front of what it shows. -/
theorem Backed.front (backed : buffer.Backed host) {length : Nat}
    (fits : length ≤ buffer.capacity) :
    (buffer.read 0 length host).data.toList = (buffer.shown host).take length := by
  obtain ⟨holding, held, _⟩ := backed
  exact toList_read held fits

end RelayBuffer

end ChunkRelay
