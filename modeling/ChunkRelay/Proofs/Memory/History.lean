import ChunkRelay.Memory.Addressed
import ChunkRelay.Proofs.Memory.Lookup

/-! The bus hands out its address space from below and never hands out a page
twice, as long as the pages that it has handed out fit into 64 bits. So no
older frame reaches the address that the next one gets. -/

set_option autoImplicit false

namespace ChunkRelay

namespace Bus

/-- The buses that handles and accesses can make of a fresh one, each with the
number of bytes handed out so far in whole pages. -/
inductive History (base : UInt64) : Bus → Nat → Prop
  | fresh : History base (.withBase base) 0
  | opened {bus : Bus} {spent : Nat} : History base bus spent → History base bus.openHandle spent
  | allocated {bus after : Bus} {spent size : Nat} {handle next : BusHandle} {address : UInt64} :
      History base bus spent → handle.alloc bus size = .ok (address, next, after) →
        History base after (spent + roundToPage size)
  | closed {bus : Bus} {spent : Nat} (handle : BusHandle) :
      History base bus spent → History base (handle.close bus).2 spent
  | written {bus after : Bus} {spent : Nat} {address : UInt64} {bytes : ByteArray} :
      History base bus spent → bus.write address bytes = .ok after → History base after spent
  | changed {bus : Bus} {spent : Nat} (index : Nat) {change : Extent → Extent} :
      History base bus spent → Keeping change → History base (bus.modify index change) spent

/-- Every live frame ends at or below the bytes handed out. -/
structure Laid (base : UInt64) (bus : Bus) (spent : Nat) : Prop where
  next : bus.next = base + .ofNat spent
  below : ∀ frame ∈ bus.frames, frame.2 < bus.contents.size ∧
    ∃ offset, frame.1 = base + .ofNat offset ∧ offset + (bus.extent frame.2).size ≤ spent

theorem le_roundToPage (size : Nat) : size ≤ roundToPage size := by
  unfold roundToPage pageSize
  omega

theorem keeping_write (start : Nat) (bytes : ByteArray) : Keeping (Extent.write · start bytes) :=
  fun extent => extent.size_write start bytes

/-- A write by address changes the bytes of one frame. -/
theorem modify_of_write {bus after : Bus} {address : UInt64} {bytes : ByteArray}
    (wrote : bus.write address bytes = .ok after) :
    ∃ index start, after = bus.modify index (Extent.write · start bytes) := by
  unfold Bus.write at wrote
  cases found : bus.resolve address bytes.size with
  | error error =>
    rw [found] at wrote
    cases wrote
  | ok place =>
    rw [found] at wrote
    cases wrote
    exact ⟨place.1, place.2, rfl⟩

theorem Laid.modify {base : UInt64} {bus : Bus} {spent : Nat} (laid : Laid base bus spent)
    (index : Nat) {change : Extent → Extent} (keeping : Keeping change) :
    Laid base (bus.modify index change) spent where
  next := laid.next
  below := by
    intro frame member
    obtain ⟨present, offset, starts, ends⟩ := laid.below frame member
    refine ⟨by simpa only [Bus.modify, Array.size_modify] using present, offset, starts, ?_⟩
    rw [size_extent_modify bus index keeping]
    exact ends

/-- A new frame leaves the older ones as they are. -/
theorem extent_of_push {bus after : Bus} {contents : Extent}
    (pushed : after.contents = bus.contents.push contents) {index : Nat}
    (present : index < bus.contents.size) : after.extent index = bus.extent index := by
  simp only [Bus.extent, pushed, Array.getD_eq_getD_getElem?, Array.getElem?_push_lt present,
    Array.getElem?_eq_getElem present]

theorem insert_of_alloc {bus after : Bus} {size : Nat} {handle next : BusHandle} {address : UInt64}
    (handed : handle.alloc bus size = .ok (address, next, after)) :
    ∃ index, bus.insert size = .ok ((address, index), after) := by
  unfold BusHandle.alloc at handed
  split at handed
  · cases handed
  · split at handed
    · cases handed
    · split at handed
      · cases handed
      · cases inserted : bus.insert size with
        | error error =>
          rw [inserted] at handed
          cases handed
        | ok result =>
          rw [inserted] at handed
          cases handed
          exact ⟨_, rfl⟩

theorem size_ne_zero_of_alloc {bus after : Bus} {size : Nat} {handle next : BusHandle}
    {address : UInt64} (handed : handle.alloc bus size = .ok (address, next, after)) : size ≠ 0 := by
  rintro rfl
  unfold BusHandle.alloc at handed
  split at handed
  · cases handed
  · split at handed
    · cases handed
    · cases handed

theorem insert_ok {bus after : Bus} {size : Nat} {frame : UInt64 × Nat}
    (inserted : bus.insert size = .ok (frame, after)) :
    frame = (bus.next, bus.contents.size) ∧ after =
      { bus with
        next := bus.next + .ofNat (roundToPage size)
        frames := frame :: bus.frames.filter (·.1 ≠ bus.next)
        contents := bus.contents.push (.zeroed size) } := by
  unfold Bus.insert at inserted
  split at inserted
  · cases inserted
  · split at inserted
    · cases inserted
    · cases inserted
      exact ⟨rfl, rfl⟩

theorem Laid.insert {base : UInt64} {bus after : Bus} {spent size : Nat} {frame : UInt64 × Nat}
    (laid : Laid base bus spent) (inserted : bus.insert size = .ok (frame, after)) :
    Laid base after (spent + roundToPage size) := by
  obtain ⟨rfl, rfl⟩ := insert_ok inserted
  have grown := le_roundToPage size
  refine ⟨?_, fun frame member => ?_⟩
  · dsimp only
    rw [laid.next, UInt64.ofNat_add, UInt64.add_assoc]
  · rcases List.mem_cons.mp member with rfl | older
    · refine ⟨by simp, spent, laid.next, ?_⟩
      simp [Bus.extent, Extent.zeroed]
      omega
    · obtain ⟨present, offset, starts, ends⟩ := laid.below frame (List.mem_filter.mp older).1
      refine ⟨by simp; omega, offset, starts, ?_⟩
      rw [extent_of_push rfl present]
      omega

theorem History.laid {base : UInt64} {bus : Bus} {spent : Nat} (history : History base bus spent) :
    Laid base bus spent := by
  induction history with
  | fresh => exact ⟨by simp [withBase], fun frame member => by cases member⟩
  | opened _ ih => exact ⟨ih.next, ih.below⟩
  | allocated _ handed ih =>
    obtain ⟨index, inserted⟩ := insert_of_alloc handed
    exact ih.insert inserted
  | closed handle _ ih =>
    unfold BusHandle.close
    split
    · exact ih
    · split
      · exact ⟨ih.next, ih.below⟩
      · exact ⟨ih.next, fun frame member => ih.below frame (List.mem_filter.mp member).1⟩
  | written _ wrote ih =>
    obtain ⟨index, start, rfl⟩ := modify_of_write wrote
    exact ih.modify index (keeping_write start _)
  | changed index _ keeping ih => exact ih.modify index keeping

/-- Every live frame starts below the bytes handed out. -/
theorem History.starts {base : UInt64} {bus : Bus} {spent : Nat} (history : History base bus spent) :
    ∀ frame ∈ bus.frames, ∃ offset < spent, frame.1 = base + .ofNat offset := by
  induction history with
  | fresh =>
    intro frame member
    cases member
  | opened _ ih => exact ih
  | @allocated bus after spent size handle next address earlier handed ih =>
    obtain ⟨index, inserted⟩ := insert_of_alloc handed
    have positive := size_ne_zero_of_alloc handed
    obtain ⟨same, rfl⟩ := insert_ok inserted
    have grown := le_roundToPage size
    intro frame member
    rcases List.mem_cons.mp member with rfl | older
    · exact ⟨spent, by omega, (congrArg Prod.fst same).trans earlier.laid.next⟩
    · obtain ⟨offset, below, starts⟩ := ih frame (List.mem_filter.mp older).1
      exact ⟨offset, by omega, starts⟩
  | closed handle _ ih =>
    unfold BusHandle.close
    split
    · exact ih
    · split
      · exact ih
      · exact fun frame member => ih frame (List.mem_filter.mp member).1
  | written _ wrote ih =>
    obtain ⟨index, start, rfl⟩ := modify_of_write wrote
    exact ih
  | changed index _ keeping ih => exact ih

/-- No live frame is at the address of the next one. -/
def NextFree (bus : Bus) : Prop :=
  ∀ frame ∈ bus.frames, frame.1 ≠ bus.next

theorem History.nextFree {base : UInt64} {bus : Bus} {spent : Nat}
    (history : History base bus spent) (fits : spent < 2 ^ 64) : bus.NextFree := by
  intro frame member same
  obtain ⟨offset, below, starts⟩ := history.starts frame member
  rw [starts, history.laid.next, UInt64.add_right_inj, ← UInt64.toNat_inj,
    UInt64.toNat_ofNat_of_lt' (Nat.lt_trans below fits), UInt64.toNat_ofNat_of_lt' fits] at same
  omega

/-- No older frame reaches the address of the next one. -/
theorem Laid.length_le {base : UInt64} {bus : Bus} {spent : Nat} (laid : Laid base bus spent)
    (fits : spent < 2 ^ 64) {frame : UInt64 × Nat} (member : frame ∈ bus.frames) :
    (bus.extent frame.2).size ≤ (bus.next - frame.1).toNat := by
  obtain ⟨_, offset, starts, ends⟩ := laid.below frame member
  obtain ⟨rest, rfl⟩ := Nat.exists_eq_add_of_le (show offset ≤ spent by omega)
  have apart : bus.next - frame.1 = .ofNat rest := by
    rw [laid.next, starts, UInt64.ofNat_add, ← UInt64.add_assoc, UInt64.add_comm _ (.ofNat rest),
      UInt64.add_sub_cancel]
  have bounded : rest < 2 ^ 64 := Nat.lt_of_le_of_lt (Nat.le_add_left rest offset) fits
  rw [apart, UInt64.toNat_ofNat_of_lt' bounded]
  omega

end Bus

/-- No other frame reaches the address of a buffer that was just acquired. -/
theorem RelayBuffer.acquire_isolated {base : UInt64} {spent capacity : Nat} {before after : Host}
    {buffer : RelayBuffer} (history : before.bus.History base spent) (fits : spent < 2 ^ 64)
    (acquired : (RelayBuffer.acquire .bus capacity).run before = (.ok buffer, after)) :
    after.bus.Isolated before.bus.next := by
  obtain ⟨_, _, _, frames, contents⟩ := RelayBuffer.acquire_bus acquired
  intro frame member differ _
  rw [frames] at member
  rcases List.mem_cons.mp member with rfl | older
  · exact absurd rfl differ
  · have live := (List.mem_filter.mp older).1
    have present := (history.laid.below frame live).1
    rw [Bus.extent_of_push contents present]
    exact history.laid.length_le fits live

/-- Only an open handle with a frame maps, and no more than its frame holds. -/
theorem Handle.mapFrame_ok {held : BusHandle} {size : Nat} {host after : Host} {region : Region}
    (ran : (mapFrame held size).run host = (.ok region, after)) :
    after = host ∧ ∃ address index, held = ⟨some (address, index), false⟩ ∧
      region = ⟨.frame index, size⟩ ∧ size ≤ (host.bus.extent index).size := by
  have mapped := congrArg Prod.fst ran
  change Except.map _ (held.map host.bus size) = _ at mapped
  obtain ⟨_ | ⟨address, index⟩, _ | _⟩ := held
  · cases mapped
  · cases mapped
  · simp only [BusHandle.map, Bool.false_eq_true, ↓reduceIte] at mapped
    split at mapped
    · cases mapped
    · next reaches =>
      cases mapped
      exact ⟨(congrArg Prod.snd ran).symm, address, index, rfl, rfl, Nat.le_of_not_lt reaches⟩
  · cases mapped

/-- A write by address changes nothing, or it is a write to some region. -/
theorem AddressedMemory.write_cases (memory : AddressedMemory) (address : UInt64)
    (bytes : ByteArray) (host : Host) :
    ((memory.write address bytes).run host).2 = host ∨ ∃ (region : Region) (start : Nat),
      ((memory.write address bytes).run host).2 = region.write start bytes host := by
  unfold AddressedMemory.write
  rw [HostM.run_get_bind]
  cases memory with
  | throughBus =>
    cases wrote : host.bus.write address bytes with
    | error error => exact .inl rfl
    | ok bus =>
      obtain ⟨index, start, rfl⟩ := Bus.modify_of_write wrote
      exact .inr ⟨⟨.frame index, 0⟩, start, rfl⟩
  | throughSegments directory =>
    dsimp only
    cases host.files.resolveSegment directory address bytes.size with
    | error error => exact .inl rfl
    | ok place => exact .inr ⟨⟨.file place.1, 0⟩, place.2, rfl⟩

end ChunkRelay
