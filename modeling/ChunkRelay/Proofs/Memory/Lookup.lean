import Mathlib.Data.List.Induction
import ChunkRelay.Proofs.Bytes.Contents
import ChunkRelay.Memory.Buffer

/-! Access by address on the bus. An access goes to the live frame with the
greatest base at or below the address; a relay buffer that was acquired on the
bus is found at its address, and nothing else is found there once it is given
back. -/

set_option autoImplicit false

namespace ChunkRelay

/-!
## Lists by place
-/

section Places

variable {α : Type} {entries : List α} {entry other : α} {index place : Nat}

theorem found_in_set (found : (entries.set index entry)[place]? = some other) :
    place = index ∧ other = entry ∨ place ≠ index ∧ entries[place]? = some other := by
  rw [List.getElem?_set] at found
  split at found
  · next same =>
    split at found
    · cases found
      exact .inl ⟨same.symm, rfl⟩
    · cases found
  · next differ => exact .inr ⟨Ne.symm differ, found⟩

theorem found_in_concat (found : (entries ++ [entry])[place]? = some other) :
    place < entries.length ∧ entries[place]? = some other ∨
      place = entries.length ∧ other = entry := by
  rw [List.getElem?_append] at found
  split at found
  · next older => exact .inl ⟨older, found⟩
  · next newer =>
    obtain ⟨inside, rfl⟩ := List.getElem?_eq_some_iff.mp found
    rw [List.length_singleton] at inside
    exact .inr ⟨by omega, List.getElem_singleton _⟩

end Places

namespace Bus

/-!
## The nearest frame
-/

/-- The frame with the greatest base at or below an address, or none if there is no such frame. -/
def Nearest (frames : List (UInt64 × Nat)) (address : UInt64) : Option (UInt64 × Nat) → Prop
  | none => ∀ frame ∈ frames, ¬ frame.1 ≤ address
  | some best => best ∈ frames ∧ best.1 ≤ address ∧
      ∀ frame ∈ frames, frame.1 ≤ address → frame.1 ≤ best.1

theorem nearest?_spec (bus : Bus) (address : UInt64) :
    Nearest bus.frames address (bus.nearest? address) := by
  unfold nearest?
  generalize bus.frames = frames
  induction frames using List.reverseRecOn with
  | nil => simp [Nearest]
  | append_singleton frames last ih =>
    rw [List.foldl_append, List.foldl_cons, List.foldl_nil]
    generalize List.foldl _ none frames = best? at ih ⊢
    have cover : ∀ {property : UInt64 × Nat → Prop},
        (∀ frame ∈ frames, property frame) → property last →
          ∀ frame ∈ frames ++ [last], property frame := by
      intro property before final frame member
      rcases List.mem_append.mp member with early | late
      · exact before frame early
      · rw [List.mem_singleton] at late
        exact late ▸ final
    by_cases within : last.1 ≤ address
    · rw [if_pos within]
      cases best? with
      | none =>
        exact ⟨by simp, within, cover (fun frame member below => absurd below (ih frame member))
          fun _ => UInt64.le_refl _⟩
      | some best =>
        obtain ⟨member, below, greatest⟩ := ih
        dsimp only
        split
        · next higher =>
          exact ⟨by simp, within,
            cover (fun frame member below => UInt64.le_trans (greatest frame member below) higher)
              fun _ => UInt64.le_refl _⟩
        · next lower =>
          refine ⟨List.mem_append_left _ member, below, cover greatest fun _ => ?_⟩
          rcases UInt64.le_total last.1 best.1 with order | order
          · exact order
          · exact absurd order lower
    · rw [if_neg within]
      cases best? with
      | none => exact cover ih within
      | some best =>
        obtain ⟨member, below, greatest⟩ := ih
        exact ⟨List.mem_append_left _ member, below,
          cover greatest fun reached => absurd reached within⟩

/-- A frame is found at its own base if no other frame starts there. -/
theorem nearest?_eq_some {bus : Bus} {frame : UInt64 × Nat} (member : frame ∈ bus.frames)
    (alone : ∀ other ∈ bus.frames, other.1 = frame.1 → other = frame) :
    bus.nearest? frame.1 = some frame := by
  have found := bus.nearest?_spec frame.1
  cases result : bus.nearest? frame.1 with
  | none =>
    rw [result] at found
    exact absurd (UInt64.le_refl _) (found frame member)
  | some best =>
    rw [result] at found
    obtain ⟨best_member, below, greatest⟩ := found
    have same := UInt64.le_antisymm below (greatest frame member (UInt64.le_refl _))
    rw [alone best best_member same]

/-!
## Places on the bus
-/

/-- An address where exactly so many bytes are reached, those of one frame. -/
structure Holds (bus : Bus) (address : UInt64) (index capacity : Nat) : Prop where
  present : index < bus.contents.size
  size : (bus.extent index).size = capacity
  nearest : bus.nearest? address = some (address, index)

/-- An address where no byte is reached unless a frame starts right there. -/
def Isolated (bus : Bus) (address : UInt64) : Prop :=
  ∀ frame ∈ bus.frames, frame.1 ≠ address → frame.1 ≤ address →
    (bus.extent frame.2).size ≤ (address - frame.1).toNat

theorem Holds.resolve {bus : Bus} {address : UInt64} {index capacity : Nat}
    (holds : bus.Holds address index capacity) (length : Nat) :
    bus.resolve address length =
      if capacity < length then .error (.unmapped address length) else .ok (index, 0) := by
  unfold Bus.resolve
  rw [holds.nearest]
  simp [holds.size]

theorem Isolated.resolve_remove {bus : Bus} {address : UInt64} (isolated : bus.Isolated address)
    {length : Nat} (some_length : length ≠ 0) :
    (bus.remove address).resolve address length = .error (.unmapped address length) := by
  have found := (bus.remove address).nearest?_spec address
  unfold Bus.resolve
  cases result : (bus.remove address).nearest? address with
  | none => rfl
  | some best =>
    rw [result] at found
    obtain ⟨member, below, _⟩ := found
    obtain ⟨live, other⟩ := List.mem_filter.mp member
    have short := isolated best live (by simpa using other) below
    dsimp only
    rw [if_pos]
    change (bus.extent best.2).size < _
    omega

/-!
## Changing contents
-/

/-- A change of contents that keeps their size. -/
def Keeping (change : Extent → Extent) : Prop :=
  ∀ extent, (change extent).size = extent.size

theorem extent_modify {bus : Bus} {index : Nat} (present : index < bus.contents.size)
    (change : Extent → Extent) (other : Nat) :
    (bus.modify index change).extent other =
      if index = other then change (bus.extent other) else bus.extent other := by
  simp only [Bus.modify, Bus.extent, Array.getD_eq_getD_getElem?, Array.getElem?_modify]
  split
  · next same =>
    subst other
    rw [Array.getElem?_eq_getElem present]
    rfl
  · rfl

theorem extent_modify_ne (bus : Bus) {index other : Nat} (change : Extent → Extent)
    (differ : index ≠ other) : (bus.modify index change).extent other = bus.extent other := by
  simp only [Bus.modify, Bus.extent, Array.getD_eq_getD_getElem?, Array.getElem?_modify,
    if_neg differ]

theorem size_extent_modify (bus : Bus) (index : Nat) {change : Extent → Extent}
    (keeping : Keeping change) (other : Nat) :
    ((bus.modify index change).extent other).size = (bus.extent other).size := by
  simp only [Bus.modify, Bus.extent, Array.getD_eq_getD_getElem?, Array.getElem?_modify]
  split
  · cases bus.contents[other]? with
    | none => rfl
    | some extent => exact keeping extent
  · rfl

theorem resolve_modify (bus : Bus) (index : Nat) {change : Extent → Extent}
    (keeping : Keeping change) (address : UInt64) (length : Nat) :
    (bus.modify index change).resolve address length = bus.resolve address length := by
  have same : (bus.modify index change).nearest? address = bus.nearest? address := rfl
  simp only [Bus.resolve, same, size_extent_modify bus index keeping]

theorem Holds.modify {bus : Bus} {address : UInt64} {index capacity : Nat}
    (holds : bus.Holds address index capacity) (other : Nat) {change : Extent → Extent}
    (keeping : Keeping change) : (bus.modify other change).Holds address index capacity where
  present := by simpa only [Bus.modify, Array.size_modify] using holds.present
  size := by rw [size_extent_modify bus other keeping, holds.size]
  nearest := holds.nearest

theorem Isolated.modify {bus : Bus} {address : UInt64} (isolated : bus.Isolated address)
    (other : Nat) {change : Extent → Extent} (keeping : Keeping change) :
    (bus.modify other change).Isolated address := by
  intro frame member differ below
  rw [size_extent_modify bus other keeping]
  exact isolated frame member differ below

end Bus

/-!
## Acquiring a buffer on the bus
-/

/-- A relay buffer that lives on the bus. -/
def RelayBuffer.onBus (address : UInt64) (index capacity : Nat) : RelayBuffer :=
  { holding := some
      { region := ⟨.frame index, capacity⟩
        handle := .onBus { frame := some (address, index), closed := false } }
    address, capacity }

theorem Bus.insert_eq_ok (bus : Bus) {size : Nat} (fits : size < addressSpace) :
    bus.insert size = .ok ((bus.next, bus.contents.size),
      { bus with
        next := bus.next + .ofNat (roundToPage size)
        frames := (bus.next, bus.contents.size) :: bus.frames.filter (·.1 ≠ bus.next)
        contents := bus.contents.push (.zeroed size) }) := by
  have describable : ¬ maxFrame < size := by
    simp only [maxFrame, maxSigned, pageSize, addressSpace] at *
    omega
  rw [Bus.insert, if_neg describable, if_neg (Nat.not_le_of_lt fits)]

theorem Bus.insert_error (bus : Bus) {size : Nat} (large : addressSpace ≤ size) :
    ∃ error, bus.insert size = .error error := by
  unfold Bus.insert
  split
  · exact ⟨_, rfl⟩
  · exact ⟨_, rfl⟩

/-- The bus after a frame was handed out. -/
private def allotted (bus : Bus) (capacity : Nat) : Bus :=
  { bus with
    next := bus.next + .ofNat (roundToPage capacity)
    frames := (bus.next, bus.contents.size) :: bus.frames.filter (·.1 ≠ bus.next)
    contents := bus.contents.push (.zeroed capacity) }

private theorem alloc_run (host : Host) {capacity : Nat} (positive : capacity ≠ 0)
    (fits : capacity < addressSpace) :
    (Handle.alloc (.onBus .fresh) capacity).run host =
      ((.ok host.bus.next, .onBus ⟨some (host.bus.next, host.bus.contents.size), false⟩),
        { host with bus := allotted host.bus capacity }) := by
  have inserted := host.bus.insert_eq_ok fits
  have allocated : BusHandle.fresh.alloc host.bus capacity =
      .ok (host.bus.next, ⟨some (host.bus.next, host.bus.contents.size), false⟩,
        allotted host.bus capacity) := by
    simp [BusHandle.alloc, BusHandle.fresh, positive, inserted, Except.map, allotted]
  simp only [Handle.alloc, Handle.allocFrame, StateT.run_bind, StateT.run_get, pure_bind, allocated]
  rfl

private theorem map_run (host : Host) (address : UInt64) {index capacity : Nat}
    (sized : (host.bus.extent index).size = capacity) :
    (Handle.map (.onBus ⟨some (address, index), false⟩) capacity).run host =
      (.ok ⟨.frame index, capacity⟩, host) := by
  have mapped : BusHandle.map ⟨some (address, index), false⟩ host.bus capacity = .ok index := by
    simp [BusHandle.map, sized]
  simp only [Handle.map, Handle.mapFrame, StateT.run_bind, StateT.run_get, pure_bind, mapped]
  rfl

theorem HostM.run_bind_eq {α β : Type} {first : HostM α} {next : α → HostM β} {host after : Host}
    {value : α} (ran : first.run host = (value, after)) :
    (first >>= next).run host = (next value).run after := by
  rw [StateT.run_bind, ran]
  rfl

theorem HostM.run_get_bind {β : Type} (next : Host → HostM β) (host : Host) :
    ((get : HostM Host) >>= next).run host = (next host).run host := rfl

private theorem establish_run {host : Host} {capacity : Nat} (positive : capacity ≠ 0)
    (fits : capacity < addressSpace) :
    (RelayBuffer.establish (.onBus .fresh) capacity).run host =
      (((validateAddress host.bus.next).map fun address =>
          (address, ⟨.frame host.bus.contents.size, capacity⟩),
        .onBus ⟨some (host.bus.next, host.bus.contents.size), false⟩),
        { host with bus := allotted host.bus capacity }) := by
  have allocated := alloc_run host positive fits
  have sized : ((allotted host.bus capacity).extent host.bus.contents.size).size = capacity := by
    simp [allotted, Bus.extent, Extent.zeroed]
  have mapped := map_run { host with bus := allotted host.bus capacity } host.bus.next sized
  rw [RelayBuffer.establish, HostM.run_bind_eq allocated, HostM.run_get_bind]
  have found : (((.ok host.bus.next : Except AllocationError UInt64) >>= fun _ =>
      Handle.physicalAddress (.onBus ⟨some (host.bus.next, host.bus.contents.size), false⟩)
        { host with bus := allotted host.bus capacity } >>= validateAddress)) =
      validateAddress host.bus.next := rfl
  dsimp only
  rw [found]
  cases valid : validateAddress host.bus.next with
  | error error => rfl
  | ok address =>
    dsimp only
    rw [HostM.run_bind_eq mapped]
    simp only [bind, Except.bind, Nat.lt_irrefl, ↓reduceIte]
    rfl

private theorem establish_fails (host : Host) {capacity : Nat} (large : addressSpace ≤ capacity) :
    ∃ error handle after, (RelayBuffer.establish (.onBus .fresh) capacity).run host =
      ((.error error, handle), after) := by
  obtain ⟨error, refused⟩ := host.bus.insert_error large
  have positive : capacity ≠ 0 := by
    rintro rfl
    cases large
  have allocated : BusHandle.fresh.alloc host.bus capacity = .error error := by
    simp [BusHandle.alloc, BusHandle.fresh, positive, refused, Except.map]
  refine ⟨error, .onBus .fresh, host, ?_⟩
  have failed : (Handle.alloc (.onBus .fresh) capacity).run host =
      ((.error error, .onBus .fresh), host) := by
    simp only [Handle.alloc, Handle.allocFrame, StateT.run_bind, StateT.run_get, pure_bind, allocated]
    rfl
  rw [RelayBuffer.establish, HostM.run_bind_eq failed]
  rfl

/-- An acquired buffer holds its region, and its capacity is positive as a signed number. -/
theorem RelayBuffer.acquire_ok {allocator : Allocator} {capacity : Nat} {before after : Host}
    {buffer : RelayBuffer}
    (acquired : (RelayBuffer.acquire allocator capacity).run before = (.ok buffer, after)) :
    (∃ holding address, buffer = ⟨some holding, address, capacity⟩) ∧
      capacity ≠ 0 ∧ capacity ≤ maxSigned := by
  unfold RelayBuffer.acquire at acquired
  split at acquired
  · cases acquired
  · next positive =>
    rcases opens : (Handle.openOn allocator).run before with ⟨result, opened⟩
    rw [HostM.run_bind_eq opens] at acquired
    cases result with
    | error error => cases acquired
    | ok handle =>
      dsimp only at acquired
      rcases establishes : (establish handle capacity).run opened with ⟨⟨result, handle⟩, middle⟩
      rw [HostM.run_bind_eq establishes] at acquired
      cases result with
      | error error => cases congrArg (fun result => result.1) acquired
      | ok located =>
        cases acquired
        exact ⟨⟨_, _, rfl⟩, fun zero => positive (.inl zero),
          Nat.le_of_not_lt fun large => positive (.inr large)⟩

/-- The capacity of an acquired buffer is positive as a signed number. -/
theorem RelayBuffer.acquire_capacity {allocator : Allocator} {capacity : Nat} {before after : Host}
    {buffer : RelayBuffer}
    (acquired : (RelayBuffer.acquire allocator capacity).run before = (.ok buffer, after)) :
    buffer.capacity = capacity ∧ capacity ≠ 0 ∧ capacity ≤ maxSigned := by
  obtain ⟨⟨holding, address, rfl⟩, some_capacity, fits⟩ := RelayBuffer.acquire_ok acquired
  exact ⟨rfl, some_capacity, fits⟩

/-- A buffer acquired on the bus is the frame that the bus hands out next. -/
theorem RelayBuffer.acquire_bus {capacity : Nat} {before after : Host} {buffer : RelayBuffer}
    (acquired : (RelayBuffer.acquire .bus capacity).run before = (.ok buffer, after)) :
    capacity ≠ 0 ∧ capacity < addressSpace ∧
      buffer = .onBus before.bus.next before.bus.contents.size capacity ∧
      after.bus.frames = (before.bus.next, before.bus.contents.size) ::
        before.bus.frames.filter (·.1 ≠ before.bus.next) ∧
      after.bus.contents = before.bus.contents.push (.zeroed capacity) := by
  unfold RelayBuffer.acquire at acquired
  split at acquired
  · cases acquired
  · next positive =>
    have some_capacity : capacity ≠ 0 := fun zero => positive (.inl zero)
    let opened : Host := { before with bus := before.bus.openHandle }
    have begun : (Handle.openOn .bus).run before = (.ok (.onBus .fresh), opened) := rfl
    rw [HostM.run_bind_eq begun] at acquired
    dsimp only at acquired
    by_cases fits : capacity < addressSpace
    · rw [HostM.run_bind_eq (establish_run some_capacity fits)] at acquired
      cases valid : validateAddress opened.bus.next with
      | error error =>
        rw [valid] at acquired
        cases acquired
      | ok address =>
        have same : address = before.bus.next := by
          unfold validateAddress at valid
          split at valid
          · cases valid
          · cases valid; rfl
        rw [valid] at acquired
        cases acquired
        exact ⟨some_capacity, fits, by rw [same]; rfl, rfl, rfl⟩
    · obtain ⟨error, handle, later, failed⟩ := establish_fails opened (Nat.le_of_not_lt fits)
      rw [HostM.run_bind_eq failed] at acquired
      cases acquired

/-- A buffer acquired on the bus is found at its address. -/
theorem RelayBuffer.acquire_holds {capacity : Nat} {before after : Host} {buffer : RelayBuffer}
    (acquired : (RelayBuffer.acquire .bus capacity).run before = (.ok buffer, after)) :
    after.bus.Holds before.bus.next before.bus.contents.size capacity := by
  obtain ⟨_, _, _, frames, contents⟩ := RelayBuffer.acquire_bus acquired
  refine ⟨by simp [contents], by simp [Bus.extent, contents, Extent.zeroed], ?_⟩
  have member : (before.bus.next, before.bus.contents.size) ∈ after.bus.frames := by simp [frames]
  refine Bus.nearest?_eq_some member fun other member same => ?_
  rw [frames] at member
  rcases List.mem_cons.mp member with rfl | older
  · rfl
  · simpa [same] using (List.mem_filter.mp older).2

end ChunkRelay
