import Mathlib.Logic.Relation
import ChunkRelay.Memory.Addressed
import ChunkRelay.Proofs.Memory.Grants

/-! A bus and everybody who uses it, told by what its users know: which handles
are open, what was handed out to whom, and what was written where. Whatever
they do, the bus counts what they count, and what is read at an address is what
was written there last. -/

set_option autoImplicit false

namespace ChunkRelay

/-!
## Steps
-/

/-- A host whose bus is in use, and what the users of the bus know. -/
structure Traffic where
  host : Host
  handles : List BusHandle
  /-- The numbers of the handles that are not closed yet. -/
  active : Finset Nat
  /-- What was handed out, the latest first. -/
  grants : List Grant
  /-- The local views, each with the address that its handle told. -/
  views : List (UInt64 × Region)
  /-- What was last written at each address. -/
  memory : UInt64 → UInt8

namespace Traffic

def start (host : Host) : Traffic :=
  { host, handles := [], active := ∅, grants := [], views := [], memory := fun _ => 0 }

/-- What the users of a bus can do that changes anything. A handle that goes out of scope is closed;
a view stays usable after its handle was closed. -/
inductive Step (traffic : Traffic) : Traffic → Prop
  | opened {handle : BusHandle} {after : Host}
      (ran : (Handle.openOn .bus).run traffic.host = (.ok (.onBus handle), after)) :
      Step traffic { traffic with
        host := after
        handles := traffic.handles ++ [handle]
        active := insert traffic.handles.length traffic.active }
  | granted {number size : Nat} {handle next : BusHandle} {address : UInt64} {after : Host}
      (known : traffic.handles[number]? = some handle)
      (ran : (Handle.alloc (.onBus handle) size).run traffic.host =
        ((.ok address, .onBus next), after)) :
      Step traffic { traffic with
        host := after
        handles := traffic.handles.set number next
        grants := ⟨number, address, size⟩ :: traffic.grants }
  | refused {number size : Nat} {handle next : BusHandle} {error : AllocationError} {after : Host}
      (known : traffic.handles[number]? = some handle)
      (ran : (Handle.alloc (.onBus handle) size).run traffic.host =
        ((.error error, .onBus next), after)) :
      Step traffic { traffic with host := after, handles := traffic.handles.set number next }
  | mapped {number size : Nat} {handle : BusHandle} {address : UInt64} {region : Region}
      {after : Host} (known : traffic.handles[number]? = some handle)
      (told : Handle.physicalAddress (.onBus handle) traffic.host = .ok address)
      (ran : (Handle.map (.onBus handle) size).run traffic.host = (.ok region, after)) :
      Step traffic { traffic with host := after, views := (address, region) :: traffic.views }
  | unmapped {number size : Nat} {handle : BusHandle} {error : AllocationError} {after : Host}
      (known : traffic.handles[number]? = some handle)
      (ran : (Handle.map (.onBus handle) size).run traffic.host = (.error error, after)) :
      Step traffic { traffic with host := after }
  | closed {number : Nat} {handle next : BusHandle} {after : Host}
      (known : traffic.handles[number]? = some handle)
      (ran : (Handle.close (.onBus handle)).run traffic.host = (.onBus next, after)) :
      Step traffic { traffic with
        host := after
        handles := traffic.handles.set number next
        active := traffic.active.erase number }
  | wrote {address : UInt64} {bytes : ByteArray} {after : Host}
      (ran : (AddressedMemory.throughBus.write address bytes).run traffic.host = (.ok (), after)) :
      Step traffic { traffic with host := after, memory := store traffic.memory address bytes }
  | missed {address : UInt64} {bytes : ByteArray} {error : AllocationError} {after : Host}
      (ran : (AddressedMemory.throughBus.write address bytes).run traffic.host =
        (.error error, after)) :
      Step traffic { traffic with host := after }
  | wroteView {view : UInt64 × Region} {start : Nat} {bytes : ByteArray}
      (known : view ∈ traffic.views) (within : start + bytes.size ≤ view.2.length) :
      Step traffic { traffic with
        host := view.2.write start bytes traffic.host
        memory := store traffic.memory (view.1 + .ofNat start) bytes }
  | clearedView {view : UInt64 × Region} {count : Nat} (known : view ∈ traffic.views)
      (within : count ≤ view.2.length) :
      Step traffic { traffic with
        host := view.2.clear count traffic.host
        memory := store traffic.memory view.1 (zeros count) }
  | elsewhere {after : Host} (same : after.bus = traffic.host.bus) :
      Step traffic { traffic with host := after }

abbrev Run : Traffic → Traffic → Prop :=
  Relation.ReflTransGen Step

/-- The bus counts what its users count. -/
structure Books (bus : Bus) (handles : List BusHandle) (active : Finset Nat)
    (grants : List Grant) : Prop where
  openHandles : bus.openHandles = active.card
  frames : bus.frames = Grant.live active grants
  below : ∀ number ∈ active, number < handles.length
  holders : ∀ grant ∈ grants, grant.holder < handles.length
  alone : (grants.map (·.holder)).Nodup
  closed : ∀ number handle, handles[number]? = some handle →
    (handle.closed = false ↔ number ∈ active)
  frame : ∀ number handle, handles[number]? = some handle → ∀ frame,
    handle.frame = some frame ↔ number ∈ active ∧ ∃ grant older, grant :: older <:+ grants ∧
      grant.holder = number ∧ (grant.base, older.length) = frame

structure Sound (base : UInt64) (traffic : Traffic) : Prop where
  laid : Grant.Laid base traffic.host.bus traffic.grants
  mirrors : Grant.Mirrors traffic.host.bus traffic.grants traffic.memory
  books : Books traffic.host.bus traffic.handles traffic.active traffic.grants
  views : ∀ view ∈ traffic.views, Grant.Viewed traffic.grants view

/-!
## What steps keep
-/

variable {base : UInt64} {bus after : Bus} {handles : List BusHandle} {active : Finset Nat}
  {grants : List Grant} {number size : Nat} {handle next : BusHandle} {address : UInt64}

theorem Books.openHandle (books : Books bus handles active grants) :
    Books bus.openHandle (handles ++ [.fresh]) (insert handles.length active) grants := by
  have unused : handles.length ∉ active := fun member => Nat.lt_irrefl _ (books.below _ member)
  have taken : ∀ grant ∈ grants, grant.holder ≠ handles.length := by
    intro grant member
    exact Nat.ne_of_lt (books.holders grant member)
  constructor
  · change bus.openHandles + 1 = _
    rw [books.openHandles, Finset.card_insert_of_notMem unused]
  · change bus.frames = _
    rw [books.frames]
    refine Grant.live_congr fun grant member => ?_
    rw [Finset.mem_insert, or_iff_right (taken grant member)]
  · intro place member
    rw [List.length_append, List.length_singleton]
    rcases Finset.mem_insert.mp member with rfl | older
    · exact Nat.lt_succ_self _
    · exact Nat.lt_succ_of_lt (books.below place older)
  · intro grant member
    rw [List.length_append]
    exact Nat.lt_add_right _ (books.holders grant member)
  · exact books.alone
  · intro place other found
    rcases found_in_concat found with ⟨older, known⟩ | ⟨rfl, rfl⟩
    · rw [books.closed place other known, Finset.mem_insert, or_iff_right (Nat.ne_of_lt older)]
    · exact iff_of_true rfl (Finset.mem_insert_self _ _)
  · intro place other found frame
    rcases found_in_concat found with ⟨older, known⟩ | ⟨rfl, rfl⟩
    · rw [books.frame place other known, Finset.mem_insert, or_iff_right (Nat.ne_of_lt older)]
    · constructor
      · intro held
        cases held
      · rintro ⟨_, grant, older, suffix, same, _⟩
        exact absurd same (taken grant (suffix.subset List.mem_cons_self))

/-- A handle without a frame never had one, as long as it is open. -/
theorem Books.ungranted (books : Books bus handles active grants)
    (known : handles[number]? = some handle) (held : number ∈ active) (bare : handle.frame = none) :
    ∀ grant ∈ grants, grant.holder ≠ number := by
  intro grant member same
  obtain ⟨newer, older, split⟩ := List.append_of_mem member
  have framed := (books.frame number handle known (grant.base, older.length)).mpr
    ⟨held, grant, older, split ▸ List.suffix_append newer _, same, rfl⟩
  rw [bare] at framed
  cases framed

theorem Books.grant (books : Books bus handles active grants) (free : bus.NextFree)
    (counted : bus.contents.size = grants.length) (known : handles[number]? = some .fresh)
    (frames : after.frames =
      (bus.next, bus.contents.size) :: bus.frames.filter (·.1 ≠ bus.next))
    (openHandles : after.openHandles = bus.openHandles) :
    Books after (handles.set number ⟨some (bus.next, bus.contents.size), false⟩) active
      (⟨number, bus.next, size⟩ :: grants) := by
  have held : number ∈ active := (books.closed number _ known).mp rfl
  have unused := books.ungranted known held rfl
  obtain ⟨present, _⟩ := List.getElem?_eq_some_iff.mp known
  constructor
  · exact openHandles.trans books.openHandles
  · have kept : bus.frames.filter (·.1 ≠ bus.next) = bus.frames :=
      List.filter_eq_self.mpr fun frame member => decide_eq_true (free frame member)
    rw [frames, kept, Grant.live, if_pos held, ← books.frames, counted]
  · rw [List.length_set]
    exact books.below
  · rw [List.length_set]
    exact List.forall_mem_cons.mpr ⟨present, books.holders⟩
  · refine List.nodup_cons.mpr ⟨?_, books.alone⟩
    intro member
    obtain ⟨grant, older, same⟩ := List.mem_map.mp member
    exact unused grant older same
  · intro place other found
    rcases found_in_set found with ⟨rfl, rfl⟩ | ⟨_, older⟩
    · exact iff_of_true rfl held
    · exact books.closed place other older
  · intro place other found frame
    rcases found_in_set found with ⟨rfl, rfl⟩ | ⟨differ, older⟩
    · constructor
      · intro given
        cases given
        exact ⟨held, _, grants, List.suffix_rfl, rfl, by rw [counted]⟩
      · rintro ⟨_, grant, older, suffix, same, rfl⟩
        rcases List.suffix_cons_iff.mp suffix with whole | suffix
        · cases whole
          rw [counted]
        · exact absurd same (unused grant (suffix.subset List.mem_cons_self))
    · rw [books.frame place other older]
      refine and_congr_right fun _ => ?_
      constructor
      · rintro ⟨grant, older, suffix, rest⟩
        exact ⟨grant, older, suffix.trans (List.suffix_cons _ _), rest⟩
      · rintro ⟨grant, older, suffix, same, framed⟩
        rcases List.suffix_cons_iff.mp suffix with whole | suffix
        · cases whole
          exact absurd same.symm differ
        · exact ⟨grant, older, suffix, same, framed⟩

/-- The base of a frame tells whose it is. -/
theorem Books.base_iff (books : Books bus handles active grants)
    (laid : Grant.Laid base bus grants) (fits : Grant.spent grants ≤ 2 ^ 64) {grant : Grant}
    {older : List Grant} (suffix : grant :: older <:+ grants) :
    ∀ other ∈ grants, other.holder = grant.holder ↔ other.base = grant.base := by
  intro other member
  have listed := suffix.subset List.mem_cons_self
  constructor
  · intro same
    rw [List.inj_on_of_nodup_map books.alone member listed same]
  · intro same
    obtain ⟨newer, earlier, split⟩ := List.append_of_mem member
    have whole : other :: earlier <:+ grants := split ▸ List.suffix_append newer _
    have within := laid.covers_base whole
    cases laid.eq_of_covers fits whole suffix within (same ▸ laid.covers_base suffix)
    rfl

theorem Books.erase (books : Books bus handles active grants) (held : number ∈ active)
    (frames : after.frames = Grant.live (active.erase number) grants)
    (openHandles : after.openHandles = bus.openHandles - 1) :
    Books after (handles.set number ⟨none, true⟩) (active.erase number) grants := by
  have present := books.below number held
  constructor
  · rw [openHandles, books.openHandles, Finset.card_erase_of_mem held]
  · exact frames
  · rw [List.length_set]
    intro place member
    exact books.below place (Finset.mem_of_mem_erase member)
  · rw [List.length_set]
    exact books.holders
  · exact books.alone
  · intro place other found
    rcases found_in_set found with ⟨rfl, rfl⟩ | ⟨differ, older⟩
    · exact iff_of_false Bool.noConfusion (Finset.notMem_erase _ _)
    · rw [books.closed place other older, Finset.mem_erase, and_iff_right differ]
  · intro place other found frame
    rcases found_in_set found with ⟨rfl, rfl⟩ | ⟨differ, older⟩
    · constructor
      · intro given
        cases given
      · rintro ⟨kept, _⟩
        exact absurd kept (Finset.notMem_erase _ _)
    · rw [books.frame place other older, Finset.mem_erase, and_iff_right differ]

theorem Books.close (books : Books bus handles active grants) (laid : Grant.Laid base bus grants)
    (fits : Grant.spent grants ≤ 2 ^ 64) (known : handles[number]? = some handle) :
    Books (handle.close bus).2 (handles.set number (handle.close bus).1) (active.erase number)
      grants := by
  by_cases held : number ∈ active
  · have unshut := (books.closed number handle known).mpr held
    rw [BusHandle.close, if_neg (by rw [unshut]; exact Bool.noConfusion)]
    cases framed : handle.frame with
    | none =>
      have unused := books.ungranted known held framed
      refine books.erase held ?_ rfl
      change bus.frames = _
      rw [books.frames]
      refine Grant.live_congr fun grant member => ?_
      rw [Finset.mem_erase, and_iff_right (unused grant member)]
    | some frame =>
      obtain ⟨_, grant, older, suffix, rfl, rfl⟩ :=
        (books.frame number handle known frame).mp framed
      refine books.erase held ?_ rfl
      change bus.frames.filter _ = _
      rw [books.frames, Grant.live_erase (books.base_iff laid fits suffix)]
  · have shut : handle.closed = true := by
      rw [← Bool.not_eq_false, books.closed number handle known]
      exact held
    obtain ⟨present, rfl⟩ := List.getElem?_eq_some_iff.mp known
    rw [BusHandle.close, if_pos shut, Finset.erase_eq_of_notMem held, List.set_getElem_self]
    exact books

theorem Books.congr (books : Books bus handles active grants) (frames : after.frames = bus.frames)
    (openHandles : after.openHandles = bus.openHandles) : Books after handles active grants where
  openHandles := openHandles.trans books.openHandles
  frames := frames.trans books.frames
  below := books.below
  holders := books.holders
  alone := books.alone
  closed := books.closed
  frame := books.frame

end Traffic

/-!
## What operations do to the host
-/

theorem BusHandle.alloc_ok {handle next : BusHandle} {bus after : Bus} {size : Nat}
    {address : UInt64} (handed : handle.alloc bus size = .ok (address, next, after)) :
    handle = .fresh ∧ size ≠ 0 ∧ address = bus.next ∧
      next = ⟨some (bus.next, bus.contents.size), false⟩ ∧
      after =
        { bus with
          next := bus.next + .ofNat (roundToPage size)
          frames := (bus.next, bus.contents.size) :: bus.frames.filter (·.1 ≠ bus.next)
          contents := bus.contents.push (.zeroed size) } := by
  have some_size := Bus.size_ne_zero_of_alloc handed
  obtain ⟨_ | frame, _ | _⟩ := handle
  · simp only [alloc, Bool.false_eq_true, Option.isSome_none, ↓reduceIte, some_size] at handed
    cases inserted : bus.insert size with
    | error error =>
      rw [inserted] at handed
      cases handed
    | ok result =>
      rw [inserted] at handed
      cases handed
      obtain ⟨taken, left⟩ := Bus.insert_ok inserted
      rw [taken] at left
      rw [taken, left]
      exact ⟨rfl, some_size, rfl, rfl, rfl⟩
  · cases handed
  · cases handed
  · cases handed

namespace Handle

variable {handle next : BusHandle} {host after : Host} {size : Nat}

theorem alloc_granted {address : UInt64}
    (ran : (alloc (.onBus handle) size).run host = ((.ok address, .onBus next), after)) :
    ∃ bus, handle.alloc host.bus size = .ok (address, next, bus) ∧ after = { host with bus } := by
  simp only [alloc, allocFrame, StateT.run_bind, StateT.run_get, pure_bind] at ran
  cases handed : handle.alloc host.bus size with
  | error error =>
    rw [handed] at ran
    cases ran
  | ok result =>
    rw [handed] at ran
    cases ran
    exact ⟨_, rfl, rfl⟩

theorem alloc_refused {error : AllocationError}
    (ran : (alloc (.onBus handle) size).run host = ((.error error, .onBus next), after)) :
    next = handle ∧ after = host := by
  simp only [alloc, allocFrame, StateT.run_bind, StateT.run_get, pure_bind] at ran
  cases handed : handle.alloc host.bus size with
  | error error =>
    rw [handed] at ran
    cases ran
    exact ⟨rfl, rfl⟩
  | ok result =>
    rw [handed] at ran
    cases ran

/-- A region is a view of the frame that its handle holds. -/
theorem map_ok {address : UInt64} {region : Region}
    (told : physicalAddress (.onBus handle) host = .ok address)
    (ran : (map (.onBus handle) size).run host = (.ok region, after)) :
    after = host ∧ ∃ index, handle.frame = some (address, index) ∧
      region = ⟨.frame index, size⟩ ∧ size ≤ (host.bus.extent index).size := by
  obtain ⟨rfl, first, index, rfl, rfl, reaches⟩ := mapFrame_ok ran
  cases told
  exact ⟨rfl, index, rfl, rfl, reaches⟩

end Handle

theorem AddressedMemory.write_ok {address : UInt64} {bytes : ByteArray} {host after : Host}
    (ran : (throughBus.write address bytes).run host = (.ok (), after)) :
    ∃ index offset, host.bus.resolve address bytes.size = .ok (index, offset) ∧
      after = { host with bus := host.bus.modify index (Extent.write · offset bytes) } := by
  rw [write, HostM.run_get_bind, Bus.write] at ran
  cases found : host.bus.resolve address bytes.size with
  | error error =>
    rw [found] at ran
    cases ran
  | ok place =>
    rw [found] at ran
    cases ran
    exact ⟨_, _, rfl, rfl⟩

theorem AddressedMemory.write_error {address : UInt64} {bytes : ByteArray} {host after : Host}
    {error : AllocationError}
    (ran : (throughBus.write address bytes).run host = (.error error, after)) : after = host := by
  rw [write, HostM.run_get_bind, Bus.write] at ran
  cases found : host.bus.resolve address bytes.size with
  | error error =>
    rw [found] at ran
    cases ran
    rfl
  | ok place =>
    rw [found] at ran
    cases ran

namespace Traffic

variable {base : UInt64} {traffic after : Traffic}

theorem Step.grants_suffix (step : Step traffic after) : traffic.grants <:+ after.grants := by
  cases step with
  | granted known ran => exact List.suffix_cons _ _
  | opened | refused | mapped | unmapped | closed | wrote | missed | wroteView | clearedView
  | elsewhere => exact List.suffix_rfl

/-- A grant gets other bytes, and nothing else changes. -/
theorem Sound.lay (sound : Sound base traffic) (fits : Grant.spent traffic.grants ≤ 2 ^ 64)
    {grant : Grant} {older : List Grant} (suffix : grant :: older <:+ traffic.grants)
    {start : Nat} {bytes : ByteArray} {change : Extent → Extent}
    (lays : Grant.Lays start bytes change) (within : start + bytes.size ≤ grant.size) :
    Sound base { traffic with
      host := { traffic.host with bus := traffic.host.bus.modify older.length change }
      memory := store traffic.memory (grant.base + .ofNat start) bytes } where
  laid := sound.laid.modify older.length fun extent => (lays extent).1
  mirrors := sound.mirrors.store sound.laid fits suffix lays within
  books := sound.books.congr rfl rfl
  views := sound.views

theorem Sound.step (sound : Sound base traffic) (step : Step traffic after)
    (fits : Grant.spent after.grants ≤ 2 ^ 64) : Sound base after := by
  have before : Grant.spent traffic.grants ≤ 2 ^ 64 :=
    Nat.le_trans (Grant.spent_le_of_suffix step.grants_suffix) fits
  obtain ⟨laid, mirrors, books, views⟩ := sound
  cases step with
  | opened ran =>
    cases ran
    exact ⟨laid.congr rfl rfl, mirrors.congr rfl, books.openHandle, views⟩
  | @granted number size handle next address host known ran =>
    obtain ⟨bus, handed, rfl⟩ := Handle.alloc_granted ran
    obtain ⟨rfl, some_size, rfl, rfl, rfl⟩ := BusHandle.alloc_ok handed
    have room : Grant.spent traffic.grants < 2 ^ 64 := by
      have rounded := Bus.le_roundToPage size
      rw [Grant.spent_cons] at fits
      dsimp only at fits
      omega
    constructor
    · exact laid.insert some_size rfl rfl
    · exact mirrors.insert laid some_size rfl rfl fits
    · exact books.grant (laid.nextFree books.frames room) laid.contents known rfl rfl
    · exact fun view member => (views view member).cons _
  | refused known ran =>
    obtain ⟨rfl, rfl⟩ := Handle.alloc_refused ran
    obtain ⟨present, rfl⟩ := List.getElem?_eq_some_iff.mp known
    rw [List.set_getElem_self]
    exact ⟨laid, mirrors, books, views⟩
  | @mapped number size handle address region host known told ran =>
    obtain ⟨rfl, index, framed, rfl, reaches⟩ := Handle.map_ok told ran
    obtain ⟨_, grant, older, suffix, _, same⟩ :=
      (books.frame number handle known (address, index)).mp framed
    cases same
    rw [(laid.placed grant older suffix).2.2] at reaches
    refine ⟨laid, mirrors, books, List.forall_mem_cons.mpr ⟨?_, views⟩⟩
    exact ⟨grant, older, suffix, rfl, rfl, reaches⟩
  | unmapped known ran =>
    cases congrArg Prod.snd ran
    exact ⟨laid, mirrors, books, views⟩
  | @closed number handle next host known ran =>
    cases ran
    have kept : (handle.close traffic.host.bus).2.next = traffic.host.bus.next ∧
        (handle.close traffic.host.bus).2.contents = traffic.host.bus.contents := by
      obtain ⟨_ | frame, _ | _⟩ := handle <;> exact ⟨rfl, rfl⟩
    exact ⟨laid.congr kept.1 kept.2, mirrors.congr kept.2, books.close laid before known, views⟩
  | @wrote address bytes host ran =>
    obtain ⟨index, offset, found, rfl⟩ := AddressedMemory.write_ok ran
    obtain ⟨grant, older, suffix, _, served, rfl, rfl⟩ := laid.resolve_ok books.frames found
    have kept := Sound.lay ⟨laid, mirrors, books, views⟩ before suffix (Grant.lays_write _ bytes)
      served.2
    rwa [Bus.add_ofNat_sub] at kept
  | missed ran =>
    cases AddressedMemory.write_error ran
    exact ⟨laid, mirrors, books, views⟩
  | @wroteView view start bytes known within =>
    obtain ⟨grant, older, suffix, told, backing, short⟩ := views view known
    have kept := Sound.lay ⟨laid, mirrors, books, views⟩ before suffix
      (Grant.lays_write start bytes) (Nat.le_trans within short)
    rwa [Region.write, Region.modify, backing, told]
  | @clearedView view count known within =>
    obtain ⟨grant, older, suffix, told, backing, short⟩ := views view known
    have whole : 0 + (zeros count).size ≤ grant.size := by
      rw [← ByteArray.size_data, Extent.data_zeros, Array.size_replicate]
      omega
    have kept := Sound.lay ⟨laid, mirrors, books, views⟩ before suffix (Grant.lays_clear count)
      whole
    have place : grant.base + .ofNat 0 = view.1 := (UInt64.add_zero _).trans told.symm
    rw [place] at kept
    rwa [Region.clear, Region.modify, backing]
  | elsewhere same =>
    constructor
    · exact laid.congr (congrArg Bus.next same) (congrArg Bus.contents same)
    · exact mirrors.congr (congrArg Bus.contents same)
    · exact books.congr (congrArg Bus.frames same) (congrArg Bus.openHandles same)
    · exact views

theorem Sound.start {host : Host} (begun : host.bus = .withBase base) :
    Sound base (start host) where
  laid := by
    have blank : Grant.Laid base (.withBase base) [] := by
      refine ⟨(UInt64.add_zero base).symm, rfl, ?_⟩
      intro grant older suffix
      cases List.suffix_nil.mp suffix
    exact blank.congr (congrArg Bus.next begun) (congrArg Bus.contents begun)
  mirrors := by
    refine ⟨?_, fun _ _ => rfl⟩
    intro grant older suffix
    cases List.suffix_nil.mp suffix
  books := by
    have blank : Books (.withBase base) [] ∅ [] := by
      constructor
      · rfl
      · rfl
      · intro number member
        cases Finset.notMem_empty number member
      · intro grant member
        cases member
      · exact List.nodup_nil
      · intro number handle known
        cases known
      · intro number handle known
        cases known
    exact blank.congr (congrArg Bus.frames begun) (congrArg Bus.openHandles begun)
  views := by
    intro view member
    cases member

theorem Run.sound {host : Host} (begun : host.bus = .withBase base)
    (run : Run (.start host) traffic) (fits : Grant.spent traffic.grants ≤ 2 ^ 64) :
    Sound base traffic := by
  induction run with
  | refl => exact .start begun
  | tail _ step ih =>
    have before := Nat.le_trans (Grant.spent_le_of_suffix step.grants_suffix) fits
    exact (ih before).step step fits

theorem Run.grants_suffix (run : Run traffic after) : traffic.grants <:+ after.grants := by
  induction run with
  | refl => exact List.suffix_rfl
  | tail _ step ih => exact ih.trans step.grants_suffix

/-- A handle that was closed is not opened again. -/
theorem Run.shut (run : Run traffic after) {number : Nat} (known : number < traffic.handles.length)
    (shut : number ∉ traffic.active) :
    number < after.handles.length ∧ number ∉ after.active := by
  induction run with
  | refl => exact ⟨known, shut⟩
  | tail _ step ih =>
    obtain ⟨known, shut⟩ := ih
    cases step with
    | opened ran =>
      rw [List.length_append]
      refine ⟨Nat.lt_add_right _ known, ?_⟩
      rw [Finset.mem_insert, not_or]
      exact ⟨Nat.ne_of_lt known, shut⟩
    | granted _ ran | refused _ ran =>
      rw [List.length_set]
      exact ⟨known, shut⟩
    | closed _ ran =>
      rw [List.length_set]
      exact ⟨known, fun member => shut (Finset.mem_of_mem_erase member)⟩
    | mapped | unmapped | wrote | missed | wroteView | clearedView | elsewhere =>
      exact ⟨known, shut⟩

/-- The bytes at an address that can be reached there. -/
def Reaches (traffic : Traffic) (address : UInt64) (length : Nat) : Prop :=
  ∃ grant ∈ traffic.grants, grant.holder ∈ traffic.active ∧ grant.Serves address length

section Access

variable {length : Nat} {address : UInt64}

theorem Sound.resolve (sound : Sound base traffic) (fits : Grant.spent traffic.grants ≤ 2 ^ 64)
    (reaches : traffic.Reaches address length) : ∃ grant older, grant :: older <:+ traffic.grants ∧
      grant.Serves address length ∧ traffic.host.bus.resolve address length =
        .ok (older.length, (address - grant.base).toNat) := by
  obtain ⟨grant, member, held, served⟩ := reaches
  obtain ⟨⟨index, offset⟩, found⟩ :=
    sound.laid.resolve_served fits sound.books.frames member held served
  obtain ⟨grant, older, suffix, _, served, rfl, rfl⟩ :=
    sound.laid.resolve_ok sound.books.frames found
  exact ⟨grant, older, suffix, served, found⟩

theorem Sound.unresolved (sound : Sound base traffic) (away : ¬ traffic.Reaches address length) :
    traffic.host.bus.resolve address length = .error (.unmapped address length) := by
  cases found : traffic.host.bus.resolve address length with
  | error error => rw [Bus.resolve_error found]
  | ok place =>
    obtain ⟨index, offset⟩ := place
    obtain ⟨grant, older, suffix, held, served, _⟩ := sound.laid.resolve_ok sound.books.frames found
    exact absurd ⟨grant, suffix.subset List.mem_cons_self, held, served⟩ away

theorem Sound.read (sound : Sound base traffic) (fits : Grant.spent traffic.grants ≤ 2 ^ 64)
    (reaches : traffic.Reaches address length) : ∃ bytes,
      traffic.host.bus.read address length = .ok bytes ∧
        bytes.data.toList = bytesAt traffic.memory address length := by
  obtain ⟨grant, older, suffix, served, found⟩ := sound.resolve fits reaches
  refine ⟨_, by rw [Bus.read, found]; rfl, ?_⟩
  rw [sound.mirrors.read suffix served.2, Bus.add_ofNat_sub]

theorem Sound.read_away (sound : Sound base traffic) (away : ¬ traffic.Reaches address length) :
    traffic.host.bus.read address length = .error (.unmapped address length) := by
  rw [Bus.read, sound.unresolved away]
  rfl

theorem Sound.write (sound : Sound base traffic) (fits : Grant.spent traffic.grants ≤ 2 ^ 64)
    {bytes : ByteArray} (reaches : traffic.Reaches address bytes.size) :
    ∃ bus, traffic.host.bus.write address bytes = .ok bus := by
  obtain ⟨grant, older, _, _, found⟩ := sound.resolve fits reaches
  exact ⟨_, by rw [Bus.write, found]; rfl⟩

theorem Sound.write_away (sound : Sound base traffic) {bytes : ByteArray}
    (away : ¬ traffic.Reaches address bytes.size) :
    traffic.host.bus.write address bytes = .error (.unmapped address bytes.size) := by
  rw [Bus.write, sound.unresolved away]
  rfl

theorem Sound.view (sound : Sound base traffic) {view : UInt64 × Region}
    (known : view ∈ traffic.views) {start : Nat} (within : start + length ≤ view.2.length) :
    (view.2.read start length traffic.host).data.toList =
      bytesAt traffic.memory (view.1 + .ofNat start) length := by
  obtain ⟨grant, older, suffix, told, backing, short⟩ := sound.views view known
  have bytes := sound.mirrors.read suffix (Nat.le_trans within short)
  rw [Region.read, Region.extent, backing, told]
  exact bytes

theorem Sound.close (sound : Sound base traffic) {number : Nat} {handle : BusHandle}
    (known : traffic.handles[number]? = some handle) (held : number ∈ traffic.active) :
    ((Handle.close (.onBus handle)).run traffic.host).2.bus.openHandles + 1 =
      traffic.host.bus.openHandles := by
  have unshut := (sound.books.closed number handle known).mpr held
  have some_open := Finset.card_pos.mpr ⟨number, held⟩
  have fewer : (handle.close traffic.host.bus).2.openHandles =
      traffic.host.bus.openHandles - 1 := by
    rw [BusHandle.close, if_neg (by rw [unshut]; exact Bool.noConfusion)]
    cases handle.frame <;> rfl
  change (handle.close traffic.host.bus).2.openHandles + 1 = _
  rw [fewer, sound.books.openHandles, Nat.sub_add_cancel some_open]

theorem Sound.gone (sound : Sound base traffic) (run : Run traffic after)
    (later : Sound base after) (fits : Grant.spent after.grants ≤ 2 ^ 64) {grant : Grant}
    (member : grant ∈ traffic.grants) (shut : grant.holder ∉ traffic.active)
    (covered : grant.Covers address) :
    (∀ other ∈ after.grants, other.Covers address → other = grant) ∧
      ∀ length, length ≠ 0 → ¬ after.Reaches address length := by
  have listed := run.grants_suffix.subset member
  obtain ⟨newer, older, split⟩ := List.append_of_mem listed
  have single : ∀ other ∈ after.grants, other.Covers address → other = grant := by
    intro other among within
    obtain ⟨front, earlier, whole⟩ := List.append_of_mem among
    have same := later.laid.eq_of_covers fits (whole ▸ List.suffix_append front _)
      (split ▸ List.suffix_append newer _) within covered
    exact (List.cons.inj same).1
  refine ⟨single, ?_⟩
  rintro length some_length ⟨other, among, held, served⟩
  rw [single other among (Grant.Laid.covers_of_serves served some_length)] at held
  exact (run.shut (sound.books.holders grant member) shut).2 held

end Access

end Traffic

/-- As long as the pages handed out fit into the addresses, a bus counts exactly the handles and the
frames in use, no two grants share an address, and an access by address goes through exactly if it
is within reach of a live grant. It finds what was written last, by address or through a view, and
so does a view. An address of a grant whose handle was closed is never reached again. -/
theorem bus_frames_isolated {base : UInt64} {host : Host} {traffic : Traffic}
    (begun : host.bus = .withBase base) (run : Traffic.Run (.start host) traffic)
    (fits : (traffic.grants.map fun grant => roundToPage grant.size).sum ≤ 2 ^ 64) :
    traffic.host.bus.openHandles = traffic.active.card ∧
      (∀ number handle, traffic.handles[number]? = some handle → number ∈ traffic.active →
        ((Handle.close (.onBus handle)).run traffic.host).2.bus.openHandles + 1 =
          traffic.host.bus.openHandles) ∧
      traffic.host.bus.liveFrames = (traffic.active.filter fun number =>
        ∃ grant ∈ traffic.grants, grant.holder = number).card ∧
      traffic.grants.Pairwise Grant.Apart ∧
      (∀ address length,
        (traffic.Reaches address length → ∃ bytes,
          traffic.host.bus.read address length = .ok bytes ∧
            bytes.data.toList = bytesAt traffic.memory address length) ∧
        (¬ traffic.Reaches address length →
          traffic.host.bus.read address length = .error (.unmapped address length))) ∧
      (∀ address bytes,
        (traffic.Reaches address bytes.size →
          ∃ bus, traffic.host.bus.write address bytes = .ok bus) ∧
        (¬ traffic.Reaches address bytes.size →
          traffic.host.bus.write address bytes = .error (.unmapped address bytes.size))) ∧
      (∀ view ∈ traffic.views, ∀ start length, start + length ≤ view.2.length →
        (view.2.read start length traffic.host).data.toList =
          bytesAt traffic.memory (view.1 + .ofNat start) length) ∧
      ∀ later, Traffic.Run traffic later →
        (later.grants.map fun grant => roundToPage grant.size).sum ≤ 2 ^ 64 →
        ∀ grant ∈ traffic.grants, grant.holder ∉ traffic.active →
        ∀ address, grant.Covers address →
          (∀ other ∈ later.grants, other.Covers address → other = grant) ∧
          (∀ length, length ≠ 0 →
            later.host.bus.read address length = .error (.unmapped address length)) ∧
          ∀ bytes, bytes.size ≠ 0 →
            later.host.bus.write address bytes = .error (.unmapped address bytes.size) := by
  have sound := run.sound begun fits
  refine ⟨sound.books.openHandles, ?close, ?frames, sound.laid.pairwise fits, ?read, ?write, ?view,
    ?gone⟩
  case close =>
    intro number handle known held
    exact sound.close known held
  case frames =>
    rw [Bus.liveFrames, sound.books.frames, Grant.length_live sound.books.alone]
  case read =>
    intro address length
    exact ⟨sound.read fits, sound.read_away⟩
  case write =>
    intro address bytes
    exact ⟨sound.write fits, sound.write_away⟩
  case view =>
    intro view known start length within
    exact sound.view known within
  case gone =>
    intro later further room grant member shut address covered
    have after := Traffic.Run.sound begun (run.trans further) room
    obtain ⟨single, away⟩ := sound.gone further after room member shut covered
    refine ⟨single, ?_, ?_⟩
    · intro length some_length
      exact after.read_away (away length some_length)
    · intro bytes some_bytes
      exact after.write_away (away bytes.size some_bytes)

/-- Of two frames the first one ends right before address zero, where the second one starts. The
second one is written by address and through a view, and the first one is given back. -/
theorem bus_frames_isolated_small :
    ∃ traffic, Traffic.Run (.start (.fresh 0 0xFFFFFFFFFFFFF000 .usual)) traffic ∧
      traffic.host.bus.openHandles = 1 ∧ traffic.host.bus.liveFrames = 1 ∧
      (∃ bytes, traffic.host.bus.read 3 3 = .ok bytes ∧ bytes.data.toList = [7, 9, 8]) ∧
      traffic.host.bus.read 0xFFFFFFFFFFFFF000 1 = .error (.unmapped 0xFFFFFFFFFFFFF000 1) := by
  have opened : Traffic.Run (.start (.fresh 0 0xFFFFFFFFFFFFF000 .usual)) _ :=
    (Relation.ReflTransGen.refl.tail (.opened rfl)).tail (.opened rfl)
  have granted := (opened.tail (.granted (rfl : _[0]? = _) (rfl :
    (Handle.alloc (.onBus .fresh) 100).run _ = _))).tail (.granted (rfl : _[1]? = _) (rfl :
    (Handle.alloc (.onBus .fresh) 5000).run _ = _))
  have mapped := granted.tail (.mapped (rfl : _[1]? = _) rfl (rfl :
    (Handle.map (.onBus _) 5000).run _ = _))
  have wrote := mapped.tail (.wrote (rfl :
    (AddressedMemory.throughBus.write 3 ⟨#[7, 8, 8]⟩).run _ = _))
  have both := wrote.tail (.wroteView List.mem_cons_self
    (by decide +kernel : 4 + ByteArray.size ⟨#[9]⟩ ≤ 5000))
  obtain ⟨traffic, run, active, grants, memory⟩ : ∃ traffic,
      Traffic.Run (.start (.fresh 0 0xFFFFFFFFFFFFF000 .usual)) traffic ∧
      traffic.active = {1} ∧ traffic.grants = [⟨1, 0, 5000⟩, ⟨0, 0xFFFFFFFFFFFFF000, 100⟩] ∧
      bytesAt traffic.memory 3 3 = [7, 9, 8] :=
    ⟨_, both.tail (.closed (rfl : _[0]? = _) rfl), by decide +kernel, by decide +kernel,
      by decide +kernel⟩
  have fits : (traffic.grants.map fun grant => roundToPage grant.size).sum ≤ 2 ^ 64 := by
    rw [grants]
    decide
  obtain ⟨count, _, frames, _, reads, _, _, gone⟩ := bus_frames_isolated rfl run fits
  refine ⟨traffic, run, ?_, ?_, ?_, ?_⟩
  · rw [count, active]
    rfl
  · rw [frames, active, grants]
    decide
  · rw [← memory]
    refine (reads 3 3).1 ⟨⟨1, 0, 5000⟩, ?_, ?_, by decide, by decide⟩
    · rw [grants]
      decide
    · rw [active]
      decide
  · refine (gone traffic .refl fits ⟨0, 0xFFFFFFFFFFFFF000, 100⟩ ?_ ?_ _ ?_).2.1 1 Nat.one_ne_zero
    · rw [grants]
      decide
    · rw [active]
      decide
    · change (0xFFFFFFFFFFFFF000 - 0xFFFFFFFFFFFFF000 : UInt64).toNat < 100
      decide

end ChunkRelay
