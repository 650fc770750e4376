import ChunkRelay.Proofs.Memory.History

/-! What a handle has taken from its bus comes back when it is closed. So a
buffer that cannot be acquired leaves nothing open behind it, and one that is
released gives back all that acquiring it took. -/

set_option autoImplicit false

namespace ChunkRelay

namespace Bus

/-- What a bus has given out and not got back. -/
structure Loans where
  openHandles : Nat
  frames : List (UInt64 × Nat)

def loans (bus : Bus) : Loans :=
  ⟨bus.openHandles, bus.frames⟩

end Bus

namespace BusHandle

theorem loans_close (handle : BusHandle) {bus other : Bus} (same : other.loans = bus.loans) :
    (handle.close other).2.loans = (handle.close bus).2.loans := by
  obtain ⟨openHandles, frames⟩ := Bus.Loans.mk.inj same
  obtain ⟨_ | frame, _ | _⟩ := handle
  · simp only [close, Bus.loans, openHandles, frames, Bool.false_eq_true, ↓reduceIte]
  · exact same
  · simp only [close, Bus.remove, Bus.loans, openHandles, frames, Bool.false_eq_true, ↓reduceIte]
  · exact same

/-- A frame that was handed out goes with its handle, and no other one does. -/
theorem loans_close_of_alloc {handle next : BusHandle} {bus after : Bus} {size : Nat}
    {address : UInt64} (free : bus.NextFree)
    (handed : handle.alloc bus size = .ok (address, next, after)) :
    (next.close after).2.loans = (handle.close bus).2.loans := by
  obtain ⟨_ | frame, _ | _⟩ := handle
  · simp only [alloc, Bool.false_eq_true, Option.isSome_none, ↓reduceIte] at handed
    split at handed
    · cases handed
    · cases inserted : bus.insert size with
      | error error =>
        rw [inserted] at handed
        cases handed
      | ok result =>
        rw [inserted] at handed
        cases handed
        obtain ⟨taken, left⟩ := Bus.insert_ok inserted
        have kept : bus.frames.filter (·.1 ≠ bus.next) = bus.frames :=
          List.filter_eq_self.mpr fun frame member => decide_eq_true (free frame member)
        rw [kept] at left
        simp only [close, Bus.remove, Bus.loans, left, taken, kept, Bool.false_eq_true, ↓reduceIte,
          ne_eq, not_true_eq_false, decide_false, List.filter_cons_of_neg, not_false_eq_true]
  · cases handed
  · cases handed
  · cases handed

end BusHandle

/-!
## Handles
-/

namespace Handle

variable {handle next : Handle} {host before after : Host} {loans : Bus.Loans} {size : Nat}

/-- Closing the handle leaves its bus with these loans. -/
def Owes (handle : Handle) (loans : Bus.Loans) (host : Host) : Prop :=
  (handle.close.run host).2.bus.loans = loans

theorem close_bus (handle : Handle) (host : Host) :
    (handle.close.run host).2.bus =
      match handle with
      | .onBus held | .staged _ held => (held.close host.bus).2
      | .onSegments _ | .onDevice _ => host.bus := by
  cases handle with
  | onBus held => rfl
  | staged overrides held => rfl
  | onSegments held =>
    simp only [close, StateT.run_bind, StateT.run_get, pure_bind]
    rcases held.close host.files with ⟨removal, next, files⟩
    cases removal <;> rfl
  | onDevice held =>
    simp only [close]
    rcases held.close with ⟨wasOpen, next⟩
    cases wasOpen <;> rfl

theorem Owes.congr (owes : handle.Owes loans before) (same : after.bus.loans = before.bus.loans) :
    handle.Owes loans after := by
  unfold Owes at *
  rw [close_bus] at *
  cases handle with
  | onBus held | staged overrides held => exact (held.loans_close same).trans owes
  | onSegments held | onDevice held => exact same.trans owes

/-- Opening a handle takes nothing but the handle, and nothing if it fails. -/
theorem openOn_owes {allocator : Allocator} {result : Except AllocationError Handle}
    (opened : (openOn allocator).run before = (result, after)) :
    after.hub = before.hub ∧ after.bus.next = before.bus.next ∧
      after.bus.frames = before.bus.frames ∧
      ((∃ error, result = .error error) ∧ after.bus = before.bus ∨
        ∃ handle, result = .ok handle ∧ handle.Owes before.bus.loans after) := by
  cases allocator with
  | bus =>
    cases opened
    exact ⟨rfl, rfl, rfl, .inr ⟨_, rfl, rfl⟩⟩
  | segments directory =>
    cases found : SegmentHandle.openIn before.files directory with
    | error error =>
      have failed : (openOn (.segments directory)).run before = (.error error, before) :=
        congrArg (fun found => (Except.map onSegments found, before)) found
      cases failed.symm.trans opened
      exact ⟨rfl, rfl, rfl, .inl ⟨⟨_, rfl⟩, rfl⟩⟩
    | ok held =>
      have began : (openOn (.segments directory)).run before = (.ok (.onSegments held), before) :=
        congrArg (fun found => (Except.map onSegments found, before)) found
      cases began.symm.trans opened
      exact ⟨rfl, rfl, rfl, .inr ⟨_, rfl, congrArg Bus.loans (close_bus _ _)⟩⟩
  | device path =>
    rw [openOn, HostM.run_get_bind] at opened
    cases found : DeviceHandle.openAt before.files path with
    | error error =>
      rw [found] at opened
      cases opened
      exact ⟨rfl, rfl, rfl, .inl ⟨⟨_, rfl⟩, rfl⟩⟩
    | ok held =>
      rw [found] at opened
      cases opened
      exact ⟨rfl, rfl, rfl, .inr ⟨_, rfl, congrArg Bus.loans (close_bus _ _)⟩⟩
  | staged overrides =>
    unfold openOn at opened
    dsimp only at opened
    split at opened
    · cases opened
      exact ⟨rfl, rfl, rfl, .inl ⟨⟨_, rfl⟩, rfl⟩⟩
    · cases opened
      exact ⟨rfl, rfl, rfl, .inr ⟨_, rfl, rfl⟩⟩

theorem allocFrame_owes {held : BusHandle} {result : Except AllocationError UInt64 × BusHandle}
    (free : before.bus.NextFree) (ran : (allocFrame held size).run before = (result, after)) :
    after.hub = before.hub ∧
      (result.2.close after.bus).2.loans = (held.close before.bus).2.loans := by
  rw [allocFrame, HostM.run_get_bind] at ran
  cases handed : held.alloc before.bus size with
  | error error =>
    rw [handed] at ran
    cases ran
    exact ⟨rfl, rfl⟩
  | ok result =>
    obtain ⟨address, next, bus⟩ := result
    rw [handed] at ran
    cases ran
    exact ⟨rfl, BusHandle.loans_close_of_alloc free handed⟩

/-- What a handle allocates, it gives back as well. -/
theorem Owes.alloc {result : Except AllocationError UInt64} (owes : handle.Owes loans before)
    (free : before.bus.NextFree) (ran : (handle.alloc size).run before = ((result, next), after)) :
    after.hub = before.hub ∧ next.Owes loans after := by
  unfold Owes at *
  rw [close_bus] at *
  unfold Handle.alloc at ran
  cases handle with
  | onBus held =>
    rcases framed : (allocFrame held size).run before with ⟨⟨given, left⟩, middle⟩
    rw [HostM.run_bind_eq framed] at ran
    cases ran
    obtain ⟨hub, settled⟩ := allocFrame_owes free framed
    exact ⟨hub, settled.trans owes⟩
  | staged overrides held =>
    dsimp only at ran
    split at ran
    · cases ran
      exact ⟨rfl, owes⟩
    · rcases framed : (allocFrame held size).run before with ⟨⟨given, left⟩, middle⟩
      rw [HostM.run_bind_eq framed] at ran
      cases ran
      obtain ⟨hub, settled⟩ := allocFrame_owes free framed
      exact ⟨hub, settled.trans owes⟩
  | onSegments held =>
    rw [HostM.run_get_bind] at ran
    rcases made : held.alloc before.files before.window before.processId
      (before.sizing size) size with
      ⟨given, left, files, window⟩
    rw [made] at ran
    cases given with
    | error error =>
      cases ran
      exact ⟨rfl, owes⟩
    | ok segment =>
      cases ran
      exact ⟨rfl, owes⟩
  | onDevice held =>
    rw [HostM.run_get_bind] at ran
    cases given : held.alloc before.files before.driver size with
    | error error =>
      rw [given] at ran
      cases ran
      exact ⟨rfl, owes⟩
    | ok left =>
      obtain ⟨number, left, files⟩ := left
      rw [given] at ran
      cases ran
      exact ⟨rfl, owes⟩

theorem map_kept {result : Except AllocationError Region}
    (ran : (handle.map size).run before = (result, after)) :
    after.hub = before.hub ∧ after.bus = before.bus := by
  unfold Handle.map at ran
  cases handle with
  | onBus held | staged overrides held | onSegments held =>
    cases ran
    exact ⟨rfl, rfl⟩
  | onDevice held =>
    rw [HostM.run_get_bind] at ran
    cases mapped : held.map before.files size with
    | error error =>
      rw [mapped] at ran
      cases ran
      exact ⟨rfl, rfl⟩
    | ok found =>
      obtain ⟨contents, files⟩ := found
      rw [mapped] at ran
      cases ran
      exact ⟨rfl, rfl⟩

/-- Closing a handle is no matter of the hub. -/
theorem close_hub (handle : Handle) (host : Host) :
    (handle.close.run host).2.hub = host.hub := by
  cases handle with
  | onBus handle => rfl
  | staged overrides handle => rfl
  | onSegments handle =>
    simp only [Handle.close, StateT.run_bind, StateT.run_get, pure_bind]
    rcases handle.close host.files with ⟨removal, next, files⟩
    cases removal <;> rfl
  | onDevice handle =>
    simp only [Handle.close]
    rcases handle.close with ⟨wasOpen, next⟩
    cases wasOpen <;> rfl

end Handle

/-!
## Buffers
-/

namespace RelayBuffer

variable {buffer : RelayBuffer} {before after : Host} {loans : Bus.Loans} {capacity : Nat}

/-- Whatever comes of a handle, it still owes what it owed. -/
theorem establish_owes {handle next : Handle}
    {result : Except AllocationError (UInt64 × Region)} (owes : handle.Owes loans before)
    (free : before.bus.NextFree)
    (ran : (establish handle capacity).run before = ((result, next), after)) :
    after.hub = before.hub ∧ next.Owes loans after := by
  rcases given : (handle.alloc capacity).run before with ⟨⟨address, left⟩, middle⟩
  obtain ⟨hub, owes⟩ := owes.alloc free given
  rw [establish, HostM.run_bind_eq given, HostM.run_get_bind] at ran
  dsimp only at ran
  split at ran
  · cases ran
    exact ⟨hub, owes⟩
  · rcases mapped : (left.map capacity).run middle with ⟨region, late⟩
    obtain ⟨hub_kept, bus_kept⟩ := Handle.map_kept mapped
    rw [HostM.run_bind_eq mapped] at ran
    cases ran
    exact ⟨hub_kept.trans hub, owes.congr (congrArg Bus.loans bus_kept)⟩

/-- Releasing the buffer leaves its bus with these loans. -/
def Owes (buffer : RelayBuffer) (loans : Bus.Loans) (host : Host) : Prop :=
  (buffer.release.run host).2.bus.loans = loans

theorem release_bus (buffer : RelayBuffer) (host : Host) :
    (buffer.release.run host).2.bus =
      match buffer.holding with
      | none => host.bus
      | some holding => (holding.handle.close.run host).2.bus := by
  obtain ⟨_ | holding, address, capacity⟩ := buffer <;> rfl

theorem release_kept (buffer : RelayBuffer) (host : Host) :
    (buffer.release.run host).1.address = buffer.address ∧
      (buffer.release.run host).1.capacity = buffer.capacity ∧
      (buffer.release.run host).2.hub = host.hub := by
  obtain ⟨holding, address, capacity⟩ := buffer
  cases holding with
  | none => exact ⟨rfl, rfl, rfl⟩
  | some holding => exact ⟨rfl, rfl, holding.handle.close_hub host⟩

theorem Owes.congr (owes : buffer.Owes loans before) (same : after.bus.loans = before.bus.loans) :
    buffer.Owes loans after := by
  unfold Owes at *
  rw [release_bus] at *
  obtain ⟨_ | holding, address, capacity⟩ := buffer
  · exact same.trans owes
  · exact Handle.Owes.congr owes same

/-- Acquiring a buffer leaves the bus as it was if it fails, and otherwise once the buffer is
released. -/
theorem acquire_owes {allocator : Allocator} {result : Except AllocationError RelayBuffer}
    (free : before.bus.NextFree)
    (ran : (acquire allocator capacity).run before = (result, after)) :
    after.hub = before.hub ∧
      ((∃ error, result = .error error) ∧ after.bus.loans = before.bus.loans ∨
        ∃ buffer, result = .ok buffer ∧ buffer.Owes before.bus.loans after) := by
  unfold acquire at ran
  split at ran
  · cases ran
    exact ⟨rfl, .inl ⟨⟨_, rfl⟩, rfl⟩⟩
  · rcases opens : (Handle.openOn allocator).run before with ⟨opened, middle⟩
    obtain ⟨hub, next, frames, outcome⟩ := Handle.openOn_owes opens
    rw [HostM.run_bind_eq opens] at ran
    rcases outcome with ⟨⟨error, rfl⟩, bus⟩ | ⟨handle, rfl, owes⟩
    · cases ran
      exact ⟨hub, .inl ⟨⟨_, rfl⟩, congrArg Bus.loans bus⟩⟩
    · dsimp only at ran
      have free : middle.bus.NextFree := by
        unfold Bus.NextFree
        rw [next, frames]
        exact free
      rcases establishes : (establish handle capacity).run middle with ⟨⟨located, left⟩, late⟩
      obtain ⟨hub_kept, owes⟩ := establish_owes owes free establishes
      rw [HostM.run_bind_eq establishes] at ran
      cases located with
      | error error =>
        cases ran
        exact ⟨(left.close_hub late).trans (hub_kept.trans hub), .inl ⟨⟨_, rfl⟩, owes⟩⟩
      | ok located =>
        cases ran
        exact ⟨hub_kept.trans hub, .inr ⟨_, rfl, Handle.Owes.congr owes rfl⟩⟩

end RelayBuffer

end ChunkRelay
