import ChunkRelay.Proofs.Memory.Handles
import ChunkRelay.Proofs.Memory.Traffic

/-! The order of calls on an allocator handle. Whatever backend a handle is of and
whatever was asked of it before, what it does with the next call is settled by
three phases: nothing was allocated yet, something is held, or the handle is
closed. -/

set_option autoImplicit false

namespace ChunkRelay

/-- Contents that were handed out stay and keep their size. -/
def Bus.Outlasts (before after : Bus) : Prop :=
  ∀ index < before.contents.size,
    index < after.contents.size ∧ (after.extent index).size = (before.extent index).size

/-!
## Why an allocation is refused
-/

/-- The size itself or the system is the reason to refuse, and not the order of calls. -/
def AllocationError.Refuses (error : AllocationError) (size : Nat) : Prop :=
  error = .invalidCapacity size ∨ ∃ cause, error = .allocFailed size cause

theorem BusHandle.alloc_fresh_error {bus : Bus} {size : Nat} {error : AllocationError}
    (refused : BusHandle.fresh.alloc bus size = .error error) : error.Refuses size := by
  by_cases nothing : size = 0
  · simp only [alloc, fresh, nothing, Bool.false_eq_true, Option.isSome_none, ↓reduceIte,
      Except.error.injEq] at refused
    exact .inl (by rw [← refused, nothing])
  · simp only [alloc, fresh, nothing, Bool.false_eq_true, Option.isSome_none, ↓reduceIte,
      Bus.insert] at refused
    split at refused
    · cases refused
      exact .inl rfl
    · split at refused
      · cases refused
        exact .inr ⟨_, rfl⟩
      · cases refused

theorem SegmentHandle.alloc_bare_error {directory : String} {tree later : FileTree}
    {window next : Window} {processId : UInt32} {sizing : Option IoError} {size : Nat}
    {error : AllocationError} {left : SegmentHandle}
    (refused : SegmentHandle.alloc ⟨directory, none, false⟩ tree window processId sizing size =
      (.error error, left, later, next)) : error.Refuses size := by
  simp only [alloc, Bool.false_eq_true, Option.isSome_none, ↓reduceIte] at refused
  split at refused
  · cases refused
    exact .inl rfl
  · unfold Window.reserve at refused
    by_cases large : Window.last - Window.first < roundToPage size
    · simp only [large, ↓reduceIte] at refused
      cases refused
      exact .inl rfl
    · simp only [large, ↓reduceIte] at refused
      split at refused
      · cases refused
        exact .inr ⟨_, rfl⟩
      · cases sizing with
        | some cause =>
          cases refused
          exact .inr ⟨_, rfl⟩
        | none => cases refused

theorem DeviceHandle.alloc_bare_error {node : Node} {tree : FileTree} {driver : Option Driver}
    {size : Nat} {error : AllocationError}
    (refused : DeviceHandle.alloc ⟨some node, none⟩ tree driver size = .error error) :
    error.Refuses size := by
  simp only [alloc, Option.isSome_none, Bool.false_eq_true, ↓reduceIte] at refused
  split at refused
  · cases refused
    exact .inr ⟨_, rfl⟩
  · split at refused
    · cases refused
      exact .inr ⟨_, rfl⟩
    · cases refused

theorem DeviceHandle.alloc_bare_ok {node : Node} {tree later : FileTree} {driver : Option Driver}
    {size : Nat} {number : UInt64} {left : DeviceHandle}
    (given : DeviceHandle.alloc ⟨some node, none⟩ tree driver size = .ok (number, left, later)) :
    left = ⟨some node, some size⟩ := by
  simp only [alloc, Option.isSome_none, Bool.false_eq_true, ↓reduceIte] at given
  split at given
  · cases given
  · split at given
    · cases given
    · exact (congrArg (·.2.1) (Except.ok.inj given)).symm

namespace Handle

/-- What can be asked of a handle. -/
inductive Call where
  | alloc (size : Nat)
  | address
  | map (size : Nat)
  | close
deriving DecidableEq, Repr

inductive Reply where
  | allotted (result : Except AllocationError UInt64)
  | told (result : Except AllocationError UInt64)
  | mapped (result : Except AllocationError Region)
  | closed
deriving DecidableEq

def ask (handle : Handle) : Call → HostM (Reply × Handle)
  | .alloc size => do
    let (result, next) ← handle.alloc size
    return (.allotted result, next)
  | .address => do return (.told (handle.physicalAddress (← get)), handle)
  | .map size => do return (.mapped (← handle.map size), handle)
  | .close => do return (.closed, ← handle.close)

def askAll (handle : Handle) : List Call → HostM Handle
  | [] => return handle
  | call :: rest => do
    let (_, next) ← handle.ask call
    next.askAll rest

/-- How far a handle has come, told by what was asked and replied. -/
inductive Phase where
  | bare
  /-- So many bytes were allocated, under that number. -/
  | holding (size : Nat) (number : UInt64)
  | closed
deriving DecidableEq, Repr

def Phase.next : Phase → Call → Reply → Phase
  | _, .close, _ => .closed
  | .bare, .alloc size, .allotted (.ok number) => .holding size number
  | phase, _, _ => phase

/-- What a handle can come to after its opening. Between two calls anything may happen to its host
that leaves the sizes of frames alone. -/
inductive Used (allocator : Allocator) (opened : Handle) : Host → Handle → Phase → Prop
  | opened {before host : Host} : (openOn allocator).run before = (.ok opened, host) →
      Used allocator opened host opened .bare
  | elsewhere {host after : Host} {handle : Handle} {phase : Phase} :
      Used allocator opened host handle phase → host.bus.Outlasts after.bus →
      Used allocator opened after handle phase
  | asked {host after : Host} {handle next : Handle} {phase : Phase} {call : Call}
      {reply : Reply} :
      Used allocator opened host handle phase →
      (handle.ask call).run host = ((reply, next), after) →
      Used allocator opened after next (phase.next call reply)

/-- What a handle is in each phase, by its backend. -/
inductive Fits (host : Host) : Handle → Handle → Phase → Prop
  | busBare : Fits host (.onBus .fresh) (.onBus .fresh) .bare
  | busHolding {size : Nat} {number : UInt64} {index : Nat} : index < host.bus.contents.size →
      (host.bus.extent index).size = size →
      Fits host (.onBus .fresh) (.onBus ⟨some (number, index), false⟩) (.holding size number)
  | busClosed : Fits host (.onBus .fresh) (.onBus ⟨none, true⟩) .closed
  | segmentsBare {directory : String} :
      Fits host (.onSegments ⟨directory, none, false⟩) (.onSegments ⟨directory, none, false⟩) .bare
  | segmentsHolding {directory : String} {segment : Segment} :
      Fits host (.onSegments ⟨directory, none, false⟩)
        (.onSegments ⟨directory, some segment, false⟩) (.holding segment.size segment.address)
  | segmentsClosed {directory : String} :
      Fits host (.onSegments ⟨directory, none, false⟩) (.onSegments ⟨directory, none, true⟩)
        .closed
  | deviceBare {node : Node} :
      Fits host (.onDevice ⟨some node, none⟩) (.onDevice ⟨some node, none⟩) .bare
  | deviceHolding {node : Node} {size : Nat} {number : UInt64} :
      Fits host (.onDevice ⟨some node, none⟩) (.onDevice ⟨some node, some size⟩)
        (.holding size number)
  | deviceClosed {node : Node} :
      Fits host (.onDevice ⟨some node, none⟩) (.onDevice ⟨none, none⟩) .closed

variable {allocator : Allocator} {opened handle next : Handle} {host after : Host} {phase : Phase}
  {size : Nat} {number : UInt64}

/-!
## Before anything is allocated
-/

theorem Fits.bare_eq (fits : Fits host opened handle .bare) : handle = opened := by
  cases fits <;> rfl

theorem Fits.bare_address (fits : Fits host opened handle .bare) :
    handle.physicalAddress host = .error .addressBeforeAlloc := by
  cases fits <;> rfl

theorem Fits.bare_map (fits : Fits host opened handle .bare) (size : Nat) :
    (handle.map size).run host = (.error .mapBeforeAlloc, host) := by
  cases fits <;> rfl

theorem alloc_bus_run (held : BusHandle) (size : Nat) (host : Host) :
    (alloc (.onBus held) size).run host =
      match held.alloc host.bus size with
      | .error error => ((.error error, .onBus held), host)
      | .ok (address, left, bus) => ((.ok address, .onBus left), { host with bus }) := by
  simp only [alloc, allocFrame, StateT.run_bind, StateT.run_get, pure_bind]
  cases held.alloc host.bus size <;> rfl

theorem alloc_device_run (held : DeviceHandle) (size : Nat) (host : Host) :
    (alloc (.onDevice held) size).run host =
      match held.alloc host.files host.driver size with
      | .error error => ((.error error, .onDevice held), host)
      | .ok (number, left, files) => ((.ok number, .onDevice left), { host with files }) := by
  simp only [alloc, StateT.run_bind, StateT.run_get, pure_bind]
  cases held.alloc host.files host.driver size <;> rfl

/-- An allocation that is refused leaves the handle and the bus as they were. -/
theorem Fits.bare_refused (fits : Fits host opened handle .bare) {error : AllocationError}
    (ran : (handle.alloc size).run host = ((.error error, next), after)) :
    next = handle ∧ after.bus = host.bus ∧ error.Refuses size := by
  cases fits with
  | busBare =>
    rw [alloc_bus_run] at ran
    cases handed : BusHandle.fresh.alloc host.bus size with
    | ok given =>
      rw [handed] at ran
      cases ran
    | error cause =>
      rw [handed] at ran
      cases ran
      exact ⟨rfl, rfl, BusHandle.alloc_fresh_error handed⟩
  | @segmentsBare directory =>
    rcases allots : SegmentHandle.alloc ⟨directory, none, false⟩ host.files host.window
      host.processId (host.sizing size) size with ⟨made, left, files, window⟩
    have allotted := SegmentHandle.alloc_allotted ⟨directory, none, false⟩ host.files host.window
      host.processId (host.sizing size) size
    simp only [alloc, StateT.run_bind, StateT.run_get, pure_bind, allots] at ran
    rw [allots] at allotted
    cases made with
    | ok segment => cases ran
    | error cause =>
      cases ran
      refine ⟨?_, rfl, SegmentHandle.alloc_bare_error allots⟩
      cases allotted <;> rfl
  | @deviceBare node =>
    rw [alloc_device_run] at ran
    cases given : DeviceHandle.alloc ⟨some node, none⟩ host.files host.driver size with
    | ok taken =>
      rw [given] at ran
      cases ran
    | error cause =>
      rw [given] at ran
      cases ran
      exact ⟨rfl, rfl, DeviceHandle.alloc_bare_error given⟩

theorem Fits.bare_allotted (fits : Fits host opened handle .bare)
    (ran : (handle.alloc size).run host = ((.ok number, next), after)) :
    Fits after opened next (.holding size number) := by
  cases fits with
  | busBare =>
    rw [alloc_bus_run] at ran
    cases handed : BusHandle.fresh.alloc host.bus size with
    | error cause =>
      rw [handed] at ran
      cases ran
    | ok given =>
      obtain ⟨address, left, bus⟩ := given
      rw [handed] at ran
      cases ran
      obtain ⟨-, -, rfl, rfl, rfl⟩ := BusHandle.alloc_ok handed
      apply Fits.busHolding
      · simp
      · simp [Bus.extent, Extent.zeroed]
  | @segmentsBare directory =>
    rcases allots : SegmentHandle.alloc ⟨directory, none, false⟩ host.files host.window
      host.processId (host.sizing size) size with ⟨made, left, files, window⟩
    have allotted := SegmentHandle.alloc_allotted ⟨directory, none, false⟩ host.files host.window
      host.processId (host.sizing size) size
    simp only [alloc, StateT.run_bind, StateT.run_get, pure_bind, allots] at ran
    rw [allots] at allotted
    cases made with
    | error cause => cases ran
    | ok segment =>
      cases ran
      cases allotted with
      | made reserves sized named address created =>
        rw [← sized]
        exact .segmentsHolding
  | @deviceBare node =>
    rw [alloc_device_run] at ran
    cases given : DeviceHandle.alloc ⟨some node, none⟩ host.files host.driver size with
    | error cause =>
      rw [given] at ran
      cases ran
    | ok taken =>
      obtain ⟨answer, left, files⟩ := taken
      rw [given] at ran
      cases ran
      obtain rfl := DeviceHandle.alloc_bare_ok given
      exact .deviceHolding

/-!
## While something is held
-/

theorem Fits.holding_alloc (fits : Fits host opened handle (.holding size number)) (more : Nat) :
    (handle.alloc more).run host = ((.error .alreadyAllocated, handle), host) := by
  cases fits <;> rfl

theorem Fits.holding_address (fits : Fits host opened handle (.holding size number))
    (plain : ∀ held, opened ≠ .onDevice held) : handle.physicalAddress host = .ok number := by
  cases fits with
  | busHolding => rfl
  | segmentsHolding => rfl
  | deviceHolding => exact absurd rfl (plain _)

/-- More than what was allocated cannot be mapped. -/
theorem Fits.holding_map_large (fits : Fits host opened handle (.holding size number))
    {wanted : Nat} (large : size < wanted) : (handle.map wanted).run host =
      (.error (.mapFailed wanted (.bare .invalidInput)), host) := by
  cases fits with
  | @busHolding _ _ index present sized =>
    have refused : BusHandle.map ⟨some (number, index), false⟩ host.bus wanted =
        .error (.mapFailed wanted (.bare .invalidInput)) := by
      simp [BusHandle.map, sized, large]
    simp only [map, mapFrame, StateT.run_bind, StateT.run_get, pure_bind, refused]
    rfl
  | @segmentsHolding directory segment =>
    have refused : SegmentHandle.map ⟨directory, some segment, false⟩ wanted =
        .error (.mapFailed wanted (.bare .invalidInput)) := by
      simp [SegmentHandle.map, large]
    simp only [map, refused]
    rfl
  | @deviceHolding node =>
    have refused : DeviceHandle.map ⟨some node, some size⟩ host.files wanted =
        .error (.mapFailed wanted (.bare .invalidInput)) := by
      simp [DeviceHandle.map, large]
    simp only [map, StateT.run_bind, StateT.run_get, pure_bind, refused]
    rfl

/-- What is mapped is as long as was wanted. -/
theorem Fits.holding_mapped (fits : Fits host opened handle (.holding size number)) {wanted : Nat}
    {region : Region} (ran : (handle.map wanted).run host = (.ok region, after)) :
    wanted ≤ size ∧ region.length = wanted := by
  constructor
  · by_contra large
    rw [fits.holding_map_large (Nat.lt_of_not_le large)] at ran
    cases ran
  · cases fits with
    | busHolding =>
      obtain ⟨_, _, _, _, rfl, _⟩ := mapFrame_ok ran
      rfl
    | @segmentsHolding directory segment =>
      have mapped : (SegmentHandle.map ⟨directory, some segment, false⟩ wanted).map
          (fun contents => (⟨.file contents, wanted⟩ : Region)) = .ok region :=
        congrArg Prod.fst ran
      cases found : SegmentHandle.map ⟨directory, some segment, false⟩ wanted with
      | error error =>
        rw [found] at mapped
        cases mapped
      | ok contents =>
        rw [found] at mapped
        cases mapped
        rfl
    | @deviceHolding node =>
      rw [map, HostM.run_get_bind] at ran
      cases found : DeviceHandle.map ⟨some node, some size⟩ host.files wanted with
      | error error =>
        rw [found] at ran
        cases ran
      | ok place =>
        rw [found] at ran
        cases ran
        rfl

/-- All views on a frame or a segment are of the same contents. -/
theorem Fits.holding_map (fits : Fits host opened handle (.holding size number))
    (plain : ∀ held, opened ≠ .onDevice held) : ∃ backing, ∀ wanted ≤ size,
      (handle.map wanted).run host = (.ok ⟨backing, wanted⟩, host) := by
  cases fits with
  | @busHolding _ _ index present sized =>
    refine ⟨.frame index, fun wanted fits => ?_⟩
    have mapped : BusHandle.map ⟨some (number, index), false⟩ host.bus wanted = .ok index := by
      simp [BusHandle.map, sized, Nat.not_lt_of_le fits]
    simp only [map, mapFrame, StateT.run_bind, StateT.run_get, pure_bind, mapped]
    rfl
  | @segmentsHolding directory segment =>
    refine ⟨.file segment.contents, fun wanted fits => ?_⟩
    have mapped : SegmentHandle.map ⟨directory, some segment, false⟩ wanted =
        .ok segment.contents := by
      simp [SegmentHandle.map, Nat.not_lt_of_le fits]
    simp only [map, mapped]
    rfl
  | deviceHolding => exact absurd rfl (plain _)

/-!
## After the end
-/

theorem Fits.close (fits : Fits host opened handle phase) :
    Fits (handle.close.run host).2 opened (handle.close.run host).1 .closed := by
  cases fits with
  | busBare => exact .busClosed
  | busHolding => exact .busClosed
  | busClosed => exact .busClosed
  | @segmentsBare directory =>
    rw [close_segments_run]
    exact .segmentsClosed
  | @segmentsHolding directory segment =>
    rw [close_segments_run]
    have left : (SegmentHandle.close ⟨directory, some segment, false⟩ host.files).2.1 =
        ⟨directory, none, true⟩ := by
      simp only [SegmentHandle.close, Bool.false_eq_true, ↓reduceIte]
      cases host.files.remove segment.path with
      | ok tree => rfl
      | error cause => by_cases gone : cause.kind = .notFound <;> simp [gone]
    rw [left]
    exact .segmentsClosed
  | segmentsClosed =>
    rw [close_segments_run]
    exact .segmentsClosed
  | deviceBare => exact .deviceClosed
  | deviceHolding => exact .deviceClosed
  | deviceClosed => exact .deviceClosed

theorem Fits.closed_alloc (fits : Fits host opened handle .closed) (size : Nat) :
    (handle.alloc size).run host = ((.error .closed, handle), host) := by
  cases fits <;> rfl

theorem Fits.closed_close (fits : Fits host opened handle .closed) :
    handle.close.run host = (handle, host) := by
  cases fits <;> rfl

theorem Fits.closed_address (fits : Fits host opened handle .closed) :
    ∃ error, handle.physicalAddress host = .error error ∧
      ((∀ held, opened ≠ .onDevice held) → error = .closed) := by
  cases fits with
  | busClosed => exact ⟨_, rfl, fun _ => rfl⟩
  | segmentsClosed => exact ⟨_, rfl, fun _ => rfl⟩
  | deviceClosed => exact ⟨_, rfl, fun plain => absurd rfl (plain _)⟩

theorem Fits.closed_map (fits : Fits host opened handle .closed) (size : Nat) :
    ∃ error, (handle.map size).run host = (.error error, host) ∧
      ((∀ held, opened ≠ .onDevice held) → error = .closed) := by
  cases fits with
  | busClosed => exact ⟨_, rfl, fun _ => rfl⟩
  | segmentsClosed => exact ⟨_, rfl, fun _ => rfl⟩
  | deviceClosed => exact ⟨_, rfl, fun plain => absurd rfl (plain _)⟩

/-- Whatever is asked of a closed handle, nothing happens. -/
theorem Fits.closed_ask (fits : Fits host opened handle .closed) (call : Call) :
    ∃ reply, (handle.ask call).run host = ((reply, handle), host) := by
  cases call with
  | alloc size =>
    rw [ask, HostM.run_bind_eq (fits.closed_alloc size)]
    exact ⟨_, rfl⟩
  | address => exact ⟨_, rfl⟩
  | map size =>
    obtain ⟨error, refused, _⟩ := fits.closed_map size
    rw [ask, HostM.run_bind_eq refused]
    exact ⟨_, rfl⟩
  | close =>
    rw [ask, HostM.run_bind_eq fits.closed_close]
    exact ⟨_, rfl⟩

theorem Fits.closed_askAll (fits : Fits host opened handle .closed) (calls : List Call) :
    (handle.askAll calls).run host = (handle, host) := by
  induction calls with
  | nil => rfl
  | cons call rest ih =>
    obtain ⟨reply, idle⟩ := fits.closed_ask call
    rw [askAll, HostM.run_bind_eq idle]
    exact ih

/-!
## From call to call
-/

theorem Fits.later (fits : Fits host opened handle phase) (outlasts : host.bus.Outlasts after.bus) :
    Fits after opened handle phase := by
  cases fits with
  | busBare => exact .busBare
  | busHolding present sized =>
    obtain ⟨still, same⟩ := outlasts _ present
    exact .busHolding still (same.trans sized)
  | busClosed => exact .busClosed
  | segmentsBare => exact .segmentsBare
  | segmentsHolding => exact .segmentsHolding
  | segmentsClosed => exact .segmentsClosed
  | deviceBare => exact .deviceBare
  | deviceHolding => exact .deviceHolding
  | deviceClosed => exact .deviceClosed

theorem Fits.of_bus (fits : Fits host opened handle phase) (bus : after.bus = host.bus) :
    Fits after opened handle phase := by
  apply fits.later
  intro index present
  rw [bus]
  exact ⟨present, rfl⟩

/-- A call takes a handle to the phase that its reply tells. -/
theorem Fits.ask (fits : Fits host opened handle phase) {call : Call} {reply : Reply}
    (asked : (handle.ask call).run host = ((reply, next), after)) :
    Fits after opened next (phase.next call reply) := by
  cases call with
  | close =>
    cases asked
    exact fits.close
  | address =>
    cases asked
    cases phase <;> exact fits
  | map size =>
    rcases ran : (handle.map size).run host with ⟨result, middle⟩
    rw [Handle.ask, HostM.run_bind_eq ran] at asked
    cases asked
    have spared : _ ∧ _ ∧ _ ∧ host.Spares (fun _ => False) after := map_spares ran
    cases phase <;> exact fits.of_bus spared.1
  | alloc size =>
    rcases ran : (handle.alloc size).run host with ⟨⟨result, left⟩, middle⟩
    rw [Handle.ask, HostM.run_bind_eq ran] at asked
    cases asked
    cases phase with
    | bare =>
      cases result with
      | ok number => exact fits.bare_allotted ran
      | error error =>
        obtain ⟨rfl, bus, _⟩ := fits.bare_refused ran
        exact fits.of_bus bus
    | holding held number =>
      rw [fits.holding_alloc] at ran
      cases ran
      exact fits
    | closed =>
      rw [fits.closed_alloc] at ran
      cases ran
      exact fits

/-- A handle that was just opened fits, and is of its allocator. -/
theorem openOn_fits (real : ∀ overrides, allocator ≠ .staged overrides)
    (opens : (openOn allocator).run host = (.ok opened, after)) :
    Fits after opened opened .bare ∧
      ((∀ path, allocator ≠ .device path) → ∀ held, opened ≠ .onDevice held) := by
  cases allocator with
  | bus =>
    cases opens
    exact ⟨.busBare, fun _ _ differ => by cases differ⟩
  | segments directory =>
    have found : (SegmentHandle.openIn host.files directory).map Handle.onSegments = .ok opened :=
      congrArg (·.1) opens
    cases given : SegmentHandle.openIn host.files directory with
    | error error =>
      rw [given] at found
      cases found
    | ok held =>
      rw [given] at found
      cases found
      obtain ⟨rfl, rfl⟩ := openOn_segments opens
      exact ⟨.segmentsBare, fun _ _ differ => by cases differ⟩
  | device path =>
    refine ⟨?_, fun other => absurd rfl (other path)⟩
    rw [openOn, HostM.run_get_bind] at opens
    cases found : DeviceHandle.openAt host.files path with
    | error error =>
      rw [found] at opens
      cases opens
    | ok held =>
      rw [found] at opens
      cases opens
      unfold DeviceHandle.openAt at found
      split at found
      · cases found
      · cases found
        exact .deviceBare
  | staged overrides => exact absurd rfl (real overrides)

theorem Used.fits (used : Used allocator opened host handle phase)
    (real : ∀ overrides, allocator ≠ .staged overrides) : Fits host opened handle phase := by
  induction used with
  | opened opens => exact (openOn_fits real opens).1
  | elsewhere used outlasts ih => exact ih.later outlasts
  | asked used asks ih => exact ih.ask asks

theorem Used.plain (used : Used allocator opened host handle phase)
    (real : ∀ overrides, allocator ≠ .staged overrides)
    (other : ∀ path, allocator ≠ .device path) : ∀ held, opened ≠ .onDevice held := by
  induction used with
  | opened opens => exact (openOn_fits real opens).2 other
  | elsewhere used outlasts ih => exact ih
  | asked used asks ih => exact ih

theorem Used.opens (opens : ((openOn allocator).run host).1 = .ok opened) :
    Used allocator opened ((openOn allocator).run host).2 opened .bare :=
  .opened (Prod.ext opens rfl)

theorem Used.asks (used : Used allocator opened host handle phase) (call : Call) :
    Used allocator opened ((handle.ask call).run host).2 ((handle.ask call).run host).1.2
      (phase.next call ((handle.ask call).run host).1.1) :=
  used.asked rfl

end Handle

open Handle in
/-- All handles obey one protocol, in whatever order they are called. A handle without an allocation
is as it was opened, and a refused allocation leaves it so. One that holds an allocation keeps it:
nothing more is allocated and nothing larger is mapped. A closed one refuses everything and changes
nothing. Only a device tells another reason than the closing for refusing its address and a
mapping. -/
theorem handles_follow_protocol {allocator : Allocator} {opened handle : Handle} {host : Host}
    {phase : Phase} (used : Used allocator opened host handle phase)
    (real : ∀ overrides, allocator ≠ .staged overrides) :
    (phase = .bare →
      handle = opened ∧
      handle.physicalAddress host = .error .addressBeforeAlloc ∧
      (∀ size, (handle.map size).run host = (.error .mapBeforeAlloc, host)) ∧
      ∀ size error next after, (handle.alloc size).run host = ((.error error, next), after) →
        next = handle ∧ error.Refuses size) ∧
    (∀ size number, phase = .holding size number →
      (∀ more, (handle.alloc more).run host = ((.error .alreadyAllocated, handle), host)) ∧
      (∀ wanted > size, (handle.map wanted).run host =
        (.error (.mapFailed wanted (.bare .invalidInput)), host)) ∧
      (∀ wanted region after, (handle.map wanted).run host = (.ok region, after) →
        wanted ≤ size ∧ region.length = wanted) ∧
      ((∀ path, allocator ≠ .device path) →
        handle.physicalAddress host = .ok number ∧
        ∃ backing, ∀ wanted ≤ size,
          (handle.map wanted).run host = (.ok ⟨backing, wanted⟩, host))) ∧
    (phase = .closed →
      (∀ size, (handle.alloc size).run host = ((.error .closed, handle), host)) ∧
      handle.close.run host = (handle, host) ∧
      (∃ error, handle.physicalAddress host = .error error ∧
        ((∀ path, allocator ≠ .device path) → error = .closed)) ∧
      (∀ size, ∃ error, (handle.map size).run host = (.error error, host) ∧
        ((∀ path, allocator ≠ .device path) → error = .closed)) ∧
      ∀ calls, (handle.askAll calls).run host = (handle, host)) := by
  have fits := used.fits real
  have plain := used.plain real
  refine ⟨?bare, ?holding, ?closed⟩
  case bare =>
    rintro rfl
    refine ⟨fits.bare_eq, fits.bare_address, fits.bare_map, ?_⟩
    intro size error next after ran
    obtain ⟨same, _, refuses⟩ := fits.bare_refused ran
    exact ⟨same, refuses⟩
  case holding =>
    rintro size number rfl
    refine ⟨fits.holding_alloc, fun wanted large => fits.holding_map_large large, ?_, ?_⟩
    · intro wanted region after ran
      exact fits.holding_mapped ran
    · intro other
      exact ⟨fits.holding_address (plain other), fits.holding_map (plain other)⟩
  case closed =>
    rintro rfl
    refine ⟨fits.closed_alloc, fits.closed_close, ?_, ?_, fits.closed_askAll⟩
    · obtain ⟨error, refused, closed⟩ := fits.closed_address
      exact ⟨error, refused, fun other => closed (plain other)⟩
    · intro size
      obtain ⟨error, refused, closed⟩ := fits.closed_map size
      exact ⟨error, refused, fun other => closed (plain other)⟩

open Handle in
/-- A handle on the bus that asks for nothing, then for some bytes, and is closed later. -/
theorem handles_follow_protocol_small :
    ∃ host handle, Used .bus (.onBus .fresh) host handle (.holding 64 0x80000000) ∧
      (handle.alloc 8).run host = ((.error .alreadyAllocated, handle), host) ∧
      handle.physicalAddress host = .ok 0x80000000 ∧
      ∃ after closed, handle.close.run host = (closed, after) ∧
        closed.physicalAddress after = .error .closed ∧
        (closed.askAll [.alloc 8, .close, .map 8]).run after = (closed, after) := by
  have opens : ((openOn .bus).run (.fresh 1 Bus.defaultBase .usual)).1 = .ok (.onBus .fresh) := rfl
  obtain ⟨host, handle, phase, used, rfl⟩ : ∃ host handle phase,
      Used .bus (.onBus .fresh) host handle phase ∧ phase = .holding 64 0x80000000 :=
    ⟨_, _, _, ((Used.opens opens).asks (.alloc 0)).asks (.alloc 64), by decide +kernel⟩
  have real : ∀ overrides, Allocator.bus ≠ .staged overrides := by simp
  obtain ⟨refused, _, _, held⟩ := (handles_follow_protocol used real).2.1 64 0x80000000 rfl
  obtain ⟨_, _, ⟨error, told, why⟩, _, idle⟩ :=
    (handles_follow_protocol (used.asks .close) real).2.2 rfl
  obtain rfl := why (by simp)
  exact ⟨host, handle, used, refused 8, (held (by simp)).1, _, _, rfl, told, idle _⟩

open Handle in
/-- A closed handle on a device refuses its address and a mapping as if nothing had been allocated
yet. -/
theorem closed_device_out_of_order :
    ∃ opened host handle, Used (.device "/node") opened host handle .closed ∧
      ((handle.alloc 64).run host).1.1 = .error .closed ∧
      handle.physicalAddress host = .error .addressBeforeAlloc ∧
      handle.physicalAddress host ≠ .error .closed ∧
      ((handle.map 64).run host).1 = .error .mapBeforeAlloc ∧
      ((handle.map 64).run host).1 ≠ .error .closed := by
  have opens : ((openOn (.device "/node")).run { Host.fresh 1 Bus.defaultBase
      ⟨[(["node"], .file 0)], #[.zeroed 0], []⟩ with driver := some ⟨.answer 1, .answer 4096⟩ }).1 =
        .ok (.onDevice ⟨some (.file 0), none⟩) := by
    decide +kernel
  obtain ⟨host, handle, phase, used, rfl, rfl⟩ : ∃ host handle phase,
      Used (.device "/node") (.onDevice ⟨some (.file 0), none⟩) host handle phase ∧
        phase = .closed ∧ handle = .onDevice ⟨none, none⟩ :=
    ⟨_, _, _, ((Used.opens opens).asks (.alloc 64)).asks .close, by decide +kernel⟩
  refine ⟨_, host, _, used, rfl, rfl, ?_, rfl, ?_⟩
  · intro same
    cases same
  · intro same
    cases same

end ChunkRelay
