import ChunkRelay.Proofs.Memory.Segments
import ChunkRelay.Proofs.Memory.Settlement
import ChunkRelay.Proofs.Memory.View

/-! What a handle does to the names of files and to what is stored. It clears
the one name that it made when it is closed, and on the way it changes nothing
that was stored before, but for the file that a driver has. -/

set_option autoImplicit false

namespace ChunkRelay

/-!
## Names of files
-/

namespace Handle

/-- Closing the handle leaves these names of files. -/
def Clears (handle : Handle) (nodes : List (Location × Node)) (host : Host) : Prop :=
  match handle with
  | .onSegments ⟨_, some segment, closed⟩ => closed = false ∧ ∃ location contents,
      host.files.find segment.path = .ok (location, .file contents) ∧
        host.files.nodes.filter (·.1 ≠ location) = nodes
  | _ => host.files.nodes = nodes

variable {handle next : Handle} {nodes : List (Location × Node)} {host after : Host}

theorem Clears.congr (clears : handle.Clears nodes host)
    (same : after.files.nodes = host.files.nodes)
    (current : after.files.current = host.files.current) : handle.Clears nodes after := by
  rcases handle with held | ⟨directory, segment, closed⟩ | held | ⟨overrides, held⟩
  · exact same.trans clears
  · cases segment with
    | none => exact same.trans clears
    | some segment =>
      obtain ⟨unshut, location, contents, found, left⟩ := clears
      refine ⟨unshut, location, contents, FileTree.find_of_nodes same current found, ?_⟩
      rw [same]
      exact left
  · exact same.trans clears
  · exact same.trans clears

theorem close_files (handle : Handle) (host : Host) :
    (handle.close.run host).2.files =
      match handle with
      | .onSegments held => (held.close host.files).2.2
      | .onBus _ | .onDevice _ | .staged _ _ => host.files := by
  cases handle with
  | onBus held | staged overrides held => rfl
  | onSegments held =>
    simp only [close, StateT.run_bind, StateT.run_get, pure_bind]
    rcases held.close host.files with ⟨removal, next, files⟩
    cases removal <;> rfl
  | onDevice held =>
    simp only [close]
    rcases held.close with ⟨wasOpen, next⟩
    cases wasOpen <;> rfl

theorem Clears.close (clears : handle.Clears nodes host) :
    (handle.close.run host).2.files.nodes = nodes := by
  rw [close_files]
  rcases handle with held | ⟨directory, segment, closed⟩ | held | ⟨overrides, held⟩
  · exact clears
  · cases segment with
    | none =>
      cases closed <;> exact clears
    | some segment =>
      obtain ⟨rfl, location, contents, found, left⟩ := clears
      simp only [SegmentHandle.close, FileTree.remove_of_find found, Bool.false_eq_true, ↓reduceIte]
      exact left
  · exact clears
  · exact clears

end Handle

/-!
## What was stored
-/

/-- What was stored before is stored still, but for the files that a driver has. -/
structure Host.Spares (driven : Nat → Prop) (before after : Host) : Prop where
  busSize : before.bus.contents.size ≤ after.bus.contents.size
  frames : ∀ index < before.bus.contents.size, after.bus.extent index = before.bus.extent index
  fileSize : before.files.contents.size ≤ after.files.contents.size
  files : ∀ index < before.files.contents.size, ¬ driven index →
    after.files.extent index = before.files.extent index

theorem Host.Spares.of_eq {driven : Nat → Prop} {before after : Host}
    (frames : after.bus.contents = before.bus.contents)
    (files : after.files.contents = before.files.contents) : Spares driven before after where
  busSize := Nat.le_of_eq (congrArg Array.size frames.symm)
  frames := fun index _ => by rw [Bus.extent, frames]; rfl
  fileSize := Nat.le_of_eq (congrArg Array.size files.symm)
  files := fun index _ _ => by rw [FileTree.extent, files]; rfl

theorem Host.Spares.trans {driven : Nat → Prop} {first second third : Host}
    (earlier : Spares driven first second) (later : Spares driven second third) :
    Spares driven first third where
  busSize := Nat.le_trans earlier.busSize later.busSize
  frames := fun index present => (later.frames index
    (Nat.lt_of_lt_of_le present earlier.busSize)).trans (earlier.frames index present)
  fileSize := Nat.le_trans earlier.fileSize later.fileSize
  files := fun index present alone => (later.files index
    (Nat.lt_of_lt_of_le present earlier.fileSize) alone).trans (earlier.files index present alone)

theorem FileTree.extent_of_push {tree later : FileTree} {contents : Extent}
    (pushed : later.contents = tree.contents.push contents) {index : Nat}
    (present : index < tree.contents.size) : later.extent index = tree.extent index := by
  simp only [extent, pushed, Array.getD_eq_getD_getElem?, Array.getElem?_push_lt present,
    Array.getElem?_eq_getElem present]

/-- The driver sizes the file of its own node, if anything. -/
theorem DeviceHandle.alloc_files {held left : DeviceHandle} {tree later : FileTree}
    {driver : Option Driver} {size : Nat} {number : UInt64}
    (given : held.alloc tree driver size = .ok (number, left, later)) :
    later = tree ∨ ∃ contents, held.node = some (.file contents) ∧
      later = tree.modify contents (Extent.resize · size) := by
  unfold alloc at given
  split at given
  · cases given
  split at given
  · cases given
  · next node opened =>
    split at given
    · cases given
    · dsimp only at given
      split at given
      · cases given
      · have files := congrArg (·.2.2) (Except.ok.inj given)
        dsimp only at files
        cases node with
        | file contents =>
          dsimp only at files
          split at files
          · exact .inr ⟨contents, opened, files.symm⟩
          · exact .inl files.symm
        | directory | socket | nullDevice | zeroDevice | fullDevice => exact .inl files.symm

theorem DeviceHandle.alloc_node {held left : DeviceHandle} {tree later : FileTree}
    {driver : Option Driver} {size : Nat} {number : UInt64}
    (given : held.alloc tree driver size = .ok (number, left, later)) : left.node = held.node := by
  unfold alloc at given
  split at given
  · cases given
  split at given
  · cases given
  · split at given
    · cases given
    · dsimp only at given
      split at given
      · cases given
      · exact (congrArg (·.2.1.node) (Except.ok.inj given)).symm

/-- What is mapped is the file of the node, or contents of their own. -/
theorem DeviceHandle.map_files {held : DeviceHandle} {tree later : FileTree} {size contents : Nat}
    (mapped : held.map tree size = .ok (contents, later)) :
    held.node = some (.file contents) ∧ later = tree ∨
      (contents, later) = tree.addContents (.zeroed size) := by
  unfold map at mapped
  split at mapped
  · cases mapped
  · split at mapped
    · cases mapped
    · split at mapped
      · cases mapped
      · next node opened =>
        split at mapped
        · cases mapped
        · split at mapped
          · cases mapped
          · split at mapped
            · cases Except.ok.inj mapped
              exact .inl ⟨opened, rfl⟩
            · exact .inr (Except.ok.inj mapped).symm
            · cases mapped

theorem SegmentHandle.map_ok {held : SegmentHandle} {size contents : Nat}
    (mapped : held.map size = .ok contents) :
    ∃ segment, held.segment = some segment ∧ contents = segment.contents := by
  unfold map at mapped
  split at mapped
  · cases mapped
  · split at mapped
    · cases mapped
    · next segment holds =>
      split at mapped
      · cases mapped
      · exact ⟨segment, holds, (Except.ok.inj mapped).symm⟩

theorem Bus.present_of_size {bus : Bus} {index : Nat} (some_size : (bus.extent index).size ≠ 0) :
    index < bus.contents.size := by
  by_contra absent
  rw [extent, Array.getD_eq_getD_getElem?, Array.getElem?_eq_none (Nat.le_of_not_lt absent)]
    at some_size
  exact some_size rfl

namespace Handle

variable {handle next : Handle} {nodes : List (Location × Node)} {host after : Host}
  {size : Nat}

/-- The driver behind a handle has that file. -/
def Drives (handle : Handle) (index : Nat) : Prop :=
  ∃ allocated, handle = .onDevice ⟨some (.file index), allocated⟩

theorem allocFrame_spares {driven : Nat → Prop} {held left : BusHandle}
    {result : Except AllocationError UInt64}
    (ran : (allocFrame held size).run host = ((result, left), after)) :
    after.files = host.files ∧ host.Spares driven after := by
  rw [allocFrame, HostM.run_get_bind] at ran
  cases handed : held.alloc host.bus size with
  | error error =>
    rw [handed] at ran
    cases ran
    exact ⟨rfl, .of_eq rfl rfl⟩
  | ok given =>
    obtain ⟨address, next, bus⟩ := given
    rw [handed] at ran
    cases ran
    obtain ⟨index, inserted⟩ := Bus.insert_of_alloc handed
    have pushed : bus.contents = host.bus.contents.push (.zeroed size) := by
      rw [(Bus.insert_ok inserted).2]
    refine ⟨rfl, ?_, ?_, Nat.le_refl _, fun _ _ _ => rfl⟩
    · dsimp only
      rw [pushed, Array.size_push]
      exact Nat.le_succ _
    · intro index present
      exact Bus.extent_of_push pushed present

theorem alloc_segments_bus (held : SegmentHandle) (size : Nat) (host : Host) :
    ((Handle.alloc (.onSegments held) size).run host).2.bus = host.bus := by
  simp only [Handle.alloc, StateT.run_bind, StateT.run_get, pure_bind]
  rcases held.alloc host.files host.window host.processId (host.sizing size) size with
    ⟨made, left, files, window⟩
  cases made <;> rfl

theorem Clears.alloc_segments {held : SegmentHandle} (clears : Clears (.onSegments held) nodes host)
    {result : Except AllocationError UInt64}
    (ran : (Handle.alloc (.onSegments held) size).run host = ((result, next), after)) :
    next.Clears nodes after ∧ ∀ driven, host.Spares driven after := by
  obtain ⟨given, asked⟩ := Handle.alloc_segments_run held size host
  obtain rfl : next = _ := congrArg (·.1.2) (ran.symm.trans asked)
  have bus : after.bus = host.bus := by
    rw [← alloc_segments_bus held size host, ran]
  obtain ⟨made, _, allotted, _⟩ := Handle.alloc_segments ran
  generalize (held.alloc host.files host.window host.processId (host.sizing size) size).2.1 = left
    at allotted ⊢
  generalize later : after.files = files, after.window = window at allotted
  cases allotted with
  | refused idle | moved reserves =>
    have unchanged : ∀ driven, host.Spares driven after := fun _ =>
      .of_eq (congrArg Bus.contents bus) (congrArg FileTree.contents later)
    exact ⟨clears.congr (congrArg FileTree.nodes later) (congrArg FileTree.current later),
      unchanged⟩
  | withdrawn reserves nodes current pushed =>
    constructor
    · apply clears.congr
      · rw [later, nodes]
      · rw [later, current]
    · intro driven
      refine ⟨Nat.le_of_eq (by rw [bus]), fun _ _ => by rw [bus], ?_, ?_⟩
      · rw [later, pushed, Array.size_push]
        exact Nat.le_succ _
      · intro index present _
        rw [later, FileTree.extent_of_push pushed present]
  | @made segment tree reserves sized named address created =>
    obtain ⟨unshut, bare, _⟩ := reserves
    obtain ⟨_, location, found, undone⟩ := FileTree.createNew_undo created
    obtain ⟨_, _, _, fresh, grown⟩ := FileTree.createNew_inv created
    have pushed : tree.contents = host.files.contents.push (.zeroed 0) := by
      rw [grown]
      rfl
    obtain ⟨directory, segment?, closed⟩ := held
    cases bare
    constructor
    · refine ⟨unshut, location, segment.contents, ?_, ?_⟩
      · rw [later]
        exact FileTree.find_modify _ _ found
      · rw [later]
        exact undone.trans clears
    · intro driven
      refine ⟨Nat.le_of_eq (by rw [bus]), fun _ _ => by rw [bus], ?_, ?_⟩
      · rw [later, FileTree.modify, Array.size_modify, pushed, Array.size_push]
        exact Nat.le_succ _
      · intro index present _
        rw [later, FileTree.extent_modify_ne _ _ (by omega), FileTree.extent_of_push pushed present]

theorem Clears.alloc_device {held : DeviceHandle} (clears : Clears (.onDevice held) nodes host)
    {result : Except AllocationError UInt64}
    (ran : (Handle.alloc (.onDevice held) size).run host = ((result, next), after)) :
    next.Clears nodes after ∧ host.Spares (Drives (.onDevice held)) after := by
  rw [Handle.alloc, HostM.run_get_bind] at ran
  cases given : held.alloc host.files host.driver size with
  | error error =>
    rw [given] at ran
    cases ran
    exact ⟨clears, .of_eq rfl rfl⟩
  | ok taken =>
    obtain ⟨number, left, files⟩ := taken
    rw [given] at ran
    cases ran
    obtain ⟨opening, allocated⟩ := held
    rcases DeviceHandle.alloc_files given with rfl | ⟨contents, rfl, rfl⟩
    · exact ⟨clears, .of_eq rfl rfl⟩
    · refine ⟨clears, Nat.le_refl _, fun _ _ => rfl, ?_, ?_⟩
      · exact Nat.le_of_eq (Array.size_modify ..).symm
      · intro index _ foreign
        refine FileTree.extent_modify_ne _ _ ?_
        rintro rfl
        exact foreign ⟨allocated, rfl⟩

/-- What a handle allocates is its own to clear, and nothing else is touched. -/
theorem Clears.alloc (clears : handle.Clears nodes host) {result : Except AllocationError UInt64}
    (ran : (handle.alloc size).run host = ((result, next), after)) :
    next.Clears nodes after ∧ host.Spares handle.Drives after := by
  cases handle with
  | onBus held =>
    rcases framed : (allocFrame held size).run host with ⟨⟨given, left⟩, middle⟩
    rw [Handle.alloc, HostM.run_bind_eq framed] at ran
    cases ran
    obtain ⟨files, spares⟩ := allocFrame_spares framed
    exact ⟨(congrArg FileTree.nodes files).trans clears, spares⟩
  | staged overrides held =>
    unfold Handle.alloc at ran
    dsimp only at ran
    split at ran
    · cases ran
      exact ⟨clears, .of_eq rfl rfl⟩
    · rcases framed : (allocFrame held size).run host with ⟨⟨given, left⟩, middle⟩
      rw [HostM.run_bind_eq framed] at ran
      cases ran
      obtain ⟨files, spares⟩ := allocFrame_spares framed
      exact ⟨(congrArg FileTree.nodes files).trans clears, spares⟩
  | onSegments held =>
    obtain ⟨cleared, spares⟩ := clears.alloc_segments ran
    exact ⟨cleared, spares _⟩
  | onDevice held => exact clears.alloc_device ran

theorem map_spares {driven : Nat → Prop} {result : Except AllocationError Region}
    (ran : (handle.map size).run host = (result, after)) :
    after.bus = host.bus ∧ after.files.nodes = host.files.nodes ∧
      after.files.current = host.files.current ∧ host.Spares driven after := by
  unfold Handle.map at ran
  cases handle with
  | onBus held | staged overrides held | onSegments held =>
    cases ran
    exact ⟨rfl, rfl, rfl, .of_eq rfl rfl⟩
  | onDevice held =>
    rw [HostM.run_get_bind] at ran
    cases mapped : held.map host.files size with
    | error error =>
      rw [mapped] at ran
      cases ran
      exact ⟨rfl, rfl, rfl, .of_eq rfl rfl⟩
    | ok found =>
      obtain ⟨contents, files⟩ := found
      rw [mapped] at ran
      cases ran
      rcases DeviceHandle.map_files mapped with ⟨_, rfl⟩ | added
      · exact ⟨rfl, rfl, rfl, .of_eq rfl rfl⟩
      · cases added
        refine ⟨rfl, rfl, rfl, Nat.le_refl _, fun _ _ => rfl, ?_, ?_⟩
        · exact Nat.le_trans (Nat.le_succ _) (Nat.le_of_eq (Array.size_push _).symm)
        · intro index present _
          exact FileTree.extent_of_push rfl present

/-- The contents of the file that a handle holds exist. -/
def Rooted (handle : Handle) (host : Host) : Prop :=
  match handle with
  | .onSegments held =>
    ∀ segment, held.segment = some segment → segment.contents < host.files.contents.size
  | .onDevice held => ∀ index, held.node = some (.file index) → index < host.files.contents.size
  | .onBus _ | .staged _ _ => True

theorem Rooted.mono (rooted : handle.Rooted host)
    (grown : host.files.contents.size ≤ after.files.contents.size) : handle.Rooted after := by
  cases handle with
  | onBus held | staged overrides held => trivial
  | onSegments held =>
    intro segment holds
    exact Nat.lt_of_lt_of_le (rooted segment holds) grown
  | onDevice held =>
    intro index holds
    exact Nat.lt_of_lt_of_le (rooted index holds) grown

theorem Rooted.alloc (rooted : handle.Rooted host) {result : Except AllocationError UInt64}
    (ran : (handle.alloc size).run host = ((result, next), after))
    (grown : host.files.contents.size ≤ after.files.contents.size) : next.Rooted after := by
  cases handle with
  | onBus held =>
    cases congrArg (·.1.2) ran
    trivial
  | staged overrides held =>
    unfold Handle.alloc at ran
    dsimp only at ran
    split at ran
    · cases ran
      trivial
    · cases congrArg (·.1.2) ran
      trivial
  | onSegments held =>
    obtain ⟨given, asked⟩ := Handle.alloc_segments_run held size host
    obtain rfl : next = _ := congrArg (·.1.2) (ran.symm.trans asked)
    obtain ⟨made, _, allotted, _⟩ := Handle.alloc_segments ran
    generalize (held.alloc host.files host.window host.processId (host.sizing size) size).2.1 = left
      at allotted ⊢
    generalize later : after.files = files, after.window = window at allotted
    cases allotted with
    | refused idle | moved reserves | withdrawn reserves => exact rooted.mono grown
    | made reserves sized named address created =>
      obtain ⟨_, _, _, fresh, grew⟩ := FileTree.createNew_inv created
      intro segment holds
      cases holds
      rw [later, FileTree.modify, Array.size_modify, fresh, grew]
      exact Nat.lt_of_lt_of_eq (Nat.lt_succ_self _) (Array.size_push _).symm
  | onDevice held =>
    rw [Handle.alloc, HostM.run_get_bind] at ran
    cases given : held.alloc host.files host.driver size with
    | error error =>
      rw [given] at ran
      cases ran
      exact rooted
    | ok taken =>
      obtain ⟨number, left, files⟩ := taken
      rw [given] at ran
      cases ran
      intro index holds
      rw [DeviceHandle.alloc_node given] at holds
      exact Nat.lt_of_lt_of_le (rooted index holds) grown

/-- A region that is as long as anything is backed by contents. -/
theorem Rooted.map {region : Region} (rooted : handle.Rooted host) (some_length : region.length ≠ 0)
    (ran : (handle.map size).run host = (.ok region, after)) : region.Present after := by
  have framed : ∀ {held : BusHandle} {wanted : Nat},
      (mapFrame held wanted).run host = (.ok region, after) → region.Present after := by
    intro held wanted ran
    obtain ⟨rfl, _, _, _, rfl, reaches⟩ := mapFrame_ok ran
    refine Bus.present_of_size fun nothing => some_length ?_
    exact Nat.le_zero.mp (nothing ▸ reaches)
  cases handle with
  | onBus held => exact framed ran
  | staged overrides held => exact framed ran
  | onSegments held =>
    have mapped := congrArg Prod.fst ran
    cases congrArg Prod.snd ran
    change (held.map size).map _ = _ at mapped
    cases found : held.map size with
    | error error =>
      rw [found] at mapped
      cases mapped
    | ok contents =>
      rw [found] at mapped
      cases mapped
      obtain ⟨segment, holds, rfl⟩ := SegmentHandle.map_ok found
      exact rooted segment holds
  | onDevice held =>
    rw [Handle.map, HostM.run_get_bind] at ran
    cases found : held.map host.files size with
    | error error =>
      rw [found] at ran
      cases ran
    | ok place =>
      obtain ⟨contents, files⟩ := place
      rw [found] at ran
      cases ran
      rcases DeviceHandle.map_files found with ⟨opened, rfl⟩ | added
      · exact rooted contents opened
      · cases added
        exact Nat.lt_of_lt_of_eq (Nat.lt_succ_self _) (Array.size_push _).symm

/-- The handle takes its memory from the bus of the host. -/
def OnBus : Handle → Prop
  | .onBus _ | .staged _ _ => True
  | .onSegments _ | .onDevice _ => False

/-- What a handle allocates, it gives back as well; one that takes nothing from the bus need not ask
what the bus does next. -/
theorem Owes.alloc_of {loans : Bus.Loans} {result : Except AllocationError UInt64}
    (owes : handle.Owes loans host) (free : handle.OnBus → host.bus.NextFree)
    (ran : (handle.alloc size).run host = ((result, next), after)) : next.Owes loans after := by
  cases handle with
  | onBus held | staged overrides held => exact (owes.alloc (free trivial) ran).2
  | onSegments held =>
    obtain ⟨given, asked⟩ := Handle.alloc_segments_run held size host
    obtain rfl : next = _ := congrArg (·.1.2) (ran.symm.trans asked)
    have bus := alloc_segments_bus held size host
    rw [ran] at bus
    unfold Owes at owes ⊢
    rw [close_bus] at owes ⊢
    exact (congrArg Bus.loans bus).trans owes
  | onDevice held =>
    rw [Handle.alloc, HostM.run_get_bind] at ran
    unfold Owes at owes ⊢
    rw [close_bus] at owes ⊢
    cases given : held.alloc host.files host.driver size with
    | error error | ok taken =>
      rw [given] at ran
      cases ran
      exact owes

end Handle

/-- The allocator takes its memory from the bus of the host. -/
def Allocator.OnBus : Allocator → Prop
  | .bus | .staged _ => True
  | .segments _ | .device _ => False

/-- The file is the node of the device. -/
def Allocator.Drives (allocator : Allocator) (tree : FileTree) (index : Nat) : Prop :=
  ∃ path location, allocator = .device path ∧ tree.find path = .ok (location, .file index)

theorem DeviceHandle.openAt_file {tree : FileTree} {path : String} {allocated : Option Nat}
    {index : Nat} (opened : openAt tree path = .ok ⟨some (.file index), allocated⟩) :
    ∃ location, tree.find path = .ok (location, .file index) := by
  unfold openAt FileTree.openWritable FileTree.openExisting at opened
  cases found : tree.find path with
  | error cause =>
    rw [found] at opened
    cases opened
  | ok place =>
    obtain ⟨location, node⟩ := place
    rw [found] at opened
    cases node <;> cases opened
    exact ⟨location, rfl⟩

theorem Handle.openOn_error {allocator : Allocator} {error : AllocationError} {before after : Host}
    (failed : (Handle.openOn allocator).run before = (.error error, after)) : after = before := by
  cases allocator with
  | bus => cases failed
  | segments directory => exact (congrArg Prod.snd failed).symm
  | device path =>
    rw [openOn, HostM.run_get_bind] at failed
    cases found : DeviceHandle.openAt before.files path with
    | error error =>
      rw [found] at failed
      cases failed
      rfl
    | ok held =>
      rw [found] at failed
      cases failed
  | staged overrides =>
    unfold openOn at failed
    dsimp only at failed
    split at failed
    · cases failed
      rfl
    · cases failed

/-- If an allocator has the file of a device node, its contents exist. -/
def Allocator.Rooted (allocator : Allocator) (tree : FileTree) : Prop :=
  ∀ index, allocator.Drives tree index → index < tree.contents.size

/-- A fresh handle has nothing to clear, and stands for its allocator. -/
theorem Handle.openOn_ok {allocator : Allocator} {handle : Handle} {before after : Host}
    (opened : (Handle.openOn allocator).run before = (.ok handle, after)) :
    handle.Clears before.files.nodes after ∧ after.files = before.files ∧
      after.bus.contents = before.bus.contents ∧ (handle.OnBus → allocator.OnBus) ∧
      (∀ index, handle.Drives index → allocator.Drives before.files index) ∧
      (allocator.Rooted before.files → handle.Rooted after) := by
  cases allocator with
  | bus =>
    cases opened
    refine ⟨rfl, rfl, rfl, id, ?_, fun _ => trivial⟩
    rintro index ⟨allocated, same⟩
    cases same
  | segments directory =>
    have found : (SegmentHandle.openIn before.files directory).map Handle.onSegments = .ok handle :=
      congrArg (·.1) opened
    cases given : SegmentHandle.openIn before.files directory with
    | error error =>
      rw [given] at found
      cases found
    | ok held =>
      rw [given] at found
      cases found
      obtain ⟨rfl, rfl⟩ := openOn_segments opened
      refine ⟨rfl, rfl, rfl, id, ?_, ?_⟩
      · rintro index ⟨allocated, same⟩
        cases same
      · intro _ segment holds
        cases holds
  | device path =>
    rw [openOn, HostM.run_get_bind] at opened
    cases found : DeviceHandle.openAt before.files path with
    | error error =>
      rw [found] at opened
      cases opened
    | ok held =>
      rw [found] at opened
      cases opened
      have drives : ∀ index, Drives (.onDevice held) index →
          Allocator.Drives (.device path) before.files index := by
        rintro index ⟨allocated, same⟩
        cases same
        obtain ⟨location, stands⟩ := DeviceHandle.openAt_file found
        exact ⟨path, location, rfl, stands⟩
      refine ⟨rfl, rfl, rfl, id, drives, fun rooted index holds => ?_⟩
      obtain ⟨opening, allocated⟩ := held
      cases holds
      exact rooted index (drives index ⟨allocated, rfl⟩)
  | staged overrides =>
    unfold openOn at opened
    dsimp only at opened
    split at opened
    · cases opened
    · cases opened
      refine ⟨rfl, rfl, rfl, id, ?_, fun _ => trivial⟩
      rintro index ⟨allocated, same⟩
      cases same

end ChunkRelay
