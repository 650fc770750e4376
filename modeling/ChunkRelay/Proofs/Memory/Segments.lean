import ChunkRelay.Memory.Handle
import ChunkRelay.Proofs.Files.Lookup
import ChunkRelay.Proofs.Memory.History

/-! Where the segments of one process lie. The window moves up lap after lap,
and in one lap it never goes back, so segments of one lap share no address. A
segment that outlives its lap may lie under one of the next lap: only its first
address is its own. -/

set_option autoImplicit false

namespace ChunkRelay

/-- Allocating that many bytes with a handle reserves room in the window. -/
def SegmentHandle.Reserves (handle : SegmentHandle) (size : Nat) : Prop :=
  handle.closed = false ∧ handle.segment = none ∧ size ≠ 0 ∧
    roundToPage size ≤ Window.last - Window.first

instance (handle : SegmentHandle) (size : Nat) : Decidable (handle.Reserves size) :=
  inferInstanceAs (Decidable (_ ∧ _))

/-- The room reserved is at the beginning of the window once more. -/
def SegmentHandle.Wraps (handle : SegmentHandle) (window : Window) (size : Nat) : Prop :=
  handle.Reserves size ∧ window.startFor (roundToPage size) ≠ window.next

instance (handle : SegmentHandle) (window : Window) (size : Nat) :
    Decidable (handle.Wraps window size) :=
  inferInstanceAs (Decidable (_ ∧ _))

/-- Two segments share no address. -/
def Segment.Apart (one other : Segment) : Prop :=
  one.address.toNat + one.size ≤ other.address.toNat ∨
    other.address.toNat + other.size ≤ one.address.toNat

/-- What the handles on one directory can come to, with the number of laps that the window has
made. Each handle has the lap beside it that its segment is of. -/
inductive Tenancy (directory : String) (begin : Host) :
    Host → Nat → List (SegmentHandle × Nat) → Prop
  | fresh : Tenancy directory begin begin 0 []
  | opened {host after : Host} {laps : Nat} {handles : List (SegmentHandle × Nat)}
      {handle : SegmentHandle} :
      Tenancy directory begin host laps handles →
      (Handle.openOn (.segments directory)).run host = (.ok (.onSegments handle), after) →
      Tenancy directory begin after laps (handles ++ [(handle, laps)])
  | asked {host after : Host} {laps lap index size : Nat}
      {handles : List (SegmentHandle × Nat)} {handle next : SegmentHandle}
      {result : Except AllocationError UInt64} :
      Tenancy directory begin host laps handles → handles[index]? = some (handle, lap) →
      (Handle.alloc (.onSegments handle) size).run host =
        ((result, .onSegments next), after) →
      Tenancy directory begin after
        (if handle.Wraps host.window size then laps + 1 else laps)
        (handles.set index
          (next, if handle.segment = none then
            if handle.Wraps host.window size then laps + 1 else laps
          else lap))
  | closed {host after : Host} {laps lap index : Nat} {handles : List (SegmentHandle × Nat)}
      {handle next : SegmentHandle} :
      Tenancy directory begin host laps handles → handles[index]? = some (handle, lap) →
      (Handle.close (.onSegments handle)).run host = (.onSegments next, after) →
      Tenancy directory begin after laps (handles.set index (next, lap))

/-!
## One allocation
-/

theorem Window.startFor_add_le {window : Window} {span : Nat} (fits : span ≤ last - first) :
    window.startFor span + span ≤ last := by
  unfold startFor
  split
  · simp only [first, last] at *
    omega
  · next room => exact Nat.le_of_not_lt room

/-- The process number and an offset do not mix in an address. -/
theorem toNat_segmentAddress (processId : UInt32) {offset : Nat} (small : offset < 2 ^ 32) :
    ((processId.toUInt64 <<< 32) ||| .ofNat offset).toNat = processId.toNat * 2 ^ 32 + offset := by
  have bounded : processId.toNat <<< 32 < 2 ^ 64 := by
    rw [Nat.shiftLeft_eq]
    have := processId.toNat_lt
    omega
  have word : offset < UInt64.size := Nat.lt_trans small (by decide)
  rw [UInt64.toNat_or, UInt64.toNat_shiftLeft, UInt32.toNat_toUInt64,
    UInt64.toNat_ofNat_of_lt' word, show (32 : UInt64).toNat % 64 = 32 from rfl,
    Nat.mod_eq_of_lt bounded, ← Nat.shiftLeft_add_eq_or_of_lt small, Nat.shiftLeft_eq]

/-- What an allocation can do: refuse at once, move the window and fail, with a file that is gone
again or with none, or make a segment. -/
inductive Allotted (handle : SegmentHandle) (tree : FileTree) (window : Window)
    (processId : UInt32) (size : Nat) :
    Except AllocationError Segment → SegmentHandle → FileTree → Window → Prop
  | refused {error : AllocationError} : ¬ handle.Reserves size →
      Allotted handle tree window processId size (.error error) handle tree window
  | moved {error : AllocationError} : handle.Reserves size →
      Allotted handle tree window processId size (.error error) handle tree
        ⟨window.startFor (roundToPage size) + roundToPage size⟩
  | withdrawn {error : AllocationError} {later : FileTree} : handle.Reserves size →
      later.nodes = tree.nodes → later.current = tree.current →
      later.contents = tree.contents.push (.zeroed 0) →
      Allotted handle tree window processId size (.error error) handle later
        ⟨window.startFor (roundToPage size) + roundToPage size⟩
  | made {segment : Segment} {later : FileTree} :
      handle.Reserves size → segment.size = size →
      segment.path = joinPath handle.directory (segmentName segment.address) →
      segment.address =
        (processId.toUInt64 <<< 32) ||| .ofNat (window.startFor (roundToPage size)) →
      tree.createNew segment.path = .ok (segment.contents, later) →
      Allotted handle tree window processId size (.ok segment)
        { handle with segment := some segment }
        (later.modify segment.contents (Extent.resize · size))
        ⟨window.startFor (roundToPage size) + roundToPage size⟩

theorem SegmentHandle.alloc_allotted (handle : SegmentHandle) (tree : FileTree) (window : Window)
    (processId : UInt32) (sizing : Option IoError) (size : Nat) :
    Allotted handle tree window processId size
      (handle.alloc tree window processId sizing size).1
      (handle.alloc tree window processId sizing size).2.1
      (handle.alloc tree window processId sizing size).2.2.1
      (handle.alloc tree window processId sizing size).2.2.2 := by
  unfold alloc
  by_cases shut : handle.closed = true
  · rw [if_pos shut]
    refine .refused fun reserves => ?_
    rw [reserves.1] at shut
    cases shut
  rw [if_neg shut]
  by_cases held : handle.segment.isSome = true
  · rw [if_pos held]
    refine .refused fun reserves => ?_
    rw [reserves.2.1] at held
    cases held
  rw [if_neg held]
  by_cases nothing : size = 0
  · rw [if_pos nothing]
    exact .refused fun reserves => reserves.2.2.1 nothing
  rw [if_neg nothing]
  unfold Window.reserve
  by_cases large : Window.last - Window.first < roundToPage size
  · simp only [large, ↓reduceIte]
    exact .refused fun reserves => absurd reserves.2.2.2 (Nat.not_le_of_lt large)
  simp only [large, ↓reduceIte]
  have reserves : handle.Reserves size :=
    ⟨Bool.eq_false_iff.mpr shut, Option.not_isSome_iff_eq_none.mp held, nothing,
      Nat.le_of_not_lt large⟩
  split
  · exact .moved reserves
  · next contents later created =>
    cases sizing with
    | none => exact .made reserves rfl rfl rfl created
    | some cause =>
      obtain ⟨left, removed, nodes, current, pushed⟩ := FileTree.remove_createNew created
      dsimp only
      rw [removed]
      exact .withdrawn reserves nodes current pushed

/-!
## All handles together
-/

/-- Where a segment lies, and that it is reached by the file it was made as. -/
structure Sited (host : Host) (laps : Nat) (segment : Segment) (lap offset : Nat) : Prop where
  address : segment.address.toNat = host.processId.toNat * 2 ^ 32 + offset
  inside : offset + segment.size ≤ Window.last
  earlier : lap ≤ laps
  below : lap = laps → offset + segment.size ≤ host.window.next
  present : segment.contents < host.files.contents.size
  found : ∃ location, host.files.find segment.path = .ok (location, .file segment.contents)

/-- What holds of one handle and its lap. -/
def Sound (directory : String) (host : Host) (laps : Nat) (entry : SegmentHandle × Nat) : Prop :=
  entry.1.directory = directory ∧ ∀ segment, entry.1.segment = some segment →
    segment.path = joinPath directory (segmentName segment.address) ∧
      ∃ offset, Sited host laps segment entry.2 offset

/-- What holds of two handles and their laps. -/
def Clear (one other : SegmentHandle × Nat) : Prop :=
  ∀ first second, one.1.segment = some first → other.1.segment = some second →
    first.contents ≠ second.contents ∧ (one.2 = other.2 → first.Apart second)

/-- What is kept by everything that the handles do. -/
structure Lodged (directory : String) (host : Host) (laps : Nat)
    (handles : List (SegmentHandle × Nat)) : Prop where
  sound {index : Nat} {entry : SegmentHandle × Nat} :
    handles[index]? = some entry → Sound directory host laps entry
  clear {index other : Nat} {one two : SegmentHandle × Nat} : index ≠ other →
    handles[index]? = some one → handles[other]? = some two → Clear one two

section Lodged

variable {directory : String} {host after : Host} {laps later lap offset : Nat}
  {handles : List (SegmentHandle × Nat)} {entry : SegmentHandle × Nat} {segment : Segment}

theorem Segment.Apart.symm {one other : Segment} (apart : one.Apart other) : other.Apart one :=
  Or.symm apart

theorem Clear.symm {one other : SegmentHandle × Nat} (clear : Clear one other) :
    Clear other one := by
  intro first second holds given
  obtain ⟨differ, apart⟩ := clear second first given holds
  exact ⟨differ.symm, fun same => (apart same.symm).symm⟩

theorem Clear.of_none {one other : SegmentHandle × Nat} (nothing : one.1.segment = none) :
    Clear one other := by
  intro first second holds
  rw [nothing] at holds
  cases holds

theorem Sound.of_none (home : entry.1.directory = directory) (nothing : entry.1.segment = none) :
    Sound directory host laps entry := by
  refine ⟨home, fun segment holds => ?_⟩
  rw [nothing] at holds
  cases holds

/-- One handle changes, and the others find their segments where they were. -/
theorem Lodged.set (lodged : Lodged directory host laps handles) {index : Nat}
    (others : ∀ {place other}, place ≠ index → handles[place]? = some other →
      Sound directory after later other)
    (own : Sound directory after later entry)
    (clear : ∀ {place other}, place ≠ index → handles[place]? = some other → Clear entry other) :
    Lodged directory after later (handles.set index entry) where
  sound {place} {other} found := by
    rcases found_in_set found with ⟨_, rfl⟩ | ⟨elsewhere, older⟩
    · exact own
    · exact others elsewhere older
  clear {place} {distant} {one} {two} differ found given := by
    rcases found_in_set found with ⟨here, rfl⟩ | ⟨elsewhere, older⟩
    · rcases found_in_set given with ⟨there, _⟩ | ⟨apart, given⟩
      · exact absurd (here.trans there.symm) differ
      · exact clear apart given
    · rcases found_in_set given with ⟨_, rfl⟩ | ⟨_, given⟩
      · exact (clear elsewhere older).symm
      · exact lodged.clear differ older given

/-- One handle more, which holds nothing yet. -/
theorem Lodged.concat (lodged : Lodged directory host laps handles)
    (home : entry.1.directory = directory) (bare : entry.1.segment = none) :
    Lodged directory host laps (handles ++ [entry]) where
  sound {place} {other} found := by
    rcases found_in_concat found with ⟨_, older⟩ | ⟨_, rfl⟩
    · exact lodged.sound older
    · exact .of_none home bare
  clear {place} {distant} {one} {two} differ found given := by
    rcases found_in_concat found with ⟨_, older⟩ | ⟨_, rfl⟩
    · rcases found_in_concat given with ⟨_, given⟩ | ⟨_, rfl⟩
      · exact lodged.clear differ older given
      · exact (Clear.of_none bare).symm
    · exact .of_none bare

/-!
## Each thing a handle does
-/

/-- A host whose window has only moved on, perhaps into a new lap, and which has all files. -/
structure Onward (host : Host) (laps : Nat) (after : Host) (later : Nat) : Prop where
  process : after.processId = host.processId
  window : later = laps ∧ host.window.next ≤ after.window.next ∨ later = laps + 1
  size : host.files.contents.size ≤ after.files.contents.size

theorem Sited.onward (sited : Sited host laps segment lap offset)
    (onward : Onward host laps after later)
    (found : ∃ location, after.files.find segment.path = .ok (location, .file segment.contents)) :
    Sited after later segment lap offset where
  address := by rw [onward.process, sited.address]
  inside := sited.inside
  earlier := by
    have earlier := sited.earlier
    rcases onward.window with ⟨same, _⟩ | next <;> omega
  below := by
    intro same
    have earlier := sited.earlier
    rcases onward.window with ⟨rfl, further⟩ | rfl
    · exact Nat.le_trans (sited.below same) further
    · omega
  present := Nat.lt_of_lt_of_le sited.present onward.size
  found

theorem Sound.onward {directory : String} {entry : SegmentHandle × Nat}
    (sound : Sound directory host laps entry) (onward : Onward host laps after later)
    (kept : ∀ {path location contents}, host.files.find path = .ok (location, .file contents) →
      after.files.find path = .ok (location, .file contents)) :
    Sound directory after later entry := by
  refine ⟨sound.1, fun segment holds => ?_⟩
  obtain ⟨named, offset, sited⟩ := sound.2 segment holds
  obtain ⟨location, found⟩ := sited.found
  exact ⟨named, offset, sited.onward onward ⟨location, kept found⟩⟩

theorem Onward.still (process : after.processId = host.processId)
    (window : after.window = host.window)
    (larger : host.files.contents.size ≤ after.files.contents.size) :
    Onward host laps after laps :=
  ⟨process, .inl ⟨rfl, Nat.le_of_eq (congrArg Window.next window.symm)⟩, larger⟩

/-- Reserving room moves the window on, or into its next lap. -/
theorem Onward.of_reserves {handle : SegmentHandle} {size : Nat} (reserves : handle.Reserves size)
    (process : after.processId = host.processId)
    (window : after.window = ⟨host.window.startFor (roundToPage size) + roundToPage size⟩)
    (larger : host.files.contents.size ≤ after.files.contents.size) :
    Onward host laps after (if handle.Wraps host.window size then laps + 1 else laps) := by
  refine ⟨process, ?_, larger⟩
  by_cases wraps : handle.Wraps host.window size
  · exact .inr (if_pos wraps)
  · have start : host.window.startFor (roundToPage size) = host.window.next :=
      not_ne_iff.mp fun differ => wraps ⟨reserves, differ⟩
    rw [if_neg wraps, window, start]
    exact .inl ⟨rfl, Nat.le_add_right _ _⟩

/-- A segment made in the window lies behind all others of its lap. -/
theorem Lodged.made (lodged : Lodged directory host laps handles) {handle : SegmentHandle}
    {index size : Nat} (held : handles[index]? = some (handle, lap))
    (reserves : handle.Reserves size) (sized : segment.size = size)
    (named : segment.path = joinPath handle.directory (segmentName segment.address))
    (address : segment.address = (host.processId.toUInt64 <<< 32) |||
      .ofNat (host.window.startFor (roundToPage size)))
    {grown : FileTree} (created : host.files.createNew segment.path = .ok (segment.contents, grown))
    (process : after.processId = host.processId)
    (files : after.files = grown.modify segment.contents (Extent.resize · size))
    (window : after.window = ⟨host.window.startFor (roundToPage size) + roundToPage size⟩) :
    Lodged directory after (if handle.Wraps host.window size then laps + 1 else laps)
      (handles.set index ({ handle with segment := some segment },
        if handle.Wraps host.window size then laps + 1 else laps)) := by
  have home := (lodged.sound held).1
  obtain ⟨fresh, larger, stands, kept⟩ := FileTree.createNew_spec created
  have counted : after.files.contents.size = host.files.contents.size + 1 := by
    rw [files, FileTree.modify, Array.size_modify, larger]
  have fits : host.window.startFor (roundToPage size) + roundToPage size ≤ Window.last :=
    Window.startFor_add_le reserves.2.2.2
  have whole : size ≤ roundToPage size := Bus.le_roundToPage size
  have some_bytes : size ≠ 0 := reserves.2.2.1
  have placed : segment.address.toNat = host.processId.toNat * 2 ^ 32 +
      host.window.startFor (roundToPage size) := by
    rw [address]
    refine toNat_segmentAddress _ (Nat.lt_of_lt_of_le ?_ fits)
    omega
  have onward : Onward host laps after
      (if handle.Wraps host.window size then laps + 1 else laps) :=
    .of_reserves reserves process window (by omega)
  refine lodged.set ?others ?own ?clear
  case others =>
    intro place other elsewhere found
    refine (lodged.sound found).onward onward fun stood => ?_
    rw [files]
    exact FileTree.find_modify _ _ (kept stood)
  case own =>
    refine ⟨home, fun _ holds => ?_⟩
    cases holds
    refine ⟨home ▸ named, host.window.startFor (roundToPage size), ?_⟩
    exact
      { address := by rw [process, placed]
        inside := by omega
        earlier := Nat.le_refl _
        below := fun _ => by rw [window]; dsimp only; omega
        present := by omega
        found := by
          obtain ⟨location, found⟩ := stands
          rw [files]
          exact ⟨location, FileTree.find_modify _ _ found⟩ }
  case clear =>
    intro place other elsewhere found first second holds given
    cases holds
    obtain ⟨_, offset, sited⟩ := (lodged.sound found).2 second given
    refine ⟨?_, fun same => .inr ?_⟩
    · have present := sited.present
      omega
    · have earlier := sited.earlier
      by_cases wraps : handle.Wraps host.window size
      · rw [if_pos wraps] at same
        omega
      · rw [if_neg wraps] at same
        have start : host.window.startFor (roundToPage size) = host.window.next :=
          not_ne_iff.mp fun differ => wraps ⟨reserves, differ⟩
        have below := sited.below same.symm
        rw [sited.address, placed, start]
        omega

theorem Lodged.asked (lodged : Lodged directory host laps handles) {handle next : SegmentHandle}
    {index size : Nat} (held : handles[index]? = some (handle, lap)) {files : FileTree}
    {window : Window} {result : Except AllocationError Segment} (allotted :
      Allotted handle host.files host.window host.processId size result next files window)
    (process : after.processId = host.processId) (tree : after.files = files)
    (moved : after.window = window) :
    Lodged directory after (if handle.Wraps host.window size then laps + 1 else laps)
      (handles.set index
        (next, if handle.segment = none then
          if handle.Wraps host.window size then laps + 1 else laps
        else lap)) := by
  have home := (lodged.sound held).1
  cases allotted with
  | refused idle =>
    rw [if_neg fun wraps => idle wraps.1]
    have same : Onward host laps after laps :=
      .still process moved (Nat.le_of_eq (by rw [tree]))
    have found : ∀ {place : Nat} {other : SegmentHandle × Nat}, handles[place]? = some other →
        Sound directory after laps other := by
      intro place other found
      refine (lodged.sound found).onward same fun stood => ?_
      rw [tree]
      exact stood
    refine lodged.set (fun _ => found) ?_ fun elsewhere given => ?_
    · by_cases bare : handle.segment = none
      · exact .of_none home bare
      · rw [if_neg bare]
        exact found held
    · by_cases bare : handle.segment = none
      · exact .of_none bare
      · rw [if_neg bare]
        exact (lodged.clear elsewhere given held).symm
  | moved reserves =>
    have onward : Onward host laps after
        (if handle.Wraps host.window size then laps + 1 else laps) :=
      .of_reserves reserves process moved (Nat.le_of_eq (by rw [tree]))
    refine lodged.set (fun elsewhere found => (lodged.sound found).onward onward fun stood => ?_)
      (.of_none home reserves.2.1) fun _ _ => .of_none reserves.2.1
    rw [tree]
    exact stood
  | withdrawn reserves nodes current pushed =>
    have onward : Onward host laps after
        (if handle.Wraps host.window size then laps + 1 else laps) := by
      apply Onward.of_reserves reserves process moved
      rw [tree, pushed, Array.size_push]
      exact Nat.le_succ _
    refine lodged.set (fun elsewhere found => (lodged.sound found).onward onward fun stood => ?_)
      (.of_none home reserves.2.1) fun _ _ => .of_none reserves.2.1
    rw [tree]
    exact FileTree.find_of_nodes nodes current stood
  | made reserves sized named address created =>
    rw [if_pos reserves.2.1]
    exact lodged.made held reserves sized named address created process tree moved

/-- A handle that is closed lets its segment go and removes its file, if that can be done. -/
theorem SegmentHandle.close_cases (handle : SegmentHandle) (tree : FileTree) :
    (handle.close tree).2 = (handle, tree) ∨
      ((handle.close tree).2.1.directory = handle.directory ∧
        (handle.close tree).2.1.segment = none ∧
        ((handle.close tree).2.2 = tree ∨ ∃ segment, handle.segment = some segment ∧
          tree.remove segment.path = .ok (handle.close tree).2.2)) := by
  unfold close
  by_cases shut : handle.closed = true
  · rw [if_pos shut]
    exact .inl rfl
  rw [if_neg shut]
  right
  cases holds : handle.segment with
  | none => exact ⟨rfl, rfl, .inl rfl⟩
  | some segment =>
    cases removed : tree.remove segment.path with
    | ok later =>
      dsimp only
      rw [removed]
      exact ⟨rfl, rfl, .inr ⟨segment, rfl, removed⟩⟩
    | error cause =>
      dsimp only
      rw [removed]
      dsimp only
      split <;> exact ⟨rfl, rfl, .inl rfl⟩

/-- Closing changes no segment but the handle's own, which is gone. -/
theorem Lodged.closed (lodged : Lodged directory host laps handles) {handle : SegmentHandle}
    {index : Nat} (held : handles[index]? = some (handle, lap))
    (process : after.processId = host.processId) (window : after.window = host.window)
    (files : after.files = (handle.close host.files).2.2) :
    Lodged directory after laps (handles.set index ((handle.close host.files).2.1, lap)) := by
  have home := (lodged.sound held).1
  have still : ∀ {place : Nat} {other : SegmentHandle × Nat}, after.files = host.files →
      handles[place]? = some other → Sound directory after laps other := by
    intro place other same found
    refine (lodged.sound found).onward (.still process window (Nat.le_of_eq (by rw [same])))
      fun stood => ?_
    rw [same]
    exact stood
  rcases handle.close_cases host.files with same | ⟨kept, bare, same | ⟨segment, holds, removed⟩⟩
  · rw [same] at files ⊢
    exact lodged.set (fun _ => still files) (still files held) fun elsewhere given =>
      (lodged.clear elsewhere given held).symm
  · rw [same] at files
    exact lodged.set (fun _ => still files) (.of_none (kept.trans home) bare)
      fun _ _ => .of_none bare
  · obtain ⟨_, _, sited⟩ := (lodged.sound held).2 segment holds
    obtain ⟨location, found⟩ := sited.found
    obtain ⟨contents, stays⟩ := FileTree.remove_spec removed found
    rw [← files] at contents stays
    refine lodged.set (fun {place} {other} elsewhere given => ?_)
      (.of_none (kept.trans home) bare) fun _ _ => .of_none bare
    refine ⟨(lodged.sound given).1, fun second holding => ?_⟩
    obtain ⟨named, offset, lies⟩ := (lodged.sound given).2 second holding
    obtain ⟨place, stood⟩ := lies.found
    have differ := (lodged.clear elsewhere given held second segment holding holds).1
    exact ⟨named, offset, lies.onward
      (.still process window (Nat.le_of_eq (by rw [contents]))) ⟨place, stays differ stood⟩⟩

end Lodged

/-!
## Real handles
-/

section Handles

variable {host after : Host} {handle next : SegmentHandle} {size : Nat}

theorem Handle.openOn_segments {directory : String}
    (ran : (Handle.openOn (.segments directory)).run host = (.ok (.onSegments handle), after)) :
    handle = ⟨directory, none, false⟩ ∧ after = host := by
  have opened : (SegmentHandle.openIn host.files directory).map Handle.onSegments =
      .ok (.onSegments handle) := congrArg (·.1) ran
  refine ⟨?_, (congrArg (·.2) ran).symm⟩
  unfold SegmentHandle.openIn at opened
  split at opened
  · cases opened
  · cases opened
    rfl
  · cases opened

theorem Handle.alloc_segments {result : Except AllocationError UInt64}
    (ran : (Handle.alloc (.onSegments handle) size).run host =
      ((result, .onSegments next), after)) :
    ∃ made, result = made.map (·.address) ∧
      Allotted handle host.files host.window host.processId size made next after.files
        after.window ∧
      after.processId = host.processId := by
  have allotted :=
    handle.alloc_allotted host.files host.window host.processId (host.sizing size) size
  rcases allots : handle.alloc host.files host.window host.processId (host.sizing size) size with
    ⟨made, left, files, window⟩
  rw [allots] at allotted
  simp only [Handle.alloc, StateT.run_bind, StateT.run_get, pure_bind, allots] at ran
  cases made with
  | error error =>
    cases ran
    exact ⟨_, rfl, allotted, rfl⟩
  | ok segment =>
    cases ran
    exact ⟨_, rfl, allotted, rfl⟩

theorem Handle.close_segments
    (ran : (Handle.close (.onSegments handle)).run host = (.onSegments next, after)) :
    next = (handle.close host.files).2.1 ∧ after.processId = host.processId ∧
      after.window = host.window ∧ after.files = (handle.close host.files).2.2 := by
  rcases closes : handle.close host.files with ⟨removal, left, files⟩
  simp only [Handle.close, StateT.run_bind, StateT.run_get, pure_bind, closes] at ran
  cases removal with
  | nothing | removed path | failed path cause =>
    cases ran
    exact ⟨rfl, rfl, rfl, rfl⟩

theorem Handle.alloc_segments_run (handle : SegmentHandle) (size : Nat) (host : Host) :
    ∃ result, (Handle.alloc (.onSegments handle) size).run host =
      ((result, .onSegments
          (handle.alloc host.files host.window host.processId (host.sizing size) size).2.1),
        ((Handle.alloc (.onSegments handle) size).run host).2) := by
  rcases allots : handle.alloc host.files host.window host.processId (host.sizing size) size with
    ⟨made, left, files, window⟩
  simp only [Handle.alloc, StateT.run_bind, StateT.run_get, pure_bind, allots]
  cases made with
  | error error => exact ⟨_, rfl⟩
  | ok segment => exact ⟨_, rfl⟩

theorem Handle.close_segments_run (handle : SegmentHandle) (host : Host) :
    (Handle.close (.onSegments handle)).run host =
      (.onSegments (handle.close host.files).2.1,
        ((Handle.close (.onSegments handle)).run host).2) := by
  rcases closes : handle.close host.files with ⟨removal, left, files⟩
  simp only [Handle.close, StateT.run_bind, StateT.run_get, pure_bind, closes]
  cases removal <;> rfl

end Handles

/-- What holds of all segments whatever the handles on a directory have done. -/
theorem Tenancy.lodged {directory : String} {begin host : Host} {laps : Nat}
    {handles : List (SegmentHandle × Nat)} (tenancy : Tenancy directory begin host laps handles) :
    Lodged directory host laps handles := by
  induction tenancy with
  | fresh => exact ⟨fun found => (by cases found), fun _ found => (by cases found)⟩
  | opened tenancy opens ih =>
    obtain ⟨rfl, rfl⟩ := Handle.openOn_segments opens
    exact ih.concat rfl rfl
  | asked tenancy held asks ih =>
    obtain ⟨_, _, allotted, process⟩ := Handle.alloc_segments asks
    exact ih.asked held allotted process rfl rfl
  | closed tenancy held closes ih =>
    obtain ⟨rfl, process, window, files⟩ := Handle.close_segments closes
    exact ih.closed held process window files

/-- Segments of one process that were made in the same lap of the window share no address, and no
two of them ever begin at the same one. All lie in the part of the addresses that the process owns. -/
theorem segments_of_lap_apart {directory : String} {begin host : Host} {laps : Nat}
    {handles : List (SegmentHandle × Nat)} (tenancy : Tenancy directory begin host laps handles)
    {index : Nat} {handle : SegmentHandle} {lap : Nat} {segment : Segment}
    (held : handles[index]? = some (handle, lap)) (holds : handle.segment = some segment) :
    host.processId.toNat * 2 ^ 32 ≤ segment.address.toNat ∧
      segment.address.toNat + segment.size ≤ (host.processId.toNat + 1) * 2 ^ 32 ∧
      ∀ {place : Nat} {other : SegmentHandle} {round : Nat} {second : Segment},
        index ≠ place → handles[place]? = some (other, round) → other.segment = some second →
        segment.address ≠ second.address ∧ (lap = round → segment.Apart second) := by
  have lodged := tenancy.lodged
  obtain ⟨named, offset, sited⟩ := (lodged.sound held).2 segment holds
  have inside := sited.inside
  rw [sited.address]
  refine ⟨Nat.le_add_right _ _, ?_, ?_⟩
  · simp only [Window.last] at inside
    omega
  · intro place other round second elsewhere given holding
    obtain ⟨differ, apart⟩ := lodged.clear elsewhere held given segment second holds holding
    refine ⟨fun same => differ ?_, apart⟩
    obtain ⟨alike, _, lies⟩ := (lodged.sound given).2 second holding
    obtain ⟨location, found⟩ := sited.found
    obtain ⟨position, stood⟩ := lies.found
    rw [alike, ← same, ← named, found] at stood
    exact Node.file.inj (congrArg (·.2) (Except.ok.inj stood))

section Runs

variable {directory : String} {begin host : Host} {laps lap : Nat}
  {handles : List (SegmentHandle × Nat)} {handle : SegmentHandle}

theorem Tenancy.opens (tenancy : Tenancy directory begin host laps handles)
    (opens : SegmentHandle.openIn host.files directory = .ok handle) :
    Tenancy directory begin host laps (handles ++ [(handle, laps)]) := by
  refine tenancy.opened (Prod.ext ?_ rfl)
  exact congrArg (Except.map Handle.onSegments) opens

theorem Tenancy.asks (tenancy : Tenancy directory begin host laps handles) {index : Nat}
    (held : handles[index]? = some (handle, lap)) (size : Nat) :
    Tenancy directory begin ((Handle.alloc (.onSegments handle) size).run host).2
      (if handle.Wraps host.window size then laps + 1 else laps)
      (handles.set index
        ((handle.alloc host.files host.window host.processId (host.sizing size) size).2.1,
        if handle.segment = none then
          if handle.Wraps host.window size then laps + 1 else laps
        else lap)) := by
  obtain ⟨result, ran⟩ := Handle.alloc_segments_run handle size host
  exact tenancy.asked held ran

theorem Tenancy.closes (tenancy : Tenancy directory begin host laps handles) {index : Nat}
    (held : handles[index]? = some (handle, lap)) :
    Tenancy directory begin ((Handle.close (.onSegments handle)).run host).2 laps
      (handles.set index ((handle.close host.files).2.1, lap)) :=
  tenancy.closed held (Handle.close_segments_run handle host)

end Runs

/-- Two segments of a page each, made one after the other. -/
theorem segments_of_lap_apart_small :
    ∃ host laps, ∃ first second : Segment,
      Tenancy "/dev/shm" (.fresh 1 Bus.defaultBase .usual) host laps
        [(⟨"/dev/shm", some first, false⟩, 0), (⟨"/dev/shm", some second, false⟩, 0)] ∧
      first.Apart second := by
  let begin : Host := .fresh 1 Bus.defaultBase .usual
  let bare : SegmentHandle := ⟨"/dev/shm", none, false⟩
  let first : Segment := ⟨"/dev/shm/relay-0000000110000000", 0, 0x110000000, 4096⟩
  let second : Segment := ⟨"/dev/shm/relay-0000000110001000", 1, 0x110001000, 4096⟩
  have opens : SegmentHandle.openIn begin.files "/dev/shm" = .ok bare := by decide +kernel
  have opened : Tenancy "/dev/shm" begin begin 0 [(bare, 0), (bare, 0)] :=
    (Tenancy.fresh.opens opens).opens opens
  obtain ⟨host, laps, handles, tenancy, rfl⟩ : ∃ host laps handles,
      Tenancy "/dev/shm" begin host laps handles ∧
        handles = [(⟨"/dev/shm", some first, false⟩, 0), (⟨"/dev/shm", some second, false⟩, 0)] :=
    ⟨_, _, _, (opened.asks (rfl : _[0]? = _) 4096).asks (rfl : _[1]? = _) 4096,
      by decide +kernel⟩
  obtain ⟨_, apart⟩ := (segments_of_lap_apart tenancy (rfl : _[0]? = _) rfl).2.2 Nat.zero_ne_one
    (rfl : _[1]? = _) rfl
  exact ⟨host, laps, first, second, tenancy, apart rfl⟩

/-- A segment of one page outlives its lap, and one of two pages in the next lap covers it. -/
theorem segments_of_next_lap_overlap :
    ∃ host laps gone filler, ∃ older newer : Segment,
      Tenancy "/dev/shm" (.fresh 1 Bus.defaultBase .usual) host laps
        [gone, (⟨"/dev/shm", some older, false⟩, 0), filler,
          (⟨"/dev/shm", some newer, false⟩, 1)] ∧
      newer.address.toNat < older.address.toNat ∧
      older.address.toNat + older.size ≤ newer.address.toNat + newer.size ∧
      ¬ older.Apart newer := by
  let older : Segment := ⟨"/dev/shm/relay-0000000110001000", 1, 0x110001000, 4096⟩
  let filler : Segment := ⟨"/dev/shm/relay-0000000110002000", 2, 0x110002000, 4026523648⟩
  let newer : Segment := ⟨"/dev/shm/relay-0000000110000000", 3, 0x110000000, 8192⟩
  have opens : SegmentHandle.openIn (Host.fresh 1 Bus.defaultBase .usual).files "/dev/shm" =
      .ok ⟨"/dev/shm", none, false⟩ := by
    decide +kernel
  have opened : Tenancy "/dev/shm" (.fresh 1 Bus.defaultBase .usual)
      (.fresh 1 Bus.defaultBase .usual) 0 [(⟨"/dev/shm", none, false⟩, 0),
        (⟨"/dev/shm", none, false⟩, 0), (⟨"/dev/shm", none, false⟩, 0),
        (⟨"/dev/shm", none, false⟩, 0)] :=
    (((Tenancy.fresh.opens opens).opens opens).opens opens).opens opens
  have filled := (((opened.asks (rfl : _[0]? = _) 4096).asks (rfl : _[1]? = _) 4096).closes
    (rfl : _[0]? = _)).asks (rfl : _[2]? = _) 4026523648
  obtain ⟨host, laps, handles, tenancy, rfl⟩ : ∃ host laps handles,
      Tenancy "/dev/shm" (.fresh 1 Bus.defaultBase .usual) host laps handles ∧
        handles = [(⟨"/dev/shm", none, true⟩, 0), (⟨"/dev/shm", some older, false⟩, 0),
          (⟨"/dev/shm", some filler, false⟩, 0), (⟨"/dev/shm", some newer, false⟩, 1)] :=
    ⟨_, _, _, filled.asks (rfl : _[3]? = _) 8192, by decide +kernel⟩
  refine ⟨host, laps, _, _, older, newer, tenancy, by decide, by decide, ?_⟩
  rintro (before | after)
  · exact absurd before (by decide)
  · exact absurd after (by decide)

end ChunkRelay
