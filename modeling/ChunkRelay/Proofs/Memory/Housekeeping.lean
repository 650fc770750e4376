import ChunkRelay.Proofs.Files.Directory
import ChunkRelay.Proofs.Memory.Protocol

/-! What the handles on a directory of segments do to the directory. Each one
that holds a segment has one entry there, which is its own, and takes it away
when it is closed or dropped. All that stood there before stays as it was. -/

set_option autoImplicit false

namespace ChunkRelay

/-!
## Names of segments
-/

theorem slash_notMem_hexDigits (width value : Nat) : '/' ∉ Text.hexDigits width value := by
  have digits : ∀ digit < 16, '/' ≠ Text.hexDigit digit := by decide
  intro member
  obtain ⟨digit, small, same⟩ := Text.mem_hexDigits member
  exact digits digit small same

/-- An address takes sixteen figures. -/
theorem toList_segmentName (address : UInt64) :
    (segmentName address).toList = segmentMark.toList ++ Text.hexDigits 16 address.toNat := by
  have short : Text.hexWidth address.toNat ≤ 16 := by
    unfold Text.hexWidth
    by_cases zero : address.toNat = 0
    · rw [zero]
      decide
    · have bits := (Nat.log2_lt zero).mpr address.toNat_lt
      omega
  rw [segmentName, String.toList_append, Text.paddedHex, String.toList_ofList,
    Nat.max_eq_left short]

theorem plainName_segmentName (address : UInt64) : PlainName (segmentName address) := by
  have chars : (segmentName address).toList =
      'r' :: ("elay-".toList ++ Text.hexDigits 16 address.toNat) := toList_segmentName address
  refine ⟨?_, ?_, ?_, ?_⟩
  · rw [chars]
    simp [slash_notMem_hexDigits]
  all_goals
    intro same
    rw [same] at chars
    cases chars

namespace FileTree

/-!
## Entries of one directory
-/

/-- An entry of a directory as it stands in the tree. -/
def within (place : Location) (entry : String × Node) : Location × Node :=
  (place ++ [entry.1], entry.2)

/-- No name comes or goes, and the first contents stay what they are. -/
structure Still (count : Nat) (tree later : FileTree) : Prop where
  nodes : later.nodes = tree.nodes
  current : later.current = tree.current
  size : tree.contents.size ≤ later.contents.size
  extents : ∀ index < count, later.extent index = tree.extent index

/-- The tree without an entry of a directory, if one is to go. -/
def without (tree : FileTree) (place : Location) : Option (String × Node) → FileTree
  | none => tree
  | some entry => { tree with nodes := tree.nodes.filter (·.1 ≠ place ++ [entry.1]) }

section Entries

variable {tree later : FileTree} {place : Location} {directory : String}
  {own : List (String × Node)}

theorem list_of_find (found : tree.find directory = .ok (place, .directory)) :
    tree.list directory = .ok (tree.entries place) := by
  rw [list, found]
  rfl

theorem within_of_mem_entries {entry : String × Node} (member : entry ∈ tree.entries place) :
    within place entry ∈ tree.nodes := by
  obtain ⟨⟨location, node⟩, stands, taken⟩ := List.mem_filterMap.mp member
  cases last : location.getLast? with
  | none => simp [last] at taken
  | some name =>
    by_cases inside : location.dropLast = place
    · simp only [last, inside, ↓reduceIte, Option.some.injEq] at taken
      rw [← taken, within, ← inside, List.dropLast_append_getLast? name last]
      exact stands
    · simp [last, inside] at taken

theorem entries_append (nodes : later.nodes = tree.nodes ++ own.map (within place)) :
    later.entries place = tree.entries place ++ own := by
  unfold entries
  rw [nodes, List.filterMap_append, List.filterMap_map]
  apply congrArg
  simp [Function.comp_def, within]

theorem entries_without (entry : String × Node) :
    (tree.without place (some entry)).entries place =
      (tree.entries place).filter (·.1 ≠ entry.1) := by
  unfold entries without
  rw [List.filterMap_filter, List.filter_filterMap]
  apply congrArg (List.filterMap · tree.nodes)
  funext ⟨location, node⟩
  cases last : location.getLast? with
  | none => simp [last]
  | some name =>
    by_cases inside : location.dropLast = place
    · have whole : location = place ++ [name] := by
        rw [← inside]
        exact (List.dropLast_append_getLast? name last).symm
      by_cases same : name = entry.1 <;> simp [whole, same, Option.filter]
    · simp [last, inside]

theorem Extends.trans {first second third : FileTree} (earlier : first.Extends second)
    (later : second.Extends third) : first.Extends third :=
  ⟨later.current.trans earlier.current, fun present =>
    later.directories (earlier.directories present)⟩

theorem Still.refl (count : Nat) (tree : FileTree) : tree.Still count tree :=
  ⟨rfl, rfl, Nat.le_refl _, fun _ _ => rfl⟩

theorem Still.mono {count fewer : Nat} (still : tree.Still count later) (le : fewer ≤ count) :
    tree.Still fewer later :=
  { still with extents := fun index present => still.extents index (Nat.lt_of_lt_of_le present le) }

theorem Still.grown {count : Nat} (still : tree.Still count later) : tree.Extends later :=
  extends_of_nodes still.nodes still.current

theorem Still.list {count : Nat} (still : tree.Still count later)
    (found : tree.find directory = .ok (place, .directory)) :
    later.list directory = tree.list directory := by
  rw [list_of_find found, list_of_find (still.grown.find_directory found), entries, entries,
    still.nodes]

end Entries

end FileTree

/-!
## Handles on one directory
-/

/-- The entry that an open handle has in its directory. -/
def SegmentHandle.own? (handle : SegmentHandle) : Option (String × Node) :=
  if handle.closed then none
  else handle.segment.map fun segment => (segmentName segment.address, .file segment.contents)

/-- The handle is on that directory, and finds its segment there while it is open. -/
structure SegmentHandle.Homed (handle : SegmentHandle) (place : Location) (tree : FileTree) :
    Prop where
  directory : tree.find handle.directory = .ok (place, .directory)
  segment {segment : Segment} : handle.closed = false → handle.segment = some segment →
    tree.find segment.path =
      .ok (place ++ [segmentName segment.address], .file segment.contents)

/-- What the handles on a directory can come to, by whatever paths and processes they were opened.
Those that were dropped are left out. In between, anything may happen to the host but that names
come or go in the tree or that what was stored at the beginning is changed. -/
inductive Occupancy (place : Location) (begin : Host) : Host → List SegmentHandle → Prop
  | fresh : Occupancy place begin begin []
  | opened {host after : Host} {handles : List SegmentHandle} {handle : SegmentHandle}
      {directory : String} :
      Occupancy place begin host handles →
      host.files.find directory = .ok (place, .directory) →
      (Handle.openOn (.segments directory)).run host = (.ok (.onSegments handle), after) →
      Occupancy place begin after (handles ++ [handle])
  | refused {host after : Host} {handles : List SegmentHandle} {directory : String}
      {error : AllocationError} :
      Occupancy place begin host handles →
      (Handle.openOn (.segments directory)).run host = (.error error, after) →
      Occupancy place begin after handles
  | asked {host after : Host} {front back : List SegmentHandle} {handle next : SegmentHandle}
      {call : Handle.Call} {reply : Handle.Reply} :
      Occupancy place begin host (front ++ handle :: back) →
      (Handle.ask (.onSegments handle) call).run host = ((reply, .onSegments next), after) →
      Occupancy place begin after (front ++ next :: back)
  | dropped {host after : Host} {front back : List SegmentHandle} {handle : SegmentHandle}
      {left : Handle} :
      Occupancy place begin host (front ++ handle :: back) →
      (Handle.close (.onSegments handle)).run host = (left, after) →
      Occupancy place begin after (front ++ back)
  | elsewhere {host after : Host} {handles : List SegmentHandle} :
      Occupancy place begin host handles →
      host.files.Still begin.files.contents.size after.files →
      Occupancy place begin after handles

/-- The directory has one entry more for each handle that holds a segment. -/
structure Tidy (place : Location) (old tree : FileTree) (handles : List SegmentHandle)
    (own : List (String × Node)) : Prop where
  held : own.Perm (handles.filterMap SegmentHandle.own?)
  nodes : tree.nodes = old.nodes ++ own.map (FileTree.within place)
  names : (own.map Prod.fst).Nodup
  free : ∀ entry ∈ own, ∀ node ∈ old.nodes, node.1 ≠ place ++ [entry.1]
  homed : ∀ handle ∈ handles, handle.Homed place tree
  grown : old.Extends tree
  size : old.contents.size ≤ tree.contents.size
  extents : ∀ index < old.contents.size, tree.extent index = old.extent index

section Tidy

variable {place : Location} {old tree later : FileTree} {handles others : List SegmentHandle}
  {handle next : SegmentHandle} {own : List (String × Node)}

theorem SegmentHandle.Homed.onward (homed : handle.Homed place tree) (grown : tree.Extends later)
    (kept : ∀ {segment}, handle.closed = false → handle.segment = some segment →
      tree.find segment.path =
          .ok (place ++ [segmentName segment.address], .file segment.contents) →
        later.find segment.path =
          .ok (place ++ [segmentName segment.address], .file segment.contents)) :
    handle.Homed place later where
  directory := grown.find_directory homed.directory
  segment unshut holds := kept unshut holds (homed.segment unshut holds)

theorem SegmentHandle.own?_eq_some {segment : Segment} (unshut : handle.closed = false)
    (holds : handle.segment = some segment) :
    handle.own? = some (segmentName segment.address, .file segment.contents) := by
  rw [own?, unshut, holds]
  rfl

theorem SegmentHandle.own?_inv {entry : String × Node} (has : handle.own? = some entry) :
    handle.closed = false ∧ ∃ segment, handle.segment = some segment ∧
      entry = (segmentName segment.address, .file segment.contents) := by
  unfold own? at has
  split at has
  · cases has
  · next unshut =>
    obtain ⟨segment, holds, same⟩ := Option.map_eq_some_iff.mp has
    exact ⟨Bool.eq_false_iff.mpr unshut, segment, holds, same.symm⟩

/-- Without the entry of a handle, all directories are still there. -/
theorem SegmentHandle.Homed.grown (homed : handle.Homed place tree) :
    tree.Extends (tree.without place handle.own?) := by
  cases has : handle.own? with
  | none => exact ⟨rfl, id⟩
  | some entry =>
    obtain ⟨unshut, segment, holds, rfl⟩ := SegmentHandle.own?_inv has
    have stands := (FileTree.find_file_iff.mp (homed.segment unshut holds)).2
    exact FileTree.extends_filter stands (by simp)

/-- Closing a handle takes away the entry that it has, if any. -/
theorem SegmentHandle.Homed.close (homed : handle.Homed place tree) :
    (handle.close tree).2.1.own? = none ∧
      (handle.close tree).2.1.directory = handle.directory ∧
      (handle.close tree).2.2 = tree.without place handle.own? := by
  obtain ⟨directory, segment?, closed⟩ := handle
  cases closed with
  | true => exact ⟨rfl, rfl, rfl⟩
  | false =>
    cases segment? with
    | none => exact ⟨rfl, rfl, rfl⟩
    | some segment =>
      have removed := FileTree.remove_of_find (homed.segment rfl rfl)
      unfold SegmentHandle.close
      dsimp only
      rw [removed]
      exact ⟨rfl, rfl, rfl⟩

theorem Tidy.start (place : Location) (old : FileTree) : Tidy place old old [] [] where
  held := .nil
  nodes := (List.append_nil _).symm
  names := List.nodup_nil
  free _ member := absurd member List.not_mem_nil
  homed _ member := absurd member List.not_mem_nil
  grown := ⟨rfl, id⟩
  size := Nat.le_refl _
  extents _ _ := rfl

theorem Tidy.still (tidy : Tidy place old tree handles own)
    (still : tree.Still old.contents.size later) : Tidy place old later handles own where
  held := tidy.held
  nodes := still.nodes.trans tidy.nodes
  names := tidy.names
  free := tidy.free
  homed handle member := (tidy.homed handle member).onward still.grown fun _ _ found =>
    FileTree.find_of_nodes still.nodes still.current found
  grown := tidy.grown.trans still.grown
  size := Nat.le_trans tidy.size still.size
  extents index present := (still.extents index present).trans (tidy.extents index present)

/-- It does not matter in which order the handles were opened. -/
theorem Tidy.perm (tidy : Tidy place old tree handles own) (perm : handles.Perm others) :
    Tidy place old tree others own :=
  { tidy with
    held := tidy.held.trans (perm.filterMap _)
    homed := fun handle member => tidy.homed handle (perm.mem_iff.mpr member) }

/-- A handle more that holds nothing changes nothing. -/
theorem Tidy.insert (tidy : Tidy place old tree handles own) (bare : next.own? = none)
    (found : tree.find next.directory = .ok (place, .directory)) :
    Tidy place old tree (next :: handles) own := by
  refine { tidy with held := ?held, homed := List.forall_mem_cons.mpr ⟨⟨found, ?own⟩, tidy.homed⟩ }
  case held =>
    rw [List.filterMap_cons_none bare]
    exact tidy.held
  case own =>
    intro segment unshut holds
    cases bare.symm.trans (SegmentHandle.own?_eq_some unshut holds)

section Drop

variable {entry : String × Node}

theorem Tidy.entry_mem (tidy : Tidy place old tree (handle :: handles) own)
    (has : handle.own? = some entry) : entry ∈ own := by
  apply tidy.held.mem_iff.mpr
  exact List.mem_filterMap.mpr ⟨handle, List.mem_cons_self, has⟩

/-- No two handles have an entry of the same name. -/
theorem Tidy.entry_ne (tidy : Tidy place old tree (handle :: handles) own)
    (has : handle.own? = some entry) :
    ∀ other ∈ handles.filterMap SegmentHandle.own?, other.1 ≠ entry.1 := by
  have names := (tidy.held.map Prod.fst).nodup_iff.mp tidy.names
  rw [List.filterMap_cons_some has, List.map_cons, List.nodup_cons] at names
  intro other member same
  exact names.1 (same ▸ List.mem_map_of_mem member)

theorem Tidy.held_without (tidy : Tidy place old tree (handle :: handles) own)
    (has : handle.own? = some entry) :
    (own.filter (·.1 ≠ entry.1)).Perm (handles.filterMap SegmentHandle.own?) := by
  have kept : (handles.filterMap SegmentHandle.own?).filter (·.1 ≠ entry.1) =
      handles.filterMap SegmentHandle.own? :=
    List.filter_eq_self.mpr fun other member => decide_eq_true (tidy.entry_ne has other member)
  have held := tidy.held.filter (·.1 ≠ entry.1)
  rw [List.filterMap_cons_some has, List.filter_cons_of_neg (by simp), kept] at held
  exact held

theorem Tidy.nodes_without (tidy : Tidy place old tree (handle :: handles) own)
    (has : handle.own? = some entry) :
    (tree.without place (some entry)).nodes =
      old.nodes ++ (own.filter (·.1 ≠ entry.1)).map (FileTree.within place) := by
  have others : old.nodes.filter (·.1 ≠ place ++ [entry.1]) = old.nodes :=
    List.filter_eq_self.mpr fun node member =>
      decide_eq_true (tidy.free entry (tidy.entry_mem has) node member)
  have names : (fun node : Location × Node => decide (node.1 ≠ place ++ [entry.1])) ∘
      FileTree.within place = fun other => decide (other.1 ≠ entry.1) := by
    funext other
    simp [FileTree.within]
  calc (tree.without place (some entry)).nodes
      = (old.nodes ++ own.map (FileTree.within place)).filter (·.1 ≠ place ++ [entry.1]) :=
        congrArg (List.filter _) tidy.nodes
    _ = old.nodes ++ (own.filter (·.1 ≠ entry.1)).map (FileTree.within place) := by
        rw [List.filter_append, others, List.filter_map, names]

/-- A handle that goes takes its entry with it, and only that. -/
theorem Tidy.drop (tidy : Tidy place old tree (handle :: handles) own) :
    ∃ left, Tidy place old (tree.without place handle.own?) handles left := by
  have grown := (tidy.homed handle List.mem_cons_self).grown
  cases has : handle.own? with
  | none =>
    have held := tidy.held
    rw [List.filterMap_cons_none has] at held
    exact ⟨own, { tidy with held, homed := (List.forall_mem_cons.mp tidy.homed).2 }⟩
  | some entry =>
    rw [has] at grown
    refine ⟨own.filter (·.1 ≠ entry.1), ?_⟩
    constructor
    · exact tidy.held_without has
    · exact tidy.nodes_without has
    · exact tidy.names.sublist (List.filter_sublist.map _)
    · intro other member
      exact tidy.free other (List.mem_of_mem_filter member)
    · intro other member
      refine (tidy.homed other (List.mem_cons_of_mem _ member)).onward grown ?_
      intro segment unshut holds found
      have differs : segmentName segment.address ≠ entry.1 := by
        have own := SegmentHandle.own?_eq_some unshut holds
        exact tidy.entry_ne has _ (List.mem_filterMap.mpr ⟨other, member, own⟩)
      refine grown.find (FileTree.node?_filter fun same => differs ?_) found
      exact List.singleton_injective (List.append_cancel_left same)
    · exact tidy.grown.trans grown
    · exact tidy.size
    · exact tidy.extents

end Drop

/-- A file made where nothing stood is the entry of the handle that made it. -/
theorem Tidy.made (tidy : Tidy place old tree handles own) {segment : Segment}
    (holds : next.segment = some segment) (unshut : next.closed = false)
    (found : tree.find next.directory = .ok (place, .directory))
    (named : segment.path = joinPath next.directory (segmentName segment.address))
    (created : tree.createNew segment.path = .ok (segment.contents, later)) :
    Tidy place old later (next :: handles)
      (own ++ [(segmentName segment.address, .file segment.contents)]) := by
  obtain ⟨_, larger, _, kept⟩ := FileTree.createNew_spec created
  obtain ⟨location, leads, free, fresh, rfl⟩ := FileTree.createNew_inv created
  obtain rfl : location = place ++ [segmentName segment.address] :=
    FileTree.Leads.joined found (plainName_segmentName _) (named ▸ leads)
  have grown := FileTree.extends_addFile free
  have apart := FileTree.ne_of_node?_eq_none free
  rw [tidy.nodes] at apart
  have perm : (own ++ [(segmentName segment.address, Node.file segment.contents)]).Perm
      (_ :: own) := List.perm_append_singleton _ _
  constructor
  · rw [List.filterMap_cons_some (SegmentHandle.own?_eq_some unshut holds)]
    exact perm.trans (tidy.held.cons _)
  · change tree.nodes ++ [(_, .file tree.contents.size)] = _
    rw [tidy.nodes, List.map_append, List.append_assoc, fresh]
    rfl
  · apply (perm.map Prod.fst).nodup_iff.mpr
    refine List.nodup_cons.mpr ⟨fun taken => ?_, tidy.names⟩
    obtain ⟨other, inside, same⟩ := List.mem_map.mp taken
    apply apart (FileTree.within place other) (List.mem_append_right _ (List.mem_map_of_mem inside))
    exact congrArg (place ++ [·]) same
  · intro entry member node stands
    rcases List.mem_cons.mp (perm.mem_iff.mp member) with rfl | older
    · exact apart node (List.mem_append_left _ stands)
    · exact tidy.free entry older node stands
  · intro other member
    rcases List.mem_cons.mp member with rfl | older
    · refine ⟨grown.find_directory found, fun _ holding => ?_⟩
      cases holds.symm.trans holding
      refine FileTree.find_file_iff.mpr ⟨leads.extend grown, ?_⟩
      rw [FileTree.node?_addFile free, if_pos rfl, fresh]
    · exact (tidy.homed other older).onward grown fun _ _ stood => kept stood
  · exact tidy.grown.trans grown
  · rw [larger]
    exact Nat.le_succ_of_le tidy.size
  · intro index present
    have older := Nat.lt_of_lt_of_le present tidy.size
    exact (FileTree.extent_of_push rfl older).trans (tidy.extents index present)

/-- An allocation that fails leaves the handle, the names and all contents. -/
theorem Allotted.failed {window moved : Window} {processId : UInt32} {size : Nat}
    {error : AllocationError}
    (allotted : Allotted handle tree window processId size (.error error) next later moved) :
    next = handle ∧ tree.Still tree.contents.size later := by
  cases allotted with
  | refused idle => exact ⟨rfl, .refl _ _⟩
  | moved reserves => exact ⟨rfl, .refl _ _⟩
  | withdrawn reserves nodes current pushed =>
    refine ⟨rfl, nodes, current, ?_, fun index present => FileTree.extent_of_push pushed present⟩
    rw [pushed, Array.size_push]
    exact Nat.le_succ _

/-- What an allocation does to the directory, whether it succeeds or not. -/
theorem Tidy.allotted (tidy : Tidy place old tree (handle :: handles) own)
    {window moved : Window} {processId : UInt32} {size : Nat}
    {result : Except AllocationError Segment}
    (allotted : Allotted handle tree window processId size result next later moved) :
    ∃ held, Tidy place old later (next :: handles) held := by
  cases result with
  | error error =>
    obtain ⟨rfl, still⟩ := allotted.failed
    exact ⟨own, tidy.still (still.mono tidy.size)⟩
  | ok segment =>
    cases allotted with
    | @made segment grown reserves sized named address created =>
      obtain ⟨unshut, bare, _⟩ := reserves
      have homed := tidy.homed handle List.mem_cons_self
      have nothing : handle.own? = none := by
        rw [SegmentHandle.own?, unshut, bare]
        rfl
      obtain ⟨left, rest⟩ := tidy.drop
      rw [nothing] at rest
      have made : Tidy place old grown ({ handle with segment := some segment } :: handles) _ :=
        rest.made rfl unshut homed.directory named created
      -- The new contents come after all older ones, so sizing them changes none of those.
      refine ⟨_, made.still ⟨rfl, rfl, Nat.le_of_eq (Array.size_modify ..).symm, ?_⟩⟩
      intro index present
      have fresh := (FileTree.createNew_spec created).1
      have older := Nat.lt_of_lt_of_le present tidy.size
      exact FileTree.extent_modify_ne _ _ (by omega)

theorem Tidy.closed (tidy : Tidy place old tree (handle :: handles) own) :
    ∃ left, Tidy place old (handle.close tree).2.2 ((handle.close tree).2.1 :: handles) left := by
  have homed := tidy.homed handle List.mem_cons_self
  obtain ⟨bare, same, files⟩ := homed.close
  obtain ⟨left, rest⟩ := tidy.drop
  have found := homed.grown.find_directory homed.directory
  rw [← same] at found
  exact ⟨left, files ▸ rest.insert bare found⟩

end Tidy

/-- Whatever is asked of a handle, the directory stays tidy. -/
theorem Tidy.asked {place : Location} {old : FileTree} {host after : Host}
    {handles : List SegmentHandle} {handle next : SegmentHandle} {own : List (String × Node)}
    (tidy : Tidy place old host.files (handle :: handles) own) {call : Handle.Call}
    {reply : Handle.Reply} (asked : (Handle.ask (.onSegments handle) call).run host =
      ((reply, .onSegments next), after)) :
    ∃ held, Tidy place old after.files (next :: handles) held := by
  cases call with
  | address | map size =>
    cases asked
    exact ⟨own, tidy⟩
  | alloc size =>
    rcases ran : (Handle.alloc (.onSegments handle) size).run host with ⟨⟨result, left⟩, middle⟩
    rw [Handle.ask, HostM.run_bind_eq ran] at asked
    cases asked
    obtain ⟨_, _, allotted, _⟩ := Handle.alloc_segments ran
    exact tidy.allotted allotted
  | close =>
    rcases ran : (Handle.close (.onSegments handle)).run host with ⟨left, middle⟩
    rw [Handle.ask, HostM.run_bind_eq ran] at asked
    cases asked
    obtain ⟨rfl, _, _, files⟩ := Handle.close_segments ran
    rw [files]
    exact tidy.closed

theorem Occupancy.tidy {place : Location} {begin host : Host} {handles : List SegmentHandle}
    (occupancy : Occupancy place begin host handles) :
    ∃ own, Tidy place begin.files host.files handles own := by
  induction occupancy with
  | fresh => exact ⟨[], .start place begin.files⟩
  | @opened host after handles handle directory occupancy found opens ih =>
    obtain ⟨own, tidy⟩ := ih
    obtain ⟨rfl, rfl⟩ := Handle.openOn_segments opens
    have bare : SegmentHandle.own? ⟨directory, none, false⟩ = none := rfl
    exact ⟨own, (tidy.insert bare found).perm (List.perm_append_singleton _ _).symm⟩
  | refused occupancy fails ih =>
    rw [Handle.openOn_error fails]
    exact ih
  | asked occupancy asks ih =>
    obtain ⟨own, tidy⟩ := ih
    obtain ⟨held, stays⟩ := (tidy.perm List.perm_middle).asked asks
    exact ⟨held, stays.perm List.perm_middle.symm⟩
  | @dropped host after front back handle left occupancy closes ih =>
    obtain ⟨own, tidy⟩ := ih
    have files := Handle.close_files (.onSegments handle) host
    rw [closes] at files
    obtain ⟨_, _, gone⟩ := (tidy.homed handle (by simp)).close
    rw [files.trans gone]
    exact (tidy.perm List.perm_middle).drop
  | elsewhere occupancy still ih =>
    obtain ⟨own, tidy⟩ := ih
    exact ⟨own, tidy.still still⟩

/-- The handles on a directory keep it tidy. It has the entries that it had at the beginning and one
for each handle that holds a segment, under names of their own. An allocation that fails leaves all
names and contents, closing a handle takes away the entry of that handle alone, and once all handles
are closed or dropped the names are those of the beginning. What was stored at the beginning never
changes. -/
theorem segments_keep_house {place : Location} {directory : String} {begin host : Host}
    {handles : List SegmentHandle} (occupancy : Occupancy place begin host handles)
    (found : begin.files.find directory = .ok (place, .directory)) :
    (∃ own : List (String × Node),
      own.Perm (handles.filterMap SegmentHandle.own?) ∧
      host.files.list directory = .ok (begin.files.entries place ++ own) ∧
      host.files.nodes = begin.files.nodes ++ own.map (FileTree.within place) ∧
      (own.map Prod.fst).Nodup ∧
      ∀ entry ∈ own, entry.1 ∉ (begin.files.entries place).map Prod.fst) ∧
    (∀ index < begin.files.contents.size, host.files.extent index = begin.files.extent index) ∧
    (∀ handle size error next after,
      (Handle.alloc (.onSegments handle) size).run host = ((.error error, next), after) →
      next = .onSegments handle ∧ host.files.Still host.files.contents.size after.files ∧
        after.files.list directory = host.files.list directory) ∧
    (∀ handle ∈ handles, ∀ next after,
      (Handle.close (.onSegments handle)).run host = (.onSegments next, after) →
      next.own? = none ∧ after.files = host.files.without place handle.own? ∧
        ∀ entry ∈ handle.own?, after.files.list directory =
          (host.files.list directory).map fun entries => entries.filter (·.1 ≠ entry.1)) ∧
    ((∀ handle ∈ handles, handle.closed = true) →
      host.files.nodes = begin.files.nodes ∧
        host.files.list directory = begin.files.list directory) := by
  obtain ⟨own, tidy⟩ := occupancy.tidy
  have here := tidy.grown.find_directory found
  refine ⟨?names, tidy.extents, ?failed, ?closed, ?gone⟩
  case names =>
    refine ⟨own, tidy.held, ?_, tidy.nodes, tidy.names, ?_⟩
    · rw [FileTree.list_of_find here, FileTree.entries_append tidy.nodes]
    · intro entry member taken
      obtain ⟨other, inside, same⟩ := List.mem_map.mp taken
      apply tidy.free entry member _ (FileTree.within_of_mem_entries inside)
      rw [FileTree.within, same]
  case failed =>
    intro handle size error next after ran
    obtain ⟨given, asked⟩ := Handle.alloc_segments_run handle size host
    obtain rfl : next = _ := congrArg (·.1.2) (ran.symm.trans asked)
    obtain ⟨made, failed, allotted, _⟩ := Handle.alloc_segments ran
    cases made with
    | ok segment => cases failed
    | error cause =>
      obtain ⟨same, still⟩ := allotted.failed
      exact ⟨congrArg _ same, still, still.list here⟩
  case closed =>
    intro handle member next after ran
    have homed := tidy.homed handle member
    obtain ⟨bare, _, files⟩ := homed.close
    obtain ⟨rfl, _, _, left⟩ := Handle.close_segments ran
    rw [← left] at files
    refine ⟨bare, files, fun entry has => ?_⟩
    have grown := homed.grown
    rw [has] at files grown
    rw [files, FileTree.list_of_find here, FileTree.list_of_find (grown.find_directory here),
      FileTree.entries_without]
    rfl
  case gone =>
    intro closed
    have nothing : handles.filterMap SegmentHandle.own? = [] := by
      apply List.filterMap_eq_nil_iff.mpr
      intro handle member
      rw [SegmentHandle.own?, if_pos (closed handle member)]
    have none_own : own = [] := List.perm_nil.mp (nothing ▸ tidy.held)
    have nodes := tidy.nodes
    rw [none_own, List.map_nil, List.append_nil] at nodes
    refine ⟨nodes, ?_⟩
    rw [FileTree.list_of_find here, FileTree.list_of_find found, FileTree.entries, nodes]
    rfl

section Runs

variable {place : Location} {begin host : Host} {front back handles : List SegmentHandle}
  {handle : SegmentHandle}

theorem Occupancy.opens (occupancy : Occupancy place begin host handles) {directory : String}
    (found : host.files.find directory = .ok (place, .directory)) :
    Occupancy place begin host (handles ++ [⟨directory, none, false⟩]) := by
  refine occupancy.opened found (Prod.ext ?_ rfl)
  change (SegmentHandle.openIn host.files directory).map Handle.onSegments = _
  rw [SegmentHandle.openIn, found]
  rfl

theorem Occupancy.allocs (front : List SegmentHandle)
    (occupancy : Occupancy place begin host (front ++ handle :: back)) (size : Nat) :
    Occupancy place begin ((Handle.alloc (.onSegments handle) size).run host).2
      (front ++
        (handle.alloc host.files host.window host.processId (host.sizing size) size).2.1 ::
          back) := by
  obtain ⟨result, ran⟩ := Handle.alloc_segments_run handle size host
  have asked : (Handle.ask (.onSegments handle) (.alloc size)).run host =
      ((.allotted result, .onSegments
          (handle.alloc host.files host.window host.processId (host.sizing size) size).2.1),
        ((Handle.alloc (.onSegments handle) size).run host).2) := by
    rw [Handle.ask, HostM.run_bind_eq ran]
    rfl
  exact occupancy.asked asked

theorem Occupancy.drops (front : List SegmentHandle)
    (occupancy : Occupancy place begin host (front ++ handle :: back)) :
    Occupancy place begin ((Handle.close (.onSegments handle)).run host).2 (front ++ back) :=
  occupancy.dropped rfl

end Runs

/-- The name that the first segment would get is taken, and its file stays. The next segment gets a
file, and dropping the handle takes it away. -/
theorem segments_keep_house_small :
    ∃ begin host after handle, begin.files.list "/shm" = .ok [("relay-0000000110000000", .file 0)] ∧
      Occupancy ["shm"] begin host [handle] ∧
      host.files.list "/shm" =
        .ok [("relay-0000000110000000", .file 0), ("relay-0000000110001000", .file 1)] ∧
      Occupancy ["shm"] begin after [] ∧
      after.files.list "/shm" = begin.files.list "/shm" ∧
      after.files.extent 0 = begin.files.extent 0 := by
  have found : (Host.fresh 1 Bus.defaultBase ⟨[(["shm"], .directory),
      (["shm", "relay-0000000110000000"], .file 0)], #[.zeroed 3], []⟩).files.find "/shm" =
        .ok (["shm"], .directory) := by
    decide +kernel
  obtain ⟨host, handles, occupancy, rfl⟩ : ∃ host handles, Occupancy ["shm"]
      (.fresh 1 Bus.defaultBase ⟨[(["shm"], .directory),
        (["shm", "relay-0000000110000000"], .file 0)], #[.zeroed 3], []⟩) host handles ∧
      handles = [⟨"/shm", some ⟨"/shm/relay-0000000110001000", 1, 0x110001000, 4096⟩, false⟩] :=
    ⟨_, _, ((Occupancy.fresh.opens found).allocs [] 4096).allocs [] 4096, by decide +kernel⟩
  obtain ⟨own, held, listed, _⟩ := (segments_keep_house occupancy found).1
  obtain ⟨_, kept, _, _, gone⟩ := segments_keep_house (occupancy.drops []) found
  refine ⟨_, host, _, _, ?_, occupancy, ?_, occupancy.drops [], (gone (by simp)).2,
    kept 0 (by decide)⟩
  · decide +kernel
  · obtain rfl := List.perm_singleton.mp held
    rw [listed]
    decide +kernel

end ChunkRelay
