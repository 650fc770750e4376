import Mathlib.Data.List.Pairwise
import ChunkRelay.Proofs.Memory.Lookup
import ChunkRelay.Proofs.Stream.Intake
import ChunkRelay.Memory.Addressed

/-! Access by address through the segments of a directory. Segments that share
no address are told apart by any address in them, so it does not matter in which
order a directory is read, and an access reaches the bytes of one file or none. -/

set_option autoImplicit false

namespace ChunkRelay

/-!
## Ranges of segments
-/

namespace FileTree

/-- The address belongs to the segment that an entry is, counted beyond the last address if the
segment goes on there. -/
def Covers (tree : FileTree) (entry : String × Node) (point : Nat) : Prop :=
  ∃ base, segmentBase? entry.1 = some base ∧ base.toNat ≤ point ∧
    point < base.toNat + tree.sizeOf entry.2

/-- All of a range belongs to the segment that an entry is, and an empty range begins in it. -/
def Serves (tree : FileTree) (entry : String × Node) (address : UInt64) (length : Nat) : Prop :=
  ∃ base, segmentBase? entry.1 = some base ∧ base.toNat ≤ address.toNat ∧
    address.toNat - base.toNat < tree.sizeOf entry.2 ∧
    address.toNat - base.toNat + length ≤ tree.sizeOf entry.2

/-- The end of a range in 64 bits, unless it is too far. -/
def checkedEnd (offset : UInt64) (length : Nat) : Option UInt64 :=
  if offset.toNat + length < 2 ^ 64 then some (offset + .ofNat length) else none

/-- Two entries have no address in common. -/
def Apart (tree : FileTree) (one other : String × Node) : Prop :=
  ∀ point, ¬ (tree.Covers one point ∧ tree.Covers other point)

instance (tree : FileTree) : Std.Symm tree.Apart where
  symm _ _ apart point both := apart point both.symm

/-- Entries that are named like segments are files, and no address belongs to two of them. -/
structure Charted (tree : FileTree) (entries : List (String × Node)) : Prop where
  regular : ∀ entry ∈ entries, segmentBase? entry.1 ≠ none → ∃ contents, entry.2 = .file contents
  apart : entries.Pairwise tree.Apart

/-- The bytes of one range of one file are new, and all else is as it was. -/
structure Patched (tree later : FileTree) (contents start : Nat) (bytes : ByteArray) : Prop where
  nodes : later.nodes = tree.nodes
  current : later.current = tree.current
  count : later.contents.size = tree.contents.size
  sizes : ∀ index, (later.extent index).size = (tree.extent index).size
  others : ∀ index ≠ contents, later.extent index = tree.extent index
  outside : ∀ offset, offset < start ∨ start + bytes.size ≤ offset →
    (later.extent contents).byteAt offset = (tree.extent contents).byteAt offset
  inside : (later.extent contents).window start bytes.size = bytes.data.toList

end FileTree

/-!
## Looking for a segment
-/

namespace SegmentFile

variable {files : List SegmentFile} {file : SegmentFile} {address : UInt64} {length : Nat}

theorem holds_iff : file.holds address length = true ↔ file.base.toNat ≤ address.toNat ∧
    address.toNat - file.base.toNat < file.size ∧
    address.toNat - file.base.toNat + length ≤ file.size := by
  simp only [holds, Bool.and_eq_true, decide_eq_true_eq, UInt64.le_iff_toNat_le, and_assoc]
  apply and_congr_right
  intro below
  have offset := UInt64.toNat_sub_of_le _ _ (UInt64.le_iff_toNat_le.mpr below)
  simp only [offset]

/-- A segment that alone holds a range is found wherever it is in the list. -/
theorem locate_eq_some (member : file ∈ files) (holds : file.holds address length = true)
    (alone : ∀ other ∈ files, other.holds address length = true → other = file) :
    locate files address length = some (file.contents, address.toNat - file.base.toNat) := by
  unfold locate
  cases found : files.find? (·.holds address length) with
  | none => exact absurd holds (List.find?_eq_none.mp found file member)
  | some other =>
    have hit : other.holds address length = true := by simpa using List.find?_some found
    obtain rfl := alone other (List.mem_of_find?_eq_some found) hit
    have below := UInt64.le_iff_toNat_le.mpr (holds_iff.mp holds).1
    exact congrArg (fun offset => some (other.contents, offset)) (UInt64.toNat_sub_of_le _ _ below)

theorem locate_eq_none (away : ∀ file ∈ files, ¬ file.holds address length = true) :
    locate files address length = none :=
  Option.map_eq_none_iff.mpr (List.find?_eq_none.mpr away)

/-- Segments that are told apart are found in any order. -/
theorem locate_perm {others : List SegmentFile} (perm : others.Perm files)
    (alone : ∀ file ∈ files, ∀ other ∈ files, file.holds address length = true →
      other.holds address length = true → other = file) :
    locate others address length = locate files address length := by
  by_cases held : ∃ file ∈ files, file.holds address length = true
  · obtain ⟨file, member, holds⟩ := held
    calc locate others address length
        = some (file.contents, address.toNat - file.base.toNat) :=
          locate_eq_some (perm.mem_iff.mpr member) holds fun other listed also =>
            alone file member other (perm.mem_iff.mp listed) holds also
      _ = locate files address length :=
          (locate_eq_some member holds fun other listed also =>
            alone file member other listed holds also).symm
  · have away : ∀ file ∈ files, ¬ file.holds address length = true := fun file member holds =>
      held ⟨file, member, holds⟩
    calc locate others address length
        = none := locate_eq_none fun file member => away file (perm.mem_iff.mp member)
      _ = locate files address length := (locate_eq_none away).symm

end SegmentFile

namespace FileTree

variable {tree : FileTree} {directory : String} {entries : List (String × Node)}
  {address : UInt64} {length : Nat} {entry other : String × Node}

theorem mem_segments_iff (listed : tree.list directory = .ok entries) {file : SegmentFile} :
    file ∈ tree.segments directory ↔ ∃ name, (name, Node.file file.contents) ∈ entries ∧
      segmentBase? name = some file.base ∧ file.size = (tree.extent file.contents).size := by
  unfold segments
  rw [listed]
  dsimp only
  rw [List.mem_filterMap]
  constructor
  · rintro ⟨⟨name, node⟩, member, taken⟩
    dsimp only at taken
    split at taken
    · next base contents parsed =>
      cases taken
      exact ⟨name, member, parsed, rfl⟩
    · cases taken
  · rintro ⟨name, member, parsed, sized⟩
    refine ⟨_, member, ?_⟩
    dsimp only
    rw [parsed]
    dsimp only
    rw [← sized]

/-- A range is served by an entry if and only if the segment that the entry is holds it. -/
theorem serves_iff_holds {name : String} {file : SegmentFile}
    (parsed : segmentBase? name = some file.base)
    (sized : file.size = (tree.extent file.contents).size) :
    tree.Serves (name, .file file.contents) address length ↔ file.holds address length = true := by
  rw [SegmentFile.holds_iff, Serves]
  constructor
  · rintro ⟨base, same, served⟩
    cases parsed.symm.trans same
    rw [sized]
    exact served
  · intro served
    refine ⟨_, parsed, ?_⟩
    rw [sizeOf, ← sized]
    exact served

theorem toNat_checkedEnd {offset stop : UInt64} (ends : checkedEnd offset length = some stop) :
    stop.toNat = offset.toNat + length := by
  unfold checkedEnd at ends
  split at ends
  · next near =>
    cases ends
    have word : length < UInt64.size := Nat.lt_of_le_of_lt (Nat.le_add_left _ _) near
    rw [UInt64.toNat_add, UInt64.toNat_ofNat_of_lt' word, Nat.mod_eq_of_lt near]
  · cases ends

/-- Counting in 64 bits, with a sum that is checked, tells the same as counting in numbers. -/
theorem serves_iff_checked {base : UInt64} (parsed : segmentBase? entry.1 = some base)
    (below : base ≤ address) (word : tree.sizeOf entry.2 < 2 ^ 64) :
    tree.Serves entry address length ↔ ∃ stop, checkedEnd (address - base) length = some stop ∧
      address - base < .ofNat (tree.sizeOf entry.2) ∧ stop ≤ .ofNat (tree.sizeOf entry.2) := by
  have offset := UInt64.toNat_sub_of_le _ _ below
  have size := UInt64.toNat_ofNat_of_lt' word
  constructor
  · rintro ⟨start, same, _, inside, within⟩
    cases parsed.symm.trans same
    have near : (address - base).toNat + length < 2 ^ 64 := by omega
    have ends : checkedEnd (address - base) length = some _ := if_pos near
    have stop := toNat_checkedEnd ends
    refine ⟨_, ends, ?_, ?_⟩
    · rw [UInt64.lt_iff_toNat_lt, size]
      omega
    · rw [UInt64.le_iff_toNat_le, size]
      omega
  · rintro ⟨stop, ends, inside, within⟩
    have stops := toNat_checkedEnd ends
    rw [UInt64.lt_iff_toNat_lt, size] at inside
    rw [UInt64.le_iff_toNat_le, size] at within
    exact ⟨base, parsed, UInt64.le_iff_toNat_le.mp below, by omega, by omega⟩

theorem Serves.covers (serves : tree.Serves entry address length) :
    tree.Covers entry address.toNat := by
  obtain ⟨base, parsed, below, inside, _⟩ := serves
  exact ⟨base, parsed, below, by omega⟩

/-- No address belongs to two entries of a directory. -/
theorem Charted.unique (charted : tree.Charted entries) {point : Nat} (member : entry ∈ entries)
    (listed : other ∈ entries) (covers : tree.Covers entry point)
    (also : tree.Covers other point) : other = entry := by
  by_contra differ
  exact charted.apart.forall listed member differ point ⟨also, covers⟩

theorem Serves.file (serves : tree.Serves entry address length) (charted : tree.Charted entries)
    (member : entry ∈ entries) : ∃ contents, entry.2 = .file contents := by
  obtain ⟨base, parsed, _⟩ := serves
  apply charted.regular entry member
  rw [parsed]
  exact Option.some_ne_none base

theorem present_of_size {contents : Nat} (some_size : (tree.extent contents).size ≠ 0) :
    contents < tree.contents.size := by
  by_contra absent
  rw [extent, Array.getD_eq_getD_getElem?, Array.getElem?_eq_none (Nat.le_of_not_lt absent)]
    at some_size
  exact some_size rfl

theorem patched_modify {contents : Nat} (present : contents < tree.contents.size) (start : Nat)
    (bytes : ByteArray) :
    tree.Patched (tree.modify contents (Extent.write · start bytes)) contents start bytes := by
  have own : (tree.modify contents (Extent.write · start bytes)).extent contents =
      (tree.extent contents).write start bytes := by
    rw [extent_modify tree contents contents _ present, if_pos rfl]
  have others : ∀ index ≠ contents,
      (tree.modify contents (Extent.write · start bytes)).extent index = tree.extent index :=
    fun index differ => extent_modify_ne tree _ differ.symm
  refine ⟨rfl, rfl, Array.size_modify .., ?sizes, others, ?outside, ?inside⟩
  case sizes =>
    intro index
    by_cases same : index = contents
    · rw [same, own, Extent.size_write]
    · rw [others index same]
  case outside =>
    intro offset away
    rw [own, Extent.byteAt_write_outside _ away]
  case inside => rw [own, Extent.window_write]

theorem resolve_unserved (listed : tree.list directory = .ok entries)
    (away : ∀ entry ∈ entries, ¬ tree.Serves entry address length) :
    tree.resolveSegment directory address length = .error (.unmapped address length) := by
  have missed : SegmentFile.locate (tree.segments directory) address length = none := by
    apply SegmentFile.locate_eq_none
    intro file member holds
    obtain ⟨name, inside, parsed, sized⟩ := (mem_segments_iff listed).mp member
    exact away _ inside ((serves_iff_holds parsed sized).mpr holds)
  rw [resolveSegment, missed]

section Charted

variable (listed : tree.list directory = .ok entries) (charted : tree.Charted entries)

include listed charted

/-- At most one of the segments in a directory holds a range. -/
theorem Charted.alone : ∀ file ∈ tree.segments directory, ∀ other ∈ tree.segments directory,
    file.holds address length = true → other.holds address length = true → other = file := by
  intro file member other also holds given
  obtain ⟨name, inside, parsed, sized⟩ := (mem_segments_iff listed).mp member
  obtain ⟨second, within, read, measured⟩ := (mem_segments_iff listed).mp also
  have serves := (serves_iff_holds parsed sized).mpr holds
  have shares := (serves_iff_holds read measured).mpr given
  have same := charted.unique inside within serves.covers shares.covers
  obtain ⟨base, contents, size⟩ := file
  obtain ⟨start, index, count⟩ := other
  cases same
  cases parsed.symm.trans read
  cases sized.trans measured.symm
  rfl

theorem Charted.resolve_served (member : entry ∈ entries)
    (serves : tree.Serves entry address length) {base : UInt64} {contents : Nat}
    (parsed : segmentBase? entry.1 = some base) (file : entry.2 = .file contents) :
    tree.resolveSegment directory address length =
      .ok (contents, address.toNat - base.toNat) := by
  obtain ⟨name, node⟩ := entry
  cases file
  have inside : ⟨base, contents, (tree.extent contents).size⟩ ∈ tree.segments directory :=
    (mem_segments_iff listed).mpr ⟨name, member, parsed, rfl⟩
  have holds : SegmentFile.holds ⟨base, contents, (tree.extent contents).size⟩ address length =
      true := (serves_iff_holds parsed rfl).mp serves
  have found := SegmentFile.locate_eq_some inside holds fun other also given =>
    charted.alone listed _ inside other also holds given
  rw [resolveSegment, found]

/-- The order in which a directory is read does not matter. -/
theorem Charted.resolve_shuffled {other : FileTree} {within : String}
    {shuffled : List (String × Node)} (contents : other.contents = tree.contents)
    (relisted : other.list within = .ok shuffled) (perm : shuffled.Perm entries) :
    other.resolveSegment within address length = tree.resolveSegment directory address length := by
  have same : ∀ index, other.extent index = tree.extent index := by
    intro index
    rw [extent, contents]
    rfl
  have segments : (other.segments within).Perm (tree.segments directory) := by
    unfold FileTree.segments
    rw [relisted, listed]
    dsimp only
    simp only [same]
    exact perm.filterMap _
  rw [resolveSegment, resolveSegment, SegmentFile.locate_perm segments (charted.alone listed)]

end Charted

end FileTree

/-!
## Access through a directory
-/

namespace AddressedMemory

section Resolved

variable {directory : String} {address : UInt64} {length contents offset : Nat} {host : Host}
  {error : AllocationError} {bytes : ByteArray}

theorem read_of_resolve
    (resolves : host.files.resolveSegment directory address length = .ok (contents, offset)) :
    read (.throughSegments directory) address length host =
      .ok ((host.files.extent contents).read offset length) := by
  simp only [read, resolves, Except.map]

theorem read_of_unresolved
    (missed : host.files.resolveSegment directory address length = .error error) :
    read (.throughSegments directory) address length host = .error error := by
  simp only [read, missed, Except.map]

theorem write_of_resolve
    (resolves : host.files.resolveSegment directory address bytes.size = .ok (contents, offset)) :
    (write (.throughSegments directory) address bytes).run host =
      (.ok (), { host with
        files := host.files.modify contents (Extent.write · offset bytes) }) := by
  simp only [write, StateT.run_bind, StateT.run_get, pure_bind, resolves]
  rfl

theorem write_of_unresolved
    (missed : host.files.resolveSegment directory address bytes.size = .error error) :
    (write (.throughSegments directory) address bytes).run host = (.error error, host) := by
  simp only [write, StateT.run_bind, StateT.run_get, pure_bind, missed]
  rfl

end Resolved

end AddressedMemory

open AddressedMemory in
/-- In a directory whose segments share no address, an access succeeds if and only if all of its
range belongs to one segment, and then it reaches exactly those bytes of that file. Any other access
changes nothing and says that nothing is mapped there. Counting in 64 bits leads to no other segment
than counting in numbers, and the order of the entries does not matter. -/
theorem segment_access_exact {host : Host} {directory : String} {entries : List (String × Node)}
    (listed : host.files.list directory = .ok entries) (charted : host.files.Charted entries)
    (address : UInt64) (length : Nat) :
    (∀ entry ∈ entries, host.files.Serves entry address length →
      (∀ other ∈ entries, host.files.Serves other address length → other = entry) ∧
      ∃ contents base, entry.2 = .file contents ∧ segmentBase? entry.1 = some base ∧
        (∃ bytes, read (.throughSegments directory) address length host = .ok bytes ∧
          bytes.data.toList =
            (host.files.extent contents).window (address.toNat - base.toNat) length) ∧
        ∀ bytes, bytes.size = length → ∃ files,
          (write (.throughSegments directory) address bytes).run host =
            (.ok (), { host with files }) ∧
          host.files.Patched files contents (address.toNat - base.toNat) bytes) ∧
    ((∀ entry ∈ entries, ¬ host.files.Serves entry address length) →
      read (.throughSegments directory) address length host = .error (.unmapped address length) ∧
      ∀ bytes, bytes.size = length →
        (write (.throughSegments directory) address bytes).run host =
          (.error (.unmapped address length), host)) ∧
    (∀ entry ∈ entries, ∀ base, segmentBase? entry.1 = some base → base ≤ address →
      (address - base).toNat = address.toNat - base.toNat ∧
      (host.files.sizeOf entry.2 < 2 ^ 64 → (host.files.Serves entry address length ↔
        ∃ stop, FileTree.checkedEnd (address - base) length = some stop ∧
          address - base < .ofNat (host.files.sizeOf entry.2) ∧
          stop ≤ .ofNat (host.files.sizeOf entry.2)))) ∧
    ∀ other within shuffled, other.files.contents = host.files.contents →
      other.files.list within = .ok shuffled → shuffled.Perm entries →
      read (.throughSegments within) address length other =
        read (.throughSegments directory) address length host ∧
      ∀ bytes, bytes.size = length → ∀ result after,
        (write (.throughSegments directory) address bytes).run host = (result, after) →
        ∃ left, (write (.throughSegments within) address bytes).run other = (result, left) ∧
          left.files.contents = after.files.contents := by
  refine ⟨?served, ?unserved, ?counted, ?shuffled⟩
  case served =>
    intro entry member serves
    refine ⟨fun other also shares =>
      charted.unique member also serves.covers shares.covers, ?_⟩
    obtain ⟨contents, file⟩ := serves.file charted member
    obtain ⟨base, parsed, _, inside, _⟩ := id serves
    have resolves := charted.resolve_served listed member serves parsed file
    have present : contents < host.files.contents.size := by
      apply FileTree.present_of_size
      rw [file, FileTree.sizeOf] at inside
      omega
    refine ⟨contents, base, file, parsed,
      ⟨_, read_of_resolve resolves, Extent.toList_read _ _ _⟩, ?_⟩
    rintro bytes rfl
    exact ⟨_, write_of_resolve resolves, FileTree.patched_modify present _ bytes⟩
  case unserved =>
    intro away
    have resolves := FileTree.resolve_unserved listed away
    constructor
    · exact read_of_unresolved resolves
    · rintro bytes rfl
      exact write_of_unresolved resolves
  case counted =>
    intro entry member base parsed below
    exact ⟨UInt64.toNat_sub_of_le _ _ below, FileTree.serves_iff_checked parsed below⟩
  case shuffled =>
    intro other within shuffled contents relisted perm
    have resolves : other.files.resolveSegment within address length =
        host.files.resolveSegment directory address length :=
      charted.resolve_shuffled listed contents relisted perm
    have same : ∀ index, other.files.extent index = host.files.extent index := by
      intro index
      rw [FileTree.extent, contents]
      rfl
    constructor
    · simp only [AddressedMemory.read, resolves, same]
    · rintro bytes rfl result after ran
      cases found : host.files.resolveSegment directory address bytes.size with
      | error error =>
        cases ran.symm.trans (write_of_unresolved found)
        exact ⟨other, write_of_unresolved (resolves.trans found), contents⟩
      | ok place =>
        cases ran.symm.trans (write_of_resolve found)
        refine ⟨_, write_of_resolve (resolves.trans found), ?_⟩
        dsimp only [FileTree.modify]
        rw [contents]

open AddressedMemory in
/-- Two segments, the second one up to the last address, and a file of another name between them. -/
theorem segment_access_exact_small :
    ∃ host entries, host.files.list "/shm" = .ok entries ∧ host.files.Charted entries ∧
      (∃ bytes, read (.throughSegments "/shm") 0x1002 6 host = .ok bytes) ∧
      (∃ bytes, read (.throughSegments "/shm") 0xFFFFFFFFFFFFFFFF 1 host = .ok bytes) ∧
      read (.throughSegments "/shm") 0x1002 7 host = .error (.unmapped 0x1002 7) ∧
      read (.throughSegments "/shm") 0x1008 0 host = .error (.unmapped 0x1008 0) := by
  have low : segmentBase? "relay-0000000000001000" = some 0x1000 := by decide +kernel
  have high : segmentBase? "relay-fffffffffffffff8" = some 0xFFFFFFFFFFFFFFF8 := by decide +kernel
  have none : segmentBase? "notes" = none := by decide +kernel
  let tree : FileTree := ⟨[(["shm"], .directory), (["shm", "relay-0000000000001000"], .file 0),
    (["shm", "notes"], .file 1), (["shm", "relay-fffffffffffffff8"], .file 2)],
    #[.zeroed 8, .zeroed 5, .zeroed 8], []⟩
  have listed : tree.list "/shm" = .ok [("relay-0000000000001000", .file 0), ("notes", .file 1),
      ("relay-fffffffffffffff8", .file 2)] := by
    decide +kernel
  have sizes : tree.sizeOf (.file 0) = 8 ∧ tree.sizeOf (.file 2) = 8 := ⟨rfl, rfl⟩
  have charted : tree.Charted [("relay-0000000000001000", .file 0), ("notes", .file 1),
      ("relay-fffffffffffffff8", .file 2)] := by
    constructor
    · simp
    · simp [FileTree.Apart, FileTree.Covers, low, high, none, sizes]
      omega
  have exactly := @segment_access_exact (.fresh 1 Bus.defaultBase tree) "/shm" _ listed charted
  have first : tree.Serves ("relay-0000000000001000", .file 0) 0x1002 6 :=
    ⟨_, low, by decide, by decide, by decide⟩
  have last : tree.Serves ("relay-fffffffffffffff8", .file 2) 0xFFFFFFFFFFFFFFFF 1 :=
    ⟨_, high, by decide, by decide, by decide⟩
  refine ⟨.fresh 1 Bus.defaultBase tree, _, listed, charted, ?_, ?_, ?_, ?_⟩
  · obtain ⟨_, _, _, _, _, ⟨bytes, given, _⟩, _⟩ := (exactly _ _).1 _ (by simp) first
    exact ⟨bytes, given⟩
  · obtain ⟨_, _, _, _, _, ⟨bytes, given, _⟩, _⟩ := (exactly _ _).1 _ (by simp) last
    exact ⟨bytes, given⟩
  · refine ((exactly 0x1002 7).2.1 ?_).1
    change ∀ entry ∈ _, ¬ tree.Serves entry 0x1002 7
    simp [FileTree.Serves, low, high, none, sizes]
  · refine ((exactly 0x1008 0).2.1 ?_).1
    change ∀ entry ∈ _, ¬ tree.Serves entry 0x1008 0
    simp [FileTree.Serves, low, high, none, sizes]

end ChunkRelay
