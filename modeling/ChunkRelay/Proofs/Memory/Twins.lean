import Mathlib.Data.List.Nodup
import ChunkRelay.Proofs.Files.Directory
import ChunkRelay.Proofs.Memory.Handles
import ChunkRelay.Proofs.Memory.SegmentLookup

/-! The same buffers on a bus and in the segments of a directory. What is read
and written by address goes the same way through both, as long as no access is
empty and right at the end of a buffer: the bus takes that for a part of the
buffer, and the directory does not. -/

set_option autoImplicit false

namespace ChunkRelay

/-- A directory lists the same entries after the contents of a file have changed. -/
theorem FileTree.list_modify {tree : FileTree} {directory : String}
    {entries : List (String × Node)} (listed : tree.list directory = .ok entries) (index : Nat)
    (change : Extent → Extent) : (tree.modify index change).list directory = .ok entries := by
  unfold list at listed ⊢
  cases found : tree.find directory with
  | error cause =>
    rw [found] at listed
    cases listed
  | ok place =>
    obtain ⟨location, node⟩ := place
    rw [found] at listed
    cases node with
    | directory =>
      have grown : tree.Extends (tree.modify index change) := ⟨rfl, id⟩
      rw [grown.find_directory found]
      exact listed
    | file | socket | nullDevice | zeroDevice | fullDevice => cases listed

/-- A buffer that a bus and a directory have at the same address: its frame there and its file
here. -/
structure Twin where
  base : UInt64
  size : Nat
  frame : Nat
  file : Nat
deriving DecidableEq, Repr

namespace Twin

def Covers (twin : Twin) (point : Nat) : Prop :=
  twin.base.toNat ≤ point ∧ point < twin.base.toNat + twin.size

def Apart (one other : Twin) : Prop :=
  ∀ point, ¬ (one.Covers point ∧ other.Covers point)

instance : Std.Symm Apart where
  symm _ _ apart point both := apart point both.symm

/-- All of a range belongs to the buffer, and an empty range begins in it. -/
def Serves (twin : Twin) (address : UInt64) (length : Nat) : Prop :=
  twin.Covers address.toNat ∧ address.toNat - twin.base.toNat + length ≤ twin.size

/-- Buffers that may lie in one address space: none is empty, and no two have anything in common. -/
structure Arranged (twins : List Twin) : Prop where
  some_size : ∀ twin ∈ twins, 0 < twin.size
  apart : twins.Pairwise Apart
  frames : (twins.map (·.frame)).Nodup
  files : (twins.map (·.file)).Nodup

/-- The buffers are what a bus has and what the segments of a directory are, with the same bytes. -/
structure Held (twins : List Twin) (directory : String) (entries : List (String × Node)) (bus : Bus)
    (tree : FileTree) : Prop where
  frames : ∀ frame, frame ∈ bus.frames ↔ ∃ twin ∈ twins, (twin.base, twin.frame) = frame
  listed : tree.list directory = .ok entries
  regular : ∀ entry ∈ entries, segmentBase? entry.1 ≠ none → ∃ contents, entry.2 = .file contents
  segments : ∀ base contents,
    (∃ name, (name, Node.file contents) ∈ entries ∧ segmentBase? name = some base) ↔
      ∃ twin ∈ twins, twin.base = base ∧ twin.file = contents
  frameSize : ∀ twin ∈ twins, (bus.extent twin.frame).size = twin.size
  fileSize : ∀ twin ∈ twins, (tree.extent twin.file).size = twin.size
  same : ∀ twin ∈ twins, ∀ offset < twin.size,
    (bus.extent twin.frame).byteAt offset = (tree.extent twin.file).byteAt offset

/-!
## Accesses
-/

inductive Access where
  | read (address : UInt64) (length : Nat)
  | write (address : UInt64) (bytes : ByteArray)

namespace Access

def address : Access → UInt64
  | .read address _ | .write address _ => address

def length : Access → Nat
  | .read _ length => length
  | .write _ bytes => bytes.size

/-- What comes of an access: why it failed, or the bytes that were read, if any were to be read. -/
abbrev Result := Except AllocationError (Option ByteArray)

def run (memory : AddressedMemory) : Access → HostM Result
  | .read address length => do return (memory.read address length (← get)).map some
  | .write address bytes => do return (← memory.write address bytes).map fun _ => none

def runAll (memory : AddressedMemory) : List Access → HostM (List Result)
  | [] => return []
  | access :: rest => do
    let result ← access.run memory
    let others ← runAll memory rest
    return result :: others

def unmapped (access : Access) : Result :=
  .error (.unmapped access.address access.length)

/-- One of the buffers has the range of the access. -/
def Served (twins : List Twin) (access : Access) : Prop :=
  ∃ twin ∈ twins, twin.Serves access.address access.length

/-- The access is empty and right at the end of a buffer, where no other one begins. -/
def AtEnd (twins : List Twin) (access : Access) : Prop :=
  access.length = 0 ∧
    (∃ twin ∈ twins, access.address.toNat = twin.base.toNat + twin.size) ∧
    ∀ twin ∈ twins, ¬ twin.Covers access.address.toNat

/-- What comes of an access through the bus, and through the directory. -/
inductive Agree (twins : List Twin) : Access → Result → Result → Prop
  | served {access : Access} {answer : Option ByteArray} : access.Served twins →
      Agree twins access (.ok answer) (.ok answer)
  | missed {access : Access} : ¬ access.Served twins → ¬ access.AtEnd twins →
      Agree twins access access.unmapped access.unmapped
  | ended {access : Access} {answer : Option ByteArray} : access.AtEnd twins →
      Agree twins access (.ok answer) access.unmapped

/-- What comes of one access after the other. -/
inductive AgreeAll (twins : List Twin) : List Access → List Result → List Result → Prop
  | nil : AgreeAll twins [] [] []
  | cons {access : Access} {rest : List Access} {result other : Result}
      {results others : List Result} :
      Agree twins access result other → AgreeAll twins rest results others →
      AgreeAll twins (access :: rest) (result :: results) (other :: others)

section Run

variable {memory : AddressedMemory} {address : UInt64} {host after : Host}

theorem run_read {length : Nat} {result : Except AllocationError ByteArray}
    (reads : memory.read address length host = result) :
    ((Access.read address length).run memory).run host = (result.map some, host) := by
  cases reads
  rfl

theorem run_write {bytes : ByteArray} {result : Except AllocationError Unit}
    (wrote : (memory.write address bytes).run host = (result, after)) :
    ((Access.write address bytes).run memory).run host = (result.map fun _ => none, after) :=
  HostM.run_bind_eq wrote

end Run

end Access

/-!
## Where an access goes
-/

variable {twins : List Twin} {directory : String} {entries : List (String × Node)} {bus : Bus}
  {tree : FileTree} {twin other : Twin} {address : UInt64} {length : Nat}

/-- No address belongs to two buffers. -/
theorem Arranged.unique (arranged : Arranged twins) {point : Nat} (member : twin ∈ twins)
    (also : other ∈ twins) (covers : twin.Covers point) (shares : other.Covers point) :
    other = twin := by
  by_contra differ
  exact arranged.apart.forall also member differ point ⟨shares, covers⟩

/-- The bus looks at a buffer if no other one begins between its base and the address. -/
theorem Held.nearest_of_alone (held : Held twins directory entries bus tree) (member : twin ∈ twins)
    (below : twin.base.toNat ≤ address.toNat)
    (alone : ∀ other ∈ twins, twin.base.toNat ≤ other.base.toNat →
      other.base.toNat ≤ address.toNat → other = twin) :
    bus.nearest? address = some (twin.base, twin.frame) := by
  have listed := (held.frames _).mpr ⟨twin, member, rfl⟩
  have reaches : twin.base ≤ address := UInt64.le_iff_toNat_le.mpr below
  have found := bus.nearest?_spec address
  cases nearest : bus.nearest? address with
  | none =>
    rw [nearest] at found
    exact absurd reaches (found _ listed)
  | some best =>
    rw [nearest] at found
    obtain ⟨stands, reached, greatest⟩ := found
    obtain ⟨other, also, rfl⟩ := (held.frames best).mp stands
    have higher := UInt64.le_iff_toNat_le.mp (greatest _ listed reaches)
    rw [alone other also higher (UInt64.le_iff_toNat_le.mp reached)]

/-- A buffer that begins in another one is that one. -/
theorem Arranged.eq_of_covers_base (arranged : Arranged twins) (member : twin ∈ twins)
    (also : other ∈ twins) (covers : twin.Covers other.base.toNat) : other = twin := by
  have some_size := arranged.some_size other also
  exact arranged.unique member also covers ⟨Nat.le_refl _, by omega⟩

theorem Held.bus_served (held : Held twins directory entries bus tree)
    (arranged : Arranged twins) (member : twin ∈ twins) (serves : twin.Serves address length) :
    bus.resolve address length = .ok (twin.frame, address.toNat - twin.base.toNat) := by
  obtain ⟨covers, within⟩ := serves
  have offset := UInt64.toNat_sub_of_le _ _ (UInt64.le_iff_toNat_le.mpr covers.1)
  have nearest : bus.nearest? address = some (twin.base, twin.frame) := by
    apply held.nearest_of_alone member covers.1
    intro other also higher lower
    exact arranged.eq_of_covers_base member also ⟨higher, Nat.lt_of_le_of_lt lower covers.2⟩
  rw [Bus.resolve, nearest]
  dsimp only
  rw [offset, held.frameSize twin member, if_neg (Nat.not_lt_of_le within)]

/-- An empty range at the end of a buffer is found in that buffer. -/
theorem Held.bus_ended (held : Held twins directory entries bus tree) (arranged : Arranged twins)
    (member : twin ∈ twins) (ends : address.toNat = twin.base.toNat + twin.size)
    (free : ∀ twin ∈ twins, ¬ twin.Covers address.toNat) :
    bus.resolve address 0 = .ok (twin.frame, twin.size) := by
  have below : twin.base.toNat ≤ address.toNat := by omega
  have offset := UInt64.toNat_sub_of_le _ _ (UInt64.le_iff_toNat_le.mpr below)
  have nearest : bus.nearest? address = some (twin.base, twin.frame) := by
    apply held.nearest_of_alone member below
    intro other also higher lower
    have some_size := arranged.some_size other also
    have away : ¬ address.toNat < other.base.toNat + other.size := fun inside =>
      free other also ⟨lower, inside⟩
    exact arranged.eq_of_covers_base member also ⟨higher, by omega⟩
  have whole : address.toNat - twin.base.toNat = twin.size := by omega
  rw [Bus.resolve, nearest]
  dsimp only
  rw [offset, held.frameSize twin member, whole, Nat.add_zero, if_neg (Nat.lt_irrefl _)]

/-- Where no buffer has the range, the bus finds one only for an empty range at its end. -/
theorem Held.bus_unserved (held : Held twins directory entries bus tree)
    (away : ¬ ∃ twin ∈ twins, twin.Serves address length)
    (inner : ∀ twin ∈ twins, length = 0 → address.toNat ≠ twin.base.toNat + twin.size) :
    bus.resolve address length = .error (.unmapped address length) := by
  unfold Bus.resolve
  have found := bus.nearest?_spec address
  cases nearest : bus.nearest? address with
  | none => rfl
  | some best =>
    rw [nearest] at found
    obtain ⟨stands, reached, _⟩ := found
    obtain ⟨twin, member, rfl⟩ := (held.frames best).mp stands
    have below := UInt64.le_iff_toNat_le.mp reached
    have offset := UInt64.toNat_sub_of_le _ _ reached
    dsimp only at below offset ⊢
    rw [offset, held.frameSize twin member, if_pos]
    by_contra short
    have behind : ¬ address.toNat < twin.base.toNat + twin.size := fun inside =>
      away ⟨twin, member, ⟨below, inside⟩, by omega⟩
    exact inner twin member (by omega) (by omega)

theorem Held.mem_segments (held : Held twins directory entries bus tree) {file : SegmentFile} :
    file ∈ tree.segments directory ↔ ∃ twin ∈ twins, ⟨twin.base, twin.file, twin.size⟩ = file := by
  rw [FileTree.mem_segments_iff held.listed]
  constructor
  · rintro ⟨name, inside, parsed, sized⟩
    obtain ⟨twin, member, base, contents⟩ := (held.segments _ _).mp ⟨name, inside, parsed⟩
    refine ⟨twin, member, ?_⟩
    rw [← held.fileSize twin member, base, contents, ← sized]
  · rintro ⟨twin, member, rfl⟩
    obtain ⟨name, inside, parsed⟩ := (held.segments _ _).mpr ⟨twin, member, rfl, rfl⟩
    exact ⟨name, inside, parsed, (held.fileSize twin member).symm⟩

theorem serves_iff_holds : twin.Serves address length ↔
    SegmentFile.holds ⟨twin.base, twin.file, twin.size⟩ address length = true := by
  rw [SegmentFile.holds_iff, Serves, Covers, and_assoc]
  refine and_congr_right fun below => ?_
  dsimp only at below ⊢
  omega

theorem Held.segments_served (held : Held twins directory entries bus tree)
    (arranged : Arranged twins) (member : twin ∈ twins) (serves : twin.Serves address length) :
    tree.resolveSegment directory address length =
      .ok (twin.file, address.toNat - twin.base.toNat) := by
  have found := SegmentFile.locate_eq_some (held.mem_segments.mpr ⟨twin, member, rfl⟩)
    (serves_iff_holds.mp serves) fun file listed holds => by
      obtain ⟨other, also, rfl⟩ := held.mem_segments.mp listed
      rw [arranged.unique member also serves.1 (serves_iff_holds.mpr holds).1]
  rw [FileTree.resolveSegment, found]

theorem Held.segments_unserved (held : Held twins directory entries bus tree)
    (away : ¬ ∃ twin ∈ twins, twin.Serves address length) :
    tree.resolveSegment directory address length = .error (.unmapped address length) := by
  have missed : SegmentFile.locate (tree.segments directory) address length = none := by
    apply SegmentFile.locate_eq_none
    intro file listed holds
    obtain ⟨twin, member, rfl⟩ := held.mem_segments.mp listed
    exact away ⟨twin, member, serves_iff_holds.mpr holds⟩
  rw [FileTree.resolveSegment, missed]

/-- The three ways of an access: to one buffer through both, to none, or to the end of one through
the bus alone. -/
theorem Held.resolve_cases (held : Held twins directory entries bus tree)
    (arranged : Arranged twins) (access : Access) :
    (access.Served twins ∧ ∃ twin ∈ twins, ∃ offset, offset + access.length ≤ twin.size ∧
      bus.resolve access.address access.length = .ok (twin.frame, offset) ∧
      tree.resolveSegment directory access.address access.length = .ok (twin.file, offset)) ∨
    (¬ access.Served twins ∧ ¬ access.AtEnd twins ∧
      bus.resolve access.address access.length =
        .error (.unmapped access.address access.length) ∧
      tree.resolveSegment directory access.address access.length =
        .error (.unmapped access.address access.length)) ∨
    (access.AtEnd twins ∧
      (∃ twin ∈ twins,
        bus.resolve access.address access.length = .ok (twin.frame, twin.size)) ∧
      tree.resolveSegment directory access.address access.length =
        .error (.unmapped access.address access.length)) := by
  by_cases served : access.Served twins
  · obtain ⟨twin, member, serves⟩ := id served
    exact .inl ⟨served, twin, member, _, serves.2, held.bus_served arranged member serves,
      held.segments_served arranged member serves⟩
  · have unserved := held.segments_unserved served
    by_cases ended : access.AtEnd twins
    · obtain ⟨nothing, ⟨twin, member, ends⟩, free⟩ := id ended
      have resolves := held.bus_ended arranged member ends free
      rw [← nothing] at resolves
      exact .inr (.inr ⟨ended, ⟨twin, member, resolves⟩, unserved⟩)
    · refine .inr (.inl ⟨served, ended, held.bus_unserved served ?_, unserved⟩)
      intro twin member nothing ends
      refine ended ⟨nothing, ⟨twin, member, ends⟩, fun other also covers => served ?_⟩
      obtain ⟨below, inside⟩ := id covers
      exact ⟨other, also, covers, by omega⟩

section Bus

variable {host : Host} {index offset : Nat} {error : AllocationError} {bytes : ByteArray}

theorem read_bus_of_resolve (resolves : host.bus.resolve address length = .ok (index, offset)) :
    AddressedMemory.throughBus.read address length host =
      .ok ((host.bus.extent index).read offset length) := by
  simp only [AddressedMemory.read, Bus.read, resolves, Except.map]

theorem read_bus_of_unresolved (missed : host.bus.resolve address length = .error error) :
    AddressedMemory.throughBus.read address length host = .error error := by
  simp only [AddressedMemory.read, Bus.read, missed, Except.map]

theorem write_bus_of_resolve
    (resolves : host.bus.resolve address bytes.size = .ok (index, offset)) :
    (AddressedMemory.throughBus.write address bytes).run host =
      (.ok (), { host with bus := host.bus.modify index (Extent.write · offset bytes) }) := by
  simp only [AddressedMemory.write, StateT.run_bind, StateT.run_get, pure_bind, Bus.write, resolves,
    Except.map]
  rfl

theorem write_bus_of_unresolved (missed : host.bus.resolve address bytes.size = .error error) :
    (AddressedMemory.throughBus.write address bytes).run host = (.error error, host) := by
  simp only [AddressedMemory.write, StateT.run_bind, StateT.run_get, pure_bind, Bus.write, missed,
    Except.map]
  rfl

end Bus

/-!
## What an access changes
-/

/-- The same bytes at the same place of one buffer, on the bus and in the directory. -/
theorem Held.write (held : Held twins directory entries bus tree) (arranged : Arranged twins)
    (member : twin ∈ twins) (start : Nat) (bytes : ByteArray) :
    Held twins directory entries (bus.modify twin.frame (Extent.write · start bytes))
      (tree.modify twin.file (Extent.write · start bytes)) := by
  have some_size := arranged.some_size twin member
  have onBus : twin.frame < bus.contents.size := by
    apply Bus.present_of_size
    rw [held.frameSize twin member]
    omega
  have onFiles : twin.file < tree.contents.size := by
    apply FileTree.present_of_size
    rw [held.fileSize twin member]
    omega
  have patched := FileTree.patched_modify onFiles start bytes
  refine { held with
    listed := FileTree.list_modify held.listed _ _
    frameSize := ?frameSize
    fileSize := fun other also => (patched.sizes _).trans (held.fileSize other also)
    same := ?same }
  case frameSize =>
    intro other also
    rw [Bus.size_extent_modify bus _ (Bus.keeping_write start bytes), held.frameSize other also]
  case same =>
    intro other also offset inside
    by_cases own : other = twin
    · subst own
      rw [Bus.extent_modify onBus, if_pos rfl, FileTree.extent_modify tree _ _ _ onFiles,
        if_pos rfl, Extent.byteAt_write, Extent.byteAt_write, held.same other also offset inside]
    · have frames : twin.frame ≠ other.frame := fun same =>
        own (List.inj_on_of_nodup_map arranged.frames also member same.symm)
      have files : other.file ≠ twin.file := fun same =>
        own (List.inj_on_of_nodup_map arranged.files also member same)
      rw [Bus.extent_modify_ne bus _ frames, patched.others _ files]
      exact held.same other also offset inside

theorem Held.read_eq (held : Held twins directory entries bus tree) (member : twin ∈ twins)
    {start : Nat} (within : start + length ≤ twin.size) :
    (bus.extent twin.frame).read start length = (tree.extent twin.file).read start length := by
  ext1
  rw [← Array.toList_inj, Extent.toList_read, Extent.toList_read]
  apply Extent.window_congr
  intro offset _ inside
  exact held.same twin member offset (Nat.lt_of_lt_of_le inside within)

/-- Writing nothing changes nothing. -/
theorem Held.write_nothing (held : Held twins directory entries bus tree) (index start : Nat)
    {bytes : ByteArray} (nothing : bytes.size = 0) :
    Held twins directory entries (bus.modify index (Extent.write · start bytes)) tree := by
  have same : ∀ other, (bus.modify index (Extent.write · start bytes)).extent other =
      bus.extent other := by
    intro other
    have kept : ∀ extent : Extent, extent.write start bytes = extent := fun extent => if_pos nothing
    simp only [Bus.modify, Bus.extent, Array.getD_eq_getD_getElem?, Array.getElem?_modify, kept]
    split <;> simp
  refine { held with frameSize := ?_, same := ?_ }
  · intro twin member
    rw [same, held.frameSize twin member]
  · intro twin member
    rw [same]
    exact held.same twin member

/-- What comes of an access is told by where it goes, and the buffers stay twins. -/
theorem Held.step {one other left right : Host} {access : Access} {result given : Access.Result}
    (held : Held twins directory entries one.bus other.files) (arranged : Arranged twins)
    (ran : (access.run .throughBus).run one = (result, left))
    (also : (access.run (.throughSegments directory)).run other = (given, right)) :
    access.Agree twins result given ∧ Held twins directory entries left.bus right.files := by
  cases access with
  | read address length =>
    rcases held.resolve_cases arranged (.read address length) with
      ⟨served, twin, member, offset, within, bus, files⟩ | ⟨away, inner, bus, files⟩ |
      ⟨ended, ⟨twin, member, bus⟩, files⟩
    · cases ran.symm.trans (Access.run_read (read_bus_of_resolve bus))
      cases also.symm.trans (Access.run_read (AddressedMemory.read_of_resolve files))
      have same : (one.bus.extent twin.frame).read offset length =
          (other.files.extent twin.file).read offset length := held.read_eq member within
      refine ⟨?_, held⟩
      rw [same]
      exact .served served
    · cases ran.symm.trans (Access.run_read (read_bus_of_unresolved bus))
      cases also.symm.trans (Access.run_read (AddressedMemory.read_of_unresolved files))
      exact ⟨.missed away inner, held⟩
    · cases ran.symm.trans (Access.run_read (read_bus_of_resolve bus))
      cases also.symm.trans (Access.run_read (AddressedMemory.read_of_unresolved files))
      exact ⟨.ended ended, held⟩
  | write address bytes =>
    rcases held.resolve_cases arranged (.write address bytes) with
      ⟨served, twin, member, offset, within, bus, files⟩ | ⟨away, inner, bus, files⟩ |
      ⟨ended, ⟨twin, member, bus⟩, files⟩
    · cases ran.symm.trans (Access.run_write (write_bus_of_resolve bus))
      cases also.symm.trans (Access.run_write (AddressedMemory.write_of_resolve files))
      exact ⟨.served served, held.write arranged member offset bytes⟩
    · cases ran.symm.trans (Access.run_write (write_bus_of_unresolved bus))
      cases also.symm.trans (Access.run_write (AddressedMemory.write_of_unresolved files))
      exact ⟨.missed away inner, held⟩
    · cases ran.symm.trans (Access.run_write (write_bus_of_resolve bus))
      cases also.symm.trans (Access.run_write (AddressedMemory.write_of_unresolved files))
      exact ⟨.ended ended, held.write_nothing _ _ ended.1⟩

theorem Held.runAll {accesses : List Access} (arranged : Arranged twins)
    {one other left right : Host} {results others : List Access.Result}
    (held : Held twins directory entries one.bus other.files)
    (ran : (Access.runAll .throughBus accesses).run one = (results, left))
    (also : (Access.runAll (.throughSegments directory) accesses).run other = (others, right)) :
    Access.AgreeAll twins accesses results others ∧
      Held twins directory entries left.bus right.files := by
  induction accesses generalizing one other left right results others with
  | nil =>
    cases ran
    cases also
    exact ⟨.nil, held⟩
  | cons access rest ih =>
    rcases first : (access.run .throughBus).run one with ⟨result, between⟩
    rcases second : (access.run (.throughSegments directory)).run other with ⟨given, amid⟩
    obtain ⟨agree, kept⟩ := held.step arranged first second
    rcases later : (Access.runAll .throughBus rest).run between with ⟨more, above⟩
    rcases latest : (Access.runAll (.throughSegments directory) rest).run amid with ⟨most, below⟩
    obtain ⟨agrees, stays⟩ := ih kept later latest
    rw [Access.runAll, HostM.run_bind_eq first, HostM.run_bind_eq later] at ran
    rw [Access.runAll, HostM.run_bind_eq second, HostM.run_bind_eq latest] at also
    cases ran
    cases also
    exact ⟨.cons agree agrees, stays⟩

/-- Where no access is at an end, nothing that comes of them differs. -/
theorem Access.AgreeAll.eq {accesses : List Access} {results others : List Access.Result}
    (agrees : Access.AgreeAll twins accesses results others)
    (inner : ∀ access ∈ accesses, ¬ access.AtEnd twins) : results = others := by
  induction agrees with
  | nil => rfl
  | cons agree agrees ih =>
    rw [ih fun access member => inner access (List.mem_cons_of_mem _ member)]
    cases agree with
    | served | missed => rfl
    | ended ends => exact absurd ends (inner _ List.mem_cons_self)

end Twin

open Twin in
/-- Buffers that a bus and a directory both have are read and written the same way through both. An
access to a range in one of them succeeds with the same bytes, any other one fails with the same
error, and the contents stay the same. Only for an empty access right at the end of a buffer, where
no other one begins, the bus says that it went well and the directory that nothing is there. -/
theorem memories_agree {twins : List Twin} {directory : String} {entries : List (String × Node)}
    {one other left right : Host} {accesses : List Access} {results others : List Access.Result}
    (arranged : Arranged twins) (held : Held twins directory entries one.bus other.files)
    (ran : (Access.runAll .throughBus accesses).run one = (results, left))
    (also : (Access.runAll (.throughSegments directory) accesses).run other = (others, right)) :
    Access.AgreeAll twins accesses results others ∧
      Held twins directory entries left.bus right.files ∧
      ((∀ access ∈ accesses, ¬ access.AtEnd twins) → results = others) := by
  obtain ⟨agrees, kept⟩ := held.runAll arranged ran also
  exact ⟨agrees, kept, agrees.eq⟩

/-- A bus with one frame of 32 bytes, and a directory with one segment of 32 bytes. -/
theorem Twin.held_small : Twin.Held [⟨0x80000000, 32, 0, 0⟩] "/shm"
    [("relay-0000000080000000", .file 0)] ⟨0x80001000, [(0x80000000, 0)], #[.zeroed 32], 1⟩
    ⟨[(["shm"], .directory), (["shm", "relay-0000000080000000"], .file 0)], #[.zeroed 32], []⟩ := by
  have parsed : segmentBase? "relay-0000000080000000" = some 0x80000000 := by decide +kernel
  constructor
  · simp [eq_comm]
  · decide +kernel
  · simp
  · simp [parsed, and_comm, eq_comm]
  · simp [Bus.extent, Extent.zeroed]
  · simp [FileTree.extent, Extent.zeroed]
  · simp [Bus.extent, FileTree.extent]

theorem Twin.arranged_small : Twin.Arranged [⟨0x80000000, 32, 0, 0⟩] := by
  constructor <;> simp

open Twin in
/-- Three bytes are written and read again, and a byte is not there. -/
theorem memories_agree_small :
    ∃ twins entries one other, Arranged twins ∧ Held twins "/shm" entries one.bus other.files ∧
      ((Access.runAll .throughBus [.write 0x80000004 ⟨#[1, 2, 3]⟩, .read 0x80000003 5,
          .read 0x80000030 1]).run one).1 =
        ((Access.runAll (.throughSegments "/shm") [.write 0x80000004 ⟨#[1, 2, 3]⟩,
          .read 0x80000003 5, .read 0x80000030 1]).run other).1 := by
  refine ⟨_, _, { Host.fresh 1 Bus.defaultBase .empty with bus := _ },
    .fresh 1 Bus.defaultBase _, arranged_small, held_small, ?_⟩
  refine (memories_agree arranged_small held_small rfl rfl).2.2 ?_
  rintro access member ⟨nothing, _⟩
  have longer : ∀ access ∈ [Access.write 0x80000004 ⟨#[1, 2, 3]⟩, .read 0x80000003 5,
      .read 0x80000030 1], access.length ≠ 0 := by
    decide
  exact longer access member nothing

open Twin in
/-- An empty access right at the end of the only buffer goes well on the bus, and the directory has
nothing there. -/
theorem memories_disagree_at_end :
    ∃ twins entries one other, Arranged twins ∧ Held twins "/shm" entries one.bus other.files ∧
      (∃ bytes, AddressedMemory.throughBus.read 0x80000020 0 one = .ok bytes) ∧
      (AddressedMemory.throughSegments "/shm").read 0x80000020 0 other =
        .error (.unmapped 0x80000020 0) := by
  refine ⟨_, _, { Host.fresh 1 Bus.defaultBase .empty with bus := _ },
    .fresh 1 Bus.defaultBase _, arranged_small, held_small, ⟨_, rfl⟩, ?_⟩
  decide +kernel

end ChunkRelay
