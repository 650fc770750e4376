import Mathlib.Data.Finset.Card
import ChunkRelay.Proofs.Memory.History

/-! What a bus has handed out, told grant by grant. Grants follow each other in
whole pages, so no address belongs to two of them, an access that looks at one
frame only finds the right one, and each byte is what was last written at its
address. -/

set_option autoImplicit false

namespace ChunkRelay

/-!
## Grants
-/

/-- A part of the bus as it was handed out, and the number of the handle that it went to. -/
structure Grant where
  holder : Nat
  base : UInt64
  size : Nat
deriving DecidableEq

namespace Grant

/-- The address is one of its own. After the last address comes zero. -/
def Covers (grant : Grant) (address : UInt64) : Prop :=
  (address - grant.base).toNat < grant.size

/-- So many bytes at the address are within reach of its base. -/
def Serves (grant : Grant) (address : UInt64) (length : Nat) : Prop :=
  grant.base ≤ address ∧ (address - grant.base).toNat + length ≤ grant.size

def Apart (left right : Grant) : Prop :=
  ∀ address, left.Covers address → ¬ right.Covers address

/-- The bytes that grants take up in whole pages. -/
def spent (grants : List Grant) : Nat :=
  (grants.map fun grant => roundToPage grant.size).sum

theorem spent_cons (grant : Grant) (older : List Grant) :
    spent (grant :: older) = roundToPage grant.size + spent older := rfl

theorem spent_le_of_suffix {older grants : List Grant} (suffix : older <:+ grants) :
    spent older ≤ spent grants := by
  obtain ⟨newer, rfl⟩ := suffix
  rw [spent, spent, List.map_append, List.sum_append]
  exact Nat.le_add_left _ _

/-- The frames of the grants whose holders are still open, the latest first. -/
def live (active : Finset Nat) : List Grant → List (UInt64 × Nat)
  | [] => []
  | grant :: older =>
    if grant.holder ∈ active then (grant.base, older.length) :: live active older
    else live active older

theorem mem_live {active : Finset Nat} {grants : List Grant} {frame : UInt64 × Nat} :
    frame ∈ live active grants ↔ ∃ grant older, grant :: older <:+ grants ∧
      grant.holder ∈ active ∧ (grant.base, older.length) = frame := by
  induction grants with
  | nil =>
    constructor
    · intro member
      cases member
    · rintro ⟨grant, older, suffix, _⟩
      cases List.suffix_nil.mp suffix
  | cons latest rest ih =>
    have split : frame ∈ live active (latest :: rest) ↔
        latest.holder ∈ active ∧ (latest.base, rest.length) = frame ∨
          frame ∈ live active rest := by
      rw [live]
      split
      · next held => rw [List.mem_cons, eq_comm, and_iff_right held]
      · next shut => rw [or_iff_right fun found => shut found.1]
    rw [split, ih]
    constructor
    · rintro (⟨held, same⟩ | ⟨grant, older, suffix, rest⟩)
      · exact ⟨latest, rest, List.suffix_rfl, held, same⟩
      · exact ⟨grant, older, suffix.trans (List.suffix_cons _ _), rest⟩
    · rintro ⟨grant, older, suffix, held, same⟩
      rcases List.suffix_cons_iff.mp suffix with whole | suffix
      · cases whole
        exact .inl ⟨held, same⟩
      · exact .inr ⟨grant, older, suffix, held, same⟩

theorem live_congr {active other : Finset Nat} {grants : List Grant}
    (same : ∀ grant ∈ grants, grant.holder ∈ active ↔ grant.holder ∈ other) :
    live active grants = live other grants := by
  induction grants with
  | nil => rfl
  | cons latest rest ih =>
    have alike := same latest List.mem_cons_self
    have below := ih fun grant member => same grant (List.mem_cons_of_mem _ member)
    simp only [live, alike, below]

/-- Closing the one holder of a base takes the frame at that base away. -/
theorem live_erase {active : Finset Nat} {grants : List Grant} {holder : Nat} {base : UInt64}
    (own : ∀ grant ∈ grants, grant.holder = holder ↔ grant.base = base) :
    live (active.erase holder) grants = (live active grants).filter (·.1 ≠ base) := by
  induction grants with
  | nil => rfl
  | cons latest rest ih =>
    have mine := own latest List.mem_cons_self
    have below := ih fun grant member => own grant (List.mem_cons_of_mem _ member)
    by_cases held : latest.holder ∈ active
    · by_cases same : latest.holder = holder
      · have gone : latest.holder ∉ active.erase holder := by
          rw [same]
          exact Finset.notMem_erase _ _
        rw [live, live, if_neg gone, if_pos held, below,
          List.filter_cons_of_neg (by simpa using mine.mp same)]
      · have kept : latest.holder ∈ active.erase holder := Finset.mem_erase.mpr ⟨same, held⟩
        rw [live, live, if_pos kept, if_pos held, below,
          List.filter_cons_of_pos (by simpa using fun base => same (mine.mpr base))]
    · have gone : latest.holder ∉ active.erase holder := fun kept =>
        held (Finset.mem_of_mem_erase kept)
      rw [live, live, if_neg gone, if_neg held, below]

theorem length_live {active : Finset Nat} {grants : List Grant}
    (alone : (grants.map (·.holder)).Nodup) :
    (live active grants).length =
      (active.filter fun handle => ∃ grant ∈ grants, grant.holder = handle).card := by
  have counted : (live active grants).length =
      ((grants.map (·.holder)).filter (· ∈ active)).length := by
    clear alone
    induction grants with
    | nil => rfl
    | cons latest rest ih =>
      by_cases held : latest.holder ∈ active
      · rw [live, if_pos held, List.map_cons, List.filter_cons_of_pos (by simpa using held),
          List.length_cons, List.length_cons, ih]
      · rw [live, if_neg held, List.map_cons, List.filter_cons_of_neg (by simpa using held), ih]
  rw [counted, ← List.toFinset_card_of_nodup (alone.filter _)]
  congr 1
  ext handle
  simp only [List.mem_toFinset, List.mem_filter, List.mem_map, decide_eq_true_eq,
    Finset.mem_filter, and_comm]

end Grant

/-!
## Where grants lie
-/

namespace Bus

theorem sub_add (address base offset : UInt64) :
    address - (base + offset) = address - base - offset := by
  simp only [UInt64.sub_eq_add_neg, UInt64.neg_add, UInt64.add_assoc]

theorem add_ofNat_sub (base address : UInt64) : base + .ofNat (address - base).toNat = address := by
  rw [UInt64.ofNat_toNat, UInt64.add_comm, UInt64.sub_add_cancel]

/-- The range of `size` bytes that starts `start` bytes after a base, as addresses see it. -/
theorem within_iff (base address : UInt64) {start size : Nat} (fits : start + size ≤ 2 ^ 64) :
    (address - (base + .ofNat start)).toNat < size ↔
      start ≤ (address - base).toNat ∧ (address - base).toNat < start + size := by
  have bounded := (address - base).toNat_lt
  rw [sub_add, UInt64.toNat_sub, UInt64.toNat_ofNat']
  omega

end Bus

namespace Grant

/-- The grants follow each other on the bus in whole pages. -/
structure Laid (base : UInt64) (bus : Bus) (grants : List Grant) : Prop where
  next : bus.next = base + .ofNat (spent grants)
  contents : bus.contents.size = grants.length
  placed : ∀ grant older, grant :: older <:+ grants → grant.base = base + .ofNat (spent older) ∧
    grant.size ≠ 0 ∧ (bus.extent older.length).size = grant.size

namespace Laid

variable {base address : UInt64} {bus : Bus} {grants older earlier : List Grant}
  {grant left right : Grant} {active : Finset Nat} {length : Nat}

theorem bounded (fits : spent grants ≤ 2 ^ 64) (suffix : grant :: older <:+ grants) :
    spent older + grant.size ≤ 2 ^ 64 := by
  have taken := spent_le_of_suffix suffix
  have rounded := Bus.le_roundToPage grant.size
  rw [spent_cons] at taken
  omega

theorem covers_iff (laid : Laid base bus grants) (fits : spent grants ≤ 2 ^ 64)
    (suffix : grant :: older <:+ grants) :
    grant.Covers address ↔ spent older ≤ (address - base).toNat ∧
      (address - base).toNat < spent older + grant.size := by
  rw [Covers, (laid.placed grant older suffix).1]
  exact Bus.within_iff base address (bounded fits suffix)

theorem apart (laid : Laid base bus grants) (fits : spent grants ≤ 2 ^ 64)
    (suffix : right :: older <:+ grants) (below : left :: earlier <:+ older) :
    left.Apart right := by
  intro address within other
  have whole := below.trans ((List.suffix_cons _ _).trans suffix)
  have first := (laid.covers_iff fits whole).mp within
  have second := (laid.covers_iff fits suffix).mp other
  have taken := spent_le_of_suffix below
  have rounded := Bus.le_roundToPage left.size
  rw [spent_cons] at taken
  omega

/-- Only one grant has an address for its own. -/
theorem eq_of_covers (laid : Laid base bus grants) (fits : spent grants ≤ 2 ^ 64)
    (first : left :: earlier <:+ grants) (second : right :: older <:+ grants)
    (within : left.Covers address) (other : right.Covers address) :
    left :: earlier = right :: older := by
  rcases Nat.lt_trichotomy earlier.length older.length with lower | same | higher
  · have below := List.suffix_of_suffix_length_le first
      ((List.suffix_cons _ _).trans second) lower
    exact absurd other (laid.apart fits second below address within)
  · have inside := List.suffix_of_suffix_length_le first second
      (Nat.succ_le_succ (Nat.le_of_eq same))
    exact inside.eq_of_length (congrArg Nat.succ same)
  · have below := List.suffix_of_suffix_length_le second
      ((List.suffix_cons _ _).trans first) higher
    exact absurd within (laid.apart fits first below address other)

theorem pairwise (laid : Laid base bus grants) (fits : spent grants ≤ 2 ^ 64) :
    grants.Pairwise Apart := by
  have all : ∀ part, part <:+ grants → part.Pairwise Apart := by
    intro part
    induction part with
    | nil =>
      intro _
      exact List.Pairwise.nil
    | cons latest rest ih =>
      intro suffix
      constructor
      · intro grant member address within other
        obtain ⟨newer, older, rfl⟩ := List.append_of_mem member
        exact laid.apart fits suffix (List.suffix_append newer _) address other within
      · exact ih ((List.suffix_cons _ _).trans suffix)
  exact all grants List.suffix_rfl

theorem covers_base (laid : Laid base bus grants) (suffix : grant :: older <:+ grants) :
    grant.Covers grant.base := by
  have some_size := (laid.placed grant older suffix).2.1
  rw [Covers, UInt64.sub_self]
  exact Nat.pos_of_ne_zero some_size

/-!
## Access by address
-/

theorem covers_of_serves (served : grant.Serves address length) (some_length : length ≠ 0) :
    grant.Covers address := by
  have reach := served.2
  unfold Covers
  omega

/-- An access that goes through is one within reach of a live grant. -/
theorem resolve_ok (laid : Laid base bus grants) (frames : bus.frames = live active grants)
    {index offset : Nat} (found : bus.resolve address length = .ok (index, offset)) :
    ∃ grant older, grant :: older <:+ grants ∧ grant.holder ∈ active ∧
      grant.Serves address length ∧ older.length = index ∧
        (address - grant.base).toNat = offset := by
  have nearest := bus.nearest?_spec address
  unfold Bus.resolve at found
  split at found
  · cases found
  · next first index result =>
    rw [result] at nearest
    dsimp only at found
    split at found
    · cases found
    · next reaches =>
      cases found
      obtain ⟨member, below, _⟩ := nearest
      rw [frames, mem_live] at member
      obtain ⟨grant, older, suffix, held, same⟩ := member
      cases same
      have size := (laid.placed grant older suffix).2.2
      refine ⟨grant, older, suffix, held, ⟨below, ?_⟩, rfl, rfl⟩
      rw [size] at reaches
      exact Nat.le_of_not_lt reaches

/-- Every access within reach of a live grant goes through: a nearer base would be that of a grant
in the midst of it, unless nothing is asked for right behind its end. -/
theorem resolve_served (laid : Laid base bus grants) (fits : spent grants ≤ 2 ^ 64)
    (frames : bus.frames = live active grants) (member : grant ∈ grants)
    (held : grant.holder ∈ active) (served : grant.Serves address length) :
    ∃ place, bus.resolve address length = .ok place := by
  obtain ⟨newer, older, split⟩ := List.append_of_mem member
  have suffix : grant :: older <:+ grants := split ▸ List.suffix_append newer _
  have listed : (grant.base, older.length) ∈ bus.frames := by
    rw [frames, mem_live]
    exact ⟨grant, older, suffix, held, rfl⟩
  have nearest := bus.nearest?_spec address
  unfold Bus.resolve
  cases result : bus.nearest? address with
  | none =>
    rw [result] at nearest
    exact absurd served.1 (nearest _ listed)
  | some best =>
    rw [result] at nearest
    obtain ⟨present, below, greatest⟩ := nearest
    have above := greatest _ listed served.1
    rw [frames, mem_live] at present
    obtain ⟨other, earlier, whole, _, rfl⟩ := present
    have size := (laid.placed other earlier whole).2.2
    have reach := served.2
    dsimp only at below above ⊢
    rw [if_neg]
    · exact ⟨_, rfl⟩
    · rw [size]
      by_cases inside : grant.Covers other.base
      · cases laid.eq_of_covers fits suffix whole inside (laid.covers_base whole)
        omega
      · unfold Covers at inside
        rw [UInt64.le_iff_toNat_le] at below above
        rw [UInt64.toNat_sub_of_le _ _ above] at inside
        rw [UInt64.toNat_sub_of_le _ _ served.1] at reach
        rw [UInt64.toNat_sub_of_le _ _ below]
        omega

end Laid

end Grant

theorem Bus.resolve_error {bus : Bus} {address : UInt64} {length : Nat} {error : AllocationError}
    (failed : bus.resolve address length = .error error) : error = .unmapped address length := by
  unfold Bus.resolve at failed
  split at failed
  · cases failed
    rfl
  · dsimp only at failed
    split at failed
    · cases failed
      rfl
    · cases failed

/-!
## What was written
-/

/-- Memory after bytes were written at an address. -/
def store (memory : UInt64 → UInt8) (address : UInt64) (bytes : ByteArray) : UInt64 → UInt8 :=
  fun place => (bytes.data[(place - address).toNat]?).getD (memory place)

/-- So many bytes of memory from an address on. -/
def bytesAt (memory : UInt64 → UInt8) (address : UInt64) (length : Nat) : List UInt8 :=
  (List.range length).map fun index => memory (address + .ofNat index)

namespace Grant

/-- The contents of all grants, also of those given back, are what was written there last. -/
structure Mirrors (bus : Bus) (grants : List Grant) (memory : UInt64 → UInt8) : Prop where
  bytes : ∀ grant older, grant :: older <:+ grants → ∀ offset < grant.size,
    (bus.extent older.length).byteAt offset = memory (grant.base + .ofNat offset)
  blank : ∀ address, (∀ grant ∈ grants, ¬ grant.Covers address) → memory address = 0

/-- A change of contents that lays bytes over them. -/
def Lays (start : Nat) (bytes : ByteArray) (change : Extent → Extent) : Prop :=
  ∀ extent : Extent, (change extent).size = extent.size ∧ ∀ offset,
    (change extent).byteAt offset = (Piece.get? ⟨start, bytes⟩ offset).getD (extent.byteAt offset)

theorem lays_write (start : Nat) (bytes : ByteArray) :
    Lays start bytes (Extent.write · start bytes) :=
  fun extent => ⟨extent.size_write start bytes, extent.byteAt_write start bytes⟩

theorem lays_clear (count : Nat) : Lays 0 (zeros count) (Extent.clear · 0 count) := by
  intro extent
  refine ⟨rfl, fun offset => ?_⟩
  rw [Extent.byteAt_clear, Piece.get?, Extent.data_zeros, Array.getElem?_replicate]
  by_cases within : offset < count
  · simp [within]
  · simp [within]

variable {base : UInt64} {bus : Bus} {grants older : List Grant} {grant : Grant}
  {memory : UInt64 → UInt8} {start : Nat} {bytes : ByteArray} {change : Extent → Extent}

theorem Laid.modify (laid : Laid base bus grants) (index : Nat) (keeping : Bus.Keeping change) :
    Laid base (bus.modify index change) grants where
  next := laid.next
  contents := by simpa only [Bus.modify, Array.size_modify] using laid.contents
  placed := by
    intro grant older suffix
    rw [Bus.size_extent_modify bus index keeping]
    exact laid.placed grant older suffix

/-- Bytes stored a way behind a base lie at their offsets from that base. -/
theorem store_add (memory : UInt64 → UInt8) (base place : UInt64)
    (fits : start + bytes.size ≤ 2 ^ 64) : store memory (base + .ofNat start) bytes place =
      (Piece.get? ⟨start, bytes⟩ (place - base).toNat).getD (memory place) := by
  have within := Bus.within_iff base place fits
  unfold store
  by_cases reaches : start ≤ (place - base).toNat
  · have bounded := (place - base).toNat_lt
    have index : (place - (base + .ofNat start)).toNat = (place - base).toNat - start := by
      rw [Bus.sub_add, UInt64.toNat_sub, UInt64.toNat_ofNat']
      omega
    rw [index, Piece.get?, if_pos reaches]
  · have missed : bytes.data.size ≤ (place - (base + .ofNat start)).toNat := by
      rw [ByteArray.size_data]
      omega
    rw [Array.getElem?_eq_none missed, Piece.get?_eq_none (.inl (Nat.lt_of_not_le reaches))]

theorem toNat_offset (base : UInt64) {offset : Nat} (bounded : offset < 2 ^ 64) :
    (base + .ofNat offset - base).toNat = offset := by
  rw [UInt64.add_comm, UInt64.add_sub_cancel, UInt64.toNat_ofNat_of_lt' bounded]

theorem Mirrors.store (laid : Laid base bus grants) (fits : spent grants ≤ 2 ^ 64)
    (mirrors : Mirrors bus grants memory) (suffix : grant :: older <:+ grants)
    (lays : Lays start bytes change) (within : start + bytes.size ≤ grant.size) :
    Mirrors (bus.modify older.length change) grants
      (store memory (grant.base + .ofNat start) bytes) := by
  have bounded := Laid.bounded fits suffix
  have present : older.length < bus.contents.size := by
    rw [laid.contents]
    exact suffix.length_le
  have missed : ∀ {place}, ¬ grant.Covers place →
      Piece.get? ⟨start, bytes⟩ (place - grant.base).toNat = none := by
    intro place outside
    refine Piece.get?_eq_none (.inr ?_)
    unfold Covers at outside
    simp only [Piece.stop]
    omega
  constructor
  · intro other earlier whole offset inside
    have reach := Laid.bounded fits whole
    have covered : other.Covers (other.base + .ofNat offset) := by
      rw [Covers, toNat_offset _ (by omega)]
      exact inside
    rw [Bus.extent_modify present, store_add _ _ _ (by omega)]
    split
    · next same =>
      have alike := List.suffix_of_suffix_length_le suffix whole
        (Nat.succ_le_succ (Nat.le_of_eq same))
      cases alike.eq_of_length (congrArg Nat.succ same)
      rw [(lays _).2, toNat_offset _ (by omega), mirrors.bytes grant older suffix offset inside]
    · next differ =>
      have outside : ¬ grant.Covers (other.base + .ofNat offset) := by
        intro both
        cases laid.eq_of_covers fits suffix whole both covered
        exact differ rfl
      rw [missed outside, Option.getD_none, mirrors.bytes other earlier whole offset inside]
  · intro place free
    have outside := free grant (suffix.subset List.mem_cons_self)
    rw [store_add _ _ _ (by omega), missed outside, Option.getD_none, mirrors.blank place free]

/-- A local view of a grant, and the address that the grant has. -/
def Viewed (grants : List Grant) (view : UInt64 × Region) : Prop :=
  ∃ grant older, grant :: older <:+ grants ∧ view.1 = grant.base ∧
    view.2.backing = .frame older.length ∧ view.2.length ≤ grant.size

/-- Bytes within a grant are read as they are remembered. -/
theorem Mirrors.read (mirrors : Mirrors bus grants memory) (suffix : grant :: older <:+ grants)
    {length : Nat} (within : start + length ≤ grant.size) :
    ((bus.extent older.length).read start length).data.toList =
      bytesAt memory (grant.base + .ofNat start) length := by
  rw [Extent.toList_read, Extent.window, bytesAt, List.range'_eq_map_range, List.map_map]
  refine List.map_congr_left fun index member => ?_
  have inside := List.mem_range.mp member
  rw [Function.comp_apply, mirrors.bytes grant older suffix _ (by omega), UInt64.ofNat_add,
    UInt64.add_assoc]

end Grant

/-!
## Handing out
-/

namespace Grant

variable {base : UInt64} {bus after : Bus} {grants : List Grant} {memory : UInt64 → UInt8}
  {number size : Nat} {frame : UInt64 × Nat}

theorem Laid.congr (laid : Laid base bus grants) (next : after.next = bus.next)
    (contents : after.contents = bus.contents) : Laid base after grants where
  next := next.trans laid.next
  contents := by rw [contents, laid.contents]
  placed := by
    intro grant older suffix
    rw [Bus.extent, contents]
    exact laid.placed grant older suffix

theorem Mirrors.congr (mirrors : Mirrors bus grants memory)
    (contents : after.contents = bus.contents) : Mirrors after grants memory where
  bytes := by
    intro grant older suffix
    rw [Bus.extent, contents]
    exact mirrors.bytes grant older suffix
  blank := mirrors.blank

theorem extent_of_insert (laid : Laid base bus grants)
    (contents : after.contents = bus.contents.push (.zeroed size)) {grant : Grant}
    {older : List Grant} (suffix : grant :: older <:+ grants) :
    after.extent older.length = bus.extent older.length := by
  refine Bus.extent_of_push contents ?_
  rw [laid.contents]
  exact suffix.length_le

theorem extent_of_last (laid : Laid base bus grants)
    (contents : after.contents = bus.contents.push (.zeroed size)) :
    after.extent grants.length = .zeroed size := by
  rw [Bus.extent, contents, ← laid.contents, Array.getD_eq_getD_getElem?,
    Array.getElem?_push_size, Option.getD_some]

theorem Laid.insert (laid : Laid base bus grants) (some_size : size ≠ 0)
    (next : after.next = bus.next + .ofNat (roundToPage size))
    (contents : after.contents = bus.contents.push (.zeroed size)) :
    Laid base after (⟨number, bus.next, size⟩ :: grants) := by
  constructor
  · rw [next, laid.next, spent_cons, UInt64.add_assoc, ← UInt64.ofNat_add, Nat.add_comm]
  · rw [contents, Array.size_push, laid.contents, List.length_cons]
  · intro grant older suffix
    rcases List.suffix_cons_iff.mp suffix with whole | suffix
    · cases whole
      rw [extent_of_last laid contents]
      exact ⟨laid.next, some_size, rfl⟩
    · rw [extent_of_insert laid contents suffix]
      exact laid.placed grant older suffix

/-- What is handed out is blank, because nobody wrote there before. -/
theorem Mirrors.insert (laid : Laid base bus grants) (mirrors : Mirrors bus grants memory)
    (some_size : size ≠ 0) (next : after.next = bus.next + .ofNat (roundToPage size))
    (contents : after.contents = bus.contents.push (.zeroed size))
    (fits : spent (⟨number, bus.next, size⟩ :: grants) ≤ 2 ^ 64) :
    Mirrors after (⟨number, bus.next, size⟩ :: grants) memory := by
  have grown : Laid base after (⟨number, bus.next, size⟩ :: grants) :=
    laid.insert some_size next contents
  constructor
  · intro grant older suffix offset inside
    rcases List.suffix_cons_iff.mp suffix with whole | earlier
    · cases whole
      have reach := Laid.bounded fits List.suffix_rfl
      have covered : Covers ⟨number, bus.next, size⟩ (bus.next + .ofNat offset) := by
        rw [Covers, toNat_offset _ (by omega)]
        exact inside
      rw [extent_of_last laid contents, Extent.byteAt_zeroed, eq_comm]
      refine mirrors.blank _ fun other member => ?_
      exact (List.pairwise_cons.mp (grown.pairwise fits)).1 other member _ covered
    · rw [extent_of_insert laid contents earlier]
      exact mirrors.bytes grant older earlier offset inside
  · intro address free
    exact mirrors.blank address (List.forall_mem_cons.mp free).2

theorem Laid.nextFree (laid : Laid base bus grants) {active : Finset Nat}
    (frames : bus.frames = live active grants) (fits : spent grants < 2 ^ 64) : bus.NextFree := by
  intro frame member same
  rw [frames, mem_live] at member
  obtain ⟨grant, older, suffix, _, rfl⟩ := member
  obtain ⟨starts, some_size, _⟩ := laid.placed grant older suffix
  have taken := spent_le_of_suffix suffix
  have rounded := Bus.le_roundToPage grant.size
  rw [spent_cons] at taken
  rw [starts, laid.next, UInt64.add_right_inj, ← UInt64.toNat_inj,
    UInt64.toNat_ofNat_of_lt' (Nat.lt_of_le_of_lt (by omega) fits),
    UInt64.toNat_ofNat_of_lt' fits] at same
  omega

theorem Viewed.cons {view : UInt64 × Region} (viewed : Viewed grants view) (latest : Grant) :
    Viewed (latest :: grants) view := by
  obtain ⟨grant, older, suffix, rest⟩ := viewed
  exact ⟨grant, older, suffix.trans (List.suffix_cons _ _), rest⟩

end Grant

end ChunkRelay
