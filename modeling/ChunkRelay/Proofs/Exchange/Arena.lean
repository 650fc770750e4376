import ChunkRelay.Proofs.Exchange.Handover
import ChunkRelay.Proofs.Exchange.Meeting
import ChunkRelay.Proofs.Memory.History

/-! What both kinds of meetings have in common: the place of the buffer on the
bus, the ends of the link, and what becomes of both when a party stops. -/

set_option autoImplicit false

namespace ChunkRelay

/-- What a meeting does not change: its link, the place of its buffer, the capacities of the buffer
and of the peer, and the data. -/
structure Arena where
  link : Nat
  address : UInt64
  index : Nat
  room : Nat
  most : Nat
  data : List UInt8

namespace Arena

def sending (arena : Arena) : Terms :=
  { data := arena.data, size := arena.room, side := .near
    offer := fun length => .dataReady arena.address (.ofNat length) }

def receiving (arena : Arena) : Terms :=
  { data := arena.data, size := arena.most, side := .far
    offer := fun length => .writeDone arena.address (.ofNat length) }

def buffer (arena : Arena) : RelayBuffer :=
  .onBus arena.address arena.index arena.room

end Arena

/-- The end of a link is in use, or a party that has stopped has taken it away. -/
def Attached (link : Nat) (side : Side) (ends : Link) (transport : Option Transport)
    (stopped : Prop) : Prop :=
  (ends.atSide side).status = .opened ∧ transport = some (.link link side) ∨
    (ends.atSide side).status = .gone ∧ transport = none ∧ stopped

theorem Attached.opened {link : Nat} {side : Side} {ends : Link} {transport : Option Transport}
    {stopped : Prop} (attached : Attached link side ends transport stopped)
    (running : ¬ stopped) :
    (ends.atSide side).status = .opened ∧ transport = some (.link link side) :=
  attached.resolve_right fun left => running left.2.2

theorem Attached.stopped_of_gone {link : Nat} {side : Side} {ends : Link}
    {transport : Option Transport} {stopped : Prop}
    (attached : Attached link side ends transport stopped)
    (gone : (ends.atSide side).status ≠ .opened) : stopped := by
  rcases attached with held | left
  · exact absurd held.1 gone
  · exact left.2.2

theorem Attached.mono {link : Nat} {side : Side} {ends : Link} {transport : Option Transport}
    {stopped later : Prop} (attached : Attached link side ends transport stopped)
    (stays : stopped → later) : Attached link side ends transport later :=
  attached.imp_right fun left => ⟨left.1, left.2.1, stays left.2.2⟩

/-- The buffer has its place on the bus, or it was given back after its party had stopped and
nothing is found at its address any more. -/
structure Placed (arena : Arena) (noisy : Prop) (bus : Bus) (buffer : RelayBuffer)
    (stopped : Prop) : Prop where
  present : arena.index < bus.contents.size
  size : (bus.extent arena.index).size = arena.room
  held : (buffer = arena.buffer ∧ bus.Holds arena.address arena.index arena.room ∧
      (noisy → bus.Isolated arena.address)) ∨
    (buffer = { arena.buffer with holding := none } ∧ stopped ∧
      (noisy → ∀ length, length ≠ 0 →
        bus.resolve arena.address length = .error (.unmapped arena.address length)))

namespace Placed

variable {arena : Arena} {noisy : Prop} {bus : Bus} {buffer : RelayBuffer} {stopped : Prop}

theorem address (placed : Placed arena noisy bus buffer stopped) :
    buffer.address = arena.address := by
  rcases placed.held with held | released
  · rw [held.1]
    rfl
  · rw [released.1]
    rfl

theorem capacity (placed : Placed arena noisy bus buffer stopped) :
    buffer.capacity = arena.room := by
  rcases placed.held with held | released
  · rw [held.1]
    rfl
  · rw [released.1]
    rfl

theorem mono {later : Prop} (placed : Placed arena noisy bus buffer stopped)
    (stays : stopped → later) : Placed arena noisy bus buffer later where
  present := placed.present
  size := placed.size
  held := placed.held.imp_right fun released => ⟨released.1, stays released.2.1, released.2.2⟩

theorem modify (placed : Placed arena noisy bus buffer stopped) (index : Nat)
    {change : Extent → Extent} (keeping : Bus.Keeping change) :
    Placed arena noisy (bus.modify index change) buffer stopped where
  present := by simpa only [Bus.modify, Array.size_modify] using placed.present
  size := by rw [Bus.size_extent_modify bus index keeping, placed.size]
  held := by
    rcases placed.held with ⟨same, holds, isolated⟩ | ⟨same, after, unmapped⟩
    · exact .inl ⟨same, holds.modify index keeping,
        fun wrong => (isolated wrong).modify index keeping⟩
    · refine .inr ⟨same, after, fun wrong length some_length => ?_⟩
      rw [Bus.resolve_modify bus index keeping]
      exact unmapped wrong length some_length

/-- Bytes at the address of the buffer are bytes of the buffer, as long as nothing goes wrong. -/
theorem resolve (placed : Placed arena noisy bus buffer stopped) {length : Nat}
    (some_length : length ≠ 0) (fits : length ≤ arena.room) :
    bus.resolve arena.address length = .ok (arena.index, 0) ∨
      stopped ∧ (noisy →
        bus.resolve arena.address length = .error (.unmapped arena.address length)) := by
  rcases placed.held with ⟨_, holds, _⟩ | ⟨_, after, unmapped⟩
  · left
    rw [holds.resolve, if_neg (Nat.not_lt_of_le fits)]
  · exact .inr ⟨after, fun wrong => unmapped wrong length some_length⟩

/-- More bytes than the buffer has room for are never found at its address. -/
theorem unmapped (placed : Placed arena noisy bus buffer stopped) {length : Nat}
    (large : arena.room < length) :
    bus.resolve arena.address length = .error (.unmapped arena.address length) ∨
      stopped ∧ (noisy →
        bus.resolve arena.address length = .error (.unmapped arena.address length)) := by
  rcases placed.held with ⟨_, holds, _⟩ | ⟨_, after, unmapped⟩
  · left
    rw [holds.resolve, if_pos large]
  · refine .inr ⟨after, fun wrong => unmapped wrong length ?_⟩
    exact Nat.ne_of_gt (Nat.lt_of_le_of_lt (Nat.zero_le _) large)

theorem release (placed : Placed arena noisy bus buffer stopped) (after : stopped)
    (held : buffer.holding.isSome) :
    buffer = arena.buffer ∧
      Placed arena noisy (bus.without arena.address) { arena.buffer with holding := none }
        stopped := by
  rcases placed.held with ⟨rfl, holds, isolated⟩ | ⟨rfl, _, _⟩
  · refine ⟨rfl, placed.present, placed.size, .inr ⟨rfl, after, fun wrong length some_length => ?_⟩⟩
    exact (isolated wrong).resolve_remove some_length
  · cases held

end Placed

end ChunkRelay
