import ChunkRelay.Proofs.Exchange.Receiving
import ChunkRelay.Proofs.Exchange.Sending

/-! How a meeting begins: with a buffer that was just acquired on the bus, a new
link, data to be read, and a writer that holds nothing yet. -/

set_option autoImplicit false

namespace ChunkRelay

structure Setup where
  host : Host
  link : Nat
  buffer : RelayBuffer
  /-- The capacity of the peer. -/
  most : Nat
  wait : Wait
  remoteWait : Wait
  reader : Reader
  writer : Writer

namespace Setup

def sending (setup : Setup) : Meeting :=
  { host := setup.host
    buffer := setup.buffer
    engine := .fresh .sender
    own := .ofEngine setup.buffer (some (.link setup.link .near)) setup.wait setup.reader .discard
    capacity := setup.most
    peer := .fresh .sink
    remote := .ofPeer setup.most (.link setup.link .far) setup.remoteWait .throughBus .empty
      setup.writer
    talk := [] }

def receiving (setup : Setup) : Meeting :=
  { host := setup.host
    buffer := setup.buffer
    engine := .fresh .receiver
    own := .ofEngine setup.buffer (some (.link setup.link .near)) setup.wait .empty setup.writer
    capacity := setup.most
    peer := .fresh .source
    remote := .ofPeer setup.most (.link setup.link .far) setup.remoteWait .throughBus setup.reader
      .discard
    talk := [] }

/-- The bus is as acquiring the buffer left it, nothing was said on the link, the reader delivers
the data, and the writer holds nothing and writes to some other place. -/
structure Arranged (setup : Setup) (before : Host) (capacity : Nat) (data : List UInt8) :
    Prop where
  acquired : ∃ after, (RelayBuffer.acquire .bus capacity).run before = (.ok setup.buffer, after) ∧
    setup.host.bus = after.bus
  linked : ∃ id, setup.host.hub.links[setup.link]? = some (.fresh id)
  delivers : setup.reader.Delivers setup.host.files data
  keeps : setup.writer.Keeps setup.host.files
  nothing : setup.writer.kept setup.host.files = []
  apart : ∀ contents, setup.reader.source? = some contents →
    setup.writer.target? ≠ some contents

/-- What a meeting that begins so does not change. -/
def arena (setup : Setup) (before : Host) (capacity : Nat) (data : List UInt8) : Arena :=
  { link := setup.link
    address := before.bus.next
    index := before.bus.contents.size
    room := capacity
    most := setup.most
    data }

namespace Arranged

variable {setup : Setup} {before : Host} {capacity : Nat} {data : List UInt8}

theorem capacity_bounds (arranged : setup.Arranged before capacity data) :
    capacity ≠ 0 ∧ capacity < addressSpace := by
  obtain ⟨after, acquired, _⟩ := arranged.acquired
  obtain ⟨positive, small, _⟩ := RelayBuffer.acquire_bus acquired
  exact ⟨positive, small⟩

theorem buffer_eq (arranged : setup.Arranged before capacity data) :
    setup.buffer = (setup.arena before capacity data).buffer := by
  obtain ⟨after, acquired, _⟩ := arranged.acquired
  exact (RelayBuffer.acquire_bus acquired).2.2.1

theorem address_eq (arranged : setup.Arranged before capacity data) :
    setup.buffer.address = before.bus.next := by
  rw [arranged.buffer_eq]
  rfl

theorem isolated (arranged : setup.Arranged before capacity data) {base : UInt64} {spent : Nat}
    (history : before.bus.History base spent) (fits : spent < 2 ^ 64) :
    setup.host.bus.Isolated before.bus.next := by
  obtain ⟨after, acquired, same⟩ := arranged.acquired
  rw [same]
  exact RelayBuffer.acquire_isolated history fits acquired

theorem placed (arranged : setup.Arranged before capacity data) {quiet stopped : Prop}
    (isolated : ¬ quiet → setup.host.bus.Isolated before.bus.next) :
    Placed (setup.arena before capacity data) (¬ quiet) setup.host.bus setup.buffer stopped := by
  obtain ⟨after, acquired, same⟩ := arranged.acquired
  have holds := RelayBuffer.acquire_holds acquired
  rw [← same] at holds
  exact
    { present := holds.present
      size := holds.size
      held := .inl ⟨arranged.buffer_eq, holds, isolated⟩ }

theorem sending (arranged : setup.Arranged before capacity data) {quiet : Prop}
    (isolated : ¬ quiet → setup.host.bus.Isolated before.bus.next)
    (calm : quiet → setup.reader.Unfailing ∧ setup.writer.Accepting) :
    Sending.Goes (setup.arena before capacity data) quiet setup.sending := by
  obtain ⟨id, linked⟩ := arranged.linked
  refine ⟨.preparing, 0, .fresh, .fresh, setup.host.bus, setup.host.files, .fresh id, ?_⟩
  exact
    { engine := rfl
      peer := rfl
      scene := ⟨rfl, rfl, linked⟩
      most := rfl
      handover := by
        have fresh := Handover.fresh (setup.arena before capacity data).sending
          ((setup.arena before capacity data).SendingUpset quiet)
        rw [← arranged.nothing] at fresh
        exact fresh
      near := .inl ⟨rfl, rfl⟩
      far := .inl ⟨rfl, rfl⟩
      placed := arranged.placed isolated
      stage := congrArg Stage.relay arranged.buffer_eq
      sent := by simp [Sender.fresh, Progress.none, Terms.before]
      supplied := by
        show setup.reader.Delivers setup.host.files (data.drop (0 * capacity))
        rw [Nat.zero_mul]
        exact arranged.delivers
      shown := by simp
      taken := by simp [Sink.fresh, Progress.none, Terms.before, Course.counted]
      memory := rfl
      scratch := ⟨_, rfl, trivial⟩
      keeps := arranged.keeps
      apart := arranged.apart
      calm
      admitted := .inl ⟨rfl, .inl rfl⟩
      blame := by simp [Sender.fresh, Sink.fresh, SenderPhase.giver] }

theorem receiving (arranged : setup.Arranged before capacity data) {quiet : Prop}
    (isolated : ¬ quiet → setup.host.bus.Isolated before.bus.next)
    (calm : quiet → setup.reader.Unfailing ∧ setup.writer.Accepting) :
    Receiving.Goes (setup.arena before capacity data) quiet setup.receiving := by
  obtain ⟨id, linked⟩ := arranged.linked
  refine ⟨.preparing, 0, false, .fresh, .fresh, setup.host.bus, setup.host.files, .fresh id, [],
    ?_⟩
  exact
    { engine := rfl
      peer := rfl
      scene := ⟨rfl, rfl, linked⟩
      handover := by
        have fresh := Handover.fresh (setup.arena before capacity data).receiving
          ((setup.arena before capacity data).ReceivingUpset quiet)
        rw [← arranged.nothing] at fresh
        exact fresh
      said := rfl
      greeted := fun _ => rfl
      untouched := fun _ => ⟨rfl, rfl, .inl rfl⟩
      near := .inl ⟨rfl, rfl⟩
      far := .inl ⟨rfl, rfl⟩
      placed := arranged.placed isolated
      stage := congrArg Stage.relay arranged.buffer_eq
      taken := by simp [Receiver.fresh, Progress.none, Terms.before, Course.counted]
      works := rfl
      sent := by simp [Source.fresh, Progress.none, Terms.before]
      memory := rfl
      scratch := by
        refine ⟨.zeroed setup.most, rfl, rfl, ?_⟩
        show setup.reader.Delivers setup.host.files (data.drop (0 * setup.most))
        rw [Nat.zero_mul]
        exact arranged.delivers
      shown := by simp
      keeps := arranged.keeps
      apart := arranged.apart
      calm
      admitted := .inl ⟨rfl, rfl⟩
      blame := by simp [Receiver.fresh, Source.fresh, ReceiverPhase.taker] }

theorem sendingFits (arranged : setup.Arranged before capacity data) :
    (setup.arena before capacity data).SendingFits where
  positive := arranged.capacity_bounds.1
  small := arranged.capacity_bounds.2

theorem receivingFits (arranged : setup.Arranged before capacity data) (positive : setup.most ≠ 0) :
    (setup.arena before capacity data).ReceivingFits where
  positive
  small := arranged.capacity_bounds.2

end Arranged

/-- Three bytes that are to go through a buffer on a new bus. -/
def small (capacity most : Nat) : Setup :=
  { host :=
      { ((RelayBuffer.acquire .bus capacity).run (.fresh 0 Bus.defaultBase .empty)).2 with
        hub := (Hub.empty.join default).2 }
    link := 0
    buffer := .onBus Bus.defaultBase 0 capacity
    most
    wait := .atMost ⟨1⟩
    remoteWait := .atMost ⟨1⟩
    reader := .script [.data ⟨#[1, 2, 3]⟩] (some 1)
    writer := .script [.take 1] none .empty }

theorem small_arranged (most : Nat) :
    (small 2 most).Arranged (.fresh 0 Bus.defaultBase .empty) 2 [1, 2, 3] where
  acquired := ⟨_, rfl, rfl⟩
  linked := ⟨default, rfl⟩
  delivers := ⟨trivial, rfl⟩
  keeps := trivial
  nothing := rfl
  apart := by
    intro contents reads
    cases reads

theorem small_unfailing (capacity most : Nat) : (small capacity most).reader.Unfailing := by
  intro cause member
  cases List.mem_singleton.mp member

theorem small_accepting (capacity most : Nat) : (small capacity most).writer.Accepting := by
  refine ⟨rfl, fun count member => ?_, fun cause member => ?_⟩
  · cases List.mem_singleton.mp member
    decide
  · cases List.mem_singleton.mp member

end Setup

/-- So many acts of each party, in turns. -/
def Move.turns : List (Nat × Nat) → List Move
  | [] => []
  | (near, far) :: rest =>
    List.replicate near (.act .near) ++ List.replicate far (.act .far) ++ turns rest

end ChunkRelay
