import ChunkRelay.Memory.Addressed
import ChunkRelay.Proofs.Memory.Lookup
import ChunkRelay.Transfer.Advance

/-! What a station on an in-process link answers. A transfer sees three parts
of its host: the bus, the files and the link. Each request changes them as told
here; what else it does to the host, such as writing notices, no party sees. -/

set_option autoImplicit false

namespace ChunkRelay

/-- What a transfer over a link sees of a host. -/
structure Scene (link : Nat) (bus : Bus) (files : FileTree) (ends : Link) (host : Host) : Prop where
  bus : host.bus = bus
  files : host.files = files
  link : host.hub.links[link]? = some ends

namespace Link

/-- A link with one more message from a side on its way. -/
def queued (link : Link) (side : Side) (message : Message) : Link :=
  link.setSide side.other
    { link.atSide side.other with inbox := (link.atSide side.other).inbox ++ [message] }

/-- A link on which so much is left on its way to a side. -/
def leaving (link : Link) (side : Side) (rest : List Message) : Link :=
  link.setSide side { link.atSide side with inbox := rest }

theorem send_ok {link : Link} {side : Side} (opened : (link.atSide side).status = .opened)
    (present : (link.atSide side.other).status ≠ .gone) (message : Message) :
    link.send side message = (.ok (), link.queued side message) := by
  simp [Link.send, isOpen, opened, present, queued]

theorem send_gone {link : Link} {side : Side} (gone : (link.atSide side.other).status = .gone)
    (message : Message) : link.send side message = (.error .closed, link) := by
  simp [Link.send, gone]

theorem receive_cons {link : Link} {side : Side} (opened : (link.atSide side).status = .opened)
    {message : Message} {rest : List Message}
    (found : (link.atSide side).inbox = message :: rest) :
    link.receive side = (some (.ok message), link.leaving side rest) := by
  simp [receive, isOpen, opened, found, leaving]

theorem receive_nil {link : Link} {side : Side} (opened : (link.atSide side).status = .opened)
    (nothing : (link.atSide side).inbox = []) :
    link.receive side =
      (if (link.atSide side.other).status = .opened then none else some (.error .closed), link) := by
  by_cases other : (link.atSide side.other).status = .opened <;>
    simp [receive, isOpen, opened, nothing, other]

theorem receive_error {link : Link} {side : Side} {error : ChannelError}
    (refused : (link.receive side).1 = some (.error error)) : error = .closed := by
  unfold receive at refused
  dsimp only at refused
  split at refused
  · cases refused
    rfl
  · split at refused
    · cases refused
    · split at refused
      · cases refused
      · cases refused
        rfl

theorem receive_none {link : Link} {side : Side} (nothing : (link.receive side).1 = none) :
    (link.receive side).2 = link ∧ (link.atSide side).inbox = [] := by
  unfold receive at nothing ⊢
  dsimp only at nothing ⊢
  split at nothing
  · cases nothing
  · split at nothing
    · cases nothing
    · next empty =>
      split at nothing
      · simp_all
      · cases nothing

/-- As long as a side waits, the other end is held. -/
theorem opened_of_receive_none {link : Link} {side : Side}
    (nothing : (link.receive side).1 = none) : (link.atSide side.other).status = .opened := by
  have opened : (link.atSide side).status = .opened := by
    by_contra gone
    simp [receive, isOpen, gone] at nothing
  rw [receive_nil opened (receive_none nothing).2] at nothing
  by_contra other
  rw [if_neg other] at nothing
  cases nothing

end Link

theorem setIfInBounds_eq_self {α : Type} {values : Array α} {place : Nat} {value : α}
    (present : values[place]? = some value) : values.setIfInBounds place value = values := by
  obtain ⟨inside, rfl⟩ := Array.getElem?_eq_some_iff.mp present
  rw [Array.setIfInBounds_def, dif_pos inside, Array.set_getElem_self]

theorem Hub.receive_none {hub : Hub} {link : Nat} {side : Side}
    (nothing : (hub.receive link side).1 = none) : (hub.receive link side).2 = hub := by
  unfold Hub.receive at nothing ⊢
  split at nothing
  · cases nothing
  · next ends present =>
    dsimp only
    rw [(Link.receive_none nothing).1, setIfInBounds_eq_self present]

theorem Hub.receive_error {hub : Hub} {link : Nat} {side : Side} {error : ChannelError}
    (refused : (hub.receive link side).1 = some (.error error)) : error = .closed := by
  unfold Hub.receive at refused
  split at refused
  · cases refused
    rfl
  · exact Link.receive_error refused

theorem Hub.send_present {hub : Hub} {link : Nat} {ends : Link}
    (present : hub.links[link]? = some ends) (side : Side) (message : Message) :
    (hub.send link side message).1 = (ends.send side message).1 ∧
      (hub.send link side message).2.links[link]? = some (ends.send side message).2 := by
  have inside := (Array.getElem?_eq_some_iff.mp present).1
  simp [Hub.send, present, Array.getElem?_setIfInBounds_self_of_lt inside]

theorem Hub.receive_present {hub : Hub} {link : Nat} {ends : Link}
    (present : hub.links[link]? = some ends) (side : Side) :
    (hub.receive link side).1 = (ends.receive side).1 ∧
      (hub.receive link side).2.links[link]? = some (ends.receive side).2 := by
  have inside := (Array.getElem?_eq_some_iff.mp present).1
  simp [Hub.receive, present, Array.getElem?_setIfInBounds_self_of_lt inside]

theorem Hub.drop_present {hub : Hub} {link : Nat} {ends : Link}
    (present : hub.links[link]? = some ends) (side : Side) :
    (hub.drop link side).links[link]? = some (ends.setSide side ⟨.gone, []⟩) := by
  have closed : (hub.close link side).links[link]? = some (ends.close side) := by
    cases side with
    | near =>
      simp only [Hub.close, Hub.release]
      split <;> simp [Array.getElem?_modify, present]
    | far => simp [Hub.close, Array.getElem?_modify, present]
  simp only [Hub.drop, Array.getElem?_modify, closed, ↓reduceIte, Option.map_some]
  unfold Link.close Link.drop
  split
  · cases side <;> rfl
  · rfl

namespace Station

variable {station : Station} {host : Host} {link : Nat} {bus : Bus} {files : FileTree}
  {ends : Link} {address : UInt64} {index capacity : Nat} {contents : Extent} {side : Side}

/-!
## The stage
-/

section Relay

variable (scene : Scene link bus files ends host)
  (stage : station.stage = .relay (.onBus address index capacity))
include scene stage

theorem answer_clear_relay :
    ∃ after, (station.answer .clear).run host = ((some (), station), after) ∧
      Scene link (bus.modify index (Extent.clear · 0 capacity)) files ends after := by
  obtain ⟨kind, transport, wait, memory, reader, writer⟩ := station
  subst stage
  refine ⟨_, rfl, ?_, scene.files, scene.link⟩
  rw [← scene.bus]
  rfl

theorem answer_fill_relay :
    ∃ after, (station.answer .fill).run host =
        ((some ((station.reader.fill files capacity).outcome.map fun _ =>
            (station.reader.fill files capacity).bytes.size),
          { station with reader := (station.reader.fill files capacity).reader }), after) ∧
      Scene link
        (bus.modify index (Extent.write · 0 (station.reader.fill files capacity).bytes))
        files ends after := by
  obtain ⟨kind, transport, wait, memory, reader, writer⟩ := station
  subst stage
  rw [← scene.files, ← scene.bus]
  exact ⟨_, rfl, rfl, rfl, scene.link⟩

theorem answer_drain_relay (length : Nat) :
    ∃ after, (station.answer (.drain length)).run host =
        ((some (station.writer.put files ((bus.extent index).read 0 length)).outcome,
          { station with
            writer := (station.writer.put files ((bus.extent index).read 0 length)).writer }),
          after) ∧
      Scene link bus (station.writer.put files ((bus.extent index).read 0 length)).files ends
        after := by
  obtain ⟨kind, transport, wait, memory, reader, writer⟩ := station
  subst stage
  rw [← scene.files, ← scene.bus]
  exact ⟨_, rfl, rfl, rfl, scene.link⟩

end Relay

section Scratch

variable (scene : Scene link bus files ends host) (stage : station.stage = .scratch contents)
include scene stage

theorem answer_fill_scratch :
    ∃ after, (station.answer .fill).run host =
        ((some ((station.reader.fill files contents.size).outcome.map fun _ =>
            (station.reader.fill files contents.size).bytes.size),
          { station with
            stage := .scratch
              (contents.write 0 (station.reader.fill files contents.size).bytes)
            reader := (station.reader.fill files contents.size).reader }), after) ∧
      Scene link bus files ends after := by
  obtain ⟨kind, transport, wait, memory, reader, writer⟩ := station
  subst stage
  rw [← scene.files]
  exact ⟨_, rfl, scene.bus, rfl, scene.link⟩

theorem answer_drain_scratch (length : Nat) :
    ∃ after, (station.answer (.drain length)).run host =
        ((some (station.writer.put files (contents.read 0 length)).outcome,
          { station with
            writer := (station.writer.put files (contents.read 0 length)).writer }), after) ∧
      Scene link bus (station.writer.put files (contents.read 0 length)).files ends after := by
  obtain ⟨kind, transport, wait, memory, reader, writer⟩ := station
  subst stage
  rw [← scene.files]
  exact ⟨_, rfl, scene.bus, rfl, scene.link⟩

theorem answer_fetch (memory : station.memory = .throughBus) (address : UInt64) (length : Nat) :
    match bus.read address length with
    | .error error => (station.answer (.fetch address length)).run host =
        ((some (.error error), station), host)
    | .ok bytes => (station.answer (.fetch address length)).run host =
        ((some (.ok ()), { station with stage := .scratch (contents.write 0 bytes) }), host) := by
  obtain ⟨kind, transport, wait, _, reader, writer⟩ := station
  subst stage memory
  have looked : (AddressedMemory.throughBus.read address length host) = bus.read address length := by
    rw [← scene.bus]
    rfl
  cases found : bus.read address length with
  | error error =>
    rw [found] at looked
    simp only [answer, answerFetch, StateT.run_bind, StateT.run_get, pure_bind, looked]
    rfl
  | ok bytes =>
    rw [found] at looked
    simp only [answer, answerFetch, StateT.run_bind, StateT.run_get, pure_bind, looked]
    rfl

theorem answer_place (memory : station.memory = .throughBus) (address : UInt64) (length : Nat) :
    match bus.write address (contents.read 0 length) with
    | .error error => (station.answer (.place address length)).run host =
        ((some (.error error), station), host)
    | .ok changed => ∃ after, (station.answer (.place address length)).run host =
        ((some (.ok ()), station), after) ∧ Scene link changed files ends after := by
  obtain ⟨kind, transport, wait, _, reader, writer⟩ := station
  subst stage memory
  obtain ⟨rfl, rfl, present⟩ := scene
  cases placed : host.bus.write address (contents.read 0 length) with
  | error error =>
    simp only [answer, answerPlace, Stage.front, AddressedMemory.write, StateT.run_bind,
      StateT.run_get, pure_bind, placed]
    rfl
  | ok changed =>
    refine ⟨{ host with bus := changed }, ?_, rfl, rfl, present⟩
    simp only [answer, answerPlace, Stage.front, AddressedMemory.write, StateT.run_bind,
      StateT.run_get, pure_bind, placed]
    rfl

end Scratch

theorem transport_answer {next : Station} {request : Request} {answer? : Option request.Answer}
    {after : Host}
    (answered : (station.answer request).run host = ((answer?, next), after)) :
    next.transport = station.transport := by
  have kept : ((station.answer request).run host).1.2.transport = station.transport := by
    cases request with
    | fetch address length =>
      simp only [answer, answerFetch, StateT.run_bind, StateT.run_get, pure_bind]
      cases station.memory.read address length host <;> rfl
    | _ => rfl
  rw [answered] at kept
  exact kept

theorem answer_flush (station : Station) (host : Host) :
    (station.answer .flush).run host = ((some station.writer.flush, station), host) := rfl

/-!
## The link
-/

section Link

variable (scene : Scene link bus files ends host)
  (transport : station.transport = some (.link link side))
include scene transport

theorem answer_send (message : Message) :
    ∃ after, (station.answer (.send message)).run host =
        ((some (ends.send side message).1, station), after) ∧
      Scene link bus files (ends.send side message).2 after := by
  obtain ⟨stage, _, wait, memory, reader, writer⟩ := station
  subst transport
  obtain ⟨rfl, rfl, present⟩ := scene
  obtain ⟨result, sent⟩ := Hub.send_present present side message
  have shown : ∀ notices, Scene link host.bus host.files (ends.send side message).2
      { host with hub := (host.hub.send link side message).2, notices } :=
    fun _ => ⟨rfl, rfl, sent⟩
  rw [← result]
  by_cases opened : host.hub.isOpen link side
  · refine ⟨_, ?_, shown ?told⟩
    simp only [answer, answerSend, Transport.send, StateT.run_bind, StateT.run_get, pure_bind,
      opened, ↓reduceIte]
    rfl
  · refine ⟨_, ?_, shown ?untold⟩
    simp only [answer, answerSend, Transport.send, StateT.run_bind, StateT.run_get, pure_bind,
      opened, Bool.false_eq_true, ↓reduceIte]
    rfl

theorem answer_receive :
    ∃ after, (station.answer .receive).run host = (((ends.receive side).1, station), after) ∧
      Scene link bus files (ends.receive side).2 after := by
  obtain ⟨stage, _, wait, memory, reader, writer⟩ := station
  subst transport
  obtain ⟨rfl, rfl, present⟩ := scene
  obtain ⟨result, received⟩ := Hub.receive_present present side
  have shown : ∀ notices, Scene link host.bus host.files (ends.receive side).2
      { host with hub := (host.hub.receive link side).2, notices } :=
    fun _ => ⟨rfl, rfl, received⟩
  rw [← result]
  cases heard : (host.hub.receive link side).1 with
  | none =>
    refine ⟨_, ?_, shown ?waiting⟩
    simp only [answer, answerReceive, Transport.poll, StateT.run_bind, StateT.run_get, pure_bind,
      heard]
    rfl
  | some found =>
    cases found with
    | error error =>
      refine ⟨_, ?_, shown ?refused⟩
      simp only [answer, answerReceive, Transport.poll, StateT.run_bind, StateT.run_get, pure_bind,
        heard]
      rfl
    | ok message =>
      refine ⟨_, ?_, shown ?heard⟩
      simp only [answer, answerReceive, Transport.poll, StateT.run_bind, StateT.run_get, pure_bind,
        heard]
      rfl

end Link

/-- Only what is said and heard goes through the hub and the wires. -/
theorem answer_channels {next : Station} {request : Request} {answer? : Option request.Answer}
    {after : Host} (answered : (station.answer request).run host = ((answer?, next), after))
    (unsaid : ∀ message, request ≠ .send message) (unheard : request ≠ .receive) :
    after.hub = host.hub ∧ after.wires = host.wires := by
  have kept : ((station.answer request).run host).2.hub = host.hub ∧
      ((station.answer request).run host).2.wires = host.wires := by
    obtain ⟨stage, transport, wait, memory, reader, writer⟩ := station
    cases request with
    | send message => exact absurd rfl (unsaid message)
    | receive => exact absurd rfl unheard
    | flush => exact ⟨rfl, rfl⟩
    | clear | fill | drain length =>
      cases stage with
      | scratch contents => exact ⟨rfl, rfl⟩
      | relay buffer =>
        obtain ⟨_ | ⟨⟨_ | _, length⟩, handle⟩, address, capacity⟩ := buffer <;> exact ⟨rfl, rfl⟩
    | fetch address length =>
      simp only [answer, answerFetch, StateT.run_bind, StateT.run_get, pure_bind]
      cases memory.read address length host with
      | error error => exact ⟨rfl, rfl⟩
      | ok bytes =>
        cases stage with
        | scratch contents => exact ⟨rfl, rfl⟩
        | relay buffer =>
          obtain ⟨_ | ⟨⟨_ | _, length⟩, handle⟩, address, capacity⟩ := buffer <;> exact ⟨rfl, rfl⟩
    | place address length =>
      simp only [answer, answerPlace, AddressedMemory.write, StateT.run_bind, StateT.run_get,
        pure_bind]
      cases memory with
      | throughBus =>
        dsimp only
        cases host.bus.write address (stage.front length host) <;> exact ⟨rfl, rfl⟩
      | throughSegments directory =>
        dsimp only
        cases host.files.resolveSegment directory address (stage.front length host).size <;>
          exact ⟨rfl, rfl⟩
  rw [answered] at kept
  exact kept

end Station

/-!
## Reports
-/

theorem report_run (notices : List Notice) (host : Host) :
    ∃ written, (report notices).run host = ((), { host with notices := written }) := by
  induction notices generalizing host with
  | nil => exact ⟨host.notices, rfl⟩
  | cons notice rest ih =>
    obtain ⟨written, ran⟩ := ih { host with
      notices := host.notices.push ⟨notice.level, notice.text, notice.fields⟩ }
    exact ⟨written, ran⟩

end ChunkRelay
