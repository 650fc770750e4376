import ChunkRelay.Proofs.Channel.Dialogue
import ChunkRelay.Proofs.Message.Codec

/-! A link and a wire answer alike. What a wire carries as bytes is, frame by
frame, what a link carries as messages; so as long as ends are only dropped and
never just closed, nobody can tell one kind of transport from the other. -/

set_option autoImplicit false

namespace ChunkRelay

/-!
## Wires
-/

namespace Wire

theorem atSide_setSide (wire : Wire) (side other : Side) (value : SocketEnd) :
    (wire.setSide side value).atSide other =
      if other = side then value else wire.atSide other := by
  cases side <;> cases other <;> rfl

theorem atSide_drop (wire : Wire) (side other : Side) :
    (wire.drop side).atSide other =
      if other = side then ⟨[], true, true, false⟩
      else { wire.atSide other with
        readEnded := true
        writeEnded := true
        reset := (wire.atSide other).reset || !(wire.atSide side).inbox.isEmpty } := by
  cases side <;> cases other <;> rfl

end Wire

theorem changeWire_getD {α : Type} (number : Nat) (act : Wire → α × Wire) (host : Host) :
    (changeWire number act).run host =
      ((act (host.wires.getD number .fresh)).1,
        { host with
          wires := host.wires.setIfInBounds number (act (host.wires.getD number .fresh)).2 }) :=
  rfl

theorem changeWire_eq {α : Type} {number : Nat} {wire : Wire} {host : Host}
    (present : host.wires[number]? = some wire) (act : Wire → α × Wire) :
    (changeWire number act).run host =
      ((act wire).1, { host with wires := host.wires.setIfInBounds number (act wire).2 }) := by
  have found : host.wires.getD number .fresh = wire := by
    rw [Array.getD_eq_getD_getElem?, present, Option.getD_some]
  rw [changeWire_getD, found]

theorem changeWire_run {α : Type} {number : Nat} {wire : Wire} {host : Host}
    (present : host.wires[number]? = some wire) (act : Wire → α × Wire) :
    ∃ after, (changeWire number act).run host = ((act wire).1, after) ∧
      after.wires[number]? = some (act wire).2 :=
  ⟨_, changeWire_eq present act,
    Array.getElem?_setIfInBounds_self_of_lt (Array.getElem?_eq_some_iff.mp present).1⟩

theorem Message.length_encode (port : UInt32) (message : Message) :
    (message.encode port).length = frameLength := by
  simp [encode, frameLength]

/-- The bytes that carry these messages. -/
def frames (port : UInt32) (messages : List Message) : List UInt8 :=
  messages.flatMap (·.encode port)

theorem take_frames (port : UInt32) (message : Message) (rest : List Message) :
    (frames port (message :: rest)).take frameLength = message.encode port :=
  List.take_left' (message.length_encode port)

theorem drop_frames (port : UInt32) (message : Message) (rest : List Message) :
    (frames port (message :: rest)).drop frameLength = frames port rest :=
  List.drop_left' (message.length_encode port)

theorem frameLength_le (port : UInt32) (message : Message) (rest : List Message) :
    frameLength ≤ (frames port (message :: rest)).length := by
  rw [frames, List.flatMap_cons, List.length_append, message.length_encode port]
  exact Nat.le_add_right _ _

/-- A wire that carries as frames what a link carries as messages. Its ends have heard that the
other one is gone just if it is. -/
structure Wire.Carries (port : UInt32) (ends : Link) (wire : Wire) : Prop where
  unclosed (side : Side) : (ends.atSide side).status ≠ .closed
  inbox {side : Side} : (ends.atSide side).status ≠ .gone →
    (wire.atSide side).inbox = frames port (ends.atSide side).inbox
  readEnded {side : Side} : (ends.atSide side).status ≠ .gone →
    ((wire.atSide side).readEnded = true ↔ (ends.atSide side.other).status = .gone)
  writeEnded {side : Side} : (ends.atSide side).status ≠ .gone →
    ((wire.atSide side).writeEnded = true ↔ (ends.atSide side.other).status = .gone)
  reset {side : Side} : (ends.atSide side).status ≠ .gone →
    (wire.atSide side).reset = true → (ends.atSide side.other).status = .gone

theorem Link.setSide_atSide (link : Link) (side : Side) :
    link.setSide side (link.atSide side) = link := by
  cases side <;> rfl

namespace Wire

variable {port : UInt32} {ends : Link} {wire : Wire} {side : Side}

/-- Messages may come and go at an end as long as it stays how it stands. -/
theorem Carries.update (carries : wire.Carries port ends) {socket : SocketEnd} {rest : LinkEnd}
    (status : rest.status = (ends.atSide side).status)
    (readEnded : socket.readEnded = (wire.atSide side).readEnded)
    (writeEnded : socket.writeEnded = (wire.atSide side).writeEnded)
    (reset : socket.reset = true → (wire.atSide side).reset = true)
    (inbox : rest.status ≠ .gone → socket.inbox = frames port rest.inbox) :
    (wire.setSide side socket).Carries port (ends.setSide side rest) := by
  have stands : ∀ other, ((ends.setSide side rest).atSide other).status =
      (ends.atSide other).status := by
    intro other
    rw [Link.atSide_setSide]
    split
    · next same => rw [status, same]
    · rfl
  constructor
  · intro other
    rw [stands]
    exact carries.unclosed other
  · intro other there
    rw [stands] at there
    rw [atSide_setSide, Link.atSide_setSide]
    split
    · next same =>
      subst same
      exact inbox (status ▸ there)
    · exact carries.inbox there
  · intro other there
    rw [stands] at there ⊢
    rw [← carries.readEnded there, atSide_setSide]
    split
    · next same => rw [readEnded, same]
    · rfl
  · intro other there
    rw [stands] at there ⊢
    rw [← carries.writeEnded there, atSide_setSide]
    split
    · next same => rw [writeEnded, same]
    · rfl
  · intro other there broken
    rw [stands] at there ⊢
    apply carries.reset there
    rw [atSide_setSide] at broken
    split at broken
    · next same =>
      rw [same]
      exact reset broken
    · exact broken

theorem Carries.fresh (port : UInt32) (id : ChannelId) : Wire.fresh.Carries port (.fresh id) := by
  constructor <;> intro side <;> cases side <;> simp [Link.fresh, Link.atSide, Wire.fresh,
    Wire.atSide, SocketEnd.fresh, frames, Side.other]

theorem Carries.opened (carries : wire.Carries port ends)
    (there : (ends.atSide side).status ≠ .gone) : (ends.atSide side).status = .opened := by
  have unclosed := carries.unclosed side
  cases status : (ends.atSide side).status with
  | opened => rfl
  | closed => exact absurd status unclosed
  | gone => exact absurd status there

theorem Carries.write (carries : wire.Carries port ends)
    (there : (ends.atSide side).status ≠ .gone) (message : Message) :
    ((wire.write side (message.encode port)).1.mapError fun _ => ChannelError.closed) =
        (ends.send side message).1 ∧
      (wire.write side (message.encode port)).2.Carries port (ends.send side message).2 := by
  have framed : (message.encode port).isEmpty = false := rfl
  unfold Wire.write
  rw [framed, if_neg (by decide)]
  by_cases away : (ends.atSide side.other).status = .gone
  · rw [if_pos ((carries.writeEnded there).mpr away), Link.send_gone away]
    exact ⟨rfl, carries⟩
  · rw [if_neg (mt (carries.writeEnded there).mp away), Link.send_ok (carries.opened there) away]
    refine ⟨rfl, carries.update rfl rfl rfl id fun _ => ?_⟩
    simp [carries.inbox away, frames]

theorem Carries.drop (carries : wire.Carries port ends) (side : Side) :
    (wire.drop side).Carries port (ends.drop side) := by
  have status : ∀ other, ((ends.drop side).atSide other).status =
      if other = side then .gone else (ends.atSide other).status := by
    intro other
    simp only [Link.drop, Link.atSide_setSide]
    split <;> rfl
  have facing : ∀ other, other ≠ side → other.other = side := by
    intro other differ
    rw [(other.eq_or_eq_other side).resolve_left differ, Side.other_other]
  constructor
  · intro other
    rw [status]
    split
    · simp
    · exact carries.unclosed other
  · intro other there
    rw [status] at there
    split at there
    · exact absurd rfl there
    · next differ =>
      simp only [atSide_drop, Link.drop, Link.atSide_setSide, differ, ↓reduceIte]
      exact carries.inbox there
  · intro other there
    rw [status] at there ⊢
    split at there
    · exact absurd rfl there
    · next differ => simp [atSide_drop, differ, facing other differ]
  · intro other there
    rw [status] at there ⊢
    split at there
    · exact absurd rfl there
    · next differ => simp [atSide_drop, differ, facing other differ]
  · intro other there _
    rw [status] at there ⊢
    split at there
    · exact absurd rfl there
    · next differ => rw [facing other differ, if_pos rfl]

/-- A frame is there if a message is, and that none will come is known if the other end is gone. -/
theorem Carries.read (carries : wire.Carries port ends)
    (there : (ends.atSide side).status ≠ .gone) :
    ∃ after, wire.readExactly side frameLength = ((ends.receive side).1.map fun
        | .ok message => some (message.encode port)
        | .error _ => none, after) ∧
      after.Carries port (ends.receive side).2 := by
  have inbox := carries.inbox there
  unfold Wire.readExactly
  dsimp only
  rw [inbox]
  cases found : (ends.atSide side).inbox with
  | cons message rest =>
    rw [if_pos (frameLength_le port message rest), take_frames, drop_frames,
      Link.receive_cons (carries.opened there) found]
    exact ⟨_, rfl, carries.update rfl rfl rfl id fun _ => rfl⟩
  | nil =>
    have short : ¬ frameLength ≤ (frames port []).length := Nat.not_le_of_lt (Nat.zero_lt_succ _)
    rw [if_neg short, Link.receive_nil (carries.opened there) found]
    by_cases away : (ends.atSide side.other).status = .gone
    · rw [if_pos (.inr ((carries.readEnded there).mpr away)), if_neg (by simp [away])]
      have kept : (wire.setSide side
          { wire.atSide side with inbox := [], reset := false }).Carries port
            (ends.setSide side (ends.atSide side)) :=
        carries.update rfl rfl rfl (fun broken => by cases broken) fun _ =>
          congrArg (frames port) found.symm
      rw [ends.setSide_atSide side] at kept
      exact ⟨_, rfl, kept⟩
    · have facing : (ends.atSide side.other).status = .opened := carries.opened away
      rw [if_neg (by simp [mt (carries.readEnded there).mp away, mt (carries.reset there) away]),
        if_pos facing]
      exact ⟨wire, rfl, carries⟩

/-- Nothing is lost when a wait ends with no part of a frame there. -/
theorem Carries.discard (carries : wire.Carries port ends) (nothing : (ends.atSide side).inbox = []) :
    (wire.discard side).Carries port ends := by
  rw [← ends.setSide_atSide side]
  exact carries.update rfl rfl rfl id fun _ => congrArg (frames port) nothing.symm

end Wire

/-- A wire of the host carries what the link does. -/
def Host.Carries (host : Host) (number : Nat) (port : UInt32) (ends : Link) : Prop :=
  ∃ wire, host.wires[number]? = some wire ∧ wire.Carries port ends

/-!
## Sockets
-/

namespace SocketTransport

/-- The transport on an end of a wire. -/
def onEnd (number : Nat) (side : Side) (port : UInt32) (claim : Option PortClaim) :
    SocketTransport :=
  ⟨some (number, side), port, claim⟩

theorem accept_encode (transport : SocketTransport) (message : Message) :
    transport.accept (message.encode transport.port) = .ok message := by
  rw [accept, Message.decode_encode]
  exact if_neg (not_not.mpr rfl)

section OnEnd

variable {number : Nat} {side : Side} {port : UInt32} {ends : Link} {host : Host}
  (claim : Option PortClaim)

theorem send_onEnd (carries : host.Carries number port ends)
    (there : (ends.atSide side).status ≠ .gone) (message : Message) :
    ∃ after, ((onEnd number side port claim).send message).run host =
        ((ends.send side message).1, after) ∧
      after.Carries number port (ends.send side message).2 := by
  obtain ⟨wire, present, carries⟩ := carries
  obtain ⟨result, kept⟩ := carries.write there message
  let noting := note .trace "send" [("port", toString port.toNat), ("msg", message.name)]
  have noted : (noting.run host).2.wires[number]? = some wire := present
  obtain ⟨after, ran, stays⟩ := changeWire_run noted fun state =>
    state.write side (message.encode port)
  refine ⟨after, ?_, _, stays, kept⟩
  have first : noting.run host = ((), (noting.run host).2) := rfl
  rw [← result, send, onEnd, HostM.run_bind_eq first]
  exact HostM.run_bind_eq ran

theorem poll_onEnd (carries : host.Carries number port ends)
    (there : (ends.atSide side).status ≠ .gone) :
    ∃ after, (onEnd number side port claim).poll.run host = ((ends.receive side).1, after) ∧
      after.Carries number port (ends.receive side).2 := by
  obtain ⟨wire, present, carries⟩ := carries
  obtain ⟨next, read, kept⟩ := carries.read there
  obtain ⟨after, ran, stays⟩ :=
    changeWire_run present fun state => state.readExactly side frameLength
  rw [read] at ran stays
  simp only [poll, onEnd]
  rw [HostM.run_bind_eq ran]
  cases found : (ends.receive side).1 with
  | none => exact ⟨after, rfl, next, stays, kept⟩
  | some answer =>
    cases answer with
    | error error =>
      rw [Link.receive_error found]
      exact ⟨after, rfl, next, stays, kept⟩
    | ok message =>
      dsimp only [Option.map_some]
      rw [accept_encode ⟨some (number, side), port, claim⟩ message]
      exact ⟨_, rfl, next, stays, kept⟩

/-- Ending a wait throws away the part of a frame that is there. -/
theorem expire_onEnd {wire : Wire} (present : host.wires[number]? = some wire) (limit : Duration) :
    ((Transport.socket (onEnd number side port claim)).expire limit).run host =
      (.timeout (limit.longer shortestWait),
        { host with wires := host.wires.setIfInBounds number (wire.discard side) }) := by
  simp only [Transport.expire, expire, onEnd]
  exact HostM.run_bind_eq (changeWire_eq present fun state => ((), state.discard side))

theorem receive_onEnd (carries : host.Carries number port ends)
    (there : (ends.atSide side).status ≠ .gone) {wait : Wait}
    (long : ∀ limit, wait.limit? = some limit → shortestWait.nanoseconds ≤ limit.nanoseconds) :
    ∃ after, ((Transport.socket (onEnd number side port claim)).receive wait).run host =
        ((ends.receive side).1 <|> wait.limit?.map fun limit => .error (.timeout limit), after) ∧
      after.Carries number port (ends.receive side).2 := by
  obtain ⟨middle, polled, carries⟩ := poll_onEnd claim carries there
  replace polled : (Transport.socket (onEnd number side port claim)).poll.run host =
    ((ends.receive side).1, middle) := polled
  unfold Transport.receive
  rw [HostM.run_bind_eq polled]
  cases found : (ends.receive side).1 with
  | some answer => exact ⟨middle, rfl, carries⟩
  | none =>
    cases wait with
    | unbounded => exact ⟨middle, rfl, carries⟩
    | atMost limit =>
      obtain ⟨wire, present, carries⟩ := carries
      obtain ⟨unchanged, nothing⟩ := Link.receive_none found
      have least : limit.longer shortestWait = limit := by
        rw [Duration.longer, Nat.max_eq_left (long limit rfl)]
      have expired : ((Transport.socket (onEnd number side port claim)).expire limit).run middle =
          (.timeout (limit.longer shortestWait), _) := expire_onEnd claim present limit
      rw [least] at expired
      rw [unchanged] at carries ⊢
      refine ⟨_, HostM.run_bind_eq expired, _, ?_, carries.discard nothing⟩
      exact Array.getElem?_setIfInBounds_self_of_lt (Array.getElem?_eq_some_iff.mp present).1

/-- Closing a socket and dropping it do the same to its host. -/
theorem ends_run (transport : SocketTransport) (host : Host) :
    (Transport.socket transport).close.run host =
        (.socket ⟨none, transport.port, none⟩, (transport.close.run host).2) ∧
      (Transport.socket transport).drop.run host = ((), (transport.close.run host).2) := by
  have ran : transport.close.run host =
      (⟨none, transport.port, none⟩, (transport.close.run host).2) := by
    obtain ⟨_ | _, _, _ | _⟩ := transport <;> rfl
  exact ⟨HostM.run_bind_eq ran, HostM.run_bind_eq ran⟩

theorem ends_onEnd {wire : Wire} (present : host.wires[number]? = some wire) (side : Side)
    (port : UInt32) :
    ∃ after,
      (Transport.socket (onEnd number side port claim)).close.run host =
          (.socket ⟨none, port, none⟩, after) ∧
        (Transport.socket (onEnd number side port claim)).drop.run host = ((), after) ∧
        after.wires[number]? = some (wire.drop side) := by
  obtain ⟨closes, drops⟩ := ends_run (onEnd number side port claim) host
  obtain ⟨after, ran, stays⟩ := changeWire_run present fun state => ((), state.drop side)
  have dropped : (dropSocket number side).run host = ((), after) := ran
  refine ⟨_, closes, drops, ?_⟩
  simp only [close, onEnd]
  rw [HostM.run_bind_eq dropped]
  cases claim <;> exact stays

theorem drop_onEnd (carries : host.Carries number port ends) (side : Side) :
    ∃ after, (Transport.socket (onEnd number side port claim)).drop.run host = ((), after) ∧
      after.Carries number port (ends.drop side) := by
  obtain ⟨wire, present, carries⟩ := carries
  obtain ⟨after, _, drops, stays⟩ := ends_onEnd claim present side port
  exact ⟨after, drops, wire.drop side, stays, carries.drop side⟩

end OnEnd

end SocketTransport

/-!
## Calls on a wire
-/

/-- A call that does not close an end without dropping it, and does not wait for less than a
millisecond. -/
def Call.Plain : Call → Prop
  | .send _ _ => True
  | .receive _ wait => ∀ limit, wait.limit? = some limit →
    SocketTransport.shortestWait.nanoseconds ≤ limit.nanoseconds
  | .close _ => False
  | .drop _ => True

/-- A plain call on an end of a wire is one on the link it carries. -/
theorem SocketTransport.answer_onEnd {number : Nat} {port : UInt32} {ends : Link} {host : Host}
    (claims : Side → Option PortClaim) (carries : host.Carries number port ends) {call : Call}
    (there : (ends.atSide call.side).status ≠ .gone) (plain : call.Plain) :
    ∃ after, ((Transport.socket (onEnd number call.side port (claims call.side))).answer call).run
        host = (((ends.answer call).1,
          call.leaves (.socket (onEnd number call.side port (claims call.side)))), after) ∧
      after.Carries number port (ends.answer call).2 := by
  cases call with
  | send side message =>
    replace there : (ends.atSide side).status ≠ .gone := there
    obtain ⟨after, ran, carries⟩ := send_onEnd (claims side) carries there message
    rw [Link.answer_send there]
    exact ⟨after, HostM.run_bind_eq ran, carries⟩
  | receive side wait =>
    replace there : (ends.atSide side).status ≠ .gone := there
    obtain ⟨after, ran, carries⟩ := receive_onEnd (claims side) carries there plain
    rw [Link.answer_receive there]
    exact ⟨after, HostM.run_bind_eq ran, carries⟩
  | close side => exact absurd plain id
  | drop side =>
    replace there : (ends.atSide side).status ≠ .gone := there
    obtain ⟨after, ran, carries⟩ := drop_onEnd (claims side) carries side
    rw [Link.answer_drop there]
    exact ⟨after, HostM.run_bind_eq ran, carries⟩

namespace Connection

def onWire (number : Nat) (port : UInt32) (claims : Side → Option PortClaim) : Connection :=
  ⟨some (.socket (.onEnd number .near port (claims .near))),
    some (.socket (.onEnd number .far port (claims .far)))⟩

/-- The ends that were not dropped are the ends of a wire that carries what the link does. -/
structure Carried (connection : Connection) (number : Nat) (port : UInt32)
    (claims : Side → Option PortClaim) (ends : Link) (host : Host) : Prop where
  carries : host.Carries number port ends
  there : Seated (fun side => .socket (.onEnd number side port (claims side))) connection ends

variable {connection : Connection} {number : Nat} {port : UInt32}
  {claims : Side → Option PortClaim} {ends : Link} {host : Host}

theorem Carried.fresh {id : ChannelId} (fresh : host.wires[number]? = some .fresh) :
    (onWire number port claims).Carried number port claims (.fresh id) host where
  carries := ⟨.fresh, fresh, .fresh port id⟩
  there side := by cases side <;> rfl

/-- The calls on the ends of a wire return what they do on the link it carries. -/
theorem Carried.answer (carried : connection.Carried number port claims ends host) {call : Call}
    (plain : call.Plain) :
    ∃ next after, (connection.answer call).run host = (((ends.answer call).1, next), after) ∧
      next.Carried number port claims (ends.answer call).2 after := by
  obtain ⟨next, after, ran, there, carries⟩ :=
    carried.there.answer call (fun ends later => later.Carries number port ends) carried.carries
      fun there => SocketTransport.answer_onEnd claims carried.carries there plain
  exact ⟨next, after, ran, carries, there⟩

theorem Carried.talk (carried : connection.Carried number port claims ends host)
    {calls : List Call} (plain : ∀ call ∈ calls, call.Plain) :
    ∃ next after, (connection.talk calls).run host = (((ends.talk calls).1, next), after) ∧
      next.Carried number port claims (ends.talk calls).2 after := by
  induction calls generalizing connection ends host with
  | nil => exact ⟨connection, host, rfl, carried⟩
  | cons call rest ih =>
    obtain ⟨first, others⟩ := List.forall_mem_cons.mp plain
    obtain ⟨middle, between, answered, still⟩ := carried.answer first
    obtain ⟨next, after, talked, last⟩ := ih still others
    refine ⟨next, after, ?_, last⟩
    rw [talk_cons answered, talked]
    rfl

end Connection

/-- Whatever is said and awaited on the two ends of a fresh connection, and whenever they are
dropped, every call returns the same on a wire as on an in-process link. -/
theorem transports_interchangeable {linked wired : Host} {index number : Nat} {id : ChannelId}
    {port : UInt32} {claims : Side → Option PortClaim} {calls : List Call}
    (link : linked.hub.links[index]? = some (.fresh id))
    (wire : wired.wires[number]? = some .fresh)
    (plain : ∀ call ∈ calls, call.Plain) :
    (((Connection.onWire number port claims).talk calls).run wired).1.1 =
      (((Connection.onLink index).talk calls).run linked).1.1 := by
  have carried : (Connection.onWire number port claims).Carried number port claims (.fresh id) wired :=
    .fresh wire
  obtain ⟨_, _, onLink, _⟩ := (Connection.On.fresh link).talk calls
  obtain ⟨_, _, onWire, _⟩ := carried.talk plain
  rw [onLink, onWire]

/-- A message and a drop reach the other end the same way: what was said before the drop is heard
after it. -/
theorem transports_interchangeable_small :
    let log : Log :=
      [(.receive .far (.atMost ⟨1000000⟩), .received (some (.error (.timeout ⟨1000000⟩)))),
        (.send .near (.writeDone 4096 8), .sent (.ok ())), (.send .near (.readDone 1), .sent (.ok ())),
        (.receive .far (.atMost ⟨1000000⟩), .received (some (.ok (.writeDone 4096 8)))),
        (.drop .near, .done),
        (.receive .far (.atMost ⟨1000000⟩), .received (some (.ok (.readDone 1)))),
        (.receive .far (.atMost ⟨1000000⟩), .received (some (.error .closed))),
        (.send .far (.readDone 2), .sent (.error .closed))]
    let linked : Host := { Host.fresh 1 0 .empty with hub := (Hub.empty.join ⟨7, 0⟩).2 }
    let wired : Host := { Host.fresh 1 0 .empty with wires := #[.fresh] }
    (((Connection.onLink 0).talk (log.map (·.1))).run linked).1.1 = log ∧
      (((Connection.onWire 0 3 fun _ => none).talk (log.map (·.1))).run wired).1.1 = log := by
  intro log linked wired
  have link : linked.hub.links[0]? = some (.fresh ⟨7, 0⟩) := rfl
  have wire : wired.wires[0]? = some .fresh := rfl
  have plain : ∀ call ∈ log.map (·.1), call.Plain := by
    simp [log, Call.Plain, Wait.limit?, SocketTransport.shortestWait, Duration.ofMilliseconds]
  have logged : ((Link.fresh ⟨7, 0⟩).talk (log.map (·.1))).1 = log := rfl
  obtain ⟨_, _, talked, _⟩ := (Connection.On.fresh link).talk (log.map (·.1))
  rw [logged] at talked
  have heard : (((Connection.onLink 0).talk (log.map (·.1))).run linked).1.1 = log := by
    rw [talked]
  have same : (((Connection.onWire 0 3 fun _ => none).talk (log.map (·.1))).run wired).1.1 =
      (((Connection.onLink 0).talk (log.map (·.1))).run linked).1.1 :=
    transports_interchangeable link wire plain
  exact ⟨heard, same.trans heard⟩

end ChunkRelay
