import ChunkRelay.Proofs.Channel.Delivery
import ChunkRelay.Proofs.Channel.Interchange

/-! What the closing of an end leaves to its partner. On an in-process link the
end stays there until it is dropped, and messages are still taken for it that it
will never receive; in all else its partner cannot tell whether it was closed or
dropped. On a socket it cannot tell at all, and nothing is taken. -/

set_option autoImplicit false

namespace ChunkRelay

/-- The reply of a connection that takes no messages any more. -/
def Reply.refused : Reply → Reply
  | .sent (.ok ()) => .sent (.error .closed)
  | reply => reply

def Log.refused (log : Log) : Log :=
  log.map fun entry => (entry.1, entry.2.refused)

namespace Log

theorem heard_cons (side : Side) (entry : Call × Reply) (log : Log) :
    heard side (entry :: log) = heard side [entry] ++ heard side log :=
  List.filterMap_append (l := [entry])

theorem said_cons (side : Side) (entry : Call × Reply) (log : Log) :
    said side (entry :: log) = said side [entry] ++ said side log :=
  List.filterMap_append (l := [entry])

theorem heard_receive_other {receiver side : Side} (other : receiver ≠ side) (wait : Wait)
    (reply : Reply) : heard side [(.receive receiver wait, reply)] = [] := by
  rcases reply with _ | (_ | _ | _) | _ | _ <;> simp [heard, other]

theorem said_refused {side : Side} {call : Call} {reply : Reply}
    (refused : reply ≠ .sent (.ok ())) : said side [(call, reply)] = [] := by
  rcases reply with (_ | _) | _ | _ | _ <;> cases call <;> simp_all [said]

theorem said_send_other {sender side : Side} (other : sender ≠ side) (message : Message)
    (reply : Reply) : said side [(.send sender message, reply)] = [] := by
  rcases reply with (_ | _) | _ | _ | _ <;> simp [said, other]

end Log

/-!
## Links
-/

namespace Link

/-- A link after an end was closed, and the same one after it was dropped instead. -/
structure Left (side : Side) (shut gone : Link) : Prop where
  unopened : (shut.atSide side).status ≠ .opened
  away : (gone.atSide side).status = .gone
  same : gone.atSide side.other = shut.atSide side.other

/-- Calls on one end do not change how the other one stands. -/
theorem status_answer_other (link : Link) {side : Side} {call : Call}
    (other : call.side = side.other) :
    ((link.answer call).2.atSide side).status = (link.atSide side).status := by
  have elsewhere : call.side ≠ side := other ▸ Side.other_ne side
  rw [status_answer, if_neg fun dropped => elsewhere (congrArg Call.side dropped),
    if_neg fun closed => elsewhere (congrArg Call.side closed.1)]

theorem atSide_close (link : Link) (side : Side) :
    (link.close side).atSide side =
      { link.atSide side with
        status := if (link.atSide side).status = .opened then .closed
          else (link.atSide side).status } := by
  unfold close isOpen
  by_cases opened : (link.atSide side).status = .opened <;> simp [opened, atSide_setSide]

theorem atSide_close_other (link : Link) (side : Side) :
    (link.close side).atSide side.other = link.atSide side.other := by
  unfold close
  split
  · rw [atSide_setSide, if_neg (Side.other_ne side)]
  · rfl

theorem atSide_drop_other (link : Link) (side : Side) :
    (link.drop side).atSide side.other = link.atSide side.other := by
  rw [drop, atSide_setSide, if_neg (Side.other_ne side)]

theorem left_answer (link : Link) (side : Side) :
    (link.answer (.close side)).1 = (link.answer (.drop side)).1 ∧
      Left side (link.answer (.close side)).2 (link.answer (.drop side)).2 := by
  have unopened : ((link.answer (.close side)).2.atSide side).status ≠ .opened := by
    rw [status_answer]
    grind
  have away : ((link.answer (.drop side)).2.atSide side).status = .gone := by
    rw [status_answer, if_pos rfl]
  by_cases there : (link.atSide side).status = .gone
  · have closed : link.answer (.close side) = (.absent, link) := answer_gone there
    have dropped : link.answer (.drop side) = (.absent, link) := answer_gone there
    rw [closed] at unopened ⊢
    rw [dropped]
    exact ⟨rfl, unopened, there, rfl⟩
  · rw [answer_close there] at unopened ⊢
    rw [answer_drop there] at away ⊢
    refine ⟨rfl, unopened, away, ?_⟩
    rw [atSide_close_other, atSide_drop_other]

variable {side : Side} {shut gone : Link}

theorem Left.send (left : Left side shut gone) (message : Message) :
    gone.send side.other message = (.error .closed, gone) ∧
      (Reply.sent (shut.send side.other message).1).refused = .sent (.error .closed) ∧
      (shut.send side.other message).2.atSide side.other = shut.atSide side.other := by
  constructor
  · rw [send_gone]
    rw [Side.other_other]
    exact left.away
  · unfold Link.send
    dsimp only
    split
    · exact ⟨rfl, rfl⟩
    · split
      · exact ⟨rfl, rfl⟩
      · refine ⟨rfl, ?_⟩
        rw [atSide_setSide, if_neg (Side.other_ne side.other).symm]

theorem Left.receive (left : Left side shut gone) :
    (gone.receive side.other).1 = (shut.receive side.other).1 ∧
      (gone.receive side.other).2.atSide side.other =
        (shut.receive side.other).2.atSide side.other := by
  have away : gone.isOpen side = false := by
    simp [isOpen, left.away]
  have unopened : shut.isOpen side = false := by
    simp [isOpen, left.unopened]
  have same : gone.isOpen side.other = shut.isOpen side.other := by
    rw [isOpen, isOpen, left.same]
  unfold Link.receive
  rw [left.same, same, Side.other_other, away, unopened]
  dsimp only
  split
  · exact ⟨rfl, left.same⟩
  · split
    · simp [atSide_setSide]
    · exact ⟨rfl, left.same⟩

theorem Left.answer (left : Left side shut gone) {call : Call} (other : call.side = side.other) :
    (gone.answer call).1 = (shut.answer call).1.refused ∧
      Left side (shut.answer call).2 (gone.answer call).2 := by
  suffices told : (gone.answer call).1 = (shut.answer call).1.refused ∧
      (gone.answer call).2.atSide side.other = (shut.answer call).2.atSide side.other from
    ⟨told.1, shut.status_answer_other other ▸ left.unopened,
      gone.status_answer_other other ▸ left.away, told.2⟩
  have still : (gone.atSide side.other).status = (shut.atSide side.other).status := by
    rw [left.same]
  by_cases there : (shut.atSide side.other).status = .gone
  · rw [← other] at there still
    rw [answer_gone there, answer_gone (still.trans there)]
    exact ⟨rfl, left.same⟩
  rw [← still] at there
  cases call with
  | send sender message =>
    obtain rfl : sender = side.other := other
    obtain ⟨closed, refused, same⟩ := left.send message
    rw [answer_send there, answer_send (still ▸ there), closed, refused, same]
    exact ⟨rfl, left.same⟩
  | receive receiver wait =>
    obtain rfl : receiver = side.other := other
    obtain ⟨found, same⟩ := left.receive
    rw [answer_receive there, answer_receive (still ▸ there), found]
    exact ⟨rfl, same⟩
  | close closer =>
    obtain rfl : closer = side.other := other
    rw [answer_close there, answer_close (still ▸ there)]
    refine ⟨rfl, ?_⟩
    rw [atSide_close, atSide_close, left.same]
  | drop dropper =>
    obtain rfl : dropper = side.other := other
    rw [answer_drop there, answer_drop (still ▸ there), Link.drop, Link.drop, atSide_setSide,
      atSide_setSide, if_pos rfl, if_pos rfl]
    exact ⟨rfl, rfl⟩

theorem Left.talk (left : Left side shut gone) {calls : List Call}
    (others : ∀ call ∈ calls, call.side = side.other) :
    (gone.talk calls).1 = (shut.talk calls).1.refused ∧
      Left side (shut.talk calls).2 (gone.talk calls).2 := by
  induction calls generalizing shut gone with
  | nil => exact ⟨rfl, left⟩
  | cons call rest ih =>
    obtain ⟨other, others⟩ := List.forall_mem_cons.mp others
    obtain ⟨reply, left⟩ := left.answer other
    obtain ⟨log, last⟩ := ih left others
    refine ⟨?_, last⟩
    rw [talk_cons, talk_cons, reply, log]
    rfl

/-- An end that is not open receives nothing. -/
theorem heard_answer {link : Link} (unopened : (link.atSide side).status ≠ .opened) (call : Call) :
    Log.heard side [(call, (link.answer call).1)] = [] := by
  cases call with
  | send _ _ | close _ | drop _ => rfl
  | receive receiver wait =>
    by_cases there : (link.atSide receiver).status = .gone
    · rw [answer_gone there]
      rfl
    rw [answer_receive there]
    by_cases same : receiver = side
    · subst same
      simp [Link.receive, isOpen, unopened, Log.heard]
    · exact Log.heard_receive_other same wait _

/-- No message is taken for an end that is gone. -/
theorem said_answer {link : Link} (away : (link.atSide side).status = .gone) (call : Call) :
    Log.said side.other [(call, (link.answer call).1)] = [] := by
  cases call with
  | receive _ _ | close _ | drop _ => rfl
  | send sender message =>
    by_cases there : (link.atSide sender).status = .gone
    · rw [answer_gone there]
      rfl
    rw [answer_send there]
    by_cases same : sender = side.other
    · subst same
      rw [send_gone (by rw [Side.other_other]; exact away)]
      rfl
    · exact Log.said_send_other same message _

theorem heard_talk {link : Link} (unopened : (link.atSide side).status ≠ .opened)
    (calls : List Call) : Log.heard side (link.talk calls).1 = [] := by
  induction calls generalizing link with
  | nil => rfl
  | cons call rest ih =>
    rw [talk_cons, Log.heard_cons, heard_answer unopened call]
    apply ih
    rw [status_answer]
    grind

theorem said_talk {link : Link} (away : (link.atSide side).status = .gone) (calls : List Call) :
    Log.said side.other (link.talk calls).1 = [] := by
  induction calls generalizing link with
  | nil => rfl
  | cons call rest ih =>
    rw [talk_cons, Log.said_cons, said_answer away call]
    exact ih ((gone_answer link call side).mpr (.inr away))

end Link

/-!
## Sockets
-/

/-- A side of a wire may not write. -/
def Host.Mute (host : Host) (number : Nat) (side : Side) : Prop :=
  ∃ wire, host.wires[number]? = some wire ∧ (wire.atSide side).writeEnded = true

/-- The program leaves a side of a wire mute if it is. -/
def HostM.KeepsMute {α : Type} (number : Nat) (side : Side) (program : HostM α) : Prop :=
  ∀ host, host.Mute number side → (program.run host).2.Mute number side

namespace HostM.KeepsMute

variable {α β : Type} {number : Nat} {side : Side}

theorem pure (value : α) : KeepsMute number side (pure value : HostM α) :=
  fun _ mute => mute

theorem bind {first : HostM α} {next : α → HostM β} (before : KeepsMute number side first)
    (later : ∀ value, KeepsMute number side (next value)) :
    KeepsMute number side (first >>= next) := by
  intro host mute
  rw [HostM.run_bind_eq (show first.run host = (_, _) from rfl)]
  exact later _ _ (before host mute)

theorem note (level : Level) (text : String) (fields : List (String × String)) :
    KeepsMute number side (note level text fields) :=
  fun _ mute => mute

theorem changeWire {act : Wire → α × Wire}
    (stays : ∀ wire, (wire.atSide side).writeEnded = true →
      ((act wire).2.atSide side).writeEnded = true) :
    KeepsMute number side (changeWire number act) := by
  rintro host ⟨wire, present, ended⟩
  obtain ⟨after, ran, there⟩ := changeWire_run present act
  rw [ran]
  exact ⟨_, there, stays wire ended⟩

end HostM.KeepsMute

namespace Wire

variable {wire : Wire} {side : Side}

theorem write_mute (ended : (wire.atSide side).writeEnded = true) (port : UInt32)
    (message : Message) :
    wire.write side (message.encode port) = (.error (.os 32), wire) := by
  rw [write, if_neg (by simp [Message.encode]), if_pos ended]

theorem readExactly_mute (ended : (wire.atSide side).writeEnded = true) (count : Nat) :
    ((wire.readExactly side count).2.atSide side).writeEnded = true := by
  unfold readExactly
  dsimp only
  split
  · rwa [atSide_setSide, if_pos rfl]
  · split
    · rwa [atSide_setSide, if_pos rfl]
    · exact ended

end Wire

namespace SocketTransport

/-- The transport is on this side of a wire, unless it was closed. -/
def At (transport : SocketTransport) (number : Nat) (side : Side) : Prop :=
  transport.stream = none ∨ transport.stream = some (number, side)

variable {transport : SocketTransport} {number : Nat} {side : Side}

theorem At.send (placed : transport.At number side) (message : Message) {host : Host}
    (mute : host.Mute number side) :
    ∃ after, (transport.send message).run host = (.error .closed, after) ∧
      after.Mute number side := by
  obtain ⟨wire, present, ended⟩ := mute
  let noting := note .trace "send" [("port", toString transport.port.toNat), ("msg", message.name)]
  have first : noting.run host = ((), (noting.run host).2) := rfl
  unfold SocketTransport.send
  rw [HostM.run_bind_eq first]
  rcases placed with closed | stream
  · rw [closed]
    exact ⟨_, rfl, wire, present, ended⟩
  · replace present : (noting.run host).2.wires[number]? = some wire := present
    obtain ⟨after, ran, stays⟩ :=
      changeWire_run present fun state => state.write side (message.encode transport.port)
    rw [Wire.write_mute ended] at ran stays
    rw [stream]
    exact ⟨after, HostM.run_bind_eq ran, wire, stays, ended⟩

theorem At.keeps_receive (placed : transport.At number side) (wait : Wait) :
    HostM.KeepsMute number side ((Transport.socket transport).receive wait) := by
  have polls : HostM.KeepsMute number side transport.poll := by
    unfold poll
    rcases placed with closed | stream
    · rw [closed]
      exact .pure _
    · rw [stream]
      refine .bind (.changeWire fun wire ended => wire.readExactly_mute ended _) fun frame => ?_
      rcases frame with _ | _ | frame
      · exact .pure _
      · exact .pure _
      · dsimp only
        split
        · exact .bind (.note _ _ _) fun _ => .pure _
        · exact .pure _
  refine .bind polls fun answer => ?_
  rcases answer with _ | answer
  · cases wait with
    | unbounded => exact .pure _
    | atMost limit =>
      refine .bind ?_ fun error => .pure _
      rcases placed with closed | stream
      · simp only [Transport.expire, expire, closed]
        exact .pure _
      · simp only [Transport.expire, expire, stream]
        refine .bind (.changeWire fun wire ended => ?_) fun _ => .pure _
        rwa [Wire.discard, Wire.atSide_setSide, if_pos rfl]
  · exact .pure _

theorem At.keeps_close (placed : transport.At number side) :
    HostM.KeepsMute number side transport.close := by
  have dropped : HostM.KeepsMute number side (dropSocket number side) := by
    refine .changeWire fun wire _ => ?_
    rw [Wire.atSide_drop, if_pos rfl]
  unfold close
  cases transport.claim with
  | none =>
    rcases placed with closed | stream
    · rw [closed]
      exact .pure _
    · rw [stream]
      exact .bind dropped fun _ => .pure _
  | some claim =>
    have released : HostM.KeepsMute number side claim.release := fun _ mute => mute
    rcases placed with closed | stream
    · rw [closed]
      exact .bind released fun _ => .pure _
    · rw [stream]
      exact .bind dropped fun _ => .bind released fun _ => .pure _

/-- Nothing is sent by a transport on a mute side, now or later. -/
theorem At.answer (placed : transport.At number side) {host : Host} (mute : host.Mute number side)
    (call : Call) :
    ∃ reply left after,
      ((Transport.socket transport).answer call).run host = ((reply, left), after) ∧
        after.Mute number side ∧ reply ≠ .sent (.ok ()) ∧
        ∀ next, left = some next → ∃ socket, next = .socket socket ∧ socket.At number side := by
  cases call with
  | send sender message =>
    obtain ⟨after, ran, mute⟩ := placed.send message mute
    refine ⟨.sent (.error .closed), some _, after, HostM.run_bind_eq ran, mute, by simp, ?_⟩
    rintro _ ⟨⟩
    exact ⟨transport, rfl, placed⟩
  | receive receiver wait =>
    have still := placed.keeps_receive wait host mute
    rcases ran : ((Transport.socket transport).receive wait).run host with ⟨answer, after⟩
    rw [ran] at still
    refine ⟨.received answer, some _, after, HostM.run_bind_eq ran, still, by simp, ?_⟩
    rintro _ ⟨⟩
    exact ⟨transport, rfl, placed⟩
  | close closer =>
    have still := placed.keeps_close host mute
    obtain ⟨closes, _⟩ := transport.ends_run host
    refine ⟨.done, some _, _, HostM.run_bind_eq closes, still, by simp, ?_⟩
    rintro _ ⟨⟩
    exact ⟨_, rfl, .inl rfl⟩
  | drop dropper =>
    have still := placed.keeps_close host mute
    obtain ⟨_, drops⟩ := transport.ends_run host
    exact ⟨.done, none, _, HostM.run_bind_eq drops, still, by simp, by simp⟩

end SocketTransport

namespace Connection

variable {side : Side}

/-- Calls on an end that two connections share are answered alike. -/
theorem answer_alike {one another : Connection} {call : Call}
    (same : one.atSide call.side = another.atSide call.side) (host : Host) :
    ∃ reply left right after, (one.answer call).run host = ((reply, left), after) ∧
      (another.answer call).run host = ((reply, right), after) ∧
      left.atSide call.side = right.atSide call.side := by
  cases here : one.atSide call.side with
  | none =>
    exact ⟨_, _, _, _, answer_absent here host, answer_absent (same ▸ here) host, same⟩
  | some transport =>
    rcases ran : (transport.answer call).run host with ⟨⟨reply, left⟩, after⟩
    refine ⟨_, _, _, _, answer_present here ran, answer_present (same ▸ here) ran, ?_⟩
    rw [atSide_setSide, atSide_setSide, if_pos rfl, if_pos rfl]

theorem talk_alike {one another : Connection} {calls : List Call}
    (same : one.atSide side = another.atSide side) (only : ∀ call ∈ calls, call.side = side)
    (host : Host) :
    ∃ log left right after, (one.talk calls).run host = ((log, left), after) ∧
      (another.talk calls).run host = ((log, right), after) := by
  induction calls generalizing one another host with
  | nil => exact ⟨[], one, another, host, rfl, rfl⟩
  | cons call rest ih =>
    obtain ⟨rfl, others⟩ := List.forall_mem_cons.mp only
    obtain ⟨reply, left, right, middle, answered, alike, still⟩ := answer_alike same host
    obtain ⟨log, last, other, after, talked, echoed⟩ := ih still others middle
    refine ⟨(call, reply) :: log, last, other, after, ?_, ?_⟩
    · rw [talk_cons answered, talked]
    · rw [talk_cons alike, echoed]

/-- What is there of an end is a socket that takes no messages. -/
structure MuteAt (connection : Connection) (number : Nat) (side : Side) (host : Host) : Prop where
  mute : host.Mute number side
  placed : ∀ transport, connection.atSide side = some transport →
    ∃ socket, transport = .socket socket ∧ socket.At number side

theorem MuteAt.answer {connection : Connection} {number : Nat} {host : Host} {call : Call}
    (muted : connection.MuteAt number call.side host) :
    ∃ reply next after, (connection.answer call).run host = ((reply, next), after) ∧
      next.MuteAt number call.side after ∧ reply ≠ .sent (.ok ()) := by
  cases here : connection.atSide call.side with
  | none => exact ⟨.absent, connection, host, answer_absent here host, muted, by simp⟩
  | some transport =>
    obtain ⟨socket, rfl, placed⟩ := muted.placed transport here
    obtain ⟨reply, left, after, ran, mute, refused, stays⟩ := placed.answer muted.mute call
    refine ⟨reply, _, after, answer_present here ran, ⟨mute, fun next there => ?_⟩, refused⟩
    rw [atSide_setSide, if_pos rfl] at there
    exact stays next there

theorem MuteAt.said {connection : Connection} {number : Nat} {side : Side} {host : Host}
    (muted : connection.MuteAt number side host) {calls : List Call}
    (only : ∀ call ∈ calls, call.side = side) :
    Log.said side ((connection.talk calls).run host).1.1 = [] := by
  induction calls generalizing connection host with
  | nil => rfl
  | cons call rest ih =>
    obtain ⟨rfl, others⟩ := List.forall_mem_cons.mp only
    obtain ⟨reply, next, after, answered, muted, refused⟩ := muted.answer
    rw [talk_cons answered, Log.said_cons, Log.said_refused refused]
    exact ih muted others

/-- Closing an end of a wire leaves to its partner what dropping it does: it sends nothing more. -/
theorem talk_closed_onEnd {connection : Connection} {number : Nat} {side : Side}
    {port facing : UInt32} {claim facingClaim : Option PortClaim} {host : Host} {wire : Wire}
    {calls : List Call} (present : host.wires[number]? = some wire)
    (here : connection.atSide side = some (.socket (.onEnd number side port claim)))
    (there : connection.atSide side.other =
      some (.socket (.onEnd number side.other facing facingClaim)))
    (others : ∀ call ∈ calls, call.side = side.other) :
    ∃ entries closed dropped after,
      (connection.talk (.close side :: calls)).run host =
          (((.close side, .done) :: entries, closed), after) ∧
        (connection.talk (.drop side :: calls)).run host =
          (((.drop side, .done) :: entries, dropped), after) ∧
        Log.said side.other entries = [] := by
  obtain ⟨middle, closed, dropped, present⟩ := SocketTransport.ends_onEnd claim present side port
  have closes : ((Transport.socket (.onEnd number side port claim)).answer (.close side)).run host =
      ((.done, some (.socket ⟨none, port, none⟩)), middle) := HostM.run_bind_eq closed
  have drops : ((Transport.socket (.onEnd number side port claim)).answer (.drop side)).run host =
      ((.done, none), middle) := HostM.run_bind_eq dropped
  have facing : ∀ value, (connection.setSide side value).atSide side.other =
      some (.socket (.onEnd number side.other facing facingClaim)) := by
    intro value
    rw [atSide_setSide, if_neg (Side.other_ne side), there]
  have muted : (connection.setSide side none).MuteAt number side.other middle := by
    refine ⟨⟨wire.drop side, present, ?_⟩, fun transport found => ?_⟩
    · rw [Wire.atSide_drop, if_neg (Side.other_ne side)]
    · cases (facing none).symm.trans found
      exact ⟨_, rfl, .inr rfl⟩
  have alike : (connection.setSide side (some (.socket ⟨none, port, none⟩))).atSide side.other =
      (connection.setSide side none).atSide side.other := (facing _).trans (facing none).symm
  obtain ⟨entries, closed, dropped, after, shut, gone⟩ := talk_alike alike others middle
  have unsaid := muted.said others
  rw [gone] at unsaid
  refine ⟨entries, closed, dropped, after, ?_, ?_, unsaid⟩
  · rw [talk_cons (answer_present here closes)]
    exact congrArg (fun ran => (((_, _) :: ran.1.1, ran.1.2), ran.2)) shut
  · rw [talk_cons (answer_present here drops)]
    exact congrArg (fun ran => (((_, _) :: ran.1.1, ran.1.2), ran.2)) gone

end Connection

theorem Connection.On.isOpen_eq_false {connection : Connection} {index : Nat} {ends : Link}
    {host : Host} (on : connection.On index ends host) {side : Side}
    (unopened : (ends.atSide side).status ≠ .opened) : host.hub.isOpen index side = false := by
  rw [Hub.isOpen, on.present, Option.any_some, Link.isOpen]
  exact decide_eq_false unopened

/-- To its partner an end of a link that was closed is as good as one that was dropped, but that
messages for it are still taken. None of them is received any more, and none is taken after a drop.
On a wire there is no difference at all, and no message is taken after a close either. -/
theorem closes_answer_as_drops {host parted wired : Host} {index number : Nat} {id : ChannelId}
    {before later : List Call} {log : Log} {connection ends : Connection} {wire : Wire}
    {side : Side} {port facing : UInt32} {claim facingClaim : Option PortClaim}
    (fresh : host.hub.links[index]? = some (.fresh id))
    (talked : ((Connection.onLink index).talk before).run host = ((log, connection), parted))
    (others : ∀ call ∈ later, call.side = side.other)
    (present : wired.wires[number]? = some wire)
    (here : ends.atSide side = some (.socket (.onEnd number side port claim)))
    (there : ends.atSide side.other =
      some (.socket (.onEnd number side.other facing facingClaim))) :
    (∃ (reply : Reply) (entries : Log) (closed dropped : Connection) (shut gone : Host),
      (connection.talk (.close side :: later)).run parted =
          (((.close side, reply) :: entries, closed), shut) ∧
        (connection.talk (.drop side :: later)).run parted =
          (((.drop side, reply) :: entries.refused, dropped), gone) ∧
        shut.hub.isOpen index side = false ∧ gone.hub.isOpen index side = false) ∧
      (∀ more, Log.heard side ((connection.talk (.close side :: more)).run parted).1.1 = []) ∧
      (∀ more, Log.said side.other ((connection.talk (.drop side :: more)).run parted).1.1 = []) ∧
      ∃ entries closed dropped after,
        (ends.talk (.close side :: later)).run wired =
            (((.close side, .done) :: entries, closed), after) ∧
          (ends.talk (.drop side :: later)).run wired =
            (((.drop side, .done) :: entries, dropped), after) ∧
          Log.said side.other entries = [] := by
  obtain ⟨_, _, found, on, _⟩ := (Connection.On.fresh fresh).talk before
  cases talked.symm.trans found
  generalize ((Link.fresh id).talk before).2 = link at on
  obtain ⟨reply, left⟩ := link.left_answer side
  refine ⟨?same, fun more => ?unheard, fun more => ?unsaid,
    Connection.talk_closed_onEnd present here there others⟩
  case same =>
    obtain ⟨closed, shut, closes, stillShut, _⟩ := on.talk (.close side :: later)
    obtain ⟨dropped, gone, drops, stillGone, _⟩ := on.talk (.drop side :: later)
    obtain ⟨told, last⟩ := left.talk others
    rw [Link.talk_cons] at closes drops stillShut stillGone
    rw [← reply, told] at drops
    exact ⟨_, _, closed, dropped, shut, gone, closes, drops,
      stillShut.isOpen_eq_false last.unopened, stillGone.isOpen_eq_false (by simp [last.away])⟩
  case unheard =>
    obtain ⟨_, _, ran, _⟩ := on.talk (.close side :: more)
    rw [ran, Link.talk_cons, Log.heard_cons]
    exact Link.heard_talk left.unopened more
  case unsaid =>
    obtain ⟨_, _, ran, _⟩ := on.talk (.drop side :: more)
    rw [ran, Link.talk_cons, Log.said_cons]
    exact Link.said_talk left.away more

/-- What an end has said before it is closed or dropped is heard; what is said to it is refused only
after a drop. -/
theorem closes_answer_as_drops_small :
    let host : Host :=
      { Host.fresh 1 0 .empty with hub := (Hub.empty.join ⟨7, 0⟩).2, wires := #[.fresh] }
    let entries : Log :=
      [(.send .far (.readDone 2), .sent (.ok ())),
        (.receive .far (.atMost ⟨5⟩), .received (some (.ok (.readDone 1)))),
        (.receive .far (.atMost ⟨5⟩), .received (some (.error .closed)))]
    ∃ connection parted closed dropped shut gone,
      ((Connection.onLink 0).talk [.send .near (.readDone 1)]).run host =
          (([(.send .near (.readDone 1), .sent (.ok ()))], connection), parted) ∧
        (connection.talk (.close .near :: entries.map (·.1))).run parted =
          (((.close .near, .done) :: entries, closed), shut) ∧
        (connection.talk (.drop .near :: entries.map (·.1))).run parted =
          (((.drop .near, .done) :: entries.refused, dropped), gone) ∧
        shut.hub.isOpen 0 .near = false ∧ gone.hub.isOpen 0 .near = false := by
  intro host entries
  have fresh : host.hub.links[0]? = some (.fresh ⟨7, 0⟩) := rfl
  obtain ⟨connection, parted, talked, on, _⟩ :=
    (Connection.On.fresh fresh).talk [.send .near (.readDone 1)]
  have others : ∀ call ∈ entries.map (·.1), call.side = Side.near.other := by
    simp [entries, Call.side, Side.other]
  have present : host.wires[0]? = some .fresh := rfl
  have here : (Connection.onWire 0 3 fun _ => none).atSide .near =
      some (.socket (.onEnd 0 .near 3 none)) := rfl
  obtain ⟨⟨reply, log, closed, dropped, shut, gone, closes, drops, last⟩, _⟩ :=
    closes_answer_as_drops fresh talked others present here rfl
  obtain ⟨_, _, found, _⟩ := on.talk (.close .near :: entries.map (·.1))
  cases closes.symm.trans found
  exact ⟨connection, parted, closed, dropped, shut, gone, talked, closes, drops, last⟩

/-- A message for an end that was closed is taken, where it is refused if the end was dropped; and
whatever follows, nothing is heard at that end. -/
theorem sends_to_closed_ends_taken :
    let host : Host := { Host.fresh 1 0 .empty with hub := (Hub.empty.join ⟨7, 0⟩).2 }
    let call : Call := .send .far (.readDone 2)
    (((Connection.onLink 0).talk [.close .near, call]).run host).1.1 =
        [(.close .near, .done), (call, .sent (.ok ()))] ∧
      (((Connection.onLink 0).talk [.drop .near, call]).run host).1.1 =
        [(.drop .near, .done), (call, .sent (.error .closed))] ∧
      ∀ more, Log.heard .near
        (((Connection.onLink 0).talk (.close .near :: call :: more)).run host).1.1 = [] := by
  intro host call
  have fresh : host.hub.links[0]? = some (.fresh ⟨7, 0⟩) := rfl
  have on : (Connection.onLink 0).On 0 (.fresh ⟨7, 0⟩) host := .fresh fresh
  obtain ⟨_, left⟩ := (Link.fresh ⟨7, 0⟩).left_answer .near
  refine ⟨?_, ?_, fun more => ?_⟩
  · obtain ⟨_, _, closes, _⟩ := on.talk [.close .near, call]
    rw [closes]
    rfl
  · obtain ⟨_, _, drops, _⟩ := on.talk [.drop .near, call]
    rw [drops]
    rfl
  · obtain ⟨_, _, ran, _⟩ := on.talk (.close .near :: call :: more)
    rw [ran, Link.talk_cons, Log.heard_cons]
    exact Link.heard_talk left.unopened _

end ChunkRelay
