import ChunkRelay.Proofs.Channel.Interchange
import ChunkRelay.Proofs.Transfer.Encounter
import ChunkRelay.Remote.Peer
import ChunkRelay.Transfer.Engine

/-! How long a party goes on. Between two messages it makes a few requests at
most, each message that it hears is one less on its way, and one that hears an
error stops; so the number of turns it is given never cuts it short. A party
that has neither stopped nor paused waits for a message that is not there. -/

set_option autoImplicit false

namespace ChunkRelay

/-- How many messages an answer to a receive uses up. -/
def heardCount (answer? : Option (Except ChannelError Message)) : Nat :=
  if answer?.any (·.isOk) then 1 else 0

/-!
## What is on its way to an end
-/

theorem Link.inbox_send (link : Link) (side : Side) (message : Message) :
    ((link.send side message).2.atSide side).inbox = (link.atSide side).inbox := by
  unfold Link.send
  dsimp only
  split
  · rfl
  · split
    · rfl
    · rw [atSide_setSide, if_neg (Ne.symm side.other_ne)]

theorem Link.inbox_receive (link : Link) (side : Side) :
    ((link.receive side).2.atSide side).inbox.length + heardCount (link.receive side).1 =
      (link.atSide side).inbox.length := by
  unfold Link.receive
  dsimp only
  split
  · rfl
  · split
    · next message rest found =>
      rw [atSide_setSide, if_pos rfl, found]
      rfl
    · split <;> rfl

theorem Wire.inbox_write (wire : Wire) (side : Side) (bytes : List UInt8) :
    ((wire.write side bytes).2.atSide side).inbox = (wire.atSide side).inbox := by
  unfold Wire.write
  dsimp only
  split
  · rfl
  · split
    · rfl
    · rw [atSide_setSide, if_neg (Ne.symm side.other_ne)]

theorem Wire.inbox_readExactly (wire : Wire) (side : Side) {count : Nat} (positive : 0 < count) :
    ((wire.readExactly side count).2.atSide side).inbox.length +
        (if (wire.readExactly side count).1.join.isSome then 1 else 0) ≤
      (wire.atSide side).inbox.length := by
  unfold Wire.readExactly
  dsimp only
  split
  · next enough =>
    rw [atSide_setSide, if_pos rfl]
    simp only [List.length_drop, Option.join_some, Option.isSome_some, ↓reduceIte]
    omega
  · split
    · rw [atSide_setSide, if_pos rfl]
      exact Nat.zero_le _
    · rfl

theorem frameLength_pos : 0 < frameLength := by decide

/-- A number that nobody gave out stands for a fresh wire, whatever is done to it. -/
theorem getD_setIfInBounds_fresh (wires : Array Wire) (number : Nat) (wire : Wire) :
    (wires.setIfInBounds number wire).getD number .fresh =
      if number < wires.size then wire else wires.getD number .fresh := by
  by_cases inside : number < wires.size <;> simp [inside]

namespace SocketTransport

variable (number : Nat) (side : Side) (port : UInt32) (claim : Option PortClaim) (host : Host)

theorem send_wires (message : Message) :
    (((onEnd number side port claim).send message).run host).2.wires =
      host.wires.setIfInBounds number
        ((host.wires.getD number .fresh).write side (message.encode port)).2 := by
  let noting := note .trace "send" [("port", toString port.toNat), ("msg", message.name)]
  have first : noting.run host = ((), (noting.run host).2) := rfl
  rw [send, onEnd, HostM.run_bind_eq first]
  dsimp only
  rw [HostM.run_bind_eq (changeWire_getD number _ _)]
  rfl

theorem poll_wires :
    ((onEnd number side port claim).poll.run host).2.wires =
        host.wires.setIfInBounds number
          ((host.wires.getD number .fresh).readExactly side frameLength).2 ∧
      heardCount ((onEnd number side port claim).poll.run host).1 ≤
        if ((host.wires.getD number .fresh).readExactly side frameLength).1.join.isSome then 1
        else 0 := by
  simp only [poll, onEnd]
  rw [HostM.run_bind_eq (changeWire_getD number _ host)]
  cases ((host.wires.getD number .fresh).readExactly side frameLength).1 with
  | none => exact ⟨rfl, Nat.le_refl 0⟩
  | some taken =>
    cases taken with
    | none => exact ⟨rfl, Nat.le_refl 0⟩
    | some frame =>
      dsimp only [Option.join_some, Option.isSome_some]
      split
      · exact ⟨rfl, by simp [heardCount]; split <;> omega⟩
      · exact ⟨rfl, by simp [heardCount]; split <;> omega⟩

end SocketTransport

namespace Transport

variable {transport : Transport} {host after : Host}

/-- What a party says is not on its way to itself. -/
theorem backlog_send {message : Message} {result : Except ChannelError Unit}
    (ran : (transport.send message).run host = (result, after)) :
    transport.backlog after = transport.backlog host := by
  cases transport with
  | link index side =>
    obtain ⟨later, sent, hub⟩ := send_link index side host message
    cases sent.symm.trans ran
    simp only [backlog, hub, Hub.send]
    cases present : host.hub.links[index]? with
    | none => simp [present]
    | some ends =>
      have inside := (Array.getElem?_eq_some_iff.mp present).1
      simp [Array.getElem?_setIfInBounds_self_of_lt inside, ends.inbox_send side message]
  | socket transport =>
    obtain ⟨_ | ⟨number, side⟩, port, claim⟩ := transport
    · rfl
    · have wires : after.wires = _ := (congrArg (·.2.wires) ran).symm.trans
        (SocketTransport.send_wires number side port claim host message)
      simp only [backlog, Option.elim_some]
      rw [wires, getD_setIfInBounds_fresh]
      by_cases inside : number < host.wires.size
      · rw [if_pos inside, Wire.inbox_write]
      · rw [if_neg inside]

/-- Each message that a party hears was on its way to it. -/
theorem backlog_poll {answer? : Option (Except ChannelError Message)}
    (ran : transport.poll.run host = (answer?, after)) :
    transport.backlog after + heardCount answer? ≤ transport.backlog host := by
  cases transport with
  | link index side =>
    obtain ⟨later, polled, hub⟩ := poll_link index side host
    cases polled.symm.trans ran
    simp only [backlog, hub, Hub.receive]
    cases present : host.hub.links[index]? with
    | none => simp [present, heardCount, Except.isOk, Except.toBool]
    | some ends =>
      have inside := (Array.getElem?_eq_some_iff.mp present).1
      simp [Array.getElem?_setIfInBounds_self_of_lt inside, ends.inbox_receive side]
  | socket transport =>
    obtain ⟨_ | ⟨number, side⟩, port, claim⟩ := transport
    · cases ran
      exact Nat.le_refl 0
    · obtain ⟨wires, taken⟩ := SocketTransport.poll_wires number side port claim host
      have fewer := (host.wires.getD number .fresh).inbox_readExactly side frameLength_pos
      replace ran : (SocketTransport.onEnd number side port claim).poll.run host =
        (answer?, after) := ran
      rw [ran] at wires taken
      dsimp only at wires taken
      simp only [backlog, Option.elim_some]
      rw [wires, getD_setIfInBounds_fresh]
      by_cases inside : number < host.wires.size
      · rw [if_pos inside]
        exact (Nat.add_le_add_left taken _).trans fewer
      · rw [if_neg inside]
        have fresh : host.wires.getD number .fresh = .fresh := by simp [inside]
        rw [fresh] at taken ⊢
        cases side <;> exact Nat.add_le_add_left taken _

end Transport

namespace Station

variable {station next : Station} {host after : Host}

/-- What is on its way to a station becomes less by what is heard there, and never more. -/
theorem backlog_answer {request : Request} {answer? : Option request.Answer}
    (answered : (station.answer request).run host = ((answer?, next), after))
    (unheard : request ≠ .receive) : next.backlog after = station.backlog host := by
  rw [backlog, transport_answer answered, backlog]
  cases present : station.transport with
  | none => rfl
  | some transport =>
    by_cases said : ∃ message, request = .send message
    · obtain ⟨message, rfl⟩ := said
      obtain ⟨_, _, wait, memory, reader, writer⟩ := station
      subst present
      rcases sent : (transport.send message).run host with ⟨result, later⟩
      cases (HostM.run_bind_eq sent).symm.trans answered
      exact transport.backlog_send sent
    · obtain ⟨hub, wires⟩ := answer_channels answered (not_exists.mp said) unheard
      cases transport with
      | link => simp only [Option.elim_some, Transport.backlog, hub]
      | socket => simp only [Option.elim_some, Transport.backlog, wires]

theorem backlog_receive {answer? : Option (Except ChannelError Message)}
    (answered : (station.answer .receive).run host = ((answer?, next), after)) :
    next.backlog after + heardCount answer? ≤ station.backlog host := by
  rw [backlog, transport_answer answered, backlog]
  cases present : station.transport with
  | none =>
    obtain ⟨_, _, wait, memory, reader, writer⟩ := station
    subst present
    cases answered
    exact Nat.le_refl 0
  | some transport =>
    obtain ⟨_, _, wait, memory, reader, writer⟩ := station
    subst present
    rcases polled : transport.poll.run host with ⟨result, later⟩
    cases (HostM.run_bind_eq polled).symm.trans answered
    exact transport.backlog_poll polled

theorem poll_of_unanswered
    (unanswered : (station.answer .receive).run host = ((none, next), after)) :
    ∃ transport, station.transport = some transport ∧ transport.poll.run host = (none, after) := by
  obtain ⟨_, _ | transport, wait, memory, reader, writer⟩ := station
  · cases congrArg (fun result => result.1.1) unanswered
  · rcases polled : transport.poll.run host with ⟨answer?, later⟩
    cases (HostM.run_bind_eq polled).symm.trans unanswered
    exact ⟨transport, rfl, polled⟩

end Station

/-!
## Letting a party act
-/

/-- An action with which a party has so many requests left at most before it hears a message. If it
hears an error instead, it has none left. -/
def Action.Counts {σ : Type} (left : σ → Nat) (count : Nat) : Action σ → Prop
  | .stop => count = 0
  -- What a party does after a message counts from there.
  | .ask .receive resume => 0 < count ∧ ∀ error, left (resume (.error error)).next = 0
  | .ask _ resume => 0 < count ∧ ∀ answer, left (resume answer).next < count

theorem Action.Counts.map {σ τ : Type} (left : τ → Nat) (change : σ → τ) {count : Nat}
    {action : Action σ} (counts : action.Counts (left ∘ change) count) :
    (action.map change).Counts left count := by
  cases action with
  | stop => exact counts
  | ask request resume => cases request <;> exact counts

/-- Parties that make few requests between two messages, and stop when they hear an error. -/
structure Paced {σ : Type} (act : σ → Action σ) (left : σ → Nat) : Prop where
  bounded (party : σ) : left party ≤ requestsPerMessage
  counts (party : σ) : (act party).Counts left (left party)

/-- A party waits at a station for a message that is not there. -/
def Waits {σ : Type} (act : σ → Action σ) (party : σ) (station : Station) (host : Host) : Prop :=
  (∃ resume, act party = .ask .receive resume) ∧
    ∃ before, (station.answer .receive).run before = ((none, station), host)

/-- A party that was let act has stopped, or pauses, or waits. -/
def Advanced.Rests {σ : Type} (act : σ → Action σ) (pause : σ → Bool) (host : Host)
    (advanced : Advanced σ) : Prop :=
  match advanced.standing with
  | .stopped => act advanced.party = .stop
  | .paused => pause advanced.party = true
  | .waiting => Waits act advanced.party advanced.station host

section Advance

variable {σ : Type} {act : σ → Action σ} {pause : σ → Bool} {party : σ} {station : Station}
  {host : Host}

/-- A party that is let act makes one request at least. -/
theorem advance_run : (advance act pause party station).run host =
    (advanceFor act pause (requestsPerMessage * station.backlog host + 15 + 1) false party
      station).run host := by
  have some_turns : requestsPerMessage * (station.backlog host + 2) =
      requestsPerMessage * station.backlog host + 15 + 1 := Nat.mul_add _ _ 2
  rw [advance, HostM.run_get_bind]
  dsimp only
  rw [some_turns]

theorem advance_of_stop (stops : act party = .stop) :
    (advance act pause party station).run host =
      ({ standing := .stopped, moved := false, party, station }, host) := by
  rw [advance_run, advanceFor, stops]
  rfl

end Advance

namespace Paced

variable {σ : Type} {act : σ → Action σ} {left : σ → Nat} {pause : σ → Bool} {party : σ}
  {station : Station} {host after : Host}

theorem asking (paced : Paced act left) {request : Request} {resume : request.Answer → Turn σ}
    (asks : act party = .ask request resume) : 0 < left party := by
  have counts := paced.counts party
  rw [asks] at counts
  cases request <;> exact counts.1

theorem quiet (paced : Paced act left) {request : Request} {resume : request.Answer → Turn σ}
    (asks : act party = .ask request resume) (unheard : request ≠ .receive)
    (answer : request.Answer) : left (resume answer).next < left party := by
  have counts := paced.counts party
  rw [asks] at counts
  cases request with
  | receive => exact absurd rfl unheard
  | _ => exact counts.2 answer

theorem refused (paced : Paced act left) {resume : Request.receive.Answer → Turn σ}
    (asks : act party = .ask .receive resume) (error : ChannelError) :
    left (resume (.error error)).next = 0 := by
  have counts := paced.counts party
  rw [asks] at counts
  exact counts.2 error

theorem stop_of_zero (paced : Paced act left) (nothing : left party = 0) : act party = .stop := by
  cases acts : act party with
  | stop => rfl
  | ask request resume => exact absurd (paced.asking acts) (Nat.not_lt.mpr (Nat.le_of_eq nothing))

/-- Each request that is answered brings a party closer to its rest. -/
theorem answered (paced : Paced act left) {next : Station} {request : Request}
    {resume : request.Answer → Turn σ} {answer : request.Answer}
    (asks : act party = .ask request resume)
    (answered : (station.answer request).run host = ((some answer, next), after)) :
    left (resume answer).next + requestsPerMessage * next.backlog after <
      left party + requestsPerMessage * station.backlog host := by
  by_cases receives : request = .receive
  · subst receives
    have fewer := Station.backlog_receive answered
    cases answer with
    | error error =>
      rw [paced.refused asks error]
      have asking := paced.asking asks
      have less := Nat.mul_le_mul_left requestsPerMessage (Nat.le_of_add_right_le fewer)
      omega
    | ok message =>
      have bounded := paced.bounded (resume (.ok message)).next
      have asking := paced.asking asks
      have less := Nat.mul_le_mul_left requestsPerMessage fewer
      replace less : requestsPerMessage * (next.backlog after + 1) ≤ _ := less
      rw [Nat.mul_add_one] at less
      omega
  · rw [Station.backlog_answer answered receives]
    exact Nat.add_lt_add_right (paced.quiet asks receives answer) _

theorem advanceFor_rests (paced : Paced act left) {limit : Nat} {moved : Bool}
    {advanced : Advanced σ}
    (enough : left party + requestsPerMessage * station.backlog host < limit)
    (ran : (advanceFor act pause limit moved party station).run host = (advanced, after)) :
    advanced.Rests act pause after := by
  induction limit generalizing moved party station host with
  | zero => exact absurd enough (Nat.not_lt_zero _)
  | succ limit ih =>
    unfold advanceFor at ran
    split at ran
    · next stops =>
      cases ran
      exact stops
    · next request resume asks =>
      rcases answered : (station.answer request).run host with ⟨⟨answer?, next⟩, middle⟩
      rw [HostM.run_bind_eq answered] at ran
      cases answer? with
      | none =>
        cases ran
        obtain rfl := Station.answer_none answered
        cases request with
        | receive => exact ⟨⟨resume, asks⟩, host, answered⟩
        | _ => cases congrArg (fun result => result.1.1) answered
      | some answer =>
        obtain ⟨written, told⟩ := report_run (resume answer).notices middle
        dsimp only at ran
        rw [HostM.run_bind_eq told] at ran
        split at ran
        · next pauses =>
          cases ran
          exact pauses
        · refine ih ?_ ran
          have closer := paced.answered asks answered
          exact Nat.lt_of_lt_of_le closer (Nat.le_of_lt_succ enough)

theorem advance_rests (paced : Paced act left) {advanced : Advanced σ}
    (ran : (advance act pause party station).run host = (advanced, after)) :
    advanced.Rests act pause after := by
  rw [advance, HostM.run_get_bind] at ran
  refine paced.advanceFor_rests ?_ ran
  have bounded := paced.bounded party
  have some_requests : 0 < requestsPerMessage := by decide
  rw [Nat.mul_add]
  omega

theorem standing_of_stop {advanced : Advanced σ} (stops : act party = .stop)
    (ran : (advance act pause party station).run host = (advanced, after)) :
    advanced.standing = .stopped := by
  rw [advance_of_stop stops] at ran
  cases ran
  rfl

/-- If its wait is bounded, a party that waits comes to a stop. -/
theorem expire_of_waits (paced : Paced act left) {next? : Option σ}
    (waits : Waits act party station host)
    (ran : (expire act party station).run host = (next?, after)) :
    next?.elim (station.wait = .unbounded) (act · = .stop) := by
  unfold expire at ran
  split at ran
  · next asks _ _ =>
    cases congrArg (·.1) ran
    exact paced.stop_of_zero (paced.refused asks _)
  · next never =>
    cases ran
    obtain ⟨⟨resume, asks⟩, before, nothing⟩ := waits
    obtain ⟨stage, transport, wait, memory, reader, writer⟩ := station
    cases wait with
    | unbounded => rfl
    | atMost limit =>
      cases transport with
      | none => cases congrArg (fun result => result.1.1) nothing
      | some transport => exact (never resume limit transport asks rfl rfl).elim

/-- A party that is alone, and that has neither stopped nor paused, waits without end. -/
theorem advanceAlone_rests (paced : Paced act left) {advanced : Advanced σ}
    (ran : (advanceAlone act pause party station).run host = (advanced, after)) :
    advanced.Rests act pause after ∧
      (advanced.standing = .waiting → advanced.station.wait = .unbounded) := by
  rcases first : (advance act pause party station).run host with ⟨early, middle⟩
  have rests := paced.advance_rests first
  rw [advanceAlone, HostM.run_bind_eq first] at ran
  split at ran
  · next stopped =>
    cases ran
    exact ⟨rests, fun waits => by cases stopped.symm.trans waits⟩
  · next paused =>
    cases ran
    exact ⟨rests, fun waits => by cases paused.symm.trans waits⟩
  · next waiting =>
    obtain ⟨standing, moved, party, station⟩ := early
    cases waiting
    rcases ended : (expire act party station).run middle with ⟨next?, late⟩
    have resting := paced.expire_of_waits rests ended
    rw [HostM.run_bind_eq ended] at ran
    cases next? with
    | none =>
      cases Performs.host_of_expire_none ended
      cases ran
      exact ⟨rests, fun _ => resting⟩
    | some next =>
      dsimp only at ran
      split at ran
      · next pauses =>
        cases ran
        exact ⟨pauses, fun waits => by cases waits⟩
      · have stopped := standing_of_stop resting ran
        exact ⟨paced.advance_rests ran, fun waits => by cases stopped.symm.trans waits⟩

end Paced

/-!
## Engines
-/

namespace Sender

/-- How many requests a sender makes, at most, before it hears the next message. -/
def requestsLeft (sender : Sender) : Nat :=
  match sender.phase with
  | .idle | .ready => 4
  | .filling => 3
  | .announcing _ => 2
  | .awaiting _ => 1
  | .completed | .failed _ => 0

theorem requestsLeft_le (sender : Sender) : sender.requestsLeft ≤ requestsPerMessage := by
  unfold requestsLeft requestsPerMessage
  split <;> omega

theorem counts (address : UInt64) (sender : Sender) :
    (sender.action address).Counts requestsLeft sender.requestsLeft := by
  obtain ⟨phase, progress⟩ := sender
  cases phase with
  | awaiting => exact ⟨Nat.zero_lt_succ _, fun _ => rfl⟩
  | completed | failed => rfl
  | idle | ready => exact ⟨Nat.zero_lt_succ _, fun _ => Nat.lt_succ_self _⟩
  | filling =>
    refine ⟨Nat.zero_lt_succ _, fun answer => ?_⟩
    cases answer with
    | error => exact Nat.zero_lt_succ _
    | ok length => exact Nat.lt_succ_self _
  | announcing length =>
    refine ⟨Nat.zero_lt_succ _, fun answer => ?_⟩
    cases answer with
    | error => exact Nat.zero_lt_succ _
    | ok =>
      by_cases nothing : length = 0 <;>
        simp [requestsLeft, complete, goTo, Turn.silent, nothing]

end Sender

namespace Receiver

def requestsLeft (receiver : Receiver) : Nat :=
  match receiver.phase with
  | .draining _ => 4
  | .idle | .clearing _ => 3
  | .introducing | .acknowledging _ => 2
  | .ready | .flushing => 1
  | .completed | .failed _ => 0

theorem requestsLeft_le (receiver : Receiver) : receiver.requestsLeft ≤ requestsPerMessage := by
  unfold requestsLeft requestsPerMessage
  split <;> omega

theorem counts (address : UInt64) (capacity : Nat) (receiver : Receiver) :
    (receiver.action address capacity).Counts requestsLeft receiver.requestsLeft := by
  obtain ⟨phase, progress⟩ := receiver
  cases phase with
  | ready => exact ⟨Nat.zero_lt_succ _, fun _ => rfl⟩
  | completed | failed => rfl
  | idle | clearing => exact ⟨Nat.zero_lt_succ _, fun _ => Nat.lt_succ_self _⟩
  | _ =>
    refine ⟨Nat.zero_lt_succ _, fun answer => ?_⟩
    cases answer <;> exact Nat.lt_add_one_of_le (Nat.le_add_left _ _)

end Receiver

namespace Engine

def requestsLeft : Engine → Nat
  | .sending sender => sender.requestsLeft
  | .receiving receiver => receiver.requestsLeft

theorem paced (address : UInt64) (capacity : Nat) :
    Paced (Engine.action address capacity) requestsLeft where
  bounded party := by
    cases party with
    | sending sender => exact sender.requestsLeft_le
    | receiving receiver => exact receiver.requestsLeft_le
  counts party := by
    cases party with
    | sending sender => exact .map requestsLeft .sending (sender.counts address)
    | receiving receiver => exact .map requestsLeft .receiving (receiver.counts address capacity)

/-- An engine has ended once it has stopped. -/
theorem isTerminal_iff_stop (address : UInt64) (capacity : Nat) (engine : Engine) :
    engine.state.isTerminal = true ↔ engine.action address capacity = .stop := by
  refine ⟨fun terminal => action_of_isTerminal terminal address capacity, fun stops => ?_⟩
  cases engine with
  | sending sender =>
    obtain ⟨phase, progress⟩ := sender
    cases phase <;> first | rfl | cases stops
  | receiving receiver =>
    obtain ⟨phase, progress⟩ := receiver
    cases phase <;> first | rfl | cases stops

end Engine

/-!
## Peers
-/

namespace Sink

/-- How many requests a sink makes, at most, before it hears the next message. -/
def requestsLeft (sink : Sink) : Nat :=
  match sink.phase with
  | .fetching _ _ => 4
  | .draining _ => 3
  | .acknowledging _ => 2
  | .awaiting | .flushing => 1
  | .finished | .failed _ => 0

theorem requestsLeft_le (sink : Sink) : sink.requestsLeft ≤ requestsPerMessage := by
  unfold requestsLeft requestsPerMessage
  split <;> omega

theorem counts (capacity : Nat) (sink : Sink) :
    (sink.action capacity).Counts requestsLeft sink.requestsLeft := by
  obtain ⟨phase, progress⟩ := sink
  cases phase with
  | awaiting => exact ⟨Nat.zero_lt_succ _, fun _ => rfl⟩
  | finished | failed => rfl
  | _ =>
    refine ⟨Nat.zero_lt_succ _, fun answer => ?_⟩
    cases answer <;> exact Nat.lt_add_one_of_le (Nat.le_add_left _ _)

end Sink

namespace Source

def requestsLeft (source : Source) : Nat :=
  match source.phase with
  | .filling _ => 4
  | .placing _ _ => 3
  | .announcing _ _ => 2
  | .opening | .awaiting _ _ => 1
  | .finished | .failed _ => 0

theorem requestsLeft_le (source : Source) : source.requestsLeft ≤ requestsPerMessage := by
  unfold requestsLeft requestsPerMessage
  split <;> omega

theorem counts (source : Source) : source.action.Counts requestsLeft source.requestsLeft := by
  obtain ⟨phase, progress⟩ := source
  cases phase with
  | opening | awaiting => exact ⟨Nat.zero_lt_succ _, fun _ => rfl⟩
  | finished | failed => rfl
  | filling =>
    refine ⟨Nat.zero_lt_succ _, fun answer => ?_⟩
    cases answer with
    | error => exact Nat.zero_lt_succ _
    | ok length =>
      by_cases nothing : length = 0 <;> simp [requestsLeft, goTo, Turn.silent, nothing]
  | placing =>
    refine ⟨Nat.zero_lt_succ _, fun answer => ?_⟩
    cases answer with
    | error => exact Nat.zero_lt_succ _
    | ok => exact Nat.lt_succ_self _
  | announcing address length =>
    refine ⟨Nat.zero_lt_succ _, fun answer => ?_⟩
    cases answer with
    | error => exact Nat.zero_lt_succ _
    | ok =>
      by_cases nothing : length = 0 <;>
        simp [requestsLeft, finish, goTo, Turn.silent, nothing]

end Source

namespace Peer

def requestsLeft : Peer → Nat
  | .greeting _ _ => 1
  | .sinking sink => sink.requestsLeft
  | .sourcing source => source.requestsLeft
  | .refused _ => 0

theorem paced (capacity : Nat) : Paced (Peer.action capacity) requestsLeft where
  bounded party := by
    cases party with
    | greeting => exact Nat.le_add_left 1 7
    | sinking sink => exact sink.requestsLeft_le
    | sourcing source => exact source.requestsLeft_le
    | refused => exact Nat.zero_le _
  counts party := by
    cases party with
    | greeting => exact ⟨Nat.zero_lt_succ _, fun _ => rfl⟩
    | sinking sink => exact .map requestsLeft .sinking (sink.counts capacity)
    | sourcing source => exact .map requestsLeft .sourcing source.counts
    | refused => rfl

/-- A peer has an outcome once it has stopped. -/
theorem outcome_isSome_iff (capacity : Nat) (peer : Peer) :
    peer.outcome?.isSome ↔ action capacity peer = .stop := by
  cases peer with
  | greeting | refused => simp [outcome?, action]
  | sinking sink =>
    obtain ⟨phase, progress⟩ := sink
    cases phase <;> simp [outcome?, action, Sink.action, Action.map]
  | sourcing source =>
    obtain ⟨phase, progress⟩ := source
    cases phase <;> simp [outcome?, action, Source.action, Action.map]

/-- A peer that is played alone ends, unless it waits without end for a message that is not
there. -/
theorem run_ends {mode : PeerMode} {capacity : Nat} {station left : Station} {host after : Host}
    {outcome : Option (Except RelayError (PeerRole × Progress))}
    (ran : (Peer.run mode capacity station).run host = ((outcome, left), after)) :
    outcome.isSome ∨ station.wait = .unbounded ∧ ∃ transport before,
      station.transport = some transport ∧ transport.poll.run before = (none, after) := by
  rcases advanced : (advanceAlone (action capacity) (fun _ => false) (fresh mode) station).run host
    with ⟨⟨standing, moved, party, last⟩, later⟩
  obtain ⟨rests, unending⟩ := (paced capacity).advanceAlone_rests advanced
  obtain ⟨log, performs⟩ := Performs.of_advanceAlone advanced
  obtain ⟨sameTransport, sameRest⟩ := Prod.mk.inj performs.surroundings
  rw [run, HostM.run_bind_eq advanced] at ran
  cases ran
  cases standing with
  | stopped => exact .inl ((outcome_isSome_iff capacity party).mpr rests)
  | paused => cases rests
  | waiting =>
    obtain ⟨_, before, nothing⟩ := rests
    obtain ⟨transport, present, polled⟩ := Station.poll_of_unanswered nothing
    exact .inr ⟨(Prod.mk.inj sameRest).1.symm.trans (unending rfl), transport, before,
      sameTransport.symm.trans present, polled⟩

end Peer

end ChunkRelay
