import ChunkRelay.Proofs.Exchange.Bound
import ChunkRelay.Proofs.Session.Turns

/-! How many rounds a session and a service go on for. A session that moves in
a round counts a chunk, or it comes to its end; a service that moves in a round
in which its session does not has just been connected. So a session is over
after some rounds, or both stall, or it has counted a chunk for almost each of
the rounds. -/

set_option autoImplicit false

namespace ChunkRelay

/-!
## A session at rest
-/

namespace Engine

variable {address : UInt64} {capacity : Nat} {engine : Engine}

theorem role_next {request : Request} {resume : request.Answer → Turn Engine}
    (asks : engine.action address capacity = .ask request resume)
    (answer : request.Answer) : (resume answer).next.role = engine.role := by
  cases engine with
  | sending sender =>
    cases acts : sender.action address with
    | stop => simp [action, acts, Action.map] at asks
    | ask own continue_ =>
      simp only [action, acts, Action.map] at asks
      cases asks
      rfl
  | receiving receiver =>
    cases acts : receiver.action address capacity with
    | stop => simp [action, acts, Action.map] at asks
    | ask own continue_ =>
      simp only [action, acts, Action.map] at asks
      cases asks
      rfl

/-- The rank of an engine, put so that engines of both roles that wait have the same height for the
same number of chunks. -/
def height (engine : Engine) : Nat :=
  engine.rank + match engine.role with
    | .sender => 0
    | .receiver => 1

theorem height_raises (address : UInt64) (capacity : Nat) :
    Raises (Engine.action address capacity) height := by
  intro engine request resume asks answer
  have raised := rank_lt asks answer
  rw [height, height, role_next asks answer]
  exact Nat.add_lt_add_right raised _

theorem height_of_receive {resume : Request.receive.Answer → Turn Engine}
    (asks : engine.action address capacity = .ask .receive resume) :
    engine.height = 4 * engine.progress.chunks + 3 := by
  cases engine with
  | sending sender =>
    obtain ⟨phase, progress⟩ := sender
    cases phase <;> first | rfl | cases asks
  | receiving receiver =>
    obtain ⟨phase, progress⟩ := receiver
    cases phase <;> first | rfl | cases asks

theorem height_le (engine : Engine) : engine.height ≤ 4 * engine.progress.chunks + 7 := by
  cases engine with
  | sending sender => exact Nat.le_trans sender.rank_le (Nat.add_le_add_left (by decide) _)
  | receiving receiver => exact Nat.succ_le_succ receiver.rank_le

end Engine

namespace Session

variable {session next : Session} {host after : Host}

theorem isOver_iff_stop (session : Session) :
    session.isOver = true ↔ session.action session.engine = .stop :=
  Engine.isTerminal_iff_stop _ _ session.engine

/-- A session that is let act is over then, or it waits. -/
theorem advance_rests {moved : Bool} (ran : session.advance.run host = ((moved, next), after)) :
    next.isOver = true ∨ Waits next.action next.engine next.station after := by
  obtain ⟨⟨standing, moved, engine, station⟩, acted, _, rfl⟩ := advance_inv ran
  have rests := (Engine.paced _ _).advance_rests acted
  cases standing with
  | stopped => exact .inl ((Engine.isTerminal_iff_stop _ _ engine).mpr rests)
  | paused => cases rests
  | waiting => exact .inr rests

theorem advance_raises (ran : session.advance.run host = ((true, next), after)) :
    session.engine.height < next.engine.height := by
  obtain ⟨advanced, acted, moved, rfl⟩ := advance_inv ran
  exact ChunkRelay.advance_raises (Engine.height_raises _ _) acted moved.symm

/-- A session that has moved and is not over has counted a chunk since it waited. -/
theorem height_of_advance (ran : session.advance.run host = ((true, next), after))
    (running : next.isOver = false) :
    session.engine.height < next.engine.height ∧
      next.engine.height = 4 * next.engine.progress.chunks + 3 := by
  refine ⟨advance_raises ran, ?_⟩
  rcases advance_rests ran with finished | ⟨⟨resume, asks⟩, _⟩
  · cases running.symm.trans finished
  · exact Engine.height_of_receive asks

theorem advance_unmoved (ran : session.advance.run host = ((false, next), after)) :
    next = session ∧ after = host := by
  obtain ⟨advanced, acted, moved, rfl⟩ := advance_inv ran
  obtain ⟨party, station, rfl⟩ := ChunkRelay.advance_unmoved acted moved.symm
  exact ⟨by rw [party, station], rfl⟩

/-- A session that is over does nothing more. -/
theorem advance_of_isOver (finished : session.isOver = true) :
    session.advance.run host = ((false, session), host) := by
  rw [advance, HostM.run_bind_eq (advance_of_stop (session.isOver_iff_stop.mp finished))]
  rfl

/-- If its wait is bounded, a session that waits comes to its end. -/
theorem expire_of_waits (waits : Waits session.action session.engine session.station host)
    {next? : Option Session} (ran : session.expire.run host = (next?, after)) :
    next?.elim (session.station.wait = .unbounded) (·.isOver = true) := by
  obtain ⟨engine?, ended, rfl⟩ := expire_inv ran
  have ends := (Engine.paced _ _).expire_of_waits waits ended
  cases engine? with
  | none => exact ends
  | some engine => exact (Engine.isTerminal_iff_stop _ _ engine).mpr ends

end Session

/-!
## A service at rest
-/

theorem Acceptor.host_of_accept_none (acceptor : Acceptor) {host after : Host}
    (ran : acceptor.accept.run host = (none, after)) : after = host := by
  cases acceptor with
  | parkedEnds =>
    rw [accept, HostM.run_get_bind] at ran
    cases accepted : host.hub.accept <;> rw [accepted] at ran <;> cases ran
    rfl
  | listener listening port =>
    rcases found : (acceptFrom listening).run host with ⟨wire?, middle⟩
    rw [accept, HostM.run_bind_eq found] at ran
    cases wire? with
    | some wire => cases congrArg (·.1) ran
    | none =>
      cases ran
      rw [acceptFrom, HostM.run_get_bind] at found
      split at found <;> cases found
      rfl

namespace Service

/-- A service whose peer, if there is one, has not stopped. -/
def Awake : Service → Prop
  | .serving _ peer _ => peer.outcome? = none
  | .accepting _ _ | .finished _ _ => True

/-- A service moves in so many rounds at most in which its session does not. -/
def Within (host : Host) (left : Nat) : Service → Prop
  | .accepting _ _ => 3 ≤ left
  | .serving capacity peer station =>
    2 ≤ left ∨ 1 ≤ left ∧ Waits (Peer.action capacity) peer station host
  | .finished _ _ => True

section Finished

variable {service : Service} {outcome : Except RelayError (PeerRole × Progress)} {writer : Writer}
  (ends : service = .finished outcome writer)
include ends

theorem Awake.of_finished : service.Awake := by
  rw [ends]
  trivial

theorem Within.of_finished (host : Host) (left : Nat) : service.Within host left := by
  rw [ends]
  trivial

end Finished

section Serving

variable {capacity : Nat} {peer : Peer} {station : Station} {host after : Host} {next : Service}

theorem settle_cases (ran : (settle capacity peer station).run host = (next, after)) :
    (peer.outcome? = none ∧ next = .serving capacity peer station ∧ after = host) ∨
      ∃ outcome writer, peer.outcome? = some outcome ∧ next = .finished outcome writer := by
  unfold settle at ran
  split at ran
  · next running =>
    cases ran
    exact .inl ⟨running, rfl, rfl⟩
  · next outcome ended =>
    cases present : station.transport with
    | none =>
      rw [present] at ran
      cases ran
      exact .inr ⟨outcome, _, ended, rfl⟩
    | some transport =>
      rw [present] at ran
      cases ran
      exact .inr ⟨outcome, _, ended, rfl⟩

/-- A service whose peer was let act has ended, or its peer waits. -/
theorem rests_of_advance {served : Bool}
    (ran : (advance (.serving capacity peer station)).run host = ((served, next), after)) :
    (∃ outcome writer, next = .finished outcome writer) ∨
      ∃ peer station, next = .serving capacity peer station ∧ peer.outcome? = none ∧
        Waits (Peer.action capacity) peer station after := by
  obtain ⟨⟨standing, moved, party, last⟩, middle, acted, _, settled⟩ := advance_serving ran
  have rests := (Peer.paced capacity).advance_rests acted
  rcases settle_cases settled with ⟨running, rfl, rfl⟩ | ⟨outcome, writer, _, rfl⟩
  · refine .inr ⟨party, last, rfl, running, ?_⟩
    cases standing with
    | stopped =>
      have ended := (Peer.outcome_isSome_iff capacity party).mpr rests
      rw [running] at ended
      cases ended
    | paused => cases rests
    | waiting => exact rests
  · exact .inl ⟨outcome, writer, rfl⟩

/-- If its wait is bounded, a service whose peer waits comes to its end. -/
theorem expire_of_waits (waits : Waits (Peer.action capacity) peer station host)
    {next? : Option Service}
    (ran : (expire (.serving capacity peer station)).run host = (next?, after)) :
    next?.elim (station.wait = .unbounded) fun next =>
      ∃ outcome writer, next = .finished outcome writer := by
  rcases expire_serving ran with ⟨ended, rfl⟩ | ⟨party, middle, next, ended, settled, rfl⟩
  · exact (Peer.paced capacity).expire_of_waits waits ended
  · have stops := (Peer.paced capacity).expire_of_waits waits ended
    rcases settle_cases settled with ⟨running, _⟩ | ⟨outcome, writer, _, rfl⟩
    · have stopped := (Peer.outcome_isSome_iff capacity party).mpr stops
      rw [running] at stopped
      cases stopped
    · exact ⟨outcome, writer, rfl⟩

end Serving

variable {service next : Service} {host middle after : Host} {served : Bool} {left : Nat}

/-- A service that was connected, was let act and serves still waits. -/
theorem waits_of_advance (ran : service.advance.run host = ((served, next), after))
    (connected : ∀ acceptor config, service ≠ .accepting acceptor config) {capacity : Nat}
    {peer : Peer} {station : Station} (serves : next = .serving capacity peer station) :
    Waits (Peer.action capacity) peer station after := by
  cases service with
  | accepting acceptor config => exact absurd rfl (connected acceptor config)
  | finished outcome writer =>
    cases ran
    cases serves
  | serving capacity peer station =>
    rcases rests_of_advance ran with ⟨outcome, writer, rfl⟩ | ⟨_, _, rfl, _, waits⟩
    · cases serves
    · cases serves
      exact waits

theorem awake_onTransport (config : ServiceConfig) (transport : Transport) :
    (onTransport config transport).Awake := by
  rw [onTransport]
  cases config.mode <;> rfl

theorem advance_unmoved (awake : service.Awake)
    (ran : service.advance.run host = ((false, next), after)) : next = service ∧ after = host := by
  cases service with
  | accepting acceptor config =>
    obtain ⟨_ | transport, found, served, rfl⟩ := advance_accepting ran
    · exact ⟨rfl, acceptor.host_of_accept_none found⟩
    · cases served
  | serving capacity peer station =>
    obtain ⟨⟨_, _, party, last⟩, middle, acted, served, settled⟩ := advance_serving ran
    obtain ⟨rfl, rfl, rfl⟩ := ChunkRelay.advance_unmoved acted served.symm
    rw [settle, show party.outcome? = none from awake] at settled
    cases settled
    exact ⟨rfl, rfl⟩
  | finished outcome writer =>
    cases ran
    exact ⟨rfl, rfl⟩

theorem awake_of_advance (awake : service.Awake)
    (ran : service.advance.run host = ((served, next), after)) : next.Awake := by
  cases service with
  | accepting acceptor config =>
    obtain ⟨_ | transport, _, _, rfl⟩ := advance_accepting ran
    · trivial
    · exact awake_onTransport config transport
  | serving capacity peer station =>
    rcases rests_of_advance ran with ⟨outcome, writer, rfl⟩ | ⟨peer, station, rfl, running, _⟩
    · trivial
    · exact running
  | finished outcome writer =>
    cases ran
    trivial

/-- Being let act never gives a service more rounds. -/
theorem Within.advance (within : service.Within host left)
    (ran : service.advance.run middle = ((served, next), after)) : next.Within after left := by
  cases service with
  | accepting acceptor config =>
    obtain ⟨_ | transport, _, _, rfl⟩ := advance_accepting ran
    · exact within
    · exact .inl (Nat.le_of_succ_le within)
  | serving capacity peer station =>
    have positive : 1 ≤ left := within.elim Nat.le_of_succ_le And.left
    rcases rests_of_advance ran with ⟨outcome, writer, rfl⟩ | ⟨peer, station, rfl, _, waits⟩
    · trivial
    · exact .inr ⟨positive, waits⟩
  | finished outcome writer =>
    cases ran
    trivial

theorem Within.like {other : Host} (within : service.Within host left) (like : host.Like other) :
    service.Within other left := by
  cases service with
  | serving capacity peer station => exact within.imp_right (And.imp_right (Waits.like · like))
  | accepting acceptor config | finished outcome writer => exact within

/-- A service that moves on a host that its session has left alone has one round less. -/
theorem Within.moved (within : service.Within host left)
    (ran : service.advance.run host = ((true, next), after)) :
    ∃ fewer, left = fewer + 1 ∧ next.Within after fewer := by
  cases service with
  | accepting acceptor config =>
    obtain ⟨_ | transport, _, served, rfl⟩ := advance_accepting ran
    · cases served
    · obtain ⟨fewer, rfl⟩ := Nat.exists_eq_add_of_le' (Nat.le_of_add_left_le within : 1 ≤ left)
      exact ⟨fewer, rfl, .inl (Nat.le_of_succ_le_succ within)⟩
  | serving capacity peer station =>
    rcases within with two | ⟨_, waits⟩
    · obtain ⟨fewer, rfl⟩ := Nat.exists_eq_add_of_le' (Nat.le_of_succ_le two)
      refine ⟨fewer, rfl, ?_⟩
      rcases rests_of_advance ran with ⟨outcome, writer, rfl⟩ | ⟨peer, station, rfl, _, waits⟩
      · trivial
      · exact .inr ⟨Nat.le_of_succ_le_succ two, waits⟩
    · rw [Service.advance, HostM.run_bind_eq waits.advance] at ran
      cases congrArg (fun result => result.1.1) ran
  | finished outcome writer => cases congrArg (fun result => result.1.1) ran

end Service

/-!
## Rounds
-/

namespace Pair

/-- A session that is not over and its service, when neither does anything if it is let act. -/
structure Stalls (pair : Pair) (host : Host) : Prop where
  running : pair.session.isOver = false
  session : pair.session.advance.run host = ((false, pair.session), host)
  service : pair.service.advance.run host = ((false, pair.service), host)

namespace Stalls

variable {pair : Pair} {host after : Host}

theorem session_waits (stalls : pair.Stalls host) :
    Waits pair.session.action pair.session.engine pair.session.station host := by
  refine (Session.advance_rests stalls.session).resolve_left fun finished => ?_
  cases stalls.running.symm.trans finished

theorem service_waits (stalls : pair.Stalls host) {capacity : Nat} {peer : Peer}
    {station : Station} (serves : pair.service = .serving capacity peer station) :
    Waits (Peer.action capacity) peer station host := by
  have ran := stalls.service
  rw [serves] at ran
  rcases Service.rests_of_advance ran with ⟨outcome, writer, same⟩ | ⟨_, _, same, _, waits⟩
  · cases same
  · cases same
    exact waits

theorem of_unmoved {session : Session} {service : Service} {middle late : Host}
    (awake : pair.service.Awake)
    (advanced : pair.session.advance.run host = ((false, session), middle))
    (running : session.isOver = false)
    (answered : (unnoticed pair.service.advance).run middle = ((false, service), late)) :
    pair = ⟨session, service⟩ ∧ late = host ∧ pair.Stalls host := by
  obtain ⟨rfl, rfl⟩ := Session.advance_unmoved advanced
  obtain ⟨during, acted, rfl⟩ := unnoticed_run answered
  obtain ⟨rfl, rfl⟩ := Service.advance_unmoved awake acted
  exact ⟨rfl, rfl, running, advanced, acted⟩

end Stalls

theorem serving_of_expiresFirst {pair : Pair} (later : pair.sessionExpiresFirst = false) :
    ∃ capacity peer station limit, pair.service = .serving capacity peer station ∧
      station.wait = .atMost limit := by
  obtain ⟨session, service⟩ := pair
  unfold sessionExpiresFirst at later
  dsimp only at later
  generalize session.station.wait = own at later
  cases service with
  | serving capacity peer station =>
    obtain ⟨stage, transport, wait, memory, reader, writer⟩ := station
    cases wait with
    | atMost limit => exact ⟨capacity, peer, _, limit, rfl, rfl⟩
    | unbounded => cases own <;> cases later
  | accepting acceptor config | finished outcome writer =>
    cases own <;> cases later

/-- If both stall, the session waits without end, or a wait runs out and ends one of them. -/
theorem Stalls.expire {pair : Pair} {host after : Host} (stalls : pair.Stalls host)
    {next? : Option Pair} (ran : pair.expire.run host = (next?, after)) :
    match next? with
    | none => pair.session.station.wait = .unbounded ∧ after = host
    | some next => next.session.isOver = true ∨ next.session = pair.session ∧
        (∃ capacity peer station, pair.service = .serving capacity peer station) ∧
        ∃ outcome writer, next.service = .finished outcome writer := by
  unfold Pair.expire at ran
  split at ran
  · rcases ended : pair.session.expire.run host with ⟨session?, middle⟩
    have ends := Session.expire_of_waits stalls.session_waits ended
    rw [HostM.run_bind_eq ended] at ran
    cases session? with
    | none =>
      cases ran
      exact ⟨ends, Session.host_of_expire_none ended⟩
    | some session =>
      cases ran
      exact .inl ends
  · next later =>
    obtain ⟨capacity, peer, station, limit, serves, bounded⟩ :=
      serving_of_expiresFirst (Bool.eq_false_iff.mpr later)
    rcases ended : (unnoticed pair.service.expire).run host with ⟨service?, middle⟩
    rw [HostM.run_bind_eq ended] at ran
    obtain ⟨during, waited, rfl⟩ := unnoticed_run ended
    rw [serves] at waited
    have ends := Service.expire_of_waits (stalls.service_waits serves) waited
    cases service? with
    | none => cases bounded.symm.trans ends
    | some service =>
      cases ran
      exact .inr ⟨rfl, ⟨capacity, peer, station, serves⟩, ends⟩

theorem isOver_of_runFor {pair final : Pair} {host after : Host} {rounds : Nat}
    (finished : pair.session.isOver = true)
    (ran : (pair.runFor rounds).run host = (final, after)) : final.session.isOver = true := by
  cases rounds with
  | zero =>
    cases ran
    exact finished
  | succ rounds =>
    have advanced : pair.session.advance.run host = ((false, pair.session), host) :=
      Session.advance_of_isOver finished
    rw [runFor, HostM.run_bind_eq advanced] at ran
    dsimp only at ran
    rw [if_pos finished] at ran
    cases ran
    exact finished

/-- After some rounds the session is over, or both stall and it waits without end, or it has counted
a chunk for almost each of the rounds. -/
theorem runFor_ends {rounds floor left : Nat} {pair final : Pair} {host after : Host}
    (ran : (pair.runFor rounds).run host = (final, after)) (awake : pair.service.Awake)
    (within : pair.service.Within host left)
    (counted : 4 * floor ≤ pair.session.engine.height + 1) :
    final.session.isOver = true ∨
      (final.Stalls after ∧ final.session.station.wait = .unbounded) ∨
      rounds + floor ≤ final.session.engine.progress.chunks + 2 + left := by
  induction rounds generalizing floor left pair host with
  | zero =>
    cases ran
    have bounded := final.session.engine.height_le
    exact .inr (.inr (by omega))
  | succ rounds ih =>
    cases Round.of_runFor ran with
    | concluded advanced finished => exact .inl finished
    | @acted moved served session service _ _ _ _ advanced running answered some_move goesOn =>
      obtain ⟨during, acted, forgets⟩ := unnoticed_like answered
      have stays := Service.awake_of_advance awake acted
      cases moved with
      | true =>
        have counts := Session.height_of_advance advanced running
        have later := ih goesOn stays ((within.advance acted).like forgets)
          (by omega : 4 * (floor + 1) ≤ session.engine.height + 1)
        exact later.imp_right (Or.imp_right fun bound => by omega)
      | false =>
        obtain ⟨rfl, rfl⟩ := Session.advance_unmoved advanced
        obtain rfl : served = true := some_move.resolve_left Bool.false_ne_true
        obtain ⟨fewer, rfl, less⟩ := within.moved acted
        have later := ih goesOn stays (less.like forgets) counted
        exact later.imp_right (Or.imp_right fun bound => by omega)
    | expired advanced running answered ended goesOn =>
      obtain ⟨rfl, rfl, stalls⟩ := Stalls.of_unmoved awake advanced running answered
      rcases stalls.expire ended with
        finished | ⟨same, ⟨capacity, peer, station, serves⟩, outcome, writer, left_off⟩
      · exact .inl (isOver_of_runFor finished goesOn)
      · rw [serves] at within
        have positive : 1 ≤ left := within.elim Nat.le_of_succ_le And.left
        obtain ⟨fewer, rfl⟩ := Nat.exists_eq_add_of_le' positive
        rw [← same] at counted
        have later := ih goesOn (.of_finished left_off) (.of_finished left_off _ fewer) counted
        exact later.imp_right (Or.imp_right fun bound => by omega)
    | stalled advanced running answered ended =>
      obtain ⟨same, rfl, stalls⟩ := Stalls.of_unmoved awake advanced running answered
      rw [same] at stalls
      obtain ⟨unbounded, rfl⟩ := stalls.expire ended
      exact .inr (.inl ⟨stalls, unbounded⟩)

/-- What there is to be moved, as far as it has an end: the bytes of both readers, and the events of
both writers. -/
def matter (pair : Pair) (host : Host) : Nat :=
  pair.session.station.reader.supply host.files + pair.service.supply host.files +
    (pair.session.station.writer.pending + pair.service.pendingWrites)

/-- In the end the session is over, or both stall and it waits without end, or it has counted more
chunks than there was to be moved, twice over. -/
theorem run_ends {pair final : Pair} {host after : Host} (awake : pair.service.Awake)
    (ran : pair.run.run host = (final, after)) :
    final.session.isOver = true ∨
      (final.Stalls after ∧ final.session.station.wait = .unbounded) ∨
      2 * pair.matter host + 10 < final.session.engine.progress.chunks := by
  have within : pair.service.Within host 3 := by
    obtain ⟨session, service⟩ := pair
    cases service with
    | accepting acceptor config => exact Nat.le_refl 3
    | serving capacity peer station => exact .inl (Nat.le_succ 2)
    | finished outcome writer => trivial
  have floor : 4 * 0 ≤ pair.session.engine.height + 1 := Nat.zero_le _
  rw [run, HostM.run_get_bind] at ran
  refine (runFor_ends ran awake within floor).imp_right (Or.imp_right fun bound => ?_)
  have rounds : pair.rounds host = 2 * pair.matter host + 16 := rfl
  omega

/-- Something about a pair and its host that is kept when either acts, and that the two never stall
with. -/
structure Going (holds : Pair → Host → Prop) : Prop where
  awake {pair : Pair} {host : Host} : holds pair host → pair.service.Awake
  sessionActs {pair : Pair} {host after : Host} {moved : Bool} {session : Session} :
    holds pair host → pair.session.advance.run host = ((moved, session), after) →
      holds { pair with session } after
  serviceActs {pair : Pair} {host after : Host} {served : Bool} {service : Service} :
    holds pair host → pair.service.advance.run host = ((served, service), after) →
      holds { pair with service } { after with notices := host.notices }
  goesOn {pair : Pair} {host : Host} : holds pair host → ¬ pair.Stalls host

namespace Going

variable {holds : Pair → Host → Prop} {pair final : Pair} {host after : Host}

theorem runFor (going : Going holds) {rounds : Nat} (held : holds pair host)
    (ran : (pair.runFor rounds).run host = (final, after)) : holds final after := by
  induction rounds generalizing pair host with
  | zero =>
    cases ran
    exact held
  | succ rounds ih =>
    have awake := going.awake held
    cases Round.of_runFor ran with
    | concluded advanced finished => exact going.sessionActs held advanced
    | acted advanced running answered some_move continued =>
      obtain ⟨during, acted, rfl⟩ := unnoticed_run answered
      exact ih (going.serviceActs (going.sessionActs held advanced) acted) continued
    | expired advanced running answered _ _ | stalled advanced running answered _ =>
      obtain ⟨_, _, stalls⟩ := Stalls.of_unmoved awake advanced running answered
      exact absurd stalls (going.goesOn held)

/-- Then the session is over in the end, or it has counted more chunks than there was to be moved,
twice over. -/
theorem run_ends (going : Going holds) (held : holds pair host)
    (ran : pair.run.run host = (final, after)) :
    holds final after ∧ (final.session.isOver = true ∨
      2 * pair.matter host + 10 < final.session.engine.progress.chunks) := by
  have ends := Pair.run_ends (going.awake held) ran
  rw [run, HostM.run_get_bind] at ran
  have stays := going.runFor held ran
  exact ⟨stays, ends.imp_right (Or.resolve_left · fun stalls => going.goesOn stays stalls.1)⟩

end Going

end Pair

end ChunkRelay
