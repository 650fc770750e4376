import ChunkRelay.Proofs.Transfer.Rest
import ChunkRelay.Session.Together

/-! What the turns of a session and of a service come to. A party performs, and
all else stays as it was. Whatever each kind of turn keeps is kept by the two in
any number of rounds. -/

set_option autoImplicit false

namespace ChunkRelay

/-- What an unnoticed action reports is forgotten. -/
theorem unnoticed_run {α : Type} {action : HostM α} {host after : Host} {result : α}
    (ran : (unnoticed action).run host = (result, after)) :
    ∃ during, action.run host = (result, during) ∧
      after = { during with notices := host.notices } := by
  cases ran
  exact ⟨_, rfl, rfl⟩

theorem unnoticed_like {α : Type} {action : HostM α} {host after : Host} {result : α}
    (ran : (unnoticed action).run host = (result, after)) :
    ∃ during, action.run host = (result, during) ∧ during.Like after := by
  obtain ⟨during, acted, rfl⟩ := unnoticed_run ran
  exact ⟨during, acted, _, rfl⟩

/-!
## A session
-/

/-- An engine that hears nothing in time has failed. -/
theorem Engine.isTerminal_of_unheard {engine : Engine} {address : UInt64} {capacity : Nat}
    {resume : Request.receive.Answer → Turn Engine}
    (asks : engine.action address capacity = .ask .receive resume) (error : ChannelError) :
    (resume (.error error)).next.state.isTerminal = true := by
  cases engine with
  | sending sender =>
    obtain ⟨phase, progress⟩ := sender
    cases phase with
    | awaiting length =>
      cases asks
      rfl
    | _ => cases asks
  | receiving receiver =>
    obtain ⟨phase, progress⟩ := receiver
    cases phase with
    | ready =>
      cases asks
      rfl
    | _ => cases asks

theorem Engine.isTerminal_of_expire {engine next : Engine} {address : UInt64} {capacity : Nat}
    {station : Station} {host after : Host}
    (ran : (expire (Engine.action address capacity) engine station).run host =
      (some next, after)) : next.state.isTerminal = true := by
  unfold expire at ran
  split at ran
  · next resume limit transport asks bounded present =>
    rcases ended : (transport.expire limit).run host with ⟨error, middle⟩
    rw [HostM.run_bind_eq ended] at ran
    cases ran
    exact Engine.isTerminal_of_unheard asks error
  · cases ran

namespace Session

variable {session next : Session} {host after : Host}

theorem advance_inv {moved : Bool} (ran : session.advance.run host = ((moved, next), after)) :
    ∃ advanced, (ChunkRelay.advance session.action (fun _ => false) session.engine
        session.station).run host = (advanced, after) ∧
      moved = advanced.moved ∧
      next = { session with engine := advanced.party, station := advanced.station } := by
  rcases acted : (ChunkRelay.advance session.action (fun _ => false) session.engine
    session.station).run host with ⟨advanced, late⟩
  rw [advance, HostM.run_bind_eq acted] at ran
  cases ran
  exact ⟨advanced, rfl, rfl, rfl⟩

theorem expire_inv {next? : Option Session} (ran : session.expire.run host = (next?, after)) :
    ∃ engine?, (ChunkRelay.expire session.action session.engine session.station).run host =
        (engine?, after) ∧ next? = engine?.map fun engine => { session with engine } := by
  rcases ended : (ChunkRelay.expire session.action session.engine session.station).run host with
    ⟨engine?, late⟩
  rw [expire, HostM.run_bind_eq ended] at ran
  cases ran
  exact ⟨engine?, rfl, rfl⟩

/-- A session that is advanced performs, and keeps what it has taken. -/
theorem advance_performs {moved : Bool}
    (ran : session.advance.run host = ((moved, next), after)) :
    ∃ log engine station, next = { session with engine, station } ∧
      Performs session.action ⟨session.engine, session.station, host⟩ log
        ⟨engine, station, after⟩ := by
  obtain ⟨advanced, acted, _, rfl⟩ := advance_inv ran
  obtain ⟨log, performs⟩ := Performs.of_advance acted
  exact ⟨log, _, _, rfl, performs⟩

theorem expire_performs (ran : session.expire.run host = (some next, after)) :
    ∃ log engine, next = { session with engine } ∧ engine.state.isTerminal = true ∧
      Performs session.action ⟨session.engine, session.station, host⟩ log
        ⟨engine, session.station, after⟩ := by
  obtain ⟨_ | engine, ended, same⟩ := expire_inv ran
  · cases same
  · cases same
    obtain ⟨log, performs⟩ := Performs.of_expire ended
    exact ⟨log, engine, rfl, Engine.isTerminal_of_expire ended, performs⟩

theorem host_of_expire_none (ran : session.expire.run host = (none, after)) : after = host := by
  obtain ⟨_ | engine, ended, same⟩ := expire_inv ran
  · exact Performs.host_of_expire_none ended
  · cases same

end Session

/-!
## A service
-/

namespace Service

/-- The peer of a service performs, and is let go of once it has ended. -/
def Serves (capacity : Nat) (peer : Peer) (station : Station) (host : Host) (next : Service)
    (after : Host) : Prop :=
  ∃ log last, Performs (Peer.action capacity) ⟨peer, station, host⟩ log last ∧
    (settle capacity last.party last.station).run last.host = (next, after)

variable {capacity : Nat} {peer : Peer} {station : Station} {host after : Host} {next : Service}

theorem advance_accepting {acceptor : Acceptor} {config : ServiceConfig} {served : Bool}
    (ran : (advance (.accepting acceptor config)).run host = ((served, next), after)) :
    ∃ transport?, acceptor.accept.run host = (transport?, after) ∧ served = transport?.isSome ∧
      next = transport?.elim (.accepting acceptor config) (onTransport config) := by
  rcases found : acceptor.accept.run host with ⟨transport?, late⟩
  rw [advance, HostM.run_bind_eq found] at ran
  cases transport? with
  | none =>
    cases ran
    exact ⟨none, rfl, rfl, rfl⟩
  | some transport =>
    cases ran
    exact ⟨some transport, rfl, rfl, rfl⟩

theorem advance_serving {served : Bool}
    (ran : (advance (.serving capacity peer station)).run host = ((served, next), after)) :
    ∃ advanced middle, (ChunkRelay.advance (Peer.action capacity) (fun _ => false) peer
        station).run host = (advanced, middle) ∧
      served = advanced.moved ∧
      (settle capacity advanced.party advanced.station).run middle = (next, after) := by
  rcases acted : (ChunkRelay.advance (Peer.action capacity) (fun _ => false) peer station).run
    host with ⟨advanced, middle⟩
  rcases settled : (settle capacity advanced.party advanced.station).run middle with ⟨left, late⟩
  rw [advance, HostM.run_bind_eq acted, HostM.run_bind_eq settled] at ran
  cases ran
  exact ⟨advanced, middle, rfl, rfl, settled⟩

theorem expire_serving {next? : Option Service}
    (ran : (expire (.serving capacity peer station)).run host = (next?, after)) :
    (ChunkRelay.expire (Peer.action capacity) peer station).run host = (none, after) ∧
        next? = none ∨
      ∃ party middle next, (ChunkRelay.expire (Peer.action capacity) peer station).run host =
          (some party, middle) ∧
        (settle capacity party station).run middle = (next, after) ∧ next? = some next := by
  rcases ended : (ChunkRelay.expire (Peer.action capacity) peer station).run host with
    ⟨peer?, middle⟩
  rw [expire, HostM.run_bind_eq ended] at ran
  cases peer? with
  | none =>
    cases ran
    exact .inl ⟨rfl, rfl⟩
  | some party =>
    rcases settled : (settle capacity party station).run middle with ⟨left, late⟩
    dsimp only at ran
    rw [HostM.run_bind_eq settled] at ran
    cases ran
    exact .inr ⟨party, middle, left, rfl, settled, rfl⟩

theorem serves_of_advance {served : Bool}
    (ran : (advance (.serving capacity peer station)).run host = ((served, next), after)) :
    Serves capacity peer station host next after := by
  obtain ⟨advanced, middle, acted, _, settled⟩ := advance_serving ran
  obtain ⟨log, performs⟩ := Performs.of_advance acted
  exact ⟨log, _, performs, settled⟩

theorem serves_of_expire
    (ran : (expire (.serving capacity peer station)).run host = (some next, after)) :
    Serves capacity peer station host next after := by
  rcases expire_serving ran with ⟨_, same⟩ | ⟨party, middle, next, ended, settled, same⟩
  · cases same
  · cases same
    obtain ⟨log, performs⟩ := Performs.of_expire ended
    exact ⟨log, _, performs, settled⟩

theorem host_of_expire_none {service : Service} (ran : service.expire.run host = (none, after)) :
    after = host := by
  cases service with
  | accepting acceptor config | finished outcome writer =>
    cases ran
    rfl
  | serving capacity peer station =>
    rcases expire_serving ran with ⟨ended, _⟩ | ⟨_, _, _, _, _, same⟩
    · exact Performs.host_of_expire_none ended
    · cases same

end Service

/-!
## Both in turns
-/

namespace Pair

/-- How the first round of a pair goes, and the rounds after it. -/
inductive Round (rounds : Nat) (pair : Pair) (host : Host) : Pair → Host → Prop
  | concluded {moved : Bool} {session : Session} {after : Host} :
      pair.session.advance.run host = ((moved, session), after) → session.isOver = true →
      Round rounds pair host { pair with session } after
  | acted {moved served : Bool} {session : Session} {service : Service} {final : Pair}
      {middle late after : Host} :
      pair.session.advance.run host = ((moved, session), middle) → session.isOver = false →
      (unnoticed pair.service.advance).run middle = ((served, service), late) →
      moved = true ∨ served = true →
      (runFor rounds ⟨session, service⟩).run late = (final, after) →
      Round rounds pair host final after
  | expired {session : Session} {service : Service} {next final : Pair}
      {middle late last after : Host} :
      pair.session.advance.run host = ((false, session), middle) → session.isOver = false →
      (unnoticed pair.service.advance).run middle = ((false, service), late) →
      (expire ⟨session, service⟩).run late = (some next, last) →
      (runFor rounds next).run last = (final, after) →
      Round rounds pair host final after
  | stalled {session : Session} {service : Service} {middle late after : Host} :
      pair.session.advance.run host = ((false, session), middle) → session.isOver = false →
      (unnoticed pair.service.advance).run middle = ((false, service), late) →
      (expire ⟨session, service⟩).run late = (none, after) →
      Round rounds pair host ⟨session, service⟩ after

theorem Round.of_runFor {rounds : Nat} {pair final : Pair} {host after : Host}
    (ran : (pair.runFor (rounds + 1)).run host = (final, after)) :
    Round rounds pair host final after := by
  rcases advanced : pair.session.advance.run host with ⟨⟨moved, session⟩, middle⟩
  rw [Pair.runFor, HostM.run_bind_eq advanced] at ran
  dsimp only at ran
  split at ran
  · next finished =>
    cases ran
    exact .concluded advanced finished
  · next running =>
    have running := Bool.eq_false_iff.mpr running
    rcases answered : (unnoticed pair.service.advance).run middle with ⟨⟨served, service⟩, late⟩
    rw [HostM.run_bind_eq answered] at ran
    dsimp only at ran
    split at ran
    · next some_move =>
      exact .acted advanced running answered (Bool.or_eq_true _ _ ▸ some_move) ran
    · next none_moved =>
      obtain ⟨rfl, rfl⟩ : moved = false ∧ served = false := by simpa using none_moved
      rcases ended : (expire ⟨session, service⟩).run late with ⟨next?, last⟩
      rw [HostM.run_bind_eq ended] at ran
      cases next? with
      | none =>
        cases ran
        exact .stalled advanced running answered ended
      | some next => exact .expired advanced running answered ended ran

/-- Something about a pair and its host that each turn keeps. -/
structure Kept (holds : Pair → Host → Prop) : Prop where
  sessionActs {pair : Pair} {host after : Host} {moved : Bool} {session : Session} :
    holds pair host → pair.session.advance.run host = ((moved, session), after) →
      holds { pair with session } after
  sessionWaits {pair : Pair} {host after : Host} {session : Session} :
    holds pair host → pair.session.expire.run host = (some session, after) →
      holds { pair with session } after
  serviceActs {pair : Pair} {host after : Host} {served : Bool} {service : Service} :
    holds pair host → pair.service.advance.run host = ((served, service), after) →
      holds { pair with service } { after with notices := host.notices }
  serviceWaits {pair : Pair} {host after : Host} {service : Service} :
    holds pair host → pair.service.expire.run host = (some service, after) →
      holds { pair with service } { after with notices := host.notices }

namespace Kept

variable {holds : Pair → Host → Prop} {pair : Pair} {host after : Host}

/-- Whoever's wait runs out; if neither ends, the host is as it was. -/
theorem expire (kept : Kept holds) (held : holds pair host) {next? : Option Pair}
    (ran : pair.expire.run host = (next?, after)) : holds (next?.getD pair) after := by
  unfold Pair.expire at ran
  split at ran
  · rcases ended : pair.session.expire.run host with ⟨session?, middle⟩
    rw [HostM.run_bind_eq ended] at ran
    cases session? with
    | none =>
      cases ran
      rw [Session.host_of_expire_none ended]
      exact held
    | some session =>
      cases ran
      exact kept.sessionWaits held ended
  · rcases ended : (unnoticed pair.service.expire).run host with ⟨service?, middle⟩
    rw [HostM.run_bind_eq ended] at ran
    obtain ⟨during, waited, rfl⟩ := unnoticed_run ended
    cases service? with
    | none =>
      cases ran
      rw [Service.host_of_expire_none waited]
      exact held
    | some service =>
      cases ran
      exact kept.serviceWaits held waited

theorem runFor (kept : Kept holds) {rounds : Nat} {final : Pair} (held : holds pair host)
    (ran : (pair.runFor rounds).run host = (final, after)) : holds final after := by
  induction rounds generalizing pair host with
  | zero =>
    cases ran
    exact held
  | succ rounds ih =>
    cases Round.of_runFor ran with
    | concluded advanced finished => exact kept.sessionActs held advanced
    | acted advanced running answered some_move goesOn =>
      obtain ⟨during, acted, rfl⟩ := unnoticed_run answered
      exact ih (kept.serviceActs (kept.sessionActs held advanced) acted) goesOn
    | expired advanced running answered ended goesOn =>
      obtain ⟨during, acted, rfl⟩ := unnoticed_run answered
      have held := kept.serviceActs (kept.sessionActs held advanced) acted
      exact ih (kept.expire held ended) goesOn
    | stalled advanced running answered ended =>
      obtain ⟨during, acted, rfl⟩ := unnoticed_run answered
      have held := kept.serviceActs (kept.sessionActs held advanced) acted
      exact kept.expire held ended

end Kept

end Pair

end ChunkRelay
