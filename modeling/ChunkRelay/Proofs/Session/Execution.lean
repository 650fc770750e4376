import ChunkRelay.Proofs.Session.Outcome
import ChunkRelay.Proofs.Session.Rounds
import ChunkRelay.Rehearsal.Preloaded

/-! What a session really does is one of the ways it can go while others use its
host: alone, against a remote that has spoken before, and in turns with a service
at the far end of a link or on a socket. It returns, unless it may wait without
end and there is no message for it. -/

set_option autoImplicit false

namespace ChunkRelay

theorem Amid.later {α : Type} {action : HostM α} {before middle after : Host} {value : α}
    (amid : Amid action before value middle) (uses : middle.Uses after) :
    Amid action before value after := by
  obtain ⟨early, late, earlier, ran, later⟩ := amid
  exact ⟨early, late, earlier, ran, later.trans uses⟩

theorem Session.Runs.later {config : SessionConfig} {role : Role} {path : String}
    {allocator : Allocator} {before middle after : Host} {outcome : Outcome}
    {result : TransferResult} (runs : Runs config role path allocator before outcome result middle)
    (uses : middle.Uses after) : Runs config role path allocator before outcome result after := by
  cases runs with
  | unopened opens => exact .unopened (opens.later uses)
  | unbuffered opens acquires closes => exact .unbuffered opens acquires (closes.later uses)
  | fileless opens acquires locals releases closes =>
    exact .fileless opens acquires locals releases (closes.later uses)
  | driven opens acquires locals proceeds terminal releases closes =>
    exact .driven opens acquires locals proceeds terminal releases (closes.later uses)

theorem Amid.of_run {α : Type} {action : HostM α} {before after : Host} {value : α}
    (ran : action.run before = (value, after)) : Amid action before value after :=
  ⟨before, after, .refl, ran, .refl⟩

/-- A channel that is opened on a transport has really been opened when the transport was. -/
theorem Amid.openVia {id : ChannelId} {wait : Wait} {before early late middle after : Host}
    {opened : Except ChannelError Transport} {result : Except ChannelError Channel}
    (earlier : before.Uses early)
    (opens : (Connector.viaHub.openFor id).run early = (opened, late)) (later : late.Uses middle)
    (ran : (Channel.openOn id wait opened).run middle = (result, after)) :
    Amid (Channel.openVia .viaHub id wait) before result after := by
  cases opened with
  | error error =>
    cases ran
    refine ⟨early, late, earlier, ?_, later⟩
    rw [Channel.openVia, HostM.run_bind_eq opens]
    rfl
  | ok transport =>
    cases ran
    let told := ((note .debug "opened message channel" id.fields).run late).2
    have forgets : told.Uses late := .elsewhere rfl rfl
    refine ⟨early, told, earlier, ?_, (forgets.trans later).trans (note_uses _ _ _ middle)⟩
    rw [Channel.openVia, HostM.run_bind_eq opens]
    rfl

/-- Whatever happens meanwhile, a party keeps its transport, its wait and its memory. -/
theorem Proceeds.surroundings {σ : Type} {act : σ → Action σ} {first last : Situation σ}
    {log : List Entry} (proceeds : Proceeds act first log last) :
    last.station.surroundings = first.station.surroundings := by
  induction proceeds with
  | rest => rfl
  | interrupted _ _ ih => exact ih
  | performed performs _ ih => exact ih.trans performs.surroundings

/-!
## Beginning and concluding
-/

namespace Session

variable {config : SessionConfig} {role : Role} {path : String} {allocator : Allocator}
  {before after : Host}

/-- A session that has taken all that it needs. -/
inductive Begins (config : SessionConfig) (role : Role) (path : String) (allocator : Allocator) :
    Host → Session → Host → Prop
  | taken {before opened acquired ready : Host} {channel : Channel} {buffer : RelayBuffer}
      {reader : Reader} {writer : Writer} :
      Amid (Channel.openVia .viaHub config.channelId config.wait) before (.ok channel) opened →
      Amid (RelayBuffer.acquire allocator config.capacity) opened (.ok buffer) acquired →
      Amid (openLocal role path) acquired (.ok (reader, writer)) ready →
      Begins config role path allocator before
        { config, buffer, channel
          engine := .fresh role
          station := .ofEngine buffer channel.transport channel.wait reader writer } ready

theorem startOn_outcome {early late middle : Host} {opened : Except ChannelError Transport}
    {result : Except SessionFailure Session} (earlier : before.Uses early)
    (opens : (Connector.viaHub.openFor config.channelId).run early = (opened, late))
    (later : late.Uses middle)
    (ran : (startOn config role path allocator opened).run middle = (result, after)) :
    (∃ error outcome, result = .error (.inSetup role error) ∧
        Runs config role path allocator before outcome (.error (.inSetup role error)) after) ∨
      ∃ session, result = .ok session ∧
        Begins config role path allocator before session after := by
  rcases made : (Channel.openOn config.channelId config.wait opened).run middle with
    ⟨channel?, linked⟩
  have opening := Amid.openVia earlier opens later made
  rw [startOn, HostM.run_bind_eq made] at ran
  cases channel? with
  | error error =>
    cases ran
    exact .inl ⟨_, _, rfl, .unopened opening⟩
  | ok channel =>
    rcases got : (RelayBuffer.acquire allocator config.capacity).run linked with
      ⟨buffer?, acquired⟩
    dsimp only at ran
    rw [HostM.run_bind_eq got] at ran
    cases buffer? with
    | error error =>
      cases ran
      exact .inl ⟨_, _, rfl,
        .unbuffered opening (.of_run got) (.of_run (channel.discard_run acquired))⟩
    | ok buffer =>
      rcases found : (openLocal role path).run acquired with ⟨local?, ready⟩
      dsimp only at ran
      rw [HostM.run_bind_eq found] at ran
      cases local? with
      | error error =>
        cases ran
        exact .inl ⟨_, _, rfl, .fileless opening (.of_run got) (.of_run found)
          (.of_run (buffer.discard_run ready)) (.of_run (channel.discard_run _))⟩
      | ok stream =>
        cases ran
        exact .inr ⟨_, rfl, .taken opening (.of_run got)
          ⟨acquired, ready, .refl, found, note_uses _ _ _ ready⟩⟩

theorem start_outcome {result : Except SessionFailure Session}
    (ran : (start config role path allocator .viaHub).run before = (result, after)) :
    (∃ error outcome, result = .error (.inSetup role error) ∧
        Runs config role path allocator before outcome (.error (.inSetup role error)) after) ∨
      ∃ session, result = .ok session ∧
        Begins config role path allocator before session after := by
  have announced : (announce config role).run before =
      ((), ((announce config role).run before).2) := rfl
  rw [start, HostM.run_bind_eq announced] at ran
  rcases opens : (Connector.viaHub.openFor config.channelId).run
    ((announce config role).run before).2 with ⟨opened, late⟩
  rw [HostM.run_bind_eq opens] at ran
  exact startOn_outcome (note_uses _ _ _ before) opens .refl ran

theorem conclude_run (session : Session) (host : Host) :
    ((session.conclude).run host).1 = session.engine.result ∧
      ((session.channel.close.run (session.buffer.release.run host).2).2).Uses
        ((session.conclude).run host).2 := by
  have released : session.buffer.release.run host =
    ((session.buffer.release.run host).1, (session.buffer.release.run host).2) := rfl
  rw [conclude, HostM.run_bind_eq released]
  have closed : session.channel.close.run (session.buffer.release.run host).2 =
    ((session.channel.close.run (session.buffer.release.run host).2).1,
      (session.channel.close.run (session.buffer.release.run host).2).2) := rfl
  rw [HostM.run_bind_eq closed]
  cases session.engine.result with
  | ok report => exact ⟨rfl, note_uses _ _ _ _⟩
  | error failure => exact ⟨rfl, note_uses _ _ _ _⟩

variable {session : Session} {ready : Host}

/-- A session whose engine has ended is concluded, and that is one of the ways it can go. -/
theorem Begins.concludes {engine : Engine} {station : Station} {log : List Entry}
    {ended last : Host} {result : TransferResult}
    (begins : Begins config role path allocator before session ready)
    (proceeds : Proceeds session.action ⟨session.engine, session.station, ready⟩ log
      ⟨engine, station, ended⟩)
    (terminal : engine.state.isTerminal = true)
    (ran : (conclude { session with engine, station }).run ended = (result, after))
    (later : after.Uses last) :
    Runs config role path allocator before (.driven session.buffer engine log) result last := by
  have concluded := conclude_run { session with engine, station } ended
  rw [ran] at concluded
  obtain ⟨same, told⟩ := concluded
  rw [show result = engine.result from same]
  cases begins with
  | taken opening acquiring finding =>
    exact .driven opening acquiring finding proceeds terminal
      (.of_run (RelayBuffer.discard_run _ ended))
      ⟨_, _, .refl, Channel.discard_run _ _, told.trans later⟩

/-- A session that has begun and gone on as far as it can, and that waits without end for a message
that is not there. -/
inductive Pends (config : SessionConfig) (role : Role) (path : String) (allocator : Allocator) :
    Host → Host → Prop
  | waits {before ready after : Host} {session : Session} {engine : Engine} {station : Station}
      {log : List Entry} {resume : Request.receive.Answer → Turn Engine} {transport : Transport} :
      Begins config role path allocator before session ready →
      Proceeds session.action ⟨session.engine, session.station, ready⟩ log
        ⟨engine, station, after⟩ →
      session.action engine = .ask .receive resume →
      station.transport = some transport →
      transport.poll.run after = (none, after) →
      config.wait = .unbounded →
      Pends config role path allocator before after

/-- How a session goes on while nobody else acts. Its engine performs to its end, and the session is
concluded; or it waits without end for a message that is not there. -/
inductive Finishes (session : Session) (ready : Host) : Option TransferResult → Host → Prop
  | concluded {engine : Engine} {station : Station} {log : List Entry} {ended after : Host} :
      Performs session.action ⟨session.engine, session.station, ready⟩ log
        ⟨engine, station, ended⟩ →
      engine.state.isTerminal = true →
      (conclude { session with engine, station }).run ended = (engine.result, after) →
      Finishes session ready (some engine.result) after
  | waiting {engine : Engine} {station : Station} {log : List Entry} {after : Host} :
      Performs session.action ⟨session.engine, session.station, ready⟩ log
        ⟨engine, station, after⟩ →
      Waits session.action engine station after →
      station.wait = .unbounded →
      Finishes session ready none after

/-- What becomes of a session that nobody disturbs once it has begun. -/
inductive Comes (config : SessionConfig) (role : Role) (path : String) (allocator : Allocator)
    (before : Host) : Option TransferResult → Host → Prop
  | refused {error : RelayError} {outcome : Outcome} {after : Host} :
      Runs config role path allocator before outcome (.error (.inSetup role error)) after →
      Comes config role path allocator before (some (.error (.inSetup role error))) after
  | begun {ready after : Host} {session : Session} {result? : Option TransferResult} :
      Begins config role path allocator before session ready →
      session.Finishes ready result? after →
      Comes config role path allocator before result? after

theorem Begins.wait (begins : Begins config role path allocator before session ready) :
    session.station.wait = config.wait := by
  cases begins with
  | taken opening acquiring finding =>
    obtain ⟨early, late, _, ran, _⟩ := opening
    rcases opens : (Connector.viaHub.openFor config.channelId).run early with ⟨opened, middle⟩
    rw [Channel.openVia, HostM.run_bind_eq opens] at ran
    cases opened with
    | error error => cases congrArg (·.1) ran
    | ok transport =>
      cases ran
      rfl

theorem Begins.pends {engine : Engine} {station : Station} {log : List Entry}
    (begins : Begins config role path allocator before session ready)
    (proceeds : Proceeds session.action ⟨session.engine, session.station, ready⟩ log
      ⟨engine, station, after⟩)
    (waits : Waits session.action engine station after) (unbounded : station.wait = .unbounded) :
    Pends config role path allocator before after := by
  obtain ⟨resume, asks⟩ := waits.1
  obtain ⟨transport, present, nothing⟩ := waits.polls
  have kept : station.wait = session.station.wait :=
    congrArg (·.2.1) proceeds.surroundings
  exact .waits begins proceeds asks present nothing
    (begins.wait.symm.trans (kept.symm.trans unbounded))

theorem finishes_of_run {result? : Option TransferResult} {host : Host}
    (ran : session.finish.run host = (result?, after)) : session.Finishes host result? after := by
  rcases moves : session.advance.run host with ⟨⟨moved, next⟩, middle⟩
  have rests := advance_rests moves
  obtain ⟨log, engine, station, rfl, performs⟩ := advance_performs moves
  rw [finish, HostM.run_bind_eq moves] at ran
  dsimp only at ran
  split at ran
  · next finished =>
    rcases ends : (conclude { session with engine, station }).run middle with ⟨result, late⟩
    obtain rfl : result = engine.result :=
      (congrArg Prod.fst ends).symm.trans (conclude_run _ middle).1
    rw [HostM.run_bind_eq ends] at ran
    cases ran
    exact .concluded performs finished ends
  · next running =>
    rcases expires : (expire { session with engine, station }).run middle with ⟨next?, waited⟩
    have waits := rests.resolve_left running
    have unbounded := expire_of_waits waits expires
    rw [HostM.run_bind_eq expires] at ran
    cases next? with
    | none =>
      cases host_of_expire_none expires
      cases ran
      exact .waiting performs waits unbounded
    | some next =>
      obtain ⟨later, engine, rfl, terminal, expired⟩ := expire_performs expires
      rcases ends : (conclude { session with engine, station }).run waited with ⟨result, late⟩
      obtain rfl : result = engine.result :=
        (congrArg Prod.fst ends).symm.trans (conclude_run _ waited).1
      dsimp only at ran
      rw [HostM.run_bind_eq ends] at ran
      cases ran
      exact .concluded (performs.trans expired) terminal ends

theorem Comes.runs {result : TransferResult}
    (comes : Comes config role path allocator before (some result) after) :
    ∃ outcome, Runs config role path allocator before outcome result after := by
  cases comes with
  | refused runs => exact ⟨_, runs⟩
  | begun begins finishes =>
    cases finishes with
    | concluded performs terminal ends =>
      exact ⟨_, begins.concludes (.performed performs (.rest _)) terminal ends .refl⟩

theorem Comes.pends (comes : Comes config role path allocator before none after) :
    Pends config role path allocator before after := by
  cases comes with
  | begun begins finishes =>
    cases finishes with
    | waiting performs waits unbounded =>
      exact begins.pends (.performed performs (.rest _)) waits unbounded

theorem run_comes {result? : Option TransferResult}
    (ran : (run config role path allocator .viaHub).run before = (result?, after)) :
    Comes config role path allocator before result? after := by
  rcases starts : (start config role path allocator .viaHub).run before with ⟨begun, ready⟩
  rw [run, HostM.run_bind_eq starts] at ran
  rcases start_outcome starts with ⟨error, outcome, rfl, runs⟩ | ⟨session, rfl, begins⟩
  · cases ran
    exact .refused runs
  · exact .begun begins (finishes_of_run ran)

end Session

/-!
## In turns with a service
-/

/-- A transport that holds no claim: the far end of a link, or a socket. -/
def Transport.Unclaimed (transport : Transport) : Prop :=
  ∀ index, transport ≠ .link index .near

theorem Transport.Unclaimed.drop_uses {transport : Transport} (unclaimed : transport.Unclaimed)
    (host : Host) : host.Uses (transport.drop.run host).2 := by
  cases transport with
  | link index side =>
    cases side with
    | near => exact absurd rfl (unclaimed index)
    | far => exact .single (.dropped host index)
  | socket transport =>
    obtain ⟨_ | ⟨wire, side⟩, port, _ | claim⟩ := transport
    · exact .refl
    · exact .elsewhere rfl rfl
    · exact .elsewhere rfl rfl
    · exact .elsewhere rfl rfl

/-- Only ends without a claim are handed to those who accept. -/
theorem Acceptor.accept_uses {acceptor : Acceptor} {host after : Host} {accepted? : Option Transport}
    (ran : acceptor.accept.run host = (accepted?, after)) :
    host.Uses after ∧ ∀ transport, accepted? = some transport → transport.Unclaimed := by
  cases acceptor with
  | parkedEnds =>
    rw [accept, HostM.run_get_bind] at ran
    cases accepted : host.hub.accept with
    | none =>
      rw [accepted] at ran
      cases ran
      exact ⟨.refl, fun _ same => by cases same⟩
    | some found =>
      rw [accepted] at ran
      cases ran
      refine ⟨.single (.accepted accepted), fun transport same index near => ?_⟩
      cases same
      cases near
  | listener listening port =>
    rcases found : (acceptFrom listening).run host with ⟨wire?, middle⟩
    rw [accept, HostM.run_bind_eq found] at ran
    cases ran
    constructor
    · rw [acceptFrom, HostM.run_get_bind] at found
      split at found
      · cases found
        exact .refl
      · cases found
        exact .elsewhere rfl rfl
    · intro transport same index near
      obtain ⟨wire, _, rfl⟩ := Option.map_eq_some_iff.mp same
      cases near

namespace Service

/-- A service whose transport holds no claim. -/
def Remote : Service → Prop
  | .serving _ _ station => ∀ transport, station.transport = some transport → transport.Unclaimed
  | .accepting _ _ | .finished _ _ => True

variable {service next : Service} {host after : Host}

theorem settle_uses {capacity : Nat} {peer : Peer} {station : Station}
    (unclaimed : ∀ transport, station.transport = some transport → transport.Unclaimed)
    (ran : (settle capacity peer station).run host = (next, after)) :
    host.Uses after ∧ next.Remote := by
  unfold settle at ran
  split at ran
  · cases ran
    exact ⟨.refl, unclaimed⟩
  · cases present : station.transport with
    | none =>
      rw [present] at ran
      cases ran
      exact ⟨.refl, trivial⟩
    | some transport =>
      rw [present] at ran
      cases ran
      exact ⟨(unclaimed transport present).drop_uses host, trivial⟩

theorem Serves.uses {capacity : Nat} {peer : Peer} {station : Station}
    (serves : Serves capacity peer station host next after)
    (remote : Remote (.serving capacity peer station)) : host.Uses after ∧ next.Remote := by
  obtain ⟨log, last, performs, settled⟩ := serves
  have unclaimed : ∀ transport, last.station.transport = some transport →
      transport.Unclaimed := by
    rw [show last.station.transport = station.transport from
      congrArg Prod.fst performs.surroundings]
    exact remote
  obtain ⟨used, still⟩ := settle_uses unclaimed settled
  exact ⟨performs.uses.trans used, still⟩

theorem advance_uses {served : Bool} (remote : service.Remote)
    (ran : service.advance.run host = ((served, next), after)) :
    host.Uses after ∧ next.Remote := by
  cases service with
  | accepting acceptor config =>
    obtain ⟨accepted?, found, _, rfl⟩ := advance_accepting ran
    obtain ⟨used, unclaimed⟩ := Acceptor.accept_uses found
    cases accepted? with
    | none => exact ⟨used, trivial⟩
    | some transport =>
      refine ⟨used, fun other same => ?_⟩
      cases same
      exact unclaimed transport rfl
  | serving capacity peer station => exact (serves_of_advance ran).uses remote
  | finished outcome writer =>
    cases ran
    exact ⟨.refl, trivial⟩

theorem expire_uses {next? : Option Service} (remote : service.Remote)
    (ran : service.expire.run host = (next?, after)) :
    host.Uses after ∧ (next?.getD service).Remote := by
  cases next? with
  | none =>
    rw [host_of_expire_none ran]
    exact ⟨.refl, remote⟩
  | some next =>
    cases service with
    | accepting acceptor config | finished outcome writer => cases ran
    | serving capacity peer station => exact (serves_of_expire ran).uses remote

end Service

theorem Proceeds.trans {σ : Type} {act : σ → Action σ} {first middle last : Situation σ}
    {log later : List Entry} (proceeds : Proceeds act first log middle)
    (continues : Proceeds act middle later last) : Proceeds act first (log ++ later) last := by
  induction proceeds with
  | rest => exact continues
  | interrupted used _ ih => exact .interrupted used (ih continues)
  | performed performs _ ih =>
    rw [List.append_assoc]
    exact .performed performs (ih continues)

namespace Pair

/-- How far a pair has come with a session since it was ready. -/
structure Reaches (session : Session) (ready : Host) (pair : Pair) (log : List Entry)
    (host : Host) : Prop where
  kept : pair.session =
    { session with engine := pair.session.engine, station := pair.session.station }
  proceeds : Proceeds session.action ⟨session.engine, session.station, ready⟩ log
    ⟨pair.session.engine, pair.session.station, host⟩
  remote : pair.service.Remote

namespace Reaches

variable {session : Session} {ready host after : Host} {pair : Pair} {log : List Entry}

theorem used {service : Service} (reaches : Reaches session ready pair log host)
    (uses : host.Uses after) (remote : service.Remote) :
    Reaches session ready { pair with service } log after where
  kept := reaches.kept
  proceeds := by
    have proceeds := reaches.proceeds.trans (.interrupted uses (.rest _))
    rwa [List.append_nil] at proceeds
  remote := remote

theorem performed {more : List Entry} {engine : Engine} {station : Station}
    (reaches : Reaches session ready pair log host)
    (performs : Performs pair.session.action ⟨pair.session.engine, pair.session.station, host⟩ more
      ⟨engine, station, after⟩) :
    Reaches session ready { pair with session := { pair.session with engine, station } }
      (log ++ (more ++ [])) after := by
  rw [reaches.kept] at performs ⊢
  exact ⟨rfl, reaches.proceeds.trans (.performed performs (.rest _)), reaches.remote⟩

end Reaches

/-- However far a pair has come, it goes on by turns. -/
theorem reaches_kept (session : Session) (ready : Host) :
    Kept fun pair host => ∃ log, Reaches session ready pair log host where
  sessionActs reached ran := by
    obtain ⟨log, reaches⟩ := reached
    obtain ⟨more, engine, station, rfl, performs⟩ := Session.advance_performs ran
    exact ⟨_, reaches.performed performs⟩
  sessionWaits reached ran := by
    obtain ⟨log, reaches⟩ := reached
    obtain ⟨more, engine, rfl, _, performs⟩ := Session.expire_performs ran
    exact ⟨_, reaches.performed performs⟩
  serviceActs reached ran := by
    obtain ⟨log, reaches⟩ := reached
    obtain ⟨used, remote⟩ := Service.advance_uses reaches.remote ran
    exact ⟨log, reaches.used (used.trans (Host.Uses.elsewhere rfl rfl)) remote⟩
  serviceWaits reached ran := by
    obtain ⟨log, reaches⟩ := reached
    obtain ⟨used, remote⟩ := Service.expire_uses reaches.remote ran
    exact ⟨log, reaches.used (used.trans (Host.Uses.elsewhere rfl rfl)) remote⟩

end Pair

theorem unnoticed_uses {α : Type} {action : HostM α} {host after : Host} {result : α}
    (ran : (unnoticed action).run host = (result, after)) :
    ∃ during, action.run host = (result, during) ∧ during.Uses after := by
  obtain ⟨during, acted, rfl⟩ := unnoticed_run ran
  exact ⟨during, acted, .elsewhere rfl rfl⟩

/-- A service that settles after a session opens nothing and closes nothing. -/
theorem Service.settleAfter_uses {service : Service} (remote : service.Remote) (host : Host) :
    host.Uses (service.settleAfter.run host).2 := by
  rcases first : (unnoticed service.advance).run host with ⟨⟨moved, next⟩, middle⟩
  obtain ⟨early, served, forgets⟩ := unnoticed_uses first
  obtain ⟨used, remote⟩ := advance_uses remote served
  have used := used.trans forgets
  rcases second : (unnoticed next.advance).run middle with ⟨⟨again, last⟩, late⟩
  obtain ⟨early, served, forgets⟩ := unnoticed_uses second
  obtain ⟨more, remote⟩ := advance_uses remote served
  have used := used.trans (more.trans forgets)
  rw [settleAfter, HostM.run_bind_eq first]
  dsimp only
  rw [HostM.run_bind_eq second]
  cases last with
  | accepting acceptor config | finished outcome writer => exact used
  | serving capacity peer station =>
    rcases third : (unnoticed (expire (.serving capacity peer station))).run late with
      ⟨ended?, after⟩
    obtain ⟨early, served, forgets⟩ := unnoticed_uses third
    obtain ⟨more, _⟩ := expire_uses remote served
    dsimp only
    rw [HostM.run_bind_eq third]
    exact used.trans (more.trans forgets)

namespace Session

variable {config : SessionConfig} {role : Role} {path : String} {allocator : Allocator}
  {before after : Host} {service left : Service}

/-- A session that goes on in turns with a service returns, or it is not over after the rounds there
are. -/
theorem runWith_cases {result? : Option TransferResult} (remote : service.Remote)
    (ran : (runWith config role path allocator .viaHub service).run before =
      ((result?, left), after)) :
    (∃ result outcome, result? = some result ∧
        Runs config role path allocator before outcome result after) ∨
      result? = none ∧ ∃ session ready pair log,
        (start config role path allocator .viaHub).run before = (.ok session, ready) ∧
          Begins config role path allocator before session ready ∧
          (Pair.run ⟨session, service⟩).run ready = (pair, after) ∧
          pair.session.isOver = false ∧ Pair.Reaches session ready pair log after := by
  rcases starts : (start config role path allocator .viaHub).run before with ⟨begun, ready⟩
  rw [runWith, HostM.run_bind_eq starts] at ran
  rcases start_outcome starts with ⟨error, outcome, rfl, runs⟩ | ⟨session, rfl, begins⟩
  · have settled : service.settleAfter.run ready =
      ((service.settleAfter.run ready).1, (service.settleAfter.run ready).2) := rfl
    dsimp only at ran
    rw [HostM.run_bind_eq settled] at ran
    cases ran
    exact .inl ⟨_, outcome, rfl, runs.later (service.settleAfter_uses remote ready)⟩
  · rcases paired : (Pair.run ⟨session, service⟩).run ready with ⟨pair, ended⟩
    have turns := paired
    rw [Pair.run, HostM.run_get_bind] at turns
    obtain ⟨log, reaches⟩ :=
      (Pair.reaches_kept session ready).runFor ⟨[], rfl, .rest _, remote⟩ turns
    dsimp only at ran
    rw [HostM.run_bind_eq paired] at ran
    split at ran
    · next finished =>
      rcases concluded : pair.session.conclude.run ended with ⟨returned, late⟩
      have settled : pair.service.settleAfter.run late =
        ((pair.service.settleAfter.run late).1, (pair.service.settleAfter.run late).2) := rfl
      rw [HostM.run_bind_eq concluded, HostM.run_bind_eq settled] at ran
      cases ran
      rw [reaches.kept] at concluded
      exact .inl ⟨_, _, rfl, begins.concludes reaches.proceeds finished concluded
        (pair.service.settleAfter_uses reaches.remote late)⟩
    · next running =>
      cases ran
      exact .inr ⟨rfl, session, ready, pair, log, rfl, begins, paired,
        Bool.eq_false_iff.mpr running, reaches⟩

theorem runWith_outcome {result : TransferResult} (remote : service.Remote)
    (ran : (runWith config role path allocator .viaHub service).run before =
      ((some result, left), after)) :
    ∃ outcome, Runs config role path allocator before outcome result after := by
  rcases runWith_cases remote ran with ⟨_, outcome, same, runs⟩ | ⟨same, _⟩
  · cases same
    exact ⟨outcome, runs⟩
  · cases same

/-- A session that does not return waits without end, or it has counted more chunks than there was to
be moved, twice over. -/
theorem runWith_unended (remote : service.Remote) (awake : service.Awake)
    (ran : (runWith config role path allocator .viaHub service).run before = ((none, left), after)) :
    Pends config role path allocator before after ∨ ∃ session ready pair,
      (start config role path allocator .viaHub).run before = (.ok session, ready) ∧
        (Pair.run ⟨session, service⟩).run ready = (pair, after) ∧
        2 * (Pair.matter ⟨session, service⟩ ready) + 10 < pair.session.engine.progress.chunks := by
  rcases runWith_cases remote ran with
    ⟨_, _, same, _⟩ | ⟨_, session, ready, pair, log, starts, begins, paired, running, reaches⟩
  · cases same
  · rcases Pair.run_ends awake paired with finished | ⟨stalls, unbounded⟩ | many
    · cases running.symm.trans finished
    · have waits := stalls.session_waits
      rw [reaches.kept] at waits
      exact .inl (begins.pends reaches.proceeds waits unbounded)
    · exact .inr ⟨session, ready, pair, starts, paired, many⟩

end Session

/-!
## Against a remote that has spoken before
-/

theorem Transport.sendAll_uses (transport : Transport) (messages : List Message) (host : Host) :
    host.Uses ((messages.forM fun message => do
      let _ ← transport.send message : HostM Unit).run host).2 := by
  induction messages generalizing host with
  | nil => exact .refl
  | cons message rest ih =>
    have said : (transport.send message).run host =
      (((transport.send message).run host).1, ((transport.send message).run host).2) := rfl
    rw [List.forM_eq_forM, List.forM_cons, bind_assoc, HostM.run_bind_eq said]
    exact (transport.send_uses message host).trans (ih _)

theorem preload_uses (messages : List Message) (hangUp : Bool) (host : Host) :
    host.Uses ((preload messages hangUp).run host).2 := by
  rcases found : Acceptor.parkedEnds.accept.run host with ⟨accepted?, middle⟩
  obtain ⟨used, unclaimed⟩ := Acceptor.accept_uses found
  rw [preload, HostM.run_bind_eq found]
  cases accepted? with
  | none => exact used
  | some transport =>
    have used := used.trans (transport.sendAll_uses messages middle)
    rcases said : (messages.forM fun message => do
      let _ ← transport.send message : HostM Unit).run middle with ⟨_, late⟩
    rw [said] at used
    dsimp only
    rw [HostM.run_bind_eq said]
    cases hangUp with
    | false => exact used
    | true => exact used.trans ((unclaimed transport rfl).drop_uses late)

namespace Session

variable {config : SessionConfig} {role : Role} {path : String} {allocator : Allocator}
  {before early late middle after : Host} {remote left : Option Transport}
  {result? : Option TransferResult}

/-- A session that goes on alone with what is there by then. -/
theorem goOn_comes {opened : Except ChannelError Transport} (earlier : before.Uses early)
    (opens : (Connector.viaHub.openFor config.channelId).run early = (opened, late))
    (later : late.Uses middle)
    (ran : (do match ← startOn config role path allocator opened with
        | .error failure => return (some (.error failure), remote)
        | .ok session => return (← session.finish, remote) :
          HostM (Option TransferResult × Option Transport)).run middle =
      ((result?, left), after)) :
    Comes config role path allocator before result? after := by
  rcases starts : (startOn config role path allocator opened).run middle with ⟨begun, ready⟩
  rw [HostM.run_bind_eq starts] at ran
  rcases startOn_outcome earlier opens later starts with
    ⟨error, outcome, rfl, runs⟩ | ⟨session, rfl, begins⟩
  · cases ran
    exact .refused runs
  · rcases finishes : session.finish.run ready with ⟨result?, ended⟩
    dsimp only at ran
    rw [HostM.run_bind_eq finishes] at ran
    cases ran
    exact .begun begins (finishes_of_run finishes)

theorem runPreloaded_comes {messages : List Message} {hangUp : Bool}
    (ran : (runPreloaded config role path allocator messages hangUp).run before =
      ((result?, left), after)) :
    Comes config role path allocator before result? after := by
  have announced : (announce config role).run before =
      ((), ((announce config role).run before).2) := rfl
  rw [runPreloaded, HostM.run_bind_eq announced] at ran
  rcases opens : (Connector.viaHub.openFor config.channelId).run
    ((announce config role).run before).2 with ⟨opened, late⟩
  rw [HostM.run_bind_eq opens] at ran
  dsimp only at ran
  split at ran
  · rcases spoken : (preload messages hangUp).run late with ⟨remote, middle⟩
    have used := preload_uses messages hangUp late
    rw [spoken] at used
    rw [HostM.run_bind_eq spoken] at ran
    exact goOn_comes (note_uses _ _ _ before) opens used ran
  · exact goOn_comes (note_uses _ _ _ before) opens .refl ran

end Session

end ChunkRelay
