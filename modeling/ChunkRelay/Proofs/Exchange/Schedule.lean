import ChunkRelay.Proofs.Exchange.Setup
import ChunkRelay.Proofs.Session.Rounds

/-! A session and the service that answers it act in turns, each as long as it
can. Over a link this is a run of a meeting, move by move. The service reports
nothing to the session's host, but no party reads what was reported. -/

set_option autoImplicit false

namespace ChunkRelay

/-!
## What was reported
-/

/-- An action that comes to the same whatever was reported before. -/
def HostM.Steady {α : Type} (action : HostM α) : Prop :=
  ∀ {host other : Host}, host.Like other →
    (action.run other).1 = (action.run host).1 ∧
      (action.run host).2.Like (action.run other).2

section Answers

variable {station next : Station} {host after : Host} {link : Nat} {side : Side}

theorem Station.answer_steady (linked : station.transport = some (.link link side))
    (request : Request) : HostM.Steady (station.answer request) := by
  rintro host _ ⟨notices, rfl⟩
  obtain ⟨stage, _, wait, memory, reader, writer⟩ := station
  subst linked
  cases request with
  | clear =>
    cases stage with
    | scratch contents => exact ⟨rfl, _, rfl⟩
    | relay buffer =>
      obtain ⟨_ | ⟨⟨_ | _, length⟩, handle⟩, address, capacity⟩ := buffer <;> exact ⟨rfl, _, rfl⟩
  | fill =>
    cases stage with
    | scratch contents => exact ⟨rfl, _, rfl⟩
    | relay buffer =>
      obtain ⟨_ | ⟨⟨_ | _, length⟩, handle⟩, address, capacity⟩ := buffer <;> exact ⟨rfl, _, rfl⟩
  | drain length =>
    cases stage with
    | scratch contents => exact ⟨rfl, _, rfl⟩
    | relay buffer =>
      obtain ⟨_ | ⟨⟨_ | _, length⟩, handle⟩, address, capacity⟩ := buffer <;> exact ⟨rfl, _, rfl⟩
  | flush => exact ⟨rfl, _, rfl⟩
  | send message =>
    by_cases opened : host.hub.isOpen link side
    · simp only [answer, answerSend, Transport.send, StateT.run_bind, StateT.run_get, pure_bind,
        opened, ↓reduceIte]
      exact ⟨rfl, _, rfl⟩
    · simp only [answer, answerSend, Transport.send, StateT.run_bind, StateT.run_get, pure_bind,
        opened, Bool.false_eq_true, ↓reduceIte]
      exact ⟨rfl, _, rfl⟩
  | receive =>
    simp only [answer, answerReceive, Transport.poll, StateT.run_bind, StateT.run_get, pure_bind]
    cases (host.hub.receive link side).1 with
    | none => exact ⟨rfl, _, rfl⟩
    | some found => cases found <;> exact ⟨rfl, _, rfl⟩
  | fetch address length =>
    have same : memory.read address length { host with notices } =
        memory.read address length host := by
      cases memory <;> rfl
    simp only [answer, answerFetch, StateT.run_bind, StateT.run_get, pure_bind, same]
    cases memory.read address length host with
    | error error => exact ⟨rfl, _, rfl⟩
    | ok bytes =>
      cases stage with
      | scratch contents => exact ⟨rfl, _, rfl⟩
      | relay buffer =>
        obtain ⟨_ | ⟨⟨_ | _, length⟩, handle⟩, address, capacity⟩ := buffer <;> exact ⟨rfl, _, rfl⟩
  | place address length =>
    have same : stage.front length { host with notices } = stage.front length host := by
      cases stage with
      | scratch contents => rfl
      | relay buffer =>
        obtain ⟨_ | ⟨⟨_ | _, length⟩, handle⟩, address, capacity⟩ := buffer <;> rfl
    simp only [answer, answerPlace, AddressedMemory.write, StateT.run_bind, StateT.run_get,
      pure_bind, same]
    cases memory with
    | throughBus =>
      dsimp only
      cases host.bus.write address (stage.front length host) <;> exact ⟨rfl, _, rfl⟩
    | throughSegments directory =>
      dsimp only
      cases host.files.resolveSegment directory address (stage.front length host).size <;>
        exact ⟨rfl, _, rfl⟩

end Answers

/-!
## One party
-/

section Party

variable {σ : Type} {act : σ → Action σ} {party : σ} {station next : Station}
  {host other middle : Host} {link : Nat} {side : Side}

theorem askOnce_like {request : Request} {resume : request.Answer → Turn σ}
    {answer : request.Answer} (asks : act party = .ask request resume)
    (linked : station.transport = some (.link link side)) (like : host.Like other)
    (answered : (station.answer request).run other = ((some answer, next), middle)) :
    ∃ after, (askOnce act party station).run host =
        (some ⟨(resume answer).next, next, request.said answer⟩, after) ∧
      after.Like ((report (resume answer).notices).run middle).2 := by
  obtain ⟨same, rests⟩ := station.answer_steady linked request like
  rw [answered] at same rests
  rcases again : (station.answer request).run host with ⟨result, during⟩
  rw [again] at same rests
  cases same
  have told : (report (resume answer).notices).run during =
    ((), ((report (resume answer).notices).run during).2) := rfl
  refine ⟨((report (resume answer).notices).run during).2, ?_, rests.report _⟩
  unfold askOnce
  rw [asks]
  dsimp only
  rw [HostM.run_bind_eq again]
  dsimp only
  rw [HostM.run_bind_eq told]
  rfl

/-- What a party does at its seat in a meeting, as long as it can, is a run of acts. -/
theorem advanceFor_acts (seat : σ → Station → Host → List (Side × Message) → Meeting)
    (acts : ∀ {party station host asked after} talk,
      (askOnce act party station).run host = (some asked, after) →
      (seat party station host talk).act side =
        some (seat asked.party asked.station after (noted talk side asked.said)))
    {pause : σ → Bool} {limit : Nat} {moved : Bool} {advanced : Advanced σ}
    (ran : (advanceFor act pause limit moved party station).run other = (advanced, middle))
    (linked : station.transport = some (.link link side)) (like : host.Like other)
    (talk : List (Side × Message)) :
    ∃ count after later, (seat party station host talk).run (List.replicate count (.act side)) =
        some (seat advanced.party advanced.station after later) ∧
      after.Like middle ∧ advanced.station.transport = some (.link link side) := by
  induction limit generalizing party station host other moved talk with
  | zero =>
    cases ran
    exact ⟨0, host, talk, rfl, like, linked⟩
  | succ limit ih =>
    unfold advanceFor at ran
    split at ran
    · cases ran
      exact ⟨0, host, talk, rfl, like, linked⟩
    · next request resume asks =>
      rcases answered : (station.answer request).run other with ⟨⟨answer?, next⟩, during⟩
      have kept := Station.transport_answer answered
      rw [HostM.run_bind_eq answered] at ran
      cases answer? with
      | none =>
        cases ran
        obtain rfl := Station.answer_none answered
        refine ⟨0, host, talk, rfl, ?_, linked⟩
        cases request with
        | receive =>
          have again := Station.receive_again (.refl other) (congrArg (·.1.1) answered)
          cases congrArg Prod.snd (answered.symm.trans again)
          exact like
        | _ => cases congrArg (fun result => result.1.1) answered
      | some answer =>
        obtain ⟨after, asked, rests⟩ := askOnce_like asks linked like answered
        have told : (report (resume answer).notices).run during =
          ((), ((report (resume answer).notices).run during).2) := rfl
        dsimp only at ran
        rw [HostM.run_bind_eq told] at ran
        split at ran
        · cases ran
          refine ⟨1, after, noted talk side (request.said answer), ?_, rests, kept.trans linked⟩
          rw [List.replicate_one, Meeting.run, Meeting.step, acts talk asked]
          rfl
        · obtain ⟨count, last, later, goesOn, reached⟩ := ih ran (kept.trans linked) rests _
          refine ⟨count + 1, last, later, ?_, reached⟩
          rw [List.replicate_succ, Meeting.run, Meeting.step, acts talk asked]
          exact goesOn

end Party

namespace Meeting

def withNear (meeting : Meeting) (engine : Engine) (own : Station) (host : Host)
    (talk : List (Side × Message)) : Meeting :=
  { meeting with engine, own, host, talk }

def withFar (meeting : Meeting) (peer : Peer) (remote : Station) (host : Host)
    (talk : List (Side × Message)) : Meeting :=
  { meeting with peer, remote, host, talk }

variable {meeting : Meeting} {link : Nat} {host middle : Host}

theorem act_near_of_run {asked : Asked Engine}
    (ran : (askOnce meeting.action meeting.engine meeting.own).run meeting.host =
      (some asked, middle)) :
    meeting.act .near = some
      (meeting.withNear asked.party asked.station middle (noted meeting.talk .near asked.said)) := by
  rw [act, ran]
  rfl

theorem act_far_of_run {asked : Asked Peer}
    (ran : (askOnce (Peer.action meeting.capacity) meeting.peer meeting.remote).run meeting.host =
      (some asked, middle)) :
    meeting.act .far = some
      (meeting.withFar asked.party asked.station middle (noted meeting.talk .far asked.said)) := by
  rw [act, ran]
  rfl

theorem acts_of_near {pause : Engine → Bool} {advanced : Advanced Engine}
    (ran : (advance meeting.action pause meeting.engine meeting.own).run host = (advanced, middle))
    (linked : meeting.own.transport = some (.link link .near)) (like : meeting.host.Like host) :
    ∃ count after talk, meeting.run (List.replicate count (.act .near)) =
        some (meeting.withNear advanced.party advanced.station after talk) ∧
      after.Like middle ∧ advanced.station.transport = some (.link link .near) := by
  rw [advance_run] at ran
  refine advanceFor_acts meeting.withNear ?acts ran linked like meeting.talk
  case acts =>
    intro party station host asked after talk ran
    exact act_near_of_run ran

theorem acts_of_far {pause : Peer → Bool} {advanced : Advanced Peer}
    (ran : (advance (Peer.action meeting.capacity) pause meeting.peer meeting.remote).run host =
      (advanced, middle))
    (linked : meeting.remote.transport = some (.link link .far)) (like : meeting.host.Like host) :
    ∃ count after talk, meeting.run (List.replicate count (.act .far)) =
        some (meeting.withFar advanced.party advanced.station after talk) ∧
      after.Like middle ∧ advanced.station.transport = some (.link link .far) := by
  rw [advance_run] at ran
  refine advanceFor_acts meeting.withFar ?acts ran linked like meeting.talk
  case acts =>
    intro party station host asked after talk ran
    exact act_far_of_run ran

theorem run_append {first middle : Meeting} {moves : List Move} (ran : first.run moves = some middle)
    (more : List Move) : first.run (moves ++ more) = middle.run more := by
  induction moves generalizing first with
  | nil =>
    cases ran
    rfl
  | cons move rest ih =>
    obtain ⟨next, stepped, continued⟩ := Option.bind_eq_some_iff.mp ran
    rw [List.cons_append, run, stepped]
    exact ih continued

end Meeting

/-!
## Turns
-/

/-- A service that plays the peer of a meeting, or has played it to its end and left. -/
def Service.Plays (link : Nat) (meeting : Meeting) : Service → Prop
  | .accepting _ _ => False
  | .serving capacity peer station =>
    capacity = meeting.capacity ∧ peer = meeting.peer ∧ station = meeting.remote ∧
      station.transport = some (.link link .far) ∧ peer.outcome? = none
  | .finished outcome writer =>
    meeting.peer.outcome? = some outcome ∧ writer = meeting.remote.writer ∧
      meeting.remote.transport = none

/-- A session and a service that stand as the parties of a meeting do. -/
structure Pair.Shows (link : Nat) (meeting : Meeting) (pair : Pair) (host : Host) : Prop where
  like : meeting.host.Like host
  buffer : pair.session.buffer = meeting.buffer
  engine : pair.session.engine = meeting.engine
  own : pair.session.station = meeting.own
  linked : meeting.own.transport = some (.link link .near)
  service : pair.service.Plays link meeting

/-- A meeting goes on, while no wait runs out, until it stands as a session and a service do. -/
def Meeting.Leads (link : Nat) (meeting : Meeting) (pair : Pair) (host : Host) : Prop :=
  ∃ moves later, (∀ side, Move.expire side ∉ moves) ∧ meeting.run moves = some later ∧
    pair.Shows link later host

theorem Move.patient_replicate (count : Nat) (acting side : Side) :
    Move.expire side ∉ List.replicate count (.act acting) := by
  intro member
  cases (List.mem_replicate.mp member).2

theorem Meeting.Leads.after {link : Nat} {meeting later : Meeting} {pair : Pair} {host : Host}
    {moves : List Move} (leads : later.Leads link pair host)
    (patient : ∀ side, Move.expire side ∉ moves) (led : meeting.run moves = some later) :
    meeting.Leads link pair host := by
  obtain ⟨more, last, goesOn, continued, shows⟩ := leads
  have ran := (Meeting.run_append led more).trans continued
  refine ⟨moves ++ more, last, fun side member => ?_, ran, shows⟩
  exact (List.mem_append.mp member).elim (patient side) (goesOn side)

namespace Pair.Shows

variable {link : Nat} {meeting : Meeting} {pair : Pair} {host after : Host}

theorem leads (shows : pair.Shows link meeting host) : meeting.Leads link pair host :=
  ⟨[], meeting, fun _ => List.not_mem_nil, rfl, shows⟩

theorem connected (shows : pair.Shows link meeting host) (acceptor : Acceptor)
    (config : ServiceConfig) : pair.service ≠ .accepting acceptor config := by
  intro accepts
  have plays := shows.service
  rw [accepts] at plays
  cases plays

theorem action (shows : pair.Shows link meeting host) : pair.session.action = meeting.action := by
  rw [Session.action, Meeting.action, shows.buffer]

theorem session_advance (shows : pair.Shows link meeting host) {moved : Bool} {session : Session}
    (ran : pair.session.advance.run host = ((moved, session), after)) :
    meeting.Leads link { pair with session } after := by
  obtain ⟨advanced, acted, _, rfl⟩ := Session.advance_inv ran
  rw [shows.action, shows.engine, shows.own] at acted
  obtain ⟨count, later, talk, ran, like, linked⟩ :=
    Meeting.acts_of_near acted shows.linked shows.like
  exact ⟨_, _, Move.patient_replicate count .near, ran,
    { like
      buffer := shows.buffer
      engine := rfl
      own := rfl
      linked
      service := shows.service }⟩

/-- What the service's peer does, and the end of its connection. -/
theorem service_serves (shows : pair.Shows link meeting host) {served : Bool} {service : Service}
    (linked : meeting.remote.transport = some (.link link .far))
    (ran : (Service.advance (.serving meeting.capacity meeting.peer meeting.remote)).run host =
      ((served, service), after)) : meeting.Leads link { pair with service } after := by
  obtain ⟨advanced, middle, acted, _, settled⟩ := Service.advance_serving ran
  obtain ⟨count, later, talk, led, like, still⟩ :=
    Meeting.acts_of_far acted linked shows.like
  have patient := Move.patient_replicate count .far
  unfold Service.settle at settled
  split at settled
  · next running =>
    cases settled
    exact ⟨_, _, patient, led,
      { like
        buffer := shows.buffer
        engine := shows.engine
        own := shows.own
        linked := shows.linked
        service := ⟨rfl, rfl, rfl, still, running⟩ }⟩
  · next outcome ended =>
    rw [still] at settled
    cases settled
    obtain ⟨_, rfl⟩ := like
    have departs : (meeting.withFar advanced.party advanced.station later talk).run
        [.leave .far] = some (meeting.withFar advanced.party
          { advanced.station with transport := none }
          ((Transport.link link .far).drop.run later).2 talk) := by
      rw [Meeting.run, Meeting.step, Meeting.leave, Meeting.withFar, ended, still]
      rfl
    refine Meeting.Leads.after ⟨[.leave .far], _, fun side member => ?_, departs, ?_⟩ patient led
    · cases List.mem_singleton.mp member
    · exact
        { like := ⟨_, rfl⟩
          buffer := shows.buffer
          engine := shows.engine
          own := shows.own
          linked := shows.linked
          service := ⟨ended, rfl, rfl⟩ }

theorem service_advance (shows : pair.Shows link meeting host) {served : Bool} {service : Service}
    (ran : pair.service.advance.run host = ((served, service), after)) :
    meeting.Leads link { pair with service } after := by
  have plays := shows.service
  cases serves : pair.service with
  | accepting acceptor config => exact absurd serves (shows.connected acceptor config)
  | finished outcome writer =>
    rw [serves] at ran plays
    cases ran
    exact leads { shows with service := plays }
  | serving capacity peer station =>
    rw [serves] at ran plays
    obtain ⟨rfl, rfl, rfl, linked, _⟩ := plays
    exact shows.service_serves linked ran

theorem awake (shows : pair.Shows link meeting host) : pair.service.Awake := by
  have plays := shows.service
  cases serves : pair.service with
  | serving capacity peer station =>
    rw [serves] at plays
    exact plays.2.2.2.2
  | accepting acceptor config | finished outcome writer => trivial

/-- The engine of a session that is over, or that waits, does not act. -/
theorem near_rests (shows : pair.Shows link meeting host)
    (rests : pair.session.isOver = true ∨
      Waits pair.session.action pair.session.engine pair.session.station host) :
    meeting.act .near = none := by
  rcases rests with finished | waits
  · have stops := pair.session.isOver_iff_stop.mp finished
    rw [shows.action, shows.engine] at stops
    exact Meeting.act_near_stop stops
  · rw [shows.action, shows.engine, shows.own] at waits
    obtain ⟨resume, asks⟩ := waits.1
    exact Meeting.act_near_none asks (waits.receives shows.like.symm)

/-- The peer of a service that has ended, or that waits, does not act. -/
theorem far_rests (shows : pair.Shows link meeting host)
    (rests : ∀ {capacity : Nat} {peer : Peer} {station : Station},
      pair.service = .serving capacity peer station →
        Waits (Peer.action capacity) peer station host) : meeting.act .far = none := by
  have plays := shows.service
  cases serves : pair.service with
  | accepting acceptor config => exact absurd serves (shows.connected acceptor config)
  | finished outcome writer =>
    rw [serves] at plays
    refine Meeting.act_far_stop ((Peer.outcome_isSome_iff _ _).mp ?_)
    rw [plays.1]
    rfl
  | serving capacity peer station =>
    rw [serves] at plays
    have waits := rests serves
    obtain ⟨rfl, rfl, rfl, _⟩ := plays
    obtain ⟨resume, asks⟩ := waits.1
    exact Meeting.act_far_none asks (waits.receives shows.like.symm)

/-- If a session and its service stall, neither party of the meeting can act. -/
theorem settled_of_stalls (shows : pair.Shows link meeting host) (stalls : pair.Stalls host) :
    meeting.Settled := by
  rintro (_ | _)
  · exact shows.near_rests (.inr stalls.session_waits)
  · exact shows.far_rests stalls.service_waits

/-- If they stall, the service has not left. -/
theorem held_of_stalls (shows : pair.Shows link meeting host) (stalls : pair.Stalls host)
    {bus : Bus} {files : FileTree} {ends : Link}
    (scene : Scene link bus files ends meeting.host) : (ends.atSide .far).status = .opened := by
  have waits := stalls.session_waits
  rw [shows.own] at waits
  obtain ⟨after, answered, _⟩ := Station.answer_receive scene shows.linked
  have silent := answered.symm.trans (waits.receives shows.like.symm)
  exact Link.opened_of_receive_none (congrArg (·.1.1) silent : (ends.receive .near).1 = none)

/-- If the session is over and its service was just let act, neither party of the meeting can. -/
theorem settled_of_advance (shows : pair.Shows link meeting host)
    (finished : pair.session.isOver = true) {earlier : Service} {before : Host} {served : Bool}
    (connected : ∀ acceptor config, earlier ≠ .accepting acceptor config)
    (ran : earlier.advance.run before = ((served, pair.service), host)) : meeting.Settled := by
  rintro (_ | _)
  · exact shows.near_rests (.inl finished)
  · exact shows.far_rests (Service.waits_of_advance ran connected)

/-- Once the peer has ended, its service has left with what it reports. -/
theorem left (shows : pair.Shows link meeting host) {outcome : Except RelayError (PeerRole × Progress)}
    (ended : meeting.peer.outcome? = some outcome) :
    pair.service = .finished outcome meeting.remote.writer ∧ meeting.remote.transport = none := by
  have plays := shows.service
  cases serves : pair.service with
  | accepting acceptor config => exact absurd serves (shows.connected acceptor config)
  | serving capacity peer station =>
    rw [serves] at plays
    obtain ⟨_, rfl, _, _, running⟩ := plays
    cases running.symm.trans ended
  | finished other writer =>
    rw [serves] at plays
    obtain ⟨reported, rfl, gone⟩ := plays
    cases reported.symm.trans ended
    exact ⟨rfl, gone⟩

/-- If they stall, the peer has not ended, or the session would have noticed that it left. -/
theorem outcome_of_stalls (shows : pair.Shows link meeting host) (stalls : pair.Stalls host)
    {bus : Bus} {files : FileTree} {ends : Link} {stopped : Prop}
    (scene : Scene link bus files ends meeting.host)
    (attached : Attached link .far ends meeting.remote.transport stopped) :
    meeting.peer.outcome? = none := by
  cases ended : meeting.peer.outcome? with
  | none => rfl
  | some outcome =>
    rcases attached with ⟨_, linked⟩ | ⟨gone, _⟩
    · cases (shows.left ended).2.symm.trans linked
    · cases gone.symm.trans (shows.held_of_stalls stalls scene)

end Pair.Shows

namespace Meeting

variable {link : Nat} {meeting later : Meeting} {pair : Pair} {host other : Host}

theorem Leads.of_like (leads : meeting.Leads link pair host) (like : host.Like other) :
    meeting.Leads link pair other := by
  obtain ⟨moves, later, patient, led, shows⟩ := leads
  exact ⟨moves, later, patient, led, { shows with like := shows.like.trans like }⟩

/-- If the two never stall on their way, they are always where the meeting leads. -/
theorem going (unsettled : ∀ {pair : Pair} {host : Host}, meeting.Leads link pair host →
    ¬ pair.Stalls host) : Pair.Going (meeting.Leads link) where
  awake leads := by
    obtain ⟨_, _, _, _, shows⟩ := leads
    exact shows.awake
  sessionActs leads ran := by
    obtain ⟨_, _, patient, led, shows⟩ := leads
    exact (shows.session_advance ran).after patient led
  serviceActs leads ran := by
    obtain ⟨_, _, patient, led, shows⟩ := leads
    exact ((shows.service_advance ran).after patient led).of_like ⟨_, rfl⟩
  goesOn := unsettled

/-- If the two never stall on their way, and the session counts no more chunks than there is to be
moved, they take turns until it is over, and stand then where the meeting leads. -/
theorem Leads.run_ends {final : Pair} {after : Host} {most : Nat}
    (leads : meeting.Leads link pair host)
    (goesOn : ∀ {pair : Pair} {host : Host}, meeting.Leads link pair host →
      ¬ pair.Stalls host ∧ pair.session.engine.progress.chunks ≤ most)
    (supplied : most ≤ pair.matter host) (ran : pair.run.run host = (final, after)) :
    meeting.Leads link final after ∧ final.session.isOver = true := by
  have going : Pair.Going (meeting.Leads link) := Meeting.going fun leads => (goesOn leads).1
  obtain ⟨reached, ends⟩ := going.run_ends leads ran
  refine ⟨reached, ends.resolve_right fun many => ?_⟩
  have few := (goesOn reached).2
  omega

end Meeting

end ChunkRelay
