import ChunkRelay.Proofs.Transfer.Answers
import ChunkRelay.Session.Drive

/-! An engine against every channel there is. The engine asks, its own side
answers as a station does, on whatever host it finds then, and the channel
answers as it likes. A log keeps each request together with its answer. What
starting and moving an engine over a real channel does is such a contest. -/

set_option autoImplicit false

namespace ChunkRelay

/-- A request of a party and its answer, with the host and the station it found. -/
structure Entry where
  host : Host
  station : Station
  request : Request
  answer : request.Answer

namespace Entry

/-- The station may be like this afterwards. A channel may give any answer; whatever else answers
does so as it must. -/
def Leaves : Entry → Station → Prop
  | ⟨_, station, .send _, _⟩, next | ⟨_, station, .receive, _⟩, next => next = station
  | ⟨host, station, request, answer⟩, next =>
    ∃ after, (station.answer request).run host = ((some answer, next), after)

/-- The message that a request put on the channel, or tried to, and how that went. -/
def sent? : Entry → Option (Message × Except ChannelError Unit)
  | ⟨_, _, .send message, result⟩ => some (message, result)
  | _ => none

def received? : Entry → Option (Except ChannelError Message)
  | ⟨_, _, .receive, result⟩ => some result
  | _ => none

end Entry

/-- An engine that is told to start, before it asks for anything. -/
def Engine.begun : Engine → Engine
  | .sending sender => .sending sender.start
  | .receiving receiver => .receiving receiver

/-- What an engine with a buffer may have come to, with the local data it has left and the log of
its requests. -/
inductive Contest (buffer : RelayBuffer) (role : Role) :
    Engine → Reader → Writer → List Entry → Prop
  | fresh (reader : Reader) (writer : Writer) : Contest buffer role (.fresh role) reader writer []
  | started {engine : Engine} {reader : Reader} {writer : Writer} {log : List Entry} :
      Contest buffer role engine reader writer log →
      Contest buffer role engine.begun reader writer log
  | asked {engine : Engine} {host : Host} {station next : Station} {log : List Entry}
      {request : Request} {resume : request.Answer → Turn Engine} {answer : request.Answer} :
      Contest buffer role engine station.reader station.writer log →
      station.stage = .relay buffer →
      engine.action buffer.address buffer.capacity = .ask request resume →
      Entry.Leaves ⟨host, station, request, answer⟩ next →
      Contest buffer role (resume answer).next next.reader next.writer
        (log ++ [⟨host, station, request, answer⟩])

/-!
## What an answer leaves
-/

namespace Station

variable {station next : Station} {host after : Host}

/-- An engine's station changes in nothing but its local data. -/
theorem answer_kept {buffer : RelayBuffer} {request : Request} {answer? : Option request.Answer}
    (answered : (station.answer request).run host = ((answer?, next), after))
    (stage : station.stage = .relay buffer) :
    next = { station with reader := next.reader, writer := next.writer } := by
  have kept : ((station.answer request).run host).1.2 =
      { station with
        reader := ((station.answer request).run host).1.2.reader
        writer := ((station.answer request).run host).1.2.writer } := by
    obtain ⟨_, transport, wait, memory, reader, writer⟩ := station
    subst stage
    cases request with
    | fetch address length =>
      simp only [answer, answerFetch, StateT.run_bind, StateT.run_get, pure_bind]
      split <;> rfl
    | _ => rfl
  rw [answered] at kept
  exact kept

/-- Only a receive may be left without an answer, and then nothing changes but the host. -/
theorem answer_none {request : Request}
    (answered : (station.answer request).run host = ((none, next), after)) : next = station := by
  cases request with
  | receive => exact (congrArg (fun result => result.1.2) answered).symm
  | _ => cases congrArg (fun result => result.1.1) answered

end Station

namespace Entry

theorem leaves {station next : Station} {host after : Host} {request : Request}
    {answer : request.Answer}
    (answered : (station.answer request).run host = ((some answer, next), after)) :
    Leaves ⟨host, station, request, answer⟩ next := by
  cases request with
  | send | receive => exact (congrArg (fun result => result.1.2) answered).symm
  | _ => exact ⟨after, answered⟩

theorem Leaves.stage {entry : Entry} {next : Station} {buffer : RelayBuffer}
    (left : entry.Leaves next) (stage : entry.station.stage = .relay buffer) :
    next.stage = .relay buffer := by
  obtain ⟨host, station, request, answer⟩ := entry
  cases request with
  | send | receive =>
    cases left
    exact stage
  | _ =>
    obtain ⟨after, answered⟩ := left
    rw [Station.answer_kept answered stage]
    exact stage

theorem Leaves.fill {host : Host} {station next : Station} {buffer : RelayBuffer}
    {result : Except IoError Nat} (left : Leaves ⟨host, station, .fill, result⟩ next)
    (stage : station.stage = .relay buffer) :
    result = (station.reader.fill host.files buffer.capacity).outcome.map fun _ =>
      (station.reader.fill host.files buffer.capacity).bytes.size := by
  obtain ⟨after, answered⟩ := left
  obtain ⟨_, transport, wait, memory, reader, writer⟩ := station
  subst stage
  exact (Option.some.inj (congrArg (fun result => result.1.1) answered)).symm

theorem Leaves.drain {host : Host} {station next : Station} {buffer : RelayBuffer} {length : Nat}
    {result : Except WriteFailure Unit}
    (left : Leaves ⟨host, station, .drain length, result⟩ next)
    (stage : station.stage = .relay buffer) :
    result = (station.writer.put host.files (buffer.read 0 length host)).outcome ∧
      next.writer = (station.writer.put host.files (buffer.read 0 length host)).writer := by
  obtain ⟨after, answered⟩ := left
  obtain ⟨_, transport, wait, memory, reader, writer⟩ := station
  subst stage
  exact ⟨(Option.some.inj (congrArg (fun result => result.1.1) answered)).symm,
    (congrArg (fun result => result.1.2.writer) answered).symm⟩

/-- Only a drain changes the writer of a station. -/
theorem Leaves.writer {entry : Entry} {next : Station} {buffer : RelayBuffer}
    (left : entry.Leaves next) (stage : entry.station.stage = .relay buffer)
    (other : ∀ length, entry.request ≠ .drain length) : next.writer = entry.station.writer := by
  obtain ⟨host, station, request, answer⟩ := entry
  cases request with
  | drain length => exact absurd rfl (other length)
  | send | receive =>
    cases left
    rfl
  | fetch address length =>
    obtain ⟨after, answered⟩ := left
    have kept : ((station.answer (.fetch address length)).run host).1.2.writer = station.writer := by
      simp only [Station.answer, Station.answerFetch, StateT.run_bind, StateT.run_get, pure_bind]
      cases station.memory.read address length host <;> rfl
    rw [answered] at kept
    exact kept
  | _ =>
    obtain ⟨after, answered⟩ := left
    exact (congrArg (fun result => result.1.2.writer) answered).symm

end Entry

/-!
## Real runs
-/

structure Situation (σ : Type) where
  party : σ
  station : Station
  host : Host

/-- How a party really comes from one situation to another, with a log of its requests. -/
inductive Performs {σ : Type} (act : σ → Action σ) :
    Situation σ → List Entry → Situation σ → Prop
  | rest (situation : Situation σ) : Performs act situation [] situation
  | answered {party : σ} {station next : Station} {host middle : Host} {request : Request}
      {resume : request.Answer → Turn σ} {answer : request.Answer} {log : List Entry}
      {last : Situation σ} :
      act party = .ask request resume →
      (station.answer request).run host = ((some answer, next), middle) →
      Performs act
        ⟨(resume answer).next, next, ((report (resume answer).notices).run middle).2⟩ log last →
      Performs act ⟨party, station, host⟩ (⟨host, station, request, answer⟩ :: log) last
  | unanswered {party : σ} {station next : Station} {host middle : Host} {request : Request}
      {resume : request.Answer → Turn σ} {log : List Entry} {last : Situation σ} :
      act party = .ask request resume →
      (station.answer request).run host = ((none, next), middle) →
      Performs act ⟨party, next, middle⟩ log last →
      Performs act ⟨party, station, host⟩ log last
  | expired {party : σ} {station : Station} {host middle : Host} {limit : Duration}
      {transport : Transport} {resume : Request.receive.Answer → Turn σ} {error : ChannelError}
      {log : List Entry} {last : Situation σ} :
      act party = .ask .receive resume →
      station.wait = .atMost limit →
      station.transport = some transport →
      (transport.expire limit).run host = (error, middle) →
      Performs act
        ⟨(resume (.error error)).next, station,
          ((report (resume (.error error)).notices).run middle).2⟩ log last →
      Performs act ⟨party, station, host⟩ (⟨host, station, .receive, .error error⟩ :: log) last

namespace Performs

variable {σ : Type} {act : σ → Action σ} {pause : σ → Bool}

theorem trans {first middle last : Situation σ} {log later : List Entry}
    (performs : Performs act first log middle) (continues : Performs act middle later last) :
    Performs act first (log ++ later) last := by
  induction performs with
  | rest => exact continues
  | answered asks answered _ ih => exact .answered asks answered (ih continues)
  | unanswered asks answered _ ih => exact .unanswered asks answered (ih continues)
  | expired asks bounded present expired _ ih =>
    exact .expired asks bounded present expired (ih continues)

theorem of_advanceFor {limit : Nat} {moved : Bool} {party : σ} {station : Station} {host after : Host}
    {advanced : Advanced σ}
    (ran : (advanceFor act pause limit moved party station).run host = (advanced, after)) :
    ∃ log, Performs act ⟨party, station, host⟩ log
      ⟨advanced.party, advanced.station, after⟩ := by
  induction limit generalizing moved party station host with
  | zero =>
    cases ran
    exact ⟨[], .rest _⟩
  | succ limit ih =>
    unfold advanceFor at ran
    split at ran
    · cases ran
      exact ⟨[], .rest _⟩
    · next request resume asks =>
      rcases answered : (station.answer request).run host with ⟨⟨answer?, next⟩, middle⟩
      rw [HostM.run_bind_eq answered] at ran
      cases answer? with
      | none =>
        cases ran
        exact ⟨[], .unanswered asks answered (.rest _)⟩
      | some answer =>
        dsimp only at ran
        have told : (report (resume answer).notices).run middle =
          ((), ((report (resume answer).notices).run middle).2) := rfl
        rw [HostM.run_bind_eq told] at ran
        split at ran
        · cases ran
          exact ⟨_, .answered asks answered (.rest _)⟩
        · obtain ⟨log, performs⟩ := ih ran
          exact ⟨_, .answered asks answered performs⟩

theorem of_advance {party : σ} {station : Station} {host after : Host} {advanced : Advanced σ}
    (ran : (advance act pause party station).run host = (advanced, after)) :
    ∃ log, Performs act ⟨party, station, host⟩ log
      ⟨advanced.party, advanced.station, after⟩ := by
  rw [advance, HostM.run_get_bind] at ran
  exact of_advanceFor ran

theorem of_expire {party next : σ} {station : Station} {host after : Host}
    (ran : (expire act party station).run host = (some next, after)) :
    ∃ log, Performs act ⟨party, station, host⟩ log ⟨next, station, after⟩ := by
  unfold expire at ran
  split at ran
  · next resume limit transport asks bounded present =>
    rcases ended : (transport.expire limit).run host with ⟨error, middle⟩
    rw [HostM.run_bind_eq ended] at ran
    have told : (report (resume (.error error)).notices).run middle =
      ((), ((report (resume (.error error)).notices).run middle).2) := rfl
    dsimp only at ran
    rw [HostM.run_bind_eq told] at ran
    cases ran
    exact ⟨_, .expired asks bounded present ended (.rest _)⟩
  · cases ran

theorem host_of_expire_none {party : σ} {station : Station} {host after : Host}
    (ran : (expire act party station).run host = (none, after)) : after = host := by
  unfold expire at ran
  split at ran
  · next resume limit transport asks bounded present =>
    cases congrArg (fun result => result.1) ran
  · cases ran
    rfl

theorem of_advanceAlone {party : σ} {station : Station} {host after : Host}
    {advanced : Advanced σ}
    (ran : (advanceAlone act pause party station).run host = (advanced, after)) :
    ∃ log, Performs act ⟨party, station, host⟩ log
      ⟨advanced.party, advanced.station, after⟩ := by
  rcases first : (advance act pause party station).run host with ⟨early, middle⟩
  obtain ⟨log, performs⟩ := of_advance first
  rw [advanceAlone, HostM.run_bind_eq first] at ran
  split at ran
  · cases ran
    exact ⟨log, performs⟩
  · cases ran
    exact ⟨log, performs⟩
  · rcases ended : (expire act early.party early.station).run middle with ⟨next?, late⟩
    rw [HostM.run_bind_eq ended] at ran
    cases next? with
    | none =>
      cases host_of_expire_none ended
      cases ran
      exact ⟨log, performs⟩
    | some next =>
      obtain ⟨more, expires⟩ := of_expire ended
      dsimp only at ran
      split at ran
      · cases ran
        exact ⟨_, performs.trans expires⟩
      · obtain ⟨rest, goesOn⟩ := of_advance ran
        exact ⟨_, (performs.trans expires).trans goesOn⟩

/-- An engine's station changes in nothing but its local data. -/
theorem station_kept {buffer : RelayBuffer} {first last : Situation σ} {log : List Entry}
    (performs : Performs act first log last) (stage : first.station.stage = .relay buffer) :
    last.station =
      { first.station with reader := last.station.reader, writer := last.station.writer } := by
  induction performs with
  | rest => rfl
  | answered asks answered _ ih =>
    have kept := Station.answer_kept answered stage
    rw [kept] at ih
    exact ih stage
  | unanswered asks answered _ ih =>
    cases Station.answer_none answered
    exact ih stage
  | expired asks bounded present expired _ ih => exact ih stage

end Performs

/-- What a party does at the station of an engine prolongs a contest. -/
theorem Performs.contest {buffer : RelayBuffer} {role : Role} {first last : Situation Engine}
    {log later : List Entry}
    (performs : Performs (Engine.action buffer.address buffer.capacity) first later last)
    (stage : first.station.stage = .relay buffer)
    (contest : Contest buffer role first.party first.station.reader first.station.writer log) :
    Contest buffer role last.party last.station.reader last.station.writer (log ++ later) := by
  induction performs generalizing log with
  | rest =>
    rw [List.append_nil]
    exact contest
  | answered asks answered _ ih =>
    have left := Entry.leaves answered
    rw [List.append_cons]
    exact ih (left.stage stage) (contest.asked stage asks left)
  | unanswered asks answered _ ih =>
    cases Station.answer_none answered
    exact ih stage contest
  | expired asks bounded present expired _ ih =>
    rw [List.append_cons]
    exact ih stage (contest.asked stage asks rfl)

/-- A real run of an engine at a desk, which keeps its buffer and its channel. -/
structure Works (engine : Engine) (desk : Desk) (host : Host) (log : List Entry) (next : Engine)
    (left : Desk) (after : Host) : Prop where
  kept : left = { desk with reader := left.reader, writer := left.writer }
  performs : Performs (Engine.action desk.buffer.address desk.buffer.capacity)
    ⟨engine, desk.station, host⟩ log ⟨next, left.station, after⟩

namespace Works

theorem rest (engine : Engine) (desk : Desk) (host : Host) :
    Works engine desk host [] engine desk host :=
  ⟨rfl, .rest _⟩

theorem trans {first middle last : Engine} {desk between left : Desk} {host during after : Host}
    {log later : List Entry} (works : Works first desk host log middle between during)
    (continues : Works middle between during later last left after) :
    Works first desk host (log ++ later) last left after := by
  obtain ⟨buffer, channel, reader, writer⟩ := desk
  obtain ⟨_, _, reader, writer⟩ := between
  obtain ⟨same, performs⟩ := works
  cases same
  exact ⟨continues.kept, performs.trans continues.performs⟩

/-- What an engine really does prolongs a contest. -/
theorem contest {role : Role} {engine next : Engine} {desk left : Desk} {host after : Host}
    {log later : List Entry} (works : Works engine desk host later next left after)
    (contest : Contest desk.buffer role engine desk.reader desk.writer log) :
    Contest desk.buffer role next left.reader left.writer (log ++ later) :=
  works.performs.contest rfl contest

end Works

namespace Engine

variable {engine next : Engine} {desk left : Desk} {host after : Host}

theorem act_works {pause : Engine → Bool} {acted : Advanced Engine}
    (ran : (engine.act desk pause).run host = (acted, after)) :
    ∃ log, Works engine desk host log acted.party (desk.withData acted.station) after := by
  obtain ⟨log, performs⟩ := Performs.of_advanceAlone ran
  have kept : acted.station = (desk.withData acted.station).station :=
    performs.station_kept (rfl : desk.station.stage = .relay desk.buffer)
  rw [kept] at performs
  exact ⟨log, rfl, performs⟩

theorem start_works (ran : (engine.start desk).run host = ((next, left), after)) :
    ∃ log, Works engine.begun desk host log next left after := by
  cases engine with
  | sending sender =>
    cases ran
    exact ⟨[], .rest _ _ _⟩
  | receiving receiver =>
    unfold start at ran
    dsimp only at ran
    split at ran
    · cases ran
      exact ⟨[], .rest _ _ _⟩
    · rcases acted : (act (.receiving receiver) desk isReady).run host with ⟨result, middle⟩
      rw [HostM.run_bind_eq acted] at ran
      cases ran
      exact act_works acted

theorem begun_of_isTerminal (terminal : engine.state.isTerminal = true) : engine.begun = engine := by
  cases engine with
  | receiving receiver => rfl
  | sending sender =>
    obtain ⟨phase, progress⟩ := sender
    cases phase with
    | idle => cases terminal
    | _ => rfl

theorem start_of_isTerminal (terminal : engine.state.isTerminal = true) (desk : Desk) (host : Host) :
    (engine.start desk).run host = ((engine, desk), host) := by
  cases engine with
  | sending sender =>
    exact congrArg (fun engine => ((engine, desk), host)) (begun_of_isTerminal terminal)
  | receiving receiver =>
    obtain ⟨phase, progress⟩ := receiver
    cases phase with
    | completed | failed error => rfl
    | _ => cases terminal

theorem step_of_isTerminal (terminal : engine.state.isTerminal = true) (desk : Desk) (host : Host) :
    (engine.step desk).run host = (some (engine, desk), host) := by
  unfold step
  rw [if_pos terminal]
  rfl

theorem action_of_isTerminal (terminal : engine.state.isTerminal = true) (address : UInt64)
    (capacity : Nat) : engine.action address capacity = .stop := by
  cases engine with
  | sending sender =>
    obtain ⟨phase, progress⟩ := sender
    cases phase with
    | completed | failed => rfl
    | _ => cases terminal
  | receiving receiver =>
    obtain ⟨phase, progress⟩ := receiver
    cases phase with
    | completed | failed => rfl
    | _ => cases terminal

theorem step_works (ran : (engine.step desk).run host = (some (next, left), after)) :
    ∃ log, Works engine.begun desk host log next left after := by
  unfold step at ran
  split at ran
  · next terminal =>
    cases ran
    rw [begun_of_isTerminal terminal]
    exact ⟨[], .rest _ _ _⟩
  · rcases begins : (engine.start desk).run host with ⟨⟨starting, opened⟩, middle⟩
    rw [HostM.run_bind_eq begins] at ran
    obtain ⟨log, starts⟩ := start_works begins
    dsimp only at ran
    split at ran
    · cases ran
      exact ⟨log, starts⟩
    · rcases acted : (starting.act opened isReady).run middle with ⟨result, late⟩
      rw [HostM.run_bind_eq acted] at ran
      obtain ⟨later, goesOn⟩ := act_works acted
      split at ran
      · cases ran
      · cases ran
        exact ⟨_, starts.trans goesOn⟩

theorem works_of_called
    (called : (engine.start desk).run host = ((next, left), after) ∨
      (engine.step desk).run host = (some (next, left), after)) :
    ∃ log, Works engine.begun desk host log next left after := by
  rcases called with starts | steps
  · exact start_works starts
  · exact step_works steps

end Engine

/-- Starting or moving an engine over a real channel prolongs the contest it is in. -/
theorem Contest.called {buffer : RelayBuffer} {role : Role} {engine next : Engine} {reader : Reader}
    {writer : Writer} {log : List Entry} {channel : Channel} {left : Desk} {host after : Host}
    (contest : Contest buffer role engine reader writer log)
    (called : (engine.start ⟨buffer, channel, reader, writer⟩).run host = ((next, left), after) ∨
      (engine.step ⟨buffer, channel, reader, writer⟩).run host = (some (next, left), after)) :
    ∃ more, Works engine.begun ⟨buffer, channel, reader, writer⟩ host more next left after ∧
      Contest buffer role next left.reader left.writer (log ++ more) := by
  obtain ⟨more, works⟩ := Engine.works_of_called called
  exact ⟨more, works, works.contest contest.started⟩

end ChunkRelay
