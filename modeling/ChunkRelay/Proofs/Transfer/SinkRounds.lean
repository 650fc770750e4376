import ChunkRelay.Proofs.Transfer.Encounter
import ChunkRelay.Remote.Peer

/-! What a sink does against every sender, every memory and every destination.
Its log is a list of rounds, one for each chunk: announced, read, written in
full and replied to; and of the part of a round that is under way. -/

set_option autoImplicit false

namespace ChunkRelay

/-- What a sink asks for in a phase. -/
def SinkPhase.request? : SinkPhase → Option Request
  | .awaiting => some .receive
  | .fetching address length => some (.fetch address length)
  | .draining length => some (.drain length)
  | .acknowledging length => some (.send (.readDone (.ofNat length)))
  | .flushing => some .flush
  | .finished | .failed _ => none

namespace Sink

/-- The bytes of some chunks, one after the other. -/
def content (chunks : List ByteArray) : List UInt8 :=
  chunks.flatMap (·.data.toList)

/-- The error that an answer makes a sink fail with. -/
def fault? (capacity : Nat) : Entry → Option RelayError
  | ⟨_, _, .receive, .ok (.dataReady _ length)⟩ =>
    if capacity < length.toNat then some (.protocol (.oversizedChunk length.toNat capacity))
    else none
  | ⟨_, _, .receive, .ok other⟩ => some (.channel (.unexpected "data-ready" other.name))
  | ⟨_, _, .receive, .error error⟩ | ⟨_, _, .send _, .error error⟩ => some (.channel error)
  | ⟨_, _, .fetch _ _, .error error⟩ => some (.allocation error)
  | ⟨_, _, .drain _, .error failure⟩ => some (.localIO (drainError failure))
  | ⟨_, _, .flush, .error cause⟩ => some (.localIO (.write cause))
  | _ => none

/-!
## Rounds
-/

/-- A sink was told of some bytes that it has room for. -/
inductive Announced (capacity : Nat) (before : Station) (address length : UInt64) :
    List Entry → Prop
  | heard {host : Host} :
      1 ≤ length.toNat →
      length.toNat ≤ capacity →
      Announced capacity before address length
        [⟨host, before, .receive, .ok (.dataReady address length)⟩]

/-- It has read them where it was told to. -/
inductive Fetched (capacity : Nat) (memory : AddressedMemory) (before : Station)
    (length : UInt64) (chunk : ByteArray) : List Entry → Station → Prop
  | read {address : UInt64} {latest : List Entry} {host : Host} {fetched : Station} :
      Announced capacity before address length latest →
      memory.read address length.toNat host = .ok chunk →
      (∀ other, fetched.stage.front length.toNat other = chunk) →
      fetched.writer = before.writer →
      Fetched capacity memory before length chunk
        (latest ++ [⟨host, before, .fetch address length.toNat, .ok ()⟩]) fetched

/-- Its writer has taken all of them. -/
inductive Drained (capacity : Nat) (memory : AddressedMemory) (before : Station)
    (length : UInt64) (chunk : ByteArray) : List Entry → Station → Prop
  | written {latest : List Entry} {host : Host} {fetched after : Station} :
      Fetched capacity memory before length chunk latest fetched →
      (before.writer.put host.files chunk).outcome = .ok () →
      after.writer = (before.writer.put host.files chunk).writer →
      Drained capacity memory before length chunk
        (latest ++ [⟨host, fetched, .drain length.toNat, .ok ()⟩]) after

/-- The log of a sink that has replied to these chunks, one round for each, with the station that is
left of the first one. -/
inductive Rounds (capacity : Nat) (memory : AddressedMemory) (start : Station) :
    List ByteArray → List Entry → Station → Prop
  | none : Rounds capacity memory start [] [] start
  | answered {chunks : List ByteArray} {chunk : ByteArray} {rounds latest : List Entry}
      {before after : Station} {length : UInt64} {host : Host} :
      Rounds capacity memory start chunks rounds before →
      Drained capacity memory before length chunk latest after →
      Rounds capacity memory start (chunks ++ [chunk])
        (rounds ++ (latest ++ [⟨host, after, .send (.readDone length), .ok ()⟩])) after

/-- What a sink has asked for since its latest reply, when it is in a phase. -/
inductive Underway (capacity : Nat) (memory : AddressedMemory) (before : Station) :
    SinkPhase → List Entry → Station → Prop
  | idle : Underway capacity memory before .awaiting [] before
  | announced {address length : UInt64} {latest : List Entry} :
      Announced capacity before address length latest →
      Underway capacity memory before (.fetching address length.toNat) latest before
  | fetched {length : UInt64} {chunk : ByteArray} {latest : List Entry} {fetched : Station} :
      Fetched capacity memory before length chunk latest fetched →
      Underway capacity memory before (.draining length.toNat) latest fetched
  | written {length : UInt64} {chunk : ByteArray} {latest : List Entry} {after : Station} :
      Drained capacity memory before length chunk latest after →
      Underway capacity memory before (.acknowledging length.toNat) latest after
  | ended {host : Host} {address : UInt64} :
      Underway capacity memory before .flushing
        [⟨host, before, .receive, .ok (.dataReady address 0)⟩] before
  | finished {heard host : Host} {address : UInt64} :
      Underway capacity memory before .finished
        [⟨heard, before, .receive, .ok (.dataReady address 0)⟩, ⟨host, before, .flush, .ok ()⟩]
        before
  | failed {phase : SinkPhase} {latest : List Entry} {entry : Entry} {next : Station}
      {error : RelayError} :
      Underway capacity memory before phase latest entry.station →
      phase.request? = some entry.request →
      fault? capacity entry = some error →
      entry.Permits next →
      Underway capacity memory before (.failed error) (latest ++ [entry]) next

/-!
## One request of a sink
-/

/-- A sink, a request of it with its answer, and the sink and the station after it. -/
inductive Turned (capacity : Nat) : Sink → Entry → Sink → Station → Prop
  | announced {host : Host} {station : Station} {progress : Progress} {address length : UInt64} :
      1 ≤ length.toNat →
      length.toNat ≤ capacity →
      Turned capacity ⟨.awaiting, progress⟩
        ⟨host, station, .receive, .ok (.dataReady address length)⟩
        ⟨.fetching address length.toNat, progress⟩ station
  | ended {host : Host} {station : Station} {progress : Progress} {address : UInt64} :
      Turned capacity ⟨.awaiting, progress⟩ ⟨host, station, .receive, .ok (.dataReady address 0)⟩
        ⟨.flushing, progress⟩ station
  | fetched {host : Host} {station next : Station} {progress : Progress} {address : UInt64}
      {length : Nat} {chunk : ByteArray} :
      station.memory.read address length host = .ok chunk →
      (∀ other, next.stage.front length other = chunk) →
      next.writer = station.writer →
      Turned capacity ⟨.fetching address length, progress⟩
        ⟨host, station, .fetch address length, .ok ()⟩ ⟨.draining length, progress⟩ next
  | drained {host : Host} {station next : Station} {progress : Progress} {length : Nat} :
      (station.writer.put host.files (station.stage.front length host)).outcome = .ok () →
      next.writer = (station.writer.put host.files (station.stage.front length host)).writer →
      Turned capacity ⟨.draining length, progress⟩ ⟨host, station, .drain length, .ok ()⟩
        ⟨.acknowledging length, progress⟩ next
  | replied {host : Host} {station : Station} {progress : Progress} {length : Nat} :
      Turned capacity ⟨.acknowledging length, progress⟩
        ⟨host, station, .send (.readDone (.ofNat length)), .ok ()⟩
        ⟨.awaiting, progress.confirm length⟩ station
  | finished {host : Host} {station : Station} {progress : Progress} :
      Turned capacity ⟨.flushing, progress⟩ ⟨host, station, .flush, .ok ()⟩
        ⟨.finished, progress⟩ station
  | failed {phase : SinkPhase} {progress : Progress} {entry : Entry} {next : Station}
      {error : RelayError} :
      phase.request? = some entry.request →
      fault? capacity entry = some error →
      entry.Permits next →
      Turned capacity ⟨phase, progress⟩ entry ⟨.failed error, progress⟩ next

section Turned

variable {capacity : Nat} {host : Host} {station next : Station} {contents : Extent}
  {progress : Progress}

/-- Reading at an address changes nothing but the stage, which has the bytes at its front then. -/
theorem fetch_of_permits (stage : station.stage = .scratch contents) {address : UInt64}
    {length : Nat} {result : Except AllocationError Unit}
    (permits : Entry.Permits ⟨host, station, .fetch address length, result⟩ next) :
    (∃ rest, next = { station with stage := .scratch rest }) ∧
      (result = .ok () → ∃ chunk, station.memory.read address length host = .ok chunk ∧
        ∀ other, next.stage.front length other = chunk) := by
  obtain ⟨after, answered⟩ := permits
  obtain ⟨_, transport, wait, memory, reader, writer⟩ := station
  subst stage
  cases reads : memory.read address length host with
  | error error =>
    have refused : (Station.answer ⟨.scratch contents, transport, wait, memory, reader, writer⟩
        (.fetch address length)).run host =
          ((some (.error error), ⟨.scratch contents, transport, wait, memory, reader, writer⟩),
            host) := by
      simp only [Station.answer, Station.answerFetch, StateT.run_bind, StateT.run_get, pure_bind,
        reads]
      rfl
    cases refused.symm.trans answered
    exact ⟨⟨contents, rfl⟩, fun taken => by cases taken⟩
  | ok chunk =>
    have taken : (Station.answer ⟨.scratch contents, transport, wait, memory, reader, writer⟩
        (.fetch address length)).run host =
          ((some (.ok ()),
            ⟨.scratch (contents.write 0 chunk), transport, wait, memory, reader, writer⟩),
            host) := by
      simp only [Station.answer, Station.answerFetch, StateT.run_bind, StateT.run_get, pure_bind,
        reads]
      rfl
    cases taken.symm.trans answered
    refine ⟨⟨_, rfl⟩, fun _ => ⟨chunk, rfl, fun other => ?_⟩⟩
    have sized := AddressedMemory.size_of_read reads
    subst sized
    exact contents.read_write 0 chunk

theorem drain_of_permits {length : Nat} {result : Except WriteFailure Unit}
    (permits : Entry.Permits ⟨host, station, .drain length, result⟩ next) :
    let put := station.writer.put host.files (station.stage.front length host)
    put.outcome = result ∧ next = { station with writer := put.writer } := by
  obtain ⟨after, answered⟩ := permits
  exact ⟨Option.some.inj (congrArg (fun ran => ran.1.1) answered),
    (congrArg (fun ran => ran.1.2) answered).symm⟩

theorem turned_consider {address length : UInt64} :
    Turned capacity ⟨.awaiting, progress⟩ ⟨host, station, .receive, .ok (.dataReady address length)⟩
      (Sink.consider capacity ⟨.awaiting, progress⟩ (.dataReady address length)).next station := by
  simp only [consider]
  split
  · next ends =>
    subst ends
    exact .ended
  · next some_bytes =>
    split
    · next too_many =>
      refine .failed rfl ?_ rfl
      rw [fault?, if_pos too_many]
    · next fits =>
      refine .announced (Nat.one_le_iff_ne_zero.mpr fun nothing => some_bytes ?_)
        (Nat.le_of_not_lt fits)
      exact UInt64.toNat_inj.mp nothing

/-- All that a sink can do next. It keeps its memory and works on a scratch of its own. -/
theorem turned {sink : Sink} {request : Request} {resume : request.Answer → Turn Sink}
    {answer : request.Answer} (stage : station.stage = .scratch contents)
    (asks : sink.action capacity = .ask request resume)
    (permits : Entry.Permits ⟨host, station, request, answer⟩ next) :
    sink.phase.request? = some request ∧ next.memory = station.memory ∧
      (∃ rest, next.stage = .scratch rest) ∧
      Turned capacity sink ⟨host, station, request, answer⟩ (resume answer).next next := by
  obtain ⟨phase, progress⟩ := sink
  cases phase with
  | awaiting =>
    cases asks
    cases permits
    refine ⟨rfl, rfl, ⟨contents, stage⟩, ?_⟩
    rcases answer with error | message
    · exact .failed rfl rfl rfl
    · cases message with
      | dataReady address length => exact turned_consider
      | _ => exact .failed rfl rfl rfl
  | fetching address length =>
    cases asks
    obtain ⟨⟨rest, left⟩, reads⟩ := fetch_of_permits stage permits
    refine ⟨rfl, congrArg (·.memory) left, ⟨rest, congrArg (·.stage) left⟩, ?_⟩
    rcases answer with error | _
    · exact .failed rfl rfl permits
    · obtain ⟨chunk, read, front⟩ := reads rfl
      exact .fetched read front (congrArg (·.writer) left)
  | draining length =>
    cases asks
    obtain ⟨told, left⟩ := drain_of_permits permits
    refine ⟨rfl, congrArg (·.memory) left, ⟨contents, (congrArg (·.stage) left).trans stage⟩, ?_⟩
    rcases answer with failure | _
    · exact .failed rfl rfl permits
    · exact .drained told (congrArg (·.writer) left)
  | acknowledging length =>
    cases asks
    cases permits
    refine ⟨rfl, rfl, ⟨contents, stage⟩, ?_⟩
    rcases answer with error | _
    · exact .failed rfl rfl rfl
    · exact .replied
  | flushing =>
    cases asks
    have left : next = station := by
      obtain ⟨after, answered⟩ := id permits
      exact (congrArg (fun ran => ran.1.2) answered).symm
    subst left
    refine ⟨rfl, rfl, ⟨contents, stage⟩, ?_⟩
    rcases answer with cause | _
    · exact .failed rfl rfl permits
    · exact .finished
  | finished => cases asks
  | failed error => cases asks

end Turned

/-!
## What a log tells
-/

/-- After such an answer a sink goes on. -/
def Calm (capacity : Nat) (entry : Entry) : Prop :=
  fault? capacity entry = none ∧ entry.request ≠ .flush

/-- All that a sink has said are replies, each to a chunk that its writer had just taken. -/
def Acknowledged (capacity : Nat) (start : Station) (log : List Entry) : Prop :=
  ∀ prior entry message result, prior ++ [entry] <+: log →
    entry.sent? = some (message, result) →
      ∃ chunks rounds before latest length chunk,
        prior = rounds ++ latest ∧ message = .readDone length ∧
        Rounds capacity start.memory start chunks rounds before ∧
        Drained capacity start.memory before length chunk latest entry.station

section Rounds

variable {capacity : Nat} {memory : AddressedMemory} {start before last : Station}
  {address length : UInt64} {chunk : ByteArray} {chunks : List ByteArray}
  {log rounds latest : List Entry} {phase : SinkPhase}

theorem Announced.calm (announced : Announced capacity before address length latest) :
    ∀ entry ∈ latest, Calm capacity entry := by
  obtain ⟨_, fits⟩ := announced
  refine List.forall_mem_singleton.mpr ⟨?_, nofun⟩
  rw [fault?, if_neg (Nat.not_lt.mpr fits)]

theorem Fetched.calm (fetched : Fetched capacity memory before length chunk latest last) :
    ∀ entry ∈ latest, Calm capacity entry := by
  obtain ⟨announced, _⟩ := fetched
  exact List.forall_mem_append.mpr
    ⟨announced.calm, List.forall_mem_singleton.mpr ⟨rfl, nofun⟩⟩

theorem Drained.calm (drained : Drained capacity memory before length chunk latest last) :
    ∀ entry ∈ latest, Calm capacity entry := by
  obtain ⟨fetched, _⟩ := drained
  exact List.forall_mem_append.mpr ⟨fetched.calm, List.forall_mem_singleton.mpr ⟨rfl, nofun⟩⟩

theorem Rounds.calm (rounds : Rounds capacity memory start chunks log last) :
    ∀ entry ∈ log, Calm capacity entry := by
  induction rounds with
  | none => exact List.forall_mem_nil _
  | answered _ drained ih =>
    exact List.forall_mem_append.mpr ⟨ih, List.forall_mem_append.mpr
      ⟨drained.calm, List.forall_mem_singleton.mpr ⟨rfl, nofun⟩⟩⟩

/-- As long as a sink has something to ask for, all answers let it go on. -/
theorem Underway.calm (underway : Underway capacity memory before phase latest last)
    (asking : phase.request? ≠ none) : ∀ entry ∈ latest, Calm capacity entry := by
  cases underway with
  | idle => exact List.forall_mem_nil _
  | announced announced => exact announced.calm
  | fetched fetched => exact fetched.calm
  | written drained => exact drained.calm
  | ended => exact List.forall_mem_singleton.mpr ⟨rfl, nofun⟩
  | finished | failed => exact absurd rfl asking

theorem Fetched.front (fetched : Fetched capacity memory before length chunk latest last)
    (other : Host) : last.stage.front length.toNat other = chunk := by
  obtain ⟨_, _, front, _⟩ := fetched
  exact front other

theorem Fetched.writer (fetched : Fetched capacity memory before length chunk latest last) :
    last.writer = before.writer := by
  obtain ⟨_, _, _, same⟩ := fetched
  exact same

theorem Fetched.size (fetched : Fetched capacity memory before length chunk latest last) :
    chunk.size = length.toNat := by
  obtain ⟨_, reads, _⟩ := fetched
  exact AddressedMemory.size_of_read reads

theorem Drained.size (drained : Drained capacity memory before length chunk latest last) :
    chunk.size = length.toNat := by
  obtain ⟨fetched, _⟩ := drained
  exact fetched.size

theorem Drained.bounds (drained : Drained capacity memory before length chunk latest last) :
    1 ≤ length.toNat ∧ length.toNat ≤ capacity := by
  obtain ⟨⟨⟨positive, fits⟩, _⟩, _⟩ := drained
  exact ⟨positive, fits⟩

end Rounds

section Acknowledged

variable {capacity : Nat} {start : Station} {log : List Entry} {entry : Entry}

theorem Acknowledged.concat (acknowledged : Acknowledged capacity start log)
    (right : ∀ message result, entry.sent? = some (message, result) →
      ∃ chunks rounds before latest length chunk,
        log = rounds ++ latest ∧ message = .readDone length ∧
        Rounds capacity start.memory start chunks rounds before ∧
        Drained capacity start.memory before length chunk latest entry.station) :
    Acknowledged capacity start (log ++ [entry]) := by
  intro prior other message result before sent
  rcases List.prefix_concat_iff.mp before with same | earlier
  · obtain ⟨rfl, rfl⟩ := List.append_singleton_inj.mp same
    exact right message result sent
  · exact acknowledged prior other message result earlier sent

theorem Acknowledged.quiet (acknowledged : Acknowledged capacity start log)
    (quiet : entry.sent? = none) : Acknowledged capacity start (log ++ [entry]) :=
  acknowledged.concat fun message result sent => by
    rw [quiet] at sent
    cases sent

end Acknowledged

/-- A log is made of rounds and of what is under way, and the progress counts the rounds. -/
def Stands (capacity : Nat) (start : Station) (sink : Sink) (log : List Entry) (last : Station) :
    Prop :=
  ∃ chunks rounds before latest, log = rounds ++ latest ∧
    Rounds capacity start.memory start chunks rounds before ∧
    sink.progress = ⟨(content chunks).length, chunks.length⟩ ∧
    Underway capacity start.memory before sink.phase latest last

/-- What is kept by everything that a sink does. -/
structure Kept (capacity : Nat) (start : Station) (sink : Sink) (log : List Entry)
    (last : Station) : Prop where
  stage : ∃ contents, last.stage = .scratch contents
  memory : last.memory = start.memory
  acknowledged : Acknowledged capacity start log
  stands : Stands capacity start sink log last

section Kept

variable {capacity : Nat} {start station next : Station} {sink after : Sink} {log : List Entry}
  {entry : Entry}

/-- What a sink says, taken or not, is a reply to the chunk that is under way. -/
theorem Stands.reply {progress : Progress} {length : Nat}
    (stands : Stands capacity start ⟨.acknowledging length, progress⟩ log station)
    (acknowledged : Acknowledged capacity start log) (host : Host)
    (result : Except ChannelError Unit) :
    Acknowledged capacity start
      (log ++ [⟨host, station, .send (.readDone (.ofNat length)), result⟩]) := by
  refine acknowledged.concat fun message result sent => ?_
  cases sent
  obtain ⟨chunks, rounds, before, latest, split, done, _, underway⟩ := stands
  cases underway with
  | written drained =>
    exact ⟨chunks, rounds, before, latest, _, _, split, by rw [UInt64.ofNat_toNat], done, drained⟩

theorem Kept.turned (kept : Kept capacity start sink log station) (same : entry.station = station)
    (stage : ∃ contents, next.stage = .scratch contents) (memory : next.memory = station.memory)
    (turned : Turned capacity sink entry after next) :
    Kept capacity start after (log ++ [entry]) next := by
  obtain ⟨_, there, acknowledged, stands⟩ := kept
  have elsewhere : next.memory = start.memory := memory.trans there
  cases turned with
  | announced positive fits =>
    cases same
    obtain ⟨chunks, rounds, before, latest, rfl, done, counted, underway⟩ := stands
    cases underway
    exact ⟨stage, elsewhere, acknowledged.quiet rfl, chunks, rounds, _, _,
      List.append_assoc .., done, counted, .announced (.heard positive fits)⟩
  | ended =>
    cases same
    obtain ⟨chunks, rounds, before, latest, rfl, done, counted, underway⟩ := stands
    cases underway
    exact ⟨stage, elsewhere, acknowledged.quiet rfl, chunks, rounds, _, _,
      List.append_assoc .., done, counted, .ended⟩
  | fetched reads front writer =>
    cases same
    rw [there] at reads
    obtain ⟨chunks, rounds, before, latest, rfl, done, counted, underway⟩ := stands
    cases underway with
    | announced announced =>
      exact ⟨stage, elsewhere, acknowledged.quiet rfl, chunks, rounds, _, _,
        List.append_assoc .., done, counted, .fetched (.read announced reads front writer)⟩
  | drained taken left =>
    cases same
    obtain ⟨chunks, rounds, before, latest, rfl, done, counted, underway⟩ := stands
    cases underway with
    | fetched fetched =>
      rw [fetched.front, fetched.writer] at taken left
      exact ⟨stage, elsewhere, acknowledged.quiet rfl, chunks, rounds, _, _,
        List.append_assoc .., done, counted, .written (.written fetched taken left)⟩
  | @replied host =>
    cases same
    refine ⟨stage, elsewhere, stands.reply acknowledged host _, ?_⟩
    obtain ⟨chunks, rounds, before, latest, rfl, done, counted, underway⟩ := stands
    cases underway with
    | @written length chunk _ _ drained =>
      refine ⟨chunks ++ [chunk],
        rounds ++ (latest ++ [⟨host, next, .send (.readDone length), .ok ()⟩]), _, [], ?_,
        .answered done drained, ?_, .idle⟩
      · rw [UInt64.ofNat_toNat, List.append_nil, List.append_assoc]
      · dsimp only at counted ⊢
        rw [counted, ← drained.size]
        simp [Progress.confirm, content]
  | finished =>
    cases same
    obtain ⟨chunks, rounds, before, latest, rfl, done, counted, underway⟩ := stands
    cases underway
    exact ⟨stage, elsewhere, acknowledged.quiet rfl, chunks, rounds, _, _,
      List.append_assoc .., done, counted, .finished⟩
  | @failed phase progress _ _ error asks fault permits =>
    subst same
    have still : Acknowledged capacity start (log ++ [entry]) := by
      obtain ⟨host, station, request, answer⟩ := entry
      cases phase with
      | acknowledging length =>
        cases asks
        exact stands.reply acknowledged host answer
      | finished | failed => cases asks
      | _ =>
        cases asks
        exact acknowledged.quiet rfl
    obtain ⟨chunks, rounds, before, latest, rfl, done, counted, underway⟩ := stands
    exact ⟨stage, elsewhere, still, chunks, rounds, _, _, List.append_assoc .., done, counted,
      .failed underway asks fault permits⟩

theorem Kept.fresh {contents : Extent} (stage : start.stage = .scratch contents) :
    Kept capacity start .fresh [] start where
  stage := ⟨contents, stage⟩
  memory := rfl
  acknowledged prior entry message result before := by simp at before
  stands := ⟨[], [], start, [], rfl, .none, rfl, .idle⟩

end Kept

/-- A peer that is a sink asks what the sink asks, and stays one. -/
theorem asks_sinking {capacity : Nat} {sink : Sink} {request : Request}
    {resume : request.Answer → Turn Peer}
    (asks : Peer.action capacity (.sinking sink) = .ask request resume) :
    ∃ goOn : request.Answer → Turn Sink, sink.action capacity = .ask request goOn ∧
      (fun answer => (goOn answer).map .sinking) = resume := by
  rw [Peer.action] at asks
  cases acts : sink.action capacity with
  | stop =>
    rw [acts] at asks
    cases asks
  | ask request goOn =>
    rw [acts] at asks
    cases asks
    exact ⟨goOn, rfl, rfl⟩

/-- Whatever a sink has encountered, it has kept to its rules; so has a peer that became a sink. -/
theorem kept_of_encounter {capacity : Nat} {mode : PeerMode} {start last : Station}
    {contents : Extent} (stage : start.stage = .scratch contents) {party : Peer} {log : List Entry}
    (encounter : Encounter (Peer.action capacity) (.fresh mode) start party last log) :
    match party with
    | .sinking sink => Kept capacity start sink log last
    | .greeting _ _ => last = start ∧ log = []
    | .sourcing _ | .refused _ => True := by
  induction encounter with
  | fresh =>
    cases mode with
    | sink => exact .fresh stage
    | source => trivial
    | serve => exact ⟨rfl, rfl⟩
  | @asked party station next log host request resume answer _ asks permits ih =>
    cases party with
    | greeting hasReader hasWriter =>
      obtain ⟨rfl, rfl⟩ := ih
      cases asks
      rcases answer with error | message
      · trivial
      · cases message with
        | dataReady address length =>
          cases hasWriter with
          | false => cases hasReader <;> trivial
          | true =>
            have asks : Sink.fresh.action capacity = .ask .receive _ := rfl
            obtain ⟨_, memory, still, turned⟩ := turned stage asks permits
            cases hasReader <;> exact (Kept.fresh stage).turned rfl still memory turned
        | baseAddress => cases hasReader <;> cases hasWriter <;> trivial
        | _ => cases hasReader <;> cases hasWriter <;> trivial
    | sinking sink =>
      replace ih : Kept capacity start sink log station := ih
      obtain ⟨resume, acts, rfl⟩ := asks_sinking asks
      obtain ⟨_, scratch⟩ := ih.stage
      obtain ⟨_, memory, still, turned⟩ := turned scratch acts permits
      exact ih.turned rfl still memory turned
    | sourcing source =>
      rw [Peer.action] at asks
      cases acts : source.action with
      | stop =>
        rw [acts] at asks
        cases asks
      | ask request resume =>
        rw [acts] at asks
        cases asks
        trivial
    | refused error => cases asks

end Sink

end ChunkRelay
