import ChunkRelay.Proofs.Exchange.Meeting

/-! How long a meeting can go on. Every party has a rank that each of its acts
raises, whatever the answer, and that the number of counted chunks bounds. So
the chunks that a run counts bound its moves. -/

set_option autoImplicit false

namespace ChunkRelay

/-- Four acts for each counted chunk, and those since. -/
def Sender.rank (sender : Sender) : Nat :=
  4 * sender.progress.chunks +
    match sender.phase with
    | .idle | .ready => 0
    | .filling => 1
    | .announcing _ => 2
    | .awaiting _ => 3
    | .completed | .failed _ => 4

def Receiver.rank (receiver : Receiver) : Nat :=
  4 * receiver.progress.chunks +
    match receiver.phase with
    | .idle => 0
    | .introducing => 1
    | .ready => 2
    | .draining _ | .flushing => 3
    | .clearing _ => 4
    | .acknowledging _ => 5
    | .completed | .failed _ => 6

def Sink.rank (sink : Sink) : Nat :=
  4 * sink.progress.chunks +
    match sink.phase with
    | .awaiting => 0
    | .fetching _ _ | .flushing => 1
    | .draining _ => 2
    | .acknowledging _ => 3
    | .finished | .failed _ => 4

def Source.rank (source : Source) : Nat :=
  4 * source.progress.chunks +
    match source.phase with
    | .opening => 0
    | .filling _ => 1
    | .placing _ _ => 2
    | .announcing _ _ => 3
    | .awaiting _ _ => 4
    | .finished | .failed _ => 5

theorem Sender.rank_le (sender : Sender) : sender.rank ≤ 4 * sender.progress.chunks + 4 := by
  obtain ⟨phase, progress⟩ := sender
  cases phase <;> simp [rank]

theorem Sink.rank_le (sink : Sink) : sink.rank ≤ 4 * sink.progress.chunks + 4 := by
  obtain ⟨phase, progress⟩ := sink
  cases phase <;> simp [rank]

theorem Receiver.rank_le (receiver : Receiver) :
    receiver.rank ≤ 4 * receiver.progress.chunks + 6 := by
  obtain ⟨phase, progress⟩ := receiver
  cases phase <;> simp [rank]

theorem Source.rank_le (source : Source) : source.rank ≤ 4 * source.progress.chunks + 5 := by
  obtain ⟨phase, progress⟩ := source
  cases phase <;> simp [rank]

theorem Sender.rank_lt {address : UInt64} {sender : Sender} {request : Request}
    {resume : request.Answer → Turn Sender} (asks : sender.action address = .ask request resume)
    (answer : request.Answer) : sender.rank < (resume answer).next.rank := by
  obtain ⟨phase, progress⟩ := sender
  cases phase with
  | idle | ready =>
    cases asks
    simp [goTo, Turn.silent, rank]
  | filling =>
    cases asks
    cases answer <;> simp [goTo, fail, Turn.silent, rank]
  | announcing length =>
    cases asks
    cases answer with
    | error error => simp [fail, rank]
    | ok _ =>
      dsimp only
      split <;> simp [complete, goTo, Turn.silent, rank]
  | awaiting length =>
    cases asks
    dsimp only
    split
    · unfold settle
      split
      · simp [fail, rank]
      · split
        · simp [fail, rank]
        · simp [confirm, Progress.confirm, rank]
          omega
    · simp [fail, rank]
  | completed | failed error => cases asks

theorem Receiver.rank_lt {address : UInt64} {capacity : Nat} {receiver : Receiver}
    {request : Request} {resume : request.Answer → Turn Receiver}
    (asks : receiver.action address capacity = .ask request resume) (answer : request.Answer) :
    receiver.rank < (resume answer).next.rank := by
  obtain ⟨phase, progress⟩ := receiver
  cases phase with
  | idle | clearing length =>
    cases asks
    simp [goTo, Turn.silent, rank]
  | introducing =>
    cases asks
    cases answer <;> simp [introduced, fail, rank]
  | ready =>
    cases asks
    dsimp only
    split
    · unfold consider
      repeat' split
      all_goals simp [goTo, fail, Turn.silent, rank]
    · simp [fail, rank]
  | draining length | flushing =>
    cases asks
    cases answer <;> simp [goTo, fail, complete, Turn.silent, rank]
  | acknowledging length =>
    cases asks
    cases answer with
    | error error => simp [fail, rank]
    | ok _ =>
      simp [confirm, Progress.confirm, rank]
      omega
  | completed | failed error => cases asks

theorem Sink.rank_lt {capacity : Nat} (sink : Sink) {request : Request}
    {resume : request.Answer → Turn Sink} (asks : sink.action capacity = .ask request resume)
    (answer : request.Answer) : sink.rank < (resume answer).next.rank := by
  obtain ⟨phase, progress⟩ := sink
  cases phase with
  | awaiting =>
    cases asks
    cases answer with
    | error error => simp [fail, goTo, Turn.silent, rank]
    | ok message =>
      cases message with
      | dataReady address length =>
        dsimp only [consider]
        repeat' split
        all_goals simp [goTo, fail, Turn.silent, rank]
      | _ => simp [consider, fail, goTo, Turn.silent, rank]
  | fetching address length | draining length | flushing =>
    cases asks
    cases answer <;> simp [goTo, fail, finish, Turn.silent, rank]
  | acknowledging length =>
    cases asks
    cases answer with
    | error error => simp [fail, goTo, Turn.silent, rank]
    | ok _ =>
      simp [confirm, Progress.confirm, rank]
      omega
  | finished | failed error => cases asks

theorem Source.rank_lt (source : Source) {request : Request}
    {resume : request.Answer → Turn Source} (asks : source.action = .ask request resume)
    (answer : request.Answer) : source.rank < (resume answer).next.rank := by
  obtain ⟨phase, progress⟩ := source
  cases phase with
  | opening =>
    cases asks
    cases answer with
    | error error => simp [fail, goTo, Turn.silent, rank]
    | ok message => cases message <;> simp [consider, fail, goTo, Turn.silent, rank]
  | filling address =>
    cases asks
    cases answer with
    | error cause => simp [fail, goTo, Turn.silent, rank]
    | ok length =>
      dsimp only
      split <;> simp [goTo, Turn.silent, rank]
  | placing address length =>
    cases asks
    cases answer <;> simp [goTo, fail, Turn.silent, rank]
  | announcing address length =>
    cases asks
    cases answer with
    | error error => simp [fail, goTo, Turn.silent, rank]
    | ok _ =>
      dsimp only
      split <;> simp [finish, goTo, Turn.silent, rank]
  | awaiting address length =>
    cases asks
    dsimp only
    split
    · unfold settle
      split
      · simp [fail, goTo, Turn.silent, rank]
      · split
        · simp [fail, goTo, Turn.silent, rank]
        · simp [confirm, Progress.confirm, rank]
          omega
    · simp [fail, goTo, Turn.silent, rank]
  | finished | failed error => cases asks

def Engine.rank : Engine → Nat
  | .sending sender => sender.rank
  | .receiving receiver => receiver.rank

def Peer.rank : Peer → Nat
  | .greeting _ _ => 0
  | .sinking sink => sink.rank
  | .sourcing source => source.rank
  | .refused _ => 1

theorem Engine.rank_lt {address : UInt64} {capacity : Nat} {engine : Engine} {request : Request}
    {resume : request.Answer → Turn Engine}
    (asks : engine.action address capacity = .ask request resume) (answer : request.Answer) :
    engine.rank < (resume answer).next.rank := by
  cases engine with
  | sending sender =>
    cases acts : sender.action address with
    | stop => simp [action, acts, Action.map] at asks
    | ask own continue_ =>
      simp only [action, acts, Action.map] at asks
      cases asks
      exact Sender.rank_lt acts answer
  | receiving receiver =>
    cases acts : receiver.action address capacity with
    | stop => simp [action, acts, Action.map] at asks
    | ask own continue_ =>
      simp only [action, acts, Action.map] at asks
      cases asks
      exact Receiver.rank_lt acts answer

theorem Peer.rank_lt {capacity : Nat} {peer : Peer} {request : Request}
    {resume : request.Answer → Turn Peer} (asks : peer.action capacity = .ask request resume)
    (answer : request.Answer) : peer.rank < (resume answer).next.rank := by
  cases peer with
  | greeting hasReader hasWriter =>
    cases asks
    cases answer with
    | error error => exact Nat.zero_lt_one
    | ok message =>
      dsimp only
      unfold greet
      split
      · exact Nat.lt_of_le_of_lt (Nat.zero_le _) (Sink.fresh.rank_lt rfl (.ok _))
      · exact Nat.lt_of_le_of_lt (Nat.zero_le _) (Source.fresh.rank_lt rfl (.ok _))
      · exact Nat.zero_lt_one
  | sinking sink =>
    cases acts : sink.action capacity with
    | stop => simp [action, acts, Action.map] at asks
    | ask own continue_ =>
      simp only [action, acts, Action.map] at asks
      cases asks
      exact sink.rank_lt acts answer
  | sourcing source =>
    cases acts : source.action with
    | stop => simp [action, acts, Action.map] at asks
    | ask own continue_ =>
      simp only [action, acts, Action.map] at asks
      cases asks
      exact source.rank_lt acts answer
  | refused error => cases asks

/-!
## Runs
-/

theorem askOnce_answered {σ : Type} {act : σ → Action σ} {party : σ} {station : Station}
    {host after : Host} {asked : Asked σ}
    (ran : (askOnce act party station).run host = (some asked, after)) :
    ∃ request resume answer middle written, act party = .ask request resume ∧
      (station.answer request).run host = ((some answer, asked.station), middle) ∧
      asked.party = (resume answer).next ∧ asked.said = request.said answer ∧
      after = { middle with notices := written } := by
  cases asks : act party with
  | stop =>
    have stopped := askOnce_stop station host asks
    rw [ran] at stopped
    cases stopped
  | ask request resume =>
    rcases answered : (station.answer request).run host with ⟨⟨answer?, next⟩, middle⟩
    cases answer? with
    | none =>
      have waiting := askOnce_none asks answered
      rw [ran] at waiting
      cases waiting
    | some answer =>
      obtain ⟨written, reported⟩ := report_run (resume answer).notices middle
      simp only [askOnce, asks] at ran
      rw [HostM.run_bind_eq answered] at ran
      dsimp only at ran
      rw [HostM.run_bind_eq reported] at ran
      cases ran
      exact ⟨request, resume, answer, middle, written, rfl, answered, rfl, rfl, rfl⟩

theorem askOnce_inv {σ : Type} {act : σ → Action σ} {party : σ} {station : Station}
    {host after : Host} {asked : Asked σ}
    (ran : (askOnce act party station).run host = (some asked, after)) :
    ∃ request resume answer, act party = .ask request resume ∧
      asked.party = (resume answer).next ∧ asked.station.transport = station.transport := by
  obtain ⟨request, resume, answer, _, _, asks, answered, party, _⟩ := askOnce_answered ran
  exact ⟨request, resume, answer, asks, party, Station.transport_answer answered⟩

namespace Meeting

/-- What has happened at a meeting, counted by what can still be seen of it. -/
def rank (meeting : Meeting) : Nat :=
  meeting.engine.rank + meeting.peer.rank +
    (if meeting.own.transport.isSome then 0 else 1) +
    (if meeting.remote.transport.isSome then 0 else 1) +
    if meeting.buffer.holding.isSome then 0 else 1

theorem rank_lt {meeting after : Meeting} {move : Move}
    (stepped : meeting.step move = some after) : meeting.rank < after.rank := by
  cases move with
  | act side =>
    cases side with
    | near =>
      simp only [step, act] at stepped
      split at stepped
      · cases stepped
      · next asked host ran =>
        cases stepped
        obtain ⟨request, resume, answer, asks, party, transport⟩ := askOnce_inv ran
        have raised := Engine.rank_lt asks answer
        simp only [rank, party, transport]
        omega
    | far =>
      simp only [step, act] at stepped
      split at stepped
      · cases stepped
      · next asked host ran =>
        cases stepped
        obtain ⟨request, resume, answer, asks, party, transport⟩ := askOnce_inv ran
        have raised := Peer.rank_lt asks answer
        simp only [rank, party, transport]
        omega
  | expire side =>
    cases side with
    | near =>
      obtain ⟨resume, error, host, asks, rfl, _⟩ := expire_near_inv stepped
      have raised := Engine.rank_lt asks (.error error)
      simp only [rank]
      omega
    | far =>
      obtain ⟨resume, error, host, asks, rfl, _⟩ := expire_far_inv stepped
      have raised := Peer.rank_lt asks (.error error)
      simp only [rank]
      omega
  | leave side =>
    cases side with
    | near =>
      obtain ⟨_, transport, present, rfl⟩ := leave_near_inv stepped
      simp [rank, present]
    | far =>
      obtain ⟨_, transport, present, rfl⟩ := leave_far_inv stepped
      simp [rank, present]
  | release =>
    obtain ⟨_, held, rfl⟩ := release_inv stepped
    have given : (meeting.buffer.release.run meeting.host).1.holding = none := by
      obtain ⟨holding, found⟩ := Option.isSome_iff_exists.mp held
      simp only [RelayBuffer.release, found]
      rfl
    simp [rank, held, given]

/-- A run has no more moves than the rank it reaches. -/
theorem length_le_rank {meeting after : Meeting} {moves : List Move}
    (ran : meeting.run moves = some after) : moves.length + meeting.rank ≤ after.rank := by
  induction moves generalizing meeting with
  | nil =>
    cases ran
    simp
  | cons move rest ih =>
    obtain ⟨next, stepped, continued⟩ := Option.bind_eq_some_iff.mp ran
    have raised := rank_lt stepped
    have counted := ih continued
    rw [List.length_cons]
    omega

end Meeting

end ChunkRelay
