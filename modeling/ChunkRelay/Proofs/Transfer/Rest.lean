import ChunkRelay.Proofs.Transfer.Pace

/-! A party that waits for a message does nothing when it is let act again, as
long as nobody has sent it one; and what it did before it came to wait raised
whatever each of its acts raises. What was reported meanwhile is no message. -/

set_option autoImplicit false

namespace ChunkRelay

/-- The hosts differ in what was reported at most. -/
def Host.Like (host other : Host) : Prop :=
  ∃ notices, other = { host with notices }

namespace Host.Like

theorem refl (host : Host) : host.Like host :=
  ⟨host.notices, rfl⟩

theorem symm {host other : Host} (like : host.Like other) : other.Like host := by
  obtain ⟨_, rfl⟩ := like
  exact ⟨host.notices, rfl⟩

theorem trans {first second third : Host} (like : first.Like second) (same : second.Like third) :
    first.Like third := by
  obtain ⟨_, rfl⟩ := like
  obtain ⟨notices, rfl⟩ := same
  exact ⟨notices, rfl⟩

theorem files {host other : Host} (like : host.Like other) : other.files = host.files := by
  obtain ⟨_, rfl⟩ := like
  rfl

theorem report {host other : Host} (like : host.Like other) (notices : List Notice) :
    ((report notices).run host).2.Like ((report notices).run other).2 := by
  obtain ⟨_, rfl⟩ := like
  obtain ⟨written, ran⟩ := report_run notices host
  obtain ⟨rewritten, again⟩ := report_run notices { host with notices := _ }
  rw [ran, again]
  exact ⟨rewritten, rfl⟩

end Host.Like

/-!
## Looking for a message again
-/

theorem Wire.readExactly_none {wire : Wire} {side : Side} {count : Nat}
    (nothing : (wire.readExactly side count).1 = none) :
    (wire.readExactly side count).2 = wire := by
  unfold readExactly at nothing ⊢
  dsimp only at nothing ⊢
  split at nothing
  · cases nothing
  · split at nothing
    · cases nothing
    · next few running => rw [if_neg few, if_neg running]

theorem setIfInBounds_getD {α : Type} (values : Array α) (place : Nat) (value : α) :
    values.setIfInBounds place (values.getD place value) = values := by
  by_cases inside : place < values.size
  · refine setIfInBounds_eq_self ?_
    simp [inside]
  · rw [Array.setIfInBounds_def, dif_neg inside]

section Polling

variable {host other : Host} (like : host.Like other)
include like

theorem SocketTransport.poll_again {transport : SocketTransport}
    (nothing : (transport.poll.run host).1 = none) : transport.poll.run other = (none, other) := by
  obtain ⟨notices, rfl⟩ := like
  obtain ⟨_ | ⟨number, side⟩, port, claim⟩ := transport
  · cases nothing
  · simp only [poll] at nothing ⊢
    rw [HostM.run_bind_eq (changeWire_getD number _ host)] at nothing
    rw [HostM.run_bind_eq (changeWire_getD number _ { host with notices })]
    dsimp only at nothing ⊢
    cases read : ((host.wires.getD number .fresh).readExactly side frameLength).1 with
    | none =>
      rw [Wire.readExactly_none read, setIfInBounds_getD]
      rfl
    | some taken =>
      rw [read] at nothing
      cases taken with
      | none => cases nothing
      | some frame =>
        dsimp only at nothing
        split at nothing <;> cases nothing

/-- Where there was no message, there is none the next time. -/
theorem Transport.poll_again {transport : Transport}
    (nothing : (transport.poll.run host).1 = none) : transport.poll.run other = (none, other) := by
  cases transport with
  | socket transport => exact SocketTransport.poll_again like nothing
  | link index side =>
    obtain ⟨notices, rfl⟩ := like
    simp only [poll, StateT.run_bind, StateT.run_get, pure_bind] at nothing ⊢
    cases heard : (host.hub.receive index side).1 with
    | none =>
      rw [Hub.receive_none heard]
      rfl
    | some found =>
      rw [heard] at nothing
      cases found <;> cases nothing

theorem Station.receive_again {station : Station}
    (nothing : ((station.answer .receive).run host).1.1 = none) :
    (station.answer .receive).run other = ((none, station), other) := by
  obtain ⟨stage, _ | transport, wait, memory, reader, writer⟩ := station
  · cases nothing
  · rcases polled : transport.poll.run host with ⟨answer?, after⟩
    have answered : (Station.answer ⟨stage, some transport, wait, memory, reader, writer⟩
        .receive).run host = ((answer?, ⟨stage, some transport, wait, memory, reader, writer⟩), after) :=
      HostM.run_bind_eq polled
    rw [answered] at nothing
    have again := Transport.poll_again like ((congrArg Prod.fst polled).trans nothing)
    exact HostM.run_bind_eq again

end Polling

/-!
## Parties that wait
-/

section Waiting

variable {σ : Type} {act : σ → Action σ} {pause : σ → Bool} {party : σ} {station : Station}
  {host other after : Host}

theorem Waits.receives (waits : Waits act party station host) (like : host.Like other) :
    (station.answer .receive).run other = ((none, station), other) := by
  obtain ⟨_, before, nothing⟩ := waits
  have kept : host = before := by
    have again := Station.receive_again (.refl before) (congrArg (·.1.1) nothing)
    exact congrArg Prod.snd (nothing.symm.trans again)
  subst kept
  exact Station.receive_again like (congrArg (·.1.1) nothing)

theorem Waits.like (waits : Waits act party station host) (like : host.Like other) :
    Waits act party station other :=
  ⟨waits.1, other, waits.receives like⟩

theorem Waits.polls (waits : Waits act party station host) :
    ∃ transport, station.transport = some transport ∧ transport.poll.run host = (none, host) :=
  Station.poll_of_unanswered (waits.receives (.refl host))

/-- A party that waits does nothing when it is let act. -/
theorem Waits.advance (waits : Waits act party station host) :
    (advance act pause party station).run host =
      ({ standing := .waiting, moved := false, party, station }, host) := by
  obtain ⟨resume, asks⟩ := waits.1
  rw [advance_run, advanceFor, asks]
  dsimp only
  rw [HostM.run_bind_eq (waits.receives (.refl host))]
  rfl

end Waiting

/-!
## What a party did before
-/

/-- Something that each act of a party makes larger. -/
def Raises {σ : Type} (act : σ → Action σ) (rank : σ → Nat) : Prop :=
  ∀ {party : σ} {request : Request} {resume : request.Answer → Turn σ},
    act party = .ask request resume → ∀ answer, rank party < rank (resume answer).next

section Acting

variable {σ : Type} {act : σ → Action σ} {pause : σ → Bool} {party : σ} {station : Station}
  {host after : Host} {advanced : Advanced σ} {rank : σ → Nat}

theorem Performs.rank_le (raises : Raises act rank) {first last : Situation σ} {log : List Entry}
    (performs : Performs act first log last) : rank first.party ≤ rank last.party := by
  induction performs with
  | rest => exact Nat.le_refl _
  | answered asks _ _ ih => exact Nat.le_trans (Nat.le_of_lt (raises asks _)) ih
  | unanswered _ _ _ ih => exact ih
  | expired asks _ _ _ _ ih => exact Nat.le_trans (Nat.le_of_lt (raises asks _)) ih

theorem advanceFor_moved {limit : Nat}
    (ran : (advanceFor act pause limit true party station).run host = (advanced, after)) :
    advanced.moved = true := by
  induction limit generalizing party station host with
  | zero =>
    cases ran
    rfl
  | succ limit ih =>
    unfold advanceFor at ran
    split at ran
    · cases ran
      rfl
    · next request resume asks =>
      rcases answered : (station.answer request).run host with ⟨⟨_ | answer, next⟩, middle⟩
      · rw [HostM.run_bind_eq answered] at ran
        cases ran
        rfl
      · obtain ⟨written, told⟩ := report_run (resume answer).notices middle
        rw [HostM.run_bind_eq answered] at ran
        dsimp only at ran
        rw [HostM.run_bind_eq told] at ran
        split at ran
        · cases ran
          rfl
        · exact ih ran

/-- A party that is let act does nothing and leaves everything as it was, or it gets an answer. -/
theorem advance_cases
    (ran : (advance act pause party station).run host = (advanced, after)) :
    (advanced.moved = false ∧ advanced.party = party ∧ advanced.station = station ∧
        after = host) ∨
      (advanced.moved = true ∧ ∃ request resume answer next log,
        act party = .ask request resume ∧ next.party = (resume answer).next ∧
          Performs act next log ⟨advanced.party, advanced.station, after⟩) := by
  rw [advance_run, advanceFor] at ran
  split at ran
  · cases ran
    exact .inl ⟨rfl, rfl, rfl, rfl⟩
  · next request resume asks =>
    rcases answered : (station.answer request).run host with ⟨⟨_ | answer, next⟩, middle⟩
    · rw [HostM.run_bind_eq answered] at ran
      cases ran
      refine .inl ⟨rfl, rfl, Station.answer_none answered, ?_⟩
      cases request with
      | receive =>
        have again := Station.receive_again (.refl host) (congrArg (·.1.1) answered)
        exact congrArg Prod.snd (answered.symm.trans again)
      | _ => cases congrArg (fun result => result.1.1) answered
    · obtain ⟨written, told⟩ := report_run (resume answer).notices middle
      rw [HostM.run_bind_eq answered] at ran
      dsimp only at ran
      rw [HostM.run_bind_eq told] at ran
      split at ran
      · cases ran
        exact .inr ⟨rfl, request, resume, answer, ⟨(resume answer).next, next, _⟩, [], asks, rfl,
          .rest _⟩
      · obtain ⟨log, performs⟩ := Performs.of_advanceFor ran
        exact .inr ⟨advanceFor_moved ran, request, resume, answer, _, log, asks, rfl, performs⟩

theorem advance_raises (raises : Raises act rank)
    (ran : (advance act pause party station).run host = (advanced, after))
    (moved : advanced.moved = true) : rank party < rank advanced.party := by
  rcases advance_cases ran with ⟨still, _⟩ | ⟨_, request, resume, answer, next, log, asks, same, performs⟩
  · cases still.symm.trans moved
  · have later := performs.rank_le raises
    rw [same] at later
    exact Nat.lt_of_lt_of_le (raises asks answer) later

theorem advance_unmoved (ran : (advance act pause party station).run host = (advanced, after))
    (unmoved : advanced.moved = false) :
    advanced.party = party ∧ advanced.station = station ∧ after = host := by
  rcases advance_cases ran with ⟨_, same⟩ | ⟨moved, _⟩
  · exact same
  · cases moved.symm.trans unmoved

end Acting

end ChunkRelay
