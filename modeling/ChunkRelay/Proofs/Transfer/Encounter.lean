import ChunkRelay.Proofs.Memory.Readback
import ChunkRelay.Proofs.Transfer.Contest

/-! A party against every channel and every memory there is. Its own data and
its stage answer as they do at a station, on whatever host they find then; the
channel, and the memory that it writes to, answer as they like. What a party
does at a real station is such an encounter. -/

set_option autoImplicit false

namespace ChunkRelay

/-- The station may be like this afterwards, if a channel and a memory may give any answer. -/
def Entry.Permits : Entry → Station → Prop
  | ⟨_, station, .send _, _⟩, next | ⟨_, station, .receive, _⟩, next
  | ⟨_, station, .place _ _, _⟩, next => next = station
  | ⟨host, station, request, answer⟩, next =>
    ∃ after, (station.answer request).run host = ((some answer, next), after)

theorem Entry.permits {station next : Station} {host after : Host} {request : Request}
    {answer : request.Answer}
    (answered : (station.answer request).run host = ((some answer, next), after)) :
    Permits ⟨host, station, request, answer⟩ next := by
  cases request with
  | send | receive | place => exact (congrArg (fun result => result.1.2) answered).symm
  | _ => exact ⟨after, answered⟩

/-- What a party may have come to, with its station and the log of its requests. -/
inductive Encounter {σ : Type} (act : σ → Action σ) (first : σ) (start : Station) :
    σ → Station → List Entry → Prop
  | fresh : Encounter act first start first start []
  | asked {party : σ} {station next : Station} {log : List Entry} {host : Host}
      {request : Request} {resume : request.Answer → Turn σ} {answer : request.Answer} :
      Encounter act first start party station log →
      act party = .ask request resume →
      Entry.Permits ⟨host, station, request, answer⟩ next →
      Encounter act first start (resume answer).next next
        (log ++ [⟨host, station, request, answer⟩])

/-- What a station never changes. -/
def Station.surroundings (station : Station) : Option Transport × Wait × AddressedMemory :=
  (station.transport, station.wait, station.memory)

theorem Station.surroundings_answer {station next : Station} {host after : Host}
    {request : Request} {answer? : Option request.Answer}
    (answered : (station.answer request).run host = ((answer?, next), after)) :
    next.surroundings = station.surroundings := by
  have kept : ((station.answer request).run host).1.2.surroundings = station.surroundings := by
    cases request with
    | fetch address length =>
      simp only [answer, answerFetch, StateT.run_bind, StateT.run_get, pure_bind]
      cases station.memory.read address length host <;> rfl
    | _ => rfl
  rw [answered] at kept
  exact kept

theorem Station.write_of_place {station next : Station} {host after : Host} {address : UInt64}
    {length : Nat} {result : Except AllocationError Unit}
    (answered : (station.answer (.place address length)).run host = ((some result, next), after)) :
    (station.memory.write address (station.stage.front length host)).run host =
      (result, after) := by
  rcases wrote : (station.memory.write address (station.stage.front length host)).run host with
    ⟨given, later⟩
  have placed : (station.answerPlace address length).run host = (given, later) := wrote
  cases (HostM.run_bind_eq placed).symm.trans answered
  rfl

/-- What was placed was written to this memory, and could be read there. -/
def Deposited (memory : AddressedMemory) (log : List Entry) : Prop :=
  ∀ host station address length, (⟨host, station, .place address length, .ok ()⟩ : Entry) ∈ log →
    (station.stage.front length host).size ≠ 0 →
    ∃ after, (memory.write address (station.stage.front length host)).run host = (.ok (), after) ∧
      memory.read address (station.stage.front length host).size after =
        .ok (station.stage.front length host)

namespace Performs

variable {σ : Type} {act : σ → Action σ} {first last : Situation σ} {log : List Entry}

theorem surroundings (performs : Performs act first log last) :
    last.station.surroundings = first.station.surroundings := by
  induction performs with
  | rest => rfl
  | answered asks answered _ ih => exact ih.trans (Station.surroundings_answer answered)
  | unanswered asks answered _ ih => exact ih.trans (Station.surroundings_answer answered)
  | expired asks bounded present expired _ ih => exact ih

theorem deposited (performs : Performs act first log last) :
    Deposited first.station.memory log := by
  induction performs with
  | rest =>
    intro host station address length member
    cases member
  | @answered party before next _ middle _ _ _ _ _ asks answered _ ih =>
    have memory : next.memory = before.memory :=
      congrArg (·.2.2) (Station.surroundings_answer answered)
    intro host station address length member some_bytes
    rcases List.mem_cons.mp member with same | later
    · cases same
      have wrote := Station.write_of_place answered
      exact ⟨middle, wrote, AddressedMemory.read_of_write some_bytes wrote⟩
    · dsimp only
      rw [← memory]
      exact ih host station address length later some_bytes
  | @unanswered party before next _ _ _ _ _ _ asks answered _ ih =>
    have memory : next.memory = before.memory :=
      congrArg (·.2.2) (Station.surroundings_answer answered)
    dsimp only
    rw [← memory]
    exact ih
  | expired asks bounded present expired _ ih =>
    intro host station address length member
    rcases List.mem_cons.mp member with same | later
    · cases same
    · exact ih host station address length later

end Performs

/-- What a party really does prolongs its encounter. -/
theorem Performs.encounter {σ : Type} {act : σ → Action σ} {party : σ} {start : Station}
    {first last : Situation σ} {log later : List Entry}
    (performs : Performs act first later last)
    (encounter : Encounter act party start first.party first.station log) :
    Encounter act party start last.party last.station (log ++ later) := by
  induction performs generalizing log with
  | rest =>
    rw [List.append_nil]
    exact encounter
  | answered asks answered _ ih =>
    rw [List.append_cons]
    exact ih (encounter.asked asks (Entry.permits answered))
  | unanswered asks answered _ ih =>
    cases Station.answer_none answered
    exact ih encounter
  | expired asks bounded present expired _ ih =>
    rw [List.append_cons]
    exact ih (encounter.asked asks rfl)

end ChunkRelay
