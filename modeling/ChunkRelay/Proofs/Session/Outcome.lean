import ChunkRelay.Proofs.Session.Interference
import ChunkRelay.Proofs.Transfer.ReceiverRules
import ChunkRelay.Proofs.Transfer.SenderRules
import ChunkRelay.Session.Run

/-! How a session goes while others use its host. It stops at the first stage
that fails, or its engine ends, and what it returns follows from the first error
there was. The log of its engine alone tells which one that is. -/

set_option autoImplicit false

namespace ChunkRelay

/-!
## How a session goes
-/

/-- The error in an answer to an engine, after so much else was answered. -/
def fault? (role : Role) (buffer : RelayBuffer) (prior : List Entry) (entry : Entry) :
    Option RelayError :=
  match role with
  | .sender => Sender.fault? (Sender.Tally.of prior).announced entry
  | .receiver => Receiver.fault? buffer entry

/-- The first error in the rest of a log. -/
def firstFault? (role : Role) (buffer : RelayBuffer) (prior : List Entry) :
    List Entry → Option RelayError
  | [] => none
  | entry :: rest =>
    match fault? role buffer prior entry with
    | some error => some error
    | none => firstFault? role buffer (prior ++ [entry]) rest

/-- The lengths of the chunks that both sides are done with. -/
def confirmed (role : Role) (log : List Entry) : List Nat :=
  match role with
  | .sender => (Sender.Tally.of log).confirmed
  | .receiver => replied log

/-- What becomes of a session: a stage fails, or its engine is driven to an end. -/
inductive Outcome where
  | unopened (error : ChannelError)
  | unbuffered (error : AllocationError)
  | fileless (error : LocalIOError)
  | driven (buffer : RelayBuffer) (engine : Engine) (log : List Entry)

namespace Outcome

/-- The first error that occurred. -/
def error? (role : Role) : Outcome → Option RelayError
  | .unopened error => some (.channel error)
  | .unbuffered error => some (.allocation error)
  | .fileless error => some (.localIO error)
  | .driven buffer _ log => firstFault? role buffer [] log

def progress (role : Role) : Outcome → Progress
  | .driven _ _ log => ⟨(confirmed role log).sum, (confirmed role log).length⟩
  | .unopened _ | .unbuffered _ | .fileless _ => .none

/-- The number of links that were opened. -/
def links : Outcome → Nat
  | .unopened _ => 0
  | .unbuffered _ | .fileless _ | .driven _ _ _ => 1

/-- The engine has come to the end of the data. -/
def Completed : Outcome → Prop
  | .driven _ engine _ => engine.state = .completed
  | .unopened _ | .unbuffered _ | .fileless _ => False

/-- What a session returns. -/
def result (role : Role) (outcome : Outcome) : TransferResult :=
  match outcome.error? role with
  | none => .ok { role, state := .completed, progress := outcome.progress role }
  | some error => .error { error, report := { role, state := .failed, progress := outcome.progress role } }

end Outcome

/-- Releases a buffer and drops what is left of it. -/
def RelayBuffer.discard (buffer : RelayBuffer) : HostM Unit := do
  let _ ← (← buffer.release).release

/-- Closes a channel and drops what is left of it. -/
def Channel.discard (channel : Channel) : HostM Unit := do
  let _ ← (← channel.close).close

/-- What is left of a released buffer holds nothing any more. -/
theorem RelayBuffer.discard_run (buffer : RelayBuffer) (host : Host) :
    buffer.discard.run host = ((), (buffer.release.run host).2) := by
  obtain ⟨_ | holding, address, capacity⟩ := buffer <;> rfl

/-- What is left of a closed channel holds nothing any more. -/
theorem Channel.discard_run (channel : Channel) (host : Host) :
    channel.discard.run host = ((), (channel.close.run host).2) := by
  obtain ⟨id, wait, _ | transport⟩ := channel <;> rfl

/-- An action of a session, and what others do right before and right after it. -/
def Amid {α : Type} (action : HostM α) (before : Host) (value : α) (after : Host) : Prop :=
  ∃ early late, before.Uses early ∧ action.run early = (value, late) ∧ late.Uses after

/-- How a party comes from one situation to another while others use the host. -/
inductive Proceeds {σ : Type} (act : σ → Action σ) :
    Situation σ → List Entry → Situation σ → Prop
  | rest (situation : Situation σ) : Proceeds act situation [] situation
  | interrupted {party : σ} {station : Station} {host middle : Host} {log : List Entry}
      {last : Situation σ} :
      host.Uses middle → Proceeds act ⟨party, station, middle⟩ log last →
      Proceeds act ⟨party, station, host⟩ log last
  | performed {first middle last : Situation σ} {log later : List Entry} :
      Performs act first log middle → Proceeds act middle later last →
      Proceeds act first (log ++ later) last

/-- How a session goes through the hub while others use the host, and what it returns. Writing notices
is a use as well. -/
inductive Session.Runs (config : SessionConfig) (role : Role) (path : String)
    (allocator : Allocator) : Host → Outcome → TransferResult → Host → Prop
  | unopened {before after : Host} {error : ChannelError} :
      Amid (Channel.openVia .viaHub config.channelId config.wait) before (.error error) after →
      Runs config role path allocator before (.unopened error)
        (.error (.inSetup role (.channel error))) after
  | unbuffered {before opened refused after : Host} {channel : Channel} {error : AllocationError} :
      Amid (Channel.openVia .viaHub config.channelId config.wait) before (.ok channel) opened →
      Amid (RelayBuffer.acquire allocator config.capacity) opened (.error error) refused →
      Amid channel.discard refused () after →
      Runs config role path allocator before (.unbuffered error)
        (.error (.inSetup role (.allocation error))) after
  | fileless {before opened acquired refused released after : Host} {channel : Channel}
      {buffer : RelayBuffer} {error : LocalIOError} :
      Amid (Channel.openVia .viaHub config.channelId config.wait) before (.ok channel) opened →
      Amid (RelayBuffer.acquire allocator config.capacity) opened (.ok buffer) acquired →
      Amid (Session.openLocal role path) acquired (.error error) refused →
      Amid buffer.discard refused () released →
      Amid channel.discard released () after →
      Runs config role path allocator before (.fileless error)
        (.error (.inSetup role (.localIO error))) after
  | driven {before opened acquired ready ended released after : Host} {channel : Channel}
      {buffer : RelayBuffer} {reader : Reader} {writer : Writer} {engine : Engine}
      {station : Station} {log : List Entry} :
      Amid (Channel.openVia .viaHub config.channelId config.wait) before (.ok channel) opened →
      Amid (RelayBuffer.acquire allocator config.capacity) opened (.ok buffer) acquired →
      Amid (Session.openLocal role path) acquired (.ok (reader, writer)) ready →
      Proceeds (Engine.action buffer.address buffer.capacity)
        ⟨.fresh role, .ofEngine buffer channel.transport channel.wait reader writer, ready⟩ log
        ⟨engine, station, ended⟩ →
      engine.state.isTerminal = true →
      Amid buffer.discard ended () released →
      Amid channel.discard released () after →
      Runs config role path allocator before (.driven buffer engine log) engine.result after

/-!
## The transfer
-/

theorem Proceeds.uses {σ : Type} {act : σ → Action σ} {first last : Situation σ} {log : List Entry}
    (proceeds : Proceeds act first log last) : first.host.Uses last.host := by
  induction proceeds with
  | rest => exact .refl
  | interrupted used _ ih => exact used.trans ih
  | performed performs _ ih => exact performs.uses.trans ih

/-- What others do meanwhile is part of the contest that an engine is in anyway. -/
theorem Proceeds.contest {buffer : RelayBuffer} {role : Role} {first last : Situation Engine}
    {log later : List Entry}
    (proceeds : Proceeds (Engine.action buffer.address buffer.capacity) first later last)
    (stage : first.station.stage = .relay buffer)
    (contest : Contest buffer role first.party first.station.reader first.station.writer log) :
    Contest buffer role last.party last.station.reader last.station.writer (log ++ later) := by
  induction proceeds generalizing log with
  | rest =>
    rw [List.append_nil]
    exact contest
  | interrupted used _ ih => exact ih stage contest
  | performed performs _ ih =>
    rw [← List.append_assoc]
    refine ih ?_ (performs.contest stage contest)
    rw [performs.station_kept stage]
    exact stage

section Faults

variable {role : Role} {buffer : RelayBuffer} {prior rest log : List Entry} {error : RelayError}

theorem firstFault?_eq_some (found : firstFault? role buffer prior rest = some error) :
    ∃ between entry after, rest = between ++ entry :: after ∧
      fault? role buffer (prior ++ between) entry = some error := by
  induction rest generalizing prior with
  | nil => cases found
  | cons entry rest ih =>
    unfold firstFault? at found
    split at found
    · next fault =>
      cases found
      exact ⟨[], entry, rest, rfl, (List.append_nil prior).symm ▸ fault⟩
    · obtain ⟨between, other, after, rfl, fault⟩ := ih found
      refine ⟨entry :: between, other, after, rfl, ?_⟩
      rwa [List.append_assoc] at fault

theorem firstFault?_eq_none (smooth : firstFault? role buffer prior rest = none)
    {between after : List Entry} {entry : Entry} (split : rest = between ++ entry :: after) :
    fault? role buffer (prior ++ between) entry = none := by
  induction rest generalizing prior between with
  | nil => simp at split
  | cons first rest ih =>
    unfold firstFault? at smooth
    split at smooth
    · cases smooth
    · next fine =>
      cases between with
      | nil =>
        cases split
        rwa [List.append_nil]
      | cons head tail =>
        cases split
        have later := ih smooth rfl
        rwa [List.append_assoc] at later

end Faults

namespace Engine

variable {buffer : RelayBuffer} {role : Role} {engine : Engine} {reader : Reader} {writer : Writer}
  {log : List Entry}

/-- What the log of an engine says of it. -/
structure Judged (role : Role) (buffer : RelayBuffer) (engine : Engine) (log : List Entry) :
    Prop where
  plays : engine.role = role
  progress : engine.progress = ⟨(confirmed role log).sum, (confirmed role log).length⟩
  faults {prior : List Entry} {entry : Entry} {error : RelayError} :
    prior ++ [entry] <+: log → fault? role buffer prior entry = some error →
      engine.error? = some error
  failed : engine.state = .failed → ∃ prior entry error, log = prior ++ [entry] ∧
    fault? role buffer prior entry = some error

theorem judged_of_contest {allocator : Allocator} {capacity : Nat} {before after : Host}
    (acquired : (RelayBuffer.acquire allocator capacity).run before = (.ok buffer, after))
    (contest : Contest buffer role engine reader writer log) : Judged role buffer engine log := by
  obtain ⟨⟨holding, address, rfl⟩, some_room, fits⟩ := RelayBuffer.acquire_ok acquired
  cases role with
  | sender =>
    obtain ⟨sender, rfl, kept⟩ := Sender.kept_of_contest some_room
      (Nat.lt_of_le_of_lt fits (by decide)) contest
    exact ⟨rfl, kept.progress, fun before fault => (kept.rules.faults before fault).2.2,
      kept.rules.failed⟩
  | receiver =>
    have sized : ∀ host length,
        (RelayBuffer.read ⟨some holding, address, capacity⟩ 0 length host).size = length :=
      fun host length => Extent.size_read _ _ _
    obtain ⟨receiver, rfl, kept, sunk⟩ := Receiver.kept_of_contest sized contest
    exact ⟨rfl, kept.progress, fun before fault => ((kept.rules sunk).faults before fault).2.2,
      (kept.rules sunk).failed⟩

theorem state_of_isTerminal (terminal : engine.state.isTerminal = true) :
    engine.state = if engine.error?.isSome then .failed else .completed := by
  cases engine with
  | sending sender =>
    obtain ⟨phase, progress⟩ := sender
    cases phase with
    | completed | failed error => rfl
    | _ => cases terminal
  | receiving receiver =>
    obtain ⟨phase, progress⟩ := receiver
    cases phase with
    | completed | failed error => rfl
    | _ => cases terminal

/-- An engine that has ended has failed with the first fault of its log, if there is one. -/
theorem Judged.error (judged : Judged role buffer engine log)
    (terminal : engine.state.isTerminal = true) :
    engine.error? = firstFault? role buffer [] log := by
  have state := state_of_isTerminal terminal
  cases first : firstFault? role buffer [] log with
  | some error =>
    obtain ⟨prior, entry, after, rfl, fault⟩ := firstFault?_eq_some first
    exact judged.faults ⟨after, List.append_assoc ..⟩ fault
  | none =>
    cases ended : engine.error? with
    | none => rfl
    | some error =>
      rw [ended] at state
      obtain ⟨prior, entry, error, rfl, fault⟩ := judged.failed state
      have fine := firstFault?_eq_none first rfl
      rw [List.nil_append, fault] at fine
      cases fine

/-- What an engine returns in the end is what its log calls for. -/
theorem Judged.result (judged : Judged role buffer engine log)
    (terminal : engine.state.isTerminal = true) :
    engine.result = (Outcome.driven buffer engine log).result role ∧
      ((∃ report, engine.result = .ok report) ↔ engine.state = .completed) := by
  have state := state_of_isTerminal terminal
  have report : engine.report =
      ⟨role, engine.state, (Outcome.driven buffer engine log).progress role⟩ :=
    (congrArg₂ (fun role progress => (⟨role, engine.state, progress⟩ : TransferReport))
      judged.plays judged.progress)
  have error : engine.error? = (Outcome.driven buffer engine log).error? role :=
    judged.error terminal
  unfold Engine.result Outcome.result
  rw [report, ← error]
  cases ended : engine.error? with
  | none =>
    rw [ended] at state
    rw [show engine.state = .completed from state]
    exact ⟨rfl, fun _ => rfl, fun _ => ⟨_, rfl⟩⟩
  | some error =>
    rw [ended] at state
    rw [show engine.state = .failed from state]
    refine ⟨rfl, ?_, fun same => by cases same⟩
    rintro ⟨report, same⟩
    cases same

end Engine

end ChunkRelay
