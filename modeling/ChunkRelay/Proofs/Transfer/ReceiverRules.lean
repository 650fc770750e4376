import ChunkRelay.Proofs.Memory.Lookup
import ChunkRelay.Proofs.Stream.Intake
import ChunkRelay.Proofs.Transfer.Contest

/-! What a receiver keeps to against every remote and every destination. What
it asks for next follows on what its log ends with, the first fault is the last
entry, and the log alone tells which chunks were written and replied to. -/

set_option autoImplicit false

namespace ChunkRelay

namespace Entry

/-- The length in a reply that was put on the channel. -/
def replied? : Entry → Option Nat
  | ⟨_, _, .send (.readDone length), .ok ()⟩ => some length.toNat
  | _ => none

/-- The length of a chunk that was written in full. -/
def drained? : Entry → Option Nat
  | ⟨_, _, .drain length, .ok ()⟩ => some length
  | _ => none

/-- The first bytes of the buffer, which the writing of a chunk found there. -/
def offered (buffer : RelayBuffer) : Entry → List UInt8
  | ⟨host, _, .drain length, _⟩ => (buffer.read 0 length host).data.toList
  | _ => []

/-- The bytes of a chunk that was written in full. -/
def chunk (buffer : RelayBuffer) : Entry → List UInt8
  | ⟨host, _, .drain length, .ok ()⟩ => (buffer.read 0 length host).data.toList
  | _ => []

/-- Writing a chunk offers as many bytes as were announced, in order and each once. A writer that
keeps what it is given keeps all of them, or a first part and the writing fails. -/
def Writes (buffer : RelayBuffer) : Entry → Prop
  | ⟨host, station, .drain length, result⟩ =>
    let bytes := buffer.read 0 length host
    let put := station.writer.put host.files bytes
    bytes.size = length ∧ put.outcome = result ∧
      (station.writer.Keeps host.files → ∃ count,
        put.writer.kept put.files =
          station.writer.kept host.files ++ bytes.data.toList.take count ∧
        (result = .ok () → length ≤ count))
  | _ => True

end Entry

/-- The lengths of the chunks that a log replies to. -/
def replied (log : List Entry) : List Nat :=
  log.filterMap Entry.replied?

/-- The lengths of the chunks that a log writes in full. -/
def drained (log : List Entry) : List Nat :=
  log.filterMap Entry.drained?

/-- All chunks that a log writes in full, one after the other. -/
def delivered (buffer : RelayBuffer) (log : List Entry) : List UInt8 :=
  log.flatMap (Entry.chunk buffer)

/-- The writer that a log began with, if it has come to this one. -/
def began : List Entry → Writer → Writer
  | [], writer => writer
  | first :: _, _ => first.station.writer

/-- A writer that keeps by itself what it is given, and not in a file. -/
def Writer.Retains (writer : Writer) : Prop :=
  writer.target? = none ∧ ∀ files, writer.Keeps files

/-- What is kept outside of all files is the same whatever the files are. -/
theorem Writer.Retains.kept_congr {writer : Writer} (retains : writer.Retains)
    (files other : FileTree) : writer.kept files = writer.kept other := by
  cases writer with
  | file contents offset => cases retains.1
  | _ => rfl

theorem Writer.Retains.put {writer : Writer} (retains : writer.Retains) (files : FileTree)
    (bytes : ByteArray) : (writer.put files bytes).writer.Retains := by
  have target : (writer.put files bytes).writer.target? = none := by
    rw [Writer.target?_put, retains.1]
  have keeps := ((retains.2 files).put bytes).1
  refine ⟨target, fun other => ?_⟩
  generalize (writer.put files bytes).writer = next at target keeps
  cases next with
  | file contents offset => cases target
  | discard => exact keeps
  | script events flushFailure taken => trivial
  | full => trivial

namespace Receiver

/-- The error in an answer to a receiver. -/
def fault? (buffer : RelayBuffer) : Entry → Option RelayError
  | ⟨_, _, .send _, .error error⟩ | ⟨_, _, .receive, .error error⟩ => some (.channel error)
  | ⟨_, _, .receive, .ok (.writeDone remote length)⟩ =>
    if length = 0 then none
    else if remote ≠ buffer.address then
      some (.protocol (.addressMismatch buffer.address remote))
    else if buffer.capacity < length.toNat then
      some (.protocol (.oversizedChunk length.toNat buffer.capacity))
    else none
  | ⟨_, _, .receive, .ok other⟩ => some (.channel (.unexpected "write-done" other.name))
  | ⟨_, _, .drain length, .error failure⟩ => some (.localIO (drainError length failure))
  | ⟨_, _, .flush, .error cause⟩ => some (.localIO (.write cause))
  | _ => none

/-!
## What a log ends with
-/

/-- The first message of a log is the address of the buffer, and it was sent. -/
def Introduced (buffer : RelayBuffer) (log : List Entry) : Prop :=
  (log.filterMap Entry.sent?).head? = some (.baseAddress buffer.address, .ok ())

/-- A log ends with a chunk of the buffer that was announced just now. -/
def Announced (buffer : RelayBuffer) (length : Nat) (log : List Entry) : Prop :=
  ∃ prior host station told, log =
      prior ++ [⟨host, station, .receive, .ok (.writeDone buffer.address told)⟩] ∧
    told.toNat = length ∧ 1 ≤ length ∧ length ≤ buffer.capacity

/-- A log ends with such a chunk, and it was written in full. -/
def Drained (buffer : RelayBuffer) (length : Nat) (log : List Entry) : Prop :=
  ∃ prior host station, log = prior ++ [⟨host, station, .drain length, .ok ()⟩] ∧
    Announced buffer length prior

/-- A log ends with such a chunk, and the buffer was cleared after it was written. -/
def Cleared (buffer : RelayBuffer) (length : Nat) (log : List Entry) : Prop :=
  ∃ prior host station, log = prior ++ [⟨host, station, .clear, ()⟩] ∧
    Drained buffer length prior

/-- A log ends with the announcement of the end, whatever address it bears. -/
def Ended (log : List Entry) : Prop :=
  ∃ prior host station remote, log =
    prior ++ [⟨host, station, .receive, .ok (.writeDone remote 0)⟩]

/-- What a log is like when a receiver asks for something. -/
def Follows (buffer : RelayBuffer) (log : List Entry) : Request → Prop
  | .clear => log = [] ∨ ∃ length, Drained buffer length log
  | .send (.baseAddress address) => address = buffer.address ∧ log.filterMap Entry.sent? = []
  | .send (.readDone length) => Cleared buffer length.toNat log
  | .receive => Introduced buffer log
  | .drain length => Announced buffer length log
  | .flush => Ended log
  | .send (.dataReady _ _) | .send (.writeDone _ _) | .fill | .fetch _ _ | .place _ _ => False

/-- Every request of a log follows on what came before it. -/
def Lawful (buffer : RelayBuffer) (log : List Entry) : Prop :=
  ∀ prior entry, prior ++ [entry] <+: log → Follows buffer prior entry.request

/-- No answer in a log was a fault. -/
def Smooth (buffer : RelayBuffer) (log : List Entry) : Prop :=
  ∀ entry ∈ log, fault? buffer entry = none

section Logs

variable {buffer : RelayBuffer} {log : List Entry} {entry : Entry} {length : Nat}

theorem Lawful.nil : Lawful buffer [] := by
  intro prior entry before
  simp at before

theorem Lawful.concat (lawful : Lawful buffer log) (follows : Follows buffer log entry.request) :
    Lawful buffer (log ++ [entry]) := by
  intro prior other before
  rcases List.prefix_concat_iff.mp before with same | earlier
  · obtain ⟨rfl, rfl⟩ := List.append_singleton_inj.mp same
    exact follows
  · exact lawful _ _ earlier

theorem Smooth.concat (smooth : Smooth buffer log) (fine : fault? buffer entry = none) :
    Smooth buffer (log ++ [entry]) := by
  intro other member
  rcases List.mem_append.mp member with earlier | last
  · exact smooth other earlier
  · rw [List.mem_singleton.mp last]
    exact fine

theorem Introduced.append (introduced : Introduced buffer log) (later : List Entry) :
    Introduced buffer (log ++ later) := by
  rw [Introduced, List.filterMap_append, List.head?_append, introduced, Option.some_or]

theorem Announced.positive (announced : Announced buffer length log) :
    1 ≤ length ∧ length ≤ buffer.capacity := by
  obtain ⟨_, _, _, _, _, _, bounds⟩ := announced
  exact bounds

theorem replied_concat (log : List Entry) (entry : Entry) :
    replied (log ++ [entry]) = replied log ++ entry.replied?.toList := by
  rw [replied, List.filterMap_append]
  cases told : entry.replied? <;> simp [replied, told]

theorem drained_concat (log : List Entry) (entry : Entry) :
    drained (log ++ [entry]) = drained log ++ entry.drained?.toList := by
  rw [drained, List.filterMap_append]
  cases told : entry.drained? <;> simp [drained, told]

theorem delivered_concat (buffer : RelayBuffer) (log : List Entry) (entry : Entry) :
    delivered buffer (log ++ [entry]) = delivered buffer log ++ entry.chunk buffer := by
  rw [delivered, List.flatMap_append, List.flatMap_singleton, delivered]

/-- An answer with a fault neither writes a chunk nor replies to one. -/
theorem unanswered_of_fault {error : RelayError} (fault : fault? buffer entry = some error) :
    entry.drained? = none ∧ entry.replied? = none := by
  constructor
  · unfold Entry.drained?
    split
    · cases fault
    · rfl
  · unfold Entry.replied?
    split
    · cases fault
    · rfl

end Logs

/-!
## The phases
-/

/-- What a receiver asks for in each phase. -/
def wish? (address : UInt64) : ReceiverPhase → Option Request
  | .idle | .clearing _ => some .clear
  | .introducing => some (.send (.baseAddress address))
  | .ready => some .receive
  | .draining length => some (.drain length)
  | .acknowledging length => some (.send (.readDone (.ofNat length)))
  | .flushing => some .flush
  | .completed | .failed _ => none

/-- A receiver, a request of it with its answer, and the receiver after it. -/
inductive Turned (buffer : RelayBuffer) : Receiver → Entry → Receiver → Prop
  | cleared {progress : Progress} {host : Host} {station : Station} :
      Turned buffer ⟨.idle, progress⟩ ⟨host, station, .clear, ()⟩ ⟨.introducing, progress⟩
  | introduced {progress : Progress} {host : Host} {station : Station} :
      Turned buffer ⟨.introducing, progress⟩
        ⟨host, station, .send (.baseAddress buffer.address), .ok ()⟩ ⟨.ready, progress⟩
  | announced {progress : Progress} {host : Host} {station : Station} {length : UInt64} :
      length ≠ 0 → length.toNat ≤ buffer.capacity →
      Turned buffer ⟨.ready, progress⟩
        ⟨host, station, .receive, .ok (.writeDone buffer.address length)⟩
        ⟨.draining length.toNat, progress⟩
  | ended {progress : Progress} {host : Host} {station : Station} {remote : UInt64} :
      Turned buffer ⟨.ready, progress⟩ ⟨host, station, .receive, .ok (.writeDone remote 0)⟩
        ⟨.flushing, progress⟩
  | drained {progress : Progress} {host : Host} {station : Station} {length : Nat} :
      Turned buffer ⟨.draining length, progress⟩ ⟨host, station, .drain length, .ok ()⟩
        ⟨.clearing length, progress⟩
  | cleaned {progress : Progress} {host : Host} {station : Station} {length : Nat} :
      Turned buffer ⟨.clearing length, progress⟩ ⟨host, station, .clear, ()⟩
        ⟨.acknowledging length, progress⟩
  | replied {progress : Progress} {host : Host} {station : Station} {length : Nat} :
      Turned buffer ⟨.acknowledging length, progress⟩
        ⟨host, station, .send (.readDone (.ofNat length)), .ok ()⟩
        ⟨.ready, progress.confirm length⟩
  | flushed {progress : Progress} {host : Host} {station : Station} :
      Turned buffer ⟨.flushing, progress⟩ ⟨host, station, .flush, .ok ()⟩ ⟨.completed, progress⟩
  | failed {phase : ReceiverPhase} {progress : Progress} {entry : Entry} {error : RelayError} :
      wish? buffer.address phase = some entry.request → fault? buffer entry = some error →
      Turned buffer ⟨phase, progress⟩ entry ⟨.failed error, progress⟩

section Turn

variable {buffer : RelayBuffer} {host : Host} {station : Station} {progress : Progress}

theorem Turned.wish {receiver after : Receiver} {entry : Entry}
    (turned : Turned buffer receiver entry after) :
    wish? buffer.address receiver.phase = some entry.request := by
  cases turned with
  | failed asks fault => exact asks
  | _ => rfl

private theorem heard (answer : Except ChannelError Message) :
    ∃ after, (match answer >>= Message.writeDone? with
        | .ok (remote, length) =>
          Receiver.consider ⟨.ready, progress⟩ buffer.address buffer.capacity remote length
        | .error error => Receiver.fail ⟨.ready, progress⟩ (.channel error)).next = after ∧
      Turned buffer ⟨.ready, progress⟩ ⟨host, station, .receive, answer⟩ after := by
  refine ⟨_, rfl, ?_⟩
  cases answer with
  | error error => exact .failed rfl rfl
  | ok message =>
    cases message with
    | writeDone remote length =>
      simp only [bind, Except.bind, Message.writeDone?, Receiver.consider]
      by_cases nothing : length = 0
      · subst nothing
        exact .ended
      · rw [if_neg nothing]
        by_cases foreign : remote = buffer.address
        · subst foreign
          rw [if_neg (not_not.mpr rfl)]
          by_cases large : buffer.capacity < length.toNat
          · rw [if_pos large]
            exact .failed rfl (by simp [fault?, nothing, large])
          · rw [if_neg large]
            exact .announced nothing (Nat.le_of_not_lt large)
        · rw [if_pos foreign]
          exact .failed rfl (by simp [fault?, nothing, foreign])
    | _ => exact .failed rfl rfl

/-- All that a receiver can do next. -/
theorem turned {receiver : Receiver} {request : Request}
    {resume : request.Answer → Turn Engine} {answer : request.Answer}
    (asks : (Engine.receiving receiver).action buffer.address buffer.capacity =
      .ask request resume) :
    ∃ after, (resume answer).next = .receiving after ∧
      Turned buffer receiver ⟨host, station, request, answer⟩ after := by
  obtain ⟨phase, progress⟩ := receiver
  cases phase with
  | idle =>
    cases asks
    exact ⟨_, rfl, .cleared⟩
  | introducing =>
    cases asks
    cases answer with
    | ok => exact ⟨_, rfl, .introduced⟩
    | error error => exact ⟨_, rfl, .failed rfl rfl⟩
  | ready =>
    cases asks
    obtain ⟨after, leads, turn⟩ := heard answer
    exact ⟨after, congrArg Engine.receiving leads, turn⟩
  | draining length =>
    cases asks
    cases answer with
    | ok => exact ⟨_, rfl, .drained⟩
    | error failure => exact ⟨_, rfl, .failed rfl rfl⟩
  | clearing length =>
    cases asks
    exact ⟨_, rfl, .cleaned⟩
  | acknowledging length =>
    cases asks
    cases answer with
    | ok => exact ⟨_, rfl, .replied⟩
    | error error => exact ⟨_, rfl, .failed rfl rfl⟩
  | flushing =>
    cases asks
    cases answer with
    | ok => exact ⟨_, rfl, .flushed⟩
    | error cause => exact ⟨_, rfl, .failed rfl rfl⟩
  | completed => cases asks
  | failed error => cases asks

end Turn

/-- What the log looks like in each phase. -/
def Stands (buffer : RelayBuffer) (log : List Entry) : ReceiverPhase → Prop
  | .idle => log = []
  | .introducing => ∃ host station, log = [⟨host, station, .clear, ()⟩]
  | .ready => Introduced buffer log
  | .draining length => Introduced buffer log ∧ Announced buffer length log
  | .clearing length => Introduced buffer log ∧ Drained buffer length log
  | .acknowledging length => Introduced buffer log ∧ Cleared buffer length log
  | .flushing => Ended log
  | .completed => ∃ prior host station,
      log = prior ++ [⟨host, station, .flush, .ok ()⟩] ∧ Ended prior
  | .failed error => ∃ prior entry, log = prior ++ [entry] ∧ Smooth buffer prior ∧
      fault? buffer entry = some error

/-- The chunks that are written and not replied to. -/
def Pending (buffer : RelayBuffer) (log : List Entry) : ReceiverPhase → List Nat → Prop
  | .clearing length, rest | .acknowledging length, rest => rest = [length]
  | .failed _, rest => rest = [] ∨ ∃ prior host station told error,
      log = prior ++ [⟨host, station, .send (.readDone told), .error error⟩] ∧
        rest = [told.toNat] ∧ told.toNat ≤ buffer.capacity
  | .idle, rest | .introducing, rest | .ready, rest | .draining _, rest | .flushing, rest
  | .completed, rest => rest = []

/-- What is kept by everything that a receiver does. -/
structure Kept (buffer : RelayBuffer) (receiver : Receiver) (log : List Entry) : Prop where
  lawful : Lawful buffer log
  stands : Stands buffer log receiver.phase
  smooth : (∀ error, receiver.phase ≠ .failed error) → Smooth buffer log
  progress : receiver.progress = ⟨(replied log).sum, (replied log).length⟩
  pending : ∃ rest, drained log = replied log ++ rest ∧ Pending buffer log receiver.phase rest

section Kept

variable {buffer : RelayBuffer} {receiver after : Receiver} {log : List Entry} {entry : Entry}
  {length : Nat}

theorem Kept.fresh (buffer : RelayBuffer) : Kept buffer .fresh [] where
  lawful := .nil
  stands := rfl
  smooth _ _ member := by cases member
  progress := rfl
  pending := ⟨[], rfl, rfl⟩

theorem Drained.announced (drained : Drained buffer length log) :
    ∃ prior, Announced buffer length prior := by
  obtain ⟨prior, _, _, _, announced⟩ := drained
  exact ⟨prior, announced⟩

theorem Cleared.announced (cleared : Cleared buffer length log) :
    ∃ prior, Announced buffer length prior := by
  obtain ⟨_, _, _, _, drained⟩ := cleared
  exact drained.announced

/-- The length that a receiver replies is the one that was announced. -/
theorem Announced.toNat_ofNat (announced : Announced buffer length log) :
    (UInt64.ofNat length).toNat = length := by
  obtain ⟨_, _, _, told, _, rfl, _⟩ := announced
  rw [UInt64.ofNat_toNat]

theorem follows {phase : ReceiverPhase} {request : Request} (stands : Stands buffer log phase)
    (asks : wish? buffer.address phase = some request) : Follows buffer log request := by
  cases phase with
  | idle =>
    cases asks
    exact .inl stands
  | introducing =>
    cases asks
    obtain ⟨host, station, rfl⟩ := stands
    exact ⟨rfl, rfl⟩
  | ready =>
    cases asks
    exact stands
  | draining length =>
    cases asks
    exact stands.2
  | clearing length =>
    cases asks
    exact .inr ⟨length, stands.2⟩
  | acknowledging length =>
    cases asks
    obtain ⟨prior, announced⟩ := stands.2.announced
    rw [Follows, announced.toNat_ofNat]
    exact stands.2
  | flushing =>
    cases asks
    exact stands
  | completed => cases asks
  | failed error => cases asks

/-- A receiver that asks for something has not failed. -/
theorem not_failed_of_wish {phase : ReceiverPhase} {request : Request}
    (asks : wish? buffer.address phase = some request) (error : RelayError) :
    phase ≠ .failed error := by
  rintro rfl
  cases asks

/-- Nothing of a chunk is left over when a receiver asks for anything but its next reply. -/
theorem Pending.of_wish {phase : ReceiverPhase} {rest : List Nat} {request : Request}
    (pending : Pending buffer log phase rest) (asks : wish? buffer.address phase = some request) :
    rest = [] ∨ ∃ length, (phase = .clearing length ∨ phase = .acknowledging length) ∧
      rest = [length] := by
  cases phase with
  | clearing length => exact .inr ⟨length, .inl rfl, pending⟩
  | acknowledging length => exact .inr ⟨length, .inr rfl, pending⟩
  | completed | failed error => cases asks
  | _ => exact .inl pending

/-- A request that is answered without a fault, and neither writes a chunk nor replies to one. -/
theorem Kept.plain {phase next : ReceiverPhase} {progress : Progress}
    (kept : Kept buffer ⟨phase, progress⟩ log)
    (asks : wish? buffer.address phase = some entry.request)
    (fine : fault? buffer entry = none) (stands : Stands buffer (log ++ [entry]) next)
    (undrained : entry.drained? = none) (unreplied : entry.replied? = none)
    (pending : ∀ rest, Pending buffer log phase rest → Pending buffer (log ++ [entry]) next rest) :
    Kept buffer ⟨next, progress⟩ (log ++ [entry]) where
  lawful := kept.lawful.concat (follows kept.stands asks)
  stands
  smooth _ := (kept.smooth (not_failed_of_wish asks)).concat fine
  progress := by
    rw [replied_concat, unreplied, Option.toList_none, List.append_nil]
    exact kept.progress
  pending := by
    obtain ⟨rest, same, left⟩ := kept.pending
    refine ⟨rest, ?_, pending rest left⟩
    rw [drained_concat, replied_concat, undrained, unreplied, Option.toList_none, List.append_nil,
      List.append_nil]
    exact same

theorem Kept.turned (kept : Kept buffer receiver log) (turned : Turned buffer receiver entry after) :
    Kept buffer after (log ++ [entry]) := by
  have asks := turned.wish
  cases turned with
  | @cleared progress host station =>
    obtain rfl : log = [] := kept.stands
    exact kept.plain asks rfl ⟨host, station, rfl⟩ rfl rfl fun _ none => none
  | introduced =>
    obtain ⟨host, station, rfl⟩ := kept.stands
    exact kept.plain asks rfl rfl rfl rfl fun _ none => none
  | @announced progress host station length some_bytes fits =>
    have fine : fault? buffer
        ⟨host, station, .receive, .ok (.writeDone buffer.address length)⟩ = none := by
      simp [fault?, Nat.not_lt_of_le fits]
    have positive : 1 ≤ length.toNat :=
      Nat.one_le_iff_ne_zero.mpr fun zero => some_bytes (UInt64.toNat_inj.mp zero)
    exact kept.plain asks fine
      ⟨kept.stands.append _, log, host, station, length, rfl, rfl, positive, fits⟩ rfl rfl
      fun _ none => none
  | @ended progress host station remote =>
    exact kept.plain asks rfl ⟨log, host, station, remote, rfl⟩ rfl rfl fun _ none => none
  | @drained progress host station length =>
    obtain ⟨introduced, announced⟩ := kept.stands
    obtain ⟨rest, same, rfl⟩ := kept.pending
    refine ⟨kept.lawful.concat (follows kept.stands asks),
      ⟨introduced.append _, log, host, station, rfl, announced⟩,
      fun _ => (kept.smooth (not_failed_of_wish asks)).concat rfl, ?_, [length], ?_, rfl⟩
    · have unreplied : replied (log ++ [⟨host, station, .drain length, .ok ()⟩]) = replied log := by
        rw [replied_concat]
        exact List.append_nil _
      rw [unreplied]
      exact kept.progress
    · rw [drained_concat, replied_concat, same]
      simp [Entry.drained?, Entry.replied?]
  | @cleaned progress host station length =>
    obtain ⟨introduced, drained⟩ := kept.stands
    exact kept.plain asks rfl ⟨introduced.append _, log, host, station, rfl, drained⟩ rfl rfl
      fun _ left => left
  | @replied progress host station length =>
    obtain ⟨introduced, cleared⟩ := kept.stands
    obtain ⟨rest, same, rfl⟩ := kept.pending
    obtain ⟨prior, announced⟩ := cleared.announced
    have told : Entry.replied? ⟨host, station, .send (.readDone (.ofNat length)), .ok ()⟩ =
        some length := congrArg some announced.toNat_ofNat
    refine ⟨kept.lawful.concat (follows kept.stands asks), introduced.append _,
      fun _ => (kept.smooth (not_failed_of_wish asks)).concat rfl, ?_, [], ?_, rfl⟩
    · have before := kept.progress
      dsimp only at before ⊢
      rw [replied_concat, told, before]
      simp [Progress.confirm]
    · rw [drained_concat, replied_concat, told, same]
      simp [Entry.drained?]
  | @flushed progress host station =>
    exact kept.plain asks rfl ⟨log, host, station, rfl, kept.stands⟩ rfl rfl fun _ none => none
  | @failed phase progress entry error _ fault =>
    obtain ⟨undrained, unreplied⟩ := unanswered_of_fault fault
    obtain ⟨rest, same, left⟩ := kept.pending
    refine ⟨kept.lawful.concat (follows kept.stands asks),
      ⟨log, entry, rfl, kept.smooth (not_failed_of_wish asks), fault⟩,
      fun fine => absurd rfl (fine error), ?_, rest, ?_, ?_⟩
    · rw [replied_concat, unreplied, Option.toList_none, List.append_nil]
      exact kept.progress
    · rw [drained_concat, replied_concat, undrained, unreplied, Option.toList_none, List.append_nil,
        List.append_nil]
      exact same
    · obtain ⟨host, station, request, answer⟩ := entry
      rcases left.of_wish asks with nothing | ⟨length, between, rfl⟩
      · exact .inl nothing
      rcases between with rfl | rfl
      · cases asks
        cases fault
      · cases asks
        obtain ⟨prior, announced⟩ := kept.stands.2.announced
        have told := announced.toNat_ofNat
        cases answer with
        | ok => cases fault
        | error error =>
          exact .inr ⟨log, host, station, .ofNat length, error, rfl, by rw [told],
            by rw [told]; exact announced.positive.2⟩

end Kept

/-!
## The destination
-/

/-- A log ends with a chunk that broke off, and this is a first part of it. -/
def Broken (buffer : RelayBuffer) (log : List Entry) (part : List UInt8) : Prop :=
  ∃ prior host station length failure,
    log = prior ++ [⟨host, station, .drain length, .error failure⟩] ∧
      part <+: (buffer.read 0 length host).data.toList

/-- What has become of the chunks that a log writes. -/
structure Sunk (buffer : RelayBuffer) (log : List Entry) (writer : Writer) : Prop where
  writes : ∀ entry ∈ log, entry.Writes buffer
  length : (delivered buffer log).length = (drained log).sum
  sink : (began log writer).Retains → writer.Retains ∧ ∃ part,
    (∀ files, writer.kept files =
      (began log writer).kept files ++ delivered buffer log ++ part) ∧
    (part = [] ∨ Broken buffer log part)

section Sunk

variable {buffer : RelayBuffer} {log : List Entry} {writer : Writer} {host : Host}
  {station next : Station}

theorem began_concat (log : List Entry) (entry : Entry) (writer : Writer) :
    began (log ++ [entry]) writer = began log entry.station.writer := by
  cases log with
  | nil => rfl
  | cons first later => rfl

theorem Sunk.fresh (buffer : RelayBuffer) (writer : Writer) : Sunk buffer [] writer where
  writes _ member := by cases member
  length := rfl
  sink retains := ⟨retains, [], fun files => by simp [began, delivered], .inl rfl⟩

/-- No part of a chunk is left where no answer was a fault. -/
theorem Broken.not_smooth {part : List UInt8} (broken : Broken buffer log part) :
    ¬ Smooth buffer log := by
  obtain ⟨prior, host, station, length, failure, rfl, _⟩ := broken
  intro smooth
  cases smooth _ (List.mem_append_right _ (List.mem_singleton_self _))

theorem Sunk.whole (sunk : Sunk buffer log writer) (smooth : Smooth buffer log)
    (retains : (began log writer).Retains) :
    writer.Retains ∧
      ∀ files, writer.kept files = (began log writer).kept files ++ delivered buffer log := by
  obtain ⟨kept, part, holds, none | broken⟩ := sunk.sink retains
  · subst none
    exact ⟨kept, fun files => (holds files).trans (List.append_nil _)⟩
  · exact absurd smooth broken.not_smooth

/-- A request that writes nothing. -/
theorem Sunk.plain {entry : Entry} (sunk : Sunk buffer log entry.station.writer)
    (smooth : Smooth buffer log) (left : entry.Leaves next)
    (stage : entry.station.stage = .relay buffer)
    (other : ∀ length, entry.request ≠ .drain length) :
    Sunk buffer (log ++ [entry]) next.writer := by
  have quiet : entry.Writes buffer ∧ entry.chunk buffer = [] ∧ entry.drained? = none := by
    obtain ⟨_, _, request, _⟩ := entry
    cases request with
    | drain length => exact absurd rfl (other length)
    | _ => exact ⟨trivial, rfl, rfl⟩
  obtain ⟨trivially, nothing, undrained⟩ := quiet
  have same : delivered buffer (log ++ [entry]) = delivered buffer log := by
    rw [delivered_concat, nothing, List.append_nil]
  refine ⟨?writes, ?length, ?sink⟩
  case writes =>
    intro earlier member
    rcases List.mem_append.mp member with before | last
    · exact sunk.writes earlier before
    · rw [List.mem_singleton.mp last]
      exact trivially
  case length =>
    rw [same, drained_concat, undrained, Option.toList_none, List.append_nil]
    exact sunk.length
  case sink =>
    rw [began_concat, same, left.writer stage other]
    intro retains
    obtain ⟨kept, holds⟩ := sunk.whole smooth retains
    exact ⟨kept, [], fun files => (holds files).trans (List.append_nil _).symm, .inl rfl⟩

/-- Writing a chunk, all of it or a first part. -/
theorem Sunk.drain {length : Nat} {result : Except WriteFailure Unit}
    (sunk : Sunk buffer log station.writer) (smooth : Smooth buffer log)
    (left : Entry.Leaves ⟨host, station, .drain length, result⟩ next)
    (stage : station.stage = .relay buffer)
    (sized : (buffer.read 0 length host).size = length) :
    Sunk buffer (log ++ [⟨host, station, .drain length, result⟩]) next.writer := by
  obtain ⟨ended, moved⟩ := left.drain stage
  have listed : (buffer.read 0 length host).data.toList.length = length := by
    rw [Array.length_toList, ByteArray.size_data, sized]
  refine ⟨?writes, ?length, ?sink⟩
  case writes =>
    intro earlier member
    rcases List.mem_append.mp member with before | last
    · exact sunk.writes earlier before
    · rw [List.mem_singleton.mp last]
      refine ⟨sized, ended.symm, fun keeps => ?_⟩
      obtain ⟨_, count, holds, whole⟩ := keeps.put (buffer.read 0 length host)
      rw [sized, ← ended] at whole
      exact ⟨count, holds, whole⟩
  case length =>
    rw [delivered_concat, drained_concat, List.length_append, List.sum_append, sunk.length]
    cases result with
    | ok => exact congrArg _ listed
    | error failure => rfl
  case sink =>
    rw [began_concat]
    intro retains
    obtain ⟨kept, holds⟩ := sunk.whole smooth retains
    have keeps := kept.put host.files (buffer.read 0 length host)
    obtain ⟨_, count, grown, whole⟩ := (kept.2 host.files).put (buffer.read 0 length host)
    rw [← moved] at keeps grown
    rw [← ended, sized] at whole
    rw [holds] at grown
    have put : ∀ files, next.writer.kept files =
        (began log station.writer).kept files ++ delivered buffer log ++
          (buffer.read 0 length host).data.toList.take count := by
      intro files
      rw [keeps.kept_congr files, grown, retains.kept_congr files]
    refine ⟨keeps, ?_⟩
    rw [delivered_concat]
    cases result with
    | ok =>
      refine ⟨[], fun files => ?_, .inl rfl⟩
      rw [put, List.take_of_length_le (Nat.le_trans (Nat.le_of_eq listed) (whole rfl)), List.append_nil,
        List.append_assoc]
      rfl
    | error failure =>
      refine ⟨_, fun files => ?_, .inr ⟨log, host, station, length, failure, rfl,
        List.take_prefix count _⟩⟩
      rw [put]
      exact congrArg (· ++ _) (congrArg _ (List.append_nil _).symm)

theorem Sunk.asked {entry : Entry} (sunk : Sunk buffer log entry.station.writer)
    (smooth : Smooth buffer log) (left : entry.Leaves next)
    (stage : entry.station.stage = .relay buffer)
    (sized : ∀ host length, (buffer.read 0 length host).size = length) :
    Sunk buffer (log ++ [entry]) next.writer := by
  by_cases drains : ∃ length, entry.request = .drain length
  · obtain ⟨host, station, request, result⟩ := entry
    obtain ⟨length, rfl⟩ := drains
    exact sunk.drain smooth left stage (sized host length)
  · exact sunk.plain smooth left stage fun length asks => drains ⟨length, asks⟩

end Sunk

/-!
## The rules
-/

/-- What a receiver keeps to. -/
structure Rules (buffer : RelayBuffer) (receiver : Receiver) (writer : Writer)
    (log : List Entry) : Prop where
  lawful : Lawful buffer log
  /-- The first fault is the last entry and the error of the transfer. -/
  faults {prior : List Entry} {entry : Entry} {error : RelayError} :
    prior ++ [entry] <+: log → fault? buffer entry = some error →
      prior ++ [entry] = log ∧ receiver.state = .failed ∧
        (Engine.receiving receiver).error? = some error
  failed : receiver.state = .failed → ∃ prior entry error, log = prior ++ [entry] ∧
    fault? buffer entry = some error
  completed : receiver.state = .completed → ∃ prior host station,
    log = prior ++ [⟨host, station, .flush, .ok ()⟩] ∧ Ended prior
  progress : receiver.progress = ⟨(replied log).sum, (replied log).length⟩
  /-- Chunks are replied to in the order they were written in, all but the last one at least. -/
  replies : ∃ rest, drained log = replied log ++ rest ∧ rest.length ≤ 1 ∧
    (receiver.state = .completed → rest = [])
  writes : ∀ entry ∈ log, entry.Writes buffer
  /-- A destination has taken the chunks written in full, and a first part of one that broke off.
  No more than one chunk of it is not counted. -/
  sink : (began log writer).Retains → ∃ part,
    (∀ files, writer.kept files =
      (began log writer).kept files ++ delivered buffer log ++ part) ∧
    (part = [] ∨ Broken buffer log part) ∧
    receiver.progress.bytes ≤ (delivered buffer log ++ part).length ∧
    (delivered buffer log ++ part).length ≤ receiver.progress.bytes + buffer.capacity ∧
    (receiver.state = .completed →
      (delivered buffer log ++ part).length = receiver.progress.bytes)

section Rules

variable {buffer : RelayBuffer} {receiver : Receiver} {writer : Writer} {log prior : List Entry}
  {entry : Entry} {error : RelayError} {rest : List Nat}

theorem Smooth.no_fault (smooth : Smooth buffer log) (before : prior ++ [entry] <+: log)
    (fault : fault? buffer entry = some error) : False := by
  rw [smooth entry (before.subset (List.mem_append_right _ (List.mem_singleton_self _)))] at fault
  cases fault

theorem Kept.faults (kept : Kept buffer receiver log) (before : prior ++ [entry] <+: log)
    (fault : fault? buffer entry = some error) :
    prior ++ [entry] = log ∧ receiver.phase = .failed error := by
  have stands := kept.stands
  by_cases running : ∀ error, receiver.phase ≠ .failed error
  · exact ((kept.smooth running).no_fault before fault).elim
  obtain ⟨first, failed⟩ := not_forall_not.mp running
  rw [failed] at stands
  obtain ⟨earlier, last, rfl, smooth, broke⟩ := stands
  rcases List.prefix_concat_iff.mp before with same | earlier
  · obtain ⟨rfl, rfl⟩ := List.append_singleton_inj.mp same
    rw [broke] at fault
    cases fault
    exact ⟨rfl, failed⟩
  · exact (smooth.no_fault earlier fault).elim

/-- At most one chunk is written and not replied to. -/
theorem Pending.bounded (pending : Pending buffer log receiver.phase rest)
    (stands : Stands buffer log receiver.phase) :
    rest.length ≤ 1 ∧ rest.sum ≤ buffer.capacity := by
  have single : ∀ {length}, length ≤ buffer.capacity →
      [length].length ≤ 1 ∧ [length].sum ≤ buffer.capacity :=
    fun fits => ⟨Nat.le_refl 1, fits⟩
  obtain ⟨phase, progress⟩ := receiver
  cases phase with
  | clearing length =>
    obtain ⟨prior, announced⟩ := stands.2.announced
    subst pending
    exact single announced.positive.2
  | acknowledging length =>
    obtain ⟨prior, announced⟩ := stands.2.announced
    subst pending
    exact single announced.positive.2
  | failed error =>
    rcases pending with rfl | ⟨prior, host, station, told, error, _, rfl, fits⟩
    · exact ⟨Nat.zero_le _, Nat.zero_le _⟩
    · exact single fits
  | _ =>
    subst pending
    exact ⟨Nat.zero_le _, Nat.zero_le _⟩

/-- A part is left only of the chunk that ends the log, when all others were replied to. -/
theorem Kept.broken {part : List UInt8} (kept : Kept buffer receiver log)
    (pending : Pending buffer log receiver.phase rest) (broken : Broken buffer log part) :
    rest = [] ∧ receiver.state = .failed := by
  have smooth := broken.not_smooth
  obtain ⟨phase, progress⟩ := receiver
  cases phase with
  | failed error =>
    refine ⟨?_, rfl⟩
    rcases pending with nothing | ⟨prior, host, station, told, error, ends, _⟩
    · exact nothing
    · obtain ⟨earlier, other, next, length, failure, same, _⟩ := broken
      rw [ends] at same
      cases (List.append_singleton_inj.mp same).2
  | _ => exact absurd (kept.smooth fun error failed => by cases failed) smooth

theorem Broken.length_le {part : List UInt8} (broken : Broken buffer log part)
    (lawful : Lawful buffer log) (sunk : Sunk buffer log writer) :
    part.length ≤ buffer.capacity := by
  obtain ⟨prior, host, station, length, failure, rfl, first⟩ := broken
  have announced : Announced buffer length prior := lawful prior _ List.prefix_rfl
  have sized := (sunk.writes _ (List.mem_append_right _ (List.mem_singleton_self _))).1
  calc part.length
      ≤ (buffer.read 0 length host).data.toList.length := first.length_le
    _ = length := by rw [Array.length_toList, ByteArray.size_data, sized]
    _ ≤ buffer.capacity := announced.positive.2

theorem Kept.rules (kept : Kept buffer receiver log) (sunk : Sunk buffer log writer) :
    Rules buffer receiver writer log := by
  obtain ⟨rest, same, pending⟩ := kept.pending
  obtain ⟨single, bounded⟩ := pending.bounded kept.stands
  have settled : receiver.state = .completed → rest = [] := by
    intro completed
    obtain ⟨phase, progress⟩ := receiver
    cases phase with
    | completed => exact pending
    | _ => cases completed
  have counted : (delivered buffer log).length = receiver.progress.bytes + rest.sum := by
    rw [sunk.length, same, List.sum_append, kept.progress]
  refine ⟨kept.lawful, ?faulty, ?fails, ?completes, kept.progress, ⟨rest, same, single, settled⟩,
    sunk.writes, ?sinks⟩
  case faulty =>
    intro prior entry error before fault
    obtain ⟨last, failed⟩ := kept.faults before fault
    obtain ⟨phase, progress⟩ := receiver
    cases failed
    exact ⟨last, rfl, rfl⟩
  case fails =>
    intro failed
    obtain ⟨phase, progress⟩ := receiver
    have stands := kept.stands
    cases phase with
    | failed first =>
      obtain ⟨prior, last, ends, smooth, broke⟩ := stands
      exact ⟨prior, last, first, ends, broke⟩
    | _ => cases failed
  case completes =>
    intro completed
    obtain ⟨phase, progress⟩ := receiver
    cases phase with
    | completed => exact kept.stands
    | _ => cases completed
  case sinks =>
    intro retains
    obtain ⟨_, part, holds, broke⟩ := sunk.sink retains
    refine ⟨part, holds, broke, ?_⟩
    rw [List.length_append, counted]
    rcases broke with rfl | broken
    · rw [List.length_nil]
      refine ⟨by omega, by omega, fun completed => ?_⟩
      rw [settled completed, List.sum_nil]
      rfl
    · obtain ⟨rfl, failed⟩ := kept.broken pending broken
      have fits := broken.length_le kept.lawful sunk
      rw [List.sum_nil]
      refine ⟨by omega, by omega, fun completed => ?_⟩
      rw [failed] at completed
      cases completed

/-- Whatever a contest has come to, a receiver has kept to its rules. -/
theorem kept_of_contest {engine : Engine} {reader : Reader}
    (sized : ∀ host length, (buffer.read 0 length host).size = length)
    (contest : Contest buffer .receiver engine reader writer log) :
    ∃ receiver, engine = .receiving receiver ∧ Kept buffer receiver log ∧
      Sunk buffer log writer := by
  induction contest with
  | fresh reader writer => exact ⟨.fresh, rfl, .fresh buffer, .fresh buffer writer⟩
  | started contest ih =>
    obtain ⟨receiver, rfl, kept, sunk⟩ := ih
    exact ⟨receiver, rfl, kept, sunk⟩
  | asked contest stage asks left ih =>
    obtain ⟨receiver, rfl, kept, sunk⟩ := ih
    obtain ⟨after, leads, turned⟩ := turned asks
    have smooth := kept.smooth (not_failed_of_wish turned.wish)
    exact ⟨after, leads, kept.turned turned, sunk.asked smooth left stage sized⟩

end Rules

end Receiver

/-- A receiver keeps to its rules against every remote and every destination. Once it has ended,
calling it does nothing at all. Each call of it over a real channel is part of what it may do. -/
theorem receiver_keeps_rules {allocator : Allocator} {capacity : Nat} {before after : Host}
    {buffer : RelayBuffer}
    (acquired : (RelayBuffer.acquire allocator capacity).run before = (.ok buffer, after))
    {receiver : Receiver} {reader : Reader} {writer : Writer} {log : List Entry}
    (contest : Contest buffer .receiver (.receiving receiver) reader writer log) :
    receiver.Rules buffer writer log ∧
      (receiver.state.isTerminal = true →
        (Engine.receiving receiver).action buffer.address buffer.capacity = .stop ∧
        ∀ desk host,
          (Engine.start (.receiving receiver) desk).run host =
            ((.receiving receiver, desk), host) ∧
          (Engine.step (.receiving receiver) desk).run host =
            (some (.receiving receiver, desk), host)) ∧
      ∀ channel host next left later,
        (Engine.start (.receiving receiver) ⟨buffer, channel, reader, writer⟩).run host =
            ((next, left), later) ∨
          (Engine.step (.receiving receiver) ⟨buffer, channel, reader, writer⟩).run host =
            (some (next, left), later) →
        ∃ more, Works (.receiving receiver) ⟨buffer, channel, reader, writer⟩ host more next left
            later ∧
          Contest buffer .receiver next left.reader left.writer (log ++ more) := by
  obtain ⟨⟨holding, address, rfl⟩, _⟩ := RelayBuffer.acquire_ok acquired
  have sized : ∀ host length,
      (RelayBuffer.read ⟨some holding, address, capacity⟩ 0 length host).size = length :=
    fun host length => Extent.size_read _ _ _
  obtain ⟨_, named, kept, sunk⟩ := Receiver.kept_of_contest sized contest
  cases named
  refine ⟨kept.rules sunk, fun terminal => ?ended, ?calls⟩
  case ended =>
    have ended : (Engine.receiving receiver).state.isTerminal = true := terminal
    exact ⟨Engine.action_of_isTerminal ended _ _, fun desk host =>
      ⟨Engine.start_of_isTerminal ended desk host, Engine.step_of_isTerminal ended desk host⟩⟩
  case calls =>
    intro channel host next left later called
    exact contest.called called

/-- A chunk of two bytes and its reply on a link. -/
theorem receiver_keeps_rules_small :
    ∃ receiver reader writer log,
      Contest (.onBus Bus.defaultBase 0 2) .receiver (.receiving receiver) reader writer log ∧
        receiver.Rules (.onBus Bus.defaultBase 0 2) writer log ∧
        receiver.progress = ⟨2, 1⟩ ∧ writer.taken.size = 2 := by
  let acquired := (RelayBuffer.acquire .bus 2).run (.fresh 0 Bus.defaultBase .empty)
  let hub := ((Hub.empty.join default).2.send 0 .far (.writeDone Bus.defaultBase 2)).2
  let desk : Desk :=
    { buffer := .onBus Bus.defaultBase 0 2
      channel := .onTransport default .unbounded (.link 0 .near)
      reader := .script [] none
      writer := .script [.take 1] none .empty }
  let stepped := (Engine.step (.fresh .receiver) desk).run { acquired.2 with hub }
  have moved : stepped.1.map (fun moved => (moved.1, moved.2.writer.taken.size)) =
      some (.receiving ⟨.ready, ⟨2, 1⟩⟩, 2) := by decide +kernel
  obtain ⟨⟨engine, left⟩, given, same⟩ := Option.map_eq_some_iff.mp moved
  obtain ⟨rfl, taken⟩ := Prod.mk.inj same
  obtain ⟨log, works⟩ := Engine.step_works (Prod.ext given rfl : stepped = (_, stepped.2))
  have contest := works.contest (.started (.fresh desk.reader desk.writer))
  exact ⟨_, _, _, _, contest, (receiver_keeps_rules
    (Prod.ext rfl rfl : acquired = (_, acquired.2)) contest).1, rfl, taken⟩

end ChunkRelay
