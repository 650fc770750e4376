import ChunkRelay.Proofs.Channel.Interchange

/-! What a socket makes of the bytes that reach it, whatever they are and in
whatever pieces they come. Each receive takes the bytes of one frame and is
answered by these alone, until the other end has stopped and too few are left. -/

set_option autoImplicit false

namespace ChunkRelay

/-- What happens at an end of a wire that only receives. A receive without a bound that does not
find a whole frame is not answered: it goes on waiting, and looks again later. -/
inductive Incident where
  /-- The other end sends these bytes. -/
  | arrive (piece : List UInt8)
  /-- The other end stops sending. -/
  | shutdown
  /-- The other end goes away. -/
  | hangUp
  | receive (wait : Wait)
deriving DecidableEq, Repr

def Incident.ends : Incident → Bool
  | .shutdown | .hangUp => true
  | .arrive _ | .receive _ => false

/-- What happened at an end of a wire, with the answers of the receives. -/
abbrev Journal := List (Incident × Option (Except ChannelError Message))

namespace Journal

/-- The bytes that were sent before the other end stopped. -/
def arrived : Journal → List UInt8
  | [] => []
  | (.arrive piece, _) :: rest => piece ++ arrived rest
  | (.shutdown, _) :: _ | (.hangUp, _) :: _ => []
  | (.receive _, _) :: rest => arrived rest

def ended (journal : Journal) : Bool :=
  journal.any (·.1.ends)

def answers (journal : Journal) : List (Except ChannelError Message) :=
  journal.filterMap (·.2)

theorem patient_cons {incident : Incident} {answer? : Option (Except ChannelError Message)}
    {rest : Journal}
    (patient : ∀ waited, .error (.timeout waited) ∉ answers ((incident, answer?) :: rest)) :
    (∀ waited, answer? ≠ some (.error (.timeout waited))) ∧
      ∀ waited, .error (.timeout waited) ∉ rest.answers := by
  constructor
  · rintro waited rfl
    exact patient waited List.mem_cons_self
  · intro waited expired
    obtain ⟨entry, member, answered⟩ := List.mem_filterMap.mp expired
    exact patient waited (List.mem_filterMap.mpr ⟨entry, List.mem_cons_of_mem _ member, answered⟩)

end Journal

namespace SocketTransport

/-- Lets something happen at an end of a wire: the answer, if something is answered. -/
def undergo (number : Nat) (side : Side) (port : UInt32) (claim : Option PortClaim) :
    Incident → HostM (Option (Except ChannelError Message))
  | .arrive piece => do
    let _ ← changeWire number fun wire => wire.write side.other piece
    return none
  | .shutdown => do
    changeWire number fun wire => ((), wire.shutdownWrite side.other)
    return none
  | .hangUp => do
    dropSocket number side.other
    return none
  | .receive wait => (Transport.socket (onEnd number side port claim)).receive wait

def undergoAll (number : Nat) (side : Side) (port : UInt32) (claim : Option PortClaim) :
    List Incident → HostM Journal
  | [] => return []
  | incident :: rest => do
    let answer? ← undergo number side port claim incident
    let journal ← undergoAll number side port claim rest
    return (incident, answer?) :: journal

end SocketTransport

/-!
## What is on its way
-/

/-- What is on its way to an end of a wire: the bytes, and whether they are the last ones. -/
structure Inflow where
  bytes : List UInt8
  ended : Bool

namespace Inflow

def nothing : Inflow :=
  ⟨[], false⟩

/-- What a receive returns, unless it goes on waiting, and what it leaves. -/
def receive (flow : Inflow) (transport : SocketTransport) (wait : Wait) :
    Option (Except ChannelError Message) × Inflow :=
  if frameLength ≤ flow.bytes.length then
    (some (transport.accept (flow.bytes.take frameLength)),
      { flow with bytes := flow.bytes.drop frameLength })
  else if flow.ended then (some (.error .closed), { flow with bytes := [] })
  else match wait with
    | .unbounded => (none, flow)
    | .atMost limit =>
      (some (.error (.timeout (limit.longer SocketTransport.shortestWait))),
        { flow with bytes := [] })

def undergo (flow : Inflow) (transport : SocketTransport) :
    Incident → Option (Except ChannelError Message) × Inflow
  | .arrive piece =>
    (none, if flow.ended then flow else { flow with bytes := flow.bytes ++ piece })
  | .shutdown | .hangUp => (none, { flow with ended := true })
  | .receive wait => flow.receive transport wait

def undergoAll (flow : Inflow) (transport : SocketTransport) : List Incident → Journal × Inflow
  | [] => ([], flow)
  | incident :: rest =>
    let (answer?, middle) := flow.undergo transport incident
    let (journal, last) := middle.undergoAll transport rest
    ((incident, answer?) :: journal, last)

section Receive

variable {flow : Inflow} (transport : SocketTransport) (wait : Wait)

theorem receive_whole (whole : frameLength ≤ flow.bytes.length) :
    flow.receive transport wait =
      (some (transport.accept (flow.bytes.take frameLength)),
        ⟨flow.bytes.drop frameLength, flow.ended⟩) :=
  if_pos whole

theorem receive_closed (short : ¬ frameLength ≤ flow.bytes.length) (ended : flow.ended = true) :
    flow.receive transport wait = (some (.error .closed), ⟨[], true⟩) := by
  unfold receive
  rw [if_neg short, if_pos ended, ended]

theorem receive_short (short : ¬ frameLength ≤ flow.bytes.length) (waiting : flow.ended = false) :
    flow.receive transport wait =
      match wait with
      | .unbounded => (none, flow)
      | .atMost limit =>
        (some (.error (.timeout (limit.longer SocketTransport.shortestWait))), ⟨[], false⟩) := by
  unfold receive
  rw [if_neg short, if_neg (Bool.eq_false_iff.mp waiting), waiting]

end Receive

section Looked

variable {flow : Inflow} {transport : SocketTransport}

/-- What a look finds, every wait finds. -/
theorem receive_of_some {wait : Wait} {answer : Except ChannelError Message}
    (found : (flow.receive transport .unbounded).1 = some answer) :
    flow.receive transport wait = flow.receive transport .unbounded := by
  unfold receive at found ⊢
  split
  · rfl
  · next short =>
    split
    · rfl
    · next waiting => simp [short, waiting] at found

theorem receive_eq_none {wait : Wait} (nothing : (flow.receive transport wait).1 = none) :
    ¬ frameLength ≤ flow.bytes.length ∧ flow.ended = false := by
  unfold receive at nothing
  split at nothing
  · cases nothing
  · next short =>
    split at nothing
    · cases nothing
    · next waiting => exact ⟨short, Bool.eq_false_iff.mpr waiting⟩

end Looked

end Inflow

/-- The wire brings to a side what is on its way there. -/
structure Wire.Brings (wire : Wire) (side : Side) (flow : Inflow) : Prop where
  inbox : (wire.atSide side).inbox = flow.bytes
  readEnded : (wire.atSide side).readEnded = flow.ended
  reset : (wire.atSide side).reset = true → flow.ended = true
  writeEnded : (wire.atSide side.other).writeEnded = flow.ended

namespace Wire

variable {wire : Wire} {side : Side} {flow : Inflow}

theorem Brings.fresh (side : Side) : Wire.fresh.Brings side .nothing := by
  constructor <;> cases side <;> simp [Wire.fresh, Wire.atSide, SocketEnd.fresh, Inflow.nothing,
    Side.other]

/-- Other bytes may wait at the receiving end as long as it stays how it stands. -/
theorem Brings.update (brings : wire.Brings side flow) {socket : SocketEnd} {bytes : List UInt8}
    (inbox : socket.inbox = bytes) (readEnded : socket.readEnded = (wire.atSide side).readEnded)
    (reset : socket.reset = true → (wire.atSide side).reset = true) :
    (wire.setSide side socket).Brings side ⟨bytes, flow.ended⟩ := by
  constructor
  · rw [atSide_setSide, if_pos rfl]
    exact inbox
  · rw [atSide_setSide, if_pos rfl, readEnded]
    exact brings.readEnded
  · rw [atSide_setSide, if_pos rfl]
    exact fun now => brings.reset (reset now)
  · rw [atSide_setSide, if_neg (Side.other_ne side)]
    exact brings.writeEnded

theorem Brings.write (brings : wire.Brings side flow) (piece : List UInt8) :
    (wire.write side.other piece).2.Brings side
      (if flow.ended then flow else ⟨flow.bytes ++ piece, flow.ended⟩) := by
  unfold Wire.write
  rw [brings.writeEnded, Side.other_other]
  split
  · next empty =>
    rw [List.isEmpty_iff.mp empty, List.append_nil, ite_self]
    exact brings
  · split
    · exact brings
    · exact brings.update (congrArg (· ++ piece) brings.inbox) rfl id

theorem Brings.read_whole (brings : wire.Brings side flow)
    (whole : frameLength ≤ flow.bytes.length) :
    ∃ next, wire.readExactly side frameLength =
        (some (some (flow.bytes.take frameLength)), next) ∧
      next.Brings side ⟨flow.bytes.drop frameLength, flow.ended⟩ := by
  unfold Wire.readExactly
  dsimp only
  rw [brings.inbox, if_pos whole]
  exact ⟨_, rfl, brings.update rfl rfl id⟩

/-- Once no more bytes will come, a part of a frame is thrown away. -/
theorem Brings.read_closed (brings : wire.Brings side flow)
    (short : ¬ frameLength ≤ flow.bytes.length) (ended : flow.ended = true) :
    ∃ next, wire.readExactly side frameLength = (some none, next) ∧
      next.Brings side ⟨[], true⟩ := by
  unfold Wire.readExactly
  dsimp only
  rw [brings.inbox, if_neg short, if_pos (.inr (brings.readEnded.trans ended)), ← ended]
  exact ⟨_, rfl, brings.update rfl rfl fun broken => by cases broken⟩

theorem Brings.read_short (brings : wire.Brings side flow)
    (short : ¬ frameLength ≤ flow.bytes.length) (waiting : flow.ended = false) :
    wire.readExactly side frameLength = (none, wire) := by
  have unbroken : (wire.atSide side).reset ≠ true := fun broken =>
    Bool.false_ne_true (waiting.symm.trans (brings.reset broken))
  unfold Wire.readExactly
  dsimp only
  rw [brings.inbox, if_neg short, if_neg]
  rw [brings.readEnded, waiting]
  exact not_or_intro unbroken Bool.false_ne_true

theorem Brings.discard (brings : wire.Brings side flow) :
    (wire.discard side).Brings side ⟨[], flow.ended⟩ :=
  brings.update rfl rfl id

theorem Brings.shutdownWrite (brings : wire.Brings side flow) :
    (wire.shutdownWrite side.other).Brings side ⟨flow.bytes, true⟩ := by
  unfold Wire.shutdownWrite
  rw [Side.other_other]
  constructor
  · simp [atSide_setSide, (Side.other_ne side).symm, brings.inbox]
  · simp [atSide_setSide]
  · exact fun _ => rfl
  · simp [atSide_setSide, Side.other_ne side]

theorem Brings.drop (brings : wire.Brings side flow) :
    (wire.drop side.other).Brings side ⟨flow.bytes, true⟩ := by
  constructor
  · rw [atSide_drop, if_neg (Side.other_ne side).symm]
    exact brings.inbox
  · rw [atSide_drop, if_neg (Side.other_ne side).symm]
  · exact fun _ => rfl
  · rw [atSide_drop, if_pos rfl]

end Wire

/-- A wire of the host brings to a side what is on its way there. -/
def Host.Brings (host : Host) (number : Nat) (side : Side) (flow : Inflow) : Prop :=
  ∃ wire, host.wires[number]? = some wire ∧ wire.Brings side flow

namespace SocketTransport

variable {number : Nat} {side : Side} {flow : Inflow} {host : Host} (port : UInt32)
  (claim : Option PortClaim)

/-- Looking for a frame is receiving without a bound. -/
theorem poll_brings (brings : host.Brings number side flow) :
    ∃ after, (Transport.socket (onEnd number side port claim)).poll.run host =
        ((flow.receive (onEnd number side port claim) .unbounded).1, after) ∧
      after.Brings number side (flow.receive (onEnd number side port claim) .unbounded).2 := by
  obtain ⟨wire, present, brings⟩ := brings
  obtain ⟨after, ran, stays⟩ :=
    changeWire_run present fun state => state.readExactly side frameLength
  simp only [Transport.poll, poll, onEnd]
  rw [HostM.run_bind_eq ran]
  by_cases whole : frameLength ≤ flow.bytes.length
  · obtain ⟨next, read, brought⟩ := brings.read_whole whole
    rw [Inflow.receive_whole _ _ whole]
    rw [read] at stays ⊢
    dsimp only
    split <;> exact ⟨_, rfl, next, stays, brought⟩
  cases ended : flow.ended with
  | true =>
    obtain ⟨next, read, brought⟩ := brings.read_closed whole ended
    rw [Inflow.receive_closed _ _ whole ended]
    rw [read] at stays ⊢
    exact ⟨after, rfl, next, stays, brought⟩
  | false =>
    have read := brings.read_short whole ended
    rw [Inflow.receive_short _ _ whole ended]
    rw [read] at stays ⊢
    exact ⟨after, rfl, wire, stays, brings⟩

theorem receive_brings (brings : host.Brings number side flow) (wait : Wait) :
    ∃ after, ((Transport.socket (onEnd number side port claim)).receive wait).run host =
        ((flow.receive (onEnd number side port claim) wait).1, after) ∧
      after.Brings number side (flow.receive (onEnd number side port claim) wait).2 := by
  obtain ⟨middle, polled, brought⟩ := poll_brings port claim brings
  unfold Transport.receive
  rw [HostM.run_bind_eq polled]
  cases found : (flow.receive (onEnd number side port claim) .unbounded).1 with
  | some answer =>
    rw [Inflow.receive_of_some found] at brought ⊢
    exact ⟨middle, congrArg (fun found => (found, middle)) found.symm, brought⟩
  | none =>
    obtain ⟨short, waiting⟩ := Inflow.receive_eq_none found
    rw [Inflow.receive_short _ _ short waiting] at brought ⊢
    cases wait with
    | unbounded => exact ⟨middle, rfl, brought⟩
    | atMost limit =>
      obtain ⟨wire, present, brought⟩ := brought
      have emptied := brought.discard
      rw [waiting] at emptied
      refine ⟨_, HostM.run_bind_eq (expire_onEnd claim present limit), _, ?_, emptied⟩
      exact Array.getElem?_setIfInBounds_self_of_lt (Array.getElem?_eq_some_iff.mp present).1

theorem undergo_brings (brings : host.Brings number side flow) (incident : Incident) :
    ∃ after, (undergo number side port claim incident).run host =
        ((flow.undergo (onEnd number side port claim) incident).1, after) ∧
      after.Brings number side (flow.undergo (onEnd number side port claim) incident).2 := by
  cases incident with
  | arrive piece =>
    obtain ⟨wire, present, brings⟩ := brings
    obtain ⟨after, ran, stays⟩ := changeWire_run present fun state => state.write side.other piece
    exact ⟨after, HostM.run_bind_eq ran, _, stays, brings.write piece⟩
  | shutdown =>
    obtain ⟨wire, present, brings⟩ := brings
    obtain ⟨after, ran, stays⟩ :=
      changeWire_run present fun state => ((), state.shutdownWrite side.other)
    exact ⟨after, HostM.run_bind_eq ran, _, stays, brings.shutdownWrite⟩
  | hangUp =>
    obtain ⟨wire, present, brings⟩ := brings
    obtain ⟨after, ran, stays⟩ := changeWire_run present fun state => ((), state.drop side.other)
    exact ⟨after, HostM.run_bind_eq ran, _, stays, brings.drop⟩
  | receive wait => exact receive_brings port claim brings wait

/-- What happens at an end of a wire happens to what is on its way there. -/
theorem undergoAll_brings (brings : host.Brings number side flow) (incidents : List Incident) :
    ∃ after, (undergoAll number side port claim incidents).run host =
        ((flow.undergoAll (onEnd number side port claim) incidents).1, after) ∧
      after.Brings number side (flow.undergoAll (onEnd number side port claim) incidents).2 := by
  induction incidents generalizing host flow with
  | nil => exact ⟨host, rfl, brings⟩
  | cons incident rest ih =>
    obtain ⟨middle, ran, brings⟩ := undergo_brings port claim brings incident
    obtain ⟨after, others, brought⟩ := ih brings
    refine ⟨after, ?_, brought⟩
    rw [undergoAll, HostM.run_bind_eq ran, HostM.run_bind_eq others]
    rfl

end SocketTransport

/-!
## The right answers
-/

/-- The bytes at this place once all are cut into frames. -/
def frameAt (bytes : List UInt8) (place : Nat) : List UInt8 :=
  (bytes.drop (frameLength * place)).take frameLength

/-- The answer to the receive that comes to this place of what was sent, on a port. Of all that was
sent it is told by the bytes of one frame. -/
structure Answers (port : UInt32) (bytes : List UInt8) (place : Nat)
    (answer : Except ChannelError Message) : Prop where
  heard {message : Message} : frameLength * (place + 1) ≤ bytes.length →
    Message.decode (frameAt bytes place) = .ok (port, message) → answer = .ok message
  foreign {other : UInt32} {message : Message} : frameLength * (place + 1) ≤ bytes.length →
    Message.decode (frameAt bytes place) = .ok (other, message) → other ≠ port →
    answer = .error (.portMismatch port other)
  malformed {error : ChannelError} : frameLength * (place + 1) ≤ bytes.length →
    Message.decode (frameAt bytes place) = .error error →
    answer = .error error ∧ ∃ what, error = .malformed what
  /-- Too few bytes were left, or none. -/
  closed : bytes.length < frameLength * (place + 1) → answer = .error .closed

theorem Message.decode_error {frame : List UInt8} {error : ChannelError}
    (refused : decode frame = .error error) : ∃ what, error = .malformed what := by
  unfold decode at refused
  split at refused
  · cases refused
    exact ⟨_, rfl⟩
  dsimp only at refused
  split at refused
  · cases refused
    exact ⟨_, rfl⟩
  split at refused
  · cases refused
    exact ⟨_, rfl⟩
  · cases refused

namespace Answers

variable {port : UInt32} {bytes : List UInt8} {place : Nat} {answer : Except ChannelError Message}

theorem accept {transport : SocketTransport} (whole : frameLength ≤ bytes.length)
    (more : List UInt8) :
    Answers transport.port (bytes ++ more) 0 (transport.accept (bytes.take frameLength)) := by
  have first : frameAt (bytes ++ more) 0 = bytes.take frameLength := by
    rw [frameAt, Nat.mul_zero, List.drop_zero, List.take_append_of_le_length whole]
  constructor
  · intro message _ decoded
    rw [SocketTransport.accept, ← first, decoded]
    exact if_neg (not_not.mpr rfl)
  · intro other message _ decoded differ
    rw [SocketTransport.accept, ← first, decoded]
    exact if_pos differ
  · intro error _ refused
    rw [SocketTransport.accept, ← first, refused]
    exact ⟨rfl, Message.decode_error refused⟩
  · intro short
    rw [List.length_append] at short
    omega

/-- What is answered after some frames, or after the end, is answered by the rest. -/
theorem skip {count : Nat}
    (answers : Answers port (bytes.drop (frameLength * count)) place answer) :
    Answers port bytes (count + place) answer := by
  have later : frameAt (bytes.drop (frameLength * count)) place =
      frameAt bytes (count + place) := by
    rw [frameAt, frameAt, List.drop_drop, ← Nat.mul_add]
  obtain ⟨heard, foreign, malformed, closed⟩ := answers
  rw [later, List.length_drop] at *
  have next : frameLength * (count + place + 1) =
      frameLength * count + frameLength * (place + 1) := by
    rw [Nat.add_assoc, Nat.mul_add]
  have positive : 0 < frameLength * (place + 1) := Nat.mul_pos (by decide) (Nat.succ_pos _)
  constructor
  · exact fun whole => heard (by omega)
  · exact fun whole => foreign (by omega)
  · exact fun whole => malformed (by omega)
  · exact fun short => closed (by omega)

theorem short (few : bytes.length < frameLength) : Answers port bytes 0 (.error .closed) := by
  have broken : ¬ frameLength * (0 + 1) ≤ bytes.length := Nat.not_le_of_lt few
  constructor
  · exact fun whole => absurd whole broken
  · exact fun whole => absurd whole broken
  · exact fun whole => absurd whole broken
  · exact fun _ => rfl

end Answers

namespace Inflow

/-- All that is sent to an end, on its way already or later on. -/
def total (flow : Inflow) (journal : Journal) : List UInt8 :=
  flow.bytes ++ if flow.ended then [] else journal.arrived

/-- What is not a receive leaves all that is sent as it is. -/
theorem total_undergo (flow : Inflow) (transport : SocketTransport) {incident : Incident}
    (other : ∀ wait, incident ≠ .receive wait) (journal : Journal) :
    flow.total ((incident, none) :: journal) =
      (flow.undergo transport incident).2.total journal := by
  cases incident with
  | arrive piece =>
    simp only [undergo, total, Journal.arrived]
    split <;> simp_all
  | shutdown | hangUp => simp [undergo, total, Journal.arrived]
  | receive wait => exact absurd rfl (other wait)

theorem total_drop {flow : Inflow} (whole : frameLength ≤ flow.bytes.length) (journal : Journal) :
    total ⟨flow.bytes.drop frameLength, flow.ended⟩ journal =
      (flow.total journal).drop frameLength := by
  rw [total, total, List.drop_append_of_le_length whole]

theorem total_ended {flow : Inflow} (ended : flow.ended = true) (journal : Journal) :
    flow.total journal = flow.bytes := by
  rw [total, if_pos ended, List.append_nil]

/-- The answers of a journal are the right ones to what was sent, and this is what they leave. -/
structure Serves (port : UInt32) (first : Inflow) (journal : Journal) (last : Inflow) : Prop where
  answers {place : Nat} {answer : Except ChannelError Message} :
    journal.answers[place]? = some answer → Answers port (first.total journal) place answer
  bytes : last.bytes = (first.total journal).drop (frameLength * journal.answers.length)
  ended : last.ended = (first.ended || journal.ended)

section Serves

variable {port : UInt32} {first middle last : Inflow} {journal : Journal} {incident : Incident}

theorem Serves.nil (flow : Inflow) : flow.Serves port [] flow where
  answers given := by cases given
  bytes := by simp [total, Journal.arrived, Journal.answers]
  ended := by simp [Journal.ended]

/-- Something that is not answered. -/
theorem Serves.quiet (serves : middle.Serves port journal last)
    (total : first.total ((incident, none) :: journal) = middle.total journal)
    (ended : middle.ended = (first.ended || incident.ends)) :
    first.Serves port ((incident, none) :: journal) last where
  answers given := by
    rw [total]
    exact serves.answers given
  bytes := by
    rw [total]
    exact serves.bytes
  ended := by
    rw [serves.ended, ended, Bool.or_assoc]
    rfl

/-- A receive that is answered takes what there is of a frame. -/
theorem Serves.answered (serves : middle.Serves port journal last) {wait : Wait}
    {answer : Except ChannelError Message}
    (right : Answers port (first.total ((.receive wait, some answer) :: journal)) 0 answer)
    (total : middle.total journal =
      (first.total ((.receive wait, some answer) :: journal)).drop frameLength)
    (ended : middle.ended = first.ended) :
    first.Serves port ((.receive wait, some answer) :: journal) last where
  answers {place} _ given := by
    cases place with
    | zero =>
      cases given
      exact right
    | succ place =>
      rw [Nat.add_comm]
      apply Answers.skip
      rw [Nat.mul_one, ← total]
      exact serves.answers given
  bytes := by
    rw [serves.bytes, total, List.drop_drop]
    congr 1
    change _ = frameLength * (journal.answers.length + 1)
    rw [Nat.mul_succ, Nat.add_comm]
  ended := by
    rw [serves.ended, ended]
    rfl

theorem Serves.receive {flow : Inflow} {transport : SocketTransport} {wait : Wait}
    (serves : (flow.receive transport wait).2.Serves transport.port journal last)
    (patient : ∀ waited, (flow.receive transport wait).1 ≠ some (.error (.timeout waited))) :
    flow.Serves transport.port ((.receive wait, (flow.receive transport wait).1) :: journal)
      last := by
  by_cases whole : frameLength ≤ flow.bytes.length
  · rw [receive_whole transport wait whole] at serves ⊢
    exact serves.answered (.accept whole _) (total_drop whole journal) rfl
  cases ended : flow.ended with
  | true =>
    rw [receive_closed transport wait whole ended] at serves ⊢
    refine serves.answered ?_ ?_ ended.symm
    · rw [total_ended ended]
      exact .short (Nat.lt_of_not_le whole)
    · rw [total_ended ended, List.drop_of_length_le (Nat.le_of_not_le whole)]
      rfl
  | false =>
    rw [receive_short transport wait whole ended] at serves patient ⊢
    cases wait with
    | unbounded => exact serves.quiet rfl (Bool.or_false _).symm
    | atMost limit => exact absurd rfl (patient _)

/-- As long as no wait runs out, every receive is answered rightly. -/
theorem serves_undergoAll (flow : Inflow) (transport : SocketTransport) (incidents : List Incident)
    (patient : ∀ waited,
      .error (.timeout waited) ∉ (flow.undergoAll transport incidents).1.answers) :
    flow.Serves transport.port (flow.undergoAll transport incidents).1
      (flow.undergoAll transport incidents).2 := by
  induction incidents generalizing flow with
  | nil => exact .nil flow
  | cons incident rest ih =>
    obtain ⟨now, later⟩ := Journal.patient_cons patient
    have serves := ih _ later
    cases incident with
    | arrive piece =>
      refine serves.quiet (total_undergo flow transport (by simp) _) ?_
      simp only [Incident.ends, Bool.or_false]
      split <;> rfl
    | shutdown | hangUp =>
      exact serves.quiet (total_undergo flow transport (by simp) _) (by simp [Incident.ends])
    | receive wait => exact serves.receive now

end Serves

/-- A receive that does not have to wait is answered by the frame it finds, or its lack. -/
theorem answers_receive (flow : Inflow) (transport : SocketTransport) (wait : Wait)
    (ready : frameLength ≤ flow.bytes.length ∨ flow.ended = true) :
    ∃ answer, (flow.receive transport wait).1 = some answer ∧
      Answers transport.port flow.bytes 0 answer := by
  by_cases whole : frameLength ≤ flow.bytes.length
  · have right : Answers transport.port (flow.bytes ++ []) 0 _ := .accept whole []
    rw [List.append_nil] at right
    rw [receive_whole transport wait whole]
    exact ⟨_, rfl, right⟩
  · rw [receive_closed transport wait whole (ready.resolve_left whole)]
    exact ⟨_, rfl, .short (Nat.lt_of_not_le whole)⟩

theorem map_undergoAll (flow : Inflow) (transport : SocketTransport) (incidents : List Incident) :
    (flow.undergoAll transport incidents).1.map (·.1) = incidents := by
  induction incidents generalizing flow with
  | nil => rfl
  | cons incident rest ih => exact congrArg (incident :: ·) (ih _)

end Inflow

/-- As long as no wait runs out, each receive at an end of a wire takes the next bytes of the length
of a frame out of all that were sent, and is answered by these alone: with the message in them, with
the port they name if it is not the transport's own, or with what is wrong with them. What was
refused counts as one that was heard. Once the other end has stopped and too few bytes are left, all
receives find the connection closed. -/
theorem frames_answered_alone {host after : Host} {wire : Wire} {number : Nat} {side : Side}
    {port : UInt32} {claim : Option PortClaim} {incidents : List Incident} {journal : Journal}
    (present : host.wires[number]? = some wire) (silent : wire.Brings side .nothing)
    (ran : (SocketTransport.undergoAll number side port claim incidents).run host =
      (journal, after))
    (patient : ∀ waited, .error (.timeout waited) ∉ journal.answers) :
    journal.map (·.1) = incidents ∧
      (∀ place answer, journal.answers[place]? = some answer →
        Answers port journal.arrived place answer) ∧
      after.Brings number side
        ⟨journal.arrived.drop (frameLength * journal.answers.length), journal.ended⟩ ∧
      ((frameLength * (journal.answers.length + 1) ≤ journal.arrived.length ∨
          journal.ended = true) → ∀ wait, ∃ answer,
        (((Transport.socket (.onEnd number side port claim)).receive wait).run after).1 =
            some answer ∧
          Answers port journal.arrived journal.answers.length answer) := by
  have brings : host.Brings number side .nothing := ⟨wire, present, silent⟩
  obtain ⟨last, found, brought⟩ := SocketTransport.undergoAll_brings port claim brings incidents
  obtain ⟨rfl, rfl⟩ := Prod.mk.inj (ran.symm.trans found)
  have serves := Inflow.serves_undergoAll _ _ _ patient
  have left : (Inflow.nothing.undergoAll (.onEnd number side port claim) incidents).2 = ⟨_, _⟩ :=
    congrArg₂ Inflow.mk serves.bytes serves.ended
  rw [left] at brought
  refine ⟨Inflow.map_undergoAll _ _ _, fun place answer given => serves.answers given, brought,
    fun enough wait => ?_⟩
  obtain ⟨_, received, _⟩ := SocketTransport.receive_brings port claim brought wait
  have ready := enough.imp_left fun whole => Nat.le_sub_of_add_le' (Nat.mul_succ _ _ ▸ whole)
  rw [← List.length_drop] at ready
  obtain ⟨answer, answered, right⟩ :=
    Inflow.answers_receive ⟨_, _⟩ (.onEnd number side port claim) wait ready
  rw [received]
  exact ⟨answer, answered, right.skip⟩

/-- A block that is no message, in two pieces, and one for another port cost what comes after them
nothing; of a message that was cut off nothing is heard. -/
theorem frames_answered_alone_small :
    let foreign := (Message.readDone 5).encode 8
    let good := (Message.readDone 6).encode 3
    let cut := ((Message.readDone 7).encode 3).take 10
    let journal : Journal :=
      [(.arrive (.replicate 20 255), none), (.receive .unbounded, none),
        (.arrive (.replicate 4 255 ++ foreign), none),
        (.receive .unbounded, some (.error (.malformed "unsupported frame version 255"))),
        (.arrive (good ++ cut), none),
        (.receive (.atMost ⟨1⟩), some (.error (.portMismatch 3 8))), (.shutdown, none),
        (.receive .unbounded, some (.ok (.readDone 6)))]
    ∃ after,
      (SocketTransport.undergoAll 0 .near 3 none (journal.map (·.1))).run
        { Host.fresh 1 0 .empty with wires := #[.fresh] } = (journal, after) ∧
      (∀ waited, .error (.timeout waited) ∉ journal.answers) ∧
      (((Transport.socket (.onEnd 0 .near 3 none)).receive .unbounded).run after).1 =
        some (.error .closed) := by
  intro foreign good cut journal
  let host : Host := { Host.fresh 1 0 .empty with wires := #[.fresh] }
  have present : host.wires[0]? = some .fresh := rfl
  have silent : Wire.fresh.Brings .near .nothing := .fresh .near
  have answered : (Inflow.nothing.undergoAll (.onEnd 0 .near 3 none) (journal.map (·.1))).1 =
      journal := by decide +kernel
  obtain ⟨after, ran, _⟩ := SocketTransport.undergoAll_brings 3 none ⟨_, present, silent⟩
    (journal.map (·.1))
  rw [answered] at ran
  have patient : ∀ waited, .error (.timeout waited) ∉ journal.answers := by
    simp [journal, Journal.answers]
  obtain ⟨_, _, _, next⟩ := frames_answered_alone present silent ran patient
  obtain ⟨answer, received, right⟩ := next (.inr rfl) .unbounded
  rw [right.closed (by decide)] at received
  exact ⟨after, ran, patient, received⟩

end ChunkRelay
