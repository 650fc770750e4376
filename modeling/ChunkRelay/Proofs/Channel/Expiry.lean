import ChunkRelay.Proofs.Channel.Delivery
import ChunkRelay.Proofs.Channel.Framing

/-! What a wait costs that runs out. On an in-process link it costs nothing. On
a socket the part of a frame that is there is thrown away, so that what comes of
the rest is read as if a frame began with it; nothing is lost, and all is heard
in order, as long as every such wait ends between two frames. -/

set_option autoImplicit false

namespace ChunkRelay

/-!
## Links
-/

/-- A wait that runs out at an end of a link leaves everything as it was. -/
theorem Transport.receive_link_expired {index : Nat} {side : Side} {host after : Host} {wait : Wait}
    {waited : Duration}
    (ran : ((link index side).receive wait).run host =
      (some (.error (.timeout waited)), after)) : after = host := by
  obtain ⟨middle, polled, _⟩ := poll_link index side host
  unfold receive at ran
  cases found : (host.hub.receive index side).1 with
  | some answer =>
    rw [found] at polled
    rw [HostM.run_bind_eq polled] at ran
    cases ran
    cases Hub.receive_error found
  | none =>
    have idle : (link index side).poll.run host = (none, host) := by
      simp only [poll]
      rw [HostM.run_get_bind, show host.hub.receive index side = (none, host.hub) from
        Prod.ext found (Hub.receive_none found)]
      rfl
    rw [HostM.run_bind_eq idle] at ran
    cases wait <;> cases ran
    rfl

theorem Connection.On.receive_expired {connection next : Connection} {index : Nat} {ends : Link}
    {host after : Host} (on : connection.On index ends host) {side : Side} {wait : Wait}
    {waited : Duration}
    (ran : (connection.answer (.receive side wait)).run host =
      ((.received (some (.error (.timeout waited))), next), after)) :
    next = connection ∧ after = host := by
  have there := on.there side
  split at there
  · rw [answer_absent there] at ran
    cases ran
  · rcases found : ((Transport.link index side).receive wait).run host with ⟨answer, last⟩
    rw [Connection.answer, show connection.atSide (Call.receive side wait).side = _ from there]
      at ran
    cases (HostM.run_bind_eq found).symm.trans ran
    exact ⟨rfl, Transport.receive_link_expired found⟩

/-!
## Sockets
-/

/-- The messages that the receives returned. -/
def Journal.heard (journal : Journal) : List Message :=
  journal.answers.filterMap Except.toOption

theorem Journal.heard_cons (entry : Incident × Option (Except ChannelError Message))
    (journal : Journal) : heard (entry :: journal) = heard [entry] ++ heard journal := by
  rw [heard, heard, heard, ← List.filterMap_append]
  exact congrArg _ (List.filterMap_append (l := [entry]))

theorem SocketTransport.accept_error {transport : SocketTransport} {frame : List UInt8}
    {error : ChannelError} (refused : transport.accept frame = .error error) :
    ∀ waited, error ≠ .timeout waited := by
  rintro waited rfl
  unfold accept at refused
  cases decoded : Message.decode frame with
  | error error =>
    obtain ⟨what, rfl⟩ := Message.decode_error decoded
    rw [decoded] at refused
    cases refused
  | ok decoding =>
    obtain ⟨port, message⟩ := decoding
    rw [decoded] at refused
    by_cases other : port ≠ transport.port
    · cases (if_pos other).symm.trans refused
    · cases (if_neg other).symm.trans refused

namespace Inflow

/-- A receive whose wait runs out has found neither a frame nor the end. -/
theorem receive_expired {flow : Inflow} {transport : SocketTransport} {wait : Wait}
    {waited : Duration}
    (expired : (flow.receive transport wait).1 = some (.error (.timeout waited))) :
    flow.bytes.length < frameLength ∧ flow.ended = false ∧
      (flow.receive transport wait).2 = .nothing := by
  by_cases whole : frameLength ≤ flow.bytes.length
  · rw [receive_whole transport wait whole] at expired
    exact absurd rfl (SocketTransport.accept_error (Option.some.inj expired) waited)
  cases ended : flow.ended with
  | true =>
    rw [receive_closed transport wait whole ended] at expired
    cases expired
  | false =>
    rw [receive_short transport wait whole ended] at expired ⊢
    cases wait with
    | unbounded => cases expired
    | atMost limit => exact ⟨Nat.lt_of_not_le whole, rfl, rfl⟩

/-- Every wait that ran out did so when all that had been sent were whole frames. -/
def Paced (flow : Inflow) (journal : Journal) : Prop :=
  flow.ended = false → ∀ (past : Journal) wait waited,
    past ++ [(.receive wait, some (.error (.timeout waited)))] <+: journal →
      frameLength ∣ flow.bytes.length + past.arrived.length

section Paced

variable {flow : Inflow} {transport : SocketTransport} {incident : Incident} {journal : Journal}

/-- A wait that runs out between two frames changes nothing, nor does one that goes on. -/
theorem Paced.waits {wait : Wait}
    (paced : flow.Paced ((.receive wait, (flow.receive transport wait).1) :: journal))
    (short : ¬ frameLength ≤ flow.bytes.length) (waiting : flow.ended = false) :
    (flow.receive transport wait).2 = flow ∧
      Journal.heard [(.receive wait, (flow.receive transport wait).1)] = [] := by
  rw [receive_short transport wait short waiting] at paced ⊢
  cases wait with
  | unbounded => exact ⟨rfl, rfl⟩
  | atMost limit =>
    have frames : frameLength ∣ flow.bytes.length :=
      paced waiting [] (.atMost limit) _ (List.prefix_append [_] journal)
    have nothing : flow.bytes = [] :=
      List.length_eq_zero_iff.mp (Nat.eq_zero_of_dvd_of_lt frames (Nat.lt_of_not_le short))
    rw [← nothing, ← waiting]
    exact ⟨rfl, rfl⟩

theorem Paced.next
    (paced : flow.Paced ((incident, (flow.undergo transport incident).1) :: journal)) :
    (flow.undergo transport incident).2.Paced journal := by
  intro going past wait waited first
  have later : flow.ended = false → _ := fun waiting =>
    paced waiting (_ :: past) wait waited (List.cons_prefix_cons.mpr ⟨rfl, first⟩)
  cases incident with
  | arrive piece =>
    cases ended : flow.ended with
    | true => simp [undergo, ended] at going
    | false => simpa [undergo, ended, Journal.arrived, Nat.add_assoc] using later ended
  | shutdown | hangUp => cases going
  | receive wait =>
    simp only [undergo] at paced going ⊢
    by_cases whole : frameLength ≤ flow.bytes.length
    · rw [receive_whole transport wait whole] at going ⊢
      rw [List.length_drop, ← Nat.sub_add_comm whole]
      exact Nat.dvd_sub (later going) (Nat.dvd_refl frameLength)
    cases ended : flow.ended with
    | true =>
      rw [receive_closed transport wait whole ended] at going
      cases going
    | false =>
      rw [(paced.waits whole ended).1]
      exact later ended

/-- What is heard is the first of the messages in what is sent, and the rest carries the others. -/
theorem Paced.sent (paced : flow.Paced ((incident, (flow.undergo transport incident).1) :: journal))
    {messages : List Message}
    (sent : flow.total ((incident, (flow.undergo transport incident).1) :: journal) <+:
      frames transport.port messages) :
    ∃ rest, messages =
        Journal.heard [(incident, (flow.undergo transport incident).1)] ++ rest ∧
      (flow.undergo transport incident).2.total journal <+: frames transport.port rest := by
  cases incident with
  | arrive _ | shutdown | hangUp =>
    refine ⟨messages, rfl, ?_⟩
    rw [← total_undergo flow transport (by simp)]
    exact sent
  | receive wait =>
    simp only [undergo] at paced sent ⊢
    by_cases whole : frameLength ≤ flow.bytes.length
    · obtain ⟨unsent, sent⟩ := sent
      replace sent : flow.total journal ++ unsent = frames transport.port messages := sent
      have enough : frameLength ≤ (flow.total journal).length := by
        rw [total, List.length_append]
        exact Nat.le_add_right_of_le whole
      cases messages with
      | nil =>
        rw [List.append_eq_nil_iff.mp sent |>.1] at enough
        exact absurd enough (by decide)
      | cons message rest =>
        have frame : flow.bytes.take frameLength = message.encode transport.port := by
          rw [← take_frames transport.port message rest, ← sent,
            List.take_append_of_le_length enough, total, List.take_append_of_le_length whole]
        rw [receive_whole transport wait whole, frame, transport.accept_encode message,
          total_drop whole]
        refine ⟨rest, rfl, unsent, ?_⟩
        rw [← List.drop_append_of_le_length enough, sent, drop_frames]
    cases ended : flow.ended with
    | true =>
      rw [receive_closed transport wait whole ended]
      exact ⟨messages, rfl, List.nil_prefix⟩
    | false =>
      obtain ⟨same, silent⟩ := paced.waits whole ended
      rw [same, silent]
      exact ⟨messages, rfl, sent⟩

end Paced

/-- As long as every wait that runs out does so between two frames, the messages that are sent are
heard in order. -/
theorem heard_undergoAll {flow : Inflow} {transport : SocketTransport} {incidents : List Incident}
    {messages : List Message}
    (sent : flow.total (flow.undergoAll transport incidents).1 <+: frames transport.port messages)
    (paced : flow.Paced (flow.undergoAll transport incidents).1) :
    (flow.undergoAll transport incidents).1.heard <+: messages := by
  induction incidents generalizing flow messages with
  | nil => exact List.nil_prefix
  | cons incident rest ih =>
    obtain ⟨others, rfl, later⟩ := paced.sent sent
    have heard : (flow.undergoAll transport (incident :: rest)).1.heard = _ ++ _ :=
      Journal.heard_cons _ _
    rw [heard]
    exact (List.prefix_append_right_inj _).mpr (ih later paced.next)

end Inflow

/-- A wait that runs out on a socket finds a part of a frame, or nothing, and throws it away. -/
theorem SocketTransport.receive_expired {number : Nat} {side : Side} {port : UInt32}
    {claim : Option PortClaim} {host after : Host} {flow : Inflow} {wait : Wait}
    {waited : Duration} (brings : host.Brings number side flow)
    (ran : ((Transport.socket (onEnd number side port claim)).receive wait).run host =
      (some (.error (.timeout waited)), after)) :
    flow.ended = false ∧ flow.bytes.length < frameLength ∧ after.Brings number side .nothing ∧
      (after = host ↔ flow.bytes = []) := by
  obtain ⟨last, received, brought⟩ := receive_brings port claim brings wait
  obtain ⟨expired, rfl⟩ := Prod.mk.inj (received.symm.trans ran)
  obtain ⟨short, waiting, left⟩ := Inflow.receive_expired expired
  rw [left] at brought
  refine ⟨waiting, short, brought, ?_, ?_⟩
  · rintro rfl
    obtain ⟨wire, present, brings⟩ := brings
    obtain ⟨same, found, emptied⟩ := brought
    cases present.symm.trans found
    rw [← brings.inbox, emptied.inbox]
    rfl
  · intro empty
    obtain ⟨wire, present, brings⟩ := brings
    have read := brings.read_short (Nat.not_le_of_lt short) waiting
    have same : wire.discard side = wire := by
      rw [← brings.inbox] at empty
      rw [Wire.discard, ← empty]
      cases side <;> rfl
    have idle : (Transport.socket (onEnd number side port claim)).poll.run host = (none, host) := by
      simp only [Transport.poll, poll, onEnd]
      rw [HostM.run_bind_eq (changeWire_eq present _), read, setIfInBounds_eq_self present]
      rfl
    unfold Transport.receive at ran
    rw [HostM.run_bind_eq idle] at ran
    cases wait with
    | unbounded => cases ran
    | atMost limit =>
      cases (HostM.run_bind_eq (expire_onEnd claim present limit)).symm.trans ran
      rw [same, setIfInBounds_eq_self present]

/-- On an in-process link a wait that runs out changes nothing, and each end hears the messages of
the other one in order. On a socket such a wait throws away what is there, a part of a frame or
nothing. If all of them end between two frames, the messages that are sent are heard in order here
too. -/
theorem waits_lose_parts_of_frames {host parted after : Host} {index number : Nat} {id : ChannelId}
    {calls : List Call} {log : Log} {connection : Connection} {wire : Wire} {side : Side}
    {port : UInt32} {claim : Option PortClaim} {incidents : List Incident} {journal : Journal}
    (fresh : host.hub.links[index]? = some (.fresh id))
    (talked : ((Connection.onLink index).talk calls).run host = ((log, connection), parted))
    (present : host.wires[number]? = some wire) (silent : wire.Brings side .nothing)
    (ran : (SocketTransport.undergoAll number side port claim incidents).run host =
      (journal, after)) :
    (∀ side, log.heard side <+: log.said side.other ∧
      ∀ wait waited next later,
        (connection.answer (.receive side wait)).run parted =
            ((.received (some (.error (.timeout waited))), next), later) →
          next = connection ∧ later = parted) ∧
      (∃ flow, after.Brings number side flow ∧
        ∀ wait waited later,
          ((Transport.socket (.onEnd number side port claim)).receive wait).run after =
              (some (.error (.timeout waited)), later) →
            flow.ended = false ∧ flow.bytes.length < frameLength ∧
              later.Brings number side .nothing ∧ (later = after ↔ flow.bytes = [])) ∧
      ∀ messages, journal.arrived <+: frames port messages →
        (∀ (past : Journal) wait waited,
          past ++ [(.receive wait, some (.error (.timeout waited)))] <+: journal →
            frameLength ∣ past.arrived.length) →
        journal.heard <+: messages := by
  refine ⟨fun side => ?onLink, ?onSocket⟩
  case onLink =>
    obtain ⟨_, _, found, on, _⟩ := (Connection.On.fresh fresh).talk calls
    cases talked.symm.trans found
    obtain ⟨rest, said, _⟩ := ((Link.Tells.fresh id).talk calls).queue side
    exact ⟨⟨rest, said.symm⟩, fun wait waited next later expired => on.receive_expired expired⟩
  case onSocket =>
    have brings : host.Brings number side .nothing := ⟨wire, present, silent⟩
    obtain ⟨_, found, brought⟩ := SocketTransport.undergoAll_brings port claim brings incidents
    cases ran.symm.trans found
    refine ⟨⟨_, brought, fun wait waited later expired =>
      SocketTransport.receive_expired brought expired⟩, ?_⟩
    intro messages sent between
    refine Inflow.heard_undergoAll sent fun _ past wait waited first => ?_
    rw [show Inflow.nothing.bytes.length = 0 from rfl, Nat.zero_add]
    exact between past wait waited first

/-- A message sent in two pieces is heard if the wait that runs out comes before the first one. -/
theorem waits_lose_parts_of_frames_small :
    let frame := (Message.dataReady 64 5).encode 3
    let journal : Journal :=
      [(.receive (.atMost ⟨5⟩), some (.error (.timeout ⟨1000000⟩))),
        (.arrive (frame.take 10), none), (.receive .unbounded, none),
        (.arrive (frame.drop 10), none),
        (.receive (.atMost ⟨5⟩), some (.ok (.dataReady 64 5)))]
    let log : Log :=
      [(.receive .near (.atMost ⟨5⟩), .received (some (.error (.timeout ⟨5⟩)))),
        (.send .far (.readDone 5), .sent (.ok ())),
        (.receive .near (.atMost ⟨5⟩), .received (some (.ok (.readDone 5))))]
    let host : Host :=
      { Host.fresh 1 0 .empty with hub := (Hub.empty.join ⟨7, 0⟩).2, wires := #[.fresh] }
    (((Connection.onLink 0).talk (log.map (·.1))).run host).1.1 = log ∧
      log.heard .near <+: log.said .far ∧
      ((SocketTransport.undergoAll 0 .near 3 none (journal.map (·.1))).run host).1 = journal ∧
      journal.heard <+: [.dataReady 64 5, .readDone 6] := by
  intro frame journal log host
  have fresh : host.hub.links[0]? = some (.fresh ⟨7, 0⟩) := rfl
  have present : host.wires[0]? = some .fresh := rfl
  have silent : Wire.fresh.Brings .near .nothing := .fresh .near
  have logged : ((Link.fresh ⟨7, 0⟩).talk (log.map (·.1))).1 = log := rfl
  have answered : (Inflow.nothing.undergoAll (.onEnd 0 .near 3 none) (journal.map (·.1))).1 =
      journal := by decide +kernel
  obtain ⟨connection, parted, talked, _⟩ := (Connection.On.fresh fresh).talk (log.map (·.1))
  obtain ⟨after, ran, _⟩ := SocketTransport.undergoAll_brings 3 none ⟨_, present, silent⟩
    (journal.map (·.1))
  rw [logged] at talked
  rw [answered] at ran
  obtain ⟨onLink, _, onSocket⟩ :=
    waits_lose_parts_of_frames fresh talked present silent ran
  refine ⟨by rw [talked], (onLink .near).1, by rw [ran], onSocket _ (by decide) ?_⟩
  intro past wait waited first
  cases past with
  | nil => exact Nat.dvd_zero frameLength
  | cons entry past =>
    obtain ⟨_, others⟩ := List.cons_prefix_cons.mp first
    have expired := others.subset (List.mem_append_right _ List.mem_cons_self)
    simp at expired

/-- A wait that runs out in the middle of a message has taken its first half: what is heard next was
never sent. -/
theorem waits_in_frames_lose_messages :
    let messages : List Message := [.dataReady 0x0000010100000000 0, .readDone 7]
    let bytes := frames 0 messages
    let journal : Journal :=
      [(.arrive (bytes.take 12), none),
        (.receive (.atMost ⟨20000000⟩), some (.error (.timeout ⟨20000000⟩))),
        (.arrive (bytes.drop 12), none),
        (.receive (.atMost ⟨20000000⟩),
          some (.ok (.dataReady 0x0000010200000000 0x0000000700000000)))]
    ((SocketTransport.undergoAll 0 .near 0 none (journal.map (·.1))).run
        { Host.fresh 1 0 .empty with wires := #[.fresh] }).1 = journal ∧
      journal.arrived = frames 0 messages ∧ ¬ journal.heard <+: messages := by
  intro messages bytes journal
  have present : ({ Host.fresh 1 0 .empty with wires := #[.fresh] } : Host).wires[0]? =
      some .fresh := rfl
  have answered : (Inflow.nothing.undergoAll (.onEnd 0 .near 0 none) (journal.map (·.1))).1 =
      journal := by decide +kernel
  obtain ⟨after, ran, _⟩ :=
    SocketTransport.undergoAll_brings 0 none ⟨_, present, .fresh .near⟩ (journal.map (·.1))
  rw [ran, answered]
  exact ⟨rfl, by decide +kernel, by decide +kernel⟩

end ChunkRelay
