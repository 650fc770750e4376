import ChunkRelay.Proofs.Exchange.Delivery
import ChunkRelay.Proofs.Exchange.Schedule

/-! A session and the service at the other end of its link take turns until the
session is over. Their turns are a run of a meeting, so they come to what a
meeting comes to, whatever the order of its moves. -/

set_option autoImplicit false

namespace ChunkRelay

theorem TransferState.failed_of_isTerminal {state : TransferState}
    (terminal : state.isTerminal = true) (incomplete : state ≠ .completed) : state = .failed := by
  cases state with
  | failed => rfl
  | completed => exact absurd rfl incomplete
  | idle | transferring => cases terminal

/-!
## A session that sends
-/

namespace Sending

variable {arena : Arena} {course : Course} {number : Nat} {sender : Sender} {sink : Sink}
  {bus : Bus} {files : FileTree} {ends : Link} {meeting : Meeting} {pair : Pair} {host : Host}

/-- A sender does not count more chunks than there are bytes. -/
theorem chunks_le {quiet : Prop} (fits : arena.SendingFits)
    (sending : Sending arena quiet course number sender sink bus files ends meeting) :
    meeting.engine.progress.chunks ≤ arena.data.length := by
  rw [sending.engine, Engine.progress, sending.sent]
  exact Nat.le_trans sending.handover.reached (Terms.count_le fits.positive)

/-- A sender and a sink never both wait. -/
theorem not_stalls (fits : arena.SendingFits)
    (sending : Sending arena True course number sender sink bus files ends meeting)
    (shows : pair.Shows arena.link meeting host) : ¬ pair.Stalls host := by
  intro stalls
  have settled := shows.settled_of_stalls stalls
  by_cases room : (arena.sending.slice 0).length ≤ arena.most
  · have finished := sending.finished_of_settled fits room settled
    have completed := sending.completed.mpr (sending.handover.done_of_finished finished)
    have running := stalls.running
    rw [Session.isOver, shows.engine, completed] at running
    cases running
  · have failed := sending.failed_of_settled fits (Nat.lt_of_not_le room) settled
    have running := shows.outcome_of_stalls stalls sending.scene sending.far
    cases running.symm.trans (sending.outcome_of_failed failed)

end Sending

namespace Setup

/-- A session that sends, and a service that takes what it sends. -/
def sendingPair (setup : Setup) (config : SessionConfig) (channel : Channel) : Pair where
  session :=
    { config
      channel
      buffer := setup.buffer
      engine := .fresh .sender
      station := .ofEngine setup.buffer (some (.link setup.link .near)) setup.wait setup.reader
        .discard }
  service := .onTransport
    { mode := .sink
      capacity := setup.most
      wait := setup.remoteWait
      memory := .throughBus
      reader := .empty
      writer := setup.writer } (.link setup.link .far)

theorem sendingPair_leads (setup : Setup) (config : SessionConfig) (channel : Channel) :
    setup.sending.Leads setup.link (setup.sendingPair config channel) setup.host :=
  Pair.Shows.leads
    { like := .refl setup.host
      buffer := rfl
      engine := rfl
      own := rfl
      linked := rfl
      service := ⟨rfl, rfl, rfl, rfl, rfl⟩ }

end Setup

/-- They take turns until the session is over, and stand then where the meeting leads. -/
theorem Setup.Arranged.sending_over {setup : Setup} {before : Host} {capacity : Nat}
    {data : List UInt8} (arranged : setup.Arranged before capacity data)
    (unfailing : setup.reader.Unfailing) (accepting : setup.writer.Accepting)
    {config : SessionConfig} {channel : Channel} {final : Pair} {after : Host}
    (ran : (setup.sendingPair config channel).run.run setup.host = (final, after)) :
    setup.sending.Leads setup.link final after ∧ final.session.isOver = true := by
  have fits := arranged.sendingFits
  have supplied : data.length ≤ (setup.sendingPair config channel).matter setup.host :=
    Nat.le_trans arranged.delivers.length_le
      (Nat.le_trans (Nat.le_add_right _ _) (Nat.le_add_right _ _))
  refine (setup.sendingPair_leads config channel).run_ends ?_ supplied ran
  intro pair host ⟨moves, meeting, patient, led, shows⟩
  obtain ⟨_, _, _, _, _, _, _, sending⟩ := arranged.sending_run unfailing accepting patient led
  rw [shows.engine]
  exact ⟨sending.not_stalls fits shows, sending.chunks_le fits⟩

/-- A session that sends and a service that takes act in turns until the session is over. If the
sink has room for the first slice, the session has ended well then, and so has the service once it
was let act again, with all data delivered; otherwise the service has left and refused it. -/
theorem sender_and_sink_take_turns {setup : Setup} {before : Host} {capacity : Nat}
    {data : List UInt8} (arranged : setup.Arranged before capacity data)
    (unfailing : setup.reader.Unfailing) (accepting : setup.writer.Accepting)
    {config : SessionConfig} {channel : Channel} {final : Pair} {after : Host}
    (ran : (setup.sendingPair config channel).run.run setup.host = (final, after)) :
    final.session.isOver = true ∧
      (min capacity data.length ≤ setup.most →
        final.session.engine.result = .ok ⟨.sender, .completed,
            ⟨data.length, (data.length + capacity - 1) / capacity⟩⟩ ∧
          ∀ {served : Bool} {service : Service} {late : Host},
            final.service.advance.run after = ((served, service), late) →
              ∃ writer, service = .finished (.ok (.sink,
                  ⟨data.length, (data.length + capacity - 1) / capacity⟩)) writer ∧
                writer.kept late.files = data) ∧
      (setup.most < min capacity data.length →
        final.session.engine.state = .failed ∧
          ∃ writer, final.service = .finished (.error
              (.protocol (.oversizedChunk (min capacity data.length) setup.most))) writer ∧
            writer.kept after.files = []) := by
  have fits := arranged.sendingFits
  have first : ((setup.arena before capacity data).sending.slice 0).length =
      min capacity data.length := by
    rw [Terms.length_slice, Nat.zero_mul]
    rfl
  obtain ⟨⟨moves, meeting, patient, led, shows⟩, finished⟩ :=
    arranged.sending_over unfailing accepting ran
  obtain ⟨course, number, sender, sink, bus, files, link, sending⟩ :=
    arranged.sending_run unfailing accepting patient led
  have stopped : sender.phase.giver.Stopped := by
    refine sending.stopped_of_terminal ?_
    rw [← shows.engine]
    exact finished
  refine ⟨finished, fun room => ?_, fun large => ?_⟩
  · rw [← first] at room
    have fine : ¬ (setup.arena before capacity data).SendingUpset True := fun wrong =>
      Nat.not_le_of_lt (wrong trivial) room
    have done := stopped.resolve_right (mt sending.handover.upset_of_giver fine)
    refine ⟨(congrArg Engine.result shows.engine).trans (sending.result_of_done fits done), ?_⟩
    intro served service late acted
    obtain ⟨more, last, patient, led, now⟩ := (shows.service_advance acted).after patient led
    obtain ⟨_, _, _, _, _, _, _, sending⟩ := arranged.sending_run unfailing accepting patient led
    have settled := now.settled_of_advance finished shows.connected acted
    have through := sending.through fits (sending.finished_of_settled fits room settled)
    exact ⟨_, (now.left through.2.1).1, now.like.files ▸ through.2.2.1⟩
  · rw [← first] at large ⊢
    obtain ⟨kept, incomplete⟩ := sending.nothing_taken large
    have failed := stopped.resolve_left (mt sending.completed.mpr incomplete)
    have refused := sending.outcome_of_failed ((sending.blame trivial).1 failed)
    rw [← shows.engine] at incomplete
    refine ⟨TransferState.failed_of_isTerminal finished incomplete, meeting.remote.writer,
      (shows.left refused).1, ?_⟩
    rw [shows.like.files]
    exact kept

/-!
## A session that receives
-/

namespace Receiving

variable {arena : Arena} {course : Course} {number : Nat} {introduced : Bool}
  {receiver : Receiver} {source : Source} {bus : Bus} {files : FileTree} {ends : Link}
  {talk : List (Side × Message)} {meeting : Meeting} {pair : Pair} {host : Host}

/-- A receiver does not count more chunks than there are bytes. -/
theorem chunks_le {quiet : Prop} (fits : arena.ReceivingFits)
    (receiving : Receiving arena quiet course number introduced receiver source bus files ends talk
      meeting) : meeting.engine.progress.chunks ≤ arena.data.length := by
  rw [receiving.engine, Engine.progress, receiving.taken]
  exact Nat.le_trans (receiving.handover.counted_le fits.positive) (Terms.count_le fits.positive)

/-- A receiver and a source never both wait. -/
theorem not_stalls (fits : arena.ReceivingFits)
    (receiving : Receiving arena True course number introduced receiver source bus files ends talk
      meeting) (shows : pair.Shows arena.link meeting host) : ¬ pair.Stalls host := by
  intro stalls
  have settled := shows.settled_of_stalls stalls
  by_cases room : (arena.receiving.slice 0).length ≤ arena.room
  · have finished := receiving.finished_of_settled fits room settled
    have running := stalls.running
    rw [Session.isOver, shows.engine, receiving.completed.mpr finished] at running
    cases running
  · have failed := receiving.failed_of_settled fits (Nat.lt_of_not_le room) settled
    have running := shows.outcome_of_stalls stalls receiving.scene receiving.far
    cases running.symm.trans (receiving.outcome_of_failed failed)

end Receiving

namespace Setup

/-- A session that receives, and a service that sends to it. -/
def receivingPair (setup : Setup) (config : SessionConfig) (channel : Channel) : Pair where
  session :=
    { config
      channel
      buffer := setup.buffer
      engine := .fresh .receiver
      station := .ofEngine setup.buffer (some (.link setup.link .near)) setup.wait .empty
        setup.writer }
  service := .onTransport
    { mode := .source
      capacity := setup.most
      wait := setup.remoteWait
      memory := .throughBus
      reader := setup.reader
      writer := .discard } (.link setup.link .far)

theorem receivingPair_leads (setup : Setup) (config : SessionConfig) (channel : Channel) :
    setup.receiving.Leads setup.link (setup.receivingPair config channel) setup.host :=
  Pair.Shows.leads
    { like := .refl setup.host
      buffer := rfl
      engine := rfl
      own := rfl
      linked := rfl
      service := ⟨rfl, rfl, rfl, rfl, rfl⟩ }

end Setup

/-- They take turns until the session is over, and stand then where the meeting leads. -/
theorem Setup.Arranged.receiving_over {setup : Setup} {before : Host} {capacity : Nat}
    {data : List UInt8} (arranged : setup.Arranged before capacity data)
    (positive : setup.most ≠ 0) (unfailing : setup.reader.Unfailing)
    (accepting : setup.writer.Accepting) {config : SessionConfig} {channel : Channel}
    {final : Pair} {after : Host}
    (ran : (setup.receivingPair config channel).run.run setup.host = (final, after)) :
    setup.receiving.Leads setup.link final after ∧ final.session.isOver = true := by
  have fits := arranged.receivingFits positive
  have supplied : data.length ≤ (setup.receivingPair config channel).matter setup.host :=
    Nat.le_trans arranged.delivers.length_le
      (Nat.le_trans (Nat.le_add_left _ _) (Nat.le_add_right _ _))
  refine (setup.receivingPair_leads config channel).run_ends ?_ supplied ran
  intro pair host ⟨moves, meeting, patient, led, shows⟩
  obtain ⟨_, _, _, _, _, _, _, _, _, receiving⟩ :=
    arranged.receiving_run positive unfailing accepting patient led
  rw [shows.engine]
  exact ⟨receiving.not_stalls fits shows, receiving.chunks_le fits⟩

/-- A session that receives and a service that sends to it act in turns until the session is over.
If the buffer has room for the first slice, both have ended well then, with all data delivered;
otherwise the service has left because it could not place it. -/
theorem receiver_and_source_take_turns {setup : Setup} {before : Host} {capacity : Nat}
    {data : List UInt8} (arranged : setup.Arranged before capacity data)
    (positive : setup.most ≠ 0) (unfailing : setup.reader.Unfailing)
    (accepting : setup.writer.Accepting) {config : SessionConfig} {channel : Channel}
    {final : Pair} {after : Host}
    (ran : (setup.receivingPair config channel).run.run setup.host = (final, after)) :
    final.session.isOver = true ∧
      (min setup.most data.length ≤ capacity →
        final.session.engine.result = .ok ⟨.receiver, .completed,
            ⟨data.length, (data.length + setup.most - 1) / setup.most⟩⟩ ∧
          final.session.station.writer.kept after.files = data ∧
          ∃ writer, final.service = .finished (.ok (.source,
            ⟨data.length, (data.length + setup.most - 1) / setup.most⟩)) writer) ∧
      (capacity < min setup.most data.length →
        final.session.engine.state = .failed ∧
          final.session.station.writer.kept after.files = [] ∧
          ∃ writer, final.service = .finished (.error (.allocation
            (.unmapped setup.buffer.address (min setup.most data.length)))) writer) := by
  have fits := arranged.receivingFits positive
  have first : ((setup.arena before capacity data).receiving.slice 0).length =
      min setup.most data.length := by
    rw [Terms.length_slice, Nat.zero_mul]
    rfl
  obtain ⟨⟨moves, meeting, patient, led, shows⟩, finished⟩ :=
    arranged.receiving_over positive unfailing accepting ran
  obtain ⟨course, number, introduced, receiver, source, bus, files, link, talk, receiving⟩ :=
    arranged.receiving_run positive unfailing accepting patient led
  have stopped : receiver.phase.taker.Stopped := by
    refine receiving.stopped_of_terminal ?_
    rw [← shows.engine]
    exact finished
  refine ⟨finished, fun room => ?_, fun large => ?_⟩
  · rw [← first] at room
    have fine : ¬ (setup.arena before capacity data).ReceivingUpset True := fun wrong =>
      Nat.not_le_of_lt (wrong trivial) room
    have taken := stopped.resolve_right (mt receiving.handover.upset_of_taker fine)
    obtain ⟨result, outcome, kept, _⟩ := receiving.through fits taken
    rw [shows.engine, shows.own, shows.like.files]
    exact ⟨result, kept, meeting.remote.writer, (shows.left outcome).1⟩
  · rw [← first] at large ⊢
    obtain ⟨kept, incomplete⟩ := receiving.nothing_taken large
    have failed := stopped.resolve_left (mt receiving.completed.mpr incomplete)
    have refused := receiving.outcome_of_failed ((receiving.blame trivial).1 failed)
    rw [← shows.engine] at incomplete
    rw [shows.own, shows.like.files, arranged.address_eq]
    exact ⟨TransferState.failed_of_isTerminal finished incomplete, kept, meeting.remote.writer,
      (shows.left refused).1⟩

end ChunkRelay
