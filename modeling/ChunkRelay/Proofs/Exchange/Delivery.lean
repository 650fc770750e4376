import ChunkRelay.Proofs.Exchange.Bound
import ChunkRelay.Proofs.Exchange.Setup
import ChunkRelay.Session.Report

/-! What comes of a meeting with quiet surroundings, whatever the order of its
moves. It ends after a bounded number of moves. If the taking party has room for
the slices, both parties end well with all data delivered; otherwise the first
slice is refused and nothing is delivered at all. -/

set_option autoImplicit false

namespace ChunkRelay

/-- Three moves of a meeting are acts of neither party. -/
theorem Meeting.rank_le (meeting : Meeting) :
    meeting.rank ≤ meeting.engine.rank + meeting.peer.rank + 3 := by
  unfold rank
  split <;> split <;> split <;> omega

/-!
## A sender and a sink
-/

namespace Sending

variable {arena : Arena} {course : Course} {number : Nat} {sender : Sender} {sink : Sink}
  {bus : Bus} {files : FileTree} {ends : Link} {meeting : Meeting}

theorem rank_le {quiet : Prop} (fits : arena.SendingFits)
    (sending : Sending arena quiet course number sender sink bus files ends meeting) :
    meeting.rank ≤ 8 * arena.sending.count + 11 := by
  have whole := meeting.rank_le
  have near := sender.rank_le
  have far := sink.rank_le
  have sent := sending.handover.reached
  have taken := sending.handover.counted_le fits.positive
  rw [sending.engine, sending.peer] at whole
  rw [sending.sent] at near
  rw [sending.taken] at far
  dsimp only [Engine.rank, Peer.rank] at whole near far
  omega

/-- Where the parties are when neither can act. -/
theorem at_rest {quiet : Prop} (fits : arena.SendingFits)
    (sending : Sending arena quiet course number sender sink bus files ends meeting)
    (settled : meeting.Settled) :
    (sender.phase.giver.Stopped ∨ sender.phase.giver = .waiting ∧ ends.near.inbox = []) ∧
      (sink.phase.taker.Stopped ∨ sink.phase.taker = .listening ∧ ends.far.inbox = []) := by
  constructor
  · rcases sending.act_near fits with ⟨_, rests⟩ | ⟨_, acted, _⟩
    · exact rests
    · cases (settled .near).symm.trans acted
  · rcases sending.act_far with ⟨_, rests⟩ | ⟨_, acted, _⟩
    · exact rests
    · cases (settled .far).symm.trans acted

/-- If the sink has room for the slices, a meeting only settles when it is through. -/
theorem finished_of_settled (fits : arena.SendingFits)
    (sending : Sending arena True course number sender sink bus files ends meeting)
    (room : (arena.sending.slice 0).length ≤ arena.most) (settled : meeting.Settled) :
    sink.phase.taker = .finished := by
  have fine : ¬ arena.SendingUpset True := fun wrong => Nat.not_le_of_lt (wrong trivial) room
  have giver : sender.phase.giver ≠ .failed := mt sending.handover.upset_of_giver fine
  have taker : sink.phase.taker ≠ .failed := mt sending.handover.upset_of_taker fine
  obtain ⟨near, far⟩ := sending.at_rest fits settled
  rcases far with stopped | ⟨listens, nothing⟩
  · exact stopped.resolve_right taker
  · have waits : sender.phase.giver = .waiting ∨ sender.phase.giver = .done := by
      rcases near with (done | failed) | waits
      · exact .inr done
      · exact absurd failed giver
      · exact .inl waits.1
    rcases sending.handover.some_message fine waits listens with offered | ⟨hears, answered⟩
    · exact absurd nothing offered
    · rcases near with (done | failed) | ⟨_, silent⟩
      · cases hears.symm.trans done
      · exact absurd failed giver
      · exact absurd silent answered

/-- If the sink has no room for the first slice, it has taken nothing. -/
theorem refused {quiet : Prop}
    (sending : Sending arena quiet course number sender sink bus files ends meeting)
    (large : arena.most < (arena.sending.slice 0).length) :
    number = 0 ∧ (course = .preparing ∨ course = .offered) :=
  sending.admitted.resolve_right (Nat.not_le_of_lt large)

/-- Then a meeting only settles when the sink has refused the slice. -/
theorem failed_of_settled (fits : arena.SendingFits)
    (sending : Sending arena True course number sender sink bus files ends meeting)
    (large : arena.most < (arena.sending.slice 0).length) (settled : meeting.Settled) :
    sink.phase.taker = .failed := by
  obtain ⟨rfl, early⟩ := sending.refused large
  obtain ⟨near, far⟩ := sending.at_rest fits settled
  by_contra fine
  have offers := sending.handover.offers fine
  rcases far with (finished | failed) | ⟨_, nothing⟩
  · have done := sending.handover.course_finished finished
    rcases early with rfl | rfl <;> cases done
  · exact fine failed
  · rcases early with rfl | rfl
    · have acts := sending.handover.giver.resolve_right fun failed =>
        fine ((sending.blame trivial).1 failed.2.1)
      dsimp only at acts
      simp [acts, Course.giver, Giver.Stopped] at near
    · rw [nothing] at offers
      cases offers

/-- Then the sink has taken nothing, and the sender is not done. -/
theorem nothing_taken {quiet : Prop}
    (sending : Sending arena quiet course number sender sink bus files ends meeting)
    (large : arena.most < (arena.sending.slice 0).length) :
    meeting.remote.writer.kept meeting.host.files = [] ∧ meeting.engine.state ≠ .completed := by
  obtain ⟨rfl, early⟩ := sending.refused large
  refine ⟨?_, fun completed => ?_⟩
  · have written := sending.handover.written.resolve_right fun broken => by
      rcases early with rfl | rfl <;> cases broken.2.2.1
    rw [sending.scene.files]
    refine written.trans ?_
    rcases early with rfl | rfl <;> simp [Terms.written, Terms.before]
  · have giver := sending.handover.giver
    dsimp only at giver
    rw [sending.completed.mp completed] at giver
    rcases early with rfl | rfl <;> simp [Course.giver] at giver

/-- A sink that fails in quiet surroundings has refused the first slice. -/
theorem outcome_of_failed
    (sending : Sending arena True course number sender sink bus files ends meeting)
    (failed : sink.phase.taker = .failed) : meeting.peer.outcome? =
      some (.error (.protocol (.oversizedChunk (arena.sending.slice 0).length arena.most))) := by
  have blame := (sending.blame trivial).2
  rw [sending.peer]
  obtain ⟨phase, progress⟩ := sink
  cases phase with
  | failed error =>
    rw [blame error rfl]
    rfl
  | _ => cases failed

/-- What a sender that is done reports. -/
theorem result_of_done {quiet : Prop} (fits : arena.SendingFits)
    (sending : Sending arena quiet course number sender sink bus files ends meeting)
    (done : sender.phase.giver = .done) : meeting.engine.result =
      .ok ⟨.sender, .completed, ⟨arena.data.length, arena.sending.count⟩⟩ := by
  obtain ⟨_, nothing⟩ := sending.handover.written_of_done fits.positive done
  have sent := sending.sent
  rw [Terms.before_eq_data fits.positive nothing,
    sending.handover.number_of_nil fits.positive nothing] at sent
  rw [sending.engine]
  obtain ⟨phase, progress⟩ := sender
  obtain rfl := sent
  cases phase <;> simp [SenderPhase.giver] at done
  rfl

/-- What both parties report when they are through. -/
theorem through {quiet : Prop} (fits : arena.SendingFits)
    (sending : Sending arena quiet course number sender sink bus files ends meeting)
    (finished : sink.phase.taker = .finished) :
    meeting.engine.result =
        .ok ⟨.sender, .completed, ⟨arena.data.length, arena.sending.count⟩⟩ ∧
      meeting.peer.outcome? = some (.ok (.sink, ⟨arena.data.length, arena.sending.count⟩)) ∧
      meeting.remote.writer.kept meeting.host.files = arena.data ∧
      meeting.talk = arena.sending.conversation := by
  have done := sending.handover.done_of_finished finished
  obtain ⟨written, nothing⟩ := sending.handover.written_of_done fits.positive done
  have talk := sending.handover.talk_of_finished fits.positive finished
  obtain rfl := sending.handover.course_finished finished
  have taken : sink.progress = ⟨(arena.sending.before number).length, number⟩ := sending.taken
  rw [Terms.before_eq_data fits.positive nothing,
    sending.handover.number_of_nil fits.positive nothing] at taken
  refine ⟨sending.result_of_done fits done, ?_, sending.scene.files ▸ written, talk⟩
  rw [sending.peer]
  obtain ⟨phase, progress⟩ := sink
  obtain rfl := taken
  cases phase <;> simp [SinkPhase.taker] at finished
  rfl

end Sending

theorem Setup.Arranged.sending_run {setup : Setup} {before : Host} {capacity : Nat}
    {data : List UInt8} (arranged : setup.Arranged before capacity data)
    (unfailing : setup.reader.Unfailing) (accepting : setup.writer.Accepting) {moves : List Move}
    (patient : ∀ side, Move.expire side ∉ moves) {after : Meeting}
    (ran : setup.sending.run moves = some after) :
    Sending.Goes (setup.arena before capacity data) True after := by
  have start := arranged.sending (fun noise => absurd trivial noise)
    fun _ => ⟨unfailing, accepting⟩
  refine Meeting.run_preserves (fun move => ∀ side, move ≠ .expire side) ?_ ?_ start ran
  · intro meeting next move allowed goes stepped
    exact goes.step arranged.sendingFits (fun ⟨side, expires⟩ => absurd expires (allowed side))
      stepped
  · intro move member side expires
    exact patient side (expires ▸ member)

/-- Whatever the order of the moves, a sender that meets a sink in quiet surroundings comes to an
end. If the sink has room for the first slice, both end well and all data are delivered, slice by
slice; otherwise the sink refuses it. -/
theorem sender_meets_sink {setup : Setup} {before : Host} {capacity : Nat} {data : List UInt8}
    (arranged : setup.Arranged before capacity data) (unfailing : setup.reader.Unfailing)
    (accepting : setup.writer.Accepting) {moves : List Move}
    (patient : ∀ side, Move.expire side ∉ moves) {after : Meeting}
    (ran : setup.sending.run moves = some after) :
    moves.length ≤ 8 * ((data.length + capacity - 1) / capacity) + 11 ∧
      (min capacity data.length ≤ setup.most → after.Settled →
        after.engine.result = .ok ⟨.sender, .completed,
            ⟨data.length, (data.length + capacity - 1) / capacity⟩⟩ ∧
          after.peer.outcome? = some (.ok (.sink,
            ⟨data.length, (data.length + capacity - 1) / capacity⟩)) ∧
          after.remote.writer.kept after.host.files = data ∧
          ∃ slices, Sliced capacity data slices ∧
            after.talk = slices.flatMap (fun slice =>
              [(.near, .dataReady setup.buffer.address (.ofNat slice.length)),
                (.far, .readDone (.ofNat slice.length))]) ++
              [(.near, .dataReady setup.buffer.address 0)]) ∧
      (setup.most < min capacity data.length →
        after.remote.writer.kept after.host.files = [] ∧ after.engine.state ≠ .completed ∧
          (after.Settled → after.peer.outcome? = some (.error
            (.protocol (.oversizedChunk (min capacity data.length) setup.most))))) := by
  obtain ⟨course, number, sender, sink, bus, files, ends, sending⟩ :=
    arranged.sending_run unfailing accepting patient ran
  have fits := arranged.sendingFits
  have first : ((setup.arena before capacity data).sending.slice 0).length =
      min capacity data.length := by
    rw [Terms.length_slice, Nat.zero_mul]
    rfl
  refine ⟨?_, fun room settled => ?_, fun large => ?_⟩
  · have counted := Meeting.length_le_rank ran
    exact Nat.le_trans (Nat.le_trans (Nat.le_add_right _ _) counted) (sending.rank_le fits)
  · have finished := sending.finished_of_settled fits (first ▸ room) settled
    obtain ⟨result, outcome, kept, talk⟩ := sending.through fits finished
    have sliced := Terms.sliced (setup.arena before capacity data).sending fits.positive
    refine ⟨result, outcome, kept, _, sliced, ?_⟩
    rw [talk, arranged.address_eq]
    rfl
  · rw [← first] at large ⊢
    obtain ⟨kept, incomplete⟩ := sending.nothing_taken large
    exact ⟨kept, incomplete, fun settled =>
      sending.outcome_of_failed (sending.failed_of_settled fits large settled)⟩

theorem sender_meets_sink_small :
    ∃ after, (Setup.small 2 2).sending.run (Move.turns [(3, 4), (4, 4), (4, 2)]) = some after ∧
      after.Settled ∧ after.remote.writer.kept after.host.files = [1, 2, 3] := by
  have settles : ((Setup.small 2 2).sending.run (Move.turns [(3, 4), (4, 4), (4, 2)])).any
      (fun after => decide after.Settled) = true := by decide +kernel
  obtain ⟨after, ran, rests⟩ := (Option.any_eq_true _ _).mp settles
  have settled := of_decide_eq_true rests
  have patient : ∀ side, Move.expire side ∉ Move.turns [(3, 4), (4, 4), (4, 2)] := by
    intro side
    cases side <;> decide
  obtain ⟨_, delivered, _⟩ := sender_meets_sink (Setup.small_arranged 2)
    (Setup.small_unfailing 2 2) (Setup.small_accepting 2 2) patient ran
  exact ⟨after, ran, settled, (delivered (by decide) settled).2.2.1⟩

/-!
## A receiver and a source
-/

namespace Receiving

variable {arena : Arena} {course : Course} {number : Nat} {introduced : Bool}
  {receiver : Receiver} {source : Source} {bus : Bus} {files : FileTree} {ends : Link}
  {talk : List (Side × Message)} {meeting : Meeting}

theorem rank_le {quiet : Prop} (fits : arena.ReceivingFits)
    (receiving : Receiving arena quiet course number introduced receiver source bus files ends talk
      meeting) : meeting.rank ≤ 8 * arena.receiving.count + 14 := by
  have whole := meeting.rank_le
  have near := receiver.rank_le
  have far := source.rank_le
  have sent := receiving.handover.reached
  have taken := receiving.handover.counted_le fits.positive
  rw [receiving.engine, receiving.peer] at whole
  rw [receiving.taken] at near
  rw [receiving.sent] at far
  dsimp only [Engine.rank, Peer.rank] at whole near far
  omega

/-- Where the parties are when neither can act. -/
theorem at_rest {quiet : Prop} (fits : arena.ReceivingFits)
    (receiving : Receiving arena quiet course number introduced receiver source bus files ends talk
      meeting) (settled : meeting.Settled) :
    (receiver.phase.taker.Stopped ∨
        receiver.phase.taker = .listening ∧ introduced = true ∧ ends.near.inbox = []) ∧
      (source.phase.giver.Stopped ∨
        (source.phase = .opening ∨ source.phase.giver = .waiting) ∧ ends.far.inbox = []) := by
  constructor
  · rcases receiving.act_near with ⟨_, rests⟩ | ⟨_, acted, _⟩
    · exact rests
    · cases (settled .near).symm.trans acted
  · rcases receiving.act_far fits with ⟨_, rests⟩ | ⟨_, acted, _⟩
    · exact rests
    · cases (settled .far).symm.trans acted

/-- A source that was introduced to the buffer does not wait for that. -/
theorem greeting_heard {quiet : Prop}
    (receiving : Receiving arena quiet course number true receiver source bus files ends talk
      meeting) (silent : ends.far.inbox = []) : source.phase ≠ .opening := by
  intro opening
  have greeted := receiving.greeted opening
  rw [silent] at greeted
  cases greeted

/-- If the buffer has room for the slices, a meeting only settles when it is through. -/
theorem finished_of_settled (fits : arena.ReceivingFits)
    (receiving : Receiving arena True course number introduced receiver source bus files ends talk
      meeting) (room : (arena.receiving.slice 0).length ≤ arena.room) (settled : meeting.Settled) :
    receiver.phase.taker = .finished := by
  have fine : ¬ arena.ReceivingUpset True := fun wrong => Nat.not_le_of_lt (wrong trivial) room
  have giver : source.phase.giver ≠ .failed := mt receiving.handover.upset_of_giver fine
  have taker : receiver.phase.taker ≠ .failed := mt receiving.handover.upset_of_taker fine
  obtain ⟨near, far⟩ := receiving.at_rest fits settled
  rcases near with stopped | ⟨listens, rfl, nothing⟩
  · exact stopped.resolve_right taker
  · have waits : source.phase.giver = .done ∨
        source.phase.giver = .waiting ∧ ends.far.inbox = [] := by
      rcases far with (done | failed) | ⟨opening | waits, silent⟩
      · exact .inl done
      · exact absurd failed giver
      · exact absurd opening (receiving.greeting_heard silent)
      · exact .inr ⟨waits, silent⟩
    rcases receiving.handover.some_message fine (waits.symm.imp_left And.left) listens with
      offered | ⟨hears, answered⟩
    · exact absurd nothing offered
    · rcases waits with done | ⟨_, silent⟩
      · cases hears.symm.trans done
      · dsimp only at answered
        rw [silent] at answered
        cases phase : source.phase <;> simp [phase, SourcePhase.answers] at answered

/-- If the buffer has no room for the first slice, it was not announced. -/
theorem refused {quiet : Prop}
    (receiving : Receiving arena quiet course number introduced receiver source bus files ends talk
      meeting) (large : arena.room < (arena.receiving.slice 0).length) :
    number = 0 ∧ course = .preparing :=
  receiving.admitted.resolve_right (Nat.not_le_of_lt large)

/-- Then a meeting only settles when the source has failed to place the slice. -/
theorem failed_of_settled (fits : arena.ReceivingFits)
    (receiving : Receiving arena True course number introduced receiver source bus files ends talk
      meeting) (large : arena.room < (arena.receiving.slice 0).length) (settled : meeting.Settled) :
    source.phase.giver = .failed := by
  obtain ⟨rfl, rfl⟩ := receiving.refused large
  obtain ⟨near, far⟩ := receiving.at_rest fits settled
  by_contra fine
  have prepares : source.phase.giver = .preparing :=
    receiving.handover.giver.resolve_right fun failed => fine failed.2.1
  rcases far with (done | failed) | ⟨opening | waits, silent⟩
  · cases prepares.symm.trans done
  · exact fine failed
  · rcases near with (finished | failed) | ⟨_, rfl, _⟩
    · cases receiving.handover.course_finished finished
    · exact fine ((receiving.blame trivial).1 failed)
    · exact receiving.greeting_heard silent opening
  · cases prepares.symm.trans waits

/-- Then the receiver has taken nothing, and is not through. -/
theorem nothing_taken {quiet : Prop}
    (receiving : Receiving arena quiet course number introduced receiver source bus files ends talk
      meeting) (large : arena.room < (arena.receiving.slice 0).length) :
    meeting.own.writer.kept meeting.host.files = [] ∧ meeting.engine.state ≠ .completed := by
  obtain ⟨rfl, rfl⟩ := receiving.refused large
  refine ⟨?_, fun completed => ?_⟩
  · have written := receiving.handover.written.resolve_right fun broken => by
      cases broken.2.2.1
    rw [receiving.scene.files]
    refine written.trans ?_
    simp [Terms.written, Terms.before]
  · cases receiving.handover.course_finished (receiving.completed.mp completed)

/-- A source that fails in quiet surroundings has not been able to place the first slice. -/
theorem outcome_of_failed
    (receiving : Receiving arena True course number introduced receiver source bus files ends talk
      meeting) (failed : source.phase.giver = .failed) : meeting.peer.outcome? =
      some (.error (.allocation (.unmapped arena.address (arena.receiving.slice 0).length))) := by
  have blame := (receiving.blame trivial).2
  rw [receiving.peer]
  obtain ⟨phase, progress⟩ := source
  cases phase with
  | failed error =>
    rw [blame error rfl]
    rfl
  | _ => cases failed

/-- What both parties report when they are through. -/
theorem through {quiet : Prop} (fits : arena.ReceivingFits)
    (receiving : Receiving arena quiet course number introduced receiver source bus files ends talk
      meeting) (finished : receiver.phase.taker = .finished) :
    meeting.engine.result =
        .ok ⟨.receiver, .completed, ⟨arena.data.length, arena.receiving.count⟩⟩ ∧
      meeting.peer.outcome? = some (.ok (.source, ⟨arena.data.length, arena.receiving.count⟩)) ∧
      meeting.own.writer.kept meeting.host.files = arena.data ∧
      meeting.talk = (.near, .baseAddress arena.address) :: arena.receiving.conversation := by
  have done := receiving.handover.done_of_finished finished
  obtain ⟨written, nothing⟩ := receiving.handover.written_of_done fits.positive done
  have said := receiving.handover.talk_of_finished fits.positive finished
  obtain rfl := receiving.handover.course_finished finished
  have sent := receiving.sent
  have taken : receiver.progress = ⟨(arena.receiving.before number).length, number⟩ :=
    receiving.taken
  rw [Terms.before_eq_data fits.positive nothing,
    receiving.handover.number_of_nil fits.positive nothing] at sent taken
  have known : introduced = true := by
    by_contra alone
    cases (receiving.untouched (Bool.eq_false_iff.mpr alone)).1
  rw [receiving.engine, receiving.peer, receiving.scene.files, receiving.said, known]
  refine ⟨?_, ?_, written, congrArg _ said⟩
  · obtain ⟨phase, progress⟩ := receiver
    obtain rfl := taken
    cases phase <;> simp [ReceiverPhase.taker] at finished
    rfl
  · obtain ⟨phase, progress⟩ := source
    obtain rfl := sent
    cases phase <;> simp [SourcePhase.giver] at done
    rfl

end Receiving

theorem Setup.Arranged.receiving_run {setup : Setup} {before : Host} {capacity : Nat}
    {data : List UInt8} (arranged : setup.Arranged before capacity data)
    (positive : setup.most ≠ 0) (unfailing : setup.reader.Unfailing)
    (accepting : setup.writer.Accepting) {moves : List Move}
    (patient : ∀ side, Move.expire side ∉ moves) {after : Meeting}
    (ran : setup.receiving.run moves = some after) :
    Receiving.Goes (setup.arena before capacity data) True after := by
  have start := arranged.receiving (fun noise => absurd trivial noise)
    fun _ => ⟨unfailing, accepting⟩
  have fits := arranged.receivingFits positive
  refine Meeting.run_preserves (fun move => ∀ side, move ≠ .expire side) ?_ ?_ start ran
  · intro meeting next move allowed goes stepped
    exact goes.step fits (fun ⟨side, expires⟩ => absurd expires (allowed side)) stepped
  · intro move member side expires
    exact patient side (expires ▸ member)

/-- Whatever the order of the moves, a receiver that meets a source in quiet surroundings comes to
an end. If the buffer has room for the first slice, both end well and all data are delivered, slice
by slice; otherwise the source fails to place it and announces nothing. -/
theorem receiver_meets_source {setup : Setup} {before : Host} {capacity : Nat} {data : List UInt8}
    (arranged : setup.Arranged before capacity data) (positive : setup.most ≠ 0)
    (unfailing : setup.reader.Unfailing) (accepting : setup.writer.Accepting) {moves : List Move}
    (patient : ∀ side, Move.expire side ∉ moves) {after : Meeting}
    (ran : setup.receiving.run moves = some after) :
    moves.length ≤ 8 * ((data.length + setup.most - 1) / setup.most) + 14 ∧
      (min setup.most data.length ≤ capacity → after.Settled →
        after.engine.result = .ok ⟨.receiver, .completed,
            ⟨data.length, (data.length + setup.most - 1) / setup.most⟩⟩ ∧
          after.peer.outcome? = some (.ok (.source,
            ⟨data.length, (data.length + setup.most - 1) / setup.most⟩)) ∧
          after.own.writer.kept after.host.files = data ∧
          ∃ slices, Sliced setup.most data slices ∧
            after.talk = (.near, .baseAddress setup.buffer.address) ::
              slices.flatMap (fun slice =>
                [(.far, .writeDone setup.buffer.address (.ofNat slice.length)),
                  (.near, .readDone (.ofNat slice.length))]) ++
              [(.far, .writeDone setup.buffer.address 0)]) ∧
      (capacity < min setup.most data.length →
        after.own.writer.kept after.host.files = [] ∧ after.engine.state ≠ .completed ∧
          after.talk <+: [(.near, .baseAddress setup.buffer.address)] ∧
          (after.Settled → after.peer.outcome? = some (.error (.allocation
            (.unmapped setup.buffer.address (min setup.most data.length)))))) := by
  obtain ⟨course, number, introduced, receiver, source, bus, files, ends, talk, receiving⟩ :=
    arranged.receiving_run positive unfailing accepting patient ran
  have fits := arranged.receivingFits positive
  have first : ((setup.arena before capacity data).receiving.slice 0).length =
      min setup.most data.length := by
    rw [Terms.length_slice, Nat.zero_mul]
    rfl
  refine ⟨?_, fun room settled => ?_, fun large => ?_⟩
  · have counted := Meeting.length_le_rank ran
    exact Nat.le_trans (Nat.le_trans (Nat.le_add_right _ _) counted) (receiving.rank_le fits)
  · have finished := receiving.finished_of_settled fits (first ▸ room) settled
    obtain ⟨result, outcome, kept, said⟩ := receiving.through fits finished
    have sliced := Terms.sliced (setup.arena before capacity data).receiving fits.positive
    refine ⟨result, outcome, kept, _, sliced, ?_⟩
    rw [said, arranged.address_eq]
    rfl
  · rw [← first] at large ⊢
    obtain ⟨kept, incomplete⟩ := receiving.nothing_taken large
    obtain ⟨rfl, rfl⟩ := receiving.refused large
    refine ⟨kept, incomplete, ?_, fun settled => ?_⟩
    · have silent : talk = [] := receiving.handover.talk
      rw [receiving.said, silent, arranged.address_eq, List.append_nil]
      cases introduced with
      | false => exact List.nil_prefix
      | true => exact List.prefix_rfl
    · rw [arranged.address_eq]
      exact receiving.outcome_of_failed (receiving.failed_of_settled fits large settled)

theorem receiver_meets_source_small :
    ∃ after, (Setup.small 2 2).receiving.run (Move.turns [(2, 4), (4, 4), (4, 3), (2, 0)]) =
        some after ∧
      after.Settled ∧ after.own.writer.kept after.host.files = [1, 2, 3] := by
  have settles : ((Setup.small 2 2).receiving.run
      (Move.turns [(2, 4), (4, 4), (4, 3), (2, 0)])).any
      (fun after => decide after.Settled) = true := by decide +kernel
  obtain ⟨after, ran, rests⟩ := (Option.any_eq_true _ _).mp settles
  have settled := of_decide_eq_true rests
  have patient : ∀ side, Move.expire side ∉ Move.turns [(2, 4), (4, 4), (4, 3), (2, 0)] := by
    intro side
    cases side <;> decide
  obtain ⟨_, delivered, _⟩ := receiver_meets_source (Setup.small_arranged 2) (by decide)
    (Setup.small_unfailing 2 2) (Setup.small_accepting 2 2) patient ran
  exact ⟨after, ran, settled, (delivered (by decide) settled).2.2.1⟩

end ChunkRelay
