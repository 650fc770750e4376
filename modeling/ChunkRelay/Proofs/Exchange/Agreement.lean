import ChunkRelay.Proofs.Exchange.Setup

/-! What both parties may rely on when anything may go wrong: waits run out,
local data fail, ends of the link are taken away and the buffer is given back.
What is delivered is always a first part of the data, the counters of both
parties tell how much it is up to one slice, and a party that ended well knows
that all of it is there. -/

set_option autoImplicit false

namespace ChunkRelay

namespace Setup.Arranged

variable {setup : Setup} {before : Host} {capacity : Nat} {data : List UInt8} {base : UInt64}
  {spent : Nat}

theorem sending_anyhow (arranged : setup.Arranged before capacity data)
    (history : before.bus.History base spent) (few : spent < 2 ^ 64) {moves : List Move}
    {after : Meeting} (ran : setup.sending.run moves = some after) :
    Sending.Goes (setup.arena before capacity data) False after := by
  have start := arranged.sending (fun _ => arranged.isolated history few) False.elim
  refine Meeting.run_preserves (fun _ => True) ?_ (fun _ _ => trivial) start ran
  intro meeting next move _ goes stepped
  exact goes.step arranged.sendingFits (fun _ => id) stepped

theorem receiving_anyhow (arranged : setup.Arranged before capacity data)
    (positive : setup.most ≠ 0) (history : before.bus.History base spent) (few : spent < 2 ^ 64)
    {moves : List Move} {after : Meeting} (ran : setup.receiving.run moves = some after) :
    Receiving.Goes (setup.arena before capacity data) False after := by
  have start := arranged.receiving (fun _ => arranged.isolated history few) False.elim
  have fits := arranged.receivingFits positive
  refine Meeting.run_preserves (fun _ => True) ?_ (fun _ _ => trivial) start ran
  intro meeting next move _ goes stepped
  exact goes.step fits (fun _ => id) stepped

end Setup.Arranged

/-- Whatever happens at a meeting, what is delivered is a first part of the data, and what the
parties count and how they end agree with it. -/
theorem parties_agree {setup : Setup} {before : Host} {capacity : Nat} {data : List UInt8}
    {base : UInt64} {spent : Nat} (arranged : setup.Arranged before capacity data)
    (history : before.bus.History base spent) (few : spent < 2 ^ 64) (moves : List Move)
    (after : Meeting) :
    (setup.sending.run moves = some after →
      after.remote.writer.kept after.host.files <+: data ∧
        after.engine.progress.bytes ≤ (after.remote.writer.kept after.host.files).length ∧
        (after.remote.writer.kept after.host.files).length ≤
          after.engine.progress.bytes + capacity ∧
        (after.engine.state = .completed → after.remote.writer.kept after.host.files = data) ∧
        ∀ result, after.peer.outcome? = some (.ok result) →
          after.remote.writer.kept after.host.files = data ∧ after.engine.state = .completed) ∧
      (setup.most ≠ 0 → setup.receiving.run moves = some after →
        after.own.writer.kept after.host.files <+: data ∧
          after.engine.progress.bytes ≤ (after.own.writer.kept after.host.files).length ∧
          (after.own.writer.kept after.host.files).length ≤
            after.engine.progress.bytes + setup.most ∧
          (∃ source, after.peer = .sourcing source ∧
            source.progress.bytes ≤ (after.own.writer.kept after.host.files).length ∧
            (after.own.writer.kept after.host.files).length ≤
              source.progress.bytes + setup.most) ∧
          (after.engine.state = .completed → after.own.writer.kept after.host.files = data) ∧
          ∀ result, after.peer.outcome? = some (.ok result) →
            after.own.writer.kept after.host.files = data) := by
  refine ⟨fun ran => ?_, fun positive ran => ?_⟩
  · obtain ⟨course, number, sender, sink, bus, files, ends, sending⟩ :=
      arranged.sending_anyhow history few ran
    have fits := arranged.sendingFits
    have covered := sending.handover.length_written
    have slice : ((setup.arena before capacity data).sending.slice number).length ≤ capacity :=
      List.length_take_le _ _
    have whole := fun done => (sending.handover.written_of_done fits.positive done).1
    rw [sending.scene.files, sending.completed, sending.engine, Engine.progress, sending.sent]
    refine ⟨sending.handover.written_prefix, covered.1, ?_, whole, fun result ended => ?_⟩
    · exact Nat.le_trans covered.2 (Nat.add_le_add_left slice _)
    · have done := sending.handover.done_of_finished (sending.finished ended)
      exact ⟨whole done, done⟩
  · obtain ⟨course, number, introduced, receiver, source, bus, files, ends, talk, receiving⟩ :=
      arranged.receiving_anyhow positive history few ran
    have fits := arranged.receivingFits positive
    have covered := receiving.handover.length_written
    have counted := receiving.handover.length_written_counted
    have slice : ((setup.arena before capacity data).receiving.slice number).length ≤ setup.most :=
      List.length_take_le _ _
    have whole := fun done => (receiving.handover.written_of_done fits.positive done).1
    rw [receiving.scene.files, receiving.completed, receiving.engine, Engine.progress,
      receiving.taken]
    refine ⟨receiving.handover.written_prefix, counted.1, counted.2, ⟨source, receiving.peer, ?_⟩,
      fun finished => ?_, fun result ended => ?_⟩
    · rw [receiving.sent]
      exact ⟨covered.1, Nat.le_trans covered.2 (Nat.add_le_add_left slice _)⟩
    · exact whole (receiving.handover.done_of_finished finished)
    · exact whole (receiving.done ended)

/-- A sender gives up before its chunk is fetched, and a source before its chunk is confirmed. -/
theorem parties_agree_small :
    (∃ after, (Setup.small 2 2).sending.run (Move.turns [(3, 1)] ++
          [.expire .near, .leave .near, .release] ++ Move.turns [(0, 1)]) = some after ∧
        after.remote.writer.kept after.host.files <+: [1, 2, 3]) ∧
      ∃ after, (Setup.small 2 2).receiving.run (Move.turns [(2, 4), (2, 0)] ++
          [.expire .far, .leave .far] ++ Move.turns [(2, 0)]) = some after ∧
        (after.own.writer.kept after.host.files).length ≤ after.engine.progress.bytes + 2 := by
  have history : Bus.History Bus.defaultBase (.withBase Bus.defaultBase) 0 := .fresh
  constructor
  · have runs : ((Setup.small 2 2).sending.run (Move.turns [(3, 1)] ++
        [.expire .near, .leave .near, .release] ++ Move.turns [(0, 1)])).isSome := by
      decide +kernel
    obtain ⟨after, ran⟩ := Option.isSome_iff_exists.mp runs
    obtain ⟨sent, _⟩ := parties_agree (Setup.small_arranged 2) history (by decide) _ after
    exact ⟨after, ran, (sent ran).1⟩
  · have runs : ((Setup.small 2 2).receiving.run (Move.turns [(2, 4), (2, 0)] ++
        [.expire .far, .leave .far] ++ Move.turns [(2, 0)])).isSome := by
      decide +kernel
    obtain ⟨after, ran⟩ := Option.isSome_iff_exists.mp runs
    obtain ⟨_, received⟩ := parties_agree (Setup.small_arranged 2) history (by decide) _ after
    exact ⟨after, ran, (received (by decide) ran).2.2.1⟩

end ChunkRelay
