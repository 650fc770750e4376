import ChunkRelay.Proofs.Exchange.Arena
import ChunkRelay.Proofs.Stream.Intake
import ChunkRelay.Proofs.Stream.Supply

/-! A receiver that meets a source. The receiver introduces its buffer first;
from then on the source hands data over through it. One invariant says how far
both are, which bytes are in the buffer and in the source's scratch, and what is
on the link. Every move keeps it. -/

set_option autoImplicit false

namespace ChunkRelay

def SourcePhase.giver : SourcePhase → Giver
  | .opening | .filling _ | .placing _ _ | .announcing _ _ => .preparing
  | .awaiting _ _ => .waiting
  | .finished => .done
  | .failed _ => .failed

def ReceiverPhase.taker : ReceiverPhase → Taker
  | .idle | .introducing | .ready => .listening
  | .draining _ => .holding
  | .clearing _ | .acknowledging _ => .taken
  | .flushing => .closing
  | .completed => .finished
  | .failed _ => .failed

/-- The answers among the messages on their way to a source. -/
def SourcePhase.answers (inbox : List Message) : SourcePhase → List Message
  | .opening => []
  | _ => inbox

/-- What a source has left to read, what it has in its scratch, and what it has put into the
buffer. -/
def SourcePhase.Supplied (arena : Arena) (number : Nat) (files : FileTree) (reader : Reader)
    (scratch buffer : Extent) : SourcePhase → Prop
  | .opening => reader.Delivers files (arena.data.drop (number * arena.most))
  | .filling address => address = arena.address ∧
      reader.Delivers files (arena.data.drop (number * arena.most))
  | .placing address length => address = arena.address ∧
      length = (arena.receiving.slice number).length ∧ length ≠ 0 ∧
      reader.Delivers files (arena.data.drop ((number + 1) * arena.most)) ∧
      scratch.window 0 length = arena.receiving.slice number
  | .announcing address length => address = arena.address ∧
      length = (arena.receiving.slice number).length ∧ length ≤ arena.room ∧
      reader.Delivers files (arena.data.drop ((number + 1) * arena.most)) ∧
      buffer.window 0 length = arena.receiving.slice number
  | .awaiting address length => address = arena.address ∧
      length = (arena.receiving.slice number).length ∧
      reader.Delivers files (arena.data.drop ((number + 1) * arena.most))
  | .finished | .failed _ => True

/-- What a receiver works on, and whether it has introduced its buffer. -/
def ReceiverPhase.Works (arena : Arena) (number : Nat) (introduced : Bool) : ReceiverPhase → Prop
  | .idle | .introducing => introduced = false
  | .ready | .flushing | .completed => introduced = true
  | .draining length | .clearing length | .acknowledging length =>
    introduced = true ∧ length = (arena.receiving.slice number).length
  | .failed _ => True

theorem SourcePhase.Supplied.congr {arena : Arena} {number : Nat} {files others : FileTree}
    {reader : Reader} {scratch buffer : Extent} {phase : SourcePhase}
    (supplied : phase.Supplied arena number files reader scratch buffer)
    (same : ∀ contents, reader.source? = some contents →
      others.extent contents = files.extent contents) :
    phase.Supplied arena number others reader scratch buffer := by
  cases phase with
  | opening => exact Reader.Delivers.congr supplied same
  | filling address => exact ⟨supplied.1, supplied.2.congr same⟩
  | placing address length =>
    obtain ⟨place, all, some_length, delivers, holds⟩ := supplied
    exact ⟨place, all, some_length, delivers.congr same, holds⟩
  | announcing address length =>
    obtain ⟨place, all, fits, delivers, holds⟩ := supplied
    exact ⟨place, all, fits, delivers.congr same, holds⟩
  | awaiting address length => exact ⟨supplied.1, supplied.2.1, supplied.2.2.congr same⟩
  | finished | failed error => trivial

/-- A source that is not about to announce does not care for the buffer. -/
theorem SourcePhase.Supplied.change {arena : Arena} {number : Nat} {files : FileTree}
    {reader : Reader} {scratch buffer : Extent} {phase : SourcePhase}
    (supplied : phase.Supplied arena number files reader scratch buffer)
    (still : phase = .opening ∨ phase.giver ≠ .preparing) (other : Extent) :
    phase.Supplied arena number files reader scratch other := by
  cases phase with
  | announcing address length => simp [giver] at still
  | _ => exact supplied

theorem ReceiverPhase.Works.of_listening {arena : Arena} {number : Nat} {introduced : Bool}
    {phase : ReceiverPhase} (works : phase.Works arena number introduced)
    (idle : phase.taker = .listening ∨ phase.taker = .failed) (other : Nat) :
    phase.Works arena other introduced := by
  cases phase <;> simp [taker] at idle <;> exact works

/-- What the messages of a meeting with a receiver begin with. -/
def Arena.greeting (arena : Arena) : Bool → List (Side × Message)
  | true => [(.near, .baseAddress arena.address)]
  | false => []

/-- A party may fail if its surroundings are noisy, or if the first slice is too large for the
buffer. -/
def Arena.ReceivingUpset (arena : Arena) (quiet : Prop) : Prop :=
  quiet → arena.room < (arena.receiving.slice 0).length

/-- A receiver and a source in the course of a slice. Quiet surroundings have local data that never
fail, and no wait that runs out. -/
structure Receiving (arena : Arena) (quiet : Prop) (course : Course) (number : Nat)
    (introduced : Bool) (receiver : Receiver) (source : Source) (bus : Bus) (files : FileTree)
    (ends : Link) (talk : List (Side × Message)) (meeting : Meeting) : Prop where
  engine : meeting.engine = .receiving receiver
  peer : meeting.peer = .sourcing source
  scene : Scene arena.link bus files ends meeting.host
  handover : Handover arena.receiving (arena.ReceivingUpset quiet) course number
    { giver := source.phase.giver, taker := receiver.phase.taker
      offers := ends.near.inbox, answers := source.phase.answers ends.far.inbox
      written := meeting.own.writer.kept files, talk }
  said : meeting.talk = arena.greeting introduced ++ talk
  greeted : source.phase = .opening →
    ends.far.inbox = (arena.greeting introduced).map Prod.snd
  untouched : introduced = false → course = .preparing ∧ number = 0 ∧
    (source.phase = .opening ∨ source.phase.giver = .failed)
  near : Attached arena.link .near ends meeting.own.transport receiver.phase.taker.Stopped
  far : Attached arena.link .far ends meeting.remote.transport source.phase.giver.Stopped
  placed : Placed arena (¬ quiet) bus meeting.buffer receiver.phase.taker.Stopped
  stage : meeting.own.stage = .relay arena.buffer
  taken : receiver.progress =
    ⟨(arena.receiving.before (course.counted number)).length, course.counted number⟩
  works : receiver.phase.Works arena number introduced
  sent : source.progress = ⟨(arena.receiving.before number).length, number⟩
  memory : meeting.remote.memory = .throughBus
  scratch : ∃ contents, meeting.remote.stage = .scratch contents ∧ contents.size = arena.most ∧
    source.phase.Supplied arena number files meeting.remote.reader contents
      (bus.extent arena.index)
  shown : course = .offered ∨ course = .holding →
    (arena.receiving.slice number).length ≤ arena.room ∧
      (bus.extent arena.index).window 0 (arena.receiving.slice number).length =
        arena.receiving.slice number
  keeps : meeting.own.writer.Keeps files
  apart : ∀ contents, meeting.remote.reader.source? = some contents →
    meeting.own.writer.target? ≠ some contents
  calm : quiet → meeting.remote.reader.Unfailing ∧ meeting.own.writer.Accepting
  admitted : number = 0 ∧ course = .preparing ∨ (arena.receiving.slice 0).length ≤ arena.room
  blame : quiet → (receiver.phase.taker = .failed → source.phase.giver = .failed) ∧
    ∀ error, source.phase = .failed error →
      error = .allocation (.unmapped arena.address (arena.receiving.slice 0).length)

/-- What stays as it is for a receiver that meets a source. -/
structure Arena.ReceivingFits (arena : Arena) : Prop where
  positive : arena.most ≠ 0
  small : arena.room < addressSpace

namespace Receiving

variable {arena : Arena} {quiet : Prop} {course : Course} {number : Nat} {introduced : Bool}
  {progress : Progress} {receiver : Receiver} {source : Source} {bus : Bus} {files : FileTree}
  {ends : Link} {talk : List (Side × Message)} {meeting : Meeting}

/-- A meeting at which some course of some slice goes on. -/
def Goes (arena : Arena) (quiet : Prop) (meeting : Meeting) : Prop :=
  ∃ course number introduced receiver source bus files ends talk,
    Receiving arena quiet course number introduced receiver source bus files ends talk meeting

theorem action_near
    (receiving : Receiving arena quiet course number introduced receiver source bus files ends talk
      meeting) :
    meeting.action meeting.engine =
      (receiver.action arena.address arena.room).map .receiving := by
  rw [Meeting.action, receiving.engine, Engine.action, receiving.placed.address,
    receiving.placed.capacity]

theorem action_far
    (receiving : Receiving arena quiet course number introduced receiver source bus files ends talk
      meeting) :
    Peer.action meeting.capacity meeting.peer = source.action.map .sourcing := by
  rw [receiving.peer, Peer.action]

/-- Once a slice was announced, the first one had its place. -/
theorem first_fits
    (receiving : Receiving arena quiet course number introduced receiver source bus files ends talk
      meeting) (late : course ≠ .preparing) : (arena.receiving.slice 0).length ≤ arena.room :=
  receiving.admitted.resolve_left fun early => late early.2

/-- A receiver that fails on its way, with its writer and the buffer as they were. -/
theorem near_fails {phase : ReceiverPhase}
    (receiving : Receiving arena quiet course number introduced ⟨phase, progress⟩ source bus files
      ends talk meeting)
    (runs : phase.taker ≠ .finished) (wrong : arena.ReceivingUpset quiet)
    (known : quiet → source.phase.giver = .failed) (error : RelayError) {host : Host}
    (scene : Scene arena.link bus files ends host) :
    Receiving arena quiet course number introduced ⟨.failed error, progress⟩ source bus files ends
      talk { meeting with host, engine := .receiving ⟨.failed error, progress⟩ } :=
  { receiving with
    engine := rfl
    scene
    handover := receiving.handover.takerFails wrong runs ends.near.inbox
    near := receiving.near.mono fun _ => .inr rfl
    placed := receiving.placed.mono fun _ => .inr rfl
    works := trivial
    blame := fun fine => ⟨fun _ => known fine, (receiving.blame fine).2⟩ }

/-- A source that fails because it is noisy, with its scratch and its reader as they were. -/
theorem far_fails {phase : SourcePhase}
    (receiving : Receiving arena quiet course number introduced receiver ⟨phase, progress⟩ bus files
      ends talk meeting)
    (runs : phase.giver = .preparing ∨ phase.giver = .waiting) (noisy : ¬ quiet)
    (error : RelayError) {host : Host} (scene : Scene arena.link bus files ends host) :
    Receiving arena quiet course number introduced receiver ⟨.failed error, progress⟩ bus files ends
      talk { meeting with host, peer := .sourcing ⟨.failed error, progress⟩ } :=
  { receiving with
    peer := rfl
    scene
    handover := receiving.handover.giverFails (absurd · noisy) runs ends.far.inbox
    greeted := by simp
    untouched := fun alone =>
      ⟨(receiving.untouched alone).1, (receiving.untouched alone).2.1, .inr rfl⟩
    far := receiving.far.mono fun _ => .inr rfl
    scratch := receiving.scratch.imp fun _ works => ⟨works.1, works.2.1, trivial⟩
    blame := (absurd · noisy) }

/-!
## The receiver
-/

/-- A source that is gone while the receiver still waits for it has failed. -/
theorem far_failed
    (receiving : Receiving arena quiet course number introduced receiver source bus files ends talk
      meeting) (goes : course.isOver = false) (gone : ends.far.status ≠ .opened) :
    source.phase.giver = .failed := by
  rcases receiving.far.stopped_of_gone gone with done | failed
  · have agreed := receiving.handover.giver
    dsimp only at agreed
    rw [done] at agreed
    cases course <;> simp [Course.giver] at agreed <;> cases goes
  · exact failed

theorem clear
    (receiving : Receiving arena quiet course number introduced ⟨.idle, progress⟩ source bus files
      ends talk meeting) :
    ∃ after, meeting.act .near = some after ∧ Goes arena quiet after := by
  obtain rfl := receiving.works
  obtain ⟨rfl, rfl, alone⟩ := receiving.untouched rfl
  have asks : meeting.action meeting.engine = .ask .clear _ := receiving.action_near
  obtain ⟨middle, answered, scene⟩ := Station.answer_clear_relay receiving.scene receiving.stage
  obtain ⟨host, acted, scene⟩ := Meeting.act_near_some asks answered scene
  have keeping : Bus.Keeping (Extent.clear · 0 arena.room) := fun _ => rfl
  obtain ⟨contents, stage, size, supplied⟩ := receiving.scratch
  refine ⟨_, acted, .preparing, 0, false, ⟨.introducing, progress⟩, source,
    bus.modify arena.index (Extent.clear · 0 arena.room), files, ends, talk, ?_⟩
  exact
    { receiving with
      engine := rfl
      scene
      near := receiving.near.mono (by simp [ReceiverPhase.taker, Taker.Stopped])
      placed := (receiving.placed.modify arena.index keeping).mono
        (by simp [ReceiverPhase.taker, Taker.Stopped])
      works := rfl
      scratch := by
        have still : source.phase = .opening ∨ source.phase.giver ≠ .preparing :=
          alone.imp_right fun failed => by simp [failed]
        exact ⟨contents, stage, size, supplied.change still _⟩
      shown := by simp
      blame := by simpa [ReceiverPhase.taker] using receiving.blame }

theorem introduce
    (receiving : Receiving arena quiet course number introduced ⟨.introducing, progress⟩ source bus
      files ends talk meeting) :
    ∃ after, meeting.act .near = some after ∧ Goes arena quiet after := by
  obtain rfl := receiving.works
  obtain ⟨rfl, rfl, alone⟩ := receiving.untouched rfl
  obtain ⟨opened, transport⟩ :=
    receiving.near.opened (by simp [ReceiverPhase.taker, Taker.Stopped])
  have asks : meeting.action meeting.engine = .ask (.send (.baseAddress arena.address)) _ :=
    receiving.action_near
  obtain ⟨middle, answered, scene⟩ := Station.answer_send receiving.scene transport
    (.baseAddress arena.address)
  by_cases gone : (ends.atSide Side.near.other).status = .gone
  · rw [Link.send_gone gone] at answered scene
    obtain ⟨host, acted, scene⟩ := Meeting.act_near_some asks answered scene
    have failed := receiving.far_failed rfl fun held => by cases gone.symm.trans held
    have wrong := receiving.handover.upset_of_giver failed
    exact ⟨_, acted, .preparing, 0, false, _, source, bus, files, ends, talk,
      receiving.near_fails (by simp [ReceiverPhase.taker]) wrong (fun _ => failed) _ scene⟩
  · rw [Link.send_ok opened gone] at answered scene
    obtain ⟨host, acted, scene⟩ := Meeting.act_near_some asks answered scene
    have silent : talk = [] := receiving.handover.talk
    have greeted := receiving.greeted
    refine ⟨_, acted, .preparing, 0, true, ⟨.ready, progress⟩, source, bus, files,
      ends.queued .near (.baseAddress arena.address), talk, ?_⟩
    exact
      { receiving with
        engine := rfl
        scene
        handover := receiving.handover.withAnswers (by
          intro fine
          rcases alone with opening | failed
          · rw [opening]
            rfl
          · exact absurd failed fine)
        said := by
          show meeting.talk ++ [(.near, .baseAddress arena.address)] = _
          rw [receiving.said, silent]
          rfl
        greeted := fun opening => by
          show ends.far.inbox ++ [.baseAddress arena.address] = _
          rw [greeted opening]
          rfl
        untouched := by simp
        near := receiving.near.mono (by simp [ReceiverPhase.taker, Taker.Stopped])
        placed := receiving.placed.mono (by simp [ReceiverPhase.taker, Taker.Stopped])
        works := rfl
        blame := by simpa [ReceiverPhase.taker] using receiving.blame }

theorem consider_offer (address : UInt64) {capacity : Nat} (receiver : Receiver) {length : Nat}
    (some_length : length ≠ 0) (small : length < 2 ^ 64) (fits : length ≤ capacity) :
    receiver.consider address capacity address (.ofNat length) =
      receiver.goTo (.draining length) := by
  have told : (UInt64.ofNat length).toNat = length := UInt64.toNat_ofNat_of_lt' small
  have nonzero : UInt64.ofNat length ≠ 0 := by
    intro zero
    rw [zero] at told
    exact some_length told.symm
  rw [Receiver.consider, if_neg nonzero, if_neg (by simp), told, if_neg (by omega)]

theorem listen
    (receiving : Receiving arena quiet course number introduced ⟨.ready, progress⟩ source bus files
      ends talk meeting) :
    meeting.act .near = none ∧ ends.near.inbox = [] ∨
      ∃ after, meeting.act .near = some after ∧ Goes arena quiet after := by
  obtain rfl := receiving.works
  obtain ⟨opened, transport⟩ :=
    receiving.near.opened (by simp [ReceiverPhase.taker, Taker.Stopped])
  have asks : meeting.action meeting.engine = .ask .receive _ := receiving.action_near
  obtain ⟨middle, answered, scene⟩ := Station.answer_receive receiving.scene transport
  cases inbox : (ends.atSide .near).inbox with
  | nil =>
    rw [Link.receive_nil opened inbox] at answered scene
    by_cases present : (ends.atSide Side.near.other).status = .opened
    · rw [if_pos present] at answered
      exact .inl ⟨Meeting.act_near_none asks answered, inbox⟩
    · rw [if_neg present] at answered
      obtain ⟨host, acted, scene⟩ := Meeting.act_near_some asks answered scene
      have failed := receiving.far_failed (receiving.handover.goes_on rfl inbox) present
      have wrong := receiving.handover.upset_of_giver failed
      exact .inr ⟨_, acted, course, number, true, _, source, bus, files, ends, talk,
        receiving.near_fails (by simp [ReceiverPhase.taker]) wrong (fun _ => failed) _ scene⟩
  | cons message rest =>
    rw [Link.receive_cons opened inbox] at answered scene
    obtain ⟨host, acted, scene⟩ := Meeting.act_near_some asks answered scene
    rcases receiving.handover.hearOffer rfl inbox with
      ⟨rfl, rfl, some_slice, small, handover⟩ | ⟨rfl, rfl, handover⟩
    · have shown := receiving.shown (.inl rfl)
      have considered := consider_offer arena.address ⟨.ready, progress⟩
        (mt List.length_eq_zero_iff.mp some_slice) small shown.1
      refine .inr ⟨_, acted, .holding, number, true,
        ⟨.draining (arena.receiving.slice number).length, progress⟩, source, bus, files,
        ends.leaving .near rest, talk, ?_⟩
      exact
        { receiving with
          engine := congrArg (fun turn => (Turn.map Engine.receiving turn).next) considered
          scene
          handover
          untouched := by simp
          near := receiving.near.mono (by simp [ReceiverPhase.taker, Taker.Stopped])
          placed := receiving.placed.mono (by simp [ReceiverPhase.taker, Taker.Stopped])
          taken := receiving.taken
          works := ⟨rfl, rfl⟩
          shown := fun _ => shown
          admitted := .inr (receiving.first_fits (by simp))
          blame := by simpa [ReceiverPhase.taker] using receiving.blame }
    · refine .inr ⟨_, acted, .closing, number, true, ⟨.flushing, progress⟩, source, bus, files,
        ends.leaving .near rest, talk, ?_⟩
      exact
        { receiving with
          engine := rfl
          scene
          handover
          untouched := by simp
          near := receiving.near.mono (by simp [ReceiverPhase.taker, Taker.Stopped])
          placed := receiving.placed.mono (by simp [ReceiverPhase.taker, Taker.Stopped])
          taken := receiving.taken
          works := rfl
          shown := by simp
          admitted := .inr (receiving.first_fits (by simp))
          blame := by simpa [ReceiverPhase.taker] using receiving.blame }

theorem drain {length : Nat}
    (receiving : Receiving arena quiet course number introduced ⟨.draining length, progress⟩ source
      bus files ends talk meeting) :
    ∃ after, meeting.act .near = some after ∧ Goes arena quiet after := by
  obtain ⟨rfl, rfl⟩ := receiving.works
  obtain rfl := receiving.handover.course_holding rfl
  have asks : meeting.action meeting.engine = .ask (.drain _) _ := receiving.action_near
  obtain ⟨middle, answered, scene⟩ := Station.answer_drain_relay receiving.scene receiving.stage
    (arena.receiving.slice number).length
  obtain ⟨contents, stage, whole_scratch, supplied⟩ := receiving.scratch
  have size := (bus.extent arena.index).size_read 0 (arena.receiving.slice number).length
  have toList := (bus.extent arena.index).toList_read 0 (arena.receiving.slice number).length
  rw [(receiving.shown (.inr rfl)).2] at toList
  generalize (bus.extent arena.index).read 0 (arena.receiving.slice number).length = bytes
    at answered scene size toList
  have put := receiving.keeps.put bytes
  have target := Writer.target?_put files meeting.own.writer bytes
  have accepting := fun fine => (receiving.calm fine).2.put files bytes
  have others : ∀ contents, meeting.remote.reader.source? = some contents →
      (meeting.own.writer.put files bytes).files.extent contents = files.extent contents :=
    fun contents reads => Writer.extent_put files _ bytes (receiving.apart contents reads)
  generalize meeting.own.writer.put files bytes = result
    at answered scene put target accepting others
  obtain ⟨outcome, writer, changed⟩ := result
  dsimp only at put target others
  obtain ⟨keeps, count, grown, whole⟩ := put
  rw [toList] at grown
  have apart : ∀ contents, meeting.remote.reader.source? = some contents →
      writer.target? ≠ some contents :=
    fun contents reads => target ▸ receiving.apart contents reads
  cases outcome with
  | ok _ =>
    obtain ⟨host, acted, scene⟩ := Meeting.act_near_some asks answered scene
    have handover := receiving.handover.take rfl
    rw [List.take_of_length_le (by rw [← size]; exact whole rfl)] at grown
    dsimp only at handover
    rw [← grown] at handover
    refine ⟨_, acted, .taken, number, true,
      ⟨.clearing (arena.receiving.slice number).length, progress⟩, source, bus, changed, ends, talk,
      ?_⟩
    exact
      { receiving with
        engine := rfl
        scene
        handover
        untouched := by simp
        near := receiving.near.mono (by simp [ReceiverPhase.taker, Taker.Stopped])
        placed := receiving.placed.mono (by simp [ReceiverPhase.taker, Taker.Stopped])
        taken := receiving.taken
        works := ⟨rfl, rfl⟩
        scratch := ⟨contents, stage, whole_scratch, supplied.congr others⟩
        shown := by simp
        keeps
        apart
        calm := fun fine => ⟨(receiving.calm fine).1, (accepting fine).2⟩
        admitted := .inr (receiving.first_fits (by simp))
        blame := by simpa [ReceiverPhase.taker] using receiving.blame }
  | error failure =>
    obtain ⟨host, acted, scene⟩ := Meeting.act_near_some asks answered scene
    have noisy : ¬ quiet := fun fine => by cases (accepting fine).1
    have handover := receiving.handover.breakOff rfl (absurd · noisy) count
    dsimp only at handover
    rw [← grown] at handover
    refine ⟨_, acted, .holding, number, true,
      ⟨.failed (.localIO (Receiver.drainError (arena.receiving.slice number).length failure)),
        progress⟩, source, bus, changed, ends, talk, ?_⟩
    exact
      { receiving with
        engine := rfl
        scene
        handover
        near := receiving.near.mono (by simp [ReceiverPhase.taker, Taker.Stopped])
        placed := receiving.placed.mono (by simp [ReceiverPhase.taker, Taker.Stopped])
        works := trivial
        scratch := ⟨contents, stage, whole_scratch, supplied.congr others⟩
        keeps
        apart
        calm := (absurd · noisy)
        blame := (absurd · noisy) }

/-- Clearing the buffer before it is handed back. -/
theorem clean {length : Nat}
    (receiving : Receiving arena quiet course number introduced ⟨.clearing length, progress⟩ source
      bus files ends talk meeting) :
    ∃ after, meeting.act .near = some after ∧ Goes arena quiet after := by
  obtain ⟨rfl, rfl⟩ := receiving.works
  obtain rfl := receiving.handover.course_taken rfl
  have asks : meeting.action meeting.engine = .ask .clear _ := receiving.action_near
  obtain ⟨middle, answered, scene⟩ := Station.answer_clear_relay receiving.scene receiving.stage
  obtain ⟨host, acted, scene⟩ := Meeting.act_near_some asks answered scene
  have keeping : Bus.Keeping (Extent.clear · 0 arena.room) := fun _ => rfl
  obtain ⟨contents, stage, size, supplied⟩ := receiving.scratch
  have still : source.phase.giver ≠ .preparing := by
    rcases receiving.handover.giver with agreed | failed
    · dsimp only at agreed
      simp [agreed, Course.giver]
    · dsimp only at failed
      simp [failed.2.1]
  refine ⟨_, acted, .taken, number, true,
    ⟨.acknowledging (arena.receiving.slice number).length, progress⟩, source,
    bus.modify arena.index (Extent.clear · 0 arena.room), files, ends, talk, ?_⟩
  exact
    { receiving with
      engine := rfl
      scene
      near := receiving.near.mono (by simp [ReceiverPhase.taker, Taker.Stopped])
      placed := (receiving.placed.modify arena.index keeping).mono
        (by simp [ReceiverPhase.taker, Taker.Stopped])
      works := ⟨rfl, rfl⟩
      scratch := ⟨contents, stage, size, supplied.change (.inr still) _⟩
      shown := by simp
      blame := by simpa [ReceiverPhase.taker] using receiving.blame }

theorem acknowledge {length : Nat}
    (receiving : Receiving arena quiet course number introduced ⟨.acknowledging length, progress⟩
      source bus files ends talk meeting) :
    ∃ after, meeting.act .near = some after ∧ Goes arena quiet after := by
  obtain ⟨rfl, rfl⟩ := receiving.works
  obtain rfl := receiving.handover.course_taken rfl
  obtain ⟨opened, transport⟩ :=
    receiving.near.opened (by simp [ReceiverPhase.taker, Taker.Stopped])
  have asks : meeting.action meeting.engine = .ask (.send (arena.receiving.answerOf number)) _ :=
    receiving.action_near
  obtain ⟨middle, answered, scene⟩ := Station.answer_send receiving.scene transport
    (arena.receiving.answerOf number)
  by_cases gone : (ends.atSide Side.near.other).status = .gone
  · rw [Link.send_gone gone] at answered scene
    obtain ⟨host, acted, scene⟩ := Meeting.act_near_some asks answered scene
    have failed := receiving.far_failed rfl fun held => by cases gone.symm.trans held
    have wrong := receiving.handover.upset_of_giver failed
    exact ⟨_, acted, .taken, number, true, _, source, bus, files, ends, talk,
      receiving.near_fails (by simp [ReceiverPhase.taker]) wrong (fun _ => failed) _ scene⟩
  · rw [Link.send_ok opened gone] at answered scene
    obtain ⟨host, acted, scene⟩ := Meeting.act_near_some asks answered scene
    have waits : source.phase.giver = .waiting ∨ source.phase.giver = .failed :=
      receiving.handover.giver.imp_right fun failed => failed.2.1
    have heard : ∀ inbox, source.phase.answers inbox = inbox := by
      intro inbox
      obtain ⟨phase, counted⟩ := source
      cases phase with
      | opening => simp [SourcePhase.giver] at waits
      | _ => rfl
    have handover := receiving.handover.answer rfl
    dsimp only at handover
    rw [heard, ← heard (ends.far.inbox ++ _)] at handover
    refine ⟨_, acted, .answered, number, true,
      ⟨.ready, progress.confirm (arena.receiving.slice number).length⟩, source, bus, files,
      ends.queued .near (arena.receiving.answerOf number),
      talk ++ [(.near, arena.receiving.answerOf number)], ?_⟩
    exact
      { receiving with
        engine := rfl
        scene
        handover
        said := by
          show meeting.talk ++ [(.near, arena.receiving.answerOf number)] = _
          rw [receiving.said, List.append_assoc]
        greeted := fun opening => by
          rw [opening] at waits
          simp [SourcePhase.giver] at waits
        untouched := by simp
        near := receiving.near.mono (by simp [ReceiverPhase.taker, Taker.Stopped])
        placed := receiving.placed.mono (by simp [ReceiverPhase.taker, Taker.Stopped])
        taken := by
          have before := receiving.taken
          dsimp only at before
          subst before
          simp [Progress.confirm, Course.counted, Terms.before_succ]
        works := rfl
        shown := by simp
        admitted := .inr (receiving.first_fits (by simp))
        blame := by simpa [ReceiverPhase.taker] using receiving.blame }

theorem flush
    (receiving : Receiving arena quiet course number introduced ⟨.flushing, progress⟩ source bus
      files ends talk meeting) :
    ∃ after, meeting.act .near = some after ∧ Goes arena quiet after := by
  obtain rfl := receiving.works
  obtain rfl := receiving.handover.course_closing rfl
  have asks : meeting.action meeting.engine = .ask .flush _ := receiving.action_near
  have answered := Station.answer_flush meeting.own meeting.host
  have accepting := fun fine => (receiving.calm fine).2.flush
  generalize meeting.own.writer.flush = result at answered accepting
  obtain ⟨host, acted, scene⟩ := Meeting.act_near_some asks answered receiving.scene
  cases result with
  | ok _ =>
    refine ⟨_, acted, .finished, number, true, ⟨.completed, progress⟩, source, bus, files, ends,
      talk, ?_⟩
    exact
      { receiving with
        engine := rfl
        scene
        handover := receiving.handover.finish rfl
        untouched := by simp
        near := receiving.near.mono (by simp [ReceiverPhase.taker, Taker.Stopped])
        placed := receiving.placed.mono (by simp [ReceiverPhase.taker, Taker.Stopped])
        taken := receiving.taken
        works := rfl
        shown := by simp
        admitted := .inr (receiving.first_fits (by simp))
        blame := by simpa [ReceiverPhase.taker] using receiving.blame }
  | error cause =>
    have noisy : ¬ quiet := fun fine => by cases accepting fine
    exact ⟨_, acted, .closing, number, true, _, source, bus, files, ends, talk,
      receiving.near_fails (by simp [ReceiverPhase.taker]) (absurd · noisy) (absurd · noisy) _ scene⟩

/-!
## The source
-/

/-- A receiver that has stopped while the source still acts has failed, and not because of the
source. -/
theorem noisy_of_near
    (receiving : Receiving arena quiet course number introduced receiver source bus files ends talk
      meeting) (acts : ¬ source.phase.giver.Stopped) (stopped : receiver.phase.taker.Stopped) :
    ¬ quiet := by
  intro fine
  rcases stopped with finished | failed
  · exact acts (.inl (receiving.handover.done_of_finished finished))
  · exact acts (.inr ((receiving.blame fine).1 failed))

theorem meet
    (receiving : Receiving arena quiet course number introduced receiver ⟨.opening, progress⟩ bus
      files ends talk meeting) :
    meeting.act .far = none ∧ ends.far.inbox = [] ∨
      ∃ after, meeting.act .far = some after ∧ Goes arena quiet after := by
  obtain ⟨opened, transport⟩ :=
    receiving.far.opened (by simp [SourcePhase.giver, Giver.Stopped])
  have asks : Peer.action meeting.capacity meeting.peer = .ask .receive _ := receiving.action_far
  obtain ⟨middle, answered, scene⟩ := Station.answer_receive receiving.scene transport
  obtain rfl := receiving.handover.course_preparing rfl
  have greeted := receiving.greeted rfl
  cases inbox : (ends.atSide .far).inbox with
  | nil =>
    rw [Link.receive_nil opened inbox] at answered scene
    by_cases present : (ends.atSide Side.far.other).status = .opened
    · rw [if_pos present] at answered
      exact .inl ⟨Meeting.act_far_none asks answered, inbox⟩
    · rw [if_neg present] at answered
      obtain ⟨host, acted, scene⟩ := Meeting.act_far_some asks answered scene
      have noisy := receiving.noisy_of_near (by simp [SourcePhase.giver, Giver.Stopped])
        (receiving.near.stopped_of_gone present)
      exact .inr ⟨_, acted, .preparing, number, introduced, receiver, _, bus, files, ends, talk,
        receiving.far_fails (.inl rfl) noisy _ scene⟩
  | cons message rest =>
    rw [Link.receive_cons opened inbox] at answered scene
    obtain ⟨host, acted, scene⟩ := Meeting.act_far_some asks answered scene
    have first : message :: rest = (arena.greeting introduced).map Prod.snd :=
      inbox.symm.trans greeted
    cases introduced with
    | false => cases first
    | true =>
      obtain ⟨rfl, rfl⟩ := List.cons.inj first
      refine .inr ⟨_, acted, .preparing, number, true, receiver,
        ⟨.filling arena.address, progress⟩, bus, files, ends.leaving .far [], talk, ?_⟩
      exact
        { receiving with
          peer := rfl
          scene
          greeted := by simp
          untouched := by simp
          far := receiving.far.mono (by simp [SourcePhase.giver, Giver.Stopped])
          scratch := by
            obtain ⟨contents, stage, size, delivers⟩ := receiving.scratch
            exact ⟨contents, stage, size, rfl, delivers⟩
          blame := by simpa [SourcePhase.giver] using receiving.blame }

theorem fill {address : UInt64}
    (receiving : Receiving arena quiet course number introduced receiver
      ⟨.filling address, progress⟩ bus files ends talk meeting) :
    ∃ after, meeting.act .far = some after ∧ Goes arena quiet after := by
  obtain ⟨contents, stage, size, rfl, delivers⟩ := receiving.scratch
  have filled := delivers.fill arena.most
  have reads := Reader.source?_fill files meeting.remote.reader arena.most
  have unfailing := fun fine => (receiving.calm fine).1.fill files arena.most
  have asks : Peer.action meeting.capacity meeting.peer = .ask .fill _ := receiving.action_far
  obtain ⟨middle, answered, scene⟩ := Station.answer_fill_scratch receiving.scene stage
  rw [size] at answered
  obtain rfl := receiving.handover.course_preparing rfl
  generalize meeting.remote.reader.fill files arena.most = result
    at filled reads unfailing answered
  obtain ⟨bytes, outcome, reader⟩ := result
  dsimp only at filled reads unfailing
  have kept : (contents.write 0 bytes).size = arena.most :=
    (contents.size_write 0 bytes).trans size
  cases outcome with
  | ok _ =>
    obtain ⟨host, acted, scene⟩ := Meeting.act_far_some asks answered scene
    have holds : (contents.write 0 bytes).window 0 bytes.size = arena.receiving.slice number := by
      rw [Extent.window_write]
      exact filled.1
    have length : bytes.size = (arena.receiving.slice number).length := by
      rw [← holds, Extent.length_window]
    have rest : reader.Delivers files (arena.data.drop ((number + 1) * arena.most)) := by
      have next : arena.data.drop ((number + 1) * arena.most) =
          (arena.data.drop (number * arena.most)).drop arena.most := by
        rw [List.drop_drop, Nat.add_mul, Nat.one_mul]
      exact next ▸ filled.2 rfl
    by_cases nothing : bytes.size = 0
    · rw [nothing] at length
      refine ⟨_, acted, .preparing, number, introduced, receiver,
        ⟨.announcing arena.address 0, progress⟩, bus, files, ends, talk, ?_⟩
      exact
        { receiving with
          peer := by
            show Peer.sourcing ⟨if bytes.size = 0 then _ else _, progress⟩ = _
            rw [if_pos nothing]
          scene
          greeted := by simp
          untouched := fun alone => by simpa [SourcePhase.giver] using receiving.untouched alone
          far := receiving.far.mono (by simp [SourcePhase.giver, Giver.Stopped])
          scratch := by
            refine ⟨_, rfl, kept, rfl, length, Nat.zero_le _, rest, ?_⟩
            exact (List.length_eq_zero_iff.mp length.symm).symm
          apart := fun contents found => receiving.apart contents (reads ▸ found)
          calm := fun fine => ⟨(unfailing fine).2, (receiving.calm fine).2⟩
          blame := by simpa [SourcePhase.giver] using receiving.blame }
    · refine ⟨_, acted, .preparing, number, introduced, receiver,
        ⟨.placing arena.address bytes.size, progress⟩, bus, files, ends, talk, ?_⟩
      exact
        { receiving with
          peer := by
            show Peer.sourcing ⟨if bytes.size = 0 then _ else _, progress⟩ = _
            rw [if_neg nothing]
          scene
          greeted := by simp
          untouched := fun alone => by simpa [SourcePhase.giver] using receiving.untouched alone
          far := receiving.far.mono (by simp [SourcePhase.giver, Giver.Stopped])
          scratch := ⟨_, rfl, kept, rfl, length, nothing, rest, holds⟩
          apart := fun contents found => receiving.apart contents (reads ▸ found)
          calm := fun fine => ⟨(unfailing fine).2, (receiving.calm fine).2⟩
          blame := by simpa [SourcePhase.giver] using receiving.blame }
  | error cause =>
    obtain ⟨host, acted, scene⟩ := Meeting.act_far_some asks answered scene
    have noisy : ¬ quiet := fun fine => by cases (unfailing fine).1
    refine ⟨_, acted, .preparing, number, introduced, receiver,
      ⟨.failed (.localIO (.read cause)), progress⟩, bus, files, ends, talk, ?_⟩
    exact
      { receiving with
        peer := rfl
        scene
        handover := receiving.handover.giverFails (absurd · noisy) (.inl rfl) ends.far.inbox
        greeted := by simp
        untouched := fun alone => ⟨rfl, (receiving.untouched alone).2.1, .inr rfl⟩
        far := receiving.far.mono (by simp [SourcePhase.giver, Giver.Stopped])
        scratch := ⟨_, rfl, kept, trivial⟩
        apart := fun contents found => receiving.apart contents (reads ▸ found)
        calm := (absurd · noisy)
        blame := (absurd · noisy) }

/-- A slice that the buffer has room for finds its place there, unless it is noisy. -/
theorem reach {address : UInt64} {length : Nat}
    (receiving : Receiving arena quiet course number introduced receiver
      ⟨.placing address length, progress⟩ bus files ends talk meeting)
    (some_length : (arena.receiving.slice number).length ≠ 0) :
    (arena.receiving.slice number).length ≤ arena.room ∧
        bus.resolve arena.address (arena.receiving.slice number).length = .ok (arena.index, 0) ∨
      (quiet → arena.room < (arena.receiving.slice number).length) ∧
        bus.resolve arena.address (arena.receiving.slice number).length =
          .error (.unmapped arena.address (arena.receiving.slice number).length) := by
  have noisy := receiving.noisy_of_near (by simp [SourcePhase.giver, Giver.Stopped])
  by_cases room : (arena.receiving.slice number).length ≤ arena.room
  · rcases receiving.placed.resolve some_length room with found | ⟨stopped, unmapped⟩
    · exact .inl ⟨room, found⟩
    · exact .inr ⟨(absurd · (noisy stopped)), unmapped (noisy stopped)⟩
  · refine .inr ⟨fun _ => Nat.lt_of_not_le room, ?_⟩
    rcases receiving.placed.unmapped (Nat.lt_of_not_le room) with found | ⟨stopped, unmapped⟩
    · exact found
    · exact unmapped (noisy stopped)

theorem place {address : UInt64} {length : Nat}
    (receiving : Receiving arena quiet course number introduced receiver
      ⟨.placing address length, progress⟩ bus files ends talk meeting) :
    ∃ after, meeting.act .far = some after ∧ Goes arena quiet after := by
  obtain ⟨contents, stage, whole, rfl, rfl, some_length, delivers, holds⟩ := receiving.scratch
  obtain rfl := receiving.handover.course_preparing rfl
  have asks : Peer.action meeting.capacity meeting.peer = .ask (.place arena.address _) _ :=
    receiving.action_far
  have answered := Station.answer_place receiving.scene stage receiving.memory arena.address
    (arena.receiving.slice number).length
  have size := contents.size_read 0 (arena.receiving.slice number).length
  have toList := contents.toList_read 0 (arena.receiving.slice number).length
  rw [holds] at toList
  generalize contents.read 0 (arena.receiving.slice number).length = bytes
    at answered size toList
  rcases receiving.reach some_length with ⟨room, found⟩ | ⟨large, unmapped⟩
  · have write : bus.write arena.address bytes =
        .ok (bus.modify arena.index (Extent.write · 0 bytes)) := by
      rw [Bus.write, size, found]
      rfl
    rw [write] at answered
    obtain ⟨middle, answered, scene⟩ := answered
    obtain ⟨host, acted, scene⟩ := Meeting.act_far_some asks answered scene
    refine ⟨_, acted, .preparing, number, introduced, receiver,
      ⟨.announcing arena.address (arena.receiving.slice number).length, progress⟩,
      bus.modify arena.index (Extent.write · 0 bytes), files, ends, talk, ?_⟩
    exact
      { receiving with
        peer := rfl
        scene
        greeted := by simp
        untouched := fun alone => by simpa [SourcePhase.giver] using receiving.untouched alone
        far := receiving.far.mono (by simp [SourcePhase.giver, Giver.Stopped])
        placed := receiving.placed.modify arena.index (Bus.keeping_write 0 bytes)
        scratch := by
          refine ⟨contents, stage, whole, rfl, rfl, room, delivers, ?_⟩
          rw [Bus.extent_modify receiving.placed.present, if_pos rfl, ← size, Extent.window_write,
            toList]
        shown := by simp
        blame := by simpa [SourcePhase.giver] using receiving.blame }
  · have write : bus.write arena.address bytes =
        .error (.unmapped arena.address (arena.receiving.slice number).length) := by
      rw [Bus.write, size, unmapped]
      rfl
    rw [write] at answered
    obtain ⟨host, acted, scene⟩ := Meeting.act_far_some asks answered receiving.scene
    refine ⟨_, acted, .preparing, number, introduced, receiver,
      ⟨.failed (.allocation (.unmapped arena.address (arena.receiving.slice number).length)),
        progress⟩, bus, files, ends, talk, ?_⟩
    exact
      { receiving with
        peer := rfl
        scene
        handover := by
          refine receiving.handover.giverFails (fun fine => ?_) (.inl rfl) ends.far.inbox
          exact Nat.lt_of_lt_of_le (large fine) (arena.receiving.length_slice_le number)
        greeted := by simp
        untouched := fun alone => ⟨rfl, (receiving.untouched alone).2.1, .inr rfl⟩
        far := receiving.far.mono (by simp [SourcePhase.giver, Giver.Stopped])
        scratch := ⟨contents, stage, whole, trivial⟩
        blame := by
          refine fun fine => ⟨fun _ => rfl, fun error same => ?_⟩
          have first : number = 0 := receiving.admitted.elim And.left fun small =>
            absurd (large fine)
              (Nat.not_lt_of_le (Nat.le_trans (arena.receiving.length_slice_le number) small))
          cases same
          rw [first] }

theorem announce {address : UInt64} {length : Nat} (fits : arena.ReceivingFits)
    (receiving : Receiving arena quiet course number introduced receiver
      ⟨.announcing address length, progress⟩ bus files ends talk meeting) :
    ∃ after, meeting.act .far = some after ∧ Goes arena quiet after := by
  obtain ⟨contents, stage, whole, rfl, rfl, room, delivers, ready⟩ := receiving.scratch
  obtain ⟨opened, transport⟩ :=
    receiving.far.opened (by simp [SourcePhase.giver, Giver.Stopped])
  have asks : Peer.action meeting.capacity meeting.peer =
      .ask (.send (arena.receiving.offerOf number)) _ := receiving.action_far
  obtain ⟨middle, answered, scene⟩ := Station.answer_send receiving.scene transport
    (arena.receiving.offerOf number)
  obtain rfl := receiving.handover.course_preparing rfl
  have known : introduced = true := by
    by_contra alone
    simpa [SourcePhase.giver] using receiving.untouched (Bool.eq_false_iff.mpr alone)
  subst known
  by_cases gone : (ends.atSide Side.far.other).status = .gone
  · rw [Link.send_gone gone] at answered scene
    obtain ⟨host, acted, scene⟩ := Meeting.act_far_some asks answered scene
    have noisy := receiving.noisy_of_near (by simp [SourcePhase.giver, Giver.Stopped])
      (receiving.near.stopped_of_gone fun held => by cases gone.symm.trans held)
    exact ⟨_, acted, .preparing, number, true, receiver, _, bus, files, ends, talk,
      receiving.far_fails (.inl rfl) noisy _ scene⟩
  · rw [Link.send_ok opened gone] at answered scene
    obtain ⟨host, acted, scene⟩ := Meeting.act_far_some asks answered scene
    have said : ∀ message, meeting.talk ++ [(.far, message)] =
        arena.greeting true ++ (talk ++ [(.far, message)]) := by
      intro message
      rw [receiving.said, List.append_assoc]
    have small : (arena.receiving.slice 0).length ≤ arena.room :=
      receiving.admitted.elim (fun first => first.1 ▸ room) id
    by_cases nothing : arena.receiving.slice number = []
    · have last : arena.receiving.offerOf number = arena.receiving.offer 0 := by
        rw [Terms.offerOf, nothing]
        rfl
      have handover := receiving.handover.offerEnd rfl nothing
      rw [← last] at handover
      refine ⟨_, acted, .ended, number, true, receiver, ⟨.finished, progress⟩, bus, files,
        ends.queued .far (arena.receiving.offerOf number),
        talk ++ [(.far, arena.receiving.offerOf number)], ?_⟩
      exact
        { receiving with
          peer := by
            show (Turn.map Peer.sourcing (if _ then _ else _)).next = _
            rw [if_pos (by rw [nothing]; rfl)]
            rfl
          scene
          handover
          said := said _
          greeted := by simp
          untouched := by simp
          far := receiving.far.mono (by simp [SourcePhase.giver, Giver.Stopped])
          scratch := ⟨contents, stage, whole, trivial⟩
          shown := by simp
          admitted := .inr small
          blame := by simpa [SourcePhase.giver] using receiving.blame }
    · have short : (arena.receiving.slice number).length < 2 ^ 64 := by
        have few := fits.small
        simp only [addressSpace] at few
        omega
      have handover := receiving.handover.offer rfl nothing short
      refine ⟨_, acted, .offered, number, true, receiver,
        ⟨.awaiting arena.address (arena.receiving.slice number).length, progress⟩, bus, files,
        ends.queued .far (arena.receiving.offerOf number),
        talk ++ [(.far, arena.receiving.offerOf number)], ?_⟩
      exact
        { receiving with
          peer := by
            show (Turn.map Peer.sourcing (if _ then _ else _)).next = _
            rw [if_neg (mt List.length_eq_zero_iff.mp nothing)]
            rfl
          scene
          handover
          said := said _
          greeted := by simp
          untouched := by simp
          far := receiving.far.mono (by simp [SourcePhase.giver, Giver.Stopped])
          scratch := ⟨contents, stage, whole, rfl, rfl, delivers⟩
          shown := fun _ => ⟨room, ready⟩
          admitted := .inr small
          blame := by simpa [SourcePhase.giver] using receiving.blame }

theorem hear {address : UInt64} {length : Nat} (fits : arena.ReceivingFits)
    (receiving : Receiving arena quiet course number introduced receiver
      ⟨.awaiting address length, progress⟩ bus files ends talk meeting) :
    meeting.act .far = none ∧ ends.far.inbox = [] ∨
      ∃ after, meeting.act .far = some after ∧ Goes arena quiet after := by
  obtain ⟨contents, stage, whole, rfl, rfl, delivers⟩ := receiving.scratch
  obtain ⟨opened, transport⟩ :=
    receiving.far.opened (by simp [SourcePhase.giver, Giver.Stopped])
  have asks : Peer.action meeting.capacity meeting.peer = .ask .receive _ := receiving.action_far
  obtain ⟨middle, answered, scene⟩ := Station.answer_receive receiving.scene transport
  have known : introduced = true := by
    by_contra alone
    simpa [SourcePhase.giver] using receiving.untouched (Bool.eq_false_iff.mpr alone)
  subst known
  cases inbox : (ends.atSide .far).inbox with
  | nil =>
    rw [Link.receive_nil opened inbox] at answered scene
    by_cases present : (ends.atSide Side.far.other).status = .opened
    · rw [if_pos present] at answered
      exact .inl ⟨Meeting.act_far_none asks answered, inbox⟩
    · rw [if_neg present] at answered
      obtain ⟨host, acted, scene⟩ := Meeting.act_far_some asks answered scene
      have noisy := receiving.noisy_of_near (by simp [SourcePhase.giver, Giver.Stopped])
        (receiving.near.stopped_of_gone present)
      exact .inr ⟨_, acted, course, number, true, receiver, _, bus, files, ends, talk,
        receiving.far_fails (.inr rfl) noisy _ scene⟩
  | cons message rest =>
    rw [Link.receive_cons opened inbox] at answered scene
    obtain ⟨rfl, rfl, some_slice, small, handover⟩ :=
      receiving.handover.hearAnswer fits.positive rfl inbox
    obtain ⟨host, acted, scene⟩ := Meeting.act_far_some asks answered scene
    have told : (UInt64.ofNat (arena.receiving.slice number).length).toNat =
        (arena.receiving.slice number).length := UInt64.toNat_ofNat_of_lt' small
    refine .inr ⟨_, acted, .preparing, number + 1, true, receiver,
      ⟨.filling arena.address, progress.confirm (arena.receiving.slice number).length⟩, bus, files,
      ends.leaving .far rest, talk, ?_⟩
    exact
      { receiving with
        peer := by
          show (Turn.map Peer.sourcing (Source.settle _ _ _ (UInt64.ofNat _).toNat)).next = _
          rw [told, Source.settle, if_neg (mt List.length_eq_zero_iff.mp some_slice),
            if_neg (by simp)]
          rfl
        scene
        handover
        greeted := by simp
        untouched := by simp
        far := receiving.far.mono (by simp [SourcePhase.giver, Giver.Stopped])
        taken := receiving.taken
        works := receiving.works.of_listening
          (receiving.handover.taker.imp_right fun failed => failed.2.1) _
        sent := by
          have before := receiving.sent
          dsimp only at before
          subst before
          simp [Progress.confirm, Terms.before_succ]
        scratch := ⟨contents, stage, whole, rfl, delivers⟩
        shown := by simp
        admitted := .inr (receiving.first_fits (by simp))
        blame := by simpa [SourcePhase.giver] using receiving.blame }

/-!
## Every move
-/

theorem act_near
    (receiving : Receiving arena quiet course number introduced receiver source bus files ends talk
      meeting) :
    (meeting.act .near = none ∧ (receiver.phase.taker.Stopped ∨
      receiver.phase.taker = .listening ∧ introduced = true ∧ ends.near.inbox = [])) ∨
      ∃ after, meeting.act .near = some after ∧ Goes arena quiet after := by
  obtain ⟨phase, progress⟩ := receiver
  cases phase with
  | idle => exact .inr receiving.clear
  | introducing => exact .inr receiving.introduce
  | ready =>
    exact receiving.listen.imp_left fun waits => ⟨waits.1, .inr ⟨rfl, receiving.works, waits.2⟩⟩
  | draining length => exact .inr receiving.drain
  | clearing length => exact .inr receiving.clean
  | acknowledging length => exact .inr receiving.acknowledge
  | flushing => exact .inr receiving.flush
  | completed => exact .inl ⟨Meeting.act_near_stop receiving.action_near, .inl (.inl rfl)⟩
  | failed error => exact .inl ⟨Meeting.act_near_stop receiving.action_near, .inl (.inr rfl)⟩

theorem act_far (fits : arena.ReceivingFits)
    (receiving : Receiving arena quiet course number introduced receiver source bus files ends talk
      meeting) :
    (meeting.act .far = none ∧ (source.phase.giver.Stopped ∨
      (source.phase = .opening ∨ source.phase.giver = .waiting) ∧ ends.far.inbox = [])) ∨
      ∃ after, meeting.act .far = some after ∧ Goes arena quiet after := by
  obtain ⟨phase, progress⟩ := source
  cases phase with
  | opening =>
    exact receiving.meet.imp_left fun waits => ⟨waits.1, .inr ⟨.inl rfl, waits.2⟩⟩
  | filling address => exact .inr receiving.fill
  | placing address length => exact .inr receiving.place
  | announcing address length => exact .inr (receiving.announce fits)
  | awaiting address length =>
    exact (receiving.hear fits).imp_left fun waits => ⟨waits.1, .inr ⟨.inr rfl, waits.2⟩⟩
  | finished => exact .inl ⟨Meeting.act_far_stop receiving.action_far, .inl (.inl rfl)⟩
  | failed error => exact .inl ⟨Meeting.act_far_stop receiving.action_far, .inl (.inr rfl)⟩

theorem stopped_of_terminal
    (receiving : Receiving arena quiet course number introduced receiver source bus files ends talk
      meeting) (terminal : meeting.engine.state.isTerminal = true) :
    receiver.phase.taker.Stopped := by
  rw [receiving.engine] at terminal
  obtain ⟨phase, progress⟩ := receiver
  cases phase with
  | completed => exact .inl rfl
  | failed error => exact .inr rfl
  | _ => cases terminal

theorem stopped_of_outcome
    (receiving : Receiving arena quiet course number introduced receiver source bus files ends talk
      meeting) (ended : meeting.peer.outcome?.isSome) : source.phase.giver.Stopped := by
  rw [receiving.peer] at ended
  obtain ⟨phase, progress⟩ := source
  cases phase with
  | finished => exact .inl rfl
  | failed error => exact .inr rfl
  | _ => cases ended

theorem completed
    (receiving : Receiving arena quiet course number introduced receiver source bus files ends talk
      meeting) : meeting.engine.state = .completed ↔ receiver.phase.taker = .finished := by
  rw [receiving.engine, Engine.state]
  obtain ⟨phase, progress⟩ := receiver
  cases phase <;> simp [Receiver.state, ReceiverPhase.taker]

theorem done {result : PeerRole × Progress}
    (receiving : Receiving arena quiet course number introduced receiver source bus files ends talk
      meeting) (ended : meeting.peer.outcome? = some (.ok result)) : source.phase.giver = .done := by
  rw [receiving.peer] at ended
  obtain ⟨phase, progress⟩ := source
  cases phase <;> first | rfl | cases ended

theorem leave_near {after : Meeting}
    (receiving : Receiving arena quiet course number introduced receiver source bus files ends talk
      meeting) (left : meeting.leave .near = some after) : Goes arena quiet after := by
  obtain ⟨terminal, transport, present, rfl⟩ := Meeting.leave_near_inv left
  have stopped := receiving.stopped_of_terminal terminal
  rcases receiving.near with ⟨_, held⟩ | ⟨_, nothing, _⟩
  · cases present.symm.trans held
    exact ⟨course, number, introduced, receiver, source, bus, files, ends.setSide .near ⟨.gone, []⟩,
      talk,
      { receiving with
        scene := receiving.scene.drop
        handover := receiving.handover.takerLeaves stopped
        near := .inr ⟨rfl, rfl, stopped⟩ }⟩
  · cases present.symm.trans nothing

theorem leave_far {after : Meeting}
    (receiving : Receiving arena quiet course number introduced receiver source bus files ends talk
      meeting) (left : meeting.leave .far = some after) : Goes arena quiet after := by
  obtain ⟨ended, transport, present, rfl⟩ := Meeting.leave_far_inv left
  have stopped := receiving.stopped_of_outcome ended
  have past : source.phase ≠ .opening := by
    intro opening
    simp [opening, SourcePhase.giver, Giver.Stopped] at stopped
  rcases receiving.far with ⟨_, held⟩ | ⟨_, nothing, _⟩
  · cases present.symm.trans held
    exact ⟨course, number, introduced, receiver, source, bus, files, ends.setSide .far ⟨.gone, []⟩,
      talk,
      { receiving with
        scene := receiving.scene.drop
        handover := by
          have handover := receiving.handover.giverLeaves stopped
          have nothing : source.phase.answers [] = [] := by cases source.phase <;> rfl
          rw [← nothing] at handover
          exact handover
        greeted := fun opening => absurd opening past
        far := .inr ⟨rfl, rfl, stopped⟩ }⟩
  · cases present.symm.trans nothing

theorem release {after : Meeting}
    (receiving : Receiving arena quiet course number introduced receiver source bus files ends talk
      meeting) (released : meeting.release = some after) : Goes arena quiet after := by
  obtain ⟨terminal, holding, rfl⟩ := Meeting.release_inv released
  have stopped := receiving.stopped_of_terminal terminal
  obtain ⟨held, placed⟩ := receiving.placed.release stopped holding
  obtain ⟨host, gave, scene⟩ := receiving.scene.release arena.address arena.index arena.room
  rw [held, Arena.buffer, gave]
  exact ⟨course, number, introduced, receiver, source, bus.without arena.address, files, ends, talk,
    { receiving with
      scene
      placed }⟩

theorem expire_near {after : Meeting}
    (receiving : Receiving arena quiet course number introduced receiver source bus files ends talk
      meeting) (noisy : ¬ quiet) (expired : meeting.expire .near = some after) :
    Goes arena quiet after := by
  obtain ⟨resume, error, host, asks, rfl, seen⟩ := Meeting.expire_near_inv expired
  rw [receiving.action_near] at asks
  obtain ⟨phase, progress⟩ := receiver
  cases phase with
  | ready =>
    cases asks
    obtain ⟨_, transport⟩ :=
      receiving.near.opened (by simp [ReceiverPhase.taker, Taker.Stopped])
    exact ⟨course, number, introduced, _, source, bus, files, ends, talk,
      receiving.near_fails (by simp [ReceiverPhase.taker]) (absurd · noisy) (absurd · noisy) _
        (seen transport receiving.scene)⟩
  | _ => cases asks

theorem expire_far {after : Meeting}
    (receiving : Receiving arena quiet course number introduced receiver source bus files ends talk
      meeting) (noisy : ¬ quiet) (expired : meeting.expire .far = some after) :
    Goes arena quiet after := by
  obtain ⟨resume, error, host, asks, rfl, seen⟩ := Meeting.expire_far_inv expired
  rw [receiving.action_far] at asks
  obtain ⟨phase, progress⟩ := source
  cases phase with
  | opening =>
    cases asks
    obtain ⟨_, transport⟩ := receiving.far.opened (by simp [SourcePhase.giver, Giver.Stopped])
    exact ⟨course, number, introduced, receiver, _, bus, files, ends, talk,
      receiving.far_fails (.inl rfl) noisy _ (seen transport receiving.scene)⟩
  | awaiting address length =>
    cases asks
    obtain ⟨_, transport⟩ := receiving.far.opened (by simp [SourcePhase.giver, Giver.Stopped])
    exact ⟨course, number, introduced, receiver, _, bus, files, ends, talk,
      receiving.far_fails (.inr rfl) noisy _ (seen transport receiving.scene)⟩
  | _ => cases asks

/-- A receiver that meets a source goes on so after every move. -/
theorem Goes.step (fits : arena.ReceivingFits) {meeting after : Meeting} {move : Move}
    (allowed : (∃ side, move = .expire side) → ¬ quiet) (goes : Goes arena quiet meeting)
    (stepped : meeting.step move = some after) : Goes arena quiet after := by
  obtain ⟨course, number, introduced, receiver, source, bus, files, ends, talk, receiving⟩ := goes
  cases move with
  | act side =>
    cases side with
    | near =>
      rcases receiving.act_near with ⟨nothing, _⟩ | ⟨other, acted, goes⟩
      · cases nothing.symm.trans stepped
      · cases acted.symm.trans stepped
        exact goes
    | far =>
      rcases receiving.act_far fits with ⟨nothing, _⟩ | ⟨other, acted, goes⟩
      · cases nothing.symm.trans stepped
      · cases acted.symm.trans stepped
        exact goes
  | expire side =>
    have noisy := allowed ⟨side, rfl⟩
    cases side with
    | near => exact receiving.expire_near noisy stepped
    | far => exact receiving.expire_far noisy stepped
  | leave side =>
    cases side with
    | near => exact receiving.leave_near stepped
    | far => exact receiving.leave_far stepped
  | release => exact receiving.release stepped

end Receiving

end ChunkRelay
