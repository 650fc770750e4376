import ChunkRelay.Proofs.Exchange.Arena
import ChunkRelay.Proofs.Stream.Intake
import ChunkRelay.Proofs.Stream.Supply

/-! A sender that meets a sink. One invariant says how far both are, which
bytes are in the buffer and in the sink's scratch, and what is on the link.
Every move keeps it. -/

set_option autoImplicit false

namespace ChunkRelay

def SenderPhase.giver : SenderPhase → Giver
  | .idle | .ready | .filling | .announcing _ => .preparing
  | .awaiting _ => .waiting
  | .completed => .done
  | .failed _ => .failed

def SinkPhase.taker : SinkPhase → Taker
  | .awaiting => .listening
  | .fetching _ _ | .draining _ => .holding
  | .acknowledging _ => .taken
  | .flushing => .closing
  | .finished => .finished
  | .failed _ => .failed

/-- What a sender has left to read, and what it has put into the buffer. -/
def SenderPhase.Supplied (terms : Terms) (number : Nat) (files : FileTree) (reader : Reader)
    (buffer : Extent) : SenderPhase → Prop
  | .idle | .ready | .filling => reader.Delivers files (terms.data.drop (number * terms.size))
  | .announcing length => length = (terms.slice number).length ∧
      reader.Delivers files (terms.data.drop ((number + 1) * terms.size)) ∧
      buffer.window 0 length = terms.slice number
  | .awaiting length => length = (terms.slice number).length ∧
      reader.Delivers files (terms.data.drop ((number + 1) * terms.size))
  | .completed | .failed _ => True

def SinkPhase.Works (terms : Terms) (number : Nat) (address : UInt64) (scratch : Extent) :
    SinkPhase → Prop
  | .fetching announced length => announced = address ∧ length = (terms.slice number).length
  | .draining length => length = (terms.slice number).length ∧
      scratch.window 0 length = terms.slice number
  | .acknowledging length => length = (terms.slice number).length
  | .awaiting | .flushing | .finished | .failed _ => True

theorem SenderPhase.Supplied.congr {terms : Terms} {number : Nat} {files others : FileTree}
    {reader : Reader} {buffer : Extent} {phase : SenderPhase}
    (supplied : phase.Supplied terms number files reader buffer)
    (same : ∀ contents, reader.source? = some contents →
      others.extent contents = files.extent contents) :
    phase.Supplied terms number others reader buffer := by
  cases phase with
  | idle | ready | filling => exact Reader.Delivers.congr supplied same
  | announcing length => exact ⟨supplied.1, supplied.2.1.congr same, supplied.2.2⟩
  | awaiting length => exact ⟨supplied.1, supplied.2.congr same⟩
  | completed | failed error => trivial

theorem SinkPhase.works_of_listening {phase : SinkPhase}
    (idle : phase.taker = .listening ∨ phase.taker = .failed) (terms : Terms) (number : Nat)
    (address : UInt64) (scratch : Extent) : phase.Works terms number address scratch := by
  cases phase <;> simp [taker] at idle <;> trivial

/-- A party may fail if its surroundings are noisy, or if the first slice is too large for the
sink. -/
def Arena.SendingUpset (arena : Arena) (quiet : Prop) : Prop :=
  quiet → arena.most < (arena.sending.slice 0).length

/-- A sender and a sink in the course of a slice. Quiet surroundings have local data that never
fail, and no wait that runs out. -/
structure Sending (arena : Arena) (quiet : Prop) (course : Course) (number : Nat)
    (sender : Sender) (sink : Sink) (bus : Bus) (files : FileTree) (ends : Link)
    (meeting : Meeting) : Prop where
  engine : meeting.engine = .sending sender
  peer : meeting.peer = .sinking sink
  scene : Scene arena.link bus files ends meeting.host
  most : meeting.capacity = arena.most
  handover : Handover arena.sending (arena.SendingUpset quiet) course number
    { giver := sender.phase.giver, taker := sink.phase.taker
      offers := ends.far.inbox, answers := ends.near.inbox
      written := meeting.remote.writer.kept files, talk := meeting.talk }
  near : Attached arena.link .near ends meeting.own.transport sender.phase.giver.Stopped
  far : Attached arena.link .far ends meeting.remote.transport sink.phase.taker.Stopped
  placed : Placed arena (¬ quiet) bus meeting.buffer sender.phase.giver.Stopped
  stage : meeting.own.stage = .relay arena.buffer
  sent : sender.progress = ⟨(arena.sending.before number).length, number⟩
  supplied : sender.phase.Supplied arena.sending number files meeting.own.reader
    (bus.extent arena.index)
  shown : course = .offered ∨ course = .holding →
    (bus.extent arena.index).window 0 (arena.sending.slice number).length =
      arena.sending.slice number
  taken : sink.progress =
    ⟨(arena.sending.before (course.counted number)).length, course.counted number⟩
  memory : meeting.remote.memory = .throughBus
  scratch : ∃ contents, meeting.remote.stage = .scratch contents ∧
    sink.phase.Works arena.sending number arena.address contents
  keeps : meeting.remote.writer.Keeps files
  apart : ∀ contents, meeting.own.reader.source? = some contents →
    meeting.remote.writer.target? ≠ some contents
  calm : quiet → meeting.own.reader.Unfailing ∧ meeting.remote.writer.Accepting
  admitted : number = 0 ∧ (course = .preparing ∨ course = .offered) ∨
    (arena.sending.slice 0).length ≤ arena.most
  blame : quiet → (sender.phase.giver = .failed → sink.phase.taker = .failed) ∧
    ∀ error, sink.phase = .failed error →
      error = .protocol (.oversizedChunk (arena.sending.slice 0).length arena.most)

/-- What stays as it is for a sender that meets a sink. -/
structure Arena.SendingFits (arena : Arena) : Prop where
  positive : arena.room ≠ 0
  small : arena.room < addressSpace

namespace Sending

variable {arena : Arena} {quiet : Prop} {course : Course} {number : Nat} {phase : SenderPhase}
  {progress : Progress} {sender : Sender} {sink : Sink} {bus : Bus} {files : FileTree}
  {ends : Link} {meeting : Meeting}

/-- A meeting at which some course of some slice goes on. -/
def Goes (arena : Arena) (quiet : Prop) (meeting : Meeting) : Prop :=
  ∃ course number sender sink bus files ends,
    Sending arena quiet course number sender sink bus files ends meeting

theorem action_near
    (sending : Sending arena quiet course number sender sink bus files ends meeting) :
    meeting.action meeting.engine = (sender.action arena.address).map .sending := by
  rw [Meeting.action, sending.engine, Engine.action, sending.placed.address]

theorem action_far
    (sending : Sending arena quiet course number sender sink bus files ends meeting) :
    Peer.action meeting.capacity meeting.peer = (sink.action arena.most).map .sinking := by
  rw [sending.peer, Peer.action, sending.most]

theorem course_preparing
    (sending : Sending arena quiet course number sender sink bus files ends meeting)
    (prepares : sender.phase.giver = .preparing) : course = .preparing :=
  sending.handover.course_preparing prepares

/-- Once a slice was taken from the link, the first one had its place. -/
theorem first_fits
    (sending : Sending arena quiet course number sender sink bus files ends meeting)
    (late : course ≠ .preparing ∧ course ≠ .offered) :
    (arena.sending.slice 0).length ≤ arena.most := by
  rcases sending.admitted with ⟨_, early | early⟩ | small
  · exact absurd early late.1
  · exact absurd early late.2
  · exact small

/-- A sender that fails on its way, with its reader and the buffer as they were. -/
theorem near_fails
    (sending : Sending arena quiet course number ⟨phase, progress⟩ sink bus files ends meeting)
    (runs : phase.giver = .preparing ∨ phase.giver = .waiting) (wrong : arena.SendingUpset quiet)
    (known : quiet → sink.phase.taker = .failed) (error : RelayError) {host : Host}
    (scene : Scene arena.link bus files ends host) :
    Sending arena quiet course number ⟨.failed error, progress⟩ sink bus files ends
      { meeting with host, engine := .sending ⟨.failed error, progress⟩ } :=
  { sending with
    engine := rfl
    scene
    handover := sending.handover.giverFails wrong runs ends.near.inbox
    near := sending.near.mono fun _ => .inr rfl
    placed := sending.placed.mono fun _ => .inr rfl
    supplied := trivial
    blame := fun fine => ⟨fun _ => known fine, (sending.blame fine).2⟩ }

/-- A sink that fails because it is noisy, with its scratch and its writer as they were. -/
theorem far_fails {phase : SinkPhase}
    (sending : Sending arena quiet course number sender ⟨phase, progress⟩ bus files ends meeting)
    (runs : phase.taker ≠ .finished) (noisy : ¬ quiet) (error : RelayError) {host : Host}
    (scene : Scene arena.link bus files ends host) :
    Sending arena quiet course number sender ⟨.failed error, progress⟩ bus files ends
      { meeting with host, peer := .sinking ⟨.failed error, progress⟩ } :=
  { sending with
    peer := rfl
    scene
    handover := sending.handover.takerFails (absurd · noisy) runs ends.far.inbox
    far := sending.far.mono fun _ => .inr rfl
    scratch := sending.scratch.imp fun _ works => ⟨works.1, trivial⟩
    blame := (absurd · noisy) }

/-!
## The sender
-/

theorem clear (sending : Sending arena quiet course number sender sink bus files ends meeting)
    (starts : sender.phase = .idle ∨ sender.phase = .ready) :
    ∃ after, meeting.act .near = some after ∧ Goes arena quiet after := by
  have prepares : sender.phase.giver = .preparing := by
    rcases starts with phase | phase <;> rw [phase] <;> rfl
  have delivers :
      meeting.own.reader.Delivers files (arena.sending.data.drop (number * arena.sending.size)) := by
    have supplied := sending.supplied
    rcases starts with phase | phase <;> rwa [phase] at supplied
  have asks : meeting.action meeting.engine =
      .ask .clear fun () => ⟨.sending { sender with phase := .filling }, []⟩ := by
    rw [sending.action_near, Sender.action]
    rcases starts with phase | phase <;> rw [phase] <;> rfl
  obtain ⟨middle, answered, scene⟩ := Station.answer_clear_relay sending.scene sending.stage
  obtain ⟨host, acted, scene⟩ := Meeting.act_near_some asks answered scene
  have keeping : Bus.Keeping (Extent.clear · 0 arena.room) := fun _ => rfl
  have handover := sending.handover
  rw [prepares] at handover
  have now := sending.course_preparing prepares
  refine ⟨_, acted, course, number, { sender with phase := .filling }, sink,
    bus.modify arena.index (Extent.clear · 0 arena.room), files, ends, ?_⟩
  exact
    { sending with
      engine := rfl
      scene
      handover
      near := sending.near.mono (by simp [prepares, Giver.Stopped])
      placed := (sending.placed.modify arena.index keeping).mono (by simp [prepares, Giver.Stopped])
      supplied := delivers
      shown := by
        rw [now]
        simp
      blame := fun fine => ⟨by simp [SenderPhase.giver], (sending.blame fine).2⟩ }

theorem fill
    (sending : Sending arena quiet course number ⟨.filling, progress⟩ sink bus files ends meeting) :
    ∃ after, meeting.act .near = some after ∧ Goes arena quiet after := by
  have supplied : meeting.own.reader.Delivers files (arena.data.drop (number * arena.room)) :=
    sending.supplied
  have filled := supplied.fill arena.room
  have source := Reader.source?_fill files meeting.own.reader arena.room
  have unfailing := fun fine => (sending.calm fine).1.fill files arena.room
  have asks : meeting.action meeting.engine = .ask .fill _ := sending.action_near
  obtain ⟨middle, answered, scene⟩ := Station.answer_fill_relay sending.scene sending.stage
  have now := sending.course_preparing rfl
  generalize meeting.own.reader.fill files arena.room = result at filled source unfailing answered scene
  obtain ⟨bytes, outcome, reader⟩ := result
  have keeping := Bus.keeping_write 0 bytes
  cases outcome with
  | ok _ =>
    obtain ⟨host, acted, scene⟩ := Meeting.act_near_some asks answered scene
    have length : bytes.size = (arena.sending.slice number).length := by
      rw [← ByteArray.size_data, ← Array.length_toList, filled.1]
      rfl
    have next : arena.data.drop ((number + 1) * arena.room) =
        (arena.data.drop (number * arena.room)).drop arena.room := by
      rw [List.drop_drop, Nat.add_mul, Nat.one_mul]
    refine ⟨_, acted, course, number, ⟨.announcing bytes.size, progress⟩, sink,
      bus.modify arena.index (Extent.write · 0 bytes), files, ends, ?_⟩
    exact
      { sending with
        engine := rfl
        scene
        near := sending.near.mono (by simp [SenderPhase.giver, Giver.Stopped])
        placed := (sending.placed.modify arena.index keeping).mono
          (by simp [SenderPhase.giver, Giver.Stopped])
        supplied := by
          refine ⟨length, ?_, ?_⟩
          · exact next ▸ filled.2 rfl
          · rw [Bus.extent_modify sending.placed.present, if_pos rfl, Extent.window_write]
            exact filled.1
        shown := by
          rw [now]
          simp
        apart := fun contents found => sending.apart contents (source ▸ found)
        calm := fun fine => ⟨(unfailing fine).2, (sending.calm fine).2⟩
        blame := by simpa [SenderPhase.giver] using sending.blame }
  | error cause =>
    obtain ⟨host, acted, scene⟩ := Meeting.act_near_some asks answered scene
    have noisy : ¬ quiet := fun fine => by cases (unfailing fine).1
    refine ⟨_, acted, course, number, ⟨.failed (.localIO (.read cause)), progress⟩, sink,
      bus.modify arena.index (Extent.write · 0 bytes), files, ends, ?_⟩
    exact
      { sending with
        engine := rfl
        scene
        handover := sending.handover.giverFails (absurd · noisy) (.inl rfl) ends.near.inbox
        near := sending.near.mono (by simp [SenderPhase.giver, Giver.Stopped])
        placed := (sending.placed.modify arena.index keeping).mono
          (by simp [SenderPhase.giver, Giver.Stopped])
        supplied := trivial
        shown := by
          rw [now]
          simp
        apart := fun contents found => sending.apart contents (source ▸ found)
        calm := (absurd · noisy)
        blame := (absurd · noisy) }

/-- A sink that is gone while the sender still acts has failed. -/
theorem far_failed (sending : Sending arena quiet course number sender sink bus files ends meeting)
    (runs : sender.phase.giver ≠ .done) (gone : ends.far.status ≠ .opened) :
    sink.phase.taker = .failed := by
  rcases sending.far.stopped_of_gone gone with finished | failed
  · exact absurd (sending.handover.done_of_finished finished) runs
  · exact failed

theorem announce {length : Nat} (fits : arena.SendingFits)
    (sending : Sending arena quiet course number ⟨.announcing length, progress⟩ sink bus files ends
      meeting) :
    ∃ after, meeting.act .near = some after ∧ Goes arena quiet after := by
  obtain ⟨rfl, delivers, ready⟩ := sending.supplied
  obtain ⟨opened, transport⟩ :=
    sending.near.opened (by simp [SenderPhase.giver, Giver.Stopped])
  have asks : meeting.action meeting.engine = .ask (.send (arena.sending.offerOf number)) _ :=
    sending.action_near
  obtain ⟨middle, answered, scene⟩ := Station.answer_send sending.scene transport
    (arena.sending.offerOf number)
  obtain rfl := sending.course_preparing rfl
  by_cases gone : (ends.atSide Side.near.other).status = .gone
  · rw [Link.send_gone gone] at answered scene
    obtain ⟨host, acted, scene⟩ := Meeting.act_near_some asks answered scene
    have failed := sending.far_failed (by simp [SenderPhase.giver])
      fun held => by cases gone.symm.trans held
    have wrong := sending.handover.upset_of_taker failed
    exact ⟨_, acted, .preparing, number, _, sink, bus, files, ends,
      sending.near_fails (.inl rfl) wrong (fun _ => failed) _ scene⟩
  · rw [Link.send_ok opened gone] at answered scene
    obtain ⟨host, acted, scene⟩ := Meeting.act_near_some asks answered scene
    by_cases nothing : arena.sending.slice number = []
    · have last : arena.sending.offerOf number = arena.sending.offer 0 := by
        rw [Terms.offerOf, nothing]
        rfl
      have handover := sending.handover.offerEnd rfl nothing
      rw [← last] at handover
      refine ⟨_, acted, .ended, number, ⟨.completed, progress⟩, sink, bus, files,
        ends.queued .near (arena.sending.offerOf number), ?_⟩
      exact
        { sending with
          engine := by
            show (Turn.map Engine.sending (if _ then _ else _)).next = _
            rw [if_pos (by rw [nothing]; rfl)]
            rfl
          scene
          handover
          near := sending.near.mono (by simp [SenderPhase.giver, Giver.Stopped])
          placed := sending.placed.mono (by simp [SenderPhase.giver, Giver.Stopped])
          supplied := trivial
          shown := by simp
          admitted := .inr (sending.admitted.elim (fun first => by
            rw [first.1] at nothing
            simp [nothing]) id)
          blame := by simpa [SenderPhase.giver] using sending.blame }
    · have small : (arena.sending.slice number).length < 2 ^ 64 := by
        have bound : (arena.sending.slice number).length ≤ arena.room := List.length_take_le _ _
        have few := fits.small
        simp only [addressSpace] at few
        omega
      have handover := sending.handover.offer rfl nothing small
      refine ⟨_, acted, .offered, number,
        ⟨.awaiting (arena.sending.slice number).length, progress⟩, sink, bus, files,
        ends.queued .near (arena.sending.offerOf number), ?_⟩
      exact
        { sending with
          engine := by
            show (Turn.map Engine.sending (if _ then _ else _)).next = _
            rw [if_neg (mt List.length_eq_zero_iff.mp nothing)]
            rfl
          scene
          handover
          near := sending.near.mono (by simp [SenderPhase.giver, Giver.Stopped])
          placed := sending.placed.mono (by simp [SenderPhase.giver, Giver.Stopped])
          supplied := ⟨rfl, delivers⟩
          shown := fun _ => ready
          admitted := sending.admitted.imp_left fun first => ⟨first.1, .inr rfl⟩
          blame := by simpa [SenderPhase.giver] using sending.blame }

theorem hear {length : Nat} (fits : arena.SendingFits)
    (sending : Sending arena quiet course number ⟨.awaiting length, progress⟩ sink bus files ends
      meeting) :
    meeting.act .near = none ∧ ends.near.inbox = [] ∨
      ∃ after, meeting.act .near = some after ∧ Goes arena quiet after := by
  obtain ⟨rfl, delivers⟩ := sending.supplied
  obtain ⟨opened, transport⟩ :=
    sending.near.opened (by simp [SenderPhase.giver, Giver.Stopped])
  have asks : meeting.action meeting.engine = .ask .receive _ := sending.action_near
  obtain ⟨middle, answered, scene⟩ := Station.answer_receive sending.scene transport
  cases inbox : (ends.atSide .near).inbox with
  | nil =>
    rw [Link.receive_nil opened inbox] at answered scene
    by_cases present : (ends.atSide Side.near.other).status = .opened
    · rw [if_pos present] at answered
      exact .inl ⟨Meeting.act_near_none asks answered, inbox⟩
    · rw [if_neg present] at answered
      obtain ⟨host, acted, scene⟩ := Meeting.act_near_some asks answered scene
      have failed := sending.far_failed (by simp [SenderPhase.giver]) present
      have wrong := sending.handover.upset_of_taker failed
      exact .inr ⟨_, acted, course, number, _, sink, bus, files, ends,
        sending.near_fails (.inr rfl) wrong (fun _ => failed) _ scene⟩
  | cons message rest =>
    rw [Link.receive_cons opened inbox] at answered scene
    obtain ⟨rfl, rfl, some_slice, small, handover⟩ :=
      sending.handover.hearAnswer fits.positive rfl inbox
    obtain ⟨host, acted, scene⟩ := Meeting.act_near_some asks answered scene
    have told : (UInt64.ofNat (arena.sending.slice number).length).toNat =
        (arena.sending.slice number).length := UInt64.toNat_ofNat_of_lt' small
    refine .inr ⟨_, acted, .preparing, number + 1,
      ⟨.ready, progress.confirm (arena.sending.slice number).length⟩, sink, bus, files,
      ends.leaving .near rest, ?_⟩
    exact
      { sending with
        engine := by
          show (Turn.map Engine.sending (Sender.settle _ _ (UInt64.ofNat _).toNat)).next = _
          rw [told, Sender.settle, if_neg (mt List.length_eq_zero_iff.mp some_slice), if_neg (by simp)]
          rfl
        scene
        handover
        near := sending.near.mono (by simp [SenderPhase.giver, Giver.Stopped])
        placed := sending.placed.mono (by simp [SenderPhase.giver, Giver.Stopped])
        sent := by
          have before := sending.sent
          dsimp only at before
          subst before
          simp [Progress.confirm, Terms.before_succ]
        supplied := delivers
        shown := by simp
        taken := sending.taken
        scratch := by
          obtain ⟨contents, stage, _⟩ := sending.scratch
          exact ⟨contents, stage, SinkPhase.works_of_listening
            (sending.handover.taker.imp_right fun failed => failed.2.1) _ _ _ _⟩
        admitted := .inr (sending.first_fits ⟨by simp, by simp⟩)
        blame := by simpa [SenderPhase.giver] using sending.blame }

/-!
## The sink
-/

/-- A sender that is gone while the sink still waits for it has failed, and not because of the
sink. -/
theorem noisy_of_near
    (sending : Sending arena quiet course number sender sink bus files ends meeting)
    (goes : course.isOver = false) (runs : sink.phase.taker ≠ .failed)
    (stopped : sender.phase.giver.Stopped) : ¬ quiet := by
  intro fine
  rcases stopped with done | failed
  · have agreed := sending.handover.giver
    dsimp only at agreed
    rw [done] at agreed
    cases course <;> simp [Course.giver] at agreed <;> cases goes
  · exact runs ((sending.blame fine).1 failed)

theorem consider_offer (capacity : Nat) (sink : Sink) (address : UInt64) {length : Nat}
    (some_length : length ≠ 0) (small : length < 2 ^ 64) :
    sink.consider capacity (.dataReady address (.ofNat length)) =
      if capacity < length then sink.fail (.protocol (.oversizedChunk length capacity))
      else sink.goTo (.fetching address length) := by
  have told : (UInt64.ofNat length).toNat = length := UInt64.toNat_ofNat_of_lt' small
  have nonzero : UInt64.ofNat length ≠ 0 := by
    intro zero
    rw [zero] at told
    exact some_length told.symm
  rw [Sink.consider, if_neg nonzero, told]

theorem listen
    (sending : Sending arena quiet course number sender ⟨.awaiting, progress⟩ bus files ends
      meeting) :
    meeting.act .far = none ∧ ends.far.inbox = [] ∨
      ∃ after, meeting.act .far = some after ∧ Goes arena quiet after := by
  obtain ⟨opened, transport⟩ :=
    sending.far.opened (by simp [SinkPhase.taker, Taker.Stopped])
  have asks : Peer.action meeting.capacity meeting.peer = .ask .receive _ := sending.action_far
  obtain ⟨middle, answered, scene⟩ := Station.answer_receive sending.scene transport
  obtain ⟨contents, stage, _⟩ := sending.scratch
  cases inbox : (ends.atSide .far).inbox with
  | nil =>
    rw [Link.receive_nil opened inbox] at answered scene
    by_cases present : (ends.atSide Side.far.other).status = .opened
    · rw [if_pos present] at answered
      exact .inl ⟨Meeting.act_far_none asks answered, inbox⟩
    · rw [if_neg present] at answered
      obtain ⟨host, acted, scene⟩ := Meeting.act_far_some asks answered scene
      have noisy := sending.noisy_of_near (sending.handover.goes_on rfl inbox)
        (by simp [SinkPhase.taker]) (sending.near.stopped_of_gone present)
      exact .inr ⟨_, acted, course, number, sender, _, bus, files, ends,
        sending.far_fails (by simp [SinkPhase.taker]) noisy _ scene⟩
  | cons message rest =>
    rw [Link.receive_cons opened inbox] at answered scene
    obtain ⟨host, acted, scene⟩ := Meeting.act_far_some asks answered scene
    rcases sending.handover.hearOffer rfl inbox with
      ⟨rfl, rfl, some_slice, small, handover⟩ | ⟨rfl, rfl, handover⟩
    · have considered := consider_offer arena.most ⟨.awaiting, progress⟩ arena.address
        (mt List.length_eq_zero_iff.mp some_slice) small
      by_cases large : arena.most < (arena.sending.slice number).length
      · rw [if_pos large] at considered
        have first : number = 0 := sending.admitted.elim And.left fun small =>
          absurd large (Nat.not_lt_of_le (Nat.le_trans (arena.sending.length_slice_le number) small))
        subst first
        refine .inr ⟨_, acted, .offered, 0, sender,
          ⟨.failed (.protocol (.oversizedChunk (arena.sending.slice 0).length arena.most)),
            progress⟩, bus, files, ends.leaving .far rest, ?_⟩
        exact
          { sending with
            peer := congrArg (fun turn => (Turn.map Peer.sinking turn).next) considered
            scene
            handover := sending.handover.takerFails (fun _ => large) (by simp [SinkPhase.taker]) rest
            far := sending.far.mono (by simp [SinkPhase.taker, Taker.Stopped])
            scratch := ⟨contents, stage, trivial⟩
            blame := fun _ => ⟨fun _ => rfl, fun error same => by cases same; rfl⟩ }
      · rw [if_neg large] at considered
        refine .inr ⟨_, acted, .holding, number, sender,
          ⟨.fetching arena.address (arena.sending.slice number).length, progress⟩, bus, files,
          ends.leaving .far rest, ?_⟩
        exact
          { sending with
            peer := congrArg (fun turn => (Turn.map Peer.sinking turn).next) considered
            scene
            handover
            far := sending.far.mono (by simp [SinkPhase.taker, Taker.Stopped])
            shown := fun _ => sending.shown (.inl rfl)
            taken := sending.taken
            scratch := ⟨contents, stage, rfl, rfl⟩
            admitted := .inr (sending.admitted.elim
              (fun first => first.1 ▸ Nat.le_of_not_lt large) id)
            blame := by simpa [SinkPhase.taker] using sending.blame }
    · refine .inr ⟨_, acted, .closing, number, sender, ⟨.flushing, progress⟩, bus, files,
        ends.leaving .far rest, ?_⟩
      exact
        { sending with
          peer := rfl
          scene
          handover
          far := sending.far.mono (by simp [SinkPhase.taker, Taker.Stopped])
          shown := by simp
          taken := sending.taken
          scratch := ⟨contents, stage, trivial⟩
          admitted := .inr (sending.first_fits ⟨by simp, by simp⟩)
          blame := by simpa [SinkPhase.taker] using sending.blame }

theorem fetch {address : UInt64} {length : Nat}
    (sending : Sending arena quiet course number sender ⟨.fetching address length, progress⟩ bus
      files ends meeting) :
    ∃ after, meeting.act .far = some after ∧ Goes arena quiet after := by
  obtain ⟨contents, stage, rfl, rfl⟩ := sending.scratch
  obtain rfl := sending.handover.course_holding rfl
  have asks : Peer.action meeting.capacity meeting.peer = .ask (.fetch arena.address _) _ :=
    sending.action_far
  obtain ⟨some_slice, small⟩ := sending.handover.slice Course.noConfusion
  have some_length := mt List.length_eq_zero_iff.mp some_slice
  have bound : (arena.sending.slice number).length ≤ arena.room := List.length_take_le _ _
  have shown := sending.shown (.inr rfl)
  have answered := Station.answer_fetch sending.scene stage sending.memory arena.address
    (arena.sending.slice number).length
  rcases sending.placed.resolve some_length bound with found | ⟨stopped, unmapped⟩
  · have read : bus.read arena.address (arena.sending.slice number).length =
        .ok ((bus.extent arena.index).read 0 (arena.sending.slice number).length) := by
      rw [Bus.read, found]
      rfl
    rw [read] at answered
    obtain ⟨host, acted, scene⟩ := Meeting.act_far_some asks answered sending.scene
    generalize holds : (bus.extent arena.index).read 0 (arena.sending.slice number).length = bytes
      at acted
    have copied : (contents.write 0 bytes).window 0 (arena.sending.slice number).length =
        arena.sending.slice number := by
      have size : bytes.size = (arena.sending.slice number).length := by
        rw [← holds, Extent.size_read]
      rw [← size, Extent.window_write, ← holds, Extent.toList_read, shown]
    refine ⟨_, acted, .holding, number, sender,
      ⟨.draining (arena.sending.slice number).length, progress⟩, bus, files, ends, ?_⟩
    exact
      { sending with
        peer := rfl
        scene
        far := sending.far.mono (by simp [SinkPhase.taker, Taker.Stopped])
        scratch := ⟨contents.write 0 bytes, rfl, rfl, copied⟩
        blame := by simpa [SinkPhase.taker] using sending.blame }
  · have noisy := sending.noisy_of_near rfl (by simp [SinkPhase.taker]) stopped
    have read : bus.read arena.address (arena.sending.slice number).length =
        .error (.unmapped arena.address (arena.sending.slice number).length) := by
      rw [Bus.read, unmapped noisy]
      rfl
    rw [read] at answered
    obtain ⟨host, acted, scene⟩ := Meeting.act_far_some asks answered sending.scene
    exact ⟨_, acted, .holding, number, sender, _, bus, files, ends,
      sending.far_fails (by simp [SinkPhase.taker]) noisy _ scene⟩

theorem drain {length : Nat}
    (sending : Sending arena quiet course number sender ⟨.draining length, progress⟩ bus files ends
      meeting) :
    ∃ after, meeting.act .far = some after ∧ Goes arena quiet after := by
  obtain ⟨contents, stage, rfl, holds⟩ := sending.scratch
  obtain rfl := sending.handover.course_holding rfl
  have asks : Peer.action meeting.capacity meeting.peer = .ask (.drain _) _ := sending.action_far
  obtain ⟨middle, answered, scene⟩ := Station.answer_drain_scratch sending.scene stage
    (arena.sending.slice number).length
  have size := contents.size_read 0 (arena.sending.slice number).length
  have toList := contents.toList_read 0 (arena.sending.slice number).length
  rw [holds] at toList
  generalize contents.read 0 (arena.sending.slice number).length = bytes
    at answered scene size toList
  have put := sending.keeps.put bytes
  have target := Writer.target?_put files meeting.remote.writer bytes
  have accepting := fun fine => (sending.calm fine).2.put files bytes
  have others : ∀ contents, meeting.own.reader.source? = some contents →
      (meeting.remote.writer.put files bytes).files.extent contents = files.extent contents :=
    fun contents reads => Writer.extent_put files _ bytes (sending.apart contents reads)
  generalize meeting.remote.writer.put files bytes = result
    at answered scene put target accepting others
  obtain ⟨outcome, writer, changed⟩ := result
  dsimp only at put target others
  obtain ⟨keeps, count, grown, whole⟩ := put
  rw [toList] at grown
  have apart : ∀ contents, meeting.own.reader.source? = some contents →
      writer.target? ≠ some contents := fun contents reads => target ▸ sending.apart contents reads
  cases outcome with
  | ok _ =>
    obtain ⟨host, acted, scene⟩ := Meeting.act_far_some asks answered scene
    have handover := sending.handover.take rfl
    rw [List.take_of_length_le (by rw [← size]; exact whole rfl)] at grown
    dsimp only at handover
    rw [← grown] at handover
    refine ⟨_, acted, .taken, number, sender,
      ⟨.acknowledging (arena.sending.slice number).length, progress⟩, bus, changed, ends, ?_⟩
    exact
      { sending with
        peer := rfl
        scene
        handover
        far := sending.far.mono (by simp [SinkPhase.taker, Taker.Stopped])
        supplied := sending.supplied.congr others
        shown := by simp
        taken := sending.taken
        scratch := ⟨contents, stage, rfl⟩
        keeps
        apart
        calm := fun fine => ⟨(sending.calm fine).1, (accepting fine).2⟩
        admitted := .inr (sending.first_fits ⟨by simp, by simp⟩)
        blame := by simpa [SinkPhase.taker] using sending.blame }
  | error failure =>
    obtain ⟨host, acted, scene⟩ := Meeting.act_far_some asks answered scene
    have noisy : ¬ quiet := fun fine => by cases (accepting fine).1
    have handover := sending.handover.breakOff rfl (absurd · noisy) count
    dsimp only at handover
    rw [← grown] at handover
    refine ⟨_, acted, .holding, number, sender,
      ⟨.failed (.localIO (Sink.drainError failure)), progress⟩, bus, changed, ends, ?_⟩
    exact
      { sending with
        peer := rfl
        scene
        handover
        far := sending.far.mono (by simp [SinkPhase.taker, Taker.Stopped])
        supplied := sending.supplied.congr others
        scratch := ⟨contents, stage, trivial⟩
        keeps
        apart
        calm := (absurd · noisy)
        blame := (absurd · noisy) }

theorem acknowledge {length : Nat}
    (sending : Sending arena quiet course number sender ⟨.acknowledging length, progress⟩ bus files
      ends meeting) :
    ∃ after, meeting.act .far = some after ∧ Goes arena quiet after := by
  obtain ⟨contents, stage, rfl⟩ := sending.scratch
  obtain rfl := sending.handover.course_taken rfl
  obtain ⟨opened, transport⟩ :=
    sending.far.opened (by simp [SinkPhase.taker, Taker.Stopped])
  have asks : Peer.action meeting.capacity meeting.peer =
      .ask (.send (arena.sending.answerOf number)) _ := sending.action_far
  obtain ⟨middle, answered, scene⟩ := Station.answer_send sending.scene transport
    (arena.sending.answerOf number)
  by_cases gone : (ends.atSide Side.far.other).status = .gone
  · rw [Link.send_gone gone] at answered scene
    obtain ⟨host, acted, scene⟩ := Meeting.act_far_some asks answered scene
    have noisy := sending.noisy_of_near rfl (by simp [SinkPhase.taker])
      (sending.near.stopped_of_gone fun held => by cases gone.symm.trans held)
    exact ⟨_, acted, .taken, number, sender, _, bus, files, ends,
      sending.far_fails (by simp [SinkPhase.taker]) noisy _ scene⟩
  · rw [Link.send_ok opened gone] at answered scene
    obtain ⟨host, acted, scene⟩ := Meeting.act_far_some asks answered scene
    refine ⟨_, acted, .answered, number, sender,
      ⟨.awaiting, progress.confirm (arena.sending.slice number).length⟩, bus, files,
      ends.queued .far (arena.sending.answerOf number), ?_⟩
    exact
      { sending with
        peer := rfl
        scene
        handover := sending.handover.answer rfl
        far := sending.far.mono (by simp [SinkPhase.taker, Taker.Stopped])
        shown := by simp
        taken := by
          have before := sending.taken
          dsimp only at before
          subst before
          simp [Progress.confirm, Course.counted, Terms.before_succ]
        scratch := ⟨contents, stage, trivial⟩
        admitted := .inr (sending.first_fits ⟨by simp, by simp⟩)
        blame := by simpa [SinkPhase.taker] using sending.blame }

theorem flush
    (sending : Sending arena quiet course number sender ⟨.flushing, progress⟩ bus files ends
      meeting) :
    ∃ after, meeting.act .far = some after ∧ Goes arena quiet after := by
  obtain rfl := sending.handover.course_closing rfl
  have asks : Peer.action meeting.capacity meeting.peer = .ask .flush _ := sending.action_far
  have answered := Station.answer_flush meeting.remote meeting.host
  obtain ⟨contents, stage, _⟩ := sending.scratch
  have accepting := fun fine => (sending.calm fine).2.flush
  generalize meeting.remote.writer.flush = result at answered accepting
  obtain ⟨host, acted, scene⟩ := Meeting.act_far_some asks answered sending.scene
  cases result with
  | ok _ =>
    refine ⟨_, acted, .finished, number, sender, ⟨.finished, progress⟩, bus, files, ends, ?_⟩
    exact
      { sending with
        peer := rfl
        scene
        handover := sending.handover.finish rfl
        far := sending.far.mono (by simp [SinkPhase.taker, Taker.Stopped])
        shown := by simp
        taken := sending.taken
        scratch := ⟨contents, stage, trivial⟩
        admitted := .inr (sending.first_fits ⟨by simp, by simp⟩)
        blame := by simpa [SinkPhase.taker] using sending.blame }
  | error cause =>
    have noisy : ¬ quiet := fun fine => by cases accepting fine
    exact ⟨_, acted, .closing, number, sender, _, bus, files, ends,
      sending.far_fails (by simp [SinkPhase.taker]) noisy _ scene⟩

/-!
## Every move
-/

theorem act_near (fits : arena.SendingFits)
    (sending : Sending arena quiet course number sender sink bus files ends meeting) :
    (meeting.act .near = none ∧ (sender.phase.giver.Stopped ∨
      sender.phase.giver = .waiting ∧ ends.near.inbox = [])) ∨
      ∃ after, meeting.act .near = some after ∧ Goes arena quiet after := by
  obtain ⟨phase, progress⟩ := sender
  cases phase with
  | idle => exact .inr (sending.clear (.inl rfl))
  | ready => exact .inr (sending.clear (.inr rfl))
  | filling => exact .inr sending.fill
  | announcing length => exact .inr (sending.announce fits)
  | awaiting length =>
    exact (sending.hear fits).imp_left fun waits => ⟨waits.1, .inr ⟨rfl, waits.2⟩⟩
  | completed => exact .inl ⟨Meeting.act_near_stop sending.action_near, .inl (.inl rfl)⟩
  | failed error => exact .inl ⟨Meeting.act_near_stop sending.action_near, .inl (.inr rfl)⟩

theorem act_far
    (sending : Sending arena quiet course number sender sink bus files ends meeting) :
    (meeting.act .far = none ∧ (sink.phase.taker.Stopped ∨
      sink.phase.taker = .listening ∧ ends.far.inbox = [])) ∨
      ∃ after, meeting.act .far = some after ∧ Goes arena quiet after := by
  obtain ⟨phase, progress⟩ := sink
  cases phase with
  | awaiting =>
    exact sending.listen.imp_left fun waits => ⟨waits.1, .inr ⟨rfl, waits.2⟩⟩
  | fetching address length => exact .inr sending.fetch
  | draining length => exact .inr sending.drain
  | acknowledging length => exact .inr sending.acknowledge
  | flushing => exact .inr sending.flush
  | finished => exact .inl ⟨Meeting.act_far_stop sending.action_far, .inl (.inl rfl)⟩
  | failed error => exact .inl ⟨Meeting.act_far_stop sending.action_far, .inl (.inr rfl)⟩

theorem stopped_of_terminal
    (sending : Sending arena quiet course number sender sink bus files ends meeting)
    (terminal : meeting.engine.state.isTerminal = true) : sender.phase.giver.Stopped := by
  rw [sending.engine] at terminal
  obtain ⟨phase, progress⟩ := sender
  cases phase with
  | completed => exact .inl rfl
  | failed error => exact .inr rfl
  | _ => cases terminal

theorem stopped_of_outcome
    (sending : Sending arena quiet course number sender sink bus files ends meeting)
    (ended : meeting.peer.outcome?.isSome) : sink.phase.taker.Stopped := by
  rw [sending.peer] at ended
  obtain ⟨phase, progress⟩ := sink
  cases phase with
  | finished => exact .inl rfl
  | failed error => exact .inr rfl
  | _ => cases ended

theorem completed
    (sending : Sending arena quiet course number sender sink bus files ends meeting) :
    meeting.engine.state = .completed ↔ sender.phase.giver = .done := by
  rw [sending.engine, Engine.state]
  obtain ⟨phase, progress⟩ := sender
  cases phase <;> simp [Sender.state, SenderPhase.giver]

theorem finished {result : PeerRole × Progress}
    (sending : Sending arena quiet course number sender sink bus files ends meeting)
    (ended : meeting.peer.outcome? = some (.ok result)) : sink.phase.taker = .finished := by
  rw [sending.peer] at ended
  obtain ⟨phase, progress⟩ := sink
  cases phase <;> first | rfl | cases ended

theorem leave_near {after : Meeting}
    (sending : Sending arena quiet course number sender sink bus files ends meeting)
    (left : meeting.leave .near = some after) : Goes arena quiet after := by
  obtain ⟨terminal, transport, present, rfl⟩ := Meeting.leave_near_inv left
  have stopped := sending.stopped_of_terminal terminal
  rcases sending.near with ⟨_, held⟩ | ⟨_, nothing, _⟩
  · cases present.symm.trans held
    exact ⟨course, number, sender, sink, bus, files, ends.setSide .near ⟨.gone, []⟩,
      { sending with
        scene := sending.scene.drop
        handover := sending.handover.giverLeaves stopped
        near := .inr ⟨rfl, rfl, stopped⟩ }⟩
  · cases present.symm.trans nothing

theorem leave_far {after : Meeting}
    (sending : Sending arena quiet course number sender sink bus files ends meeting)
    (left : meeting.leave .far = some after) : Goes arena quiet after := by
  obtain ⟨ended, transport, present, rfl⟩ := Meeting.leave_far_inv left
  have stopped := sending.stopped_of_outcome ended
  rcases sending.far with ⟨_, held⟩ | ⟨_, nothing, _⟩
  · cases present.symm.trans held
    exact ⟨course, number, sender, sink, bus, files, ends.setSide .far ⟨.gone, []⟩,
      { sending with
        scene := sending.scene.drop
        handover := sending.handover.takerLeaves stopped
        far := .inr ⟨rfl, rfl, stopped⟩ }⟩
  · cases present.symm.trans nothing

theorem release {after : Meeting}
    (sending : Sending arena quiet course number sender sink bus files ends meeting)
    (released : meeting.release = some after) : Goes arena quiet after := by
  obtain ⟨terminal, holding, rfl⟩ := Meeting.release_inv released
  have stopped := sending.stopped_of_terminal terminal
  obtain ⟨held, placed⟩ := sending.placed.release stopped holding
  obtain ⟨host, gave, scene⟩ := sending.scene.release arena.address arena.index arena.room
  rw [held, Arena.buffer, gave]
  exact ⟨course, number, sender, sink, bus.without arena.address, files, ends,
    { sending with
      scene
      placed }⟩

theorem expire_near {after : Meeting}
    (sending : Sending arena quiet course number sender sink bus files ends meeting) (noisy : ¬ quiet)
    (expired : meeting.expire .near = some after) : Goes arena quiet after := by
  obtain ⟨resume, error, host, asks, rfl, seen⟩ := Meeting.expire_near_inv expired
  rw [sending.action_near] at asks
  obtain ⟨phase, progress⟩ := sender
  cases phase with
  | awaiting length =>
    cases asks
    obtain ⟨_, transport⟩ := sending.near.opened (by simp [SenderPhase.giver, Giver.Stopped])
    exact ⟨course, number, _, sink, bus, files, ends,
      sending.near_fails (.inr rfl) (absurd · noisy) (absurd · noisy) _
        (seen transport sending.scene)⟩
  | _ => cases asks

theorem expire_far {after : Meeting}
    (sending : Sending arena quiet course number sender sink bus files ends meeting) (noisy : ¬ quiet)
    (expired : meeting.expire .far = some after) : Goes arena quiet after := by
  obtain ⟨resume, error, host, asks, rfl, seen⟩ := Meeting.expire_far_inv expired
  rw [sending.action_far] at asks
  obtain ⟨phase, progress⟩ := sink
  cases phase with
  | awaiting =>
    cases asks
    obtain ⟨_, transport⟩ := sending.far.opened (by simp [SinkPhase.taker, Taker.Stopped])
    exact ⟨course, number, sender, _, bus, files, ends,
      sending.far_fails (by simp [SinkPhase.taker]) noisy _ (seen transport sending.scene)⟩
  | _ => cases asks

/-- A sender that meets a sink goes on so after every move. -/
theorem Goes.step (fits : arena.SendingFits) {meeting after : Meeting} {move : Move}
    (allowed : (∃ side, move = .expire side) → ¬ quiet) (goes : Goes arena quiet meeting)
    (stepped : meeting.step move = some after) : Goes arena quiet after := by
  obtain ⟨course, number, sender, sink, bus, files, ends, sending⟩ := goes
  cases move with
  | act side =>
    cases side with
    | near =>
      rcases sending.act_near fits with ⟨nothing, _⟩ | ⟨other, acted, goes⟩
      · cases nothing.symm.trans stepped
      · cases acted.symm.trans stepped
        exact goes
    | far =>
      rcases sending.act_far with ⟨nothing, _⟩ | ⟨other, acted, goes⟩
      · cases nothing.symm.trans stepped
      · cases acted.symm.trans stepped
        exact goes
  | expire side =>
    have noisy := allowed ⟨side, rfl⟩
    cases side with
    | near => exact sending.expire_near noisy stepped
    | far => exact sending.expire_far noisy stepped
  | leave side =>
    cases side with
    | near => exact sending.leave_near stepped
    | far => exact sending.leave_far stepped
  | release => exact sending.release stepped

end Sending

end ChunkRelay
