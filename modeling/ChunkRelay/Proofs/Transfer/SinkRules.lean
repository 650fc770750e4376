import ChunkRelay.Proofs.Transfer.Custody
import ChunkRelay.Proofs.Transfer.Pace
import ChunkRelay.Proofs.Transfer.SinkRounds

/-! How a sink ends, and what its log tells by then. The first fault ends it, and
so does a flush after the end of the data; what its writer holds are the chunks
it has replied to, and at most a part of one more. -/

set_option autoImplicit false

namespace ChunkRelay

/-- The lengths of the chunks that are written and not yet replied to in a phase. -/
def SinkPhase.owed : SinkPhase → List Nat
  | .acknowledging length => [length]
  | _ => []

/-- Something is put into the writer, or at least it is tried. -/
def Entry.drains : Entry → Bool
  | ⟨_, _, .drain _, _⟩ => true
  | _ => false

theorem replied_append (log later : List Entry) :
    replied (log ++ later) = replied log ++ replied later :=
  List.filterMap_append

theorem drained_append (log later : List Entry) :
    drained (log ++ later) = drained log ++ drained later :=
  List.filterMap_append

namespace Sink

/-!
## How it ends
-/

section Ends

variable {capacity : Nat} {memory : AddressedMemory} {start before last : Station}
  {chunks : List ByteArray} {rounds latest : List Entry} {sink : Sink}

/-- A sink ends well just when the end of the data is followed by a flush that succeeds. -/
theorem Underway.finished_iff (done : Rounds capacity memory start chunks rounds before)
    (underway : Underway capacity memory before sink.phase latest last) :
    sink.phase = .finished ↔ ∃ prior heard host station address,
      rounds ++ latest = prior ++ [⟨heard, station, .receive, .ok (.dataReady address 0)⟩,
        ⟨host, station, .flush, .ok ()⟩] := by
  obtain ⟨phase, progress⟩ := sink
  dsimp only at underway ⊢
  constructor
  · rintro rfl
    cases underway
    exact ⟨rounds, _, _, _, _, rfl⟩
  · rintro ⟨prior, heard, host, station, address, split⟩
    have flushed : (⟨host, station, .flush, .ok ()⟩ : Entry) ∈ rounds ++ latest := by
      rw [split]
      simp
    have calm (asking : phase.request? ≠ none) : phase = .finished := by
      rcases List.mem_append.mp flushed with earlier | recent
      · exact absurd rfl (done.calm _ earlier).2
      · exact absurd rfl (underway.calm asking _ recent).2
    cases underway with
    | finished => rfl
    | @failed _ latest entry _ error _ _ fault _ =>
      rw [← List.append_assoc, List.append_cons prior] at split
      cases (List.append_singleton_inj.mp split).2
      cases fault
    | _ => exact calm nofun

/-- A sink fails just when an answer is a fault, which is the first one then and the last answer. -/
theorem Underway.failed_iff (done : Rounds capacity memory start chunks rounds before)
    (underway : Underway capacity memory before sink.phase latest last) (error : RelayError) :
    sink.phase = .failed error ↔ ∃ prior entry, rounds ++ latest = prior ++ [entry] ∧
      (∀ earlier ∈ prior, fault? capacity earlier = none) ∧
      fault? capacity entry = some error := by
  obtain ⟨phase, progress⟩ := sink
  dsimp only at underway ⊢
  constructor
  · rintro rfl
    cases underway with
    | failed underway asks fault _ =>
      refine ⟨_, _, (List.append_assoc ..).symm, fun earlier member => ?_, fault⟩
      rcases List.mem_append.mp member with earlier | recent
      · exact (done.calm _ earlier).1
      · exact (underway.calm (by rw [asks]; nofun) _ recent).1
  · rintro ⟨prior, entry, split, _, fault⟩
    have faulty : entry ∈ rounds ++ latest := by
      rw [split]
      exact List.mem_append_right _ (List.mem_singleton_self entry)
    have calm (recent : ∀ other ∈ latest, fault? capacity other = none) :
        phase = .failed error := by
      have none : fault? capacity entry = none := by
        rcases List.mem_append.mp faulty with earlier | late
        · exact (done.calm _ earlier).1
        · exact recent _ late
      cases none.symm.trans fault
    have asked (asking : phase.request? ≠ none) : phase = .failed error :=
      calm fun other member => (underway.calm asking other member).1
    cases underway with
    | finished =>
      refine calm (List.forall_mem_cons.mpr ⟨?_, List.forall_mem_singleton.mpr rfl⟩)
      rfl
    | @failed _ earlier last _ _ _ _ first _ =>
      rw [← List.append_assoc] at split
      cases (List.append_singleton_inj.mp split).2
      rw [first] at fault
      cases fault
      rfl
    | _ => exact asked nofun

/-!
## Replies
-/

theorem Announced.tally {address length : UInt64}
    (announced : Announced capacity before address length latest) :
    replied latest = [] ∧ drained latest = [] := by
  cases announced
  exact ⟨rfl, rfl⟩

theorem Fetched.tally {length : UInt64} {chunk : ByteArray}
    (fetched : Fetched capacity memory before length chunk latest last) :
    replied latest = [] ∧ drained latest = [] := by
  obtain ⟨announced, _⟩ := fetched
  obtain ⟨none, nothing⟩ := announced.tally
  rw [replied_append, drained_append, none, nothing]
  exact ⟨rfl, rfl⟩

theorem Drained.tally {length : UInt64} {chunk : ByteArray}
    (written : Drained capacity memory before length chunk latest last) :
    replied latest = [] ∧ drained latest = [chunk.size] := by
  rw [written.size]
  obtain ⟨fetched, _⟩ := written
  obtain ⟨none, nothing⟩ := fetched.tally
  rw [replied_append, drained_append, none, nothing]
  exact ⟨rfl, rfl⟩

/-- Each chunk of a round was written once and replied to once, with its size. -/
theorem Rounds.tally (done : Rounds capacity memory start chunks rounds before) :
    replied rounds = chunks.map (·.size) ∧ drained rounds = chunks.map (·.size) := by
  induction done with
  | none => exact ⟨rfl, rfl⟩
  | @answered chunks chunk _ latest _ after length host _ written ih =>
    obtain ⟨none, once⟩ := written.tally
    have reply : replied [⟨host, after, .send (.readDone length), .ok ()⟩] = [chunk.size] := by
      rw [written.size]
      rfl
    have sent : drained [⟨host, after, .send (.readDone length), .ok ()⟩] = [] := rfl
    simp only [replied_append, drained_append, ih, none, once, reply, sent, List.map_append]
    exact ⟨rfl, rfl⟩

theorem Rounds.chunk (done : Rounds capacity memory start chunks rounds before)
    {chunk : ByteArray} (member : chunk ∈ chunks) : 1 ≤ chunk.size ∧ chunk.size ≤ capacity := by
  induction done with
  | none => cases member
  | answered _ written ih =>
    rcases List.mem_append.mp member with earlier | latest
    · exact ih earlier
    · cases List.mem_singleton.mp latest
      rw [written.size]
      exact written.bounds

/-- Nothing under way was replied to; what was written is owed a reply. -/
theorem Underway.tally {phase : SinkPhase}
    (underway : Underway capacity memory before phase latest last)
    (asking : phase.request? ≠ none) : replied latest = [] ∧ drained latest = phase.owed := by
  cases underway with
  | announced announced => exact announced.tally
  | fetched fetched => exact fetched.tally
  | written written =>
    rw [SinkPhase.owed, ← written.size]
    exact written.tally
  | idle | ended => exact ⟨rfl, rfl⟩
  | finished | failed => exact absurd rfl asking

/-- A sink that has stopped owes no reply but the one that it could not send. -/
theorem Underway.settled {phase : SinkPhase}
    (underway : Underway capacity memory before phase latest last)
    (stopped : phase.request? = none) :
    replied latest = [] ∧ (drained latest = [] ∨ ∃ prior host station length error,
      latest = prior ++ [⟨host, station, .send (.readDone length), .error error⟩] ∧
      drained latest = [length.toNat]) := by
  cases underway with
  | finished => exact ⟨rfl, .inl rfl⟩
  | @failed phase latest entry _ error underway asks fault _ =>
    obtain ⟨none, owed⟩ := underway.tally (by rw [asks]; nofun)
    obtain ⟨host, station, request, answer⟩ := entry
    rw [replied_append, drained_append, none, owed]
    cases underway with
    | idle =>
      cases asks
      exact ⟨rfl, .inl rfl⟩
    | announced =>
      cases asks
      exact ⟨rfl, .inl rfl⟩
    | fetched =>
      cases asks
      rcases answer with failure | _
      · exact ⟨rfl, .inl rfl⟩
      · cases fault
    | @written length =>
      cases asks
      rcases answer with error | _
      · refine ⟨rfl, .inr ⟨latest, host, station, length, error, ?_, rfl⟩⟩
        rw [UInt64.ofNat_toNat]
      · cases fault
    | ended =>
      cases asks
      exact ⟨rfl, .inl rfl⟩
    | finished | failed => cases asks
  | _ => cases stopped

/-!
## What the writer holds
-/

/-- Nothing was put into the writer. -/
def Unwritten (latest : List Entry) : Prop :=
  ∀ entry ∈ latest, entry.drains = false

/-- What a writer holds ahead of the replies, with what is under way. -/
inductive Ahead (capacity : Nat) (memory : AddressedMemory) (before : Station) :
    List Entry → List UInt8 → Prop
  | nothing {latest : List Entry} : Unwritten latest → Ahead capacity memory before latest []
  /-- The writer failed, and has a first part of the chunk. -/
  | cut {length : UInt64} {chunk : ByteArray} {latest : List Entry} {fetched : Station}
      {host : Host} {failure : WriteFailure} {part : List UInt8} :
      Fetched capacity memory before length chunk latest fetched →
      (before.writer.put host.files chunk).outcome = .error failure →
      part <+: chunk.data.toList →
      Ahead capacity memory before
        (latest ++ [⟨host, fetched, .drain length.toNat, .error failure⟩]) part
  /-- The reply is due. -/
  | owed {length : UInt64} {chunk : ByteArray} {latest : List Entry} {after : Station} :
      Drained capacity memory before length chunk latest after →
      Ahead capacity memory before latest chunk.data.toList
  | unsent {length : UInt64} {chunk : ByteArray} {latest : List Entry} {after : Station}
      {host : Host} {error : ChannelError} :
      Drained capacity memory before length chunk latest after →
      Ahead capacity memory before
        (latest ++ [⟨host, after, .send (.readDone length), .error error⟩]) chunk.data.toList

variable {target? : Option Nat} {files : FileTree} {data : List UInt8}

theorem Announced.holds {address length : UInt64}
    (announced : Announced capacity before address length latest)
    (holds : before.writer.Holds target? files data) (alone : Alone target? files latest) :
    before.writer.Holds target? (filesAfter files latest) data := by
  cases announced
  exact holds.elsewhere alone.1

theorem Fetched.holds {length : UInt64} {chunk : ByteArray}
    (fetched : Fetched capacity memory before length chunk latest last)
    (holds : before.writer.Holds target? files data) (alone : Alone target? files latest) :
    last.writer.Holds target? (filesAfter files latest) data := by
  rw [fetched.writer]
  obtain ⟨announced, _⟩ := fetched
  obtain ⟨alone, still, _⟩ := alone_append.mp alone
  rw [filesAfter_append]
  exact (announced.holds holds alone).elsewhere still

theorem Drained.holds {length : UInt64} {chunk : ByteArray}
    (written : Drained capacity memory before length chunk latest last)
    (holds : before.writer.Holds target? files data) (alone : Alone target? files latest) :
    last.writer.Holds target? (filesAfter files latest) (data ++ chunk.data.toList) := by
  obtain ⟨fetched, taken, left⟩ := written
  obtain ⟨alone, still, _⟩ := alone_append.mp alone
  have ready := (fetched.holds holds alone).elsewhere still
  rw [fetched.writer] at ready
  obtain ⟨part, _, held, whole⟩ := ready.put chunk
  rw [whole taken] at held
  rw [filesAfter_append, left]
  dsimp only [filesAfter, List.foldl_cons, List.foldl_nil, Entry.filesAfter]
  rw [fetched.front, fetched.writer]
  exact held

theorem Rounds.holds (done : Rounds capacity memory start chunks rounds before)
    (holds : start.writer.Holds target? files data) (alone : Alone target? files rounds) :
    before.writer.Holds target? (filesAfter files rounds) (data ++ content chunks) := by
  induction done with
  | none =>
    rw [content, List.flatMap_nil, List.append_nil]
    exact holds
  | answered _ written ih =>
    obtain ⟨earlier, alone⟩ := alone_append.mp alone
    obtain ⟨alone, still, _⟩ := alone_append.mp alone
    have held := (written.holds (ih earlier) alone).elsewhere still
    rw [filesAfter_append, filesAfter_append, content, List.flatMap_append,
      List.flatMap_singleton, ← List.append_assoc]
    exact held

theorem Unwritten.single {entry : Entry} (other : entry.drains = false) : Unwritten [entry] :=
  List.forall_mem_singleton.mpr other

theorem Unwritten.concat {entry : Entry} (unwritten : Unwritten latest)
    (other : entry.drains = false) : Unwritten (latest ++ [entry]) :=
  List.forall_mem_append.mpr ⟨unwritten, Unwritten.single other⟩

theorem Announced.unwritten {address length : UInt64}
    (announced : Announced capacity before address length latest) : Unwritten latest := by
  cases announced
  exact .single rfl

theorem Fetched.unwritten {length : UInt64} {chunk : ByteArray}
    (fetched : Fetched capacity memory before length chunk latest last) : Unwritten latest := by
  obtain ⟨announced, _⟩ := fetched
  exact announced.unwritten.concat rfl

theorem Unwritten.ahead {writer : Writer} (unwritten : Unwritten latest)
    (holds : writer.Holds target? files data) :
    ∃ part, Ahead capacity memory before latest part ∧
      writer.Holds target? files (data ++ part) :=
  ⟨[], .nothing unwritten, by rwa [List.append_nil]⟩

/-- Once a sink flushes, its writer holds what was replied to and no more. -/
theorem Ahead.eq_nil {part : List UInt8} (ahead : Ahead capacity memory before latest part)
    {entry : Entry} (member : entry ∈ latest) (flushes : entry.request = .flush) : part = [] := by
  cases ahead with
  | nothing => rfl
  | cut fetched =>
    rcases List.mem_append.mp member with earlier | last
    · exact absurd flushes (fetched.calm _ earlier).2
    · cases List.mem_singleton.mp last
      cases flushes
  | owed written => exact absurd flushes (written.calm _ member).2
  | unsent written =>
    rcases List.mem_append.mp member with earlier | last
    · exact absurd flushes (written.calm _ earlier).2
    · cases List.mem_singleton.mp last
      cases flushes

theorem Underway.holds {phase : SinkPhase}
    (underway : Underway capacity memory before phase latest last)
    (holds : before.writer.Holds target? files data) (alone : Alone target? files latest) :
    ∃ part, Ahead capacity memory before latest part ∧
      last.writer.Holds target? (filesAfter files latest) (data ++ part) := by
  cases underway with
  | idle => exact Unwritten.ahead (List.forall_mem_nil _) holds
  | announced announced => exact announced.unwritten.ahead (announced.holds holds alone)
  | fetched fetched => exact fetched.unwritten.ahead (fetched.holds holds alone)
  | written written => exact ⟨_, .owed written, written.holds holds alone⟩
  | ended => exact (Unwritten.single rfl).ahead (holds.elsewhere alone.1)
  | finished =>
    exact ((Unwritten.single rfl).concat rfl).ahead
      ((holds.elsewhere alone.1).elsewhere alone.2.1)
  | @failed phase latest entry _ error underway asks fault permits =>
    obtain ⟨earlier, still, _⟩ := alone_append.mp alone
    rw [filesAfter_append, permits.writer]
    obtain ⟨host, station, request, answer⟩ := entry
    cases underway with
    | idle =>
      cases asks
      exact (Unwritten.single rfl).ahead (holds.elsewhere still)
    | announced announced =>
      cases asks
      exact (announced.unwritten.concat rfl).ahead ((announced.holds holds earlier).elsewhere still)
    | fetched fetched =>
      cases asks
      rcases answer with failure | _
      · have ready := (fetched.holds holds earlier).elsewhere still
        have told := (drain_of_permits permits).1
        rw [fetched.writer] at ready
        rw [fetched.writer, fetched.front] at told
        obtain ⟨part, first, held, _⟩ := ready.put _
        refine ⟨part, .cut fetched told first, ?_⟩
        dsimp only [filesAfter, List.foldl_cons, List.foldl_nil, Entry.filesAfter,
          Entry.writerAfter]
        rw [fetched.front, fetched.writer]
        exact held
      · cases fault
    | @written length chunk _ _ written =>
      cases asks
      rcases answer with error | _
      · rw [UInt64.ofNat_toNat]
        exact ⟨_, .unsent written, (written.holds holds earlier).elsewhere still⟩
      · cases fault
    | ended =>
      cases asks
      exact ((Unwritten.single rfl).concat rfl).ahead ((holds.elsewhere earlier.1).elsewhere still)
    | finished | failed => cases asks

end Ends

/-!
## Real runs
-/

/-- A sink that has its host to itself finds the files as it left them. -/
theorem alone_of_performs {capacity : Nat} {first last : Situation Peer} {log : List Entry}
    (performs : Performs (Peer.action capacity) first log last) {sink : Sink}
    (sinking : first.party = .sinking sink) {contents : Extent}
    (stage : first.station.stage = .scratch contents) (target? : Option Nat) :
    (∃ later, last.party = .sinking later) ∧ Alone target? first.host.files log ∧
      last.host.files = filesAfter first.host.files log := by
  induction performs generalizing sink contents with
  | rest => exact ⟨⟨sink, sinking⟩, trivial, rfl⟩
  | @answered party station next host middle request resume answer log last asks answered _ ih =>
    cases sinking
    obtain ⟨resume, acts, rfl⟩ := asks_sinking asks
    obtain ⟨asked, _, ⟨rest, still⟩, _⟩ := turned stage acts (Entry.permits answered)
    have files := Station.files_of_answer stage (fun address length places => by
      subst places
      cases phase : sink.phase <;> rw [phase] at asked <;> cases asked) answered
    have told := (report_untouched (resume answer).notices middle).files
    obtain ⟨later, alone, left⟩ := ih rfl still
    dsimp only at alone left
    rw [Turn.map, told, files] at alone left
    exact ⟨later, ⟨fun _ _ present => ⟨present, rfl⟩, alone⟩, left⟩
  | unanswered asks answered _ ih =>
    cases Station.answer_none answered
    have files := (Station.unanswered_untouched answered).files
    obtain ⟨later, alone, left⟩ := ih sinking stage
    dsimp only at alone left
    rw [files] at alone left
    exact ⟨later, alone, left⟩
  | @expired party station host middle limit transport resume error log last asks bounded present
      expired _ ih =>
    cases sinking
    obtain ⟨resume, acts, rfl⟩ := asks_sinking asks
    have waited := (transport.expire_untouched limit host).files
    rw [expired] at waited
    have told := (report_untouched (resume (.error error)).notices middle).files
    obtain ⟨later, alone, left⟩ := ih rfl stage
    dsimp only at alone left waited
    rw [Turn.map, told, waited] at alone left
    exact ⟨later, ⟨fun _ _ present => ⟨present, rfl⟩, alone⟩, left⟩

theorem outcome_ok_iff {sink : Sink} {role : PeerRole} {progress : Progress} :
    (Peer.sinking sink).outcome? = some (.ok (role, progress)) ↔
      (role = .sink ∧ progress = sink.progress) ∧ sink.phase = .finished := by
  obtain ⟨phase, counted⟩ := sink
  cases phase <;> simp [Peer.outcome?, eq_comm]

theorem outcome_error_iff {sink : Sink} {error : RelayError} :
    (Peer.sinking sink).outcome? = some (.error error) ↔ sink.phase = .failed error := by
  obtain ⟨phase, counted⟩ := sink
  cases phase <;> simp [Peer.outcome?]

theorem request?_of_outcome {sink : Sink} (stopped : (Peer.sinking sink).outcome?.isSome) :
    sink.phase.request? = none := by
  obtain ⟨phase, counted⟩ := sink
  cases phase with
  | finished | failed => rfl
  | _ => cases stopped

end Sink

/-- A sink replies to each chunk once, after it has read it where it was told to and its writer has
taken all of it; its writer holds these chunks in order and no more than a part of one more. It ends
well just after the end of the data and a flush, and fails with the first fault, which ends its log.
A peer that serves and has become a sink does the same. Every real run of a sink performs such an
encounter, with nobody else at its files, and it ends unless it waits without end for a message that
is not there. -/
theorem sink_replies_after_writing {capacity : Nat} {mode : PeerMode} {start last : Station}
    {contents : Extent} (stage : start.stage = .scratch contents) {sink : Sink} {log : List Entry}
    (encounter :
      Encounter (Peer.action capacity) (.fresh mode) start (.sinking sink) last log) :
    (∃ chunks rounds before latest, log = rounds ++ latest ∧
      Sink.Rounds capacity start.memory start chunks rounds before ∧
      Sink.Underway capacity start.memory before sink.phase latest last ∧
      (∀ chunk ∈ chunks, 1 ≤ chunk.size ∧ chunk.size ≤ capacity) ∧
      replied log = chunks.map (·.size) ∧
      (∀ role progress, (Peer.sinking sink).outcome? = some (.ok (role, progress)) ↔
        (role = .sink ∧ progress = ⟨(Sink.content chunks).length, chunks.length⟩) ∧
        ∃ prior heard host station address,
          log = prior ++ [⟨heard, station, .receive, .ok (.dataReady address 0)⟩,
            ⟨host, station, .flush, .ok ()⟩]) ∧
      ∀ target? files data, start.writer.Holds target? files data → Alone target? files log →
        ∃ part, Sink.Ahead capacity start.memory before latest part ∧
          (∀ result, (Peer.sinking sink).outcome? = some (.ok result) → part = []) ∧
          last.writer.Holds target? (filesAfter files log)
            (data ++ Sink.content chunks ++ part)) ∧
      Sink.Acknowledged capacity start log ∧
      ((Peer.sinking sink).outcome?.isSome →
        drained log = replied log ∨ ∃ prior host station length error,
          log = prior ++ [⟨host, station, .send (.readDone length), .error error⟩] ∧
          drained log = replied log ++ [length.toNat]) ∧
      (∀ error, (Peer.sinking sink).outcome? = some (.error error) ↔
        ∃ prior entry, log = prior ++ [entry] ∧
          (∀ earlier ∈ prior, Sink.fault? capacity earlier = none) ∧
          Sink.fault? capacity entry = some error) ∧
      ((Peer.sinking sink).outcome?.isSome ↔ Peer.action capacity (.sinking sink) = .stop) ∧
      ∀ transport wait memory reader writer host outcome left after,
        (Peer.run .sink capacity
            (.ofPeer capacity transport wait memory reader writer)).run host =
          ((outcome, left), after) →
          (∃ sink log, outcome = (Peer.sinking sink).outcome? ∧
            Performs (Peer.action capacity)
              ⟨.fresh .sink, .ofPeer capacity transport wait memory reader writer, host⟩ log
              ⟨.sinking sink, left, after⟩ ∧
            Encounter (Peer.action capacity) (.fresh .sink)
              (.ofPeer capacity transport wait memory reader writer) (.sinking sink) left log ∧
            Alone writer.target? host.files log ∧ after.files = filesAfter host.files log) ∧
          (outcome.isSome ∨ wait = .unbounded ∧
            ∃ before, transport.poll.run before = (none, after)) := by
  have kept : Sink.Kept capacity start sink log last := Sink.kept_of_encounter stage encounter
  obtain ⟨chunks, rounds, before, latest, rfl, done, counted, underway⟩ := kept.stands
  obtain ⟨repliedTo, written⟩ := done.tally
  refine ⟨⟨chunks, rounds, before, latest, rfl, done, underway,
      fun chunk => done.chunk, ?replies, ?delivered, ?held⟩,
    kept.acknowledged, ?settled, ?failed, Peer.outcome_isSome_iff capacity _, ?real⟩
  case replies =>
    have none : replied latest = [] := by
      by_cases stopped : sink.phase.request? = none
      · exact (underway.settled stopped).1
      · exact (underway.tally stopped).1
    rw [replied_append, repliedTo, none, List.append_nil]
  case delivered =>
    intro role progress
    rw [Sink.outcome_ok_iff, counted, underway.finished_iff done]
  case held =>
    intro target? files data holds alone
    obtain ⟨earlier, recent⟩ := alone_append.mp alone
    obtain ⟨part, ahead, held⟩ := underway.holds (done.holds holds earlier) recent
    rw [filesAfter_append]
    refine ⟨part, ahead, fun ⟨role, progress⟩ ended => ?_, held⟩
    have finished := (Sink.outcome_ok_iff.mp ended).2
    rw [finished] at underway
    cases underway
    exact ahead.eq_nil (List.mem_cons_of_mem _ List.mem_cons_self) rfl
  case settled =>
    intro stopped
    obtain ⟨none, settled⟩ := underway.settled (Sink.request?_of_outcome stopped)
    rw [replied_append, drained_append, none, repliedTo, written, List.append_nil]
    rcases settled with nothing | ⟨prior, host, station, length, error, rfl, owed⟩
    · rw [nothing, List.append_nil]
      exact .inl rfl
    · rw [owed]
      exact .inr ⟨_, host, station, length, error, (List.append_assoc ..).symm, rfl⟩
  case failed =>
    intro error
    rw [Sink.outcome_error_iff, underway.failed_iff done]
  case real =>
    intro transport wait memory reader writer host outcome left after ran
    rcases advanced : (advanceAlone (Peer.action capacity) (fun _ => false) (Peer.fresh .sink)
      (.ofPeer capacity transport wait memory reader writer)).run host with ⟨result, later⟩
    have ends := Peer.run_ends ran
    rw [Peer.run, HostM.run_bind_eq advanced] at ran
    cases ran
    obtain ⟨log, performs⟩ := Performs.of_advanceAlone advanced
    obtain ⟨⟨sink, sinking⟩, alone, files⟩ :=
      Sink.alone_of_performs performs rfl rfl writer.target?
    have encounter := performs.encounter .fresh
    dsimp only at sinking encounter
    rw [sinking] at performs encounter ⊢
    refine ⟨⟨sink, log, rfl, performs, encounter, alone, files⟩, ?_⟩
    rcases ends with ended | ⟨unbounded, _, before, present, nothing⟩
    · rw [sinking] at ended
      exact .inl ended
    · cases present
      exact .inr ⟨unbounded, before, nothing⟩

/-- Four bytes in chunks of three and one, to a writer that is interrupted, and an end at no address
in particular. -/
theorem sink_replies_after_writing_small :
    ∃ start contents last sink log, start.stage = .scratch contents ∧
      Encounter (Peer.action 4) (.fresh .sink) start (.sinking sink) last log ∧
      (Peer.sinking sink).outcome? = some (.ok (.sink, ⟨4, 2⟩)) ∧
      last.writer.taken = ⟨#[1, 2, 3, 4]⟩ ∧
      ∃ chunks, Sink.content chunks = [1, 2, 3, 4] ∧ replied log = chunks.map (·.size) := by
  let acquired := (RelayBuffer.acquire .bus 4).run (.fresh 0 Bus.defaultBase .empty)
  let placed := (AddressedMemory.throughBus.write Bus.defaultBase ⟨#[1, 2, 3, 4]⟩).run acquired.2
  let said : List Message :=
    [.dataReady Bus.defaultBase 3, .dataReady (Bus.defaultBase + 3) 1, .dataReady 7 0]
  let hub := said.foldl (fun hub message => (hub.send 0 .near message).2) (Hub.empty.join default).2
  let writer : Writer := .script [.take 2, .failure (.bare .interrupted)] none .empty
  let start : Station := .ofPeer 4 (.link 0 .far) .unbounded .throughBus (.script [] none) writer
  let host := { placed.2 with hub }
  have ended : ((Peer.run .sink 4 start).run host).1.1 = some (.ok (.sink, ⟨4, 2⟩)) := by
    decide +kernel
  have taken : ((Peer.run .sink 4 start).run host).1.2.writer.taken = ⟨#[1, 2, 3, 4]⟩ := by
    decide +kernel
  rcases ran : (Peer.run .sink 4 start).run host with ⟨⟨outcome, left⟩, after⟩
  rw [ran] at ended taken
  have unasked : Encounter (Peer.action 4) (.fresh .sink) start (.sinking .fresh) start [] := .fresh
  obtain ⟨⟨sink, log, same, _, encounter, _⟩, _⟩ :=
    (sink_replies_after_writing rfl unasked).2.2.2.2.2 _ _ _ _ _ host _ _ _ ran
  have delivered := same.symm.trans ended
  obtain ⟨⟨chunks, _, _, _, _, _, _, _, replies, _, held⟩, _⟩ :=
    sink_replies_after_writing rfl encounter
  obtain ⟨part, _, whole, _, _, kept⟩ := held none host.files [] ⟨rfl, trivial, rfl⟩
    (.of_none _ _)
  rw [whole _ delivered, List.nil_append, List.append_nil] at kept
  refine ⟨start, _, left, sink, log, rfl, encounter, delivered, taken, chunks, ?_, replies⟩
  rw [← kept]
  generalize left.writer = writer at taken
  cases writer with
  | script => exact congrArg (·.data.toList) taken
  | _ => cases taken

end ChunkRelay
