import ChunkRelay.Proofs.Memory.Sharing
import ChunkRelay.Proofs.Transfer.ReceiverRules
import ChunkRelay.Proofs.Transfer.SenderRules

/-! What the remote finds in a buffer, and what a chunk is made of. A sender
clears before it fills, a receiver before it replies. So no byte of an earlier
chunk, and nothing the remote left anywhere in the buffer, is there when the
buffer is handed over. -/

set_option autoImplicit false

namespace ChunkRelay

/-- What happens to a buffer: its engine asks for something and is answered, or somebody else lays
bytes over it. -/
inductive Happening where
  | asked (entry : Entry)
  | wrote (start : Nat) (part : List UInt8)

def Happening.part? : Happening → Option (Nat × List UInt8)
  | .wrote start part => some (start, part)
  | .asked _ => none

/-- The host may be like this afterwards. Whatever a channel does to it is told apart, as something
that happens elsewhere. -/
def Entry.Leads : Entry → Station → Host → Prop
  | ⟨host, station, .send _, _⟩, next, after | ⟨host, station, .receive, _⟩, next, after =>
    next = station ∧ after = host
  | ⟨host, station, request, answer⟩, next, after =>
    (station.answer request).run host = ((some answer, next), after)

/-- The engine has cleared the buffer, and has yet to hand it over. -/
def Engine.prepares : Engine → Bool
  | .sending ⟨.filling, _⟩ | .sending ⟨.announcing _, _⟩ => true
  | .receiving ⟨.introducing, _⟩ | .receiving ⟨.acknowledging _, _⟩ => true
  | _ => false

/-- What an engine may have come to with a buffer that was just acquired, and all that happened to
the buffer. The remote may write anything anywhere at any time, except while the engine prepares
the buffer; and anything may happen elsewhere. -/
inductive Exposure (buffer : RelayBuffer) (role : Role) (first : Host) :
    Engine → Reader → Writer → Host → List Happening → Prop
  | fresh (reader : Reader) (writer : Writer) :
      Exposure buffer role first (.fresh role) reader writer first []
  | started {engine : Engine} {reader : Reader} {writer : Writer} {host : Host}
      {log : List Happening} :
      Exposure buffer role first engine reader writer host log →
      Exposure buffer role first engine.begun reader writer host log
  | elsewhere {engine : Engine} {reader : Reader} {writer : Writer} {host after : Host}
      {log : List Happening} :
      Exposure buffer role first engine reader writer host log →
      buffer.Spared host after →
      Exposure buffer role first engine reader writer after log
  | wrote {engine : Engine} {reader : Reader} {writer : Writer} {host after : Host}
      {log : List Happening} {start : Nat} {part : List UInt8} :
      Exposure buffer role first engine reader writer host log →
      engine.prepares = false →
      buffer.Overwritten start part host after →
      Exposure buffer role first engine reader writer after (log ++ [.wrote start part])
  | asked {engine : Engine} {host after : Host} {station next : Station} {log : List Happening}
      {request : Request} {resume : request.Answer → Turn Engine} {answer : request.Answer} :
      Exposure buffer role first engine station.reader station.writer host log →
      station.stage = .relay buffer →
      engine.action buffer.address buffer.capacity = .ask request resume →
      Entry.Leads ⟨host, station, request, answer⟩ next after →
      Exposure buffer role first (resume answer).next next.reader next.writer after
        (log ++ [.asked ⟨host, station, request, answer⟩])

/-!
## What a log promises
-/

/-- The log ends with a fill that read so many bytes, and these are the bytes and zeros. -/
def Filled (buffer : RelayBuffer) (log : List Happening) (length : Nat) (bytes : List UInt8) :
    Prop :=
  ∃ earlier host station chunk,
    log = earlier ++ [.asked ⟨host, station, .fill, .ok length⟩] ∧
      chunk = (station.reader.fill host.files buffer.capacity).bytes ∧ chunk.size = length ∧
      length ≤ buffer.capacity ∧
      bytes = chunk.data.toList ++ List.replicate (buffer.capacity - length) 0

/-- The bytes are what was written over zeros since the buffer was handed over last. -/
def Written (buffer : RelayBuffer) (log : List Happening) (bytes : List UInt8) : Prop :=
  ∃ earlier handed since, log = earlier ++ .asked handed :: since ∧
    (∃ message, handed.sent? = some (message, .ok ())) ∧
    (∀ entry, .asked entry ∈ since → entry.sent? = none) ∧
    bytes = overlaid buffer.capacity (since.filterMap Happening.part?)

/-- What the remote finds in the buffer when it gets a message, after what happened before. -/
def Finds (buffer : RelayBuffer) (prior : List Happening) (bytes : List UInt8) : Message → Prop
  | .dataReady _ length => Filled buffer prior length.toNat bytes
  | .baseAddress _ | .readDone _ => bytes = List.replicate buffer.capacity 0
  | .writeDone _ _ => False

/-- What an engine is answered, after what happened before. -/
def Accords (buffer : RelayBuffer) (prior : List Happening) : Entry → Prop
  | ⟨host, _, .send message, _⟩ => Finds buffer prior (buffer.shown host) message
  | ⟨host, station, .drain length, result⟩ => ∃ bytes offered put, Written buffer prior bytes ∧
      length ≤ buffer.capacity ∧ offered.data.toList = bytes.take length ∧
      put = station.writer.put host.files offered ∧ result = put.outcome ∧
      (station.answer (.drain length)).run host =
        ((some result, { station with writer := put.writer }), { host with files := put.files })
  | _ => True

/-- Every hand-over of the buffer finds it clean, and every chunk is made of what was written since
the last one. -/
def Clean (buffer : RelayBuffer) (log : List Happening) : Prop :=
  ∀ prior entry, prior ++ [.asked entry] <+: log → Accords buffer prior entry

section Logs

variable {buffer : RelayBuffer} {log : List Happening} {entry : Entry} {bytes : List UInt8}

theorem Clean.nil : Clean buffer [] := by
  intro prior entry before
  simp at before

theorem Clean.concat (clean : Clean buffer log) (accords : Accords buffer log entry) :
    Clean buffer (log ++ [.asked entry]) := by
  intro prior other before
  rcases List.prefix_concat_iff.mp before with same | earlier
  · obtain ⟨rfl, again⟩ := List.append_singleton_inj.mp same
    cases again
    exact accords
  · exact clean _ _ earlier

theorem Clean.wrote (clean : Clean buffer log) (start : Nat) (part : List UInt8) :
    Clean buffer (log ++ [.wrote start part]) := by
  intro prior other before
  rcases List.prefix_concat_iff.mp before with same | earlier
  · cases (List.append_singleton_inj.mp same).2
  · exact clean _ _ earlier

theorem Written.handed {message : Message} (sent : entry.sent? = some (message, .ok ())) :
    Written buffer (log ++ [.asked entry]) (List.replicate buffer.capacity 0) :=
  ⟨log, entry, [], rfl, ⟨message, sent⟩, fun _ member => (by cases member), rfl⟩

theorem Written.asked (written : Written buffer log bytes) (quiet : entry.sent? = none) :
    Written buffer (log ++ [.asked entry]) bytes := by
  obtain ⟨earlier, handed, since, rfl, sent, silent, rfl⟩ := written
  refine ⟨earlier, handed, since ++ [.asked entry], by simp, sent, ?_, ?_⟩
  · intro other member
    rcases List.mem_append.mp member with before | last
    · exact silent other before
    · cases List.mem_singleton.mp last
      exact quiet
  · rw [List.filterMap_append]
    exact congrArg (overlaid buffer.capacity) (List.append_nil _).symm

theorem Written.wrote (written : Written buffer log bytes) (start : Nat) (part : List UInt8) :
    Written buffer (log ++ [.wrote start part]) (overlay bytes start part) := by
  obtain ⟨earlier, handed, since, rfl, sent, silent, rfl⟩ := written
  refine ⟨earlier, handed, since ++ [.wrote start part], by simp, sent, ?_, ?_⟩
  · intro other member
    rcases List.mem_append.mp member with before | last
    · exact silent other before
    · cases List.mem_singleton.mp last
  · rw [List.filterMap_append]
    exact (overlaid_concat ..).symm

end Logs

/-!
## What answers do to a buffer
-/

namespace Entry

variable {buffer : RelayBuffer} {host after : Host} {station next : Station}

theorem Leads.leaves {entry : Entry} (leads : entry.Leads next after) : entry.Leaves next := by
  obtain ⟨host, station, request, answer⟩ := entry
  cases request with
  | send | receive => exact leads.1
  | _ => exact ⟨after, leads⟩

section Stage

variable (stage : station.stage = .relay buffer)
include stage

theorem Leads.clear (leads : Leads ⟨host, station, .clear, ()⟩ next after) :
    after = (buffer.clear.run host).2 := by
  obtain ⟨_, transport, wait, memory, reader, writer⟩ := station
  subst stage
  exact (congrArg Prod.snd leads).symm

theorem Leads.fill {result : Except IoError Nat}
    (leads : Leads ⟨host, station, .fill, result⟩ next after) :
    after =
      ((buffer.write 0 (station.reader.fill host.files buffer.capacity).bytes).run host).2 := by
  obtain ⟨_, transport, wait, memory, reader, writer⟩ := station
  subst stage
  exact (congrArg Prod.snd leads).symm

theorem Leads.drain {length : Nat} {result : Except WriteFailure Unit}
    (leads : Leads ⟨host, station, .drain length, result⟩ next after) :
    result = (station.writer.put host.files (buffer.read 0 length host)).outcome ∧
      next = { station with
        writer := (station.writer.put host.files (buffer.read 0 length host)).writer } ∧
      after = { host with
        files := (station.writer.put host.files (buffer.read 0 length host)).files } := by
  obtain ⟨_, transport, wait, memory, reader, writer⟩ := station
  subst stage
  have answered := leads.symm
  exact ⟨Option.some.inj (congrArg (fun result => result.1.1) answered),
    congrArg (fun result => result.1.2) answered, congrArg Prod.snd answered⟩

end Stage

/-- Whatever an engine asks for, its buffer stays backed. -/
theorem Leads.backed {entry : Entry} (leads : entry.Leads next after)
    (stage : entry.station.stage = .relay buffer) (backed : buffer.Backed entry.host) :
    buffer.Backed after := by
  obtain ⟨host, station, request, answer⟩ := entry
  cases request with
  | clear =>
    rw [leads.clear stage]
    exact backed.clear.1
  | fill =>
    rw [leads.fill stage]
    exact backed.write 0 _
  | drain length =>
    obtain ⟨_, _, rfl⟩ := leads.drain stage
    obtain ⟨⟨region, handle⟩, held, present⟩ := backed
    refine ⟨_, held, ?_⟩
    obtain ⟨contents | contents, reach⟩ := region
    · exact present
    · exact Nat.lt_of_lt_of_eq present (Writer.size_contents_put ..).symm
  | flush =>
    cases leads
    exact backed
  | send | receive =>
    cases leads.2
    exact backed
  | fetch address length =>
    obtain ⟨_, transport, wait, memory, reader, writer⟩ := station
    subst stage
    have asked : ((Station.answer ⟨.relay buffer, transport, wait, memory, reader, writer⟩
        (.fetch address length)).run host).2 = after := congrArg Prod.snd leads
    simp only [Station.answer, Station.answerFetch, StateT.run_bind, StateT.run_get,
      pure_bind] at asked
    subst asked
    cases memory.read address length host with
    | error error => exact backed
    | ok bytes => exact backed.write 0 bytes
  | place address length =>
    have asked : ((station.answer (.place address length)).run host).2 = after :=
      congrArg Prod.snd leads
    rw [← asked]
    exact backed.rewritten (station.memory.write_rewritten address _ host)

end Entry

/-!
## The phases
-/

/-- What the buffer shows in each phase of its engine. -/
def Engine.Shows (buffer : RelayBuffer) (log : List Happening) (bytes : List UInt8) :
    Engine → Prop
  | .sending ⟨.filling, _⟩ | .receiving ⟨.introducing, _⟩ | .receiving ⟨.acknowledging _, _⟩ =>
    bytes = List.replicate buffer.capacity 0
  | .sending ⟨.announcing length, _⟩ => Filled buffer log length bytes
  | .receiving ⟨.ready, _⟩ => Written buffer log bytes
  | .receiving ⟨.draining length, _⟩ => Written buffer log bytes ∧ length ≤ buffer.capacity
  | _ => True

section Phases

variable {buffer : RelayBuffer} {log : List Happening} {entry : Entry} {next : Station}
  {later : Host}

theorem Filled.finds {length : Nat} {bytes : List UInt8} (filled : Filled buffer log length bytes)
    (small : buffer.capacity < UInt64.size) (address : UInt64) :
    Finds buffer log bytes (.dataReady address (.ofNat length)) := by
  obtain ⟨_, _, _, _, _, _, _, fits, _⟩ := id filled
  have told : (UInt64.ofNat length).toNat = length :=
    UInt64.toNat_ofNat_of_lt' (Nat.lt_of_le_of_lt fits small)
  rw [Finds, told]
  exact filled

/-- Filling a clear buffer leaves what was read and zeros. -/
theorem Entry.Leads.filled {host : Host} {station : Station} {length : Nat}
    (leads : Entry.Leads ⟨host, station, .fill, .ok length⟩ next later)
    (stage : station.stage = .relay buffer) (backed : buffer.Backed host)
    (clear : buffer.shown host = List.replicate buffer.capacity 0) :
    Filled buffer (log ++ [.asked ⟨host, station, .fill, .ok length⟩]) length
      (buffer.shown later) := by
  have fits := Reader.size_fill_le host.files station.reader buffer.capacity
  have told := leads.leaves.fill stage
  have sized : (station.reader.fill host.files buffer.capacity).bytes.size = length := by
    cases outcome : (station.reader.fill host.files buffer.capacity).outcome with
    | error cause =>
      rw [outcome] at told
      cases told
    | ok =>
      rw [outcome] at told
      cases told
      rfl
  refine ⟨log, host, station, _, rfl, rfl, sized, sized ▸ fits, ?_⟩
  rw [leads.fill stage, backed.fill clear fits, sized]

theorem shows_of_sender {sender after : Sender} (small : buffer.capacity < UInt64.size)
    (turned : Sender.Turned buffer sender entry after) (leads : entry.Leads next later)
    (stage : entry.station.stage = .relay buffer) (backed : buffer.Backed entry.host)
    (shows : (Engine.sending sender).Shows buffer log (buffer.shown entry.host)) :
    Accords buffer log entry ∧
      (Engine.sending after).Shows buffer (log ++ [.asked entry]) (buffer.shown later) := by
  cases turned with
  | cleared =>
    cases leads.clear stage
    exact ⟨trivial, backed.clear.2⟩
  | filled => exact ⟨trivial, leads.filled stage backed shows⟩
  | unread => exact ⟨trivial, trivial⟩
  | announced some_bytes => exact ⟨shows.finds small buffer.address, trivial⟩
  | ended => exact ⟨shows, trivial⟩
  | unsent => exact ⟨shows.finds small buffer.address, trivial⟩
  | confirmed => exact ⟨trivial, trivial⟩
  | refused => exact ⟨trivial, trivial⟩

/-- A receiver hands over a clear buffer, and puts what was written into the destination. -/
theorem accords_of_receiver {receiver : Receiver}
    (asks : Receiver.wish? buffer.address receiver.phase = some entry.request)
    (leads : entry.Leads next later) (stage : entry.station.stage = .relay buffer)
    (backed : buffer.Backed entry.host)
    (shows : (Engine.receiving receiver).Shows buffer log (buffer.shown entry.host)) :
    Accords buffer log entry := by
  obtain ⟨host, station, request, answer⟩ := entry
  obtain ⟨phase, progress⟩ := receiver
  cases phase with
  | introducing | acknowledging length =>
    cases asks
    exact shows
  | draining length =>
    cases asks
    obtain ⟨written, fits⟩ := shows
    obtain ⟨result, rfl, rfl⟩ := leads.drain stage
    exact ⟨_, _, _, written, fits, backed.front fits, rfl, result, leads⟩
  | idle | clearing length =>
    cases asks
    trivial
  | ready | flushing =>
    cases asks
    trivial
  | completed | failed error => cases asks

theorem shows_of_receiver {receiver after : Receiver}
    (turned : Receiver.Turned buffer receiver entry after) (leads : entry.Leads next later)
    (stage : entry.station.stage = .relay buffer) (backed : buffer.Backed entry.host)
    (shows : (Engine.receiving receiver).Shows buffer log (buffer.shown entry.host)) :
    (Engine.receiving after).Shows buffer (log ++ [.asked entry]) (buffer.shown later) := by
  cases turned with
  | cleared | cleaned =>
    cases leads.clear stage
    exact backed.clear.2
  | @introduced progress host station | @replied progress host station length =>
    obtain ⟨_, rfl⟩ := leads
    have clear : buffer.shown later = List.replicate buffer.capacity 0 := shows
    rw [clear]
    exact Written.handed rfl
  | announced some_bytes fits =>
    obtain ⟨_, rfl⟩ := leads
    exact ⟨shows.asked rfl, fits⟩
  | ended | drained | flushed | failed asks fault => trivial

/-- Bytes that are laid over the buffer while nobody prepares it are on record. -/
theorem Engine.Shows.wrote {engine : Engine} {bytes : List UInt8}
    (shows : engine.Shows buffer log bytes) (free : engine.prepares = false) (start : Nat)
    (part : List UInt8) :
    engine.Shows buffer (log ++ [.wrote start part]) (overlay bytes start part) := by
  cases engine with
  | sending sender =>
    obtain ⟨phase, progress⟩ := sender
    cases phase with
    | filling | announcing length => cases free
    | idle | ready | awaiting length | completed | failed error => trivial
  | receiving receiver =>
    obtain ⟨phase, progress⟩ := receiver
    cases phase with
    | introducing | acknowledging length => cases free
    | ready => exact Written.wrote shows start part
    | draining length => exact ⟨shows.1.wrote start part, shows.2⟩
    | idle | clearing length | flushing | completed | failed error => trivial

end Phases

/-!
## Runs
-/

/-- What is kept by everything that happens to a buffer. -/
structure Shielded (buffer : RelayBuffer) (engine : Engine) (host : Host) (log : List Happening) :
    Prop where
  backed : buffer.Backed host
  shows : engine.Shows buffer log (buffer.shown host)
  clean : Clean buffer log

namespace Shielded

variable {buffer : RelayBuffer} {engine : Engine} {host after : Host} {log : List Happening}

theorem fresh (backed : buffer.Backed host) (role : Role) :
    Shielded buffer (.fresh role) host [] where
  backed := backed
  shows := by cases role <;> trivial
  clean := .nil

theorem begun (shielded : Shielded buffer engine host log) :
    Shielded buffer engine.begun host log where
  backed := shielded.backed
  shows := by
    have shows := shielded.shows
    cases engine with
    | receiving receiver => exact shows
    | sending sender =>
      obtain ⟨phase, progress⟩ := sender
      cases phase <;> exact shows
  clean := shielded.clean

theorem elsewhere (shielded : Shielded buffer engine host log) (spared : buffer.Spared host after) :
    Shielded buffer engine after log where
  backed := spared.backed shielded.backed
  shows := by
    rw [spared.shown]
    exact shielded.shows
  clean := shielded.clean

theorem wrote {start : Nat} {part : List UInt8} (shielded : Shielded buffer engine host log)
    (free : engine.prepares = false) (overwritten : buffer.Overwritten start part host after) :
    Shielded buffer engine after (log ++ [.wrote start part]) where
  backed := overwritten.backed shielded.backed
  shows := by
    rw [overwritten.shown]
    exact shielded.shows.wrote free start part
  clean := shielded.clean.wrote start part

theorem asked {station next : Station} {request : Request} {resume : request.Answer → Turn Engine}
    {answer : request.Answer} (some_room : buffer.capacity ≠ 0)
    (small : buffer.capacity < UInt64.size) (shielded : Shielded buffer engine host log)
    (stage : station.stage = .relay buffer)
    (asks : engine.action buffer.address buffer.capacity = .ask request resume)
    (leads : Entry.Leads ⟨host, station, request, answer⟩ next after) :
    Shielded buffer (resume answer).next after
      (log ++ [.asked ⟨host, station, request, answer⟩]) := by
  obtain ⟨backed, shows, clean⟩ := shielded
  have told : Accords buffer log ⟨host, station, request, answer⟩ ∧ (resume answer).next.Shows buffer
      (log ++ [.asked ⟨host, station, request, answer⟩]) (buffer.shown after) := by
    cases engine with
    | sending sender =>
      obtain ⟨next, same, turned⟩ := Sender.turned some_room stage asks leads.leaves
      rw [same]
      exact shows_of_sender small turned leads stage backed shows
    | receiving receiver =>
      obtain ⟨next, same, turned⟩ := Receiver.turned asks
      rw [same]
      exact ⟨accords_of_receiver turned.wish leads stage backed shows,
        shows_of_receiver turned leads stage backed shows⟩
  exact ⟨leads.backed stage backed, told.2, clean.concat told.1⟩

end Shielded

namespace Exposure

variable {buffer : RelayBuffer} {role : Role} {first host : Host} {engine : Engine}
  {reader : Reader} {writer : Writer} {log : List Happening}

/-- Whatever a buffer was exposed to, it has been kept clean. -/
theorem shielded (backed : buffer.Backed first) (some_room : buffer.capacity ≠ 0)
    (small : buffer.capacity < UInt64.size)
    (exposure : Exposure buffer role first engine reader writer host log) :
    Shielded buffer engine host log := by
  induction exposure with
  | fresh reader writer => exact .fresh backed role
  | started _ ih => exact ih.begun
  | elsewhere _ spared ih => exact ih.elsewhere spared
  | wrote _ free overwritten ih => exact ih.wrote free overwritten
  | asked _ stage asks leads ih => exact ih.asked some_room small stage asks leads

end Exposure

/-!
## Real runs
-/

theorem report_untouched (notices : List Notice) (host : Host) :
    host.Untouched ((report notices).run host).2 := by
  obtain ⟨written, told⟩ := report_run notices host
  rw [told]
  exact ⟨rfl, rfl⟩

/-- What is said and heard leaves the memory alone. -/
theorem Station.answer_untouched {station next : Station} {host after : Host} {request : Request}
    {answer? : Option request.Answer}
    (answered : (station.answer request).run host = ((answer?, next), after))
    (outward : (∃ message, request = .send message) ∨ request = .receive) :
    host.Untouched after := by
  have untouched : host.Untouched ((station.answer request).run host).2 := by
    obtain ⟨stage, transport, wait, memory, reader, writer⟩ := station
    rcases outward with ⟨message, rfl⟩ | rfl
    · cases transport with
      | none => exact .refl host
      | some transport => exact transport.send_untouched message host
    · cases transport with
      | none => exact .refl host
      | some transport => exact transport.poll_untouched host
  rw [answered] at untouched
  exact untouched

/-- A real answer leads somewhere, and from there on only what is said and heard changes. -/
theorem Entry.leads {station next : Station} {host after : Host} {request : Request}
    {answer : request.Answer}
    (answered : (station.answer request).run host = ((some answer, next), after)) :
    ∃ middle, Entry.Leads ⟨host, station, request, answer⟩ next middle ∧
      middle.Untouched after := by
  have left := Entry.leaves answered
  cases request with
  | send message =>
    exact ⟨host, ⟨left, rfl⟩, Station.answer_untouched answered (.inl ⟨message, rfl⟩)⟩
  | receive => exact ⟨host, ⟨left, rfl⟩, Station.answer_untouched answered (.inr rfl)⟩
  | _ => exact ⟨after, answered, .refl after⟩

/-- Only a receive may be left without an answer. -/
theorem Station.unanswered_untouched {station next : Station} {host after : Host}
    {request : Request} (answered : (station.answer request).run host = ((none, next), after)) :
    host.Untouched after := by
  cases request with
  | receive => exact Station.answer_untouched answered (.inr rfl)
  | _ => cases congrArg (fun result => result.1.1) answered

/-- What an engine really does is something that its buffer is exposed to. -/
theorem Performs.exposure {buffer : RelayBuffer} {role : Role} {start : Host}
    {first last : Situation Engine} {later : List Entry} {log : List Happening}
    (performs : Performs (Engine.action buffer.address buffer.capacity) first later last)
    (stage : first.station.stage = .relay buffer)
    (exposure : Exposure buffer role start first.party first.station.reader first.station.writer
      first.host log) :
    Exposure buffer role start last.party last.station.reader last.station.writer last.host
      (log ++ later.map .asked) := by
  induction performs generalizing log with
  | rest =>
    rw [List.map_nil, List.append_nil]
    exact exposure
  | @answered party station next host middle request resume answer later last asks answered _ ih =>
    obtain ⟨between, leads, untouched⟩ := Entry.leads answered
    rw [List.map_cons, List.append_cons]
    have reported := report_untouched (resume answer).notices middle
    exact ih (leads.leaves.stage stage) (((exposure.asked stage asks leads).elsewhere
      (.of_untouched untouched)).elsewhere (.of_untouched reported))
  | unanswered asks answered _ ih =>
    cases Station.answer_none answered
    exact ih stage (exposure.elsewhere (.of_untouched (Station.unanswered_untouched answered)))
  | @expired party station host middle limit transport resume error later last asks bounded
      present expired _ ih =>
    have waited := transport.expire_untouched limit host
    rw [expired] at waited
    have reported := report_untouched (resume (.error error)).notices middle
    rw [List.map_cons, List.append_cons]
    exact ih stage (((exposure.asked stage asks ⟨rfl, rfl⟩).elsewhere
      (.of_untouched waited)).elsewhere (.of_untouched reported))

theorem Works.exposure {role : Role} {start : Host} {engine next : Engine} {desk left : Desk}
    {host after : Host} {later : List Entry} {log : List Happening}
    (works : Works engine desk host later next left after)
    (exposure : Exposure desk.buffer role start engine desk.reader desk.writer host log) :
    Exposure desk.buffer role start next left.reader left.writer after
      (log ++ later.map .asked) :=
  works.performs.exposure rfl exposure

/-- A buffer is handed over clean. An announcement of a sender finds it with the chunk that was just
read and zeros behind it; a hand-over by a receiver finds nothing but zeros, and what the receiver
puts into its destination is the front of what was written over these since. This holds whatever the
reader yields and whatever the remote writes, anywhere and at any time but while the engine prepares
the buffer. Calling the engine over a real channel is part of that, and so is any write by address. -/
theorem buffer_handed_over_clean {allocator : Allocator} {capacity : Nat} {before first host : Host}
    {buffer : RelayBuffer} (rooted : allocator.Rooted before.files)
    (acquired : (RelayBuffer.acquire allocator capacity).run before = (.ok buffer, first))
    {role : Role} {engine : Engine} {reader : Reader} {writer : Writer} {log : List Happening}
    (exposure : Exposure buffer role first engine reader writer host log) :
    Clean buffer log ∧
      (∀ channel next left later,
        (Engine.start engine ⟨buffer, channel, reader, writer⟩).run host = ((next, left), later) ∨
          (Engine.step engine ⟨buffer, channel, reader, writer⟩).run host =
            (some (next, left), later) →
        ∃ more, Works engine.begun ⟨buffer, channel, reader, writer⟩ host more next left later ∧
          Exposure buffer role first next left.reader left.writer later
            (log ++ more.map .asked)) ∧
      (engine.prepares = false → ∀ (memory : AddressedMemory) address bytes, ∃ start part,
        Exposure buffer role first engine reader writer
          ((memory.write address bytes).run host).2 (log ++ [.wrote start part])) := by
  obtain ⟨same, some_room, fits⟩ := RelayBuffer.acquire_capacity acquired
  rw [← same] at some_room fits
  have small : buffer.capacity < UInt64.size := Nat.lt_of_le_of_lt fits (by decide)
  have backed := RelayBuffer.backed_of_acquired rooted acquired
  have shielded := exposure.shielded backed some_room small
  refine ⟨shielded.clean, ?calls, ?writes⟩
  case calls =>
    intro channel next left later called
    obtain ⟨more, works⟩ := Engine.works_of_called called
    exact ⟨more, works, works.exposure exposure.started⟩
  case writes =>
    intro free memory address bytes
    obtain ⟨start, part, overwritten⟩ :=
      shielded.backed.overwritten_of_write memory address bytes
    exact ⟨start, part, exposure.wrote free overwritten⟩

/-- A remote writes two bytes and announces one. The other one goes nowhere. -/
theorem buffer_handed_over_clean_small :
    ∃ first reader writer host log,
      Exposure (.onBus Bus.defaultBase 0 2) .receiver first (.receiving ⟨.ready, ⟨1, 1⟩⟩) reader
          writer host log ∧
        Clean (.onBus Bus.defaultBase 0 2) log ∧ writer.taken.data.toList = [7] ∧
        (RelayBuffer.onBus Bus.defaultBase 0 2).shown host = [0, 0] := by
  let hub := ((Hub.empty.join default).2.send 0 .far (.writeDone Bus.defaultBase 1)).2
  let desk : Desk :=
    { buffer := .onBus Bus.defaultBase 0 2
      channel := .onTransport default .unbounded (.link 0 .near)
      reader := .script [] none
      writer := .script [] none .empty }
  obtain ⟨first, acquired⟩ :
      ∃ first, ((RelayBuffer.acquire .bus 2).run (.fresh 0 Bus.defaultBase .empty)).2 = first :=
    ⟨_, rfl⟩
  obtain ⟨started, begins⟩ :
      ∃ started, (Engine.start (.fresh .receiver) desk).run { first with hub } = started :=
    ⟨_, rfl⟩
  obtain ⟨touched, writes⟩ : ∃ touched, ((AddressedMemory.throughBus.write Bus.defaultBase
      ⟨#[7, 8]⟩).run started.2).2 = touched := ⟨_, rfl⟩
  obtain ⟨stepped, steps⟩ : ∃ stepped, (Engine.step started.1.1 ⟨desk.buffer, desk.channel,
      started.1.2.reader, started.1.2.writer⟩).run touched = stepped := ⟨_, rfl⟩
  have listens : started.1.1 = .receiving ⟨.ready, ⟨0, 0⟩⟩ := by
    rw [← begins, ← acquired]
    decide +kernel
  have moved : stepped.1.map (fun moved => (moved.1, moved.2.writer.taken.data.toList)) =
      some (.receiving ⟨.ready, ⟨1, 1⟩⟩, [7]) := by
    rw [← steps, ← writes, ← begins, ← acquired]
    decide +kernel
  have cleared : (RelayBuffer.onBus Bus.defaultBase 0 2).shown stepped.2 = [0, 0] := by
    rw [← steps, ← writes, ← begins, ← acquired]
    decide +kernel
  have rooted : Allocator.bus.Rooted (Host.fresh 0 Bus.defaultBase .empty).files := by
    rintro index ⟨path, location, same, _⟩
    cases same
  have ran : (RelayBuffer.acquire .bus 2).run (.fresh 0 Bus.defaultBase .empty) =
      (.ok (.onBus Bus.defaultBase 0 2), first) := Prod.ext rfl acquired
  have arranged : Exposure (.onBus Bus.defaultBase 0 2) .receiver first (.fresh .receiver)
      desk.reader desk.writer { first with hub } [] :=
    .elsewhere (.fresh desk.reader desk.writer) (.of_untouched ⟨rfl, rfl⟩)
  -- the receiver hands the buffer over, the remote writes, and the receiver takes the chunk
  obtain ⟨_, _, introduced⟩ := (buffer_handed_over_clean rooted ran arranged).2.1 desk.channel
    started.1.1 started.1.2 started.2 (.inl begins)
  obtain ⟨_, _, written⟩ := (buffer_handed_over_clean rooted ran introduced).2.2
    (by rw [listens]; rfl) .throughBus Bus.defaultBase ⟨#[7, 8]⟩
  rw [writes] at written
  obtain ⟨⟨engine, left⟩, given, same⟩ := Option.map_eq_some_iff.mp moved
  obtain ⟨rfl, taken⟩ := Prod.mk.inj same
  obtain ⟨_, _, replied⟩ := (buffer_handed_over_clean rooted ran written).2.1 desk.channel
    (.receiving ⟨.ready, ⟨1, 1⟩⟩) left stepped.2 (.inr (steps.trans (Prod.ext given rfl)))
  have whole := buffer_handed_over_clean rooted ran replied
  exact ⟨_, _, _, _, _, replied, whole.1, taken, cleared⟩

end ChunkRelay
