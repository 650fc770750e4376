import ChunkRelay.Proofs.Stream.Supply
import ChunkRelay.Proofs.Transfer.Pace

/-! What a source keeps to against every reader, every memory and every channel.
Its log is a list of rounds, one for each chunk: filled, placed, announced and
confirmed. It ends well only after a round that was filled with nothing, with
all that the reader has handed out placed before. -/

set_option autoImplicit false

namespace ChunkRelay

namespace Source

/-- A station whose reader has filled the stage with a chunk, and what it was before. -/
structure Filled (capacity : Nat) (host : Host) (before after : Station) (chunk : List UInt8) :
    Prop where
  ended : (before.reader.fill host.files capacity).outcome = .ok ()
  bytes : (before.reader.fill host.files capacity).bytes.data.toList = chunk
  reader : after.reader = (before.reader.fill host.files capacity).reader
  front (other : Host) : (after.stage.front chunk.length other).data.toList = chunk

/-- The log of a source that was told an address and has had these chunks confirmed, one round
for each, with the reader that is left of the first one. -/
inductive Rounds (capacity : Nat) (address : UInt64) (first : Reader) :
    List (List UInt8) → List Entry → Reader → Prop
  | opened (host : Host) (station : Station) :
      Rounds capacity address first [] [⟨host, station, .receive, .ok (.baseAddress address)⟩] first
  | confirmed {chunks : List (List UInt8)} {chunk : List UInt8} {log : List Entry}
      {before station : Station} {filling placing announcing confirming : Host} :
      Rounds capacity address first chunks log before.reader →
      Filled capacity filling before station chunk →
      chunk ≠ [] →
      Rounds capacity address first (chunks ++ [chunk])
        (log ++ [⟨filling, before, .fill, .ok chunk.length⟩,
          ⟨placing, station, .place address chunk.length, .ok ()⟩,
          ⟨announcing, station, .send (.writeDone address (.ofNat chunk.length)), .ok ()⟩,
          ⟨confirming, station, .receive, .ok (.readDone (.ofNat chunk.length))⟩])
        station.reader

theorem Filled.length_le {capacity : Nat} {host : Host} {before after : Station}
    {chunk : List UInt8} (filled : Filled capacity host before after chunk) :
    chunk.length ≤ capacity := by
  rw [← filled.bytes, Array.length_toList, ByteArray.size_data]
  exact Reader.size_fill_le _ _ _

theorem Filled.atEnd {capacity : Nat} {host : Host} {before after : Station}
    (filled : Filled capacity host before after []) (some_room : capacity ≠ 0) :
    before.reader.AtEnd host.files capacity := by
  refine Reader.atEnd_of_fill some_room filled.ended ?_
  rw [← ByteArray.size_data, ← Array.length_toList, filled.bytes, List.length_nil]

theorem Rounds.chunk {capacity : Nat} {address : UInt64} {first last : Reader}
    {chunks : List (List UInt8)} {log : List Entry}
    (rounds : Rounds capacity address first chunks log last) {chunk : List UInt8}
    (member : chunk ∈ chunks) : chunk ≠ [] ∧ chunk.length ≤ capacity := by
  induction rounds with
  | opened => cases member
  | confirmed _ filled some_bytes ih =>
    rcases List.mem_append.mp member with earlier | latest
    · exact ih earlier
    · cases List.mem_singleton.mp latest
      exact ⟨some_bytes, filled.length_le⟩

/-- As long as nobody else writes to the file it reads, a reader has handed out the chunks, and
delivers the rest. -/
theorem Rounds.delivers {capacity : Nat} {address : UInt64} {first last : Reader}
    {chunks : List (List UInt8)} {log : List Entry}
    (rounds : Rounds capacity address first chunks log last) {files : FileTree}
    {data : List UInt8} (delivers : first.Delivers files data)
    (still : ∀ entry ∈ log, ∀ contents, first.source? = some contents →
      entry.host.files.extent contents = files.extent contents) :
    last.source? = first.source? ∧ ∃ rest, data = chunks.flatten ++ rest ∧
      last.Delivers files rest := by
  induction rounds with
  | opened => exact ⟨rfl, data, rfl, delivers⟩
  | @confirmed chunks chunk log before station filling _ _ _ _ filled some_bytes ih =>
    obtain ⟨source, rest, rfl, left⟩ := ih fun entry member =>
      still entry (List.mem_append_left _ member)
    have unchanged : ∀ contents, before.reader.source? = some contents →
        filling.files.extent contents = files.extent contents := fun contents reads =>
      still ⟨filling, before, .fill, .ok chunk.length⟩
        (List.mem_append_right _ List.mem_cons_self) contents (source ▸ reads)
    obtain ⟨taken, further⟩ := (left.congr unchanged).fill capacity
    have kept : station.reader.source? = before.reader.source? := by
      rw [filled.reader, Reader.source?_fill]
    refine ⟨kept.trans source, rest.drop capacity, ?_, ?_⟩
    · rw [List.flatten_append, List.flatten_singleton, List.append_assoc, ← filled.bytes, taken,
        List.take_append_drop]
    · rw [filled.reader]
      refine (further filled.ended).congr fun contents reads => (unchanged contents ?_).symm
      rwa [Reader.source?_fill] at reads

/-!
## One request of a source
-/

/-- A source at a station, a request of it with its answer, and the source and the station after
it. -/
inductive Turned (capacity : Nat) : Source → Entry → Source → Station → Prop
  | opened {host : Host} {station : Station} {progress : Progress} {address : UInt64} :
      Turned capacity ⟨.opening, progress⟩ ⟨host, station, .receive, .ok (.baseAddress address)⟩
        ⟨.filling address, progress⟩ station
  | filled {host : Host} {station next : Station} {progress : Progress} {address : UInt64}
      {chunk : List UInt8} :
      Filled capacity host station next chunk →
      Turned capacity ⟨.filling address, progress⟩ ⟨host, station, .fill, .ok chunk.length⟩
        ⟨if chunk.length = 0 then .announcing address 0 else .placing address chunk.length,
          progress⟩ next
  | placed {host : Host} {station : Station} {progress : Progress} {address : UInt64}
      {length : Nat} :
      Turned capacity ⟨.placing address length, progress⟩
        ⟨host, station, .place address length, .ok ()⟩ ⟨.announcing address length, progress⟩
        station
  | announced {host : Host} {station : Station} {progress : Progress} {address : UInt64}
      {length : Nat} :
      length ≠ 0 →
      Turned capacity ⟨.announcing address length, progress⟩
        ⟨host, station, .send (.writeDone address (.ofNat length)), .ok ()⟩
        ⟨.awaiting address length, progress⟩ station
  | finished {host : Host} {station : Station} {progress : Progress} {address : UInt64} :
      Turned capacity ⟨.announcing address 0, progress⟩
        ⟨host, station, .send (.writeDone address 0), .ok ()⟩ ⟨.finished, progress⟩ station
  | confirmed {host : Host} {station : Station} {progress : Progress} {address reported : UInt64} :
      Turned capacity ⟨.awaiting address reported.toNat, progress⟩
        ⟨host, station, .receive, .ok (.readDone reported)⟩
        ⟨.filling address, progress.confirm reported.toNat⟩ station
  | unsent {host : Host} {station : Station} {progress : Progress} {address : UInt64}
      {length : Nat} {cause : ChannelError} {error : RelayError} :
      Turned capacity ⟨.announcing address length, progress⟩
        ⟨host, station, .send (.writeDone address (.ofNat length)), .error cause⟩
        ⟨.failed error, progress⟩ station
  /-- The source fails, and not because it cannot announce. -/
  | failed {phase : SourcePhase} {progress : Progress} {entry : Entry} {next : Station}
      {error : RelayError} :
      phase ≠ .finished →
      entry.sent? = none →
      Turned capacity ⟨phase, progress⟩ entry ⟨.failed error, progress⟩ next

/-- The stage of the station is a scratch of that size. -/
def Scratch (capacity : Nat) (station : Station) : Prop :=
  ∃ contents, station.stage = .scratch contents ∧ contents.size = capacity

section Turned

variable {capacity : Nat} {host : Host} {station next : Station} {progress : Progress}

theorem filled_of_permits (scratch : Scratch capacity station) {result : Except IoError Nat}
    (permits : Entry.Permits ⟨host, station, .fill, result⟩ next) :
    Scratch capacity next ∧
      ∀ length, result = .ok length →
        ∃ chunk, length = chunk.length ∧ Filled capacity host station next chunk := by
  obtain ⟨contents, stage, rfl⟩ := scratch
  obtain ⟨after, answered⟩ := permits
  obtain ⟨_, transport, wait, memory, reader, writer⟩ := station
  subst stage
  have left := congrArg (fun ran => ran.1.2) answered
  have given : (reader.fill host.files contents.size).outcome.map (fun _ =>
      (reader.fill host.files contents.size).bytes.size) = result :=
    Option.some.inj (congrArg (fun ran => ran.1.1) answered)
  subst left
  refine ⟨⟨_, rfl, contents.size_write 0 _⟩, fun length same => ?_⟩
  rw [same] at given
  cases ended : (reader.fill host.files contents.size).outcome with
  | error cause =>
    rw [ended] at given
    cases given
  | ok =>
    rw [ended] at given
    cases given
    have counted : (reader.fill host.files contents.size).bytes.data.toList.length =
        (reader.fill host.files contents.size).bytes.size := by
      rw [Array.length_toList, ByteArray.size_data]
    refine ⟨_, counted.symm, ended, rfl, rfl, fun other => ?_⟩
    rw [counted]
    exact congrArg (·.data.toList) (contents.read_write 0 _)

theorem turned_settle {address reported : UInt64} {length : Nat} :
    Turned capacity ⟨.awaiting address length, progress⟩
      ⟨host, station, .receive, .ok (.readDone reported)⟩
      (Source.settle ⟨.awaiting address length, progress⟩ address length reported.toNat).next
      station := by
  unfold settle
  split
  · exact .failed nofun rfl
  · split
    · exact .failed nofun rfl
    · next matching =>
      rw [← not_not.mp matching]
      exact .confirmed

/-- All that a source can do next. -/
theorem turned {source : Source} {request : Request} {resume : request.Answer → Turn Source}
    {answer : request.Answer} (scratch : Scratch capacity station)
    (asks : source.action = .ask request resume)
    (permits : Entry.Permits ⟨host, station, request, answer⟩ next) :
    Scratch capacity next ∧
      Turned capacity source ⟨host, station, request, answer⟩ (resume answer).next next := by
  obtain ⟨phase, progress⟩ := source
  cases phase with
  | opening =>
    cases asks
    cases permits
    refine ⟨scratch, ?_⟩
    rcases answer with error | message
    · exact .failed nofun rfl
    · cases message with
      | baseAddress address => exact .opened
      | _ => exact .failed nofun rfl
  | filling address =>
    cases asks
    obtain ⟨kept, fills⟩ := filled_of_permits scratch permits
    refine ⟨kept, ?_⟩
    rcases answer with cause | length
    · exact .failed nofun rfl
    · obtain ⟨chunk, rfl, filled⟩ := fills length rfl
      exact .filled filled
  | placing address length =>
    cases asks
    cases permits
    refine ⟨scratch, ?_⟩
    rcases answer with error | _
    · exact .failed nofun rfl
    · exact .placed
  | announcing address length =>
    cases asks
    cases permits
    refine ⟨scratch, ?_⟩
    rcases answer with error | _
    · exact .unsent
    · by_cases nothing : length = 0
      · subst nothing
        exact .finished
      · simp only [nothing, ↓reduceIte]
        exact .announced nothing
  | awaiting address length =>
    cases asks
    cases permits
    refine ⟨scratch, ?_⟩
    rcases answer with error | message
    · exact .failed nofun rfl
    · cases message with
      | readDone reported => exact turned_settle
      | _ => exact .failed nofun rfl
  | finished => cases asks
  | failed error => cases asks

end Turned

/-!
## Logs
-/

/-- Every announcement of bytes comes right after they were placed. -/
def Announced (log : List Entry) : Prop :=
  ∀ prior entry address length result, prior ++ [entry] <+: log →
    entry.sent? = some (.writeDone address length, result) → length ≠ 0 →
      ∃ earlier host station,
        prior = earlier ++ [⟨host, station, .place address length.toNat, .ok ()⟩]

/-- The end of the data was not announced. -/
def Unended (log : List Entry) : Prop :=
  ∀ entry ∈ log, ∀ address, entry.sent? ≠ some (.writeDone address 0, .ok ())

section Logs

variable {log : List Entry} {entry : Entry}

theorem Announced.concat (announced : Announced log)
    (right : ∀ address length result, entry.sent? = some (.writeDone address length, result) →
      length ≠ 0 → ∃ earlier host station,
        log = earlier ++ [⟨host, station, .place address length.toNat, .ok ()⟩]) :
    Announced (log ++ [entry]) := by
  intro prior other address length result before sent some_bytes
  rcases List.prefix_concat_iff.mp before with same | earlier
  · obtain ⟨rfl, rfl⟩ := List.append_singleton_inj.mp same
    exact right address length result sent some_bytes
  · exact announced prior other address length result earlier sent some_bytes

theorem Announced.quiet (announced : Announced log) (quiet : entry.sent? = none) :
    Announced (log ++ [entry]) :=
  announced.concat fun address length result sent => by
    rw [quiet] at sent
    cases sent

theorem Unended.concat (unended : Unended log)
    (other : ∀ address, entry.sent? ≠ some (.writeDone address 0, .ok ())) :
    Unended (log ++ [entry]) := by
  intro each member
  rcases List.mem_append.mp member with earlier | latest
  · exact unended each earlier
  · cases List.mem_singleton.mp latest
    exact other

theorem Unended.quiet (unended : Unended log) (quiet : entry.sent? = none) :
    Unended (log ++ [entry]) :=
  unended.concat fun address => by
    rw [quiet]
    nofun

end Logs

/-!
## The phases
-/

/-- After some rounds a chunk was filled, and these entries came after it. -/
def Under (capacity : Nat) (address : UInt64) (first : Reader) (log : List Entry)
    (station : Station) (progress : Progress) (chunk : List UInt8) (latest : List Entry) : Prop :=
  ∃ chunks rounds before filling, Rounds capacity address first chunks rounds before.reader ∧
    Filled capacity filling before station chunk ∧
    log = rounds ++ ⟨filling, before, .fill, .ok chunk.length⟩ :: latest ∧
    progress = ⟨chunks.flatten.length, chunks.length⟩

theorem Under.concat {capacity : Nat} {address : UInt64} {first : Reader} {log latest : List Entry}
    {station : Station} {progress : Progress} {chunk : List UInt8}
    (under : Under capacity address first log station progress chunk latest) (entry : Entry) :
    Under capacity address first (log ++ [entry]) station progress chunk (latest ++ [entry]) := by
  obtain ⟨chunks, rounds, before, filling, done, filled, rfl, counted⟩ := under
  exact ⟨chunks, rounds, before, filling, done, filled, by simp, counted⟩

/-- What the log looks like in each phase. -/
def Stands (capacity : Nat) (first : Reader) (log : List Entry) (station : Station)
    (source : Source) : Prop :=
  match source.phase with
  | .opening => log = [] ∧ station.reader = first ∧ source.progress = .none
  | .filling address => ∃ chunks, Rounds capacity address first chunks log station.reader ∧
    source.progress = ⟨chunks.flatten.length, chunks.length⟩
  | .placing address length => ∃ chunk, length = chunk.length ∧ chunk ≠ [] ∧
    Under capacity address first log station source.progress chunk []
  | .announcing address length => ∃ chunk, length = chunk.length ∧
    if chunk = [] then Under capacity address first log station source.progress chunk []
    else ∃ placing, Under capacity address first log station source.progress chunk
      [⟨placing, station, .place address length, .ok ()⟩]
  | .awaiting address length => ∃ chunk, length = chunk.length ∧ chunk ≠ [] ∧
    ∃ placing announcing, Under capacity address first log station source.progress chunk
      [⟨placing, station, .place address length, .ok ()⟩,
        ⟨announcing, station, .send (.writeDone address (.ofNat length)), .ok ()⟩]
  | .finished => ∃ address announcing,
    Under capacity address first log station source.progress []
      [⟨announcing, station, .send (.writeDone address 0), .ok ()⟩]
  | .failed _ => True

theorem Under.fits {capacity : Nat} {address : UInt64} {first : Reader} {log latest : List Entry}
    {station : Station} {progress : Progress} {chunk : List UInt8}
    (under : Under capacity address first log station progress chunk latest)
    (small : capacity < UInt64.size) : (UInt64.ofNat chunk.length).toNat = chunk.length := by
  obtain ⟨_, _, _, _, _, filled, _, _⟩ := under
  exact UInt64.toNat_ofNat_of_lt' (Nat.lt_of_le_of_lt filled.length_le small)

/-- What a source announces, taken or not, it has placed. -/
theorem Stands.announce {capacity : Nat} {address : UInt64} {first : Reader} {log : List Entry}
    {station : Station} {progress : Progress} {length : Nat} (small : capacity < UInt64.size)
    (stands : Stands capacity first log station ⟨.announcing address length, progress⟩)
    (announced : Announced log) (host : Host) (result : Except ChannelError Unit) :
    Announced
      (log ++ [⟨host, station, .send (.writeDone address (.ofNat length)), result⟩]) := by
  refine announced.concat fun _ _ _ sent some_bytes => ?_
  cases sent
  obtain ⟨chunk, rfl, placed⟩ := stands
  have something : chunk ≠ [] := by
    rintro rfl
    exact some_bytes rfl
  rw [if_neg something] at placed
  obtain ⟨placing, under⟩ := placed
  rw [under.fits small]
  obtain ⟨_, rounds, before, filling, _, _, rfl, _⟩ := under
  exact ⟨rounds ++ [⟨filling, before, .fill, .ok chunk.length⟩], placing, station, by simp⟩

/-- What is kept by everything that a source does. -/
structure Kept (capacity : Nat) (first : Reader) (log : List Entry) (station : Station)
    (source : Source) : Prop where
  scratch : Scratch capacity station
  stands : Stands capacity first log station source
  announced : Announced log
  unended : source.phase ≠ .finished → Unended log

section Kept

variable {capacity : Nat} {first : Reader} {log : List Entry} {station next : Station}
  {source after : Source} {entry : Entry}

theorem Kept.turned (small : capacity < UInt64.size) (kept : Kept capacity first log station source)
    (same : entry.station = station) (scratch : Scratch capacity next)
    (turned : Turned capacity source entry after next) :
    Kept capacity first (log ++ [entry]) next after := by
  obtain ⟨_, stands, announced, unended⟩ := kept
  cases turned with
  | opened =>
    obtain ⟨rfl, rfl, counted⟩ := stands
    cases same
    exact ⟨scratch, ⟨[], .opened _ _, counted⟩, announced.quiet rfl,
      fun _ => (unended nofun).quiet rfl⟩
  | @filled host before _ progress address chunk filled =>
    obtain ⟨chunks, rounds, counted⟩ := stands
    cases same
    have under : Under capacity address first
        (log ++ [⟨host, before, .fill, .ok chunk.length⟩]) next progress chunk [] :=
      ⟨chunks, log, before, host, rounds, filled, rfl, counted⟩
    refine ⟨scratch, ?_, announced.quiet rfl, fun _ => (unended nofun).quiet rfl⟩
    by_cases nothing : chunk = []
    · subst nothing
      exact ⟨[], rfl, under⟩
    · rw [if_neg (mt List.length_eq_zero_iff.mp nothing)]
      exact ⟨chunk, rfl, nothing, under⟩
  | placed =>
    obtain ⟨chunk, rfl, some_bytes, under⟩ := stands
    cases same
    refine ⟨scratch, ⟨chunk, rfl, ?_⟩, announced.quiet rfl,
      fun _ => (unended nofun).quiet rfl⟩
    rw [if_neg some_bytes]
    exact ⟨_, under.concat _⟩
  | @announced host _ progress address length some_bytes =>
    cases same
    have still := stands.announce small announced host (.ok ())
    obtain ⟨chunk, rfl, placed⟩ := stands
    have something : chunk ≠ [] := mt List.length_eq_zero_iff.mpr some_bytes
    rw [if_neg something] at placed
    obtain ⟨placing, under⟩ := placed
    refine ⟨scratch, ⟨chunk, rfl, something, placing, host, under.concat _⟩, still,
      fun _ => (unended nofun).concat fun _ sent => some_bytes ?_⟩
    have zero : UInt64.ofNat chunk.length = 0 :=
      (Message.writeDone.inj (Prod.mk.inj (Option.some.inj sent)).1).2
    rw [← under.fits small, zero]
    rfl
  | @finished host =>
    cases same
    have still := stands.announce small announced host (.ok ())
    obtain ⟨chunk, nothing, under⟩ := stands
    obtain rfl := List.length_eq_zero_iff.mp nothing.symm
    rw [if_pos rfl] at under
    exact ⟨scratch, ⟨_, host, under.concat _⟩, still, fun other => absurd rfl other⟩
  | @confirmed host _ progress address reported =>
    cases same
    obtain ⟨chunk, length, some_bytes, placing, announcing, under⟩ := stands
    obtain ⟨chunks, rounds, before, filling, done, filled, rfl, counted⟩ := under
    refine ⟨scratch, ⟨chunks ++ [chunk], ?_, ?_⟩, announced.quiet rfl,
      fun _ => (unended nofun).quiet rfl⟩
    · have answered : reported = .ofNat chunk.length := by
        rw [← length, UInt64.ofNat_toNat]
      rw [length, answered, List.append_assoc]
      exact .confirmed done filled some_bytes
    · dsimp only at counted
      rw [counted, length]
      simp [Progress.confirm]
  | @unsent host =>
    cases same
    exact ⟨scratch, trivial, stands.announce small announced host _,
      fun _ => (unended nofun).concat fun _ sent =>
        nomatch (Prod.mk.inj (Option.some.inj sent)).2⟩
  | failed going quiet =>
    exact ⟨scratch, trivial, announced.quiet quiet, fun _ => (unended going).quiet quiet⟩

end Kept

/-- Whatever a source has encountered, it has kept to its rules. -/
theorem kept_of_encounter {capacity : Nat} (small : capacity < UInt64.size) {start last : Station}
    (scratch : Scratch capacity start) {party : Peer} {log : List Entry}
    (encounter : Encounter (Peer.action capacity) (.fresh .source) start party last log) :
    ∃ source, party = .sourcing source ∧ Kept capacity start.reader log last source := by
  induction encounter with
  | fresh =>
    refine ⟨.fresh, rfl, scratch, ⟨rfl, rfl, rfl⟩, ?_, fun _ => ?_⟩
    · intro prior entry address length result before
      simp at before
    · intro entry member
      cases member
  | asked _ asks permits ih =>
    obtain ⟨source, rfl, kept⟩ := ih
    rw [Peer.action] at asks
    cases acts : source.action with
    | stop =>
      rw [acts] at asks
      cases asks
    | ask request resume =>
      rw [acts] at asks
      cases asks
      obtain ⟨still, turned⟩ := turned kept.scratch acts permits
      exact ⟨_, rfl, kept.turned small rfl still turned⟩

/-- What was filled and placed before a fill that gave nothing is all that the reader delivers. -/
theorem Rounds.flatten {capacity : Nat} {address : UInt64} {first : Reader}
    {chunks : List (List UInt8)} {rounds : List Entry} {before after : Station} {filling : Host}
    (some_room : capacity ≠ 0)
    (done : Rounds capacity address first chunks rounds before.reader)
    (nothing : Filled capacity filling before after []) {files : FileTree} {data : List UInt8}
    (delivers : first.Delivers files data)
    (still : ∀ entry ∈ rounds, ∀ contents, first.source? = some contents →
      entry.host.files.extent contents = files.extent contents)
    (here : ∀ contents, first.source? = some contents →
      filling.files.extent contents = files.extent contents) :
    chunks.flatten = data := by
  obtain ⟨source, rest, rfl, left⟩ := done.delivers delivers still
  rw [← source] at here
  have taken := ((left.congr here).fill capacity).1
  rw [nothing.bytes] at taken
  have drained : rest = [] := (List.take_eq_nil_iff.mp taken.symm).resolve_left some_room
  rw [drained, List.append_nil]

end Source

/-- A source that ends well was told an address first, has placed all that its reader hands out
there, chunk by chunk, each announced and confirmed with its length, and has announced the end
after a fill at the end of the data. Otherwise it has not announced the end, and it never announces
a chunk that was not placed. Every real run of a source is such an encounter; what it places is in
its memory then, and it ends unless it waits without end for a message that is not there. -/
theorem source_delivers_all {capacity : Nat} (some_room : capacity ≠ 0)
    (small : capacity < UInt64.size) {start last : Station}
    (scratch : Source.Scratch capacity start)
    {party : Peer} {log : List Entry}
    (encounter : Encounter (Peer.action capacity) (.fresh .source) start party last log) :
    (∀ role progress, party.outcome? = some (.ok (role, progress)) →
      role = .source ∧ ∃ address chunks rounds before filling announcing,
        Source.Rounds capacity address start.reader chunks rounds before.reader ∧
        log = rounds ++ [⟨filling, before, .fill, .ok 0⟩,
          ⟨announcing, last, .send (.writeDone address 0), .ok ()⟩] ∧
        before.reader.AtEnd filling.files capacity ∧
        (∀ chunk ∈ chunks, chunk ≠ [] ∧ chunk.length ≤ capacity) ∧
        progress = ⟨chunks.flatten.length, chunks.length⟩ ∧
        ∀ files data, start.reader.Delivers files data →
          (∀ entry ∈ log, ∀ contents, start.reader.source? = some contents →
            entry.host.files.extent contents = files.extent contents) →
          chunks.flatten = data) ∧
      ((∀ role progress, party.outcome? ≠ some (.ok (role, progress))) → Source.Unended log) ∧
      Source.Announced log ∧
      (party.outcome?.isSome ↔ Peer.action capacity party = .stop) ∧
      ∀ transport wait memory reader writer host outcome left after,
        (Peer.run .source capacity
            (.ofPeer capacity transport wait memory reader writer)).run host =
          ((outcome, left), after) →
          (∃ party log, outcome = party.outcome? ∧
            Performs (Peer.action capacity)
              ⟨.fresh .source, .ofPeer capacity transport wait memory reader writer, host⟩ log
              ⟨party, left, after⟩ ∧
            Encounter (Peer.action capacity) (.fresh .source)
              (.ofPeer capacity transport wait memory reader writer) party left log ∧
            Deposited memory log) ∧
          (outcome.isSome ∨ wait = .unbounded ∧
            ∃ before, transport.poll.run before = (none, after)) := by
  obtain ⟨source, rfl, kept⟩ := Source.kept_of_encounter small scratch encounter
  refine ⟨fun role progress ended => ?delivered, fun other => kept.unended ?unfinished,
    kept.announced, Peer.outcome_isSome_iff capacity _, ?real⟩
  case delivered =>
    obtain ⟨phase, counted⟩ := source
    cases phase with
    | finished =>
      cases ended
      obtain ⟨address, announcing, chunks, rounds, before, filling, done, nothing, rfl, same⟩ :=
        kept.stands
      refine ⟨rfl, address, chunks, rounds, before, filling, announcing, done, rfl,
        nothing.atEnd some_room, fun chunk => done.chunk, same, ?_⟩
      intro files data delivers still
      refine done.flatten some_room nothing delivers (fun entry member =>
        still entry (List.mem_append_left _ member)) ?_
      exact still ⟨filling, before, .fill, .ok 0⟩ (List.mem_append_right _ List.mem_cons_self)
    | _ => cases ended
  case unfinished =>
    obtain ⟨phase, progress⟩ := source
    rintro ⟨⟩
    exact other .source progress rfl
  case real =>
    intro transport wait memory reader writer host outcome left after ran
    rcases advanced : (advanceAlone (Peer.action capacity) (fun _ => false) (Peer.fresh .source)
      (.ofPeer capacity transport wait memory reader writer)).run host with ⟨result, later⟩
    have ends := Peer.run_ends ran
    rw [Peer.run, HostM.run_bind_eq advanced] at ran
    cases ran
    obtain ⟨log, performs⟩ := Performs.of_advanceAlone advanced
    refine ⟨⟨_, log, rfl, performs, performs.encounter .fresh, performs.deposited⟩, ?_⟩
    rcases ends with ended | ⟨unbounded, _, before, present, nothing⟩
    · exact .inl ended
    · cases present
      exact .inr ⟨unbounded, before, nothing⟩

/-- Three bytes in chunks of two, for an engine that has sent its address and both its answers. -/
theorem source_delivers_all_small :
    ∃ start last party log, Source.Scratch 2 start ∧
      Encounter (Peer.action 2) (.fresh .source) start party last log ∧
      party.outcome? = some (.ok (.source, ⟨3, 2⟩)) ∧
      ∃ address chunks rounds left, Source.Rounds 2 address start.reader chunks rounds left ∧
        chunks.flatten = [1, 2, 3] := by
  let acquired := (RelayBuffer.acquire .bus 2).run (.fresh 0 Bus.defaultBase .empty)
  let said : List Message := [.baseAddress Bus.defaultBase, .readDone 2, .readDone 1]
  let hub := said.foldl (fun hub message => (hub.send 0 .near message).2) (Hub.empty.join default).2
  let start : Station := .ofPeer 2 (.link 0 .far) .unbounded .throughBus
    (.script [.data ⟨#[1, 2, 3]⟩] none) .discard
  have scratch : Source.Scratch 2 start := ⟨_, rfl, rfl⟩
  let host := { acquired.2 with hub }
  have ended : ((Peer.run .source 2 start).run host).1.1 = some (.ok (.source, ⟨3, 2⟩)) := by
    decide +kernel
  rcases ran : (Peer.run .source 2 start).run host with ⟨⟨result, left⟩, after⟩
  rw [ran] at ended
  have rules := source_delivers_all (by decide) (by decide) scratch .fresh
  obtain ⟨⟨party, log, outcome, _, encounter, _⟩, _⟩ := rules.2.2.2.2 _ _ _ _ _ host _ _ _ ran
  have delivered := outcome.symm.trans ended
  obtain ⟨_, address, chunks, rounds, before, _, _, done, _, _, _, _, all⟩ :=
    (source_delivers_all (by decide) (by decide) scratch encounter).1 _ _ delivered
  exact ⟨start, _, party, log, scratch, encounter, delivered, address, chunks, rounds,
    before.reader, done, all .empty _ ⟨trivial, rfl⟩ fun _ _ _ reads => nomatch reads⟩

/-- A source without any room ends well as soon as it is told an address, and leaves what its reader
has to hand out. -/
theorem source_without_room_delivers_nothing :
    ∃ host left after, (Peer.run .source 0 (.ofPeer 0 (.link 0 .far) .unbounded .throughBus
        (.script [.data ⟨#[7]⟩] none) .discard)).run host =
          ((some (.ok (.source, ⟨0, 0⟩)), left), after) ∧
        left.reader.unread = ⟨#[7]⟩ := by
  let hub := ((Hub.empty.join default).2.send 0 .near (.baseAddress Bus.defaultBase)).2
  let ran := (Peer.run .source 0 (.ofPeer 0 (.link 0 .far) .unbounded .throughBus
    (.script [.data ⟨#[7]⟩] none) .discard)).run
      { Host.fresh 0 Bus.defaultBase .empty with hub }
  have ended : ran.1.1 = some (.ok (.source, ⟨0, 0⟩)) := by decide +kernel
  have unread : ran.1.2.reader.unread = ⟨#[7]⟩ := by decide +kernel
  exact ⟨_, _, _, Prod.ext (Prod.ext ended rfl) rfl, unread⟩

end ChunkRelay
