import ChunkRelay.Proofs.Memory.Lookup
import ChunkRelay.Proofs.Stream.Supply
import ChunkRelay.Proofs.Transfer.Contest

/-! What a sender keeps to against every reader and every channel. Its log
alone tells which announcements were confirmed and which answer was the first
fault. An invariant of the phases says what the log looks like in each. -/

set_option autoImplicit false

namespace ChunkRelay

namespace Sender

/-- What the log of a sender amounts to: the length that waits for its answer, and the lengths that
were confirmed. -/
structure Tally where
  announced : Nat
  confirmed : List Nat

namespace Tally

/-- Counts an entry. Only the next receive after an announcement can confirm it. -/
def count (tally : Tally) : Entry → Tally
  | ⟨_, _, .send (.dataReady _ length), .ok ()⟩ => { tally with announced := length.toNat }
  | ⟨_, _, .receive, .ok (.readDone length)⟩ =>
    if length ≠ 0 ∧ length.toNat = tally.announced then
      ⟨0, tally.confirmed ++ [tally.announced]⟩
    else { tally with announced := 0 }
  | ⟨_, _, .receive, _⟩ => { tally with announced := 0 }
  | _ => tally

def of (log : List Entry) : Tally :=
  log.foldl count ⟨0, []⟩

variable {tally : Tally} {host : Host} {station : Station}

theorem count_confirmed {length : UInt64} (some_bytes : length ≠ 0)
    (matching : tally.announced = length.toNat) :
    tally.count ⟨host, station, .receive, .ok (.readDone length)⟩ =
      ⟨0, tally.confirmed ++ [length.toNat]⟩ := by
  simp only [count, matching, some_bytes, ne_eq, not_false_eq_true, and_self, ↓reduceIte]

theorem of_concat (log : List Entry) (entry : Entry) :
    of (log ++ [entry]) = (of log).count entry :=
  List.foldl_concat ..

theorem announced_of_concat (log : List Entry) (host : Host) (station : Station)
    (address length : UInt64) :
    (of (log ++ [⟨host, station, .send (.dataReady address length), .ok ()⟩])).announced =
      length.toNat := by
  rw [of_concat]
  rfl

end Tally

/-- The error in an answer to a sender that has announced so many bytes. -/
def fault? (announced : Nat) : Entry → Option RelayError
  | ⟨_, _, .fill, .error cause⟩ => some (.localIO (.read cause))
  | ⟨_, _, .send _, .error error⟩ | ⟨_, _, .receive, .error error⟩ => some (.channel error)
  | ⟨_, _, .receive, .ok (.readDone length)⟩ =>
    if length = 0 then some (.protocol (.remoteReadNothing announced))
    else if length.toNat ≠ announced then
      some (.protocol (.readCountMismatch announced length.toNat))
    else none
  | ⟨_, _, .receive, .ok other⟩ => some (.channel (.unexpected "read-done" other.name))
  | _ => none

/-- A fault confirms nothing. -/
theorem Tally.count_fault {tally : Tally} {entry : Entry} {error : RelayError}
    (fault : fault? tally.announced entry = some error) :
    (tally.count entry).confirmed = tally.confirmed := by
  unfold Tally.count
  split
  · rfl
  · next length =>
    split
    · next matching => simp [fault?, matching] at fault
    · rfl
  · rfl
  · rfl

/-!
## One request of a sender
-/

/-- A sender, a request of it with its answer, and the sender after it. -/
inductive Turned (buffer : RelayBuffer) : Sender → Entry → Sender → Prop
  | cleared {phase : SenderPhase} {progress : Progress} {host : Host} {station : Station} :
      phase = .idle ∨ phase = .ready →
      Turned buffer ⟨phase, progress⟩ ⟨host, station, .clear, ()⟩ ⟨.filling, progress⟩
  | filled {progress : Progress} {host : Host} {station : Station} {length : Nat} :
      length ≤ buffer.capacity →
      (length = 0 → station.reader.AtEnd host.files buffer.capacity) →
      Turned buffer ⟨.filling, progress⟩ ⟨host, station, .fill, .ok length⟩
        ⟨.announcing length, progress⟩
  | unread {progress : Progress} {host : Host} {station : Station} {cause : IoError} :
      Turned buffer ⟨.filling, progress⟩ ⟨host, station, .fill, .error cause⟩
        ⟨.failed (.localIO (.read cause)), progress⟩
  | announced {progress : Progress} {host : Host} {station : Station} {length : Nat} :
      length ≠ 0 →
      Turned buffer ⟨.announcing length, progress⟩
        ⟨host, station, .send (.dataReady buffer.address (.ofNat length)), .ok ()⟩
        ⟨.awaiting length, progress⟩
  | ended {progress : Progress} {host : Host} {station : Station} :
      Turned buffer ⟨.announcing 0, progress⟩
        ⟨host, station, .send (.dataReady buffer.address 0), .ok ()⟩ ⟨.completed, progress⟩
  | unsent {progress : Progress} {host : Host} {station : Station} {length : Nat}
      {error : ChannelError} :
      Turned buffer ⟨.announcing length, progress⟩
        ⟨host, station, .send (.dataReady buffer.address (.ofNat length)), .error error⟩
        ⟨.failed (.channel error), progress⟩
  | confirmed {progress : Progress} {host : Host} {station : Station} {length : UInt64} :
      length ≠ 0 →
      Turned buffer ⟨.awaiting length.toNat, progress⟩
        ⟨host, station, .receive, .ok (.readDone length)⟩
        ⟨.ready, progress.confirm length.toNat⟩
  | refused {progress : Progress} {host : Host} {station : Station} {length : Nat}
      {answer : Except ChannelError Message} {error : RelayError} :
      fault? length ⟨host, station, .receive, answer⟩ = some error →
      Turned buffer ⟨.awaiting length, progress⟩ ⟨host, station, .receive, answer⟩
        ⟨.failed error, progress⟩

section Turn

variable {buffer : RelayBuffer} {host : Host} {station : Station} {progress : Progress}

private theorem fill_turn {next : Station} (some_room : buffer.capacity ≠ 0)
    (stage : station.stage = .relay buffer) {result : Except IoError Nat}
    (left : Entry.Leaves ⟨host, station, .fill, result⟩ next) :
    match result with
    | .ok length => length ≤ buffer.capacity ∧
        (length = 0 → station.reader.AtEnd host.files buffer.capacity)
    | .error _ => True := by
  have filled := left.fill stage
  cases ended : (station.reader.fill host.files buffer.capacity).outcome with
  | error cause =>
    rw [ended] at filled
    subst filled
    trivial
  | ok =>
    rw [ended] at filled
    subst filled
    exact ⟨Reader.size_fill_le _ _ _, Reader.atEnd_of_fill some_room ended⟩

private theorem receive_turn (length : Nat) (answer : Except ChannelError Message) :
    ∃ after, (match answer >>= Message.readDone? with
        | .ok reported => Sender.settle ⟨.awaiting length, progress⟩ length reported.toNat
        | .error error => Sender.fail ⟨.awaiting length, progress⟩ (.channel error)).next = after ∧
      Turned buffer ⟨.awaiting length, progress⟩ ⟨host, station, .receive, answer⟩ after := by
  refine ⟨_, rfl, ?_⟩
  cases answer with
  | error error => exact .refused rfl
  | ok message =>
    cases message with
    | readDone reported =>
      by_cases nothing : reported = 0
      · subst nothing
        exact .refused rfl
      · have some_read : reported.toNat ≠ 0 := fun zero =>
          nothing (UInt64.toNat_inj.mp zero)
        by_cases matching : reported.toNat = length
        · subst matching
          simp only [bind, Except.bind, Message.readDone?, Sender.settle, some_read, ↓reduceIte,
            ne_eq, not_true_eq_false]
          exact .confirmed nothing
        · simp only [bind, Except.bind, Message.readDone?, Sender.settle, some_read, ↓reduceIte,
            ne_eq, matching, not_false_eq_true]
          refine .refused ?_
          simp [fault?, nothing, matching]
    | _ => exact .refused rfl

/-- All that a sender can do next. -/
theorem turned {sender : Sender} {next : Station} {request : Request}
    {resume : request.Answer → Turn Engine} {answer : request.Answer}
    (some_room : buffer.capacity ≠ 0) (stage : station.stage = .relay buffer)
    (asks : (Engine.sending sender).action buffer.address buffer.capacity = .ask request resume)
    (left : Entry.Leaves ⟨host, station, request, answer⟩ next) :
    ∃ after, (resume answer).next = .sending after ∧
      Turned buffer sender ⟨host, station, request, answer⟩ after := by
  obtain ⟨phase, progress⟩ := sender
  cases phase with
  | idle =>
    cases asks
    exact ⟨_, rfl, .cleared (.inl rfl)⟩
  | ready =>
    cases asks
    exact ⟨_, rfl, .cleared (.inr rfl)⟩
  | filling =>
    cases asks
    have filled := fill_turn some_room stage left
    cases answer with
    | ok length => exact ⟨_, rfl, .filled filled.1 filled.2⟩
    | error cause => exact ⟨_, rfl, .unread⟩
  | announcing length =>
    cases asks
    cases answer with
    | error error => exact ⟨_, rfl, .unsent⟩
    | ok =>
      by_cases nothing : length = 0
      · subst nothing
        exact ⟨_, rfl, .ended⟩
      · refine ⟨⟨.awaiting length, progress⟩, ?_, .announced nothing⟩
        simp only [Turn.map, nothing, ↓reduceIte]
        rfl
  | awaiting length =>
    cases asks
    obtain ⟨after, leads, turn⟩ := receive_turn length answer
    exact ⟨after, congrArg Engine.sending leads, turn⟩
  | completed => cases asks
  | failed error => cases asks

end Turn

/-!
## Logs
-/

/-- What came between an announcement and the next one: that very length was read. -/
def Answered (first : Entry) (between : List Entry) : Prop :=
  ∀ address length result, first.sent? = some (.dataReady address length, result) →
    result = .ok () ∧ length ≠ 0 ∧
      (between.filterMap Entry.received?).head? = some (.ok (.readDone length))

/-- Every announcement of a log was answered. -/
def Settled (log : List Entry) : Prop :=
  ∀ first between, first :: between <:+ log → Answered first between

/-- No answer in a log was a fault. -/
def Smooth (log : List Entry) : Prop :=
  ∀ prior entry, prior ++ [entry] <+: log → fault? (Tally.of prior).announced entry = none

/-- A log ends where its reader was filled for so many bytes. -/
def FilledLast (buffer : RelayBuffer) (log : List Entry) (length : Nat) : Prop :=
  ∃ earlier host station, log = earlier ++ [⟨host, station, .fill, .ok length⟩] ∧
    (length = 0 → station.reader.AtEnd host.files buffer.capacity)

/-- What a log says of all announcements and of the order they came in. -/
structure Lawful (buffer : RelayBuffer) (log : List Entry) : Prop where
  /-- Only announcements of chunks of the buffer are sent. -/
  messages {entry : Entry} {message : Message} {result : Except ChannelError Unit} :
    entry ∈ log → entry.sent? = some (message, result) →
      ∃ length, message = .dataReady buffer.address length ∧ length.toNat ≤ buffer.capacity
  /-- What follows an announcement was confirmed first, and is not the end of the data. -/
  confirmations {first second : Entry} {between : List Entry} {address length : UInt64}
    {result : Except ChannelError Unit} :
    first :: (between ++ [second]) <:+: log →
      first.sent? = some (.dataReady address length, result) → second.sent?.isSome →
      result = .ok () ∧ length ≠ 0 ∧
        (between.filterMap Entry.received?).head? = some (.ok (.readDone length))
  /-- The end of the data is announced right after a fill that began there. -/
  endings {prior : List Entry} {entry : Entry} {address : UInt64}
    {result : Except ChannelError Unit} :
    prior ++ [entry] <+: log → entry.sent? = some (.dataReady address 0, result) →
      FilledLast buffer prior 0

section Logs

variable {buffer : RelayBuffer} {log prior between : List Entry} {entry first : Entry}

theorem Answered.concat (answered : Answered first between) (entry : Entry) :
    Answered first (between ++ [entry]) := by
  intro address length result sent
  obtain ⟨accepted, some_bytes, confirmed⟩ := answered _ _ _ sent
  refine ⟨accepted, some_bytes, ?_⟩
  rw [List.filterMap_append, List.head?_append, confirmed, Option.some_or]

theorem Settled.nil : Settled [] := by
  intro first between after
  simp at after

theorem Settled.concat (settled : Settled log) (quiet : entry.sent? = none) :
    Settled (log ++ [entry]) := by
  intro first between after
  rcases List.suffix_concat_iff.mp after with nothing | ⟨shorter, same, earlier⟩
  · cases nothing
  · cases shorter with
    | nil =>
      cases same
      intro address length result sent
      rw [quiet] at sent
      cases sent
    | cons head tail =>
      cases same
      exact (settled _ _ earlier).concat entry

theorem Settled.confirm (settled : Settled log) {host other : Host} {station next : Station}
    {address length : UInt64} (some_bytes : length ≠ 0) :
    Settled (log ++ [⟨host, station, .send (.dataReady address length), .ok ()⟩] ++
      [⟨other, next, .receive, .ok (.readDone length)⟩]) := by
  intro first between after
  rcases List.suffix_concat_iff.mp after with nothing | ⟨shorter, same, earlier⟩
  · cases nothing
  rcases List.suffix_concat_iff.mp earlier with nothing | ⟨shortest, split, earliest⟩
  · subst nothing
    cases same
    intro _ _ _ sent
    cases sent
  subst split
  cases shortest with
  | nil =>
    cases same
    intro _ _ _ sent
    cases sent
    exact ⟨rfl, some_bytes, rfl⟩
  | cons head tail =>
    cases same
    exact ((settled _ _ earliest).concat _).concat _

theorem Smooth.nil : Smooth [] := by
  intro prior entry before
  simp at before

theorem Smooth.concat (smooth : Smooth log)
    (fine : fault? (Tally.of log).announced entry = none) : Smooth (log ++ [entry]) := by
  intro prior other before
  rcases List.prefix_concat_iff.mp before with same | earlier
  · obtain ⟨rfl, rfl⟩ := List.append_singleton_inj.mp same
    exact fine
  · exact smooth _ _ earlier

theorem Lawful.nil : Lawful buffer [] where
  messages member := by cases member
  confirmations inside := by simp at inside
  endings before := by simp at before

theorem Lawful.concat (lawful : Lawful buffer log) (quiet : entry.sent? = none) :
    Lawful buffer (log ++ [entry]) where
  messages member sent := by
    rcases List.mem_append.mp member with earlier | last
    · exact lawful.messages earlier sent
    · cases List.mem_singleton.mp last
      rw [quiet] at sent
      cases sent
  confirmations inside sent again := by
    rcases List.infix_concat_iff.mp inside with last | earlier
    · rcases List.suffix_concat_iff.mp last with nothing | ⟨shorter, same, _⟩
      · cases nothing
      · rw [← List.cons_append] at same
        obtain ⟨rfl, rfl⟩ := List.append_singleton_inj.mp same
        rw [quiet] at again
        cases again
    · exact lawful.confirmations earlier sent again
  endings before sent := by
    rcases List.prefix_concat_iff.mp before with same | earlier
    · obtain ⟨rfl, rfl⟩ := List.append_singleton_inj.mp same
      rw [quiet] at sent
      cases sent
    · exact lawful.endings earlier sent

/-- One more announcement, after a fill and with all others answered. -/
theorem Lawful.announce (lawful : Lawful buffer log) (settled : Settled log) {length : UInt64}
    {host : Host} {station : Station} (bounded : length.toNat ≤ buffer.capacity)
    (filled : FilledLast buffer log length.toNat) (result : Except ChannelError Unit) :
    Lawful buffer
      (log ++ [⟨host, station, .send (.dataReady buffer.address length), result⟩]) where
  messages member sent := by
    rcases List.mem_append.mp member with earlier | last
    · exact lawful.messages earlier sent
    · cases List.mem_singleton.mp last
      cases sent
      exact ⟨length, rfl, bounded⟩
  confirmations inside sent again := by
    rcases List.infix_concat_iff.mp inside with last | earlier
    · rcases List.suffix_concat_iff.mp last with nothing | ⟨shorter, same, before⟩
      · cases nothing
      · rw [← List.cons_append] at same
        obtain ⟨rfl, _⟩ := List.append_singleton_inj.mp same
        exact settled _ _ before _ _ _ sent
    · exact lawful.confirmations earlier sent again
  endings before sent := by
    rcases List.prefix_concat_iff.mp before with same | earlier
    · obtain ⟨rfl, rfl⟩ := List.append_singleton_inj.mp same
      cases sent
      exact filled
    · exact lawful.endings earlier sent

end Logs

/-!
## The phases
-/

/-- What the log looks like in each phase. -/
def Stands (buffer : RelayBuffer) (log : List Entry) : SenderPhase → Prop
  | .idle | .ready | .filling => Smooth log ∧ Settled log
  | .announcing length =>
    Smooth log ∧ Settled log ∧ length ≤ buffer.capacity ∧ FilledLast buffer log length
  | .awaiting length =>
    Smooth log ∧ length < UInt64.size ∧ length ≠ 0 ∧ ∃ prior host station,
      log = prior ++
        [⟨host, station, .send (.dataReady buffer.address (.ofNat length)), .ok ()⟩] ∧
      Settled prior
  | .completed =>
    Smooth log ∧ ∃ prior host station,
      log = prior ++ [⟨host, station, .send (.dataReady buffer.address 0), .ok ()⟩]
  | .failed error =>
    ∃ prior entry, log = prior ++ [entry] ∧ Smooth prior ∧
      fault? (Tally.of prior).announced entry = some error

/-- What is kept by everything that a sender does. -/
structure Kept (buffer : RelayBuffer) (sender : Sender) (log : List Entry) : Prop where
  lawful : Lawful buffer log
  stands : Stands buffer log sender.phase
  progress : sender.progress =
    ⟨(Tally.of log).confirmed.sum, (Tally.of log).confirmed.length⟩

section Kept

variable {buffer : RelayBuffer} {sender after : Sender} {log : List Entry} {entry : Entry}

theorem Kept.fresh (buffer : RelayBuffer) : Kept buffer .fresh [] :=
  ⟨.nil, ⟨.nil, .nil⟩, rfl⟩

theorem Kept.start (kept : Kept buffer sender log) : Kept buffer sender.start log := by
  obtain ⟨phase, progress⟩ := sender
  cases phase with
  | idle => exact ⟨kept.lawful, kept.stands, kept.progress⟩
  | _ => exact kept

theorem Kept.turned (small : buffer.capacity < UInt64.size) (kept : Kept buffer sender log)
    (turned : Turned buffer sender entry after) : Kept buffer after (log ++ [entry]) := by
  obtain ⟨lawful, stands, progress⟩ := kept
  cases turned with
  | @cleared phase count host station between =>
    have before : Smooth log ∧ Settled log := by
      rcases between with rfl | rfl <;> exact stands
    refine ⟨lawful.concat rfl, ⟨before.1.concat rfl, before.2.concat rfl⟩, ?_⟩
    rw [Tally.of_concat]
    exact progress
  | filled bounded ended =>
    refine ⟨lawful.concat rfl,
      ⟨stands.1.concat rfl, stands.2.concat rfl, bounded, log, _, _, rfl, ended⟩, ?_⟩
    rw [Tally.of_concat]
    exact progress
  | unread =>
    refine ⟨lawful.concat rfl, ⟨log, _, rfl, stands.1, rfl⟩, ?_⟩
    rw [Tally.of_concat]
    exact progress
  | @announced count host station length some_bytes =>
    obtain ⟨smooth, settled, bounded, filled⟩ := stands
    have fits := Nat.lt_of_le_of_lt bounded small
    have same : (UInt64.ofNat length).toNat = length := UInt64.toNat_ofNat_of_lt' fits
    refine ⟨lawful.announce settled (same.symm ▸ bounded) (same.symm ▸ filled) _,
      ⟨smooth.concat rfl, fits, some_bytes, log, _, _, rfl, settled⟩, ?_⟩
    rw [Tally.of_concat]
    exact progress
  | ended =>
    obtain ⟨smooth, settled, bounded, filled⟩ := stands
    refine ⟨lawful.announce settled (show (0 : UInt64).toNat ≤ _ from bounded) filled _,
      ⟨smooth.concat rfl, log, _, _, rfl⟩, ?_⟩
    rw [Tally.of_concat]
    exact progress
  | @unsent count host station length error =>
    obtain ⟨smooth, settled, bounded, filled⟩ := stands
    have fits := Nat.lt_of_le_of_lt bounded small
    have same : (UInt64.ofNat length).toNat = length := UInt64.toNat_ofNat_of_lt' fits
    refine ⟨lawful.announce settled (same.symm ▸ bounded) (same.symm ▸ filled) _,
      ⟨log, _, rfl, smooth, rfl⟩, ?_⟩
    rw [Tally.of_concat]
    exact progress
  | @confirmed count host station length some_bytes =>
    obtain ⟨smooth, fits, _, prior, sendHost, sendStation, rfl, settled⟩ := stands
    rw [UInt64.ofNat_toNat] at *
    have announced :=
      Tally.announced_of_concat prior sendHost sendStation buffer.address length
    refine ⟨lawful.concat rfl, ⟨smooth.concat ?fine, settled.confirm some_bytes⟩, ?counted⟩
    case fine =>
      rw [announced]
      simp only [fault?, some_bytes, ↓reduceIte, ne_eq, not_true_eq_false]
    case counted =>
      rw [Tally.of_concat, Tally.count_confirmed some_bytes announced, List.sum_append,
        List.sum_singleton, List.length_append, List.length_singleton]
      dsimp only at progress ⊢
      rw [progress]
      rfl
  | @refused count host station length answer error fault =>
    obtain ⟨smooth, fits, _, prior, sendHost, sendStation, rfl, settled⟩ := stands
    have announced :=
      Tally.announced_of_concat prior sendHost sendStation buffer.address (.ofNat length)
    rw [UInt64.toNat_ofNat_of_lt' fits] at announced
    rw [← announced] at fault
    refine ⟨lawful.concat rfl, ⟨_, _, rfl, smooth, fault⟩, ?_⟩
    rw [Tally.of_concat, Tally.count_fault fault]
    exact progress

end Kept

/-- What a sender keeps to. -/
structure Rules (buffer : RelayBuffer) (sender : Sender) (log : List Entry) : Prop
    extends Lawful buffer log where
  /-- The first fault is the last entry and the error of the transfer. -/
  faults {prior : List Entry} {entry : Entry} {error : RelayError} :
    prior ++ [entry] <+: log → fault? (Tally.of prior).announced entry = some error →
      prior ++ [entry] = log ∧ sender.state = .failed ∧
        (Engine.sending sender).error? = some error
  failed : sender.state = .failed → ∃ prior entry error, log = prior ++ [entry] ∧
    fault? (Tally.of prior).announced entry = some error
  completed : sender.state = .completed → ∃ prior entry, log = prior ++ [entry] ∧
    entry.sent? = some (.dataReady buffer.address 0, .ok ())
  progress : sender.progress =
    ⟨(Tally.of log).confirmed.sum, (Tally.of log).confirmed.length⟩

section Rules

variable {buffer : RelayBuffer} {sender : Sender} {log prior : List Entry} {entry : Entry}
  {error : RelayError}

theorem Smooth.no_fault (smooth : Smooth log) (before : prior ++ [entry] <+: log)
    (fault : fault? (Tally.of prior).announced entry = some error) : False := by
  rw [smooth _ _ before] at fault
  cases fault

theorem Kept.smooth (kept : Kept buffer sender log) (fine : sender.state ≠ .failed) :
    Smooth log := by
  obtain ⟨phase, progress⟩ := sender
  have stands := kept.stands
  cases phase with
  | failed error => exact absurd rfl fine
  | _ => exact stands.1

theorem Kept.rules (kept : Kept buffer sender log) : Rules buffer sender log where
  toLawful := kept.lawful
  progress := kept.progress
  faults := by
    intro prior entry error before fault
    by_cases failed : sender.state = .failed
    · obtain ⟨phase, progress⟩ := sender
      have stands := kept.stands
      cases phase with
      | failed first =>
        obtain ⟨earlier, last, rfl, smooth, broke⟩ := stands
        rcases List.prefix_concat_iff.mp before with same | earlier
        · obtain ⟨rfl, rfl⟩ := List.append_singleton_inj.mp same
          rw [broke] at fault
          cases fault
          exact ⟨rfl, rfl, rfl⟩
        · exact (smooth.no_fault earlier fault).elim
      | _ => cases failed
    · exact ((kept.smooth failed).no_fault before fault).elim
  failed := by
    intro failed
    obtain ⟨phase, progress⟩ := sender
    have stands := kept.stands
    cases phase with
    | failed first =>
      obtain ⟨prior, last, same, smooth, broke⟩ := stands
      exact ⟨prior, last, first, same, broke⟩
    | _ => cases failed
  completed := by
    intro completed
    obtain ⟨phase, progress⟩ := sender
    have stands := kept.stands
    cases phase with
    | completed =>
      obtain ⟨smooth, prior, host, station, same⟩ := stands
      exact ⟨prior, _, same, rfl⟩
    | _ => cases completed

/-- Whatever a contest has come to, a sender has kept to its rules. -/
theorem kept_of_contest {engine : Engine} {reader : Reader} {writer : Writer}
    (some_room : buffer.capacity ≠ 0) (small : buffer.capacity < UInt64.size)
    (contest : Contest buffer .sender engine reader writer log) :
    ∃ sender, engine = .sending sender ∧ Kept buffer sender log := by
  induction contest with
  | fresh reader writer => exact ⟨.fresh, rfl, .fresh buffer⟩
  | started contest ih =>
    obtain ⟨sender, rfl, kept⟩ := ih
    exact ⟨sender.start, rfl, kept.start⟩
  | asked contest stage asks left ih =>
    obtain ⟨sender, rfl, kept⟩ := ih
    obtain ⟨after, leads, turned⟩ := turned some_room stage asks left
    exact ⟨after, leads, kept.turned small turned⟩

theorem action_of_isTerminal (terminal : sender.state.isTerminal = true) (address : UInt64) :
    sender.action address = .stop := by
  obtain ⟨phase, progress⟩ := sender
  cases phase with
  | completed | failed => rfl
  | _ => cases terminal

end Rules

end Sender

/-- A sender keeps to its rules against every reader and every channel. Once it has ended, calling it
does nothing at all. Each call of it over a real channel is part of what it may do. -/
theorem sender_keeps_rules {allocator : Allocator} {capacity : Nat} {before after : Host}
    {buffer : RelayBuffer}
    (acquired : (RelayBuffer.acquire allocator capacity).run before = (.ok buffer, after))
    {sender : Sender} {reader : Reader} {writer : Writer} {log : List Entry}
    (contest : Contest buffer .sender (.sending sender) reader writer log) :
    sender.Rules buffer log ∧
      (sender.state.isTerminal = true →
        (Engine.sending sender).action buffer.address buffer.capacity = .stop ∧
        ∀ desk host,
          (Engine.start (.sending sender) desk).run host = ((.sending sender, desk), host) ∧
          (Engine.step (.sending sender) desk).run host =
            (some (.sending sender, desk), host)) ∧
      ∀ channel host next left later,
        (Engine.start (.sending sender) ⟨buffer, channel, reader, writer⟩).run host =
            ((next, left), later) ∨
          (Engine.step (.sending sender) ⟨buffer, channel, reader, writer⟩).run host =
            (some (next, left), later) →
        ∃ more, Works (.sending sender.start) ⟨buffer, channel, reader, writer⟩ host more next left
            later ∧
          Contest buffer .sender next left.reader left.writer (log ++ more) := by
  obtain ⟨same, some_room, fits⟩ := RelayBuffer.acquire_capacity acquired
  rw [← same] at some_room fits
  have small : buffer.capacity < UInt64.size := Nat.lt_of_le_of_lt fits (by decide)
  obtain ⟨_, named, kept⟩ := Sender.kept_of_contest some_room small contest
  cases named
  refine ⟨kept.rules, fun terminal => ⟨?stops, fun desk host => ⟨?starts, ?steps⟩⟩, ?calls⟩
  case stops => rw [Engine.action, Sender.action_of_isTerminal terminal, Action.map]
  case starts =>
    have begun : (Engine.sending sender).begun = .sending sender :=
      Engine.begun_of_isTerminal terminal
    exact congrArg (fun engine => ((engine, desk), host)) begun
  case steps =>
    unfold Engine.step
    rw [if_pos (show (Engine.sending sender).state.isTerminal = true from terminal)]
    rfl
  case calls =>
    intro channel host next left later called
    have works : ∃ more, Works (.sending sender.start) ⟨buffer, channel, reader, writer⟩ host more
        next left later := by
      rcases called with starts | steps
      · exact Engine.start_works starts
      · exact Engine.step_works steps
    obtain ⟨more, works⟩ := works
    exact ⟨more, works, works.contest contest.started⟩

/-- A chunk of two bytes and its answer on a link. -/
theorem sender_keeps_rules_small :
    ∃ sender reader writer log,
      Contest (.onBus Bus.defaultBase 0 2) .sender (.sending sender) reader writer log ∧
        sender.Rules (.onBus Bus.defaultBase 0 2) log ∧ sender.progress = ⟨2, 1⟩ := by
  let acquired := (RelayBuffer.acquire .bus 2).run (.fresh 0 Bus.defaultBase .empty)
  let hub := ((Hub.empty.join default).2.send 0 .far (.readDone 2)).2
  let desk : Desk :=
    { buffer := .onBus Bus.defaultBase 0 2
      channel := .onTransport default .unbounded (.link 0 .near)
      reader := .script [.data ⟨#[1, 2, 3]⟩] (some 1)
      writer := .discard }
  let stepped := (Engine.step (.fresh .sender) desk).run { acquired.2 with hub }
  have moved : stepped.1.map (·.1) = some (.sending ⟨.ready, ⟨2, 1⟩⟩) := by decide +kernel
  obtain ⟨⟨_, left⟩, given, rfl⟩ := Option.map_eq_some_iff.mp moved
  obtain ⟨log, works⟩ := Engine.step_works (Prod.ext given rfl : stepped = (_, stepped.2))
  have contest := works.contest (.started (.fresh desk.reader desk.writer))
  exact ⟨_, _, _, _, contest, (sender_keeps_rules (Prod.ext rfl rfl : acquired = (_, acquired.2))
    contest).1, rfl⟩

end ChunkRelay
