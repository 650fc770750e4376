import ChunkRelay.Proofs.Transfer.Answers
import ChunkRelay.Remote.Peer
import ChunkRelay.Session.Drive

/-! An engine and a peer at the two ends of an in-process link. They share the
host and act in any order, one request at a time. A wait may run out, a party
that has stopped may take its end of the link away, and the engine's side may
then give its buffer back, each at any time. -/

set_option autoImplicit false

namespace ChunkRelay

/-- The message that an answered request put on its way. -/
def Request.said : (request : Request) → request.Answer → Option Message
  | .send message, .ok () => some message
  | _, _ => none

/-- A party after one answered request. -/
structure Asked (σ : Type) where
  party : σ
  station : Station
  said : Option Message

/-- Lets a party ask for one thing; nothing if it has stopped or its answer is not there yet. -/
def askOnce {σ : Type} (act : σ → Action σ) (party : σ) (station : Station) :
    HostM (Option (Asked σ)) := do
  match act party with
  | .stop => return none
  | .ask request resume =>
    let (answer?, station) ← station.answer request
    match answer? with
    | none => return none
    | some answer =>
      let turn := resume answer
      report turn.notices
      return some { party := turn.next, station, said := request.said answer }

/-- An engine and a peer on one host, and what they have said so far. -/
structure Meeting where
  host : Host
  buffer : RelayBuffer
  engine : Engine
  own : Station
  /-- The capacity of the peer. -/
  capacity : Nat
  peer : Peer
  remote : Station
  talk : List (Side × Message)

/-- What may happen next at a meeting. -/
inductive Move where
  | act (side : Side)
  | expire (side : Side)
  /-- A party that has stopped takes its end of the link away. -/
  | leave (side : Side)
  /-- An engine that has stopped has its buffer given back. -/
  | release
deriving DecidableEq, Repr

/-- What was said, and perhaps one more message from a side. -/
def noted (talk : List (Side × Message)) (side : Side) : Option Message → List (Side × Message)
  | none => talk
  | some message => talk ++ [(side, message)]

namespace Meeting

/-- What the engine does next. -/
def action (meeting : Meeting) : Engine → Action Engine :=
  Engine.action meeting.buffer.address meeting.buffer.capacity

/-- One answered request of the party on a side. -/
def act (meeting : Meeting) : Side → Option Meeting
  | .near =>
    match (askOnce meeting.action meeting.engine meeting.own).run meeting.host with
    | (none, _) => none
    | (some asked, host) => some
      { meeting with
        host
        engine := asked.party
        own := asked.station
        talk := noted meeting.talk .near asked.said }
  | .far =>
    match (askOnce (Peer.action meeting.capacity) meeting.peer meeting.remote).run meeting.host with
    | (none, _) => none
    | (some asked, host) => some
      { meeting with
        host
        peer := asked.party
        remote := asked.station
        talk := noted meeting.talk .far asked.said }

/-- The wait of the party on a side runs out. -/
def expire (meeting : Meeting) : Side → Option Meeting
  | .near =>
    match (ChunkRelay.expire meeting.action meeting.engine meeting.own).run meeting.host with
    | (none, _) => none
    | (some engine, host) => some { meeting with host, engine }
  | .far =>
    match (ChunkRelay.expire (Peer.action meeting.capacity) meeting.peer meeting.remote).run
        meeting.host with
    | (none, _) => none
    | (some peer, host) => some { meeting with host, peer }

/-- The party on a side takes its end of the link away. -/
def leave (meeting : Meeting) : Side → Option Meeting
  | .near =>
    match meeting.engine.state.isTerminal, meeting.own.transport with
    | true, some transport => some
      { meeting with
        host := (transport.drop.run meeting.host).2
        own := { meeting.own with transport := none } }
    | _, _ => none
  | .far =>
    match meeting.peer.outcome?, meeting.remote.transport with
    | some _, some transport => some
      { meeting with
        host := (transport.drop.run meeting.host).2
        remote := { meeting.remote with transport := none } }
    | _, _ => none

def release (meeting : Meeting) : Option Meeting :=
  if meeting.engine.state.isTerminal ∧ meeting.buffer.holding.isSome then
    let (buffer, host) := meeting.buffer.release.run meeting.host
    some { meeting with host, buffer }
  else none

/-- What a move makes of a meeting; nothing if it is not possible. -/
def step (meeting : Meeting) : Move → Option Meeting
  | .act side => meeting.act side
  | .expire side => meeting.expire side
  | .leave side => meeting.leave side
  | .release => meeting.release

/-- What moves make of a meeting; nothing if one of them is not possible. -/
def run (meeting : Meeting) : List Move → Option Meeting
  | [] => some meeting
  | move :: rest => (meeting.step move).bind (·.run rest)

/-- Neither party can act. -/
def Settled (meeting : Meeting) : Prop :=
  ∀ side, meeting.act side = none

theorem settled_iff (meeting : Meeting) :
    (meeting.act .near).isNone ∧ (meeting.act .far).isNone ↔ meeting.Settled := by
  rw [Option.isNone_iff_eq_none, Option.isNone_iff_eq_none]
  constructor
  · rintro ⟨near, far⟩ (_ | _)
    · exact near
    · exact far
  · exact fun settled => ⟨settled .near, settled .far⟩

instance (meeting : Meeting) : Decidable meeting.Settled :=
  decidable_of_iff _ meeting.settled_iff

/-- An invariant of the moves holds after every run. -/
theorem run_preserves (allowed : Move → Prop) {property : Meeting → Prop}
    (preserved : ∀ {meeting after : Meeting} {move : Move}, allowed move → property meeting →
      meeting.step move = some after → property after)
    {moves : List Move} (all : ∀ move ∈ moves, allowed move) {meeting after : Meeting}
    (start : property meeting) (ran : meeting.run moves = some after) : property after := by
  induction moves generalizing meeting with
  | nil =>
    cases ran
    exact start
  | cons move rest ih =>
    obtain ⟨next, stepped, continued⟩ := Option.bind_eq_some_iff.mp ran
    exact ih (fun move member => all move (List.mem_cons_of_mem _ member))
      (preserved (all move List.mem_cons_self) start stepped) continued

end Meeting

/-!
## One request
-/

theorem Scene.note {link : Nat} {bus : Bus} {files : FileTree} {ends : Link} {host : Host}
    (scene : Scene link bus files ends host) (notices : Array Notice) :
    Scene link bus files ends { host with notices } :=
  ⟨scene.bus, scene.files, scene.link⟩

section Asking

variable {σ : Type} {act : σ → Action σ} {party : σ} {station : Station} {host : Host}
  {request : Request} {resume : request.Answer → Turn σ}
  (asks : act party = .ask request resume)

theorem askOnce_stop (station : Station) (host : Host) (stops : act party = .stop) :
    ((askOnce act party station).run host).1 = none := by
  simp only [askOnce, stops]
  rfl

include asks

theorem askOnce_none {next : Station} {after : Host}
    (answered : (station.answer request).run host = ((none, next), after)) :
    ((askOnce act party station).run host).1 = none := by
  simp only [askOnce, asks]
  rw [HostM.run_bind_eq answered]
  rfl

theorem askOnce_some {next : Station} {middle : Host} {answer : request.Answer} {link : Nat}
    {bus : Bus} {files : FileTree} {ends : Link}
    (answered : (station.answer request).run host = ((some answer, next), middle))
    (scene : Scene link bus files ends middle) :
    ∃ after, (askOnce act party station).run host =
        (some ⟨(resume answer).next, next, request.said answer⟩, after) ∧
      Scene link bus files ends after := by
  obtain ⟨written, ran⟩ := report_run (resume answer).notices middle
  refine ⟨_, ?_, scene.note written⟩
  simp only [askOnce, asks]
  rw [HostM.run_bind_eq answered]
  dsimp only
  rw [HostM.run_bind_eq ran]
  rfl

end Asking

section Expiring

variable {σ : Type} {act : σ → Action σ} {party next : σ} {station : Station} {host after : Host}

theorem expire_inv (expired : (expire act party station).run host = (some next, after)) :
    ∃ resume error, act party = .ask .receive resume ∧ next = (resume (.error error)).next ∧
      ∀ {link : Nat} {side : Side} {bus : Bus} {files : FileTree} {ends : Link},
        station.transport = some (.link link side) → Scene link bus files ends host →
          Scene link bus files ends after := by
  unfold expire at expired
  split at expired
  · next resume limit carrier asks bounded present =>
    rcases ended : (carrier.expire limit).run host with ⟨error, middle⟩
    rw [HostM.run_bind_eq ended] at expired
    obtain ⟨written, ran⟩ := report_run (resume (.error error)).notices middle
    dsimp only at expired
    rw [HostM.run_bind_eq ran] at expired
    cases expired
    refine ⟨resume, error, asks, rfl, fun transport scene => ?_⟩
    rw [transport] at present
    cases present
    cases ended
    exact scene.note written
  · cases expired

end Expiring

theorem Scene.drop {link : Nat} {side : Side} {bus : Bus} {files : FileTree} {ends : Link}
    {host : Host} (scene : Scene link bus files ends host) :
    Scene link bus files (ends.setSide side ⟨.gone, []⟩)
      ((Transport.drop (.link link side)).run host).2 :=
  ⟨scene.bus, scene.files, Hub.drop_present scene.link side⟩

/-- The bus after a buffer that lives there was given back. -/
def Bus.without (bus : Bus) (address : UInt64) : Bus :=
  { bus.remove address with openHandles := bus.openHandles - 1 }

theorem Scene.release {link : Nat} {bus : Bus} {files : FileTree} {ends : Link} {host : Host}
    (scene : Scene link bus files ends host) (address : UInt64) (index capacity : Nat) :
    ∃ after, (RelayBuffer.release (.onBus address index capacity)).run host =
        ({ RelayBuffer.onBus address index capacity with holding := none }, after) ∧
      Scene link (bus.without address) files ends after := by
  obtain ⟨rfl, rfl, present⟩ := scene
  exact ⟨_, rfl, rfl, rfl, present⟩

namespace Meeting

variable {meeting : Meeting} {request : Request} {next : Station} {middle : Host} {link : Nat}
  {bus : Bus} {files : FileTree} {ends : Link}

section Near

variable {resume : request.Answer → Turn Engine}
  (asks : meeting.action meeting.engine = .ask request resume)
include asks

theorem act_near_some {answer : request.Answer}
    (answered : (meeting.own.answer request).run meeting.host = ((some answer, next), middle))
    (scene : Scene link bus files ends middle) :
    ∃ host, meeting.act .near = some
        { meeting with
          host
          engine := (resume answer).next
          own := next
          talk := noted meeting.talk .near (request.said answer) } ∧
      Scene link bus files ends host := by
  obtain ⟨host, ran, scene⟩ := askOnce_some asks answered scene
  refine ⟨host, ?_, scene⟩
  rw [act, ran]

theorem act_near_none
    (answered : (meeting.own.answer request).run meeting.host = ((none, next), middle)) :
    meeting.act .near = none := by
  have waiting := askOnce_none asks answered
  rw [act]
  split
  · rfl
  · next ran =>
    rw [ran] at waiting
    cases waiting

end Near

section Far

variable {resume : request.Answer → Turn Peer}
  (asks : Peer.action meeting.capacity meeting.peer = .ask request resume)
include asks

theorem act_far_some {answer : request.Answer}
    (answered : (meeting.remote.answer request).run meeting.host = ((some answer, next), middle))
    (scene : Scene link bus files ends middle) :
    ∃ host, meeting.act .far = some
        { meeting with
          host
          peer := (resume answer).next
          remote := next
          talk := noted meeting.talk .far (request.said answer) } ∧
      Scene link bus files ends host := by
  obtain ⟨host, ran, scene⟩ := askOnce_some asks answered scene
  refine ⟨host, ?_, scene⟩
  rw [act, ran]

theorem act_far_none
    (answered : (meeting.remote.answer request).run meeting.host = ((none, next), middle)) :
    meeting.act .far = none := by
  have waiting := askOnce_none asks answered
  rw [act]
  split
  · rfl
  · next ran =>
    rw [ran] at waiting
    cases waiting

end Far

theorem act_near_stop (stops : meeting.action meeting.engine = .stop) :
    meeting.act .near = none := by
  have stopped := askOnce_stop meeting.own meeting.host stops
  rw [act]
  split
  · rfl
  · next ran =>
    rw [ran] at stopped
    cases stopped

theorem act_far_stop (stops : Peer.action meeting.capacity meeting.peer = .stop) :
    meeting.act .far = none := by
  have stopped := askOnce_stop meeting.remote meeting.host stops
  rw [act]
  split
  · rfl
  · next ran =>
    rw [ran] at stopped
    cases stopped

theorem expire_near_inv {after : Meeting} (expired : meeting.expire .near = some after) :
    ∃ resume error host, meeting.action meeting.engine = .ask .receive resume ∧
      after = { meeting with host, engine := (resume (.error error)).next } ∧
      ∀ {link : Nat} {side : Side} {bus : Bus} {files : FileTree} {ends : Link},
        meeting.own.transport = some (.link link side) →
          Scene link bus files ends meeting.host → Scene link bus files ends host := by
  simp only [expire] at expired
  split at expired
  · cases expired
  · next engine host ran =>
    cases expired
    obtain ⟨resume, error, asks, rfl, scene⟩ := expire_inv ran
    exact ⟨resume, error, host, asks, rfl, scene⟩

theorem expire_far_inv {after : Meeting} (expired : meeting.expire .far = some after) :
    ∃ resume error host, Peer.action meeting.capacity meeting.peer = .ask .receive resume ∧
      after = { meeting with host, peer := (resume (.error error)).next } ∧
      ∀ {link : Nat} {side : Side} {bus : Bus} {files : FileTree} {ends : Link},
        meeting.remote.transport = some (.link link side) →
          Scene link bus files ends meeting.host → Scene link bus files ends host := by
  simp only [expire] at expired
  split at expired
  · cases expired
  · next peer host ran =>
    cases expired
    obtain ⟨resume, error, asks, rfl, scene⟩ := expire_inv ran
    exact ⟨resume, error, host, asks, rfl, scene⟩

theorem leave_near_inv {after : Meeting} (left : meeting.leave .near = some after) :
    meeting.engine.state.isTerminal = true ∧ ∃ transport,
      meeting.own.transport = some transport ∧
        after =
          { meeting with
            host := (transport.drop.run meeting.host).2
            own := { meeting.own with transport := none } } := by
  simp only [leave] at left
  split at left
  · next transport terminal present =>
    cases left
    exact ⟨terminal, transport, present, rfl⟩
  · cases left

theorem leave_far_inv {after : Meeting} (left : meeting.leave .far = some after) :
    meeting.peer.outcome?.isSome ∧ ∃ transport,
      meeting.remote.transport = some transport ∧
        after =
          { meeting with
            host := (transport.drop.run meeting.host).2
            remote := { meeting.remote with transport := none } } := by
  simp only [leave] at left
  split at left
  · next transport ended present =>
    cases left
    exact ⟨by rw [ended]; rfl, transport, present, rfl⟩
  · cases left

theorem release_inv {after : Meeting} (released : meeting.release = some after) :
    meeting.engine.state.isTerminal = true ∧ meeting.buffer.holding.isSome ∧
      after =
        { meeting with
          host := (meeting.buffer.release.run meeting.host).2
          buffer := (meeting.buffer.release.run meeting.host).1 } := by
  unfold release at released
  split at released
  · next can => exact ⟨can.1, can.2, (Option.some.inj released).symm⟩
  · cases released

end Meeting

end ChunkRelay
