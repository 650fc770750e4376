import ChunkRelay.Proofs.Exchange.Bound
import ChunkRelay.Proofs.Exchange.Setup
import ChunkRelay.Proofs.Memory.Settlement
import ChunkRelay.Proofs.Transfer.ReceiverRules
import ChunkRelay.Proofs.Transfer.SenderRules

/-! Nobody locks the buffer: who may use it follows from who spoke last. One
permission goes around, as a message on its way or with the party that has
heard it, and whoever does not have it waits for a message. -/

set_option autoImplicit false

namespace ChunkRelay

/-- A message of the local side that hands the buffer over to the remote. -/
def Message.handsOver : Message → Bool
  | .dataReady _ length => length ≠ 0
  | .readDone _ | .baseAddress _ => true
  | .writeDone _ _ => false

namespace Request

/-- The request reaches the buffer by its address. -/
def Reaches : Request → Prop
  | .fetch _ _ | .place _ _ => True
  | .clear | .fill | .drain _ | .flush | .send _ | .receive => False

/-- The request works on the stage of the party. -/
def Handles : Request → Prop
  | .clear | .fill | .drain _ => True
  | .flush | .send _ | .receive | .fetch _ _ | .place _ _ => False

end Request

namespace Meeting

/-- Whether the buffer is handed over after a move: from when the local side has said so until its
next receive is answered. -/
def lends (meeting after : Meeting) (lent : Bool) : Move → Bool
  | .act .near =>
    match meeting.action meeting.engine with
    | .ask .receive _ => false
    | _ => lent || (after.talk.drop meeting.talk.length).any (·.2.handsOver)
  | _ => lent

/-- Whether the buffer is handed over after so many moves. -/
def lentAfter (meeting : Meeting) (lent : Bool) : List Move → Bool
  | [] => lent
  | move :: rest =>
    match meeting.step move with
    | none => lent
    | some next => next.lentAfter (meeting.lends next lent move) rest

end Meeting

/-!
## Peers
-/

namespace Peer

/-- A peer that can reach the buffer without hearing a message first. -/
inductive CanReach (capacity : Nat) : Peer → Prop
  | now {peer : Peer} {request : Request} {resume : request.Answer → Turn Peer} :
      peer.action capacity = .ask request resume → request.Reaches → CanReach capacity peer
  | later {peer : Peer} {request : Request} {resume : request.Answer → Turn Peer}
      {answer : request.Answer} :
      peer.action capacity = .ask request resume → request ≠ .receive →
      CanReach capacity (resume answer).next → CanReach capacity peer

/-- A peer that waits for a message, or has heard the last one. -/
def rests : Peer → Bool
  | .sinking ⟨.fetching _ _, _⟩ | .sinking ⟨.draining _, _⟩ | .sinking ⟨.acknowledging _, _⟩ => false
  | .sourcing ⟨.filling _, _⟩ | .sourcing ⟨.placing _ _, _⟩ | .sourcing ⟨.announcing _ _, _⟩ => false
  | _ => true

section Rests

variable {capacity : Nat} {peer : Peer} {request : Request} {resume : request.Answer → Turn Peer}

/-- A peer at rest listens, or it flushes what it has heard before. -/
theorem rests_asks (rests : peer.rests = true) (asks : peer.action capacity = .ask request resume) :
    request = .receive ∨ request = .flush := by
  cases peer with
  | greeting hasReader hasWriter =>
    cases asks
    exact .inl rfl
  | refused error => cases asks
  | sinking sink =>
    obtain ⟨phase, progress⟩ := sink
    cases phase with
    | awaiting =>
      cases asks
      exact .inl rfl
    | flushing =>
      cases asks
      exact .inr rfl
    | fetching address length | draining length | acknowledging length => cases rests
    | finished | failed error => cases asks
  | sourcing source =>
    obtain ⟨phase, progress⟩ := source
    cases phase with
    | opening | awaiting address length =>
      cases asks
      exact .inl rfl
    | filling address | placing address length | announcing address length => cases rests
    | finished | failed error => cases asks

theorem rests_of_flush {resume : Request.flush.Answer → Turn Peer}
    (asks : peer.action capacity = .ask .flush resume) (answer : Except IoError Unit) :
    (resume answer).next.rests = true := by
  cases peer with
  | greeting hasReader hasWriter => cases asks
  | refused error => cases asks
  | sinking sink =>
    obtain ⟨phase, progress⟩ := sink
    cases phase with
    | flushing =>
      cases asks
      cases answer <;> rfl
    | _ => cases asks
  | sourcing source =>
    obtain ⟨phase, progress⟩ := source
    cases phase <;> cases asks

theorem rests_of_said {message : Message} {resume : (Request.send message).Answer → Turn Peer}
    (asks : peer.action capacity = .ask (.send message) resume) :
    (resume (.ok ())).next.rests = true := by
  cases peer with
  | greeting hasReader hasWriter => cases asks
  | refused error => cases asks
  | sinking sink =>
    obtain ⟨phase, progress⟩ := sink
    cases phase with
    | acknowledging length =>
      cases asks
      rfl
    | _ => cases asks
  | sourcing source =>
    obtain ⟨phase, progress⟩ := source
    cases phase with
    | announcing address length =>
      cases asks
      dsimp only [Turn.map]
      split <;> rfl
    | _ => cases asks

private theorem rests_of_sink {sink : Sink} {message : Message}
    (harmless : message.handsOver = false) :
    (Peer.sinking (sink.consider capacity message).next).rests = true := by
  cases message with
  | dataReady address length =>
    have ended : length = 0 := by simpa [Message.handsOver] using harmless
    rw [Sink.consider, if_pos ended]
    rfl
  | _ => rfl

private theorem rests_of_source {source : Source} {message : Message}
    (harmless : message.handsOver = false) :
    (Peer.sourcing (source.consider message).next).rests = true := by
  cases message with
  | baseAddress address => cases harmless
  | _ => rfl

private theorem rests_of_greet {hasReader hasWriter : Bool} {message : Message}
    (harmless : message.handsOver = false) :
    (greet capacity hasReader hasWriter message).next.rests = true := by
  unfold greet
  split
  · exact rests_of_sink harmless
  · exact rests_of_source harmless
  · rfl

/-- Only a message that hands the buffer over ends the rest of a peer. -/
theorem rests_of_heard {resume : Request.receive.Answer → Turn Peer}
    (asks : peer.action capacity = .ask .receive resume) {answer : Except ChannelError Message}
    (harmless : ∀ message, answer = .ok message → message.handsOver = false) :
    (resume answer).next.rests = true := by
  cases peer with
  | greeting hasReader hasWriter =>
    cases asks
    cases answer with
    | error error => rfl
    | ok message => exact rests_of_greet (harmless message rfl)
  | refused error => cases asks
  | sinking sink =>
    obtain ⟨phase, progress⟩ := sink
    cases phase with
    | awaiting =>
      cases asks
      cases answer with
      | error error => rfl
      | ok message => exact rests_of_sink (harmless message rfl)
    | _ => cases asks
  | sourcing source =>
    obtain ⟨phase, progress⟩ := source
    cases phase with
    | opening =>
      cases asks
      cases answer with
      | error error => rfl
      | ok message => exact rests_of_source (harmless message rfl)
    | awaiting address length =>
      cases asks
      cases answer with
      | error error => rfl
      | ok message =>
        cases message with
        | readDone reported => cases harmless _ rfl
        | _ => rfl
    | _ => cases asks

theorem not_canReach_of_rests (rests : peer.rests = true) : ¬ peer.CanReach capacity := by
  intro reaches
  induction reaches with
  | now asks reaches =>
    rcases rests_asks rests asks with rfl | rfl
    · exact reaches
    · exact reaches
  | later asks unheard reaches ih =>
    rcases rests_asks rests asks with rfl | rfl
    · exact unheard rfl
    · exact ih (rests_of_flush asks _)

end Rests

end Peer

/-!
## Engines
-/

namespace Engine

/-- An engine that waits for the remote to be done with the buffer. -/
def awaits : Engine → Bool
  | .sending ⟨.awaiting _, _⟩ | .receiving ⟨.ready, _⟩ => true
  | _ => false

/-- A chunk that is to be announced is no longer than the buffer. -/
def Fits (capacity : Nat) : Engine → Prop
  | .sending ⟨.announcing length, _⟩ => length ≤ capacity
  | _ => True

/-- What an engine makes of an answer, and of what it has said by its request. -/
structure Lends (capacity : Nat) (after : Engine) (said : Option Message) : Prop where
  awaits : after.awaits = said.any Message.handsOver
  fits : after.Fits capacity
  /-- What does not hand the buffer over is the end of the data, and the last thing said. -/
  ends {message : Message} : said = some message → message.handsOver = false →
    after.state.isTerminal = true ∧ ∃ address, message = .dataReady address 0

theorem Lends.unsaid {capacity : Nat} {after : Engine} (quiet : after.awaits = false)
    (fits : after.Fits capacity) : Lends capacity after none :=
  ⟨quiet, fits, fun said => by cases said⟩

section Turns

variable {buffer : RelayBuffer} {host : Host} {station : Station} {request : Request}
  {answer : request.Answer}

theorem lends_of_sender {sender after : Sender} (small : buffer.capacity < UInt64.size)
    (fits : (Engine.sending sender).Fits buffer.capacity)
    (turned : Sender.Turned buffer sender ⟨host, station, request, answer⟩ after) :
    Lends buffer.capacity (.sending after) (request.said answer) := by
  cases turned with
  | cleared => exact .unsaid rfl trivial
  | filled bounded ended => exact .unsaid rfl bounded
  | unread => exact .unsaid rfl trivial
  | @announced progress host station length some_bytes =>
    have word : length < UInt64.size := Nat.lt_of_le_of_lt fits small
    have some_word : UInt64.ofNat length ≠ 0 := by
      intro zero
      rw [← UInt64.toNat_inj, UInt64.toNat_ofNat_of_lt' word] at zero
      exact some_bytes zero
    have handed : (Message.dataReady buffer.address (.ofNat length)).handsOver = true := by
      simpa [Message.handsOver] using some_word
    exact ⟨handed.symm, trivial, fun said harmless => by
      cases said
      rw [handed] at harmless
      cases harmless⟩
  | ended =>
    refine ⟨rfl, trivial, fun said _ => ?_⟩
    cases said
    exact ⟨rfl, _, rfl⟩
  | unsent => exact .unsaid rfl trivial
  | confirmed => exact .unsaid rfl trivial
  | refused => exact .unsaid rfl trivial

theorem lends_of_receiver {receiver after : Receiver}
    (turned : Receiver.Turned buffer receiver ⟨host, station, request, answer⟩ after) :
    Lends buffer.capacity (.receiving after) (request.said answer) := by
  cases turned with
  | introduced | replied =>
    refine ⟨rfl, trivial, fun said harmless => ?_⟩
    cases said
    cases harmless
  | failed asks fault =>
    have unsaid : request.said answer = none := by
      unfold Request.said
      split
      · cases fault
      · rfl
    rw [unsaid]
    exact .unsaid rfl trivial
  | _ => exact .unsaid rfl trivial

/-- All that an engine can do next, as far as it uses the buffer or hands it over. -/
theorem lends_of_turn {engine : Engine} {next : Station} {resume : request.Answer → Turn Engine}
    (some_room : buffer.capacity ≠ 0) (small : buffer.capacity < UInt64.size)
    (fits : engine.Fits buffer.capacity) (stage : station.stage = .relay buffer)
    (asks : engine.action buffer.address buffer.capacity = .ask request resume)
    (left : Entry.Leaves ⟨host, station, request, answer⟩ next) :
    Lends buffer.capacity (resume answer).next (request.said answer) := by
  cases engine with
  | sending sender =>
    obtain ⟨after, leads, turned⟩ := Sender.turned some_room stage asks left
    rw [leads]
    exact lends_of_sender small fits turned
  | receiving receiver =>
    obtain ⟨after, leads, turned⟩ : ∃ after, (resume answer).next = .receiving after ∧
        Receiver.Turned buffer receiver ⟨host, station, request, answer⟩ after :=
      Receiver.turned asks
    rw [leads]
    exact lends_of_receiver turned

theorem awaits_iff {engine : Engine} {address : UInt64} {capacity : Nat} {request : Request}
    {resume : request.Answer → Turn Engine}
    (asks : engine.action address capacity = .ask request resume) :
    engine.awaits = true ↔ request = .receive := by
  cases engine with
  | sending sender =>
    obtain ⟨phase, progress⟩ := sender
    cases phase <;> cases asks <;> simp [awaits]
  | receiving receiver =>
    obtain ⟨phase, progress⟩ := receiver
    cases phase <;> cases asks <;> simp [awaits]

theorem not_awaits_of_isTerminal {engine : Engine} (terminal : engine.state.isTerminal = true) :
    engine.awaits = false := by
  cases engine with
  | sending sender =>
    obtain ⟨phase, progress⟩ := sender
    cases phase with
    | completed | failed error => rfl
    | _ => cases terminal
  | receiving receiver =>
    obtain ⟨phase, progress⟩ := receiver
    cases phase with
    | completed | failed error => rfl
    | _ => cases terminal

end Turns

end Engine

/-!
## The link
-/

/-- What the answer to a request at an end of a link makes of the link. -/
def Link.Passes (ends : Link) (side : Side) (later : Link) :
    (request : Request) → request.Answer → Prop
  | .send message, result => ends.send side message = (result, later)
  | .receive, result => ends.receive side = (some result, later)
  | _, _ => later = ends

theorem Station.answer_passes {station next : Station} {host middle : Host} {link : Nat}
    {side : Side} {ends : Link} {request : Request} {answer : request.Answer}
    (transport : station.transport = some (.link link side))
    (present : host.hub.links[link]? = some ends)
    (answered : (station.answer request).run host = ((some answer, next), middle)) :
    ∃ later, ends.Passes side later request answer ∧ middle.hub.links[link]? = some later := by
  have scene : Scene link host.bus host.files ends host := ⟨rfl, rfl, present⟩
  cases request with
  | send message =>
    obtain ⟨after, ran, seen⟩ := answer_send scene transport message
    cases answered.symm.trans ran
    exact ⟨_, rfl, seen.link⟩
  | receive =>
    obtain ⟨after, ran, seen⟩ := answer_receive scene transport
    have heard : (ends.receive side).1 = some answer :=
      (congrArg (·.1.1) (answered.symm.trans ran)).symm
    cases congrArg (·.2) (answered.symm.trans ran)
    exact ⟨_, Prod.ext heard rfl, seen.link⟩
  | _ =>
    have kept := (answer_channels answered nofun nofun).1
    refine ⟨ends, rfl, ?_⟩
    rw [kept]
    exact present

theorem Link.Passes.status {ends later : Link} {side : Side} {request : Request}
    {answer : request.Answer} (passes : ends.Passes side later request answer) (other : Side) :
    (later.atSide other).status = (ends.atSide other).status := by
  cases request with
  | send message =>
    have sent : later = (ends.send side message).2 := (congrArg (·.2) passes).symm
    subst sent
    unfold Link.send
    dsimp only
    split
    · rfl
    · split
      · rfl
      · cases side <;> cases other <;> rfl
  | receive =>
    have heard : later = (ends.receive side).2 := (congrArg (·.2) passes).symm
    subst heard
    unfold Link.receive
    dsimp only
    split
    · rfl
    · split
      · cases side <;> cases other <;> rfl
      · split <;> rfl
  | _ =>
    cases passes
    rfl

/-- Nothing is put on its way to an end that is gone. -/
theorem Link.Passes.inbox_of_gone {ends later : Link} {side : Side} {request : Request}
    {answer : request.Answer} (passes : ends.Passes side later request answer)
    (gone : (ends.atSide side.other).status = .gone) :
    (later.atSide side.other).inbox = (ends.atSide side.other).inbox := by
  cases request with
  | send message =>
    have sent : later = (ends.send side message).2 := (congrArg (·.2) passes).symm
    rw [sent, Link.send_gone gone]
  | receive =>
    have heard : later = (ends.receive side).2 := (congrArg (·.2) passes).symm
    subst heard
    unfold Link.receive
    dsimp only
    split
    · rfl
    · split
      · cases side <;> rfl
      · split <;> rfl
  | _ =>
    cases passes
    rfl

section Passing

variable {ends later : Link} {side : Side} (opened : (ends.atSide side).status = .opened)
include opened

theorem Link.Passes.heard_nil {answer : Except ChannelError Message}
    (nothing : (ends.atSide side).inbox = [])
    (passes : ends.Passes side later .receive answer) :
    later = ends ∧ (ends.atSide side.other).status ≠ .opened ∧ answer = .error .closed := by
  have received : ends.receive side = (some answer, later) := passes
  rw [Link.receive_nil opened nothing] at received
  by_cases other : (ends.atSide side.other).status = .opened
  · rw [if_pos other] at received
    cases received
  · rw [if_neg other] at received
    cases received
    exact ⟨rfl, other, rfl⟩

theorem Link.Passes.heard_cons {answer : Except ChannelError Message} {message : Message}
    {rest : List Message} (found : (ends.atSide side).inbox = message :: rest)
    (passes : ends.Passes side later .receive answer) :
    later = ends.leaving side rest ∧ answer = .ok message := by
  have received : ends.receive side = (some answer, later) := passes
  rw [Link.receive_cons opened found] at received
  cases received
  exact ⟨rfl, rfl⟩

theorem Link.Passes.said {message : Message} {result : Except ChannelError Unit}
    (passes : ends.Passes side later (.send message) result) :
    result = .ok () ∧ later = ends.queued side message ∧
        (ends.atSide side.other).status ≠ .gone ∨
      later = ends ∧ ∃ error, result = .error error := by
  have sent : ends.send side message = (result, later) := passes
  by_cases gone : (ends.atSide side.other).status = .gone
  · rw [Link.send_gone gone] at sent
    cases sent
    exact .inr ⟨rfl, _, rfl⟩
  · rw [Link.send_ok opened gone] at sent
    cases sent
    exact .inl ⟨rfl, rfl, gone⟩

end Passing

/-!
## One permission
-/

/-- Where the permission to use the buffer is, and what is on its way with it. -/
inductive Permission (ends : Link) (peer : Peer) (terminal : Prop) : Bool → Prop
  | home : ends.near.inbox = [] → ends.far.inbox = [] → peer.rests = true →
      Permission ends peer terminal false
  | ended {address : UInt64} : ends.near.inbox = [] → ends.far.inbox = [.dataReady address 0] →
      terminal → peer.rests = true → Permission ends peer terminal false
  | handed {message : Message} : message.handsOver = true → ends.near.inbox = [] →
      ends.far.inbox = [message] → peer.rests = true → Permission ends peer terminal true
  | away : ends.near.inbox = [] → ends.far.inbox = [] → Permission ends peer terminal true
  | back {message : Message} : ends.near.inbox = [message] → ends.far.inbox = [] →
      peer.rests = true → Permission ends peer terminal true

/-- A meeting at which the buffer is handed over or not. -/
structure Lent (link : Nat) (buffer : RelayBuffer) (lent : Bool) (ends : Link)
    (meeting : Meeting) : Prop where
  present : meeting.host.hub.links[link]? = some ends
  near : Attached link .near ends meeting.own.transport (meeting.engine.state.isTerminal = true)
  far : Attached link .far ends meeting.remote.transport (meeting.peer.outcome?.isSome = true)
  left : ends.far.status ≠ .opened → ends.far.inbox = []
  stage : meeting.own.stage = .relay buffer
  address : meeting.buffer.address = buffer.address
  capacity : meeting.buffer.capacity = buffer.capacity
  fits : meeting.engine.Fits buffer.capacity
  awaits : meeting.engine.awaits = lent
  permission : Permission ends meeting.peer (meeting.engine.state.isTerminal = true) lent

section Permission

variable {ends : Link} {peer next : Peer} {terminal later : Prop} {lent : Bool}

theorem Permission.single (permission : Permission ends peer terminal lent) :
    ends.near.inbox.length + ends.far.inbox.length ≤ 1 := by
  cases permission with
  | home near far rests => simp [near, far]
  | ended near far finished rests => simp [near, far]
  | handed hands near far rests => simp [near, far]
  | away near far => simp [near, far]
  | back near far rests => simp [near, far]

theorem Permission.rests (permission : Permission ends peer terminal false) : peer.rests = true := by
  cases permission with
  | home near far rests => exact rests
  | ended near far finished rests => exact rests

theorem Permission.mono (permission : Permission ends peer terminal lent)
    (stays : peer.rests = true → next.rests = true) (finished : terminal → later) :
    Permission ends next later lent := by
  cases permission with
  | home near far rests => exact .home near far (stays rests)
  | ended near far ended rests => exact .ended near far (finished ended) (stays rests)
  | handed hands near far rests => exact .handed hands near far (stays rests)
  | away near far => exact .away near far
  | back near far rests => exact .back near far (stays rests)

end Permission

section Turns

variable {ends later : Link} {peer next : Peer} {terminal finished : Prop} {capacity : Nat}

/-- The local side hears that the remote is done with the buffer, or that it is gone. -/
theorem Permission.hear_near {answer : Except ChannelError Message}
    (permission : Permission ends peer terminal true) (opened : ends.near.status = .opened)
    (gone : ends.far.status ≠ .opened → ends.far.inbox = [] ∧ peer.rests = true)
    (passes : ends.Passes .near later .receive answer) : Permission later peer finished false := by
  cases permission with
  | handed hands near far rests =>
    obtain ⟨rfl, ended, _⟩ := passes.heard_nil (show (ends.atSide .near).status = _ from opened) near
    exact .home near (gone ended).1 rests
  | away near far =>
    obtain ⟨rfl, ended, _⟩ := passes.heard_nil (show (ends.atSide .near).status = _ from opened) near
    exact .home near far (gone ended).2
  | back near far rests =>
    obtain ⟨rfl, _⟩ := passes.heard_cons (show (ends.atSide .near).status = _ from opened) near
    exact .home rfl far rests

/-- The local side says something, which hands the buffer over or is the end of the data. -/
theorem Permission.say_near {message : Message} {result : Except ChannelError Unit}
    {after : Engine} (permission : Permission ends peer terminal false) (running : ¬ terminal)
    (opened : ends.near.status = .opened)
    (passes : ends.Passes .near later (.send message) result)
    (lends : after.Lends capacity ((Request.send message).said result)) :
    Permission later peer (after.state.isTerminal = true) after.awaits := by
  cases permission with
  | ended near far finished rests => exact absurd finished running
  | home near far rests =>
    rw [lends.awaits]
    rcases passes.said (show (ends.atSide .near).status = _ from opened) with
      ⟨rfl, rfl, _⟩ | ⟨rfl, error, rfl⟩
    · have queued : (ends.queued .near message).far.inbox = [message] :=
        congrArg (· ++ [message]) far
      cases hands : message.handsOver with
      | true =>
        rw [show ((Request.send message).said (.ok ())).any Message.handsOver = true from hands]
        exact .handed hands near queued rests
      | false =>
        obtain ⟨finished, address, rfl⟩ := lends.ends rfl hands
        exact .ended near queued finished rests
    · exact .home near far rests

/-- A peer at rest hears the permission, or the end of the data, or that the other side is gone. -/
theorem Permission.hear_far {lent : Bool} {resume : Request.receive.Answer → Turn Peer}
    {answer : Except ChannelError Message}
    (permission : Permission ends peer terminal lent) (opened : ends.far.status = .opened)
    (gone : ends.near.status ≠ .opened → lent = false)
    (asks : peer.action capacity = .ask .receive resume)
    (passes : ends.Passes .far later .receive answer) :
    Permission later (resume answer).next terminal lent := by
  cases permission with
  | home near far rests =>
    obtain ⟨rfl, _, rfl⟩ := passes.heard_nil (show (ends.atSide .far).status = _ from opened) far
    exact .home near far (Peer.rests_of_heard asks nofun)
  | ended near far finished rests =>
    obtain ⟨rfl, rfl⟩ := passes.heard_cons (show (ends.atSide .far).status = _ from opened) far
    refine .home near rfl (Peer.rests_of_heard asks fun message same => ?_)
    cases same
    rfl
  | handed hands near far rests =>
    obtain ⟨rfl, rfl⟩ := passes.heard_cons (show (ends.atSide .far).status = _ from opened) far
    exact .away near rfl
  | away near far =>
    obtain ⟨rfl, ended, _⟩ := passes.heard_nil (show (ends.atSide .far).status = _ from opened) far
    cases gone ended
  | back near far rests =>
    obtain ⟨rfl, ended, _⟩ := passes.heard_nil (show (ends.atSide .far).status = _ from opened) far
    cases gone ended

/-- Whatever else a peer does, it has the permission or stays at rest. -/
theorem Permission.act_far {lent : Bool} {request : Request}
    {resume : request.Answer → Turn Peer} {answer : request.Answer}
    (permission : Permission ends peer terminal lent) (opened : ends.far.status = .opened)
    (asks : peer.action capacity = .ask request resume) (unheard : request ≠ .receive)
    (passes : ends.Passes .far later request answer) :
    Permission later (resume answer).next terminal lent := by
  by_cases resting : peer.rests = true
  · rcases Peer.rests_asks resting asks with rfl | rfl
    · exact absurd rfl unheard
    · cases passes
      exact permission.mono (fun _ => Peer.rests_of_flush asks _) id
  · cases permission with
    | away near far =>
      cases request with
      | send message =>
        rcases passes.said (show (ends.atSide .far).status = _ from opened) with
          ⟨rfl, rfl, _⟩ | ⟨rfl, _⟩
        · exact .back (congrArg (· ++ [message]) near) far (Peer.rests_of_said asks)
        · exact .away near far
      | receive => exact absurd rfl unheard
      | _ =>
        cases passes
        exact .away near far
    | home near far rests => exact absurd rests resting
    | ended near far finished rests => exact absurd rests resting
    | handed hands near far rests => exact absurd rests resting
    | back near far rests => exact absurd rests resting

end Turns

theorem Engine.not_isTerminal_of_asks {engine : Engine} {address : UInt64} {capacity : Nat}
    {request : Request} {resume : request.Answer → Turn Engine}
    (asks : engine.action address capacity = .ask request resume) :
    ¬ engine.state.isTerminal = true := by
  intro terminal
  rw [Engine.action_of_isTerminal terminal] at asks
  cases asks

theorem Peer.outcome?_of_asks {peer : Peer} {capacity : Nat} {request : Request}
    {resume : request.Answer → Turn Peer} (asks : peer.action capacity = .ask request resume) :
    peer.outcome? = none := by
  cases peer with
  | greeting hasReader hasWriter => rfl
  | refused error => cases asks
  | sinking sink =>
    obtain ⟨phase, progress⟩ := sink
    cases phase with
    | finished | failed error => cases asks
    | _ => rfl
  | sourcing source =>
    obtain ⟨phase, progress⟩ := source
    cases phase with
    | finished | failed error => cases asks
    | _ => rfl

theorem Peer.rests_of_outcome {peer : Peer} (ended : peer.outcome?.isSome = true) :
    peer.rests = true := by
  cases peer with
  | greeting hasReader hasWriter => rfl
  | refused error => rfl
  | sinking sink =>
    obtain ⟨phase, progress⟩ := sink
    cases phase with
    | finished | failed error => rfl
    | _ => cases ended
  | sourcing source =>
    obtain ⟨phase, progress⟩ := source
    cases phase with
    | finished | failed error => rfl
    | _ => cases ended

theorem Permission.act_near {ends later : Link} {peer : Peer} {engine after : Engine}
    {address : UInt64} {capacity : Nat} {request : Request}
    {resume : request.Answer → Turn Engine} {answer : request.Answer}
    (permission : Permission ends peer (engine.state.isTerminal = true) engine.awaits)
    (opened : ends.near.status = .opened)
    (gone : ends.far.status ≠ .opened → ends.far.inbox = [] ∧ peer.rests = true)
    (asks : engine.action address capacity = .ask request resume)
    (lends : after.Lends capacity (request.said answer))
    (passes : ends.Passes .near later request answer) :
    Permission later peer (after.state.isTerminal = true) after.awaits := by
  have running := Engine.not_isTerminal_of_asks asks
  by_cases heard : request = .receive
  · subst heard
    rw [(Engine.awaits_iff asks).mpr rfl] at permission
    rw [show after.awaits = false from lends.awaits]
    exact permission.hear_near opened gone passes
  · have home : engine.awaits = false :=
      Bool.eq_false_iff.mpr fun waits => heard ((Engine.awaits_iff asks).mp waits)
    rw [home] at permission
    cases request with
    | send message => exact permission.say_near running opened passes lends
    | receive => exact absurd rfl heard
    | _ =>
      cases passes
      rw [show after.awaits = false from lends.awaits]
      exact permission.mono id fun terminal => absurd terminal running

section Attached

variable {link : Nat} {side other : Side} {ends later : Link} {transport : Option Transport}
  {stopped : Prop}

theorem Attached.passes (attached : Attached link other ends transport stopped) {request : Request}
    {answer : request.Answer} (passes : ends.Passes side later request answer) :
    Attached link other later transport stopped := by
  rw [Attached, passes.status other]
  exact attached

theorem Attached.gone (attached : Attached link side ends transport stopped)
    (left : (ends.atSide side).status ≠ .opened) : (ends.atSide side).status = .gone := by
  rcases attached with held | gone
  · exact absurd held.1 left
  · exact gone.1

end Attached

namespace Lent

variable {link : Nat} {buffer : RelayBuffer} {lent : Bool} {ends : Link}
  {meeting after : Meeting}

/-- What was said since is what the last request has said. -/
theorem any_noted (talk : List (Side × Message)) (side : Side) (said : Option Message) :
    ((noted talk side said).drop talk.length).any (·.2.handsOver) = said.any Message.handsOver := by
  cases said with
  | none => simp [noted]
  | some message => simp [noted]

/-- After a request of the local side the buffer is handed over if the engine waits for it. -/
theorem lends_near {request : Request} {resume : request.Answer → Turn Engine}
    {answer : request.Answer} {after : Engine} {capacity : Nat}
    (asks : meeting.action meeting.engine = .ask request resume)
    (awaits : meeting.engine.awaits = lent) (lends : after.Lends capacity (request.said answer))
    {next : Meeting} (spoken : next.talk = noted meeting.talk .near (request.said answer)) :
    meeting.lends next lent (.act .near) = after.awaits := by
  rw [lends.awaits, Meeting.lends, asks, spoken]
  by_cases heard : request = .receive
  · subst heard
    rfl
  · have home : lent = false := by
      rw [← awaits]
      exact Bool.eq_false_iff.mpr fun waits => heard ((Engine.awaits_iff asks).mp waits)
    rw [home, any_noted]
    cases request with
    | receive => exact absurd rfl heard
    | _ => rfl

theorem act_near (some_room : buffer.capacity ≠ 0) (small : buffer.capacity < UInt64.size)
    (holds : Lent link buffer lent ends meeting) (acted : meeting.act .near = some after) :
    ∃ later, Lent link buffer (meeting.lends after lent (.act .near)) later after := by
  simp only [Meeting.act] at acted
  split at acted
  · cases acted
  next asked host ran =>
  cases acted
  obtain ⟨request, resume, answer, middle, written, asks, answered, party, said, rfl⟩ :=
    askOnce_answered ran
  obtain ⟨engine, station, spoken⟩ := asked
  dsimp only at answered party said ⊢
  subst party said
  have running := Engine.not_isTerminal_of_asks asks
  obtain ⟨opened, transport⟩ := holds.near.opened running
  obtain ⟨later, passes, present⟩ := Station.answer_passes transport holds.present answered
  have left := Entry.leaves answered
  have own : meeting.engine.action buffer.address buffer.capacity = .ask request resume := by
    rw [← holds.address, ← holds.capacity]
    exact asks
  have lends := Engine.lends_of_turn some_room small holds.fits holds.stage own left
  rw [lends_near asks holds.awaits lends rfl]
  have permission : Permission later meeting.peer
      ((resume answer).next.state.isTerminal = true) (resume answer).next.awaits := by
    refine Permission.act_near (holds.awaits ▸ holds.permission) opened (fun gone => ?_) own lends
      passes
    exact ⟨holds.left gone, Peer.rests_of_outcome (holds.far.stopped_of_gone gone)⟩
  refine ⟨later, ?_⟩
  exact
    { present
      near := .inl ⟨(passes.status .near).trans opened,
        (Station.transport_answer answered).trans transport⟩
      far := holds.far.passes passes
      left := fun gone => by
        have before : ends.far.status ≠ .opened := (passes.status .far) ▸ gone
        exact (passes.inbox_of_gone (holds.far.gone before)).trans (holds.left before)
      stage := left.stage holds.stage
      address := holds.address
      capacity := holds.capacity
      fits := lends.fits
      awaits := rfl
      permission }

theorem act_far (holds : Lent link buffer lent ends meeting)
    (acted : meeting.act .far = some after) : ∃ later, Lent link buffer lent later after := by
  simp only [Meeting.act] at acted
  split at acted
  · cases acted
  next asked host ran =>
  cases acted
  obtain ⟨request, resume, answer, middle, written, asks, answered, party, said, rfl⟩ :=
    askOnce_answered ran
  obtain ⟨peer, station, spoken⟩ := asked
  dsimp only at answered party said ⊢
  subst party said
  have running : ¬ meeting.peer.outcome?.isSome = true := by
    rw [Peer.outcome?_of_asks asks]
    exact Bool.false_ne_true
  obtain ⟨opened, transport⟩ := holds.far.opened running
  obtain ⟨later, passes, present⟩ := Station.answer_passes transport holds.present answered
  have gone : ends.near.status ≠ .opened → lent = false := fun gone =>
    holds.awaits.symm.trans (Engine.not_awaits_of_isTerminal (holds.near.stopped_of_gone gone))
  have permission : Permission later (resume answer).next
      (meeting.engine.state.isTerminal = true) lent := by
    by_cases heard : request = .receive
    · subst heard
      exact holds.permission.hear_far opened gone asks passes
    · exact holds.permission.act_far opened asks heard passes
  have attached : (later.atSide .far).status = .opened := (passes.status .far).trans opened
  refine ⟨later, ?_⟩
  exact
    { present
      near := holds.near.passes passes
      far := .inl ⟨attached, (Station.transport_answer answered).trans transport⟩
      left := fun gone => absurd attached gone
      stage := holds.stage
      address := holds.address
      capacity := holds.capacity
      fits := holds.fits
      awaits := holds.awaits
      permission }

theorem leave_near (holds : Lent link buffer lent ends meeting)
    (left : meeting.leave .near = some after) : ∃ later, Lent link buffer lent later after := by
  obtain ⟨terminal, transport, carried, rfl⟩ := Meeting.leave_near_inv left
  have home : lent = false :=
    holds.awaits.symm.trans (Engine.not_awaits_of_isTerminal terminal)
  subst home
  rcases holds.near with ⟨_, held⟩ | ⟨_, nothing, _⟩
  · cases carried.symm.trans held
    refine ⟨ends.setSide .near ⟨.gone, []⟩, ?_⟩
    exact
      { holds with
        present := Hub.drop_present holds.present .near
        near := .inr ⟨rfl, rfl, terminal⟩
        permission := by
          cases holds.permission with
          | home near far rests => exact .home rfl far rests
          | ended near far finished rests => exact .ended rfl far finished rests }
  · cases carried.symm.trans nothing

theorem leave_far (holds : Lent link buffer lent ends meeting)
    (left : meeting.leave .far = some after) : ∃ later, Lent link buffer lent later after := by
  obtain ⟨stopped, transport, carried, rfl⟩ := Meeting.leave_far_inv left
  have resting := Peer.rests_of_outcome stopped
  rcases holds.far with ⟨_, held⟩ | ⟨_, nothing, _⟩
  · cases carried.symm.trans held
    refine ⟨ends.setSide .far ⟨.gone, []⟩, ?_⟩
    exact
      { holds with
        present := Hub.drop_present holds.present .far
        far := .inr ⟨rfl, rfl, stopped⟩
        left := fun _ => rfl
        permission := by
          cases holds.permission with
          | home near far rests => exact .home near rfl rests
          | ended near far finished rests => exact .home near rfl rests
          | handed hands near far rests => exact .away near rfl
          | away near far => exact .away near rfl
          | back near far rests => exact .back near rfl rests }
  · cases carried.symm.trans nothing

theorem release (holds : Lent link buffer lent ends meeting)
    (released : meeting.release = some after) : ∃ later, Lent link buffer lent later after := by
  obtain ⟨_, _, rfl⟩ := Meeting.release_inv released
  obtain ⟨address, capacity, hub⟩ := meeting.buffer.release_kept meeting.host
  refine ⟨ends, ?_⟩
  exact
    { holds with
      present := by
        rw [hub]
        exact holds.present
      address := address.trans holds.address
      capacity := capacity.trans holds.capacity }

/-- Every move but the end of a wait keeps to the one permission. -/
theorem step (some_room : buffer.capacity ≠ 0) (small : buffer.capacity < UInt64.size)
    (holds : Lent link buffer lent ends meeting) {move : Move}
    (patient : ∀ side, move ≠ .expire side) (stepped : meeting.step move = some after) :
    ∃ later, Lent link buffer (meeting.lends after lent move) later after := by
  cases move with
  | act side =>
    cases side with
    | near => exact holds.act_near some_room small stepped
    | far => exact holds.act_far stepped
  | expire side => exact absurd rfl (patient side)
  | leave side =>
    cases side with
    | near => exact holds.leave_near stepped
    | far => exact holds.leave_far stepped
  | release => exact holds.release stepped

theorem run (some_room : buffer.capacity ≠ 0) (small : buffer.capacity < UInt64.size)
    (holds : Lent link buffer lent ends meeting) {moves : List Move}
    (patient : ∀ side, .expire side ∉ moves) (ran : meeting.run moves = some after) :
    ∃ later, Lent link buffer (meeting.lentAfter lent moves) later after := by
  induction moves generalizing meeting lent ends with
  | nil =>
    cases ran
    exact ⟨ends, holds⟩
  | cons move rest ih =>
    obtain ⟨next, stepped, continued⟩ := Option.bind_eq_some_iff.mp ran
    have calm : ∀ side, move ≠ .expire side := fun side same =>
      patient side (same ▸ List.mem_cons_self)
    obtain ⟨later, onward⟩ := holds.step some_room small calm stepped
    rw [Meeting.lentAfter, stepped]
    exact ih onward (fun side member => patient side (List.mem_cons_of_mem _ member)) continued

end Lent

/-- A meeting that begins with a new link, with the buffer at home. -/
theorem Setup.lent {setup : Setup} {meeting : Meeting} {id : ChannelId}
    (pairing : meeting = setup.sending ∨ meeting = setup.receiving)
    (linked : setup.host.hub.links[setup.link]? = some (.fresh id)) :
    Lent setup.link setup.buffer false (.fresh id) meeting := by
  rcases pairing with rfl | rfl
  · exact
      { present := linked
        near := .inl ⟨rfl, rfl⟩
        far := .inl ⟨rfl, rfl⟩
        left := fun gone => absurd rfl gone
        stage := rfl
        address := rfl
        capacity := rfl
        fits := trivial
        awaits := rfl
        permission := .home rfl rfl rfl }
  · exact
      { present := linked
        near := .inl ⟨rfl, rfl⟩
        far := .inl ⟨rfl, rfl⟩
        left := fun gone => absurd rfl gone
        stage := rfl
        address := rfl
        capacity := rfl
        fits := trivial
        awaits := rfl
        permission := .home rfl rfl rfl }

/-- As long as no wait runs out, both queues together hold one message at most, the remote reaches
the buffer only while it is handed over, and the local side works on it and gives it back only while
it is not. Then the remote has to hear another message before it can reach the buffer at all. -/
theorem buffer_used_exclusively {setup : Setup} {before after : Host} {capacity : Nat}
    {id : ChannelId}
    (acquired : (RelayBuffer.acquire .bus capacity).run before = (.ok setup.buffer, after))
    (linked : setup.host.hub.links[setup.link]? = some (.fresh id)) {meeting : Meeting}
    (pairing : meeting = setup.sending ∨ meeting = setup.receiving) {moves : List Move}
    (patient : ∀ side, .expire side ∉ moves) {now : Meeting}
    (ran : meeting.run moves = some now) :
    (∃ ends, now.host.hub.links[setup.link]? = some ends ∧
      ends.near.inbox.length + ends.far.inbox.length ≤ 1) ∧
    (∀ request resume, Peer.action now.capacity now.peer = .ask request resume →
      request.Reaches → meeting.lentAfter false moves = true) ∧
    (∀ request resume, now.action now.engine = .ask request resume →
      request.Handles → meeting.lentAfter false moves = false) ∧
    (∀ released, now.release = some released → meeting.lentAfter false moves = false) ∧
    (meeting.lentAfter false moves = false → ¬ now.peer.CanReach now.capacity) := by
  obtain ⟨same, some_room, fits⟩ := RelayBuffer.acquire_capacity acquired
  rw [← same] at some_room fits
  have small : setup.buffer.capacity < UInt64.size := Nat.lt_of_le_of_lt fits (by decide)
  obtain ⟨ends, lent⟩ := (Setup.lent pairing linked).run some_room small patient ran
  have reach : meeting.lentAfter false moves = false → ¬ now.peer.CanReach now.capacity := by
    intro home
    have permission := lent.permission
    rw [home] at permission
    exact Peer.not_canReach_of_rests permission.rests
  refine ⟨⟨ends, lent.present, lent.permission.single⟩, ?reaches, ?handles, ?releases, reach⟩
  case reaches =>
    intro request resume asks reaches
    by_contra home
    exact reach (Bool.eq_false_iff.mpr home) (.now asks reaches)
  case handles =>
    intro request resume asks handles
    rw [← lent.awaits]
    refine Bool.eq_false_iff.mpr fun waits => ?_
    rw [(Engine.awaits_iff asks).mp waits] at handles
    exact handles
  case releases =>
    intro released gives
    obtain ⟨terminal, _⟩ := Meeting.release_inv gives
    rw [← lent.awaits]
    exact Engine.not_awaits_of_isTerminal terminal

theorem Move.expire_not_mem_turns (counts : List (Nat × Nat)) (side : Side) :
    Move.expire side ∉ Move.turns counts := by
  induction counts with
  | nil => exact List.not_mem_nil
  | cons count rest ih =>
    intro member
    rcases List.mem_append.mp member with acts | later
    · rcases List.mem_append.mp acts with near | far
      · cases List.eq_of_mem_replicate near
      · cases List.eq_of_mem_replicate far
    · exact ih later

/-- A sink that is about to fetch its first chunk, and a receiver that is about to write one. -/
theorem buffer_used_exclusively_small :
    (∃ now, (Setup.small 2 2).sending.run (Move.turns [(3, 1)]) = some now ∧
      now.peer = .sinking ⟨.fetching Bus.defaultBase 2, .none⟩ ∧
      (Setup.small 2 2).sending.lentAfter false (Move.turns [(3, 1)]) = true) ∧
    ∃ now, (Setup.small 2 2).receiving.run (Move.turns [(2, 4), (1, 0)]) = some now ∧
      now.engine = .receiving ⟨.draining 2, .none⟩ ∧ ¬ now.peer.CanReach now.capacity := by
  obtain ⟨after, acquired, _⟩ := (Setup.small_arranged 2).acquired
  obtain ⟨id, linked⟩ := (Setup.small_arranged 2).linked
  constructor
  · have runs : ((Setup.small 2 2).sending.run (Move.turns [(3, 1)])).map (·.peer) =
        some (.sinking ⟨.fetching Bus.defaultBase 2, .none⟩) := by decide +kernel
    obtain ⟨now, ran, peer⟩ := Option.map_eq_some_iff.mp runs
    have exclusive := buffer_used_exclusively acquired linked (.inl rfl)
      (Move.expire_not_mem_turns _) ran
    have asks : ∃ resume, now.peer.action now.capacity =
        .ask (.fetch Bus.defaultBase 2) resume := by
      rw [peer]
      exact ⟨_, rfl⟩
    obtain ⟨resume, asks⟩ := asks
    exact ⟨now, ran, peer, exclusive.2.1 _ _ asks trivial⟩
  · have runs : ((Setup.small 2 2).receiving.run (Move.turns [(2, 4), (1, 0)])).map (·.engine) =
        some (.receiving ⟨.draining 2, .none⟩) := by decide +kernel
    obtain ⟨now, ran, engine⟩ := Option.map_eq_some_iff.mp runs
    have exclusive := buffer_used_exclusively acquired linked (.inr rfl)
      (Move.expire_not_mem_turns _) ran
    have asks : ∃ resume, now.action now.engine = .ask (.drain 2) resume := by
      rw [engine]
      exact ⟨_, rfl⟩
    obtain ⟨resume, asks⟩ := asks
    have home := exclusive.2.2.1 _ _ asks trivial
    exact ⟨now, ran, engine, exclusive.2.2.2.2 home⟩

end ChunkRelay
