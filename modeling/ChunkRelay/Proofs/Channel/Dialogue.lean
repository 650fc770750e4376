import ChunkRelay.Proofs.Channel.Bookkeeping
import ChunkRelay.Proofs.Transfer.Answers

/-! The two ends of a connection and what is done with them, call by call. On
an in-process link, what a call returns follows from the calls before it: each
end hears what the other one said, in that order, until nothing is left of it. -/

set_option autoImplicit false

namespace ChunkRelay

/-- The two ends of a connection, but for those that were dropped. -/
structure Connection where
  near : Option Transport
  far : Option Transport

/-- What can be done with an end of a connection. -/
inductive Call where
  | send (side : Side) (message : Message)
  | receive (side : Side) (wait : Wait)
  | close (side : Side)
  | drop (side : Side)
deriving DecidableEq, Repr

/-- What a call returns. A receive without a bound returns nothing if nothing is there. -/
inductive Reply where
  | sent (result : Except ChannelError Unit)
  | received (result : Option (Except ChannelError Message))
  | done
  /-- The end was dropped before. -/
  | absent

abbrev Log := List (Call × Reply)

@[simp] theorem Side.other_other (side : Side) : side.other.other = side := by
  cases side <;> rfl

theorem Side.other_ne (side : Side) : side.other ≠ side := by
  cases side <;> decide

theorem Side.eq_or_eq_other (one side : Side) : one = side ∨ one = side.other := by
  cases one <;> cases side <;> decide

def Call.side : Call → Side
  | .send side _ => side
  | .receive side _ => side
  | .close side => side
  | .drop side => side

/-- What is left of an end after a call on it. -/
def Call.leaves {α : Type} (call : Call) (value : α) : Option α :=
  match call with
  | .drop _ => none
  | _ => some value

/-- A call on the transport of an end: what it returns, and the transport unless it was dropped. -/
def Transport.answer (transport : Transport) : Call → HostM (Reply × Option Transport)
  | .send _ message => return (.sent (← transport.send message), some transport)
  | .receive _ wait => return (.received (← transport.receive wait), some transport)
  | .close _ => return (.done, some (← transport.close))
  | .drop _ => do
    transport.drop
    return (.done, none)

namespace Connection

def atSide (connection : Connection) : Side → Option Transport
  | .near => connection.near
  | .far => connection.far

def setSide (connection : Connection) (side : Side) (value : Option Transport) : Connection :=
  match side with
  | .near => { connection with near := value }
  | .far => { connection with far := value }

def onLink (index : Nat) : Connection :=
  ⟨some (.link index .near), some (.link index .far)⟩

def answer (connection : Connection) (call : Call) : HostM (Reply × Connection) := do
  match connection.atSide call.side with
  | none => return (.absent, connection)
  | some transport =>
    match call with
    | .send _ message => return (.sent (← transport.send message), connection)
    | .receive _ wait => return (.received (← transport.receive wait), connection)
    | .close side => return (.done, connection.setSide side (some (← transport.close)))
    | .drop side =>
      transport.drop
      return (.done, connection.setSide side none)

/-- One call after the other: what was called and returned, and what is left of the ends. -/
def talk (connection : Connection) : List Call → HostM (Log × Connection)
  | [] => return ([], connection)
  | call :: rest => do
    let (reply, connection) ← connection.answer call
    let (log, connection) ← connection.talk rest
    return ((call, reply) :: log, connection)

theorem atSide_setSide (connection : Connection) (side other : Side) (value : Option Transport) :
    (connection.setSide side value).atSide other =
      if other = side then value else connection.atSide other := by
  cases side <;> cases other <;> rfl

theorem setSide_eq_self {connection : Connection} {side : Side} {value : Option Transport}
    (there : connection.atSide side = value) : connection.setSide side value = connection := by
  subst there
  cases side <;> rfl

theorem answer_absent {connection : Connection} {call : Call}
    (absent : connection.atSide call.side = none) (host : Host) :
    (connection.answer call).run host = ((.absent, connection), host) := by
  rw [answer, absent]
  rfl

theorem answer_present {connection : Connection} {call : Call} {transport : Transport}
    {reply : Reply} {left : Option Transport} {host after : Host}
    (there : connection.atSide call.side = some transport)
    (ran : (transport.answer call).run host = ((reply, left), after)) :
    (connection.answer call).run host = ((reply, connection.setSide call.side left), after) := by
  have same : connection.setSide call.side (some transport) = connection := setSide_eq_self there
  have split : connection.answer call = do
      let (reply, left) ← transport.answer call
      return (reply, connection.setSide call.side left) := by
    rw [answer, there]
    cases call with
    | send side message =>
      simp only [Transport.answer, bind_assoc, pure_bind]
      rw [same]
    | receive side wait =>
      simp only [Transport.answer, bind_assoc, pure_bind]
      rw [same]
    | close side => simp only [Transport.answer, bind_assoc, pure_bind, Call.side]
    | drop side => simp only [Transport.answer, bind_assoc, pure_bind, Call.side]
  rw [split, HostM.run_bind_eq ran]
  rfl

theorem talk_cons {connection middle : Connection} {call : Call} {reply : Reply}
    {host between : Host}
    (ran : (connection.answer call).run host = ((reply, middle), between)) (rest : List Call) :
    (connection.talk (call :: rest)).run host =
      (((call, reply) :: ((middle.talk rest).run between).1.1,
          ((middle.talk rest).run between).1.2),
        ((middle.talk rest).run between).2) := by
  rw [talk, HostM.run_bind_eq ran]
  rfl

end Connection

/-!
## Calls on a link
-/

/-- What a call on an end of a link returns, and the link after it. -/
def Link.answer (link : Link) (call : Call) : Reply × Link :=
  if (link.atSide call.side).status = .gone then (.absent, link)
  else match call with
    | .send side message =>
      let (result, after) := link.send side message
      (.sent result, after)
    | .receive side wait =>
      let (result, after) := link.receive side
      (.received (result <|> wait.limit?.map fun limit => .error (.timeout limit)), after)
    | .close side => (.done, link.close side)
    | .drop side => (.done, link.drop side)

def Link.talk (link : Link) : List Call → Log × Link
  | [] => ([], link)
  | call :: rest =>
    let (reply, after) := link.answer call
    let (log, last) := after.talk rest
    ((call, reply) :: log, last)

namespace Link

theorem atSide_setSide (link : Link) (side other : Side) (value : LinkEnd) :
    (link.setSide side value).atSide other = if other = side then value else link.atSide other := by
  cases side <;> cases other <;> rfl

theorem answer_gone {link : Link} {call : Call} (gone : (link.atSide call.side).status = .gone) :
    link.answer call = (.absent, link) := by
  unfold answer
  exact if_pos gone

section There

variable {link : Link} {side : Side} (there : (link.atSide side).status ≠ .gone)
include there

theorem answer_send (message : Message) :
    link.answer (.send side message) =
      (.sent (link.send side message).1, (link.send side message).2) :=
  if_neg there

theorem answer_receive (wait : Wait) :
    link.answer (.receive side wait) =
      (.received ((link.receive side).1 <|>
        wait.limit?.map fun limit => .error (.timeout limit)), (link.receive side).2) :=
  if_neg there

theorem answer_close : link.answer (.close side) = (.done, link.close side) :=
  if_neg there

theorem answer_drop : link.answer (.drop side) = (.done, link.drop side) :=
  if_neg there

end There

theorem talk_cons (link : Link) (call : Call) (rest : List Call) :
    link.talk (call :: rest) = ((call, (link.answer call).1) :: ((link.answer call).2.talk rest).1,
      ((link.answer call).2.talk rest).2) :=
  rfl

/-- Only closing and dropping an end change how it stands. -/
theorem status_answer (link : Link) (call : Call) (side : Side) :
    ((link.answer call).2.atSide side).status =
      if call = .drop side then .gone
      else if call = .close side ∧ (link.atSide side).status = .opened then .closed
      else (link.atSide side).status := by
  unfold answer
  split
  · next gone =>
    cases call <;> simp only [Call.side] at gone <;> grind
  · next there =>
    cases call with
    | send sender message =>
      simp only [send, reduceCtorEq, ↓reduceIte, false_and]
      split
      · rfl
      · split
        · rfl
        · rw [atSide_setSide]
          split
          · next same => rw [same]
          · rfl
    | receive receiver wait =>
      simp only [receive, reduceCtorEq, ↓reduceIte, false_and]
      split
      · rfl
      · split
        · rw [atSide_setSide]
          split
          · next same => rw [same]
          · rfl
        · split <;> rfl
    | close closer =>
      simp only [close, isOpen, reduceCtorEq, ↓reduceIte, Call.close.injEq, decide_eq_true_eq]
      split
      · rw [atSide_setSide]
        grind
      · grind
    | drop dropper =>
      simp only [drop, atSide_setSide, Call.drop.injEq, reduceCtorEq, false_and, ↓reduceIte]
      grind

theorem gone_answer (link : Link) (call : Call) (side : Side) :
    ((link.answer call).2.atSide side).status = .gone ↔
      call = .drop side ∨ (link.atSide side).status = .gone := by
  rw [status_answer]
  split
  · next dropped => exact iff_of_true rfl (.inl dropped)
  · next other =>
    rw [or_iff_right other]
    split
    · next closed => simp [closed.2]
    · exact Iff.rfl

end Link

theorem Hub.close_present {hub : Hub} {index : Nat} {ends : Link}
    (present : hub.links[index]? = some ends) (side : Side) :
    (hub.close index side).links[index]? = some (ends.close side) := by
  cases side with
  | near =>
    simp only [close, release]
    split <;> simp [Array.getElem?_modify, present]
  | far => simp [close, Array.getElem?_modify, present]

namespace Transport

variable (index : Nat) (side : Side) (host : Host)

theorem send_link (message : Message) :
    ∃ after, ((link index side).send message).run host =
        ((host.hub.send index side message).1, after) ∧
      after.hub = (host.hub.send index side message).2 := by
  simp only [send]
  rw [HostM.run_get_bind]
  split <;> exact ⟨_, rfl, rfl⟩

theorem poll_link :
    ∃ after, (link index side).poll.run host = ((host.hub.receive index side).1, after) ∧
      after.hub = (host.hub.receive index side).2 := by
  simp only [poll]
  rw [HostM.run_get_bind]
  split <;> exact ⟨_, rfl, rfl⟩

theorem answer_close :
    ((link index side).answer (.close side)).run host =
      ((.done, some (link index side)), { host with hub := host.hub.close index side }) :=
  rfl

theorem answer_drop :
    ((link index side).answer (.drop side)).run host =
      ((.done, none), { host with hub := host.hub.drop index side }) :=
  rfl

theorem receive_link (wait : Wait) :
    ∃ after, ((link index side).receive wait).run host =
        ((host.hub.receive index side).1 <|>
          wait.limit?.map fun limit => .error (.timeout limit), after) ∧
      after.hub = (host.hub.receive index side).2 := by
  obtain ⟨after, polled, hub⟩ := poll_link index side host
  refine ⟨after, ?_, hub⟩
  unfold receive
  rw [HostM.run_bind_eq polled]
  cases (host.hub.receive index side).1 with
  | some result => rfl
  | none => cases wait <;> rfl

variable {index side host} {ends : Link} (present : host.hub.links[index]? = some ends)
include present

/-- A call on an end of a link is one on the link, and all the hub sees of it. -/
theorem answer_link {call : Call} (there : (ends.atSide call.side).status ≠ .gone) :
    ∃ after, ((link index call.side).answer call).run host =
        (((ends.answer call).1, call.leaves (link index call.side)), after) ∧
      after.hub.links[index]? = some (ends.answer call).2 ∧
      ∀ past, host.hub.Past past → ∃ later, after.hub.Past later := by
  cases call with
  | send side message =>
    replace there : (ends.atSide side).status ≠ .gone := there
    obtain ⟨after, ran, hub⟩ := send_link index side host message
    obtain ⟨result, stays⟩ := Hub.send_present present side message
    rw [result] at ran
    rw [Link.answer_send there]
    refine ⟨after, HostM.run_bind_eq ran, ?_, fun past recorded => ?_⟩
    · rw [hub]
      exact stays
    · rw [hub]
      exact ⟨_, recorded.sent index side message⟩
  | receive side wait =>
    replace there : (ends.atSide side).status ≠ .gone := there
    obtain ⟨after, ran, hub⟩ := receive_link index side host wait
    obtain ⟨result, stays⟩ := Hub.receive_present present side
    rw [result] at ran
    rw [Link.answer_receive there]
    refine ⟨after, HostM.run_bind_eq ran, ?_, fun past recorded => ?_⟩
    · rw [hub]
      exact stays
    · rw [hub]
      exact ⟨_, recorded.received index side⟩
  | close side =>
    replace there : (ends.atSide side).status ≠ .gone := there
    rw [Link.answer_close there]
    exact ⟨_, answer_close index side host, Hub.close_present present side,
      fun past recorded => ⟨_, recorded.closed index side⟩⟩
  | drop side =>
    replace there : (ends.atSide side).status ≠ .gone := there
    rw [Link.answer_drop there]
    exact ⟨_, answer_drop index side host, Hub.drop_present present side,
      fun past recorded => ⟨_, recorded.dropped index side⟩⟩

end Transport

namespace Connection

/-- The ends that were not dropped are these transports. -/
def Seated (seats : Side → Transport) (connection : Connection) (ends : Link) : Prop :=
  ∀ side, connection.atSide side =
    if (ends.atSide side).status = .gone then none else some (seats side)

/-- The ends that were not dropped are the ends of that link. -/
structure On (connection : Connection) (index : Nat) (ends : Link) (host : Host) : Prop where
  present : host.hub.links[index]? = some ends
  there : Seated (.link index) connection ends

theorem On.fresh {index : Nat} {id : ChannelId} {host : Host}
    (fresh : host.hub.links[index]? = some (.fresh id)) :
    (onLink index).On index (.fresh id) host where
  present := fresh
  there side := by cases side <;> rfl

/-- If the transport of an end answers as the link does, so does the connection. -/
theorem Seated.answer {seats : Side → Transport} {connection : Connection} {ends : Link}
    {host : Host} (seated : Seated seats connection ends) (call : Call)
    (shows : Link → Host → Prop) (shown : shows ends host)
    (played : (ends.atSide call.side).status ≠ .gone →
      ∃ after, ((seats call.side).answer call).run host =
          (((ends.answer call).1, call.leaves (seats call.side)), after) ∧
        shows (ends.answer call).2 after) :
    ∃ next after, (connection.answer call).run host = (((ends.answer call).1, next), after) ∧
      Seated seats next (ends.answer call).2 ∧ shows (ends.answer call).2 after := by
  have there := seated call.side
  by_cases gone : (ends.atSide call.side).status = .gone
  · rw [if_pos gone] at there
    rw [Link.answer_gone gone]
    exact ⟨connection, host, answer_absent there host, seated, shown⟩
  · rw [if_neg gone] at there
    obtain ⟨after, ran, later⟩ := played gone
    refine ⟨_, after, answer_present there ran, fun side => ?_, later⟩
    simp only [atSide_setSide, Link.gone_answer]
    split
    · next same =>
      subst same
      cases call <;> simp [Call.leaves, Call.side] at gone ⊢ <;> simp [gone]
    · next other =>
      have kept : call ≠ .drop side := fun dropped => other (congrArg Call.side dropped).symm
      simp only [seated side, kept, false_or]

/-- The calls on the ends of a link are calls on the link, and all the hub sees of them. -/
theorem On.answer {connection : Connection} {index : Nat} {ends : Link} {host : Host}
    (on : connection.On index ends host) (call : Call) :
    ∃ next after, (connection.answer call).run host = (((ends.answer call).1, next), after) ∧
      next.On index (ends.answer call).2 after ∧
      ∀ past, host.hub.Past past → ∃ later, after.hub.Past later := by
  obtain ⟨next, after, ran, there, present, recording⟩ := on.there.answer call
    (fun ends later => later.hub.links[index]? = some ends ∧
      ∀ past, host.hub.Past past → ∃ further, later.hub.Past further)
    ⟨on.present, fun past recorded => ⟨past, recorded⟩⟩ (Transport.answer_link on.present)
  exact ⟨next, after, ran, ⟨present, there⟩, recording⟩

theorem On.talk {connection : Connection} {index : Nat} {ends : Link} {host : Host}
    (on : connection.On index ends host) (calls : List Call) :
    ∃ next after, (connection.talk calls).run host = (((ends.talk calls).1, next), after) ∧
      next.On index (ends.talk calls).2 after ∧
      ∀ past, host.hub.Past past → ∃ later, after.hub.Past later := by
  induction calls generalizing connection ends host with
  | nil => exact ⟨connection, host, rfl, on, fun past recorded => ⟨past, recorded⟩⟩
  | cons call rest ih =>
    obtain ⟨middle, between, answered, still, recording⟩ := on.answer call
    obtain ⟨next, after, talked, last, recorded⟩ := ih still
    refine ⟨next, after, ?_, last, fun past earlier => ?_⟩
    · rw [talk_cons answered, talked]
      rfl
    · obtain ⟨later, known⟩ := recording past earlier
      exact recorded later known

end Connection

end ChunkRelay
