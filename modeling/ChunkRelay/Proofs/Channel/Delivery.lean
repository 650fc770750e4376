import ChunkRelay.Proofs.Channel.Dialogue

/-! What is said on an in-process link is heard, in that order and once. The
calls before tell what a call returns: a message that was taken is received as
long as its receiver stays open, and an end is closed once, however often it is
closed or dropped. -/

set_option autoImplicit false

namespace ChunkRelay

/-!
## What a log tells
-/

namespace Log

/-- The messages that an end was told it had sent. -/
def said (side : Side) (log : Log) : List Message :=
  log.filterMap fun
    | (.send sender message, .sent (.ok ())) => if sender = side then some message else none
    | _ => none

/-- The messages that an end received. -/
def heard (side : Side) (log : Log) : List Message :=
  log.filterMap fun
    | (.receive receiver _, .received (some (.ok message))) =>
      if receiver = side then some message else none
    | _ => none

def dropped (side : Side) (log : Log) : Bool :=
  log.any fun entry => entry.1 = .drop side

/-- The end was closed, which dropping it does as well. -/
def closed (side : Side) (log : Log) : Bool :=
  log.dropped side || log.any fun entry => entry.1 = .close side

/-- What is left of the messages for an end. -/
def unheard (side : Side) (log : Log) : List Message :=
  (log.said side.other).drop (log.heard side).length

/-- What a send returns after such calls. -/
def sendReply (side : Side) (log : Log) : Reply :=
  if log.dropped side then .absent
  else if log.closed side || log.dropped side.other then .sent (.error .closed)
  else .sent (.ok ())

/-- What a receive returns after such calls. -/
def receiveReply (side : Side) (wait : Wait) (log : Log) : Reply :=
  if log.dropped side then .absent
  else if log.closed side then .received (some (.error .closed))
  else match log.unheard side with
    | message :: _ => .received (some (.ok message))
    | [] =>
      if log.closed side.other then .received (some (.error .closed))
      else .received (wait.limit?.map fun limit => .error (.timeout limit))

end Log

/-!
## What a link has come to
-/

namespace Log

variable (log : Log) (entry : Call × Reply) (side : Side)

theorem closed_of_dropped {log : Log} {side : Side} (dropped : log.dropped side = true) :
    log.closed side = true := by
  rw [closed, dropped, Bool.true_or]

/-- An open end is not told that the connection is closed while something is left for it. -/
theorem unheard_nil_of_closed {log : Log} {side : Side} {wait : Wait} {rest : List Message}
    (told : log.receiveReply side wait = .received (some (.error .closed)))
    (opened : log.closed side = false) (said : log.said side.other = log.heard side ++ rest) :
    rest = [] := by
  have there : log.dropped side = false :=
    Bool.eq_false_iff.mpr fun dropped => by simp [closed_of_dropped dropped] at opened
  rw [receiveReply, there, opened, unheard, said, List.drop_left] at told
  cases rest with
  | nil => rfl
  | cons message rest => cases told

theorem said_concat :
    Log.said side (log ++ [entry]) = log.said side ++ Log.said side [entry] :=
  List.filterMap_append

theorem heard_concat :
    Log.heard side (log ++ [entry]) = log.heard side ++ Log.heard side [entry] :=
  List.filterMap_append

theorem said_sent (sender : Side) (message : Message) :
    Log.said side [(.send sender message, .sent (.ok ()))] =
      if sender = side then [message] else [] := by
  unfold said
  split <;> simp_all

theorem heard_received (receiver : Side) (wait : Wait) (message : Message) :
    Log.heard side [(.receive receiver wait, .received (some (.ok message)))] =
      if receiver = side then [message] else [] := by
  unfold heard
  split <;> simp_all

theorem dropped_concat :
    Log.dropped side (log ++ [entry]) = (log.dropped side || decide (entry.1 = .drop side)) := by
  simp [dropped]

theorem closed_concat :
    Log.closed side (log ++ [entry]) =
      (log.closed side || decide (entry.1 = .drop side ∨ entry.1 = .close side)) := by
  simp only [closed, dropped, List.any_append, List.any_cons, List.any_nil, Bool.or_false]
  grind

end Log

namespace Link

/-- A link on which these calls were answered. -/
structure Tells (log : Log) (link : Link) : Prop where
  status (side : Side) : (link.atSide side).status =
    if log.dropped side then .gone else if log.closed side then .closed else .opened
  queue (side : Side) : ∃ rest, log.said side.other = log.heard side ++ rest ∧
    ((link.atSide side).status ≠ .gone → (link.atSide side).inbox = rest)

variable {log : Log} {link : Link} {side : Side}

theorem Tells.fresh (id : ChannelId) : Tells [] (.fresh id) where
  status side := by cases side <;> rfl
  queue side := ⟨[], rfl, fun _ => by cases side <;> rfl⟩

theorem Tells.gone_iff (tells : link.Tells log) :
    (link.atSide side).status = .gone ↔ log.dropped side = true := by
  rw [tells.status]
  cases Log.dropped side log <;> cases Log.closed side log <;> simp

theorem Tells.opened_iff (tells : link.Tells log) :
    (link.atSide side).status = .opened ↔ log.closed side = false := by
  rw [tells.status]
  cases dropped : Log.dropped side log with
  | true => simp [Log.closed_of_dropped dropped]
  | false => cases Log.closed side log <;> simp

theorem Tells.unheard (tells : link.Tells log) (there : (link.atSide side).status ≠ .gone) :
    log.unheard side = (link.atSide side).inbox := by
  obtain ⟨rest, said, inbox⟩ := tells.queue side
  rw [Log.unheard, said, List.drop_left, inbox there]

theorem Tells.send (tells : link.Tells log) (message : Message) :
    (link.answer (.send side message)).1 = log.sendReply side := by
  unfold Log.sendReply
  by_cases gone : (link.atSide side).status = .gone
  · rw [answer_gone gone, if_pos (tells.gone_iff.mp gone)]
  rw [answer_send gone, if_neg (mt tells.gone_iff.mpr gone)]
  by_cases opened : (link.atSide side).status = .opened
  · have unclosed := tells.opened_iff.mp opened
    by_cases away : (link.atSide side.other).status = .gone
    · rw [send_gone away]
      simp [tells.gone_iff.mp away]
    · rw [send_ok opened away]
      simp [unclosed, mt tells.gone_iff.mpr away]
  · have closed := eq_true_of_ne_false (mt tells.opened_iff.mpr opened)
    simp [Link.send, isOpen, opened, closed]

theorem Tells.receive (tells : link.Tells log) (wait : Wait) :
    (link.answer (.receive side wait)).1 = log.receiveReply side wait := by
  unfold Log.receiveReply
  by_cases gone : (link.atSide side).status = .gone
  · rw [answer_gone gone, if_pos (tells.gone_iff.mp gone)]
  rw [answer_receive gone, if_neg (mt tells.gone_iff.mpr gone), tells.unheard gone]
  by_cases opened : (link.atSide side).status = .opened
  · rw [tells.opened_iff.mp opened]
    cases inbox : (link.atSide side).inbox with
    | cons message rest =>
      rw [receive_cons opened inbox]
      rfl
    | nil =>
      rw [receive_nil opened inbox]
      by_cases other : (link.atSide side.other).status = .opened
      · simp [other, tells.opened_iff.mp other]
      · simp [other, eq_true_of_ne_false (mt tells.opened_iff.mpr other)]
  · have closed := eq_true_of_ne_false (mt tells.opened_iff.mpr opened)
    simp [Link.receive, isOpen, opened, closed]

/-- What a link tells after one more call, if its queues have kept up. -/
theorem Tells.concat (tells : link.Tells log) (call : Call)
    (queue : ∀ side, ∃ rest,
      Log.said side.other log ++ Log.said side.other [(call, (link.answer call).1)] =
        log.heard side ++ Log.heard side [(call, (link.answer call).1)] ++ rest ∧
      (((link.answer call).2.atSide side).status ≠ .gone →
        ((link.answer call).2.atSide side).inbox = rest)) :
    (link.answer call).2.Tells (log ++ [(call, (link.answer call).1)]) where
  status side := by
    rw [status_answer, Log.dropped_concat, Log.closed_concat]
    simp only [tells.opened_iff]
    rw [tells.status side]
    by_cases drops : call = .drop side
    · simp [drops]
    · cases dropped : Log.dropped side log with
      | true => simp [drops, Log.closed_of_dropped dropped]
      | false =>
        by_cases closes : call = .close side
        · cases Log.closed side log <;> simp [closes]
        · simp [drops, closes]
  queue side := by
    simp only [Log.said_concat, Log.heard_concat]
    exact queue side

/-- A call that nothing was said or heard by, and after which the queues are as they were. -/
theorem Tells.quiet (tells : link.Tells log) (call : Call)
    (unsaid : ∀ side, Log.said side [(call, (link.answer call).1)] = [])
    (unheard : ∀ side, Log.heard side [(call, (link.answer call).1)] = [])
    (same : ∀ side, ((link.answer call).2.atSide side).status ≠ .gone →
      ((link.answer call).2.atSide side).inbox = (link.atSide side).inbox) :
    (link.answer call).2.Tells (log ++ [(call, (link.answer call).1)]) := by
  apply tells.concat
  intro side
  obtain ⟨rest, said, inbox⟩ := tells.queue side
  refine ⟨rest, ?_, fun there => ?_⟩
  · rw [unsaid, unheard, List.append_nil, List.append_nil, said]
  · rw [same side there]
    exact inbox fun gone => there ((link.gone_answer call side).mpr (.inr gone))

/-- A message that was taken is the last one for the other end. -/
theorem Tells.said (tells : link.Tells log) (message : Message)
    (there : (link.atSide side).status ≠ .gone) :
    (link.answer (.send side message)).2.Tells
      (log ++ [(.send side message, (link.answer (.send side message)).1)]) := by
  have refused : link.send side message = (.error .closed, link) →
      (link.answer (.send side message)).2.Tells
        (log ++ [(.send side message, (link.answer (.send side message)).1)]) := by
    intro closed
    apply tells.quiet <;> rw [answer_send there, closed]
    · exact fun _ => rfl
    · exact fun _ => rfl
    · exact fun _ _ => rfl
  by_cases opened : (link.atSide side).status = .opened
  · by_cases away : (link.atSide side.other).status = .gone
    · exact refused (send_gone away message)
    · apply tells.concat
      rw [answer_send there, send_ok opened away]
      intro other
      obtain ⟨rest, said, inbox⟩ := tells.queue other
      rcases other.eq_or_eq_other side with rfl | rfl
      · refine ⟨rest, ?_, fun _ => ?_⟩
        · rw [said, Log.said_sent, if_neg (Side.other_ne other).symm, List.append_nil]
          exact congrArg (· ++ rest) (List.append_nil _).symm
        · simpa [queued, atSide_setSide, (Side.other_ne other).symm] using inbox there
      · refine ⟨rest ++ [message], ?_, fun _ => ?_⟩
        · rw [said, Side.other_other, Log.said_sent, if_pos rfl, List.append_assoc]
          exact congrArg (· ++ (rest ++ [message])) (List.append_nil _).symm
        · simp [queued, atSide_setSide, inbox away]
  · exact refused (by simp [Link.send, isOpen, opened])

/-- A message that was received is the first one of those left. -/
theorem Tells.heard (tells : link.Tells log) (wait : Wait)
    (there : (link.atSide side).status ≠ .gone) :
    (link.answer (.receive side wait)).2.Tells
      (log ++ [(.receive side wait, (link.answer (.receive side wait)).1)]) := by
  by_cases opened : (link.atSide side).status = .opened
  · cases found : (link.atSide side).inbox with
    | cons message left =>
      apply tells.concat
      rw [answer_receive there, receive_cons opened found]
      intro other
      obtain ⟨rest, said, inbox⟩ := tells.queue other
      change ∃ rest, _ ++ [] = _ ++ Log.heard other [(_, .received (some (.ok message)))] ++ rest ∧ _
      rw [Log.heard_received]
      by_cases same : other = side
      · subst same
        rw [inbox there] at found
        refine ⟨left, ?_, fun _ => ?_⟩
        · rw [said, found, if_pos rfl, List.append_nil, List.append_assoc]
          rfl
        · simp [leaving, atSide_setSide]
      · refine ⟨rest, ?_, ?_⟩
        · rw [said, if_neg (Ne.symm same), List.append_nil, List.append_nil]
        · simp only [leaving, atSide_setSide, same, ↓reduceIte]
          exact inbox
    | nil =>
      apply tells.quiet <;> rw [answer_receive there, receive_nil opened found]
      · exact fun _ => rfl
      · intro other
        split <;> cases wait <;> rfl
      · exact fun _ _ => rfl
  · have closed : link.receive side = (some (.error .closed), link) := by
      simp [Link.receive, isOpen, opened]
    apply tells.quiet <;> rw [answer_receive there, closed]
    · exact fun _ => rfl
    · exact fun _ => rfl
    · exact fun _ _ => rfl

theorem Tells.answer (tells : link.Tells log) (call : Call) :
    (link.answer call).2.Tells (log ++ [(call, (link.answer call).1)]) := by
  by_cases gone : (link.atSide call.side).status = .gone
  · have same := answer_gone gone
    apply tells.quiet <;> rw [same]
    · intro side
      cases call <;> rfl
    · intro side
      cases call <;> rfl
    · exact fun _ _ => rfl
  cases call with
  | send sender message => exact tells.said message gone
  | receive receiver wait => exact tells.heard wait gone
  | close closer =>
    replace gone : (link.atSide closer).status ≠ .gone := gone
    apply tells.quiet
    · exact fun _ => rfl
    · exact fun _ => rfl
    · intro side there
      rw [answer_close gone, Link.close]
      split
      · rw [atSide_setSide]
        split
        · next same => rw [same]
        · rfl
      · rfl
  | drop dropper =>
    replace gone : (link.atSide dropper).status ≠ .gone := gone
    apply tells.quiet
    · exact fun _ => rfl
    · exact fun _ => rfl
    · intro side there
      rw [answer_drop gone] at there ⊢
      unfold Link.drop at there ⊢
      rw [atSide_setSide] at there ⊢
      split
      · next same =>
        rw [if_pos same] at there
        exact absurd rfl there
      · rfl

theorem calls_talk (link : Link) (calls : List Call) :
    (link.talk calls).1.map (·.1) = calls := by
  induction calls generalizing link with
  | nil => rfl
  | cons call rest ih => exact congrArg (call :: ·) (ih _)

theorem Tells.talk (tells : link.Tells log) (calls : List Call) :
    (link.talk calls).2.Tells (log ++ (link.talk calls).1) := by
  induction calls generalizing link log with
  | nil =>
    rw [talk, List.append_nil]
    exact tells
  | cons call rest ih =>
    have further := ih (tells.answer call)
    rw [List.append_assoc] at further
    exact further

end Link

/-!
## Ending more than once
-/

theorem Link.close_close (link : Link) (side : Side) :
    (link.close side).close side = link.close side := by
  have shut : (link.close side).isOpen side = false := by
    simp [isOpen_close]
  rw [Link.close.eq_def (link.close side), if_neg (by simp [shut])]

theorem Hub.close_close {hub : Hub} (distinct : hub.holders.Nodup) (index : Nat) (side : Side) :
    (hub.close index side).close index side = hub.close index side := by
  have links : (hub.links.modify index (·.close side)).modify index (·.close side) =
      hub.links.modify index (·.close side) := by
    apply Array.ext_getElem?
    intro other
    simp only [Array.getElem?_modify]
    split
    · cases hub.links[other]? <;> simp [Link.close_close]
    · rfl
  cases side with
  | far => simp [close, links]
  | near =>
    by_cases held : index ∈ hub.holders
    · have given : index ∉ hub.holders.erase index := distinct.not_mem_erase
      simp [close, release, held, given, links]
    · simp [close, release, held, links]

theorem Hub.drop_close {hub : Hub} (distinct : hub.holders.Nodup) (index : Nat) (side : Side) :
    (hub.close index side).drop index side = hub.drop index side := by
  rw [Hub.drop, Hub.close_close distinct]
  rfl

namespace Connection

/-- What is left of a connection and its host after some calls. -/
def leave (connection : Connection) (calls : List Call) (host : Host) : Connection × Host :=
  (((connection.talk calls).run host).1.2, ((connection.talk calls).run host).2)

theorem leave_cons {connection next : Connection} {call : Call} {reply : Reply} {host after : Host}
    (ran : (connection.answer call).run host = ((reply, next), after)) (rest : List Call) :
    connection.leave (call :: rest) host = next.leave rest after := by
  rw [leave, talk_cons ran]
  rfl

variable {connection : Connection} {index : Nat} {ends : Link} {host : Host}

section There

variable {side : Side} (there : connection.atSide side = some (.link index side))
include there

theorem leave_close (rest : List Call) :
    connection.leave (.close side :: rest) host =
      connection.leave rest { host with hub := host.hub.close index side } := by
  have ran : (connection.answer (.close side)).run host =
      ((.done, connection.setSide side (some (.link index side))),
        { host with hub := host.hub.close index side }) :=
    answer_present there (Transport.answer_close index side host)
  rw [leave_cons ran, setSide_eq_self there]

theorem leave_drop (rest : List Call) :
    connection.leave (.drop side :: rest) host =
      (connection.setSide side none).leave rest { host with hub := host.hub.drop index side } := by
  have ran : (connection.answer (.drop side)).run host =
      ((.done, connection.setSide side none), { host with hub := host.hub.drop index side }) :=
    answer_present there (Transport.answer_drop index side host)
  exact leave_cons ran rest

end There

/-- Ending an end twice comes to the same as ending it once, by a drop if one of both is a drop. -/
theorem On.leave_twice (on : connection.On index ends host) (distinct : host.hub.holders.Nodup)
    {side : Side} {first second : Call} (ending : first = .close side ∨ first = .drop side)
    (again : second = .close side ∨ second = .drop side) :
    connection.leave [first, second] host =
      connection.leave [if .drop side ∈ [first, second] then .drop side else .close side] host := by
  have there := on.there side
  split at there
  · have absent : ∀ call, call = .close side ∨ call = .drop side →
        (connection.answer call).run host = ((.absent, connection), host) := by
      rintro call (rfl | rfl)
      · exact answer_absent there host
      · exact answer_absent there host
    rw [leave_cons (absent _ ending), leave_cons (absent _ again)]
    split
    · rw [leave_cons (absent _ (.inr rfl))]
    · rw [leave_cons (absent _ (.inl rfl))]
  · have gone : (connection.setSide side none).atSide side = none := by
      rw [atSide_setSide, if_pos rfl]
    rcases ending with rfl | rfl
    · rw [leave_close there]
      rcases again with rfl | rfl
      · rw [leave_close there, if_neg (by simp), leave_close there]
        simp only [Hub.close_close distinct]
      · rw [leave_drop there, if_pos (by simp), leave_drop there]
        simp only [Hub.drop_close distinct]
    · rw [if_pos (by simp), leave_drop there, leave_drop there]
      rcases again with rfl | rfl
      · rw [leave_cons (answer_absent gone _)]
      · rw [leave_cons (answer_absent gone _)]

/-- However often an end is closed or dropped, it is ended once. -/
theorem On.leave_once (on : connection.On index ends host)
    {past : List Hub.Event} (recorded : host.hub.Past past) {side : Side} {endings : List Call}
    (only : ∀ call ∈ endings, call = .close side ∨ call = .drop side) (some_call : endings ≠ []) :
    connection.leave endings host =
      connection.leave [if .drop side ∈ endings then .drop side else .close side] host := by
  induction endings generalizing connection ends host past with
  | nil => exact absurd rfl some_call
  | cons call rest ih =>
    obtain ⟨ending, others⟩ := List.forall_mem_cons.mp only
    cases rest with
    | nil => rcases ending with rfl | rfl <;> simp
    | cons other rest =>
      obtain ⟨next, after, answered, still, recording⟩ := on.answer call
      obtain ⟨later, known⟩ := recording past recorded
      have last : ∀ call : Call, connection.leave [_, call] host = next.leave [call] after :=
        fun call => leave_cons answered [call]
      have distinct : host.hub.holders.Nodup := by
        rw [recorded.books.holders]
        exact recorded.books.single
      rw [leave_cons answered, ih still known others (List.cons_ne_nil _ _), ← last,
        on.leave_twice distinct ending (by split <;> simp)]
      congr 2
      split <;> simp_all

end Connection

/-- On the ends of a fresh link, every reply follows from the calls before it. What an end has heard
is the first part of what the other one has said; the rest of it is what a receive finds next, until
its own end is closed. A message is taken as long as the sender is open and the receiver not dropped.
An end is told that the other one is closed from the first close or drop of it on, and all further
ones change nothing. -/
theorem link_delivers {host after : Host} {past : List Hub.Event} {index : Nat} {id : ChannelId}
    {calls : List Call} {log : Log} {connection : Connection} (recorded : host.hub.Past past)
    (fresh : host.hub.links[index]? = some (.fresh id))
    (talked : ((Connection.onLink index).talk calls).run host = ((log, connection), after))
    (side : Side) :
    log.map (·.1) = calls ∧
      log.heard side <+: log.said side.other ∧
      (∀ message, ((connection.answer (.send side message)).run after).1.1 = log.sendReply side) ∧
      (∀ wait, ((connection.answer (.receive side wait)).run after).1.1 =
        log.receiveReply side wait) ∧
      (∀ wait, ((connection.answer (.receive side wait)).run after).1.1 =
          .received (some (.error .closed)) → log.closed side = false →
        log.heard side = log.said side.other) ∧
      (after.hub.isOpen index side.other = false ↔ log.closed side.other = true) ∧
      ∀ endings, (∀ call ∈ endings, call = .close side ∨ call = .drop side) → endings ≠ [] →
        connection.leave endings after =
          connection.leave [if .drop side ∈ endings then .drop side else .close side] after := by
  obtain ⟨next, last, ran, on, recording⟩ := (Connection.On.fresh fresh).talk calls
  rw [talked] at ran
  cases ran
  obtain ⟨later, known⟩ := recording past recorded
  have tells := (Link.Tells.fresh id).talk calls
  rw [List.nil_append] at tells
  refine ⟨?calls, ?delivered, fun message => ?sent, fun wait => ?received,
    fun wait closed opened => ?drained, ?peer, ?ended⟩
  case calls => exact Link.calls_talk _ calls
  case delivered =>
    obtain ⟨rest, said, _⟩ := tells.queue side
    exact ⟨rest, said.symm⟩
  case sent =>
    obtain ⟨_, _, answered, _⟩ := on.answer (.send side message)
    rw [answered]
    exact tells.send message
  case received =>
    obtain ⟨_, _, answered, _⟩ := on.answer (.receive side wait)
    rw [answered]
    exact tells.receive wait
  case drained =>
    obtain ⟨_, _, answered, _⟩ := on.answer (.receive side wait)
    rw [answered, tells.receive wait] at closed
    obtain ⟨rest, said, _⟩ := tells.queue side
    rw [said, Log.unheard_nil_of_closed closed opened said, List.append_nil]
  case peer =>
    rw [Hub.isOpen, on.present, ← Bool.not_eq_false, ← tells.opened_iff, Option.any_some,
      Link.isOpen, decide_eq_false_iff_not]
  case ended => exact fun endings only some_call => on.leave_once known only some_call

/-- Both messages of an end that was closed are heard before the other end is told so, whose own
messages are taken until the closed end is dropped. -/
theorem link_delivers_small :
    let log : Log :=
      [(.send .near (.readDone 1), .sent (.ok ())), (.send .near (.readDone 2), .sent (.ok ())),
        (.receive .far .unbounded, .received (some (.ok (.readDone 1)))), (.close .near, .done),
        (.receive .far (.atMost ⟨5⟩), .received (some (.ok (.readDone 2)))),
        (.receive .far (.atMost ⟨5⟩), .received (some (.error .closed))),
        (.send .far (.readDone 3), .sent (.ok ())), (.close .near, .done), (.drop .near, .done)]
    ∃ connection after,
      ((Connection.onLink 0).talk (log.map (·.1))).run
          { Host.fresh 1 0 .empty with hub := (Hub.empty.join ⟨7, 0⟩).2 } =
        ((log, connection), after) ∧
      log.heard .far <+: log.said .near ∧ after.hub.isOpen 0 .near = false ∧
      ((connection.answer (.send .far (.readDone 4))).run after).1.1 = .sent (.error .closed) ∧
      ((connection.answer (.receive .near .unbounded)).run after).1.1 = .absent := by
  intro log
  let host : Host := { Host.fresh 1 0 .empty with hub := (Hub.empty.join ⟨7, 0⟩).2 }
  have recorded : host.hub.Past [.aside] := .joined ⟨7, 0⟩ .empty
  have fresh : host.hub.links[0]? = some (.fresh ⟨7, 0⟩) := rfl
  have logged : ((Link.fresh ⟨7, 0⟩).talk (log.map (·.1))).1 = log := rfl
  obtain ⟨connection, after, talked, _⟩ := (Connection.On.fresh fresh).talk (log.map (·.1))
  rw [logged] at talked
  obtain ⟨_, delivered, sends, _, _, peer, _⟩ := link_delivers recorded fresh talked .far
  obtain ⟨_, _, _, receives, _⟩ := link_delivers recorded fresh talked .near
  exact ⟨connection, after, talked, delivered, peer.mpr rfl, sends _, receives _⟩

end ChunkRelay
