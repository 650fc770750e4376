import ChunkRelay.Proofs.Session.Execution

/-! A session gives back what it has taken, whichever stage fails and whatever
the remote does. Each stage leaves open only what a later one closes. -/

set_option autoImplicit false

namespace ChunkRelay

/-!
## Giving back
-/

/-- Nothing is out that was not out before, and so many links were opened and closed in between. -/
structure Host.Settled (before after : Host) (links : Nat) : Prop where
  openHandles : after.bus.openHandles = before.bus.openHandles
  frames : after.bus.frames = before.bus.frames
  claimed : after.hub.claimed = before.hub.claimed
  opened : after.hub.opened = before.hub.opened + links
  closed : after.hub.closed = before.hub.closed + links

theorem Host.Settled.of {before after : Host} {links : Nat}
    (loans : after.bus.loans = before.bus.loans)
    (register : after.hub.register =
      ⟨before.hub.holders, before.hub.claimed, before.hub.opened + links,
        before.hub.closed + links⟩) : before.Settled after links := by
  obtain ⟨openHandles, frames⟩ := Bus.Loans.mk.inj loans
  obtain ⟨_, claimed, opened, closed⟩ := Hub.Register.mk.inj register
  exact ⟨openHandles, frames, claimed, opened, closed⟩

theorem Bus.NextFree.congr {bus other : Bus} (free : bus.NextFree)
    (loans : other.loans = bus.loans) (next : other.next = bus.next) : other.NextFree := by
  unfold Bus.NextFree
  rw [next, (Bus.Loans.mk.inj loans).2]
  exact free

/-- The hub opens a link or finds its endpoint and port claimed; it tells only what it let go of. -/
theorem Connector.openLink_run {id : ChannelId} {result : Except ChannelError Transport}
    {before after : Host} (ran : (openLink id).run before = (result, after)) :
    after.bus = before.bus ∧
      ((∃ error, before.hub.openLink id = .error error ∧ result = .error error ∧
          after.hub = before.hub) ∨
        ∃ index, before.hub.openLink id = .ok (index, after.hub) ∧
          result = .ok (.link index .near)) := by
  rw [openLink, HostM.run_get_bind] at ran
  cases opened : before.hub.openLink id with
  | error error =>
    rw [opened] at ran
    cases ran
    exact ⟨rfl, .inl ⟨error, rfl, rfl, rfl⟩⟩
  | ok made =>
    obtain ⟨index, hub⟩ := made
    let notices : List Notice := before.hub.stale.map fun stale =>
      ⟨.trace, "dropping stale parked end", (before.hub.idOf stale).fields⟩
    have told : (before.hub.stale.forM fun stale =>
        note .trace "dropping stale parked end" (before.hub.idOf stale).fields) =
          report notices := by
      simp [report, notices]
    obtain ⟨written, reported⟩ := report_run notices before
    rw [opened] at ran
    dsimp only at ran
    rw [told, HostM.run_bind_eq reported] at ran
    cases ran
    exact ⟨rfl, .inr ⟨index, rfl, rfl⟩⟩

namespace Channel

theorem openVia_opens {id : ChannelId} {wait : Wait} {before after : Host}
    {result : Except ChannelError Channel} (founded : before.hub.Founded)
    (ran : (openVia .viaHub id wait).run before = (result, after)) :
    after.bus = before.bus ∧
      (id ∈ before.hub.claimed ∧ result = .error (.busy id.endpoint id.port) ∧
          after.hub = before.hub ∨
        ∃ index, id ∉ before.hub.claimed ∧
          result = .ok (.onTransport id wait (.link index .near)) ∧
          before.hub.Opens index id after.hub) := by
  rcases opens : (Connector.openLink id).run before with ⟨opened, middle⟩
  obtain ⟨bus, outcome⟩ := Connector.openLink_run opens
  rw [openVia, HostM.run_bind_eq (show (Connector.viaHub.openFor id).run before = _ from opens)]
    at ran
  rcases outcome with ⟨error, refused, rfl, hub⟩ | ⟨index, made, rfl⟩
  · obtain ⟨claimed, rfl⟩ := Hub.openLink_error refused
    cases ran
    exact ⟨bus, .inl ⟨claimed, rfl, hub⟩⟩
  · cases ran
    exact ⟨bus, .inr ⟨index, (Hub.openLink_ok made).1, rfl, Hub.opens_of_openLink founded made⟩⟩

end Channel

theorem Session.openLocal_uses (role : Role) (path : String) (host : Host) :
    host.Uses ((openLocal role path).run host).2 := by
  unfold openLocal
  rw [HostM.run_get_bind]
  cases role with
  | sender =>
    dsimp only
    cases host.files.openReader path <;> exact .refl
  | receiver =>
    dsimp only
    cases host.files.openWriter path with
    | error cause => exact .refl
    | ok opened => exact .elsewhere rfl rfl

namespace Amid

variable {before after : Host} {id : ChannelId} {wait : Wait} {index : Nat}

theorem uses {α : Type} {action : HostM α} {value : α}
    (acts : ∀ host : Host, host.Uses (action.run host).2) (amid : Amid action before value after) :
    before.Uses after := by
  obtain ⟨early, late, earlier, ran, later⟩ := amid
  have acted := acts early
  rw [ran] at acted
  exact (earlier.trans acted).trans later

theorem opens {result : Except ChannelError Channel} (founded : before.hub.Founded)
    (amid : Amid (Channel.openVia .viaHub id wait) before result after) :
    after.bus.loans = before.bus.loans ∧ after.bus.next = before.bus.next ∧
      (id ∈ before.hub.claimed ∧ result = .error (.busy id.endpoint id.port) ∧
          before.hub.Keeps after.hub ∨
        ∃ index, id ∉ before.hub.claimed ∧
          result = .ok (.onTransport id wait (.link index .near)) ∧
          before.hub.Opens index id after.hub) := by
  obtain ⟨early, late, earlier, ran, later⟩ := amid
  have earlier := earlier.undisturbed
  have later := later.undisturbed
  obtain ⟨bus, outcome⟩ := Channel.openVia_opens (founded.keeps earlier.hub) ran
  have claimed : early.hub.claimed = before.hub.claimed :=
    congrArg Hub.Register.claimed earlier.hub.register
  rw [claimed] at outcome
  refine ⟨later.loans.trans ((congrArg Bus.loans bus).trans earlier.loans),
    later.next.trans ((congrArg Bus.next bus).trans earlier.next), ?_⟩
  rcases outcome with ⟨busy, refused, hub⟩ | ⟨index, free, made, opens⟩
  · have kept := later.hub
    rw [hub] at kept
    exact .inl ⟨busy, refused, earlier.hub.trans kept⟩
  · exact .inr ⟨index, free, made, (opens.since earlier.hub).keeps later.hub⟩

theorem acquires {allocator : Allocator} {capacity : Nat}
    {result : Except AllocationError RelayBuffer} (free : before.bus.NextFree)
    (amid : Amid (RelayBuffer.acquire allocator capacity) before result after) :
    before.hub.Keeps after.hub ∧
      ((∃ error, result = .error error) ∧ after.bus.loans = before.bus.loans ∨
        ∃ buffer, result = .ok buffer ∧ buffer.Owes before.bus.loans after) := by
  obtain ⟨early, late, earlier, ran, later⟩ := amid
  have earlier := earlier.undisturbed
  have later := later.undisturbed
  obtain ⟨hub, outcome⟩ := RelayBuffer.acquire_owes (free.congr earlier.loans earlier.next) ran
  rw [earlier.loans] at outcome
  have kept := later.hub
  rw [hub] at kept
  refine ⟨earlier.hub.trans kept, ?_⟩
  rcases outcome with ⟨refused, loans⟩ | ⟨buffer, made, owes⟩
  · exact .inl ⟨refused, later.loans.trans loans⟩
  · exact .inr ⟨buffer, made, owes.congr later.loans⟩

theorem releases {buffer : RelayBuffer} {loans : Bus.Loans} (owes : buffer.Owes loans before)
    (amid : Amid buffer.discard before () after) :
    before.hub.Keeps after.hub ∧ after.bus.loans = loans := by
  obtain ⟨early, late, earlier, ran, later⟩ := amid
  have earlier := earlier.undisturbed
  have later := later.undisturbed
  have done : late = (buffer.release.run early).2 :=
    (congrArg Prod.snd ran).symm.trans (congrArg Prod.snd (buffer.discard_run early))
  have hub : late.hub = early.hub := by
    rw [done]
    exact (buffer.release_kept early).2.2
  have kept := later.hub
  rw [hub] at kept
  refine ⟨earlier.hub.trans kept, later.loans.trans ?_⟩
  rw [done]
  exact owes.congr earlier.loans

theorem closes {hub : Hub} (opens : hub.Opens index id before.hub)
    (amid : Amid (Channel.onTransport id wait (.link index .near)).discard before () after) :
    after.bus.loans = before.bus.loans ∧ after.hub.register =
      ⟨hub.holders, hub.claimed, hub.opened + 1, hub.closed + 1⟩ := by
  obtain ⟨early, late, earlier, ran, later⟩ := amid
  have earlier := earlier.undisturbed
  have later := later.undisturbed
  have bus : late.bus = early.bus := (congrArg (fun ran => ran.2.bus) ran).symm
  have closed : late.hub = (early.hub.close index .near).drop index .near :=
    (congrArg (fun ran => ran.2.hub) ran).symm
  refine ⟨later.loans.trans ((congrArg Bus.loans bus).trans earlier.loans),
    later.hub.register.trans ?_⟩
  rw [closed]
  exact (opens.keeps earlier.hub).drop

end Amid

namespace Session

variable {config : SessionConfig} {role : Role} {path : String} {allocator : Allocator}
  {before opened acquired ended released after : Host} {channel : Channel} {buffer : RelayBuffer}

/-- A channel and a buffer that were taken, and given back in the end. -/
theorem settled_of_discards (free : before.bus.NextFree) (founded : before.hub.Founded)
    (opens : Amid (Channel.openVia .viaHub config.channelId config.wait) before (.ok channel) opened)
    (acquires : Amid (RelayBuffer.acquire allocator config.capacity) opened (.ok buffer) acquired)
    (uses : acquired.Uses ended) (releases : Amid buffer.discard ended () released)
    (closes : Amid channel.discard released () after) :
    before.Settled after 1 ∧ config.channelId ∉ before.hub.claimed := by
  obtain ⟨loans, next, ⟨_, refused, _⟩ | ⟨index, unclaimed, made, held⟩⟩ := opens.opens founded
  · cases refused
  · cases made
    obtain ⟨hub, ⟨⟨_, refused⟩, _⟩ | ⟨_, made, owes⟩⟩ :=
      acquires.acquires (free.congr loans next)
    · cases refused
    · cases made
      have used := uses.undisturbed
      obtain ⟨kept, given⟩ := releases.releases (owes.congr used.loans)
      obtain ⟨still, register⟩ := closes.closes (((held.keeps hub).keeps used.hub).keeps kept)
      exact ⟨.of (still.trans (given.trans loans)) register, unclaimed⟩

namespace Runs

variable {outcome : Outcome} {result : TransferResult}

/-- Whatever becomes of a session, everything is given back. Only a claim on its endpoint and port keeps
it from opening its link. -/
theorem settled (free : before.bus.NextFree) (founded : before.hub.Founded)
    (runs : Runs config role path allocator before outcome result after) :
    before.Settled after outcome.links ∧
      (config.channelId ∈ before.hub.claimed ↔
        outcome = .unopened (.busy config.endpoint config.port)) := by
  cases runs with
  | unopened opens =>
    obtain ⟨loans, _, ⟨busy, refused, hub⟩ | ⟨_, _, made, _⟩⟩ := opens.opens founded
    · cases refused
      exact ⟨.of loans hub.register, fun _ => rfl, fun _ => busy⟩
    · cases made
  | unbuffered opens acquires closes =>
    obtain ⟨loans, next, ⟨_, refused, _⟩ | ⟨index, unclaimed, made, held⟩⟩ := opens.opens founded
    · cases refused
    · cases made
      obtain ⟨hub, ⟨_, kept⟩ | ⟨_, made, _⟩⟩ := acquires.acquires (free.congr loans next)
      · obtain ⟨still, register⟩ := closes.closes (held.keeps hub)
        exact ⟨.of (still.trans (kept.trans loans)) register,
          fun claimed => absurd claimed unclaimed, fun same => by cases same⟩
      · cases made
  | fileless opens acquires finds releases closes =>
    have uses := finds.uses (openLocal_uses role path)
    obtain ⟨settled, unclaimed⟩ :=
      settled_of_discards free founded opens acquires uses releases closes
    exact ⟨settled, fun claimed => absurd claimed unclaimed, fun same => by cases same⟩
  | driven opens acquires finds proceeds terminal releases closes =>
    have uses := (finds.uses (openLocal_uses role path)).trans proceeds.uses
    obtain ⟨settled, unclaimed⟩ :=
      settled_of_discards free founded opens acquires uses releases closes
    exact ⟨settled, fun claimed => absurd claimed unclaimed, fun same => by cases same⟩

/-- The first error there was decides what a session returns. -/
theorem returns (runs : Runs config role path allocator before outcome result after) :
    result = outcome.result role ∧ ((∃ report, result = .ok report) ↔ outcome.Completed) ∧
      ∀ buffer engine log, outcome = .driven buffer engine log →
        engine.progress = outcome.progress role := by
  cases runs with
  | unopened opens =>
    exact ⟨rfl, ⟨fun ⟨_, same⟩ => (nomatch same), False.elim⟩, fun _ _ _ same => by cases same⟩
  | unbuffered opens acquires closes =>
    exact ⟨rfl, ⟨fun ⟨_, same⟩ => (nomatch same), False.elim⟩, fun _ _ _ same => by cases same⟩
  | fileless opens acquires finds releases closes =>
    exact ⟨rfl, ⟨fun ⟨_, same⟩ => (nomatch same), False.elim⟩, fun _ _ _ same => by cases same⟩
  | @driven _ _ _ _ _ _ channel buffer reader writer engine station log opens acquires finds
      proceeds terminal releases closes =>
    obtain ⟨early, late, _, acquired, _⟩ := acquires
    have contest := proceeds.contest rfl (.fresh reader writer)
    rw [List.nil_append] at contest
    have judged := Engine.judged_of_contest acquired contest
    obtain ⟨same, completed⟩ := judged.result terminal
    refine ⟨same, completed, fun _ _ _ same => ?_⟩
    cases same
    exact judged.progress

end Runs

end Session

/-- Through the hub, a session gives back all that it has taken, whichever stage fails and whatever
others do meanwhile, except opening and closing. It returns the first error there was, or the report
of a completed transfer. What it really does, alone, after a remote that has spoken, or in turns with
a service, is one of these ways to go. Alone, or after a remote that has spoken, it is refused or its
engine performs to its end, and it does return, unless it waits without end for a message that is not
there. In turns with a service it also does, or else it has counted more chunks than there was to be
moved. -/
theorem session_gives_back {base : UInt64} {spent : Nat} {before : Host}
    (bus : before.bus.History base spent) (fits : spent < 2 ^ 64) (hub : before.hub.History)
    (config : SessionConfig) (role : Role) (path : String) (allocator : Allocator) :
    (∀ outcome result after, Session.Runs config role path allocator before outcome result after →
      before.Settled after outcome.links ∧
        (config.channelId ∈ before.hub.claimed ↔
          outcome = .unopened (.busy config.endpoint config.port)) ∧
        result = outcome.result role ∧
        ((∃ report, result = .ok report) ↔ outcome.Completed) ∧
        ∀ buffer engine log, outcome = .driven buffer engine log →
          engine.progress = outcome.progress role) ∧
      (∀ result after,
        ((Session.run config role path allocator .viaHub).run before = (some result, after) ∨
          (∃ messages hangUp remote,
            (Session.runPreloaded config role path allocator messages hangUp).run before =
              ((some result, remote), after)) ∨
          ∃ service left, service.Remote ∧
            (Session.runWith config role path allocator .viaHub service).run before =
              ((some result, left), after)) →
        ∃ outcome, Session.Runs config role path allocator before outcome result after) ∧
      (∀ result? after,
        ((Session.run config role path allocator .viaHub).run before = (result?, after) ∨
          ∃ messages hangUp remote,
            (Session.runPreloaded config role path allocator messages hangUp).run before =
              ((result?, remote), after)) →
        Session.Comes config role path allocator before result? after ∧
          (result?.isSome ∨ Session.Pends config role path allocator before after)) ∧
      ∀ service left after, service.Remote → service.Awake →
        (Session.runWith config role path allocator .viaHub service).run before =
          ((none, left), after) →
        Session.Pends config role path allocator before after ∨ ∃ session ready pair,
          (Session.start config role path allocator .viaHub).run before = (.ok session, ready) ∧
            (Pair.run ⟨session, service⟩).run ready = (pair, after) ∧
            2 * (Pair.matter ⟨session, service⟩ ready) + 10 <
              pair.session.engine.progress.chunks := by
  refine ⟨fun outcome result after runs => ?every, fun result after ran => ?real,
    fun result? after ran => ?returns, fun service left after remote awake ran => ?unended⟩
  case every =>
    obtain ⟨settled, claimed⟩ := runs.settled (bus.nextFree fits) hub.founded
    exact ⟨settled, claimed, runs.returns⟩
  case real =>
    rcases ran with alone | ⟨messages, hangUp, remote, spoken⟩ | ⟨service, left, remote, served⟩
    · exact (Session.run_comes alone).runs
    · exact (Session.runPreloaded_comes spoken).runs
    · exact Session.runWith_outcome remote served
  case returns =>
    have comes : Session.Comes config role path allocator before result? after := by
      rcases ran with alone | ⟨messages, hangUp, remote, spoken⟩
      · exact Session.run_comes alone
      · exact Session.runPreloaded_comes spoken
    refine ⟨comes, ?_⟩
    cases result? with
    | some result => exact .inl rfl
    | none => exact .inr comes.pends
  case unended => exact Session.runWith_unended remote awake ran

/-- A session next to another one, against a remote that confirms one chunk and falls silent. -/
theorem session_gives_back_small :
    ∃ before remote after outcome result,
      before.bus.liveFrames = 1 ∧ before.hub.claimed = [⟨9, 9⟩] ∧
        (Session.runPreloaded ⟨1, 0, 2, .atMost ⟨20⟩⟩ .sender "zero" .bus [.readDone 2] false).run
          before = ((some result, remote), after) ∧
        Session.Runs ⟨1, 0, 2, .atMost ⟨20⟩⟩ .sender "zero" .bus before outcome result after ∧
        result = .error ⟨.channel (.timeout ⟨20⟩), ⟨.sender, .failed, ⟨2, 1⟩⟩⟩ ∧
        before.Settled after outcome.links ∧ result = outcome.result .sender := by
  let files : FileTree := { FileTree.empty with nodes := [(["zero"], .zeroDevice)] }
  let held := (RelayBuffer.acquire .bus 1).run (.fresh 0 Bus.defaultBase files)
  let link : Hub :=
    { Hub.empty with
      links := #[.fresh ⟨9, 9⟩], holders := [0], claimed := [⟨9, 9⟩], opened := 1 }
  have opened : Hub.empty.openLink ⟨9, 9⟩ = .ok (0, { link with parked := [0] }) := rfl
  let before : Host := { held.2 with hub := link }
  have bus : before.bus.History Bus.defaultBase (0 + roundToPage 1) :=
    .allocated (.opened .fresh)
      (rfl : BusHandle.fresh.alloc (Bus.withBase Bus.defaultBase).openHandle 1 = .ok _)
  have hub : before.hub.History := .accepted (.opened .empty opened) rfl
  let config : SessionConfig := ⟨1, 0, 2, .atMost ⟨20⟩⟩
  have returned :
      ((Session.runPreloaded config .sender "zero" .bus [.readDone 2] false).run before).1.1 =
        some (.error ⟨.channel (.timeout ⟨20⟩), ⟨.sender, .failed, ⟨2, 1⟩⟩⟩) := by
    decide +kernel
  have fits : 0 + roundToPage 1 < 2 ^ 64 := by decide
  obtain ⟨every, real, _⟩ := session_gives_back bus fits hub config .sender "zero" .bus
  rcases ran : (Session.runPreloaded config .sender "zero" .bus [.readDone 2] false).run before with
    ⟨⟨result?, remote⟩, after⟩
  rw [ran] at returned
  cases returned
  obtain ⟨outcome, runs⟩ := real _ _ (.inr (.inl ⟨_, _, _, ran⟩))
  obtain ⟨settled, _, same, _⟩ := every _ _ _ runs
  exact ⟨before, remote, after, outcome, _, rfl, rfl, ran, runs, rfl, settled, same⟩

end ChunkRelay
