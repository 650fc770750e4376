import ChunkRelay.Proofs.Socket.Dialing

/-! Sessions in a socket directory. Whoever dials an endpoint and port locks a file
of their own until the transport is closed or dropped, so it is just the pairs of
open transports that are busy. -/

set_option autoImplicit false

namespace ChunkRelay

/-!
## Callers
-/

/-- A transport that was opened for an endpoint and port, and what became of it. -/
structure Caller where
  id : ChannelId
  /-- Nothing once it was dropped. -/
  transport : Option Transport
  /-- The transport was neither closed nor dropped. -/
  live : Bool

/-- What is done in a socket directory. Those who dialed are known by their place in line. -/
inductive Deed where
  | dial (id : ChannelId)
  | close (index : Nat)
  | drop (index : Nat)
  | listen (endpoint : UInt32)
  | unlisten (listener : Nat)
deriving DecidableEq, Repr

def Deed.run (directory : String) (callers : List Caller) : Deed → HostM (List Caller)
  | .dial id => do
    match ← (Connector.viaSockets directory).openFor id with
    | .error _ => return callers
    | .ok transport => return callers ++ [⟨id, some transport, true⟩]
  | .close index =>
    match callers[index]? with
    | some ⟨id, some transport, _⟩ => do
      return callers.set index ⟨id, some (← transport.close), false⟩
    | _ => return callers
  | .drop index =>
    match callers[index]? with
    | some ⟨id, some transport, _⟩ => do
      transport.drop
      return callers.set index ⟨id, none, false⟩
    | _ => return callers
  | .listen endpoint => do
    let _ ← listenAt directory endpoint
    return callers
  | .unlisten listener => do
    stopListening listener
    return callers

def Deed.runAll (directory : String) (callers : List Caller) : List Deed → HostM (List Caller)
  | [] => return callers
  | deed :: rest => do Deed.runAll directory (← deed.run directory callers) rest

/-- A transport for that endpoint and port is still open. -/
def Engaged (callers : List Caller) (id : ChannelId) : Prop :=
  ∃ caller ∈ callers, caller.live = true ∧ caller.id = id

theorem engaged_iff {callers : List Caller} {id : ChannelId} :
    Engaged callers id ↔ (id, true) ∈ callers.map fun caller => (caller.id, caller.live) := by
  simp only [Engaged, List.mem_map, Prod.mk.injEq, and_comm]

/-!
## Lock files
-/

/-- A directory in which no two endpoints and ports have one lock file. -/
structure SocketDirectory (directory : String) (place : Location) (tree : FileTree) : Prop where
  found : tree.find directory = .ok (place, .directory)
  /-- Every file that has a name has contents. -/
  grounded {location : Location} {index : Nat} : tree.node? location = some (.file index) →
    index < tree.contents.size
  single {one other : ChannelId} {node : Node} : node.Lockable →
    tree.node? (place ++ [lockName one]) = some node →
      tree.node? (place ++ [lockName other]) = some node → one = other

/-- No lock file of the directory is among these files. -/
def Aloof (place : Location) (tree : FileTree) (outside : List Node) : Prop :=
  ∀ node ∈ outside, (∀ id, tree.node? (place ++ [lockName id]) ≠ some node) ∧
    ∀ index, node = .file index → index < tree.contents.size

/-- What opening a lock file leaves. -/
structure LockOpened (directory : String) (place : Location) (id : ChannelId) (tree : FileTree)
    (node : Node) (later : FileTree) : Prop where
  ready : SocketDirectory directory place later
  grown : tree.Extends later
  lockable : node.Lockable
  leads : later.Leads (lockPath directory id) (place ++ [lockName id])
  stands : later.node? (place ++ [lockName id]) = some node
  elsewhere {location : Location} : location ≠ place ++ [lockName id] →
    later.node? location = tree.node? location
  was : tree.node? (place ++ [lockName id]) = some node ∨
    tree.node? (place ++ [lockName id]) = none ∧ node = .file tree.contents.size
  size : tree.contents.size ≤ later.contents.size

section Ready

variable {directory : String} {place : Location} {tree later : FileTree} {id : ChannelId}
  {node : Node} {outside : List Node}

theorem SocketDirectory.spares (ready : SocketDirectory directory place tree)
    (spares : tree.Spares place later) : SocketDirectory directory place later where
  found := spares.grown.find_directory ready.found
  grounded present := by
    rw [spares.contents]
    exact ready.grounded (spares.files present)
  single lockable one other := by
    rw [spares.locks] at one other
    exact ready.single lockable one other

theorem Aloof.spares (aloof : Aloof place tree outside) (spares : tree.Spares place later) :
    Aloof place later outside := by
  intro node member
  obtain ⟨elsewhere, present⟩ := aloof node member
  refine ⟨fun id => ?_, fun index same => ?_⟩
  · rw [spares.locks]
    exact elsewhere id
  · rw [spares.contents]
    exact present index same

theorem lock_inj {place : Location} {one other : ChannelId}
    (same : place ++ [lockName one] = place ++ [lockName other]) : one = other :=
  lockName_injective (List.singleton_injective (List.append_cancel_left same))

/-- A new lock file is in nobody's way. -/
theorem SocketDirectory.made (ready : SocketDirectory directory place tree)
    (free : tree.node? (place ++ [lockName id]) = none)
    (leads : tree.Leads (lockPath directory id) (place ++ [lockName id])) :
    LockOpened directory place id tree (.file tree.contents.size)
      (tree.addFile (place ++ [lockName id])).2 := by
  have grown := FileTree.extends_addFile free
  have stands : ∀ other, (tree.addFile (place ++ [lockName id])).2.node? other =
      if other = place ++ [lockName id] then some (.file tree.contents.size)
      else tree.node? other := fun _ => FileTree.node?_addFile free
  have unused : ∀ location, tree.node? location ≠ some (.file tree.contents.size) :=
    fun location present => Nat.lt_irrefl _ (ready.grounded present)
  have size : (tree.addFile (place ++ [lockName id])).2.contents.size = tree.contents.size + 1 :=
    Array.size_push _
  refine ⟨⟨grown.find_directory ready.found, ?grounded, ?single⟩, grown, ⟨by simp, by simp⟩,
    leads.extend grown, ?stands, ?elsewhere, .inr ⟨free, rfl⟩, ?size⟩
  case grounded =>
    intro location index present
    rw [size]
    rw [stands] at present
    split at present
    · cases present
      exact Nat.lt_succ_self _
    · exact Nat.lt_succ_of_lt (ready.grounded present)
  case single =>
    intro one other node lockable first second
    rw [stands] at first second
    split at first
    · next here =>
      cases first
      split at second
      · next also => exact (lock_inj here).trans (lock_inj also).symm
      · exact absurd second (unused _)
    · split at second
      · cases second
        exact absurd first (unused _)
      · exact ready.single lockable first second
  case stands => rw [stands, if_pos rfl]
  case elsewhere =>
    intro location other
    rw [stands, if_neg other]
  case size =>
    rw [size]
    exact Nat.le_succ _

theorem SocketDirectory.opened (ready : SocketDirectory directory place tree)
    (opened : tree.openOrCreate (lockPath directory id) = .ok (node, later)) :
    LockOpened directory place id tree node later := by
  obtain ⟨location, leads, new | ⟨present, plain, bound, rfl⟩⟩ := FileTree.openOrCreate_inv opened
  all_goals
    have same := leads.joined ready.found (plainName_lockName id)
    subst same
  · obtain ⟨free, rfl, rfl⟩ := new
    exact ready.made free leads
  · exact ⟨ready, ⟨rfl, fun present => present⟩, ⟨plain, bound⟩, leads, present, fun _ => rfl,
      .inl present, Nat.le_refl _⟩

theorem LockOpened.kept (opened : LockOpened directory place id tree node later)
    {location : Location} {held : Node} (present : tree.node? location = some held) :
    later.node? location = some held := by
  by_cases here : location = place ++ [lockName id]
  · subst here
    rcases opened.was with same | ⟨free, _⟩
    · rw [opened.stands, ← same, present]
    · rw [free] at present
      cases present
  · rw [opened.elsewhere here, present]

theorem LockOpened.born (opened : LockOpened directory place id tree node later)
    {location : Location} {held : Node} (present : later.node? location = some held) :
    tree.node? location = some held ∨ held = .file tree.contents.size := by
  by_cases here : location = place ++ [lockName id]
  · subst here
    rw [opened.stands] at present
    cases present
    exact opened.was.imp_right And.right
  · rw [opened.elsewhere here] at present
    exact .inl present

theorem LockOpened.aloof (opened : LockOpened directory place id tree node later)
    (aloof : Aloof place tree outside) : Aloof place later outside := by
  intro held member
  obtain ⟨elsewhere, present⟩ := aloof held member
  refine ⟨fun other stands => ?_, fun index same => ?_⟩
  · rcases opened.born stands with old | same
    · exact elsewhere other old
    · exact Nat.lt_irrefl _ (present _ same)
  · exact Nat.lt_of_lt_of_le (present index same) opened.size

end Ready

/-!
## Who holds a lock
-/

/-- A transport that holds the lock file of its endpoint and port. -/
structure Caller.Holds (caller : Caller) (directory : String) (place : Location) (tree : FileTree)
    (node : Node) : Prop where
  transport : ∃ stream, caller.transport =
    some (.socket ⟨stream, caller.id.port, some ⟨node, lockPath directory caller.id⟩⟩)
  lockable : node.Lockable
  leads : tree.Leads (lockPath directory caller.id) (place ++ [lockName caller.id])
  stands : tree.node? (place ++ [lockName caller.id]) = some node

/-- Nothing is left of a transport, or only what is left of a closed one. -/
def Caller.Left (caller : Caller) : Prop :=
  caller.transport = none ∨ ∃ port, caller.transport = some (.socket ⟨none, port, none⟩)

/-- The locks are those from outside and one for each transport that is open. -/
structure Attended (directory : String) (place : Location) (outside : List Node)
    (callers : List Caller) (host : Host) : Prop where
  ready : SocketDirectory directory place host.files
  aloof : Aloof place host.files outside
  held {caller : Caller} : caller ∈ callers → caller.live = true →
    ∃ node, caller.Holds directory place host.files node
  left {caller : Caller} : caller ∈ callers → caller.live = false → caller.Left
  once {index other : Nat} {one another : Caller} : callers[index]? = some one →
    callers[other]? = some another → one.live = true → another.live = true →
      one.id = another.id → index = other
  locks : ∃ claims, host.locked = claims ++ outside ∧ claims.Nodup ∧ ∀ node, node ∈ claims ↔
    ∃ caller ∈ callers, caller.live = true ∧
      host.files.node? (place ++ [lockName caller.id]) = some node

section Attending

variable {directory : String} {place : Location} {outside : List Node} {callers : List Caller}
  {host after : Host} {id : ChannelId} {node : Node} {files : FileTree}

theorem Attended.spares (attended : Attended directory place outside callers host)
    (spares : host.files.Spares place after.files) (locked : after.locked = host.locked) :
    Attended directory place outside callers after where
  ready := attended.ready.spares spares
  aloof := attended.aloof.spares spares
  held member live := by
    obtain ⟨node, transport, lockable, leads, stands⟩ := attended.held member live
    exact ⟨node, transport, lockable, leads.extend spares.grown, (spares.locks _).trans stands⟩
  left := attended.left
  once := attended.once
  locks := by
    rw [locked]
    simpa only [spares.locks] using attended.locks

/-- A lock file that was opened but not locked changes nothing. -/
theorem Attended.opened (attended : Attended directory place outside callers host)
    (opened : LockOpened directory place id host.files node after.files)
    (locked : after.locked = host.locked) : Attended directory place outside callers after where
  ready := opened.ready
  aloof := opened.aloof attended.aloof
  held member live := by
    obtain ⟨node, transport, lockable, leads, stands⟩ := attended.held member live
    exact ⟨node, transport, lockable, leads.extend opened.grown, opened.kept stands⟩
  left := attended.left
  once := attended.once
  locks := by
    obtain ⟨claims, whole, single, claimed⟩ := attended.locks
    refine ⟨claims, locked.trans whole, single, fun held => (claimed held).trans ?_⟩
    constructor
    · rintro ⟨caller, member, live, stands⟩
      exact ⟨caller, member, live, opened.kept stands⟩
    · rintro ⟨caller, member, live, stands⟩
      obtain ⟨own, holds⟩ := attended.held member live
      have same := opened.kept holds.stands
      rw [stands] at same
      cases same
      exact ⟨caller, member, live, holds.stands⟩

/-- A lock file is locked just if a transport for its endpoint and port is open. -/
theorem Attended.locked_iff (attended : Attended directory place outside callers host)
    (opened : LockOpened directory place id host.files node files) :
    node ∈ host.locked ↔ Engaged callers id := by
  obtain ⟨claims, whole, _, claimed⟩ := attended.locks
  rw [whole, List.mem_append]
  constructor
  · rintro (claim | outer)
    · obtain ⟨caller, member, live, stands⟩ := (claimed node).mp claim
      exact ⟨caller, member, live,
        (opened.ready.single opened.lockable opened.stands (opened.kept stands)).symm⟩
    · exact absurd opened.stands ((opened.aloof attended.aloof node outer).1 id)
  · rintro ⟨caller, member, live, rfl⟩
    obtain ⟨own, holds⟩ := attended.held member live
    have same := opened.kept holds.stands
    rw [opened.stands] at same
    cases same
    exact .inl ((claimed node).mpr ⟨caller, member, live, holds.stands⟩)

/-- A new lock goes with a new transport. -/
theorem Attended.join (attended : Attended directory place outside callers host) {caller : Caller}
    (live : caller.live = true) (holds : caller.Holds directory place host.files node)
    (free : ¬ Engaged callers caller.id) (unlocked : node ∉ host.locked)
    (files : after.files = host.files) (locked : after.locked = node :: host.locked) :
    Attended directory place outside (callers ++ [caller]) after where
  ready := files ▸ attended.ready
  aloof := files ▸ attended.aloof
  held {other} member living := by
    rw [files]
    rcases List.mem_append.mp member with older | last
    · exact attended.held older living
    · rw [List.mem_singleton.mp last]
      exact ⟨node, holds⟩
  left {other} member ended := by
    rcases List.mem_append.mp member with older | last
    · exact attended.left older ended
    · rw [List.mem_singleton.mp last, live] at ended
      cases ended
  once {index other one another} here there living also same := by
    have engages : ∀ {place : Nat} {old : Caller}, callers[place]? = some old → old.live = true →
        old.id ≠ caller.id := fun found living same =>
      free ⟨_, List.mem_of_getElem? found, living, same⟩
    rcases found_in_concat here with ⟨_, older⟩ | ⟨rfl, rfl⟩
    · rcases found_in_concat there with ⟨_, other⟩ | ⟨rfl, rfl⟩
      · exact attended.once older other living also same
      · exact absurd same (engages older living)
    · rcases found_in_concat there with ⟨_, other⟩ | ⟨rfl, rfl⟩
      · exact absurd same.symm (engages other also)
      · rfl
  locks := by
    obtain ⟨claims, whole, single, claimed⟩ := attended.locks
    rw [whole, List.mem_append, not_or] at unlocked
    refine ⟨node :: claims, by rw [locked, whole, List.cons_append],
      List.nodup_cons.mpr ⟨unlocked.1, single⟩, fun held => ?_⟩
    rw [files, List.mem_cons, claimed]
    constructor
    · rintro (rfl | ⟨other, member, living, stands⟩)
      · exact ⟨caller, List.mem_append_right _ (List.mem_singleton_self _), live, holds.stands⟩
      · exact ⟨other, List.mem_append_left _ member, living, stands⟩
    · rintro ⟨other, member, living, stands⟩
      rcases List.mem_append.mp member with older | last
      · exact .inr ⟨other, older, living, stands⟩
      · rw [List.mem_singleton.mp last, holds.stands] at stands
        cases stands
        exact .inl rfl

/-- The transports that stay open while one of the callers has ended. -/
theorem live_set {next : Caller} (ended : next.live = false) (index : Nat)
    (property : Caller → Prop) :
    (∃ caller ∈ callers.set index next, caller.live = true ∧ property caller) ↔
      ∃ (other : Nat) (caller : Caller), other ≠ index ∧ callers[other]? = some caller ∧
        caller.live = true ∧ property caller := by
  constructor
  · rintro ⟨caller, member, live, holds⟩
    obtain ⟨other, found⟩ := List.mem_iff_getElem?.mp member
    rcases found_in_set found with ⟨_, rfl⟩ | ⟨apart, found⟩
    · rw [ended] at live
      cases live
    · exact ⟨other, caller, apart, found, live, holds⟩
  · rintro ⟨other, caller, apart, found, live, holds⟩
    refine ⟨caller, List.mem_of_getElem? (i := other) ?_, live, holds⟩
    rw [List.getElem?_set_ne (Ne.symm apart)]
    exact found

/-- A transport that ends gives its lock up, if it still had one, and no other. -/
theorem Attended.leave (attended : Attended directory place outside callers host) {index : Nat}
    {caller next : Caller} (found : callers[index]? = some caller) (ended : next.live = false)
    (left : next.Left) (files : after.files = host.files)
    (locked : if caller.live then
        ∃ node, caller.Holds directory place host.files node ∧
          after.locked = host.locked.erase node
      else after.locked = host.locked) :
    Attended directory place outside (callers.set index next) after where
  ready := files ▸ attended.ready
  aloof := files ▸ attended.aloof
  held {other} member live := by
    rw [files]
    rcases List.mem_or_eq_of_mem_set member with older | rfl
    · exact attended.held older live
    · rw [ended] at live
      cases live
  left {other} member dead := by
    rcases List.mem_or_eq_of_mem_set member with older | rfl
    · exact attended.left older dead
    · exact left
  once {one other first second} here there live also same := by
    rcases found_in_set here with ⟨_, rfl⟩ | ⟨_, here⟩
    · rw [ended] at live
      cases live
    · rcases found_in_set there with ⟨_, rfl⟩ | ⟨_, there⟩
      · rw [ended] at also
        cases also
      · exact attended.once here there live also same
  locks := by
    obtain ⟨claims, whole, single, claimed⟩ := attended.locks
    simp only [live_set ended, files]
    cases live : caller.live with
    | false =>
      rw [live] at locked
      refine ⟨claims, Eq.trans locked whole, single, fun held => (claimed held).trans ?_⟩
      constructor
      · rintro ⟨other, member, living, stands⟩
        obtain ⟨place, there⟩ := List.mem_iff_getElem?.mp member
        refine ⟨place, other, ?_, there, living, stands⟩
        rintro rfl
        rw [found] at there
        cases there
        rw [live] at living
        cases living
      · rintro ⟨_, other, _, there, living, stands⟩
        exact ⟨other, List.mem_of_getElem? there, living, stands⟩
    | true =>
      rw [live] at locked
      obtain ⟨node, holds, locked⟩ := locked
      have member := List.mem_of_getElem? found
      have claim : node ∈ claims := (claimed node).mpr ⟨caller, member, live, holds.stands⟩
      refine ⟨claims.erase node, ?_, single.erase node, fun held => ?_⟩
      · rw [locked, whole, List.erase_append_left _ claim]
      · rw [single.mem_erase_iff, claimed]
        constructor
        · rintro ⟨apart, other, member, living, stands⟩
          obtain ⟨place, there⟩ := List.mem_iff_getElem?.mp member
          refine ⟨place, other, ?_, there, living, stands⟩
          rintro rfl
          rw [found] at there
          cases there
          rw [holds.stands] at stands
          cases stands
          exact apart rfl
        · rintro ⟨place, other, apart, there, living, stands⟩
          refine ⟨?_, other, List.mem_of_getElem? there, living, stands⟩
          rintro rfl
          exact apart (attended.once there found living live
            (attended.ready.single holds.lockable stands holds.stands))

/-- Closing and dropping what a caller has left do the same, and leave a closed socket at most. -/
theorem Attended.ends (attended : Attended directory place outside callers host) {caller : Caller}
    (member : caller ∈ callers) {transport : Transport}
    (has : caller.transport = some transport) :
    ∃ port later, transport.close.run host = (.socket ⟨none, port, none⟩, later) ∧
      transport.drop.run host = ((), later) ∧ later.files = host.files ∧
      if caller.live then
        ∃ node, caller.Holds directory place host.files node ∧
          later.locked = host.locked.erase node
      else later.locked = host.locked := by
  cases live : caller.live with
  | false =>
    rcases attended.left member live with none | ⟨port, closed⟩
    · rw [none] at has
      cases has
    · rw [closed] at has
      cases has
      obtain ⟨later, close, drop, files, locked⟩ :=
        SocketTransport.close_run ⟨none, port, none⟩ host
      exact ⟨port, later, close, drop, files, locked⟩
  | true =>
    obtain ⟨node, holds⟩ := attended.held member live
    obtain ⟨stream, opened⟩ := holds.transport
    rw [opened] at has
    cases has
    obtain ⟨later, close, drop, files, locked⟩ := SocketTransport.close_run
      ⟨stream, caller.id.port, some ⟨node, lockPath directory caller.id⟩⟩ host
    exact ⟨caller.id.port, later, close, drop, files, node, holds, locked⟩

theorem Attended.dial (attended : Attended directory place outside callers host)
    (id : ChannelId) :
    Attended directory place outside (((Deed.dial id).run directory callers).run host).1
      (((Deed.dial id).run directory callers).run host).2 := by
  have dialed := openSocket_dialed directory id host
  rcases ran : (Connector.openSocket directory id).run host with ⟨result, after⟩
  rw [ran] at dialed
  rw [Deed.run, Connector.openFor, HostM.run_bind_eq ran]
  cases dialed with
  | unopened => exact attended
  | busy opens held files locked =>
    exact attended.opened (files ▸ attended.ready.opened opens) locked
  | refused opens free refused files locked =>
    exact attended.opened (files ▸ attended.ready.opened opens) locked
  | @connected node made listener wire after opens free listening files locked =>
    have opened := attended.ready.opened opens
    have made : Attended directory place outside callers { host with files := after.files } :=
      attended.opened (files ▸ opened) rfl
    have holds : (⟨id, some (.socket ⟨some (wire, .near), id.port,
        some ⟨node, lockPath directory id⟩⟩), true⟩ : Caller).Holds directory place after.files
          node := by
      rw [files]
      exact ⟨⟨_, rfl⟩, opened.lockable, opened.leads, opened.stands⟩
    exact made.join rfl holds (mt (attended.locked_iff opened).mpr free) free rfl locked

theorem Attended.run (attended : Attended directory place outside callers host) (deed : Deed) :
    Attended directory place outside ((deed.run directory callers).run host).1
      ((deed.run directory callers).run host).2 := by
  cases deed with
  | dial id => exact attended.dial id
  | close index =>
    rw [Deed.run]
    split
    · next id transport live found =>
      obtain ⟨port, later, close, _, files, locked⟩ :=
        attended.ends (List.mem_of_getElem? found) rfl
      rw [HostM.run_bind_eq close]
      exact attended.leave found rfl (.inr ⟨port, rfl⟩) files locked
    · exact attended
  | drop index =>
    rw [Deed.run]
    split
    · next id transport live found =>
      obtain ⟨port, later, _, drop, files, locked⟩ :=
        attended.ends (List.mem_of_getElem? found) rfl
      rw [HostM.run_bind_eq drop]
      exact attended.leave found rfl (.inl rfl) files locked
    · exact attended
  | listen endpoint =>
    obtain ⟨spares, locked⟩ := listenAt_spares attended.ready.found endpoint
    exact attended.spares spares locked
  | unlisten listener =>
    obtain ⟨files, locked⟩ := stopListening_run listener host
    refine attended.spares ?_ locked
    change host.files.Spares place ((stopListening listener).run host).2.files
    rw [files]
    exact .refl _ place

theorem Attended.runAll (attended : Attended directory place outside callers host)
    (deeds : List Deed) :
    Attended directory place outside ((Deed.runAll directory callers deeds).run host).1
      ((Deed.runAll directory callers deeds).run host).2 := by
  induction deeds generalizing callers host with
  | nil => exact attended
  | cons deed rest ih => exact ih (attended.run deed)

theorem Attended.busy_iff (attended : Attended directory place outside callers host)
    (id : ChannelId) :
    (((Connector.viaSockets directory).openFor id).run host).1 =
      .error (.busy id.endpoint id.port) ↔ Engaged callers id := by
  have dialed := openSocket_dialed directory id host
  rw [Connector.openFor]
  generalize (Connector.openSocket directory id).run host = ran at dialed
  obtain ⟨result, after⟩ := ran
  dsimp only at dialed ⊢
  cases dialed with
  | unopened failed =>
    refine iff_of_false (by simp) ?_
    rintro ⟨caller, member, live, rfl⟩
    obtain ⟨node, holds⟩ := attended.held member live
    rw [FileTree.openOrCreate_present holds.leads holds.stands holds.lockable.1
      holds.lockable.2] at failed
    cases failed
  | busy opens held =>
    exact iff_of_true rfl ((attended.locked_iff (attended.ready.opened opens)).mp held)
  | refused opens free =>
    exact iff_of_false (by simp) (mt (attended.locked_iff (attended.ready.opened opens)).mpr free)
  | connected opens free =>
    exact iff_of_false (by simp) (mt (attended.locked_iff (attended.ready.opened opens)).mpr free)

/-- Dialing that fails leaves the locks, and whoever is busy, as they were; it fails if nobody
listens. -/
theorem Attended.fails (attended : Attended directory place outside callers host)
    (id : ChannelId) :
    let dialed := ((Connector.viaSockets directory).openFor id).run host
    (∀ error, dialed.1 = .error error → dialed.2.locked = host.locked ∧
        (error = .busy id.endpoint id.port ∨ ∃ cause, error = .io cause) ∧
        ∀ other, (((Connector.viaSockets directory).openFor other).run dialed.2).1 =
          .error (.busy other.endpoint other.port) ↔ Engaged callers other) ∧
      ∀ cause, listenerAt (socketPath directory id.endpoint) host = .error cause →
        ∃ error, dialed.1 = .error error := by
  have dialed := openSocket_dialed directory id host
  have next := attended.dial id
  rcases ran : (Connector.openSocket directory id).run host with ⟨result, after⟩
  rw [ran] at dialed
  rw [Deed.run, Connector.openFor, HostM.run_bind_eq ran] at next
  rw [Connector.openFor, ran]
  cases dialed with
  | unopened =>
    refine ⟨?_, fun _ _ => ⟨_, rfl⟩⟩
    rintro error ⟨⟩
    exact ⟨rfl, .inr ⟨_, rfl⟩, next.busy_iff⟩
  | busy opens held files locked =>
    refine ⟨?_, fun _ _ => ⟨_, rfl⟩⟩
    rintro error ⟨⟩
    exact ⟨locked, .inl rfl, next.busy_iff⟩
  | refused opens free refused files locked =>
    refine ⟨?_, fun _ _ => ⟨_, rfl⟩⟩
    rintro error ⟨⟩
    exact ⟨locked, .inr ⟨_, rfl⟩, next.busy_iff⟩
  | connected opens free listening =>
    have opened := attended.ready.opened opens
    refine ⟨?_, fun cause refused => ?_⟩
    · rintro error ⟨⟩
    have other := (FileTree.lock_ne_socket place id id.endpoint).symm
    have same := FileTree.find_joinPath_congr attended.ready.found opened.grown
      (plainName_socketName id.endpoint) (opened.elsewhere other)
    cases refused.symm.trans ((listenerAt_congr host same).symm.trans listening)

/-- A transport that is closed gives just its own lock up, and just its own endpoint and port are
no longer busy. -/
theorem Attended.frees (attended : Attended directory place outside callers host) {caller : Caller}
    (member : caller ∈ callers) (live : caller.live = true) :
    ∃ transport closed later node, caller.transport = some transport ∧
      transport.close.run host = (closed, later) ∧ transport.drop.run host = ((), later) ∧
      host.files.node? (place ++ [lockName caller.id]) = some node ∧
      host.locked.Perm (node :: later.locked) ∧ node ∉ later.locked ∧
      (∀ id, (((Connector.viaSockets directory).openFor id).run later).1 =
          .error (.busy id.endpoint id.port) ↔ id ≠ caller.id ∧ Engaged callers id) ∧
      ∀ later, closed.close.run later = (closed, later) ∧ closed.drop.run later = ((), later) := by
  obtain ⟨index, found⟩ := List.mem_iff_getElem?.mp member
  obtain ⟨own, holds⟩ := attended.held member live
  obtain ⟨stream, has⟩ := holds.transport
  obtain ⟨port, later, close, drop, files, locked⟩ := attended.ends member has
  have remains : Attended directory place outside (callers.set index ⟨caller.id, none, false⟩)
      later := attended.leave found rfl (.inl rfl) files locked
  rw [live] at locked
  obtain ⟨node, held, locked⟩ := locked
  obtain ⟨claims, whole, single, claimed⟩ := attended.locks
  have claim : node ∈ claims := (claimed node).mpr ⟨caller, member, live, held.stands⟩
  have mine : node ∈ host.locked := by
    rw [whole]
    exact List.mem_append_left _ claim
  refine ⟨_, _, later, node, has, close, drop, held.stands, ?perm, ?gone, fun id => ?idle,
    fun _ => ⟨rfl, rfl⟩⟩
  case perm =>
    rw [locked]
    exact List.perm_cons_erase mine
  case gone =>
    rw [locked, whole, List.erase_append_left _ claim, List.mem_append, not_or]
    exact ⟨single.not_mem_erase, fun outer => (attended.aloof node outer).1 _ held.stands⟩
  case idle =>
    rw [remains.busy_iff id, Engaged, live_set rfl]
    constructor
    · rintro ⟨other, another, apart, there, living, rfl⟩
      exact ⟨fun same => apart (attended.once there found living live same), another,
        List.mem_of_getElem? there, living, rfl⟩
    · rintro ⟨apart, another, also, living, rfl⟩
      obtain ⟨other, there⟩ := List.mem_iff_getElem?.mp also
      refine ⟨other, another, ?_, there, living, rfl⟩
      rintro rfl
      rw [found] at there
      cases there
      exact apart rfl

end Attending

theorem Attended.empty {directory : String} {place : Location} {host : Host}
    (ready : SocketDirectory directory place host.files)
    (aloof : Aloof place host.files host.locked) :
    Attended directory place host.locked [] host where
  ready := ready
  aloof := aloof
  held member := by cases member
  left member := by cases member
  once found := by cases found
  locks := ⟨[], rfl, .nil, by simp⟩

/-- In a socket directory whose lock files nobody else holds, whatever was dialed, closed, dropped
and listened to before: at most one transport is open for an endpoint and port, the locks are
those of the open transports, and dialing is busy just for these. Dialing fails if nobody listens,
and when it fails it leaves the locks as they were. Closing or dropping a transport gives up its lock
and no other, and a closed one has nothing more to give up. -/
theorem sessions_exclusive {directory : String} {place : Location} {before after : Host}
    {deeds : List Deed} {callers : List Caller}
    (ready : SocketDirectory directory place before.files)
    (aloof : Aloof place before.files before.locked)
    (ran : (Deed.runAll directory [] deeds).run before = (callers, after)) :
    (∀ {index other : Nat} {one another : Caller}, callers[index]? = some one →
        callers[other]? = some another → one.live = true → another.live = true →
          one.id = another.id → index = other) ∧
      (∃ claims, after.locked = claims ++ before.locked ∧ claims.Nodup ∧ ∀ node, node ∈ claims ↔
        ∃ caller ∈ callers, caller.live = true ∧
          after.files.node? (place ++ [lockName caller.id]) = some node) ∧
      (∀ id, (((Connector.viaSockets directory).openFor id).run after).1 =
        .error (.busy id.endpoint id.port) ↔ Engaged callers id) ∧
      (∀ id, let dialed := ((Connector.viaSockets directory).openFor id).run after
        (∀ error, dialed.1 = .error error → dialed.2.locked = after.locked ∧
            (error = .busy id.endpoint id.port ∨ ∃ cause, error = .io cause) ∧
            ∀ other, (((Connector.viaSockets directory).openFor other).run dialed.2).1 =
              .error (.busy other.endpoint other.port) ↔ Engaged callers other) ∧
          ∀ cause, listenerAt (socketPath directory id.endpoint) after = .error cause →
            ∃ error, dialed.1 = .error error) ∧
      (∀ caller ∈ callers, caller.live = true →
        ∃ transport closed later node, caller.transport = some transport ∧
          transport.close.run after = (closed, later) ∧ transport.drop.run after = ((), later) ∧
          after.files.node? (place ++ [lockName caller.id]) = some node ∧
          after.locked.Perm (node :: later.locked) ∧ node ∉ later.locked ∧
          (∀ id, (((Connector.viaSockets directory).openFor id).run later).1 =
              .error (.busy id.endpoint id.port) ↔ id ≠ caller.id ∧ Engaged callers id) ∧
          ∀ host, closed.close.run host = (closed, host) ∧ closed.drop.run host = ((), host)) ∧
      (∀ one other, lockPath directory one = lockPath directory other → one = other) ∧
      ∀ id endpoint, lockPath directory id ≠ socketPath directory endpoint := by
  have attended := (Attended.empty ready aloof).runAll deeds
  rw [ran] at attended
  have named : directory ≠ "" := by
    rintro rfl
    cases ready.found
  refine ⟨attended.once, attended.locks, attended.busy_iff, attended.fails,
    fun caller => attended.frees, fun one other same => ?_, fun id endpoint same => ?_⟩
  · exact lockName_injective
      (joinPath_injective named (plainName_lockName one) (plainName_lockName other) same)
  · exact lockName_ne_socketName id endpoint
      (joinPath_injective named (plainName_lockName id) (plainName_socketName endpoint) same)

/-- One caller holds its port while another has closed its own, and nobody got through to an endpoint
that does not listen. -/
theorem sessions_exclusive_small :
    let host := Host.fresh 1 0 ⟨[(["d"], .directory)], #[], []⟩
    let deeds : List Deed :=
      [.listen 9, .dial ⟨9, 3⟩, .dial ⟨9, 3⟩, .dial ⟨9, 4⟩, .dial ⟨8, 3⟩, .close 0]
    ∃ callers after, (Deed.runAll "/d" [] deeds).run host = (callers, after) ∧
      callers.map (fun caller => (caller.id, caller.live)) = [(⟨9, 3⟩, false), (⟨9, 4⟩, true)] ∧
      (((Connector.viaSockets "/d").openFor ⟨9, 4⟩).run after).1 = .error (.busy 9 4) ∧
      (((Connector.viaSockets "/d").openFor ⟨9, 3⟩).run after).1 ≠ .error (.busy 9 3) ∧
      lockPath "/d" ⟨9, 4⟩ ≠ socketPath "/d" 9 := by
  intro host deeds
  rcases ran : (Deed.runAll "/d" [] deeds).run host with ⟨callers, after⟩
  have line : ((Deed.runAll "/d" [] deeds).run host).1.map
      (fun caller => (caller.id, caller.live)) = [(⟨9, 3⟩, false), (⟨9, 4⟩, true)] := by
    simp only [deeds, Deed.runAll, Deed.run, Connector.openFor, Connector.openSocket, connectTo,
      listenAt, listenerAt, checkSocketPath_eq]
    decide +kernel
  rw [ran] at line
  have bare : ∀ name, host.files.node? (["d"] ++ [name]) = none := by
    simp [host, Host.fresh, FileTree.node?]
  have ready : SocketDirectory "/d" ["d"] host.files := by
    refine ⟨by decide +kernel, fun {location index} present => ?_, fun {one other node} _ present => ?_⟩
    · simp only [host, Host.fresh, FileTree.node?] at present
      split at present
      · cases present
      · rw [List.lookup_cons] at present
        split at present <;> cases present
    · rw [bare] at present
      cases present
  have aloof : Aloof ["d"] host.files host.locked := by
    intro node member
    cases member
  obtain ⟨_, _, busy, _, _, _, names⟩ := sessions_exclusive ready aloof ran
  refine ⟨callers, after, rfl, line, (busy ⟨9, 4⟩).mpr ?_, mt (busy ⟨9, 3⟩).mp ?_, names _ _⟩
  · rw [engaged_iff, line]
    decide
  · rw [engaged_iff, line]
    decide

end ChunkRelay
