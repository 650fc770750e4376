import ChunkRelay.Channel.Connector
import ChunkRelay.Proofs.Files.Directory
import ChunkRelay.Proofs.Memory.Lookup

/-! Dialing, closing and listening in a socket directory, and what they leave of
its files and locks. Only dialing makes lock files, and only it and closing have
to do with locks. -/

set_option autoImplicit false

namespace ChunkRelay

/-- A file or device, which can be opened and locked. -/
def Node.Lockable (node : Node) : Prop :=
  node ≠ .directory ∧ ∀ listener, node ≠ .socket listener

/-!
## What dialing does
-/

/-- How dialing can go, and what it leaves of the files and locks. -/
inductive Dialed (directory : String) (id : ChannelId) (host : Host) :
    Except ChannelError Transport → Host → Prop
  /-- The lock file cannot be opened. -/
  | unopened {cause : IoError} :
      host.files.openOrCreate (lockPath directory id) = .error cause →
        Dialed directory id host (.error (.io cause)) host
  | busy {node : Node} {files : FileTree} {after : Host} :
      host.files.openOrCreate (lockPath directory id) = .ok (node, files) → node ∈ host.locked →
        after.files = files → after.locked = host.locked →
          Dialed directory id host (.error (.busy id.endpoint id.port)) after
  | refused {node : Node} {files : FileTree} {cause : IoError} {after : Host} :
      host.files.openOrCreate (lockPath directory id) = .ok (node, files) → node ∉ host.locked →
        listenerAt (socketPath directory id.endpoint) { host with files } = .error cause →
          after.files = files → after.locked = host.locked →
            Dialed directory id host (.error (.io cause)) after
  | connected {node : Node} {files : FileTree} {listener wire : Nat} {after : Host} :
      host.files.openOrCreate (lockPath directory id) = .ok (node, files) → node ∉ host.locked →
        listenerAt (socketPath directory id.endpoint) { host with files } = .ok listener →
          after.files = files → after.locked = node :: host.locked →
            Dialed directory id host (.ok (.socket
              ⟨some (wire, .near), id.port, some ⟨node, lockPath directory id⟩⟩)) after

section Dialing

variable (directory : String) (id : ChannelId) (host : Host)

theorem PortClaim.acquire_error {cause : IoError}
    (unopened : host.files.openOrCreate (lockPath directory id) = .error cause) :
    (acquire directory id).run host = (.error (.io cause), host) := by
  rw [acquire, HostM.run_get_bind, unopened]
  rfl

section Opened

variable {directory id host} {node : Node} {files : FileTree}
  (opened : host.files.openOrCreate (lockPath directory id) = .ok (node, files))
include opened

theorem PortClaim.acquire_busy (held : node ∈ host.locked) :
    (acquire directory id).run host =
      (.error (.busy id.endpoint id.port), { host with files }) := by
  rw [acquire, HostM.run_get_bind, opened]
  dsimp only
  rw [if_pos held]
  rfl

theorem PortClaim.acquire_ok (free : node ∉ host.locked) :
    ∃ after, (acquire directory id).run host = (.ok ⟨node, lockPath directory id⟩, after) ∧
      after.files = files ∧ after.locked = node :: host.locked ∧
        ∀ path, listenerAt path after = listenerAt path { host with files } := by
  rw [acquire, HostM.run_get_bind, opened]
  dsimp only
  rw [if_neg free]
  exact ⟨_, rfl, rfl, rfl, fun _ => rfl⟩

end Opened

theorem connectTo_error {path : String} {cause : IoError}
    (refused : listenerAt path host = .error cause) :
    (connectTo path).run host = (.error cause, host) := by
  rw [connectTo, HostM.run_get_bind, refused]
  rfl

theorem connectTo_ok {path : String} {listener : Nat}
    (listening : listenerAt path host = .ok listener) :
    ∃ wire after, (connectTo path).run host = (.ok wire, after) ∧ after.files = host.files ∧
      after.locked = host.locked := by
  rw [connectTo, HostM.run_get_bind, listening]
  exact ⟨_, _, rfl, rfl, rfl⟩

theorem checkSocketPath_eq (path : String) :
    checkSocketPath path =
      if '\x00' ∈ path.toList then
        .error (.custom .invalidInput "paths must not contain interior null bytes")
      else if socketPathLimit ≤ path.utf8ByteSize then
        .error (.custom .invalidInput "path must be shorter than SUN_LEN")
      else .ok () := by
  have found : path.any (· = '\x00') = path.toList.any (· = '\x00') := String.contains_bool_eq
  unfold checkSocketPath
  rw [found]
  simp only [List.any_eq_true, decide_eq_true_eq, exists_eq_right]

theorem listenerAt_congr {path : String} {files : FileTree}
    (same : files.find path = host.files.find path) :
    listenerAt path { host with files } = listenerAt path host := by
  unfold listenerAt
  rw [same]

theorem openSocket_dialed :
    Dialed directory id host ((Connector.openSocket directory id).run host).1
      ((Connector.openSocket directory id).run host).2 := by
  rw [Connector.openSocket]
  cases opened : host.files.openOrCreate (lockPath directory id) with
  | error cause =>
    rw [HostM.run_bind_eq (PortClaim.acquire_error directory id host opened)]
    exact .unopened opened
  | ok made =>
    obtain ⟨node, files⟩ := made
    by_cases held : node ∈ host.locked
    · rw [HostM.run_bind_eq (PortClaim.acquire_busy opened held)]
      exact .busy opened held rfl rfl
    · obtain ⟨claimed, acquired, kept, locked, heard⟩ := PortClaim.acquire_ok opened held
      rw [HostM.run_bind_eq acquired]
      dsimp only
      cases listening : listenerAt (socketPath directory id.endpoint) { host with files } with
      | error cause =>
        rw [HostM.run_bind_eq (connectTo_error claimed ((heard _).trans listening))]
        refine .refused opened held listening kept ?_
        change claimed.locked.erase node = host.locked
        rw [locked, List.erase_cons_head]
      | ok listener =>
        obtain ⟨wire, after, connected, files, still⟩ :=
          connectTo_ok claimed ((heard _).trans listening)
        rw [HostM.run_bind_eq connected]
        exact .connected opened held listening (files.trans kept) (still.trans locked)

end Dialing

/-!
## What else happens in the directory
-/

/-- Closing and dropping a socket give up its claim. -/
theorem SocketTransport.close_run (transport : SocketTransport) (host : Host) :
    ∃ after, (Transport.socket transport).close.run host =
        (.socket { transport with stream := none, claim := none }, after) ∧
      (Transport.socket transport).drop.run host = ((), after) ∧
      after.files = host.files ∧
        after.locked = transport.claim.elim host.locked fun claim => host.locked.erase claim.node := by
  obtain ⟨_ | ⟨wire, side⟩, port, _ | claim⟩ := transport <;> exact ⟨_, rfl, rfl, rfl, rfl⟩

/-- The lock files of a directory are what they were. -/
structure FileTree.Spares (tree : FileTree) (place : Location) (later : FileTree) : Prop where
  grown : tree.Extends later
  locks (id : ChannelId) : later.node? (place ++ [lockName id]) = tree.node? (place ++ [lockName id])
  contents : later.contents = tree.contents
  files {location : Location} {index : Nat} : later.node? location = some (.file index) →
    tree.node? location = some (.file index)

namespace FileTree

theorem Spares.refl (tree : FileTree) (place : Location) : tree.Spares place tree :=
  ⟨⟨rfl, id⟩, fun _ => rfl, rfl, id⟩

theorem Spares.trans {first second third : FileTree} {place : Location}
    (spares : first.Spares place second) (still : second.Spares place third) :
    first.Spares place third where
  grown := ⟨still.grown.current.trans spares.grown.current,
    fun present => still.grown.directories (spares.grown.directories present)⟩
  locks id := (still.locks id).trans (spares.locks id)
  contents := still.contents.trans spares.contents
  files present := spares.files (still.files present)

section Sockets

variable {tree later : FileTree} {place location : Location} {directory : String} {endpoint : UInt32}

theorem lock_ne_socket (place : Location) (id : ChannelId) (endpoint : UInt32) :
    place ++ [lockName id] ≠ place ++ [socketName endpoint] := fun same =>
  lockName_ne_socketName id endpoint (List.singleton_injective (List.append_cancel_left same))

theorem spares_add (free : tree.node? (place ++ [socketName endpoint]) = none) (listener : Nat) :
    tree.Spares place (tree.add (place ++ [socketName endpoint]) (.socket listener)) where
  grown := extends_add free
  locks id := by rw [node?_add free, if_neg (lock_ne_socket place id endpoint)]
  contents := rfl
  files {other index} present := by
    rw [node?_add free] at present
    split at present
    · cases present
    · exact present

theorem spares_remove (found : tree.find directory = .ok (place, .directory))
    (removed : tree.remove (socketPath directory endpoint) = .ok later) :
    tree.Spares place later := by
  obtain ⟨location, node, there, plain, rfl⟩ := remove_inv removed
  obtain ⟨leads, present⟩ := (find_eq_ok_iff plain).mp there
  have same := leads.joined found (plainName_socketName endpoint)
  refine ⟨extends_filter present plain, fun id => node?_filter ?_, rfl, fun {other index} stands => ?_⟩
  · rw [same]
    exact lock_ne_socket place id endpoint
  · by_cases gone : other = location
    · rw [gone, same, node?_filter_self (by simp)] at stands
      cases stands
    · rwa [node?_filter gone] at stands

end Sockets

end FileTree

/-- What listening does once the name of the socket is free. -/
def bindAt (path : String) : HostM (Except IoError Nat) := do
  let host ← get
  let location : Except IoError Location := do
    checkSocketPath path
    let location ← host.files.creatable path
    if (host.files.node? location).isSome then throw (.os 98)
    return location
  match location with
  | .error cause => return .error cause
  | .ok location =>
    set { host with
      files := host.files.add location (.socket host.listeners.size)
      listeners := host.listeners.push { live := true, waiting := [] } }
    return .ok host.listeners.size

section Listening

variable {directory : String} {place : Location} {host : Host}
  (found : host.files.find directory = .ok (place, .directory)) (endpoint : UInt32)
include found

theorem bindAt_spares :
    host.files.Spares place ((bindAt (socketPath directory endpoint)).run host).2.files ∧
      ((bindAt (socketPath directory endpoint)).run host).2.locked = host.locked := by
  rw [bindAt, HostM.run_get_bind]
  dsimp only
  split
  · exact ⟨.refl _ place, rfl⟩
  · next location bound =>
    cases checked : checkSocketPath (socketPath directory endpoint) with
    | error cause =>
      rw [checked] at bound
      cases bound
    | ok =>
      cases creatable : host.files.creatable (socketPath directory endpoint) with
      | error cause =>
        rw [checked, creatable] at bound
        cases bound
      | ok target =>
        have same := (FileTree.creatable_eq_ok_iff.mp creatable).joined found
          (plainName_socketName endpoint)
        subst same
        cases free : host.files.node? (place ++ [socketName endpoint]) with
        | some node =>
          rw [checked, creatable] at bound
          simp [bind, Except.bind, free, throw, throwThe, MonadExceptOf.throw] at bound
        | none =>
          rw [checked, creatable] at bound
          simp only [bind, Except.bind, free, pure, Except.pure, Option.isSome_none,
            Bool.false_eq_true, ↓reduceIte, Except.ok.injEq] at bound
          subst bound
          exact ⟨FileTree.spares_add free _, rfl⟩

/-- Only the socket of the endpoint is replaced or made. -/
theorem listenAt_spares :
    host.files.Spares place ((listenAt directory endpoint).run host).2.files ∧
      ((listenAt directory endpoint).run host).2.locked = host.locked := by
  rw [listenAt, HostM.run_get_bind]
  cases removed : host.files.remove (socketPath directory endpoint) with
  | ok files =>
    have cleared := FileTree.spares_remove found removed
    let middle : Host := { host with
      files
      notices := host.notices.push
        ⟨.debug, "removed stale socket", [("path", socketPath directory endpoint)]⟩ }
    have still : middle.files.find directory = .ok (place, .directory) :=
      cleared.grown.find_directory found
    obtain ⟨bound, locked⟩ := bindAt_spares still endpoint
    exact ⟨cleared.trans bound, locked⟩
  | error cause =>
    dsimp only
    split
    · exact ⟨.refl _ place, rfl⟩
    · exact bindAt_spares found endpoint

end Listening

theorem stopListening_run (index : Nat) (host : Host) :
    ((stopListening index).run host).2.files = host.files ∧
      ((stopListening index).run host).2.locked = host.locked := by
  rw [stopListening, HostM.run_get_bind]
  generalize (host.listeners[index]?).elim [] (·.waiting) = waiting
  have kept : ∀ (waiting : List Nat) (host : Host),
      ((waiting.forM fun wire => changeWire wire fun state => ((), state.dropUnread .far true)).run
        host).2.files = host.files ∧
      ((waiting.forM fun wire => changeWire wire fun state => ((), state.dropUnread .far true)).run
        host).2.locked = host.locked := by
    intro waiting
    induction waiting with
    | nil => exact fun _ => ⟨rfl, rfl⟩
    | cons wire rest ih => exact fun host => ih _
  exact kept waiting _

end ChunkRelay
