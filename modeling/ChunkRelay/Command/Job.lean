import ChunkRelay.Command.Environment
import ChunkRelay.Command.Invocation
import ChunkRelay.Session.Together
import ChunkRelay.Text.Quoted

/-!
# Jobs

A job carries out one command line and exits with a code and what it has printed. A transfer is a
session over the socket of an endpoint; a peer listens there and serves one session.
-/

set_option autoImplicit false

namespace ChunkRelay

/-- The exit of a job: its code and what it has printed. -/
structure Exit where
  code : Nat
  output : String
  errors : String
deriving DecidableEq, Repr

namespace Exit

def success (line : String) : Exit :=
  { code := 0, output := line ++ "\n", errors := "" }

def failure (line : String) : Exit :=
  { code := 1, output := "", errors := line ++ "\n" }

def refusal (styled : Bool) (error : UsageError) : Exit :=
  { code := 2, output := "", errors := Text.render styled error.text ++ "\n" }

end Exit

def versionLine : String := "relay-cli 0.1.0"

/-- An error, and once more the system's error behind it if there is one. -/
def RelayError.chain (error : RelayError) : String :=
  match error.cause? with
  | none => error.message
  | some cause => error.message ++ ": " ++ cause.message

def TransferResult.exit (role : Role) (file : String) : TransferResult → Exit
  | .ok report =>
    let verb := match role with
      | .sender => "sent"
      | .receiver => "received"
    .success (verb ++ " " ++ toString report.progress.bytes ++ " bytes in " ++
      toString report.progress.chunks ++ " chunks")
  | .error failure =>
    .failure (failure.error.family.label ++ ": " ++ role.label ++ " session for " ++
      Text.quoted file ++ " failed: " ++ failure.message ++ ": " ++ failure.error.chain)

def peerExit : Except RelayError (PeerRole × Progress) → Exit
  | .ok (role, progress) =>
    let verb := match role with
      | .sink => "sank"
      | .source => "sourced"
    .success ("peer " ++ verb ++ " " ++ toString progress.bytes ++ " bytes in " ++
      toString progress.chunks ++ " chunks")
  | .error error => .failure ("error: peer session failed: " ++ error.chain)

inductive Job where
  | exited (exit : Exit)
  | transferring (role : Role) (file : String) (session : Session)
  | serving (listener : Nat) (service : Service)

namespace Job

/-- Where the sockets are unless the command line says so: the directory of the running system, or the
one for temporary files. -/
def socketDirectory (backend : Backend) (environment : Environment) : String :=
  backend.socketDir.getD (environment.runtimeDirectory?.getD "/tmp")

def allocatorOf (backend : Backend) : Allocator :=
  match backend.allocator with
  | .shm => .segments backend.shmDir
  | .device => .device backend.device

def launchTransfer (backend : Backend) (directory : String) (role : Role) (id : ChannelId)
    (file : String) : HostM Job := do
  let config : SessionConfig :=
    { endpoint := id.endpoint, port := id.port, capacity := backend.capacity, wait := backend.wait }
  match ← Session.start config role file (allocatorOf backend) (.viaSockets directory) with
  | .error failure => return .exited (TransferResult.exit role file (.error failure))
  | .ok session => return .transferring role file session

def openSource (path : Option String) : HostM (Except String Reader) := do
  match path with
  | none => return .ok .empty
  | some path =>
    return ((← get).files.openReader path).mapError fun cause =>
      "failed to open " ++ Text.quoted path ++ ": " ++ cause.message

def openSink (path : Option String) : HostM (Except String Writer) := do
  match path with
  | none => return .ok .discard
  | some path =>
    match (← get).files.openWriter path with
    | .error cause =>
      return .error ("failed to create " ++ Text.quoted path ++ ": " ++ cause.message)
    | .ok (writer, files) =>
      modify fun host => { host with files }
      return .ok writer

/-- Starts a peer, which listens before anything else happens to it. -/
def launchPeer (backend : Backend) (directory : String) (id : ChannelId)
    (source sink : Option String) : HostM Job := do
  let refused (reason : String) : HostM Job := return .exited (.failure ("error: " ++ reason))
  if backend.allocator ≠ .shm then
    return ← refused "peer emulation reaches relay buffers through --allocator shm only"
  if source.isNone ∧ sink.isNone then return ← refused "peer needs --source, --sink or both"
  match ← openSource source with
  | .error reason => refused reason
  | .ok reader =>
    match ← openSink sink with
    | .error reason => refused reason
    | .ok writer =>
      match ← listenAt directory id.endpoint with
      | .error cause =>
        refused ("failed to listen in " ++ Text.quoted directory ++ ": " ++ cause.message)
      | .ok listener =>
        return .serving listener (.accepting (.listener listener id.port)
          { mode := .serve source.isSome sink.isSome
            capacity := backend.capacity
            wait := backend.wait
            memory := .throughSegments backend.shmDir
            reader, writer })

/-- Starts a job: its command line without the program's own name, and its environment. -/
def launch (words : List String) (environment : Environment) : HostM Job := do
  match Invocation.ofWords words with
  | .error error => return .exited (.refusal environment.forcesStyles error)
  | .ok .help => return .exited (.success programPurpose)
  | .ok .version => return .exited (.success versionLine)
  | .ok (.run backend command) =>
    let directory := socketDirectory backend environment
    match command with
    | .transfer role id file => launchTransfer backend directory role id file
    | .peer id source sink => launchPeer backend directory id source sink

/-- Ends a peer that has finished; nothing while it serves or waits. -/
def endService (listener : Nat) : Service → HostM (Option Exit)
  | .finished outcome _ => do
    stopListening listener
    return some (peerExit outcome)
  | _ => return none

/-- Moves a job to its exit while nobody else acts; nothing if it waits without end. -/
def finish : Job → HostM (Option Exit)
  | .exited exit => return some exit
  | .transferring role file session => do
    return (← session.finish).map (TransferResult.exit role file)
  | .serving listener service => do endService listener (← service.settleAfter)

/-- Moves a job and the peer started before it to their exits; nothing for one that waits without
end. -/
def finishWith (job peer : Job) : HostM (Option Exit × Option Exit) := do
  match job, peer with
  | .transferring role file session, .serving listener service =>
    let pair ← Pair.run { session, service }
    if pair.session.isOver then
      let result ← pair.session.conclude
      let service ← pair.service.settleAfter
      return (some (TransferResult.exit role file result), ← endService listener service)
    else return (none, none)
  | _, _ => do
    let exit ← job.finish
    return (exit, ← peer.finish)

/-- Carries out a command line, after the peer's if there is one, in the same surroundings. What comes
back are their exits; nothing for one that waits without end or is not there. -/
def runAll (words : List String) (peerWords? : Option (List String))
    (environment : Environment) : HostM (Option Exit × Option Exit) := do
  match peerWords? with
  | none =>
    let job ← launch words environment
    return (← job.finish, none)
  | some peerWords =>
    let peer ← launch peerWords environment
    let job ← launch words environment
    job.finishWith peer

end Job

end ChunkRelay
