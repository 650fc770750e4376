import ChunkRelay.Remote.Service
import ChunkRelay.Session.Run

/-!
# A session and its remote

A session and the service that answers it act in turns, each as long as it can. If neither can go on,
the shorter of their waits runs out. Every round moves a chunk or ends one of them, so the data to be
moved bound the rounds; where a reader has no end, the events of the writer it feeds do.
-/

set_option autoImplicit false

namespace ChunkRelay

structure Pair where
  session : Session
  service : Service

namespace Pair

def sessionExpiresFirst (pair : Pair) : Bool :=
  match pair.session.station.wait, pair.service.wait? with
  | .atMost own, some (.atMost other) => own.nanoseconds ≤ other.nanoseconds
  | .atMost _, _ => true
  | .unbounded, some (.atMost _) => false
  | .unbounded, _ => true

/-- Ends the wait that runs out first; nothing if neither ends. -/
def expire (pair : Pair) : HostM (Option Pair) := do
  if pair.sessionExpiresFirst then
    return (← pair.session.expire).map fun session => { pair with session }
  else
    return (← unnoticed pair.service.expire).map fun service => { pair with service }

/-- Lets both act in turns until the session is over, for so many rounds at most. -/
def runFor : Nat → Pair → HostM Pair
  | 0, pair => return pair
  | rounds + 1, pair => do
    let (moved, session) ← pair.session.advance
    if session.isOver then return { pair with session }
    let (served, service) ← unnoticed pair.service.advance
    let pair : Pair := { session, service }
    if moved || served then runFor rounds pair
    else match ← pair.expire with
      | none => return pair
      | some pair => runFor rounds pair

def rounds (pair : Pair) (host : Host) : Nat :=
  let own := pair.session.station
  let supply := own.reader.supply host.files + pair.service.supply host.files
  let pendingWrites := own.writer.pending + pair.service.pendingWrites
  2 * (supply + pendingWrites) + 16

def run (pair : Pair) : HostM Pair := do
  runFor (pair.rounds (← get)) pair

end Pair

/-- Lets a service act until it can do no more, once the session is concluded. -/
def Service.settleAfter (service : Service) : HostM Service := do
  let (_, service) ← unnoticed service.advance
  let (_, service) ← unnoticed service.advance
  match service with
  | .serving _ _ _ => return (← unnoticed service.expire).getD service
  | _ => return service

/-- Runs a session that a service answers: the result, unless the session waits without end, and the
service after it. -/
def Session.runWith (config : SessionConfig) (role : Role) (path : String) (allocator : Allocator)
    (connector : Connector) (service : Service) : HostM (Option TransferResult × Service) := do
  match ← Session.start config role path allocator connector with
  | .error failure => return (some (.error failure), ← service.settleAfter)
  | .ok session =>
    let pair ← Pair.run { session, service }
    if pair.session.isOver then
      let result ← pair.session.conclude
      return (some result, ← pair.service.settleAfter)
    else return (none, pair.service)

end ChunkRelay
