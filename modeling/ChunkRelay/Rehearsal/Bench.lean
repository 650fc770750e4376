import ChunkRelay.Channel
import ChunkRelay.Remote.Service
import ChunkRelay.Session.Drive

/-!
# Benches

A bench holds objects of one host under names, so that a rehearsal can be told step by step. Putting an
object where another one is drops the old one once the new one is in place.
-/

set_option autoImplicit false

namespace ChunkRelay

inductive Item where
  | handle (handle : Handle)
  | region (region : Region)
  /-- The far socket of a wire, without a transport on it. -/
  | rawSocket (wire : Nat)
  | buffer (buffer : RelayBuffer)
  /-- A transport, and whether it tells about itself. -/
  | transport (transport : Transport) (telling : Bool)
  | channel (channel : Channel)
  | engine (engine : Engine) (reader : Reader) (writer : Writer)
  | peer (transport : Transport) (capacity : Nat) (memory : AddressedMemory) (wait : Wait)
  | listener (index : Nat)

def Item.drop : Item → HostM Unit
  | .handle opened => do let _ ← opened.close
  | .rawSocket wire => dropSocket wire .far
  | .buffer acquired => do let _ ← acquired.release
  | .transport carrier _ | .peer carrier _ _ _ => carrier.drop
  | .channel opened => do let _ ← opened.close
  | .listener index => stopListening index
  | .region _ | .engine _ _ _ => return

structure Bench where
  host : Host
  items : List (String × Item)

namespace Bench

def item? (bench : Bench) (name : String) : Option Item :=
  bench.items.lookup name

def remove (bench : Bench) (name : String) : Bench :=
  { bench with items := bench.items.filter (·.1 ≠ name) }

def set (bench : Bench) (name : String) (item : Item) : Bench :=
  { bench with items := (name, item) :: (bench.remove name).items }

def act {α : Type} (bench : Bench) (action : HostM α) : α × Bench :=
  let (result, host) := action.run bench.host
  (result, { bench with host })

/-- Puts a new object under a name and drops the one that was there. -/
def put (bench : Bench) (name : String) (item : Item) : Bench :=
  match bench.item? name with
  | none => bench.set name item
  | some old => ((bench.set name item).act old.drop).2

/-- Takes an object off the bench and lets go of it; nothing if there is none. -/
def drop (bench : Bench) (name : String) : Option Bench :=
  (bench.item? name).map fun item => ((bench.remove name).act item.drop).2

def clear (bench : Bench) : Bench :=
  ({ bench with items := [] }.act (bench.items.forM fun entry => entry.2.drop)).2

end Bench

end ChunkRelay
