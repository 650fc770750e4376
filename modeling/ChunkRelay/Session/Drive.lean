import ChunkRelay.Session.Report
import ChunkRelay.Transfer.Advance

/-!
# Driving an engine

A caller that holds a buffer and a channel drives an engine over them, chunk by chunk or to its end.
Nobody else acts meanwhile, so what the remote has to say has to be on its way already.
-/

set_option autoImplicit false

namespace ChunkRelay

structure Desk where
  buffer : RelayBuffer
  channel : Channel
  reader : Reader
  writer : Writer

namespace Desk

def station (desk : Desk) : Station :=
  .ofEngine desk.buffer desk.channel.transport desk.channel.wait desk.reader desk.writer

def withData (desk : Desk) (station : Station) : Desk :=
  { desk with reader := station.reader, writer := station.writer }

end Desk

namespace Engine

/-- Lets an engine act at a desk until it stands between two chunks, or to its end. -/
def act (engine : Engine) (desk : Desk) (pause : Engine → Bool) :
    HostM (Advanced Engine) :=
  advanceAlone (Engine.action desk.buffer.address desk.buffer.capacity) pause engine desk.station

def start (engine : Engine) (desk : Desk) : HostM (Engine × Desk) := do
  match engine with
  | .sending sender => return (.sending sender.start, desk)
  | .receiving receiver =>
    if receiver.phase ≠ .idle then return (engine, desk)
    let acted ← engine.act desk isReady
    return (acted.party, desk.withData acted.station)

/-- Moves one chunk, starting the engine first if need be; one that has ended does nothing. What
comes back is nothing if the engine waits without end. -/
def step (engine : Engine) (desk : Desk) : HostM (Option (Engine × Desk)) := do
  if engine.state.isTerminal then return some (engine, desk)
  let (engine, desk) ← engine.start desk
  if engine.state.isTerminal then return some (engine, desk)
  let acted ← engine.act desk isReady
  if acted.standing = .waiting then return none
  return some (acted.party, desk.withData acted.station)

/-- Moves chunk after chunk to the end. What comes back is nothing if the engine waits without
end. -/
def finish (engine : Engine) (desk : Desk) : HostM (Option (Engine × Desk)) := do
  let acted ← engine.act desk fun _ => false
  if acted.standing = .waiting then return none
  return some (acted.party, desk.withData acted.station)

end Engine

end ChunkRelay
