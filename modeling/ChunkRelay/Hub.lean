import ChunkRelay.Link

/-!
# The hub

The hub owns all in-process links. Some are made on the spot; the others are opened through it. Of
these it keeps one per endpoint and port at most, counts openings and closings, and parks the far end
of each until someone accepts it. Opening first lets go of the parked ends whose near end is no
longer open.
-/

set_option autoImplicit false

namespace ChunkRelay

/-- The links of one process and the record of those opened by endpoint and port. -/
structure Hub where
  links : Array Link
  /-- The indices of the links whose near end holds a claim on its endpoint and port. -/
  holders : List Nat
  claimed : List ChannelId
  opened : Nat
  closed : Nat
  /-- The links whose far end waits to be accepted, oldest first. -/
  parked : List Nat

namespace Hub

def empty : Hub :=
  { links := #[], holders := [], claimed := [], opened := 0, closed := 0, parked := [] }

def join (hub : Hub) (id : ChannelId) : Nat × Hub :=
  (hub.links.size, { hub with links := hub.links.push (.fresh id) })

def isOpen (hub : Hub) (index : Nat) (side : Side) : Bool :=
  (hub.links[index]?).any (·.isOpen side)

def idOf (hub : Hub) (index : Nat) : ChannelId :=
  (hub.links[index]?).elim default (·.id)

def send (hub : Hub) (index : Nat) (side : Side) (message : Message) :
    Except ChannelError Unit × Hub :=
  match hub.links[index]? with
  | none => (.error .closed, hub)
  | some link =>
    let (result, link) := link.send side message
    (result, { hub with links := hub.links.setIfInBounds index link })

/-- Takes the oldest message of a link's side, if there is an answer yet. -/
def receive (hub : Hub) (index : Nat) (side : Side) :
    Option (Except ChannelError Message) × Hub :=
  match hub.links[index]? with
  | none => (some (.error .closed), hub)
  | some link =>
    let (result, link) := link.receive side
    (result, { hub with links := hub.links.setIfInBounds index link })

/-- Gives up the claim that the near end of a link holds, if it holds one. -/
def release (hub : Hub) (index : Nat) : Hub :=
  if index ∈ hub.holders then
    { hub with
      holders := hub.holders.erase index
      claimed := hub.claimed.erase (hub.idOf index)
      closed := hub.closed + 1 }
  else hub

/-- Closes an end. The first closing of a near end gives up its claim. -/
def close (hub : Hub) (index : Nat) (side : Side) : Hub :=
  let hub := { hub with links := hub.links.modify index (·.close side) }
  match side with
  | .near => hub.release index
  | .far => hub

def drop (hub : Hub) (index : Nat) (side : Side) : Hub :=
  let hub := hub.close index side
  { hub with links := hub.links.modify index (·.drop side) }

def stale (hub : Hub) : List Nat :=
  hub.parked.filter fun index => !hub.isOpen index .near

def dropStale (hub : Hub) : Hub :=
  let kept := { hub with parked := hub.parked.filter fun index => hub.isOpen index .near }
  hub.stale.foldl (fun hub index => hub.drop index .far) kept

/-- Opens a link by endpoint and port, unless they are in use, and parks its far end. -/
def openLink (hub : Hub) (id : ChannelId) : Except ChannelError (Nat × Hub) :=
  if id ∈ hub.claimed then .error (.busy id.endpoint id.port)
  else
    let (index, hub) := hub.dropStale.join id
    .ok (index,
      { hub with
        holders := index :: hub.holders
        claimed := id :: hub.claimed
        opened := hub.opened + 1
        parked := hub.parked ++ [index] })

def accept (hub : Hub) : Option (Nat × Hub) :=
  match hub.parked with
  | [] => none
  | index :: rest => some (index, { hub with parked := rest })

def active (hub : Hub) : Nat :=
  hub.claimed.length

end Hub

end ChunkRelay
