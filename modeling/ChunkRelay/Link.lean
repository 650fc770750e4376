import ChunkRelay.Channel.Error
import ChunkRelay.Message

/-!
# In-process links

A link joins two ends by one queue each way. An end is open, closed or gone. Closing an end stops it
from sending and receiving, and tells the other end, once that end has read its queue, that nothing
more will come; but messages are still taken for it. Only when an end is gone is sending to it refused.
-/

set_option autoImplicit false

namespace ChunkRelay

/-- The two ends of a link: the session's own, and the remote one. -/
inductive Side where
  | near
  | far
deriving DecidableEq, Repr

def Side.other : Side → Side
  | .near => .far
  | .far => .near

inductive EndStatus where
  | opened
  | closed
  | gone
deriving DecidableEq, Repr

/-- One end of a link and the messages on their way to it, oldest first. -/
structure LinkEnd where
  status : EndStatus
  inbox : List Message
deriving DecidableEq, Repr

structure Link where
  id : ChannelId
  near : LinkEnd
  far : LinkEnd
deriving DecidableEq, Repr

namespace Link

def fresh (id : ChannelId) : Link :=
  { id, near := ⟨.opened, []⟩, far := ⟨.opened, []⟩ }

def atSide (link : Link) : Side → LinkEnd
  | .near => link.near
  | .far => link.far

def setSide (link : Link) (side : Side) (value : LinkEnd) : Link :=
  match side with
  | .near => { link with near := value }
  | .far => { link with far := value }

def isOpen (link : Link) (side : Side) : Bool :=
  (link.atSide side).status = .opened

def send (link : Link) (side : Side) (message : Message) : Except ChannelError Unit × Link :=
  let target := link.atSide side.other
  if !link.isOpen side then (.error .closed, link)
  else if target.status = .gone then (.error .closed, link)
  else (.ok (), link.setSide side.other { target with inbox := target.inbox ++ [message] })

/-- The oldest message for a side, or the reason why none will come; nothing while one still may. -/
def receive (link : Link) (side : Side) : Option (Except ChannelError Message) × Link :=
  let own := link.atSide side
  if !link.isOpen side then (some (.error .closed), link)
  else match own.inbox with
    | message :: rest => (some (.ok message), link.setSide side { own with inbox := rest })
    | [] => if link.isOpen side.other then (none, link) else (some (.error .closed), link)

/-- Closes an end; the second time nothing happens. -/
def close (link : Link) (side : Side) : Link :=
  if link.isOpen side then link.setSide side { link.atSide side with status := .closed } else link

def drop (link : Link) (side : Side) : Link :=
  link.setSide side ⟨.gone, []⟩

end Link

end ChunkRelay
