import ChunkRelay.Channel.Error
import ChunkRelay.Memory.Error
import ChunkRelay.Message
import ChunkRelay.Notice
import ChunkRelay.Stream.Writer

/-!
# Actions of a party

A party of a transfer is a state that asks one thing at a time of its surroundings and goes on with the
answer. What the surroundings do is none of the party's business: the same party runs against a real
buffer and channel, against a scripted remote, or against every answer there is.
-/

set_option autoImplicit false

namespace ChunkRelay

/-- What a party may ask of its surroundings. A party works on one stretch of bytes, its stage. -/
inductive Request where
  | clear
  | fill
  /-- Put the first bytes of the stage into the local destination. -/
  | drain (length : Nat)
  | flush
  | send (message : Message)
  | receive
  /-- Copy bytes at an address to the front of the stage. -/
  | fetch (address : UInt64) (length : Nat)
  /-- Copy the first bytes of the stage to an address. -/
  | place (address : UInt64) (length : Nat)
deriving DecidableEq, Repr

abbrev Request.Answer : Request → Type
  | .clear => Unit
  | .fill => Except IoError Nat
  | .drain _ => Except WriteFailure Unit
  | .flush => Except IoError Unit
  | .send _ => Except ChannelError Unit
  | .receive => Except ChannelError Message
  | .fetch _ _ => Except AllocationError Unit
  | .place _ _ => Except AllocationError Unit

/-- What follows an answer: the next state, and what the party reports. -/
structure Turn (σ : Type) where
  next : σ
  notices : List Notice

namespace Turn

def silent {σ : Type} (next : σ) : Turn σ :=
  ⟨next, []⟩

def map {σ τ : Type} (change : σ → τ) (turn : Turn σ) : Turn τ :=
  ⟨change turn.next, turn.notices⟩

end Turn

/-- What a party does next: it asks for something, or it has stopped. -/
inductive Action (σ : Type) where
  | ask (request : Request) (resume : request.Answer → Turn σ)
  | stop

namespace Action

def map {σ τ : Type} (change : σ → τ) : Action σ → Action τ
  | .ask request resume => .ask request fun answer => (resume answer).map change
  | .stop => .stop

end Action

end ChunkRelay
