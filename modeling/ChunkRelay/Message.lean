/-!
# Control messages

The vocabulary of the handshake. Only addresses and lengths cross the channel; the bytes of a chunk
stay in the relay buffer.
-/

set_option autoImplicit false

namespace ChunkRelay

structure ChannelId where
  endpoint : UInt32
  port : UInt32
deriving DecidableEq, Repr, Inhabited

def ChannelId.fields (id : ChannelId) : List (String × String) :=
  [("endpoint", toString id.endpoint.toNat), ("port", toString id.port.toNat)]

inductive Message where
  /-- So many bytes at this address are ready to be consumed; zero ends the stream. -/
  | dataReady (address length : UInt64)
  /-- So many bytes of the announced chunk were consumed. -/
  | readDone (length : UInt64)
  /-- So many bytes were written at this address; zero ends the stream. -/
  | writeDone (address length : UInt64)
  | baseAddress (address : UInt64)
deriving DecidableEq, Repr, Inhabited

def Message.name : Message → String
  | .dataReady _ _ => "data-ready"
  | .readDone _ => "read-done"
  | .writeDone _ _ => "write-done"
  | .baseAddress _ => "base-address"

end ChunkRelay
