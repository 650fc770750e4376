import ChunkRelay.IoError
import ChunkRelay.Wait

/-!
# Channel errors

Everything that can go wrong while control messages are exchanged.
-/

set_option autoImplicit false

namespace ChunkRelay

inductive ChannelError where
  | timeout (waited : Duration)
  /-- This end is closed, or the other one is gone. -/
  | closed
  | busy (endpoint port : UInt32)
  /-- A message of another kind than the handshake calls for. -/
  | unexpected (expected received : String)
  | portMismatch (expected received : UInt32)
  | malformed (what : String)
  | io (cause : IoError)
deriving DecidableEq, Repr

namespace ChannelError

def label : ChannelError → String
  | .timeout _ => "Timeout"
  | .closed => "Closed"
  | .busy _ _ => "Busy"
  | .unexpected _ _ => "Unexpected"
  | .portMismatch _ _ => "PortMismatch"
  | .malformed _ => "Codec"
  | .io _ => "Io"

def message : ChannelError → String
  | .timeout waited => "no message within " ++ waited.text
  | .closed => "channel closed"
  | .busy endpoint port =>
    "endpoint " ++ toString endpoint.toNat ++ " port " ++ toString port.toNat ++
      " already has an active session"
  | .unexpected expected received => "expected " ++ expected ++ ", received " ++ received
  | .portMismatch expected received =>
    "message for port " ++ toString received.toNat ++ " arrived on port " ++
      toString expected.toNat
  | .malformed what => "malformed frame: " ++ what
  | .io cause => "transport i/o failed: " ++ cause.message

/-- The system's error behind a channel error, if there is one. -/
def cause? : ChannelError → Option IoError
  | .io cause => some cause
  | _ => none

end ChannelError

end ChunkRelay
