import ChunkRelay.Memory.Error
import ChunkRelay.Channel.Error

/-!
# Relay errors

The first error of a transfer ends it. Each error belongs to one of four families.
-/

set_option autoImplicit false

namespace ChunkRelay

open Text (hex)

inductive ProtocolViolation where
  /-- The remote announced a chunk somewhere else than in the relay buffer. -/
  | addressMismatch (expected remote : UInt64)
  /-- The remote claims to have read nothing of a chunk. -/
  | remoteReadNothing (announced : Nat)
  /-- The remote claims to have read another number of bytes than were announced. -/
  | readCountMismatch (announced reported : Nat)
  | oversizedChunk (length : Nat) (capacity : Nat)
deriving DecidableEq, Repr

def ProtocolViolation.label : ProtocolViolation → String
  | .addressMismatch _ _ => "AddressMismatch"
  | .remoteReadNothing _ => "RemoteReadNothing"
  | .readCountMismatch _ _ => "ReadCountMismatch"
  | .oversizedChunk _ _ => "OversizedChunk"

def ProtocolViolation.message : ProtocolViolation → String
  | .addressMismatch expected remote =>
    "remote wrote at " ++ hex remote.toNat ++ " but the relay buffer lives at " ++
      hex expected.toNat
  | .remoteReadNothing announced =>
    "remote read nothing of a " ++ toString announced ++ "-byte chunk"
  | .readCountMismatch announced reported =>
    "remote read " ++ toString reported ++ " bytes of a " ++ toString announced ++ "-byte chunk"
  | .oversizedChunk length capacity =>
    "chunk of " ++ toString length ++ " bytes exceeds relay capacity " ++ toString capacity

inductive LocalIOError where
  | openFailed (path : String) (cause : IoError)
  | read (cause : IoError)
  | write (cause : IoError)
  /-- The file stopped taking bytes in the middle of a chunk. -/
  | shortWrite (expected written : Nat)
deriving DecidableEq, Repr

namespace LocalIOError

def label : LocalIOError → String
  | .openFailed _ _ => "Open"
  | .read _ => "Read"
  | .write _ => "Write"
  | .shortWrite _ _ => "ShortWrite"

def message : LocalIOError → String
  | .openFailed path cause => "failed to open " ++ path ++ ": " ++ cause.message
  | .read cause => "failed to read local data: " ++ cause.message
  | .write cause => "failed to write local data: " ++ cause.message
  | .shortWrite expected written =>
    "short write: " ++ toString written ++ " of " ++ toString expected ++ " bytes"

/-- The system's error behind a failure of the local file, if there is one. -/
def cause? : LocalIOError → Option IoError
  | .openFailed _ cause | .read cause | .write cause => some cause
  | .shortWrite _ _ => none

end LocalIOError

inductive RelayError where
  | allocation (error : AllocationError)
  | channel (error : ChannelError)
  | protocol (error : ProtocolViolation)
  | localIO (error : LocalIOError)
deriving DecidableEq, Repr

inductive ErrorFamily where
  | allocation
  | channel
  | protocol
  | localIO
deriving DecidableEq, Repr

def ErrorFamily.label : ErrorFamily → String
  | .allocation => "AllocationError"
  | .channel => "ChannelError"
  | .protocol => "ProtocolViolation"
  | .localIO => "LocalIOError"

namespace RelayError

def family : RelayError → ErrorFamily
  | .allocation _ => .allocation
  | .channel _ => .channel
  | .protocol _ => .protocol
  | .localIO _ => .localIO

def label (error : RelayError) : String :=
  error.family.label ++ "." ++
    match error with
    | .allocation error => error.label
    | .channel error => error.label
    | .protocol error => error.label
    | .localIO error => error.label

def message : RelayError → String
  | .allocation error => error.message
  | .channel error => error.message
  | .protocol error => error.message
  | .localIO error => error.message

def cause? : RelayError → Option IoError
  | .allocation error => error.cause?
  | .channel error => error.cause?
  | .protocol _ => none
  | .localIO error => error.cause?

def isTimeout : RelayError → Bool
  | .channel (.timeout _) => true
  | _ => false

end RelayError

end ChunkRelay
