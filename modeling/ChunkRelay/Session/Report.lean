import ChunkRelay.Memory.Buffer
import ChunkRelay.Transfer.Engine

/-!
# Session settings and results

What a session is asked to do, and what comes of it.
-/

set_option autoImplicit false

namespace ChunkRelay

structure SessionConfig where
  endpoint : UInt32
  port : UInt32
  capacity : Nat
  wait : Wait
deriving DecidableEq, Repr

namespace SessionConfig

def default : SessionConfig :=
  { endpoint := 0, port := 0, capacity := defaultCapacity, wait := .unbounded }

def channelId (config : SessionConfig) : ChannelId :=
  { endpoint := config.endpoint, port := config.port }

end SessionConfig

/-- A session that did not complete: its first error, and how far it came. -/
structure SessionFailure where
  error : RelayError
  report : TransferReport
deriving DecidableEq, Repr

namespace SessionFailure

def message (failure : SessionFailure) : String :=
  failure.report.role.label ++ " transfer failed after " ++
    toString failure.report.progress.bytes ++ " bytes"

def inSetup (role : Role) (error : RelayError) : SessionFailure :=
  { error, report := { role, state := .failed, progress := .none } }

end SessionFailure

abbrev TransferResult := Except SessionFailure TransferReport

def Engine.result (engine : Engine) : TransferResult :=
  match engine.error? with
  | some error => .error { error, report := engine.report }
  | none => .ok engine.report

end ChunkRelay
