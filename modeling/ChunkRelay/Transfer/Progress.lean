import ChunkRelay.Notice
import ChunkRelay.Transfer.Error

/-!
# Progress

How far a transfer has come: the confirmed chunks and bytes, its state and its report. The counts are
idealised: they have no largest value, where a counter of 64 bits is full after 2 ^ 64 bytes.
-/

set_option autoImplicit false

namespace ChunkRelay

inductive Role where
  | sender
  | receiver
deriving DecidableEq, Repr

def Role.label : Role → String
  | .sender => "sender"
  | .receiver => "receiver"

inductive TransferState where
  | idle
  | transferring
  | completed
  | failed
deriving DecidableEq, Repr

def TransferState.label : TransferState → String
  | .idle => "Idle"
  | .transferring => "Transferring"
  | .completed => "Completed"
  | .failed => "Failed"

def TransferState.isTerminal : TransferState → Bool
  | .completed | .failed => true
  | .idle | .transferring => false

structure Progress where
  bytes : Nat
  chunks : Nat
deriving DecidableEq, Repr

namespace Progress

def none : Progress :=
  ⟨0, 0⟩

def confirm (progress : Progress) (length : Nat) : Progress :=
  ⟨progress.bytes + length, progress.chunks + 1⟩

def fields (progress : Progress) : List (String × String) :=
  [("bytes", toString progress.bytes), ("chunks", toString progress.chunks)]

def chunkNotice (progress : Progress) (text : String) (length : Nat) : Notice :=
  { level := .debug
    text
    fields :=
      [("chunk", toString progress.chunks), ("len", toString length),
        ("total", toString progress.bytes)] }

def completedNotice (progress : Progress) (role : Role) : Notice :=
  { level := .info
    text := "transfer completed"
    fields := ("role", role.label) :: progress.fields }

def failedNotice (progress : Progress) (role : Role) (error : RelayError) : Notice :=
  { level := .debug
    text := "transfer failed"
    fields :=
      [("role", role.label), ("kind", error.family.label), ("bytes", toString progress.bytes),
        ("error", error.message)] }

end Progress

structure TransferReport where
  role : Role
  state : TransferState
  progress : Progress
deriving DecidableEq, Repr

end ChunkRelay
