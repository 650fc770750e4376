import ChunkRelay.IoError.SystemText

/-!
# Errors of the operating system

An input or output error is a number of the system's table, a bare kind, or a kind with its own
text. Its kind decides what a caller does about it, its message is what a reader sees.
-/

set_option autoImplicit false

namespace ChunkRelay

inductive IoKind where
  | notFound
  | permissionDenied
  | connectionRefused
  | connectionReset
  | brokenPipe
  | alreadyExists
  | wouldBlock
  | notADirectory
  | isADirectory
  | invalidInput
  | invalidData
  | timedOut
  | writeZero
  | storageFull
  | interrupted
  | unexpectedEof
  | outOfMemory
  | other
  | uncategorized
deriving DecidableEq, Repr

def IoKind.message : IoKind → String
  | .notFound => "entity not found"
  | .permissionDenied => "permission denied"
  | .connectionRefused => "connection refused"
  | .connectionReset => "connection reset"
  | .brokenPipe => "broken pipe"
  | .alreadyExists => "entity already exists"
  | .wouldBlock => "operation would block"
  | .notADirectory => "not a directory"
  | .isADirectory => "is a directory"
  | .invalidInput => "invalid input parameter"
  | .invalidData => "invalid data"
  | .timedOut => "timed out"
  | .writeZero => "write zero"
  | .storageFull => "no storage space"
  | .interrupted => "operation interrupted"
  | .unexpectedEof => "unexpected end of file"
  | .outOfMemory => "out of memory"
  | .other => "other error"
  | .uncategorized => "uncategorized error"

def IoKind.label : IoKind → String
  | .notFound => "NotFound"
  | .permissionDenied => "PermissionDenied"
  | .connectionRefused => "ConnectionRefused"
  | .connectionReset => "ConnectionReset"
  | .brokenPipe => "BrokenPipe"
  | .alreadyExists => "AlreadyExists"
  | .wouldBlock => "WouldBlock"
  | .notADirectory => "NotADirectory"
  | .isADirectory => "IsADirectory"
  | .invalidInput => "InvalidInput"
  | .invalidData => "InvalidData"
  | .timedOut => "TimedOut"
  | .writeZero => "WriteZero"
  | .storageFull => "StorageFull"
  | .interrupted => "Interrupted"
  | .unexpectedEof => "UnexpectedEof"
  | .outOfMemory => "OutOfMemory"
  | .other => "Other"
  | .uncategorized => "Uncategorized"

def IoKind.all : List IoKind :=
  [.notFound, .permissionDenied, .connectionRefused, .connectionReset, .brokenPipe,
    .alreadyExists, .wouldBlock, .notADirectory, .isADirectory, .invalidInput, .invalidData,
    .timedOut, .writeZero, .storageFull, .interrupted, .unexpectedEof, .outOfMemory, .other,
    .uncategorized]

def IoKind.ofLabel? (label : String) : Option IoKind :=
  all.find? (·.label = label)

theorem IoKind.mem_all (kind : IoKind) : kind ∈ all := by
  cases kind <;> simp [all]

inductive IoError where
  | os (code : Int)
  | bare (kind : IoKind)
  | custom (kind : IoKind) (text : String)
deriving DecidableEq, Repr

/-- The number the system makes of a word: it keeps 32 bits, the highest of which is the sign. -/
def systemNumber (word : Nat) : Int :=
  (Int.ofNat word).bmod 0x100000000

def osErrorKind : Int → IoKind
  | 1 => .permissionDenied
  | 2 => .notFound
  | 4 => .interrupted
  | 11 => .wouldBlock
  | 12 => .outOfMemory
  | 13 => .permissionDenied
  | 17 => .alreadyExists
  | 20 => .notADirectory
  | 21 => .isADirectory
  | 22 => .invalidInput
  | 28 => .storageFull
  | 32 => .brokenPipe
  | 104 => .connectionReset
  | 110 => .timedOut
  | 111 => .connectionRefused
  | _ => .uncategorized

namespace IoError

def kind : IoError → IoKind
  | .os code => osErrorKind code
  | .bare kind => kind
  | .custom kind _ => kind

def message : IoError → String
  | .os code => osErrorText code ++ " (os error " ++ toString code ++ ")"
  | .bare kind => kind.message
  | .custom _ text => text

/-- An interrupted read or write is no failure: it is tried again. -/
def isInterrupted (error : IoError) : Bool :=
  error.kind = .interrupted

def noEntry : IoError := .os 2

def entryExists : IoError := .os 17

def needsDirectory : IoError := .os 20

def foundDirectory : IoError := .os 21

end IoError

end ChunkRelay
