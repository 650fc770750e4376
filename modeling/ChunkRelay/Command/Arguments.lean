import ChunkRelay.Command.Capacity
import ChunkRelay.Command.Option

/-!
# Argument values

The values given on one level of the command line, before the command or after it. A value is read
when its option is settled; the same option may not be given twice on one level.
-/

set_option autoImplicit false

namespace ChunkRelay

structure Arguments where
  allocator : Option AllocatorKind
  device : Option String
  shmDir : Option String
  socketDir : Option String
  capacity : Option Nat
  timeoutMs : Option Nat
  endpoint : Option UInt32
  port : Option UInt32
  source : Option String
  sink : Option String
  file : Option String
deriving DecidableEq, Repr

namespace Arguments

def none : Arguments :=
  { allocator := .none, device := .none, shmDir := .none, socketDir := .none, capacity := .none
    timeoutMs := .none, endpoint := .none, port := .none, source := .none, sink := .none
    file := .none }

def has (arguments : Arguments) : OptionName → Bool
  | .allocator => arguments.allocator.isSome
  | .device => arguments.device.isSome
  | .shmDir => arguments.shmDir.isSome
  | .socketDir => arguments.socketDir.isSome
  | .capacity => arguments.capacity.isSome
  | .timeoutMs => arguments.timeoutMs.isSome
  | .endpoint => arguments.endpoint.isSome
  | .port => arguments.port.isSome
  | .source => arguments.source.isSome
  | .sink => arguments.sink.isSome
  | .file => arguments.file.isSome

def readPath (option : OptionName) (text : String) : Except UsageError String :=
  if text = "" then .error (.missingValue option) else .ok text

def readAllocator (text : String) : Except UsageError AllocatorKind :=
  match AllocatorKind.ofName? text with
  | some kind => .ok kind
  | .none =>
    if text = "" then .error (.missingValue .allocator)
    else .error (.invalidValue .allocator text .none)

/-- Reads a number of 32 bits: a signed numeral of 64 bits first, whose value has to fit. -/
def readWord (option : OptionName) (text : String) : Except UsageError UInt32 :=
  match Text.readInteger 0x7FFFFFFFFFFFFFFF text.toList with
  | .error error => .error (.invalidValue option text (some error.message))
  | .ok value =>
    if 0 ≤ value ∧ value ≤ 4294967295 then .ok (.ofNat value.toNat)
    else .error (.invalidValue option text (some (toString value ++ " is not in 0..=4294967295")))

def readMilliseconds (text : String) : Except UsageError Nat :=
  (Text.readNatural 10 maxUnsigned text.toList).mapError fun error =>
    .invalidValue .timeoutMs text (some error.message)

def set (arguments : Arguments) (option : OptionName) (text : String) :
    Except UsageError Arguments := do
  if arguments.has option then throw (.repeated option)
  match option with
  | .allocator => return { arguments with allocator := some (← readAllocator text) }
  | .device => return { arguments with device := some (← readPath option text) }
  | .shmDir => return { arguments with shmDir := some (← readPath option text) }
  | .socketDir => return { arguments with socketDir := some (← readPath option text) }
  | .capacity =>
    let capacity ← (readCapacity text).mapError fun reason =>
      .invalidValue option text (some reason)
    return { arguments with capacity := some capacity }
  | .timeoutMs => return { arguments with timeoutMs := some (← readMilliseconds text) }
  | .endpoint => return { arguments with endpoint := some (← readWord option text) }
  | .port => return { arguments with port := some (← readWord option text) }
  | .source => return { arguments with source := some (← readPath option text) }
  | .sink => return { arguments with sink := some (← readPath option text) }
  | .file => return { arguments with file := some (← readPath option text) }

end Arguments

end ChunkRelay
