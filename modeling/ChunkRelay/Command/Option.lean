import ChunkRelay.Text.Styled

/-!
# Command-line options

The words of the command line: the options, what their values stand for, and the commands.
-/

set_option autoImplicit false

namespace ChunkRelay

inductive AllocatorKind where
  | device
  | shm
deriving DecidableEq, Repr

def AllocatorKind.ofName? : String → Option AllocatorKind
  | "device" => some .device
  | "shm" => some .shm
  | _ => none

inductive CommandName where
  | send
  | recv
  | peer
deriving DecidableEq, Repr

def CommandName.ofName? : String → Option CommandName
  | "send" => some .send
  | "recv" => some .recv
  | "peer" => some .peer
  | _ => none

inductive OptionName where
  | allocator
  | device
  | shmDir
  | socketDir
  | capacity
  | timeoutMs
  | endpoint
  | port
  | source
  | sink
  /-- The file to transfer, which stands without a name. -/
  | file
deriving DecidableEq, Repr

namespace OptionName

def display : OptionName → String
  | .allocator => "--allocator <ALLOCATOR>"
  | .device => "--device <DEVICE>"
  | .shmDir => "--shm-dir <SHM_DIR>"
  | .socketDir => "--socket-dir <SOCKET_DIR>"
  | .capacity => "--capacity <CAPACITY>"
  | .timeoutMs => "--timeout-ms <TIMEOUT_MS>"
  | .endpoint => "--endpoint <ENDPOINT>"
  | .port => "--port <PORT>"
  | .source => "--source <FILE>"
  | .sink => "--sink <FILE>"
  | .file => "<FILE>"

def shared? : String → Option OptionName
  | "allocator" => some .allocator
  | "device" => some .device
  | "shm-dir" => some .shmDir
  | "socket-dir" => some .socketDir
  | "capacity" => some .capacity
  | "timeout-ms" => some .timeoutMs
  | _ => none

def ofName? (command : Option CommandName) (name : String) : Option OptionName :=
  match shared? name with
  | some option => some option
  | none =>
    match command, name with
    | some _, "endpoint" => some .endpoint
    | some _, "port" => some .port
    | some .peer, "source" => some .source
    | some .peer, "sink" => some .sink
    | _, _ => none

end OptionName

inductive UsageError where
  | nothing
  | invalidValue (option : OptionName) (value : String) (reason : Option String)
  | missingValue (option : OptionName)
  | repeated (option : OptionName)
  | unexpected (argument : String)
  | needlessValue (flag value : String)
  | unknownCommand (name : String)
  | noCommand
  | missingArguments
deriving DecidableEq, Repr

def programName : String := "relay"

def programPurpose : String := "Relay files through a shared physical buffer"

def helpHint : String := "\n\nFor more information, try '"

namespace UsageError

open Text Text.Fragment

/-- The fragments that tell about a value and the option it was given to. -/
def valueText (option : OptionName) (value : String) : List Fragment :=
  [ordinary "invalid value '", marked .faulty value, ordinary "' for '",
    marked .literal option.display, ordinary "'"]

def reasonText : UsageError → List Fragment
  | .nothing => []
  | .invalidValue option value none => valueText option value
  | .invalidValue option value (some reason) =>
    valueText option value ++
      [ordinary (": " ++ reason ++ helpHint), marked .literal "--help", ordinary "'."]
  | .missingValue option =>
    [ordinary "a value is required for '", marked .faulty option.display,
      ordinary "' but none was supplied"]
  | .repeated option =>
    [ordinary "the argument '", marked .faulty option.display,
      ordinary "' cannot be used multiple times"]
  | .unexpected argument =>
    [ordinary "unexpected argument '", marked .faulty argument, ordinary "' found"]
  | .needlessValue flag value =>
    [ordinary "unexpected value '", marked .faulty value, ordinary "' for '",
      marked .literal flag, ordinary "' found; no more were expected"]
  | .unknownCommand name =>
    [ordinary "unrecognized subcommand '", marked .faulty name, ordinary "'"]
  | .noCommand =>
    [ordinary "'", marked .faulty programName,
      ordinary "' requires a subcommand but one was not provided"]
  | .missingArguments => [ordinary "the following required arguments were not provided:"]

/-- The message for a refused command line, without the usage that may follow it. Asked for nothing,
the program tells what it does. -/
def text : UsageError → List Fragment
  | .nothing => [ordinary programPurpose]
  | error => marked .alarm "error:" :: ordinary " " :: error.reasonText

end UsageError

end ChunkRelay
