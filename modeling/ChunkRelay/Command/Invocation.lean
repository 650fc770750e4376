import ChunkRelay.Command.Arguments
import ChunkRelay.Memory.Buffer
import ChunkRelay.Transfer.Progress

/-!
# Invocations

Reading a command line word by word. An option without an attached value takes the next word as its
value, unless that looks like an option. Its value is settled when the next known option or nameless
argument comes, or at the end; so an unknown word is reported before a value that is no good. After
`--` every word is a nameless argument. Options before the command hold for it too, unless they are
given again after it.
-/

set_option autoImplicit false

namespace ChunkRelay

structure Backend where
  allocator : AllocatorKind
  device : String
  shmDir : String
  /-- Where the sockets are, if the command line says so. -/
  socketDir : Option String
  capacity : Nat
  wait : Wait
deriving DecidableEq, Repr

inductive Command where
  | transfer (role : Role) (id : ChannelId) (file : String)
  | peer (id : ChannelId) (source sink : Option String)
deriving DecidableEq, Repr

def Backend.paths (backend : Backend) : List String :=
  [backend.device, backend.shmDir] ++ backend.socketDir.toList

def Command.paths : Command → List String
  | .transfer _ _ file => [file]
  | .peer _ source sink => source.toList ++ sink.toList

inductive Invocation where
  | run (backend : Backend) (command : Command)
  | help
  | version
deriving DecidableEq, Repr

structure Reading where
  arguments : Arguments
  /-- An option that is not settled yet, and its value if it has one already. -/
  pending : Option (OptionName × Option String)
  /-- Whether every word is a nameless argument from here on. -/
  trailing : Bool

namespace Reading

def fresh : Reading :=
  { arguments := .none, pending := none, trailing := false }

def settle (reading : Reading) : Except UsageError Reading :=
  match reading.pending with
  | none => .ok reading
  | some (option, none) => .error (.missingValue option)
  | some (option, some text) =>
    (reading.arguments.set option text).map fun arguments =>
      { reading with arguments, pending := none }

def awaitsValue (reading : Reading) : Bool :=
  match reading.pending with
  | some (_, none) => true
  | _ => false

def supply (reading : Reading) (text : String) : Reading :=
  { reading with pending := reading.pending.map fun (option, _) => (option, some text) }

def begin (reading : Reading) (option : OptionName) (attached : Option String) :
    Except UsageError Reading := do
  let reading ← reading.settle
  match attached with
  | none => return { reading with pending := some (option, none) }
  | some text => return { reading with arguments := ← reading.arguments.set option text }

def nameless (reading : Reading) (text : String) : Except UsageError Reading := do
  let reading ← reading.settle
  return { reading with pending := some (.file, some text) }

def hasFile (reading : Reading) : Bool :=
  reading.arguments.has .file || reading.pending.any (·.1 = .file)

end Reading

inductive Word where
  /-- The mark after which every word is a nameless argument. -/
  | mark
  | long (name : String) (value : Option String)
  | short (letters : List Char)
  | plain
deriving DecidableEq, Repr

def Word.of (text : String) : Word :=
  match text.toList with
  | ['-', '-'] => .mark
  | '-' :: '-' :: rest =>
    let name := rest.takeWhile (· ≠ '=')
    .long (String.ofList name)
      (if name.length < rest.length then some (String.ofList (rest.drop (name.length + 1)))
        else none)
  | '-' :: c :: rest => .short (c :: rest)
  | _ => .plain

inductive OptionStep where
  | proceed (reading : Reading)
  | stop (invocation : Invocation)

namespace Invocation

/-- Begins a flag, which has no value: the pending option is settled first. -/
def flag (reading : Reading) (name : String) (value : Option String)
    (invocation : Invocation) : Except UsageError OptionStep := do
  if let some value := value then throw (.needlessValue ("--" ++ name) value)
  let _ ← reading.settle
  return .stop invocation

def readLong (command : Option CommandName) (reading : Reading) (name : String)
    (value : Option String) : Except UsageError OptionStep :=
  match OptionName.ofName? command name with
  | some option => (reading.begin option value).map .proceed
  | none =>
    if name = "help" then flag reading name value .help
    else if name = "version" ∧ command = none then flag reading name value .version
    else .error (.unexpected ("--" ++ name))

/-- Reads letters after a single dash; only the first one matters. -/
def readShort (command : Option CommandName) (reading : Reading) (letters : List Char) :
    Except UsageError OptionStep :=
  match letters with
  | 'h' :: _ => flag reading "help" none .help
  | c :: _ =>
    if c = 'V' ∧ command = none then flag reading "version" none .version
    else .error (.unexpected (String.ofList ['-', c]))
  | [] => .error (.unexpected "-")

def readCommand (command : CommandName) :
    Reading → List String → Except UsageError (Arguments ⊕ Invocation)
  | reading, [] => do
    return .inl (← reading.settle).arguments
  | reading, text :: rest => do
    let takePlain : Except UsageError Reading :=
      if command = .peer ∨ reading.hasFile then .error (.unexpected text)
      else reading.nameless text
    if reading.trailing then readCommand command (← takePlain) rest
    else
      match Word.of text with
      | .mark => readCommand command { reading with trailing := true } rest
      | .long name value =>
        match ← readLong (some command) reading name value with
        | .proceed reading => readCommand command reading rest
        | .stop invocation => return .inr invocation
      | .short letters =>
        match ← readShort (some command) reading letters with
        | .proceed reading => readCommand command reading rest
        | .stop invocation => return .inr invocation
      | .plain =>
        if reading.awaitsValue then readCommand command (reading.supply text) rest
        else readCommand command (← takePlain) rest

/-- The settings that hold for a command: its own, then those before it, then the usual ones. -/
def backendOf (own before : Arguments) : Backend :=
  { allocator := (own.allocator <|> before.allocator).getD .shm
    device := (own.device <|> before.device).getD defaultDevicePath
    shmDir := (own.shmDir <|> before.shmDir).getD defaultSegmentDirectory
    socketDir := own.socketDir <|> before.socketDir
    capacity := (own.capacity <|> before.capacity).getD defaultCapacity
    wait := .ofMilliseconds? (own.timeoutMs <|> before.timeoutMs) }

def commandOf (name : CommandName) (own : Arguments) : Except UsageError Command :=
  let id? := own.endpoint.map fun endpoint : UInt32 =>
    ({ endpoint, port := own.port.getD 0 } : ChannelId)
  match name, id?, own.file with
  | .send, some id, some file => .ok (.transfer .sender id file)
  | .recv, some id, some file => .ok (.transfer .receiver id file)
  | .peer, some id, _ => .ok (.peer id own.source own.sink)
  | _, _, _ => .error .missingArguments

/-- Reads the words after the request for help: the command to tell about, which has no commands of
its own. -/
def readHelp : List String → Except UsageError Invocation
  | [] => .ok .help
  | text :: rest =>
    if (CommandName.ofName? text).isSome ∨ text = "help" then
      match rest with
      | [] => .ok .help
      | next :: _ => .error (.unknownCommand next)
    else .error (.unknownCommand text)

/-- Reads a command and what follows; the options before it are settled last. -/
def readAfter (before : Reading) (name : CommandName) (rest : List String) :
    Except UsageError Invocation := do
  match ← readCommand name .fresh rest with
  | .inr invocation => return invocation
  | .inl own =>
    let command ← commandOf name own
    let before ← before.settle
    return .run (backendOf own before.arguments) command

def withoutCommand (before : Reading) : Except UsageError Invocation := do
  let before ← before.settle
  if before.arguments = .none then throw .nothing else throw .noCommand

def readBefore : Reading → List String → Except UsageError Invocation
  | reading, [] => withoutCommand reading
  | reading, text :: rest => do
    let command? := if reading.awaitsValue then none else CommandName.ofName? text
    if reading.trailing then
      if (CommandName.ofName? text).isSome ∨ text = "help" then throw (.unexpected text)
      else throw (.unknownCommand text)
    else
      match command?, Word.of text with
      | some name, _ => readAfter reading name rest
      | none, .mark => readBefore { reading with trailing := true } rest
      | none, .long name value =>
        match ← readLong none reading name value with
        | .proceed reading => readBefore reading rest
        | .stop invocation => return invocation
      | none, .short letters =>
        match ← readShort none reading letters with
        | .proceed reading => readBefore reading rest
        | .stop invocation => return invocation
      | none, .plain =>
        if reading.awaitsValue then readBefore (reading.supply text) rest
        else if text = "help" then readHelp rest
        else throw (.unknownCommand text)

def ofWords (words : List String) : Except UsageError Invocation :=
  readBefore .fresh words

end Invocation

end ChunkRelay
