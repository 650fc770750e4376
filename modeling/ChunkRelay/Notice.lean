/-!
# Notices

What the relay reports about its own work while it runs: a level, a sentence and named values.
-/

set_option autoImplicit false

namespace ChunkRelay

inductive Level where
  | trace
  | debug
  | info
  | warn
deriving DecidableEq, Repr

namespace Level

def rank : Level → Nat
  | .trace => 0
  | .debug => 1
  | .info => 2
  | .warn => 3

def label : Level → String
  | .trace => "TRACE"
  | .debug => "DEBUG"
  | .info => "INFO "
  | .warn => "WARN "

def name : Level → String
  | .trace => "trace"
  | .debug => "debug"
  | .info => "info"
  | .warn => "warn"

def ofName? (name : String) : Option Level :=
  [trace, debug, info, warn].find? (·.name = name)

end Level

structure Notice where
  level : Level
  text : String
  fields : List (String × String)
deriving DecidableEq, Repr

namespace Notice

/-- A notice on one line: level, text and each value after its name. -/
def line (notice : Notice) : String :=
  notice.fields.foldl (fun text field => text ++ " " ++ field.1 ++ "=" ++ field.2)
    (notice.level.label ++ " " ++ notice.text)

def atLeast (least : Level) (notice : Notice) : Bool :=
  least.rank ≤ notice.level.rank

end Notice

end ChunkRelay
