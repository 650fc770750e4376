/-!
# The environment

The variables a program is started with. One names the directory of the running system, others
decide whether messages are styled where nobody looks at them.
-/

set_option autoImplicit false

namespace ChunkRelay

abbrev Environment := List (String × String)

namespace Environment

def names : List String := ["XDG_RUNTIME_DIR", "NO_COLOR", "CLICOLOR_FORCE"]

def runtimeDirectory? (environment : Environment) : Option String :=
  environment.lookup "XDG_RUNTIME_DIR"

def isSet (environment : Environment) (name : String) : Bool :=
  (environment.lookup name).any (· ≠ "")

/-- Whether messages are styled on every stream: they are if that is asked for and not forbidden,
whatever the values say. -/
def forcesStyles (environment : Environment) : Bool :=
  environment.isSet "CLICOLOR_FORCE" && !environment.isSet "NO_COLOR"

end Environment

end ChunkRelay
