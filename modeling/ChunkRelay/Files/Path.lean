/-!
# Paths

A path is text. Joining keeps an absolute name as it is and adds one separator where none stands.
-/

set_option autoImplicit false

namespace ChunkRelay

def joinPath (base name : String) : String :=
  if name.startsWith "/" then name
  else if base = "" || base.endsWith "/" then base ++ name
  else base ++ "/" ++ name

end ChunkRelay
