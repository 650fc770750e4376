import ChunkRelay.Stream.Reader
import ChunkRelay.Stream.Writer

/-!
# Local files

A session reads one file from its beginning, or empties one and writes it.
-/

set_option autoImplicit false

namespace ChunkRelay

def Reader.ofNode : Node → Reader
  | .file contents => .file contents 0
  | .directory => .directory
  | .zeroDevice | .fullDevice => .zeros
  | .nullDevice | .socket _ => .empty

def Writer.ofNode : Node → Writer
  | .file contents => .file contents 0
  | .fullDevice => .full
  | .nullDevice | .zeroDevice | .socket _ | .directory => .discard

def FileTree.openReader (tree : FileTree) (path : String) : Except IoError Reader :=
  (tree.openExisting path).map .ofNode

def FileTree.openWriter (tree : FileTree) (path : String) : Except IoError (Writer × FileTree) :=
  (tree.create path).map fun (node, tree) => (.ofNode node, tree)

end ChunkRelay
