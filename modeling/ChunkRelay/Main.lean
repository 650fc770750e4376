import ChunkRelay.Command.Job

/-!
# The relay command

Carries out one command line on a host in memory. The files and directories that the command line names
are brought in before it starts, and the files that it has made or changed are written back after it.
-/

set_option autoImplicit false

namespace ChunkRelay

def isDirectory (path : String) : IO Bool := do
  try
    let _ ← IO.FS.Handle.mk (path ++ "/.") .read
    return true
  catch _ => return false

def absolutePath (location : Location) : String :=
  "/" ++ "/".intercalate location

/-- The location that a path names, when no name on it is a link. -/
def locate (directory : Location) (path : String) : Location :=
  (path.splitOn "/").foldl (fun place name =>
    if name = "" ∨ name = "." then place
    else if name = ".." then place.dropLast
    else place ++ [name]) (if path.startsWith "/" then [] else directory)

/-- Brings in what a path of the surroundings leads to: a directory, or a file and its directory. -/
def bringIn (files : FileTree) (path : String) : IO FileTree := do
  if (files.find path).isOk then return files
  let location := locate files.current path
  if ← isDirectory (absolutePath location) then return files.makeDirectories location
  unless ← isDirectory (absolutePath location.dropLast) do return files
  let files := files.makeDirectories location.dropLast
  try
    let bytes ← IO.FS.readBinFile path
    return (files.store path bytes).toOption.getD files
  catch _ => return files

def writeBack (before after : FileTree) : IO Unit :=
  after.nodes.forM fun (location, node) => do
    let path := absolutePath location
    if let (.file _, .ok bytes) := (node, after.load path) then
      if (before.load path).toOption != some bytes then IO.FS.writeBinFile path bytes

/-- The number of the running process, if the system tells it. -/
def processNumber : IO UInt32 := do
  try
    let status ← IO.FS.readFile "/proc/self/stat"
    return .ofNat ((status.takeWhile Char.isDigit).toNat?.getD 0)
  catch _ => return 0

end ChunkRelay

open ChunkRelay in
def main (words : List String) : IO UInt32 := do
  let environment ← Environment.names.filterMapM fun name => do
    return (← IO.getEnv name).map fun value => (name, value)
  let current := locate [] (← IO.currentDir).toString
  let paths := match Invocation.ofWords words with
    | .ok (.run backend command) => Job.socketDirectory backend environment ::
        (backend.paths ++ command.paths)
    | _ => []
  let surroundings : FileTree := { FileTree.usual.makeDirectories current with current }
  let files ← paths.foldlM bringIn surroundings
  let start := Host.fresh (← processNumber) Bus.defaultBase files
  let ((exit?, _), host) := (Job.runAll words none environment).run start
  writeBack files host.files
  match exit? with
  | none => return 1
  | some exit =>
    IO.print exit.output
    IO.eprint exit.errors
    return .ofNat exit.code
