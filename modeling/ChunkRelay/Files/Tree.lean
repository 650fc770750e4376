import ChunkRelay.Bytes.Extent
import ChunkRelay.IoError

/-!
# File trees

A tree of named entries with the contents of its files beside it, so that contents stay reachable
after their name is removed. A path is followed name by name: each name but the last has to be a
directory. What the last name may be depends on the operation.
-/

set_option autoImplicit false

namespace ChunkRelay

abbrev Location := List String

inductive Node where
  | directory
  /-- A regular file and the index of its contents. -/
  | file (contents : Nat)
  /-- A socket and the index of the listener bound to it. -/
  | socket (listener : Nat)
  /-- A device that reads as empty and takes everything. -/
  | nullDevice
  /-- A device that reads as zeros without end and takes everything. -/
  | zeroDevice
  /-- A device without room, which reads as zeros. -/
  | fullDevice
deriving DecidableEq, Repr

/-- The entries of a file system, the contents of its files and the working directory. -/
structure FileTree where
  nodes : List (Location × Node)
  contents : Array Extent
  current : Location

/-- Where a path leads: a directory, and a last name in it unless the path ends at the directory. -/
structure Target where
  parent : Location
  name : Option String
  /-- Whether a separator follows the last name, which only a directory may bear. -/
  trailing : Bool

namespace FileTree

def empty : FileTree :=
  { nodes := [], contents := #[], current := [] }

def node? (tree : FileTree) (location : Location) : Option Node :=
  if location = [] then some .directory else tree.nodes.lookup location

def maxName : Nat := 255

def pathLimit : Nat := 4096

def checkName (name : String) : Except IoError Unit :=
  if maxName < name.utf8ByteSize then .error (.os 36) else .ok ()

def follow (tree : FileTree) : Location → List String → Except IoError (Location × Option String)
  | place, [] => .ok (place, none)
  | place, name :: rest =>
    if name = "." then tree.follow place rest
    else if name = ".." then tree.follow place.dropLast rest
    else match rest with
      | [] => .ok (place, some name)
      | _ :: _ => do
        checkName name
        match tree.node? (place ++ [name]) with
        | none => throw .noEntry
        | some .directory => tree.follow (place ++ [name]) rest
        | some _ => throw .needsDirectory

def checkPath (path : String) : Except IoError Unit :=
  if '\x00' ∈ path.toList then
    .error (.custom .invalidInput "file name contained an unexpected NUL byte")
  else if path = "" then .error .noEntry
  else if pathLimit ≤ path.utf8ByteSize then .error (.os 36)
  else .ok ()

def origin (tree : FileTree) (path : String) : Location :=
  if path.startsWith "/" then [] else tree.current

def namesOf (path : String) : List String :=
  ((path.toList.splitOn '/').filter (· ≠ [])).map String.ofList

def walk (tree : FileTree) (path : String) : Except IoError Target := do
  checkPath path
  let (parent, name) ← tree.follow (tree.origin path) (namesOf path)
  return { parent, name, trailing := path.endsWith "/" }

def find (tree : FileTree) (path : String) : Except IoError (Location × Node) := do
  let target ← tree.walk path
  match target.name with
  | none => return (target.parent, .directory)
  | some name =>
    checkName name
    match tree.node? (target.parent ++ [name]) with
    | none => throw .noEntry
    | some node =>
      if target.trailing ∧ node ≠ .directory then throw .needsDirectory
      return (target.parent ++ [name], node)

def add (tree : FileTree) (location : Location) (node : Node) : FileTree :=
  { tree with nodes := tree.nodes ++ [(location, node)] }

def addContents (tree : FileTree) (extent : Extent) : Nat × FileTree :=
  (tree.contents.size, { tree with contents := tree.contents.push extent })

def addFile (tree : FileTree) (location : Location) : Nat × FileTree :=
  let (index, tree) := tree.addContents (.zeroed 0)
  (index, tree.add location (.file index))

def extent (tree : FileTree) (index : Nat) : Extent :=
  tree.contents.getD index default

def modify (tree : FileTree) (index : Nat) (change : Extent → Extent) : FileTree :=
  { tree with contents := tree.contents.modify index change }

def openExisting (tree : FileTree) (path : String) : Except IoError Node := do
  match (← tree.find path).2 with
  | .socket _ => throw (.os 6)
  | node => return node

def openWritable (tree : FileTree) (path : String) : Except IoError Node := do
  match ← tree.openExisting path with
  | .directory => throw .foundDirectory
  | node => return node

/-- The location of a file to be created. A separator after its name is refused before the name. -/
def creatable (tree : FileTree) (path : String) : Except IoError Location := do
  let target ← tree.walk path
  match target.name with
  | none => throw .foundDirectory
  | some name =>
    if target.trailing then throw .foundDirectory
    checkName name
    return target.parent ++ [name]

/-- An entry opened for writing, made as an empty file if it is not there. -/
def openOrCreate (tree : FileTree) (path : String) : Except IoError (Node × FileTree) := do
  let location ← tree.creatable path
  match tree.node? location with
  | none =>
    let (index, tree) := tree.addFile location
    return (.file index, tree)
  | some .directory => throw .foundDirectory
  | some (.socket _) => throw (.os 6)
  | some node => return (node, tree)

/-- An entry opened for writing and emptied, made if it is not there. -/
def create (tree : FileTree) (path : String) : Except IoError (Node × FileTree) := do
  let (node, tree) ← tree.openOrCreate path
  match node with
  | .file index => return (node, tree.modify index (Extent.resize · 0))
  | _ => return (node, tree)

/-- A file made where no entry is: the index of its contents. -/
def createNew (tree : FileTree) (path : String) : Except IoError (Nat × FileTree) := do
  let location ← tree.creatable path
  if (tree.node? location).isSome then throw .entryExists
  return tree.addFile location

/-- Makes a file with these contents, or replaces its contents. -/
def store (tree : FileTree) (path : String) (bytes : ByteArray) : Except IoError FileTree := do
  match ← tree.create path with
  | (.file index, tree) => return tree.modify index fun _ => .ofBytes bytes
  | (_, tree) => return tree

def load (tree : FileTree) (path : String) : Except IoError ByteArray := do
  match ← tree.openExisting path with
  | .file index =>
    if addressSpace ≤ (tree.extent index).size then throw (.bare .outOfMemory)
    return (tree.extent index).toBytes
  | .directory => throw .foundDirectory
  | _ => return .empty

def remove (tree : FileTree) (path : String) : Except IoError FileTree := do
  let (location, node) ← tree.find path
  if node = .directory then throw .foundDirectory
  return { tree with nodes := tree.nodes.filter (·.1 ≠ location) }

def makeDirectories (tree : FileTree) (location : Location) : FileTree :=
  (List.range location.length).foldl (fun tree depth =>
    let place := location.take (depth + 1)
    if (tree.node? place).isSome then tree else tree.add place .directory) tree

/-- Makes the directory a path leads to and those on the way that are missing: how it went, and the
tree after it. A missing directory cannot be made by a name for itself. -/
def makePath (tree : FileTree) : Location → List String → Except IoError Unit × FileTree
  | _, [] => (.ok (), tree)
  | place, name :: rest =>
    if name = "." then tree.makePath place rest
    else if name = ".." then tree.makePath place.dropLast rest
    else match checkName name, tree.node? (place ++ [name]) with
      | .error cause, _ => (.error cause, tree)
      | .ok (), none =>
        if rest ≠ [] ∧ rest.all (· = ".") then (.error .noEntry, tree)
        else (tree.add (place ++ [name]) .directory).makePath (place ++ [name]) rest
      | .ok (), some .directory => tree.makePath (place ++ [name]) rest
      | .ok (), some _ =>
        (.error (if rest = [] then .entryExists else .needsDirectory), tree)

/-- Makes a directory by its path, with those above it: how it went, and the tree after it. -/
def makeDirectory (tree : FileTree) (path : String) : Except IoError Unit × FileTree :=
  match checkPath path with
  | .error cause => (.error cause, tree)
  | .ok () => tree.makePath (tree.origin path) (namesOf path)

def usual : FileTree :=
  let directories :=
    [["dev", "shm"], ["bin"], ["etc"], ["home"], ["proc"], ["root"], ["run"], ["sys"], ["tmp"],
      ["usr"], ["var", "lib"]]
  let devices :=
    [(["dev", "null"], .nullDevice), (["dev", "zero"], .zeroDevice),
      (["dev", "full"], .fullDevice)]
  devices.foldl (fun tree (location, node) => tree.add location node)
    (directories.foldl makeDirectories empty)

def entries (tree : FileTree) (directory : Location) : List (String × Node) :=
  tree.nodes.filterMap fun (location, node) =>
    match location.getLast? with
    | none => none
    | some name => if location.dropLast = directory then some (name, node) else none

def list (tree : FileTree) (path : String) : Except IoError (List (String × Node)) := do
  let (location, node) ← tree.find path
  if node ≠ .directory then throw .needsDirectory
  return tree.entries location

/-- The size of what a name stands for; only a regular file has one. -/
def sizeOf (tree : FileTree) : Node → Nat
  | .file index => (tree.extent index).size
  | _ => 0

end FileTree

end ChunkRelay
