import ClusterDeploy.Files.Fault
import ClusterDeploy.Ledger.Store
import ClusterDeploy.Text.FileName

/-!
# Local files

The files below a working directory, among them the databases of ledgers and regular files that
cannot be read.

## Main definitions

* `FileNode`, `FileSystem` — what lies at a path, and all of it.
* `FileSystem.locate` — follows a path.
* `FileSystem.read`, `FileSystem.isFile`, `FileSystem.write`, `FileSystem.removeFile`.
* `FileSystem.makeDirectories` — makes a directory with the directories above it.

## Implementation notes

A place is a list of names, starting at the working directory. The places above it begin with two
dots, and those below the root with a slash. A path that ends with a slash means a directory. A name
has at most 255 bytes, and a path fewer than 4096.

Whether there is a regular file at a path is told without reading it. The system may still refuse to
give its content. Which bytes a database is kept in is not said here: the file system brings them
along.
-/

namespace ClusterDeploy

/-- What lies at a path. -/
inductive FileNode where
  | file (content : Bytes)
  /-- A regular file whose content the system does not give. -/
  | unreadable (fault : FileFault)
  | directory
  | database (db : Ledger.Database)
  deriving DecidableEq, Repr

/-- All that lies below the working directory, by its place. -/
structure FileSystem where
  nodes : List (List String × FileNode)
  /-- The bytes of the file in which a database is kept. -/
  image : Ledger.Database → Bytes

namespace FileSystem

/-- An empty working directory. Outside of it lies the memory of the running program, which is a
regular file that cannot be read from its start. The bytes of a database are none that this library
writes, and all that it tells of them is that they are no text. -/
def empty : FileSystem where
  nodes := [(["/", "proc"], .directory), (["/", "proc", "self"], .directory),
    (["/", "proc", "self", "mem"], .unreadable .inputOutput)]
  image _ := [0xFF]

/-! ## Places -/

/-- The root. -/
def root : List String :=
  ["/"]

/-- Where a path begins. -/
def start (path : String) : List String :=
  if path.startsWith "/" then root else []

/-- Whether a place is the root, the working directory or above it. -/
def isOutside (place : List String) : Bool :=
  place == root || place.all (· == "..")

/-- What lies at a place. -/
def node? (fs : FileSystem) (place : List String) : Option FileNode :=
  if isOutside place then some .directory
  else (fs.nodes.find? fun entry => entry.1 == place).map (·.2)

/-- Puts something at a place. -/
def put (fs : FileSystem) (place : List String) (node : FileNode) : FileSystem :=
  { fs with nodes := (place, node) :: fs.nodes.filter fun entry => entry.1 != place }

/-- Removes what is at a place. -/
def erase (fs : FileSystem) (place : List String) : FileSystem :=
  { fs with nodes := fs.nodes.filter fun entry => entry.1 != place }

/-- The place to which a name leads from a place. -/
def enter (place : List String) (name : String) : List String :=
  if name != ".." then place ++ [name]
  else if place == root then root
  else if place.all (· == "..") then place ++ [".."]
  else place.dropLast

/-- Whether a name is too long for a file. -/
def isTooLong (name : String) : Bool :=
  255 < name.utf8ByteSize

/-- Follows the names of a path from a place. Each name but the last has to lead to a directory. -/
def walk (fs : FileSystem) : List String → List String → Except FileFault (List String)
  | place, [] => .ok place
  | place, name :: rest =>
    match fs.node? place with
    | none => .error .notFound
    | some .directory =>
      if isTooLong name then .error .nameTooLong else fs.walk (enter place name) rest
    | some _ => .error .notDirectory

/-- What makes a path unfit for all files. -/
def refusal? (path : String) : Option FileFault :=
  if path.contains '\x00' then some .invalidName
  else if 4096 ≤ path.utf8ByteSize then some .nameTooLong
  else none

/-- Whether a path can only mean a directory. -/
def meansDirectory (path : String) : Bool :=
  match (Text.splitAt '/' path.toList).getLast? with
  | some last => last.isEmpty || last == ['.']
  | none => true

/-- Follows a path to what lies there. -/
def locate (fs : FileSystem) (path : String) : Except FileFault (List String × FileNode) :=
  if path.isEmpty then .error .notFound
  else match refusal? path with
    | some fault => .error fault
    | none => do
      let place ← fs.walk (start path) (Text.components path)
      match fs.node? place with
      | none => .error .notFound
      | some .directory => .ok (place, .directory)
      | some node => if meansDirectory path then .error .notDirectory else .ok (place, node)

/-! ## Files -/

/-- Reads a file. -/
def read (fs : FileSystem) (path : String) : Except FileFault Bytes :=
  match fs.locate path with
  | .error fault => .error fault
  | .ok (_, .file content) => .ok content
  | .ok (_, .unreadable fault) => .error fault
  | .ok (_, .directory) => .error .isDirectory
  | .ok (_, .database db) => .ok (fs.image db)

/-- Whether there is a regular file at a path, which need not be one that can be read. -/
def isFile (fs : FileSystem) (path : String) : Bool :=
  match fs.locate path with
  | .ok (_, .directory) => false
  | .ok _ => true
  | .error _ => false

/-- Makes the directories on a path from a place, as far as nothing is in the way. The last name
that leads to a file is in the way; if it is not the last of the path, it is no directory. -/
def makeDirectories (fs : FileSystem) :
    List String → List String → Except FileFault Unit × FileSystem
  | _, [] => (.ok (), fs)
  | place, name :: rest =>
    let next := enter place name
    if isTooLong name then (.error .nameTooLong, fs)
    else match fs.node? next with
      | none => makeDirectories (fs.put next .directory) next rest
      | some .directory => makeDirectories fs next rest
      | some _ => (.error (if rest.isEmpty then .alreadyExists else .notDirectory), fs)

/-- Makes a directory, with the directories above it. -/
def writeDirectory (fs : FileSystem) (path : String) : FileSystem :=
  (fs.makeDirectories (start path) (Text.components path)).2

/-- Writes a file, with the directories above it, unless something else is in the way. A file that
cannot be read is not written either. -/
def write (fs : FileSystem) (path : String) (content : Bytes) : FileSystem :=
  let names := Text.components path
  let place := names.foldl enter (start path)
  match fs.makeDirectories (start path) names.dropLast with
  | (.ok (), made) =>
    match made.node? place with
    | some .directory | some (.unreadable _) => made
    | _ => made.put place (.file content)
  | (.error _, made) => made

/-- Removes a file, if there is one. A file that cannot be read is not removed either. -/
def removeFile (fs : FileSystem) (path : String) : FileSystem :=
  match fs.locate path with
  | .ok (_, .directory) | .ok (_, .unreadable _) => fs
  | .ok (place, _) => fs.erase place
  | .error _ => fs

end FileSystem

end ClusterDeploy
