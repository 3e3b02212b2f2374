import ClusterDeploy.Attempt
import ClusterDeploy.Counter
import ClusterDeploy.Files.System
import ClusterDeploy.Storage.Call

/-!
# A storage in memory

A simulation of the shared storage: files by their paths, with a clock that counts the uploads.

## Main definitions

* `MemoryStorage` — the storage and its files.
* `MemoryStorage.answer` — what it does when it is called.

## Implementation notes

Files are kept in ascending order of their paths. There are no directories: a directory is the set
of the files whose paths begin with its path and a slash.
-/

namespace ClusterDeploy

/-- A file in the storage. -/
structure StoredFile where
  content : Bytes
  replication : UInt16
  modificationTime : UInt64
  deriving DecidableEq, Repr, Inhabited

/-- The status of a file. -/
def StoredFile.status (f : StoredFile) : FileStatus :=
  ⟨UInt64.ofNat f.content.length, f.replication, f.modificationTime⟩

/-- How often the storage was called. -/
structure StorageCounts where
  uploads : Counter
  setReplication : Counter
  stats : Counter
  deletes : Counter
  deriving DecidableEq, Repr, Inhabited

/-- A storage in memory. -/
structure MemoryStorage where
  home : String
  defaultReplication : UInt16
  maxReplication : UInt16
  files : List (String × StoredFile)
  clock : UInt64
  counts : StorageCounts
  deriving DecidableEq, Repr, Inhabited

namespace MemoryStorage

/-- An empty storage. -/
def empty (home : String) (defaultReplication maxReplication : UInt16) : MemoryStorage :=
  ⟨home, defaultReplication, maxReplication, [], 0, ⟨0, 0, 0, 0⟩⟩

/-- The file at a path. -/
def file? (s : MemoryStorage) (path : String) : Option StoredFile :=
  (s.files.find? fun entry => entry.1 == path).map (·.2)

/-- Puts a file at a path into files whose paths ascend. -/
def insertFile (path : String) (file : StoredFile) :
    List (String × StoredFile) → List (String × StoredFile)
  | [] => [(path, file)]
  | entry :: rest =>
    if path < entry.1 then (path, file) :: entry :: rest
    else if path = entry.1 then (path, file) :: rest
    else entry :: insertFile path file rest

/-- Changes the file at a path, if there is one. -/
def changeFile (s : MemoryStorage) (path : String) (change : StoredFile → StoredFile) :
    MemoryStorage :=
  { s with
    files := s.files.map fun entry => if entry.1 == path then (path, change entry.2) else entry }

/-- Writes a file, in the place of the one that is there. -/
def upload (s : MemoryStorage) (path : String) (content : Bytes) : MemoryStorage :=
  let time := s.clock + 1
  { s with
    counts := { s.counts with uploads := s.counts.uploads + 1 }
    clock := time
    files := insertFile path ⟨content, s.defaultReplication, time⟩ s.files }

/-- Changes the number of copies of a file. -/
def setReplication (s : MemoryStorage) (path : String) (factor : UInt16) :
    Except DeployError Unit × MemoryStorage :=
  let counted :=
    { s with counts := { s.counts with setReplication := s.counts.setReplication + 1 } }
  if s.maxReplication < factor then
    (.error (Storage.failure (s!"Requested replication factor of {factor.toNat} " ++
      s!"exceeds maximum of {s.maxReplication.toNat}")), counted)
  else if (s.file? path).isNone then
    (.error (Storage.failure s!"file does not exist: {path}"), counted)
  else (.ok (), counted.changeFile path fun file => { file with replication := factor })

/-- The status of a file. -/
def stat (s : MemoryStorage) (path : String) : Option FileStatus × MemoryStorage :=
  ((s.file? path).map StoredFile.status,
    { s with counts := { s.counts with stats := s.counts.stats + 1 } })

/-- Whether a path is a given one or lies below it. -/
def isBelow (dir path : String) : Bool :=
  path == dir || path.startsWith (Storage.withoutSlashes dir ++ "/")

/-- Deletes a file and all that lies below its path; tells whether there was anything. -/
def deleteRecursive (s : MemoryStorage) (path : String) : Bool × MemoryStorage :=
  let kept := s.files.filter fun entry => !isBelow path entry.1
  (kept.length != s.files.length,
    { s with counts := { s.counts with deletes := s.counts.deletes + 1 }, files := kept })

/-- What the storage does when it is called, with the local files at that moment. -/
def answer (fs : FileSystem) (s : MemoryStorage) :
    (call : Storage.Call) → Except DeployError call.Value × MemoryStorage
  | .homeDirectory => (.ok s.home, s)
  | .defaultReplication => (.ok s.defaultReplication, s)
  | .upload localPath remotePath =>
    match fs.read localPath with
    | .ok content => (.ok (), s.upload remotePath content)
    | .error fault => (.error (Storage.unreadable localPath fault), s)
  | .setReplication path factor => s.setReplication path factor
  | .stat path =>
    let (status, s') := s.stat path
    (.ok status, s')
  | .deleteRecursive path =>
    let (removed, s') := s.deleteRecursive path
    (.ok removed, s')

/-- Removes a file behind the back of its users; tells whether there was one. -/
def removeFile (s : MemoryStorage) (path : String) : Bool × MemoryStorage :=
  ((s.file? path).isSome, { s with files := s.files.filter fun entry => entry.1 != path })

/-- Changes the number of copies of a file behind the back of its users; tells whether there is
one. -/
def overwriteReplication (s : MemoryStorage) (path : String) (factor : UInt16) :
    Bool × MemoryStorage :=
  ((s.file? path).isSome, s.changeFile path fun file => { file with replication := factor })

end MemoryStorage

end ClusterDeploy
