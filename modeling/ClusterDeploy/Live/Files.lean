import ClusterDeploy.Files.System
import ClusterDeploy.Ledger.Document
import ClusterDeploy.Ledger.Location
import ClusterDeploy.Ledger.Store

/-!
# Files

Reading local files, and operations on ledgers that are kept in files.

## Main definitions

* `Live.readFile`, `Live.isFile` — local files.
* `Live.onLedger` — runs a computation on a ledger.

## Implementation notes

A ledger is read before each operation and written after it, next to its place first, so that its
file is always a whole one. A ledger that may only be read is not written.
-/

namespace ClusterDeploy.Live

/-- Why a file cannot be read or a directory cannot be made, from what the system says. -/
def faultOf : IO.Error → FileFault
  | .noFileOrDirectory _ _ _ => .notFound
  | .alreadyExists _ _ _ => .alreadyExists
  | .inappropriateType _ 20 _ => .notDirectory
  | .inappropriateType _ 21 _ => .isDirectory
  | .permissionDenied _ 13 _ => .permissionDenied
  | .hardwareFault 5 _ => .inputOutput
  | error => .other error.toString

/-- Does something with files; tells why it fails. -/
def attempt {α : Type} (action : IO α) : IO (Except FileFault α) := do
  return (← action.toBaseIO).mapError faultOf

/-- Reads a file. -/
def readFile (path : String) : IO (Except FileFault Bytes) :=
  attempt do return (← IO.FS.readBinFile path).toList

/-- Whether there is a regular file at a path. A directory can be opened, but no byte can be read
from it. What the system does not give the content of is taken for a file. -/
def isFile (path : String) : IO Bool := do
  match ← attempt (IO.FS.withFile path .read fun handle => handle.read 1) with
  | .ok _ | .error .permissionDenied | .error .inputOutput => return true
  | .error _ => return false

/-! ## Ledgers -/

/-- The directory in which a path lies, if the path names one. -/
def directoryOf (path : String) : Option String :=
  let above := (path.toList.reverse.dropWhile (· != '/')).drop 1
  if above.isEmpty then none else some (String.ofList above.reverse)

/-- Makes the directory in which a path lies. -/
def makeDirectory (path : String) : IO (Except FileFault Unit) :=
  match directoryOf path with
  | some directory => attempt (IO.FS.createDirAll directory)
  | none => return .ok ()

/-- The path of the file of a ledger, in which two dots take back the name before them. -/
def plainPath (path : String) : String :=
  "/".intercalate ((Text.components path).foldl FileSystem.enter (FileSystem.start path))

/-- Opens the ledger in a file. There may be an empty one where there is no file. -/
def openLedger (written path : String) (creates : Bool) :
    IO (Except Ledger.Fault Ledger.Database) := do
  match ← readFile path with
  | .error .notFound => return if creates then .ok .empty else .error (.cannotOpen written)
  | .error _ => return .error (.cannotOpen written)
  | .ok content =>
    match Ledger.Database.ofBytes? content with
    | some db => return .ok db
    | none => return .error .notADatabase

/-- Writes the ledger in a file. -/
def saveLedger (path : String) (db : Ledger.Database) : IO (Except Ledger.Fault Unit) := do
  let beside := path ++ ".new"
  let written ← attempt do
    IO.FS.writeBinFile beside ⟨db.toBytes.toArray⟩
    IO.FS.rename beside path
  return written.mapError fun _ => .cannotWrite

/-- Opens a ledger, runs a computation on it and writes it. -/
def withLedger {α : Type} (written : String) (a : Ledger.Action α) :
    IO (Except Ledger.Fault α) := do
  match ← makeDirectory written with
  | .error fault => return .error (.directory fault)
  | .ok () =>
    match Ledger.Location.parse written with
    | .error fault => return .error fault
    | .ok location =>
      match location.file with
      | none => return (a.runOn location.access .empty).1
      | some given =>
        let path := plainPath given
        match ← openLedger written path location.creates with
        | .error fault => return .error fault
        | .ok db =>
          let (result, after) := a.runOn location.access db
          if location.access = .reading then return result
          match ← saveLedger path after with
          | .error fault => return .error fault
          | .ok () => return result

/-- Runs a computation on the ledger at a location, as an operation of a deployment. -/
def onLedger {α : Type} (written operation : String) (a : Ledger.Action α) :
    IO (Except DeployError α) := do
  return (← withLedger written a).mapError (Ledger.Fault.toError operation)

end ClusterDeploy.Live
