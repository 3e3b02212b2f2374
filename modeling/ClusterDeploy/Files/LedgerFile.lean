import ClusterDeploy.Files.System
import ClusterDeploy.Ledger.Location

/-!
# Ledgers in files

Each operation on a ledger opens its database anew.

## Main definitions

* `FileSystem.onLedger` — runs a computation on the database of a ledger.
* `FileSystem.migrateLedger`, `FileSystem.listRecent` — operations that may not need the database.

## Implementation notes

The directory of a ledger is made when it is missing, and so is the database itself. The directory
is that of the location as it is written, also if the location is no path. In the path of a ledger
two dots take back the name before them, whatever that name leads to, but no name may be too long or
lie below a file.
-/

namespace ClusterDeploy.FileSystem

/-- The place that the names of a path lead to from a place, if two dots take back the name before
them. No name may be too long or lie below a file. -/
def lexicalPlace (fs : FileSystem) : List String → List String → Option (List String)
  | place, [] => some place
  | place, name :: rest =>
    let next := enter place name
    if name == ".." then fs.lexicalPlace next rest
    else if isTooLong name then none
    else match fs.node? place with
      | none | some .directory => fs.lexicalPlace next rest
      | some _ => none

/-- The greatest number of bytes in the path of a ledger. -/
def maxLedgerPath : Nat := 511

/-- The place of the file of a ledger. -/
def ledgerPlace (fs : FileSystem) (path : String) : Option (List String) :=
  let names := Text.components path
  if maxLedgerPath < names.foldl (fun size name => size + name.utf8ByteSize + 1) 0 then none
  else fs.lexicalPlace (start path) names

/-- Whether a file can be made at a place. -/
def canMake (fs : FileSystem) (place : List String) : Bool :=
  fs.node? place == none && fs.node? place.dropLast == some .directory

/-- Opens the database of a ledger: its place and its content. An empty file is an empty database.
A file that cannot be read is not opened, or it turns out when it is read. -/
def openDatabase (fs : FileSystem) (written : String) (location : Ledger.Location)
    (path : String) : Except Ledger.Fault (List String × Ledger.Database) :=
  match fs.ledgerPlace path with
  | none => .error (.cannotOpen written)
  | some place =>
    match fs.node? place with
    | none =>
      if location.creates && fs.canMake place then .ok (place, .empty)
      else .error (.cannotOpen written)
    | some .directory =>
      .error (if location.access = .reading then .cannotRead else .cannotOpen written)
    | some (.unreadable fault) =>
      .error (if fault = .inputOutput then .cannotRead else .cannotOpen written)
    | some (.database db) => .ok (place, db)
    | some (.file []) => .ok (place, .empty)
    | some (.file _) => .error .notADatabase

/-- Makes the directory of a ledger. -/
def makeLedgerDirectory (fs : FileSystem) (written : String) :
    Except FileFault Unit × FileSystem :=
  let names := (Text.components written).dropLast
  match refusal? ("/".intercalate names) with
  | some fault => (.error fault, fs)
  | none => fs.makeDirectories (start written) names

/-- Runs a computation on the ledger at a location. -/
def onLedger {α : Type} (fs : FileSystem) (written operation : String) (a : Ledger.Action α) :
    Except DeployError α × FileSystem :=
  let finish (result : Except Ledger.Fault α) : Except DeployError α :=
    result.mapError (Ledger.Fault.toError operation)
  match fs.makeLedgerDirectory written with
  | (.error fault, made) => (finish (.error (.directory fault)), made)
  | (.ok (), made) =>
    match Ledger.Location.parse written with
    | .error fault => (finish (.error fault), made)
    | .ok location =>
      match location.file with
      | none => (finish (a.runOn location.access .empty).1, made)
      | some path =>
        match made.openDatabase written location path with
        | .error fault => (finish (.error fault), made)
        | .ok (place, db) =>
          let (result, db') := a.runOn location.access db
          (finish result, made.put place (.database db'))

/-- Moves the layout of a ledger to a version. The database is not opened for a version that does
not exist. -/
def migrateLedger (fs : FileSystem) (path : String) (target : Int) :
    Except DeployError Unit × FileSystem :=
  let operation := "apply_migration"
  if Ledger.isTarget target then fs.onLedger path operation (Ledger.applyMigration target)
  else (.error ((Ledger.Fault.invalidTarget target).toError operation), fs)

/-- The newest deployments. The database is not opened if none are wanted. -/
def listRecent (fs : FileSystem) (path : String) (limit : Nat) :
    Except DeployError (List DeploymentRecord) × FileSystem :=
  if limit = 0 then (.ok [], fs)
  else fs.onLedger path "list_recent" (Ledger.listRecent limit)

end ClusterDeploy.FileSystem
