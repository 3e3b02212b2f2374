import ClusterDeploy.Error
import ClusterDeploy.Files.Fault

/-!
# Failures of the ledger

Why an operation on the ledger fails. Whatever the cause, the deployment sees a failure of the
storage that names the operation.

## Main definitions

* `Ledger.Fault`, `Ledger.Fault.message` — the causes.
* `Ledger.Fault.toError` — the failure that the deployment sees.
-/

namespace ClusterDeploy.Ledger

/-- Why an operation on the ledger fails. -/
inductive Fault where
  /-- The directory of the ledger cannot be made. -/
  | directory (fault : FileFault)
  /-- The path of the ledger has a NUL after this number of bytes. -/
  | nulByte (position : Nat)
  /-- The location names a host. -/
  | badHost (name : String)
  /-- There is no mode with this name for an aspect of a ledger. -/
  | unknownMode (aspect mode : String)
  /-- A mode would allow more than a mode before it. -/
  | modeNotAllowed (aspect mode : String)
  /-- There is no file system with this name. -/
  | unknownSystem (name : String)
  /-- The ledger cannot be opened. -/
  | cannotOpen (path : String)
  /-- The ledger cannot be read. -/
  | cannotRead
  /-- The file is no database. -/
  | notADatabase
  /-- The ledger cannot be written. -/
  | cannotWrite
  /-- There is no layout to migrate to with this number. -/
  | invalidTarget (version : Int)
  /-- No step of the layout has this number. -/
  | undefinedVersion (version : Int)
  /-- The layout is not in place. -/
  | notInitialized
  /-- A table is missing. -/
  | noSuchTable (name : String)
  /-- A column is missing. -/
  | noSuchColumn (name : String)
  /-- The values in these columns have to be unique. -/
  | notUnique (columns : String)
  /-- A column has to have a value. -/
  | missingValue (column : String)
  /-- A number does not fit in a signed word. -/
  | outOfRange
  /-- The clock stands before 1970. -/
  | beforeEpoch
  /-- The clock stands too late. -/
  | tooLate
  /-- No deployment is known that could be completed. -/
  | unknownCompletion
  /-- No deployment is known that could be aborted. -/
  | unknownAbort
  /-- A cell holds a value of another kind than its column. -/
  | wrongKind (kind : String) (index : Nat) (column : String)
  /-- The number of copies in a row does not fit. -/
  | badFactor
  /-- It is not known who chose the number of copies. -/
  | badSource (text : String)
  /-- The id of a row cannot be read. -/
  | badApplication (text : String)
  /-- The outcome of a row cannot be read. -/
  | badOutcome (text : String)
  /-- The termination of a row cannot be read. -/
  | badTermination (text : String)
  /-- The role of an artifact cannot be read. -/
  | badRole (text : String)
  /-- A time in a row lies before 1970. -/
  | negativeTime
  /-- A size in a row is negative. -/
  | negativeValue
  deriving DecidableEq, Repr

namespace Fault

/-- What is said about a failure. -/
def message : Fault → String
  | .directory fault => fault.message
  | .nulByte position => s!"nul byte found in provided data at position: {position}"
  | .badHost name => s!"invalid uri authority: {name}"
  | .unknownMode aspect mode => s!"no such {aspect} mode: {mode}"
  | .modeNotAllowed aspect mode => s!"{aspect} mode not allowed: {mode}"
  | .unknownSystem name => s!"no such vfs: {name}"
  | .cannotOpen path => s!"unable to open database file: {path}"
  | .cannotRead => "disk I/O error"
  | .notADatabase => "file is not a database"
  | .cannotWrite => "attempt to write a readonly database"
  | .invalidTarget version => s!"invalid migration target version '{version}'"
  | .undefinedVersion version => s!"migration version '{version}' is not defined"
  | .notInitialized =>
    "database schema is not initialized; apply migrations before recording deployments"
  | .noSuchTable name => s!"no such table: {name}"
  | .noSuchColumn name => s!"no such column: {name}"
  | .notUnique columns => s!"UNIQUE constraint failed: {columns}"
  | .missingValue column => s!"NOT NULL constraint failed: {column}"
  | .outOfRange => "value exceeds i64 range"
  | .beforeEpoch =>
    "time before unix epoch is not supported: second time provided was later than self"
  | .tooLate => "unix timestamp seconds exceed i64 range"
  | .unknownCompletion => "deployment was not found for completion"
  | .unknownAbort => "deployment was not found for abort"
  | .wrongKind kind index column => s!"Invalid column type {kind} at index: {index}, name: {column}"
  | .badFactor => "replication factor out of range in sqlite record"
  | .badSource text => s!"unknown replication source '{text}' in sqlite record"
  | .badApplication text => s!"malformed application id '{text}' in sqlite record"
  | .badOutcome text => s!"unknown job outcome '{text}' in sqlite record"
  | .badTermination text => s!"unknown termination state '{text}' in sqlite record"
  | .badRole text => s!"unknown artifact role '{text}' in sqlite record"
  | .negativeTime => "negative unix timestamps are not supported"
  | .negativeValue => "negative value in sqlite record"

/-- The failure that a deployment sees when an operation fails. -/
def toError (operation : String) (fault : Fault) : DeployError :=
  .ofKind .storageFailure s!"deployment ledger '{operation}' failed: {fault.message}"

end Fault

end ClusterDeploy.Ledger
