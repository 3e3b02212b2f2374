import ClusterDeploy.Ledger.Cell

/-!
# The tables of the ledger

The ledger is a small relational database: a table of deployments, a table of the artifacts that
were staged for them, and a table of the versions of this layout that were put in place. Each table
may be missing.

## Main definitions

* `DeploymentRow`, `ArtifactRow` — rows, with one cell for each column.
* `DeploymentColumn`, `ArtifactColumn` — the columns, with their names and affinities.
* `DeploymentTable`, `Database` — the tables.

## Implementation notes

The last column of the deployments, the time of the cleanup, came with the second version of the
layout. While a table lacks it, its cells are empty.
-/

namespace ClusterDeploy.Ledger

/-- A row of the table of deployments. -/
structure DeploymentRow where
  applicationId : Cell
  jobName : Cell
  stagingDir : Cell
  replication : Cell
  replicationSource : Cell
  outcome : Cell
  failurePayload : Cell
  termination : Cell
  teardownError : Cell
  errorMessage : Cell
  startedAt : Cell
  finishedAt : Cell
  cleanedAt : Cell
  deriving DecidableEq, Repr, Inhabited

/-- The columns of the table of deployments. -/
inductive DeploymentColumn where
  | applicationId | jobName | stagingDir | replication | replicationSource | outcome
  | failurePayload | termination | teardownError | errorMessage | startedAt | finishedAt | cleanedAt
  deriving DecidableEq, Repr

namespace DeploymentColumn

/-- All columns in the order in which they are read. -/
def all : List DeploymentColumn :=
  [.applicationId, .jobName, .stagingDir, .replication, .replicationSource, .outcome,
    .failurePayload, .termination, .teardownError, .errorMessage, .startedAt, .finishedAt,
    .cleanedAt]

/-- The name of a column. -/
def name : DeploymentColumn → String
  | .applicationId => "application_id"
  | .jobName => "job_name"
  | .stagingDir => "staging_dir"
  | .replication => "replication"
  | .replicationSource => "replication_source"
  | .outcome => "outcome"
  | .failurePayload => "failure_payload"
  | .termination => "termination"
  | .teardownError => "teardown_error"
  | .errorMessage => "error_message"
  | .startedAt => "started_at_unix"
  | .finishedAt => "finished_at_unix"
  | .cleanedAt => "cleaned_at_unix"

/-- The position of a column among those that are read. -/
def index (c : DeploymentColumn) : Nat :=
  all.idxOf c

/-- What values of a column are converted to. -/
def affinity : DeploymentColumn → Affinity
  | .replication | .startedAt | .finishedAt | .cleanedAt => .number
  | .failurePayload => .none
  | _ => .text

/-- Whether each row has to have a value in a column. -/
def isMandatory : DeploymentColumn → Bool
  | .jobName | .stagingDir | .replication | .replicationSource | .startedAt => true
  | _ => false

end DeploymentColumn

namespace DeploymentRow

/-- The cell in a column. -/
def get (row : DeploymentRow) : DeploymentColumn → Cell
  | .applicationId => row.applicationId
  | .jobName => row.jobName
  | .stagingDir => row.stagingDir
  | .replication => row.replication
  | .replicationSource => row.replicationSource
  | .outcome => row.outcome
  | .failurePayload => row.failurePayload
  | .termination => row.termination
  | .teardownError => row.teardownError
  | .errorMessage => row.errorMessage
  | .startedAt => row.startedAt
  | .finishedAt => row.finishedAt
  | .cleanedAt => row.cleanedAt

/-- The row with another cell in a column. -/
def set (row : DeploymentRow) (cell : Cell) : DeploymentColumn → DeploymentRow
  | .applicationId => { row with applicationId := cell }
  | .jobName => { row with jobName := cell }
  | .stagingDir => { row with stagingDir := cell }
  | .replication => { row with replication := cell }
  | .replicationSource => { row with replicationSource := cell }
  | .outcome => { row with outcome := cell }
  | .failurePayload => { row with failurePayload := cell }
  | .termination => { row with termination := cell }
  | .teardownError => { row with teardownError := cell }
  | .errorMessage => { row with errorMessage := cell }
  | .startedAt => { row with startedAt := cell }
  | .finishedAt => { row with finishedAt := cell }
  | .cleanedAt => { row with cleanedAt := cell }

/-- Whether a row belongs to an application. -/
def isOf (row : DeploymentRow) (id : String) : Bool :=
  row.applicationId == .text id

end DeploymentRow

/-- A row of the table of artifacts. -/
structure ArtifactRow where
  applicationId : Cell
  position : Cell
  remoteName : Cell
  role : Cell
  localPath : Cell
  remotePath : Cell
  sha256 : Cell
  len : Cell
  modificationTime : Cell
  deriving DecidableEq, Repr, Inhabited

/-- The columns of the table of artifacts. -/
inductive ArtifactColumn where
  | applicationId | position | remoteName | role | localPath | remotePath | sha256 | len
  | modificationTime
  deriving DecidableEq, Repr

namespace ArtifactColumn

/-- The columns that are read, in order. -/
def selected : List ArtifactColumn :=
  [.remoteName, .role, .localPath, .remotePath, .sha256, .len, .modificationTime]

/-- All columns. -/
def all : List ArtifactColumn :=
  .applicationId :: .position :: selected

/-- The name of a column. -/
def name : ArtifactColumn → String
  | .applicationId => "application_id"
  | .position => "position"
  | .remoteName => "remote_name"
  | .role => "role"
  | .localPath => "local_path"
  | .remotePath => "remote_path"
  | .sha256 => "sha256"
  | .len => "len"
  | .modificationTime => "modification_time"

/-- The position of a column among those that are read. -/
def index (c : ArtifactColumn) : Nat :=
  selected.idxOf c

/-- What values of a column are converted to. -/
def affinity : ArtifactColumn → Affinity
  | .position | .len | .modificationTime => .number
  | _ => .text

end ArtifactColumn

namespace ArtifactRow

/-- The cell in a column. -/
def get (row : ArtifactRow) : ArtifactColumn → Cell
  | .applicationId => row.applicationId
  | .position => row.position
  | .remoteName => row.remoteName
  | .role => row.role
  | .localPath => row.localPath
  | .remotePath => row.remotePath
  | .sha256 => row.sha256
  | .len => row.len
  | .modificationTime => row.modificationTime

/-- The row with another cell in a column. -/
def set (row : ArtifactRow) (cell : Cell) : ArtifactColumn → ArtifactRow
  | .applicationId => { row with applicationId := cell }
  | .position => { row with position := cell }
  | .remoteName => { row with remoteName := cell }
  | .role => { row with role := cell }
  | .localPath => { row with localPath := cell }
  | .remotePath => { row with remotePath := cell }
  | .sha256 => { row with sha256 := cell }
  | .len => { row with len := cell }
  | .modificationTime => { row with modificationTime := cell }

/-- Whether a row belongs to an application. -/
def isOf (row : ArtifactRow) (id : String) : Bool :=
  row.applicationId == .text id

end ArtifactRow

/-- The table of deployments. -/
structure DeploymentTable where
  /-- Whether the table has the column for the time of the cleanup. -/
  hasCleanedAt : Bool
  rows : List DeploymentRow
  deriving DecidableEq, Repr, Inhabited

/-- The tables of the ledger. -/
structure Database where
  /-- The versions of the layout that were put in place. -/
  versions : Option (List Int)
  deployments : Option DeploymentTable
  artifacts : Option (List ArtifactRow)
  /-- Whether the deployments are indexed by their start. -/
  startIndex : Bool
  deriving DecidableEq, Repr, Inhabited

/-- The database before anything was put into it. -/
def Database.empty : Database :=
  ⟨none, none, none, false⟩

end ClusterDeploy.Ledger
