import ClusterDeploy.Ledger.Call
import ClusterDeploy.Ledger.Record

/-!
# Operations on the ledger

What a deployment records, and what can be looked up later.

## Main definitions

* `recordStarted`, `recordCompleted`, `recordAborted`, `markCleaned` — recording.
* `deployment`, `listRecent`, `listRequiringInspection` — looking up.
* `Call.action`, `Call.operation` — what a deployment tells the ledger, as a computation on it.

## Implementation notes

Recording a start that is recorded already replaces the record and its artifacts, except that the
time of the cleanup stays. It is one transaction. All other recordings change a single row.
-/

namespace ClusterDeploy.Ledger

/-! ## Recording -/

/-- The row of a deployment that starts again: all but the time of the cleanup is new. -/
def DeploymentRow.restart (old new : DeploymentRow) : DeploymentRow :=
  { new with cleanedAt := old.cleanedAt }

/-- Puts the row of a deployment that starts into the table, in the place of the row that the
application has. -/
def startRow (id : String) (new : DeploymentRow) (rows : List DeploymentRow) :
    List DeploymentRow :=
  if rows.any fun row => row.isOf id then
    rows.map fun row => if row.isOf id then row.restart new else row
  else rows ++ [new]

/-- The columns whose values have to be unique together among the artifacts. -/
def artifactKey : String :=
  s!"{artifactsName}.{ArtifactColumn.applicationId.name}, " ++
    s!"{artifactsName}.{ArtifactColumn.remoteName.name}"

/-- Adds the row of an artifact, whose name may not be there for the application yet. -/
def addArtifact (id : String) (position : Nat) (a : StagedArtifact) : Action Unit := do
  let row ← ofReading (ArtifactRow.ofArtifact id position a)
  let rows ← getArtifacts
  if rows.any fun other => other.isOf id && other.remoteName == row.remoteName then
    throw (.notUnique artifactKey)
  setArtifacts (rows ++ [row])

/-- Adds the rows of artifacts, the first of which stands at a given position. -/
def addArtifacts (id : String) : Nat → List StagedArtifact → Action Unit
  | _, [] => return ()
  | position, a :: rest => do
    addArtifact id position a
    addArtifacts id (position + 1) rest

/-- Records that a deployment starts. -/
def recordStarted (now : Int) (jobName : String) (m : Manifest) : Action Unit := do
  ensureReady
  transaction do
    let seconds ← ofReading (toSeconds now)
    let table ← getDeployments
    let id := m.applicationId.display
    setDeployments
      { table with rows := startRow id (DeploymentRow.ofStart jobName m seconds) table.rows }
    let rows ← getArtifacts
    setArtifacts (rows.filter fun row => !row.isOf id)
    addArtifacts id 0 m.artifacts

/-- Changes the row of an application; tells whether there is one. -/
def updateRow (id : ApplicationId) (change : DeploymentRow → DeploymentRow) : Action Bool := do
  let table ← getDeployments
  setDeployments
    { table with rows := table.rows.map fun row => if row.isOf id.display then change row else row }
  return table.rows.any fun row => row.isOf id.display

/-- The row of a deployment that ended with a report. -/
def DeploymentRow.complete (report : DeploymentReport) (seconds : Nat) (row : DeploymentRow) :
    DeploymentRow :=
  { row with
    outcome := .text report.outcome.name
    failurePayload := Cell.ofBytes? report.outcome.cause?
    termination := .text report.termination.name
    teardownError := Cell.ofText? (report.teardownError.map DeployError.display)
    errorMessage := .null
    finishedAt := .integer seconds }

/-- Records that a deployment ended with a report. -/
def recordCompleted (now : Int) (report : DeploymentReport) : Action Unit := do
  ensureReady
  let seconds ← ofReading (toSeconds now)
  let found ← updateRow report.applicationId (DeploymentRow.complete report seconds)
  if !found then throw .unknownCompletion

/-- The row of a deployment that ended with a failure. -/
def DeploymentRow.abort (error : DeployError) (termination : Option Termination)
    (teardownError : Option DeployError) (seconds : Nat) (row : DeploymentRow) : DeploymentRow :=
  { row with
    termination := Cell.ofText? (termination.map Termination.name)
    teardownError := Cell.ofText? (teardownError.map DeployError.display)
    errorMessage := .text error.display
    finishedAt := .integer seconds }

/-- Records that a deployment ended with a failure. -/
def recordAborted (now : Int) (id : ApplicationId) (error : DeployError)
    (termination : Option Termination) (teardownError : Option DeployError) : Action Unit := do
  ensureReady
  let seconds ← ofReading (toSeconds now)
  let found ← updateRow id (DeploymentRow.abort error termination teardownError seconds)
  if !found then throw .unknownAbort

/-- Records that the staging directory of a deployment is gone; tells whether the deployment is
known. -/
def markCleaned (now : Int) (id : ApplicationId) : Action Bool := do
  ensureReady
  let seconds ← ofReading (toSeconds now)
  let _ ← getReadable
  updateRow id fun row => { row with cleanedAt := .integer seconds }

/-! ## Looking up -/

/-- The record of an application. -/
def deployment (id : ApplicationId) : Action (Option DeploymentRecord) := do
  ensureReady
  let table ← getReadable
  let records ← readRecords (table.rows.filter fun row => row.isOf id.display)
  return records.getLast?

/-- Whether one row comes before another in a list: later starts come first, then greater ids. -/
def DeploymentRow.newer (a b : DeploymentRow) : Bool :=
  if a.startedAt.le b.startedAt && b.startedAt.le a.startedAt then
    b.applicationId.le a.applicationId
  else b.startedAt.le a.startedAt

/-- The newest deployments, at most a given number of them. -/
def listRecent (limit : Nat) : Action (List DeploymentRecord) := do
  if limit = 0 then return []
  ensureReady
  let _ ← ofReading (toWord limit)
  let table ← getReadable
  readRecords ((table.rows.mergeSort DeploymentRow.newer).take limit)

/-- Whether somebody has to look after the cluster of a row. -/
def DeploymentRow.isSuspect (row : DeploymentRow) : Bool :=
  !row.teardownError.isNull || row.termination == .text Termination.running.name

/-- The deployments whose clusters somebody has to look after, newest first. -/
def listRequiringInspection : Action (List DeploymentRecord) := do
  ensureReady
  let table ← getReadable
  readRecords ((table.rows.filter DeploymentRow.isSuspect).mergeSort DeploymentRow.newer)

/-! ## Calls -/

/-- What a deployment tells the ledger at a given time, as a computation on the ledger. -/
def Call.action (now : Int) : (c : Call) → Action c.Value
  | .recordStarted jobName manifest => Ledger.recordStarted now jobName manifest
  | .recordCompleted report => Ledger.recordCompleted now report
  | .recordAborted id error termination teardownError =>
    Ledger.recordAborted now id error termination teardownError
  | .markCleaned id => Ledger.markCleaned now id

/-- The name of the operation in messages. -/
def Call.operation : Call → String
  | .recordStarted _ _ => "record_started"
  | .recordCompleted _ => "record_completed"
  | .recordAborted _ _ _ _ => "record_aborted"
  | .markCleaned _ => "mark_cleaned"

end ClusterDeploy.Ledger
