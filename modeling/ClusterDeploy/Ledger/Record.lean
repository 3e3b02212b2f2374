import ClusterDeploy.Artifact
import ClusterDeploy.Ledger.Schema
import ClusterDeploy.Report

/-!
# Records and rows

How the record of a deployment is written into the rows of the tables, and read back.

## Main definitions

* `DeploymentRow.ofStart`, `ArtifactRow.ofArtifact` — the rows of a deployment that starts.
* `readRow`, `readArtifact` — reading the rows.
* `artifactsOf`, `readRecords` — the artifacts of a deployment, and whole records.

## Implementation notes

Cells are checked in a fixed order, so that of several bad cells always the same one is reported:
first the kinds of the cells that are converted, then their values, and the plain texts where they
are used.
-/

namespace ClusterDeploy.Ledger

/-! ## Cells -/

/-- A cell of a row, to be read as the value of a column. -/
structure Field where
  cell : Cell
  index : Nat
  column : String

/-- The failure of a cell that holds a value of another kind. -/
def Field.wrongKind (f : Field) : Fault :=
  .wrongKind f.cell.kind f.index f.column

/-- Reads a text. -/
def Field.text (f : Field) : Except Fault String :=
  match f.cell with
  | .text s => .ok s
  | _ => .error f.wrongKind

/-- Reads a whole number. -/
def Field.integer (f : Field) : Except Fault Int :=
  match f.cell with
  | .integer i => .ok i
  | _ => .error f.wrongKind

/-- Reads bytes. -/
def Field.bytes (f : Field) : Except Fault Bytes :=
  match f.cell with
  | .blob b => .ok b
  | _ => .error f.wrongKind

/-- Reads a value that may be missing. -/
def Field.optional {α : Type} (read : Field → Except Fault α) (f : Field) :
    Except Fault (Option α) :=
  if f.cell.isNull then .ok none else (read f).map some

/-- A field of a row of the deployments. -/
def DeploymentRow.field (row : DeploymentRow) (c : DeploymentColumn) : Field :=
  ⟨row.get c, c.index, c.name⟩

/-- A field of a row of the artifacts. -/
def ArtifactRow.field (row : ArtifactRow) (c : ArtifactColumn) : Field :=
  ⟨row.get c, c.index, c.name⟩

/-! ## Numbers -/

/-- A number as a signed word. -/
def toWord (n : Nat) : Except Fault Cell :=
  if n < Text.signedBound then .ok (.integer n) else .error .outOfRange

/-- A size that was read. -/
def ofWord (i : Int) : Except Fault UInt64 :=
  if 0 ≤ i then .ok (UInt64.ofNat i.toNat) else .error .negativeValue

/-- The second of a time that is given in milliseconds since 1970. -/
def toSeconds (now : Int) : Except Fault Nat :=
  if now < 0 then .error .beforeEpoch
  else if Text.signedBound ≤ now.toNat / 1000 then .error .tooLate
  else .ok (now.toNat / 1000)

/-- A second that was read. -/
def ofSeconds (i : Int) : Except Fault Nat :=
  if 0 ≤ i then .ok i.toNat else .error .negativeTime

/-! ## Artifacts -/

/-- The row of an artifact, which stands at a given position in its manifest. The position needs no
check, because no list in the memory of a machine has a position that does not fit. -/
def ArtifactRow.ofArtifact (id : String) (position : Nat) (a : StagedArtifact) :
    Except Fault ArtifactRow := do
  let len ← toWord a.len.toNat
  let modificationTime ← toWord a.modificationTime.toNat
  return {
    applicationId := .text id
    position := .integer position
    remoteName := .text a.entry.remoteName
    role := .text a.entry.role.name
    localPath := .text a.entry.localPath
    remotePath := .text a.remotePath
    sha256 := .text a.sha256
    len
    modificationTime }

/-- Reads an artifact. -/
def readArtifact (row : ArtifactRow) : Except Fault StagedArtifact := do
  let remoteName ← (row.field .remoteName).text
  let roleText ← (row.field .role).text
  let localPath ← (row.field .localPath).text
  let len ← (row.field .len).integer
  let modificationTime ← (row.field .modificationTime).integer
  let role ← match ArtifactRole.parse roleText with
    | some role => .ok role
    | none => .error (.badRole roleText)
  let remotePath ← (row.field .remotePath).text
  let sha256 ← (row.field .sha256).text
  let len ← ofWord len
  let modificationTime ← ofWord modificationTime
  return ⟨⟨localPath, remoteName, role⟩, remotePath, sha256, len, modificationTime⟩

/-- The order of artifacts: by position, then by name. -/
def ArtifactRow.le (a b : ArtifactRow) : Bool :=
  if a.position == b.position then a.remoteName.le b.remoteName else a.position.le b.position

/-- The rows of the artifacts of an application in the order of its manifest. -/
def rowsOf (id : String) (rows : List ArtifactRow) : List ArtifactRow :=
  (rows.filter fun row => row.isOf id).mergeSort ArtifactRow.le

/-- The artifacts of an application. -/
def artifactsOf (id : ApplicationId) : Action (List StagedArtifact) := do
  let rows ← getArtifacts
  ofReading ((rowsOf id.display rows).mapM readArtifact)

/-! ## Deployments -/

/-- The row of a deployment that starts. -/
def DeploymentRow.ofStart (jobName : String) (m : Manifest) (seconds : Nat) : DeploymentRow where
  applicationId := .text m.applicationId.display
  jobName := .text jobName
  stagingDir := .text m.stagingDir
  replication := .integer m.replication.factor.toNat
  replicationSource := .text m.replication.source
  outcome := .null
  failurePayload := .null
  termination := .null
  teardownError := .null
  errorMessage := .null
  startedAt := .integer seconds
  finishedAt := .null
  cleanedAt := .null

/-- Reads an outcome, whose cause is in a cell of its own. -/
def readOutcome (text : String) (payload : Option Bytes) : Except Fault JobOutcome :=
  if text = "succeeded" then .ok .succeeded
  else if text = "failed" then .ok (.failed (payload.getD []))
  else .error (.badOutcome text)

/-- Reads a termination. -/
def readTermination (text : String) : Except Fault Termination :=
  match Termination.parse text with
  | some termination => .ok termination
  | none => .error (.badTermination text)

/-- Reads the number of copies and who chose it. -/
def readReplication (factor : Int) (source : String) : Except Fault Replication :=
  if factor < 0 ∨ UInt16.size ≤ factor then .error .badFactor
  else match Replication.ofParts source (UInt16.ofNat factor.toNat) with
    | some replication => .ok replication
    | none => .error (.badSource source)

/-- Reads an id. -/
def readApplication (text : String) : Except Fault ApplicationId :=
  match ApplicationId.parse text with
  | some id => .ok id
  | none => .error (.badApplication text)

/-- Reads a record, less its artifacts. -/
def readRow (row : DeploymentRow) : Except Fault DeploymentRecord := do
  let idText ← (row.field .applicationId).text
  let factor ← (row.field .replication).integer
  let source ← (row.field .replicationSource).text
  let outcomeText ← (row.field .outcome).optional Field.text
  let payload ← (row.field .failurePayload).optional Field.bytes
  let terminationText ← (row.field .termination).optional Field.text
  let started ← (row.field .startedAt).integer
  let finished ← (row.field .finishedAt).optional Field.integer
  let cleaned ← (row.field .cleanedAt).optional Field.integer
  let replication ← readReplication factor source
  let applicationId ← readApplication idText
  let jobName ← (row.field .jobName).text
  let stagingDir ← (row.field .stagingDir).text
  let outcome ← outcomeText.mapM fun text => readOutcome text payload
  let termination ← terminationText.mapM readTermination
  let teardownError ← (row.field .teardownError).optional Field.text
  let error ← (row.field .errorMessage).optional Field.text
  let startedAt ← ofSeconds started
  let finishedAt ← finished.mapM ofSeconds
  let cleanedAt ← cleaned.mapM ofSeconds
  return {
    applicationId, jobName, stagingDir, replication, artifacts := [], outcome, termination,
    teardownError, error, startedAt, finishedAt, cleanedAt }

/-- The table of deployments with all the columns that are read. -/
def getReadable : Action DeploymentTable := do
  let table ← getDeployments
  if table.hasCleanedAt then return table
  else throw (.noSuchColumn DeploymentColumn.cleanedAt.name)

/-- Reads the records in some rows, all deployments first and then their artifacts. -/
def readRecords (rows : List DeploymentRow) : Action (List DeploymentRecord) := do
  let records ← ofReading (rows.mapM readRow)
  records.mapM fun record => do
    return { record with artifacts := ← artifactsOf record.applicationId }

end ClusterDeploy.Ledger
