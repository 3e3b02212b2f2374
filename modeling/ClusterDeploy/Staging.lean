import ClusterDeploy.Artifact
import ClusterDeploy.Work

/-!
# Staging

Before a cluster is created its artifacts are copied into a directory of the shared storage that
belongs to the application. The result is a manifest, against which the storage can be checked
later.

## Main definitions

* `Staging.validate` — checks the entries before anything is copied.
* `Staging.stage` — copies the artifacts.
* `Staging.verify` — checks that the artifacts are still there.
* `Staging.remove` — deletes the directory.

## Implementation notes

Of several bad entries the first one is reported. Of one entry first the form of its name is
checked, then that the name is new, then the local file.
-/

namespace ClusterDeploy.Staging

/-- A failure of staging. -/
def failure (message : String) : DeployError :=
  { DeployError.ofKind .staging message with stage := some .staging }

/-- Whether a name can stand for a file in the staging directory. -/
def isName (remoteName : String) : Bool :=
  remoteName != "" && !remoteName.toList.contains '/'

/-- Checks the form and the novelty of the name of an entry. -/
def checkName (seen : List String) (entry : ArtifactEntry) : Option DeployError :=
  if !isName entry.remoteName then
    some (failure s!"artifact '{entry.localPath}' has an invalid remote name '{entry.remoteName}'")
  else if seen.contains entry.remoteName then
    some (failure s!"more than one artifact would be staged as '{entry.remoteName}'")
  else none

/-- Checks entries before anything is copied; `seen` are the names of the entries before them. -/
def validate (seen : List String) : List ArtifactEntry → Work Unit
  | [] => return ()
  | entry :: rest => do
    match checkName seen entry with
    | some error => Work.fail error
    | none => pure ()
    if !(← Work.isFile entry.localPath) then
      Work.fail
        (failure s!"local artifact '{entry.localPath}' does not exist or is not a file")
    validate (entry.remoteName :: seen) rest

/-- Copies one artifact. -/
def upload (dir : String) (factor : Option UInt16) (entry : ArtifactEntry) :
    Work StagedArtifact := do
  let path := Storage.remotePath dir entry.remoteName
  let sha256 ← match ← Work.digest entry.localPath with
    | .ok digest => pure digest
    | .error fault =>
      Work.fail (failure s!"failed to read local artifact '{entry.localPath}': {fault.message}")
  Work.storage (.upload entry.localPath path)
  match factor with
  | some factor => Work.storage (.setReplication path factor)
  | none => pure ()
  match ← Work.storage (.stat path) with
  | none => Work.fail (failure s!"uploaded artifact '{path}' is not visible")
  | some status =>
    return ⟨entry, path, sha256, status.len, status.modificationTime⟩

/-- Copies artifacts in order. -/
def uploadAll (dir : String) (factor : Option UInt16) :
    List ArtifactEntry → Work (List StagedArtifact)
  | [] => return []
  | entry :: rest => do
    let artifact ← upload dir factor entry
    let artifacts ← uploadAll dir factor rest
    return artifact :: artifacts

/-- Copies the artifacts of an application into its staging directory. -/
def stage (application : ApplicationId) (label : String) (entries : List ArtifactEntry)
    (factor : Option UInt16) : Work Manifest := do
  validate [] entries
  let home ← Work.storage .homeDirectory
  let dir := Storage.stagingDir home label application
  let replication ← match factor with
    | some factor => pure (Replication.configured factor)
    | none => Replication.storageDefault <$> Work.storage .defaultReplication
  let artifacts ← uploadAll dir factor entries
  return ⟨application, dir, artifacts, replication⟩

/-- What is wrong with the status of an artifact. -/
def mismatch (m : Manifest) (artifact : StagedArtifact) (status : FileStatus) :
    Option DeployError :=
  let expected := m.replication.factor
  if status.replication ≠ expected then
    some (failure (s!"staged artifact '{artifact.remotePath}' has replication " ++
      s!"{status.replication.toNat} but {expected.toNat} ({m.replication.source}) was applied"))
  else if status.len ≠ artifact.len then
    some (failure (s!"staged artifact '{artifact.remotePath}' is {status.len.toNat} bytes but " ++
      s!"{artifact.len.toNat} were uploaded"))
  else none

/-- Checks that artifacts are still there as the manifest says. -/
def verifyAll (m : Manifest) : List StagedArtifact → Work Unit
  | [] => return ()
  | artifact :: rest => do
    match ← Work.storage (.stat artifact.remotePath) with
    | none => Work.fail (failure s!"staged artifact '{artifact.remotePath}' is missing")
    | some status =>
      match mismatch m artifact status with
      | some error => Work.fail error
      | none => verifyAll m rest

/-- Checks that all artifacts of a manifest are still there. -/
def verify (m : Manifest) : Work Unit :=
  verifyAll m m.artifacts

/-- Deletes the staging directory of an application; tells whether there was anything in it. -/
def remove (application : ApplicationId) (label : String) : Work Bool := do
  let home ← Work.storage .homeDirectory
  Work.storage (.deleteRecursive (Storage.stagingDir home label application))

end ClusterDeploy.Staging
