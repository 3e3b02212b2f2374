import ClusterDeploy.Cluster
import ClusterDeploy.Counter
import ClusterDeploy.Error
import ClusterDeploy.Job

/-!
# Reports of deployments

What is known of a deployment when it is over, and what the ledger keeps of it.

## Main definitions

* `SupervisionReport` — how a cluster came to its end.
* `DeploymentReport` — what one deployment saw.
* `DeploymentRecord` — what the ledger keeps of a deployment.
* `DeploymentReport.requiresInspection`, `DeploymentRecord.requiresInspection` — whether somebody
  has to look after the cluster.
-/

namespace ClusterDeploy

/-- How a cluster came to its end. -/
structure SupervisionReport where
  termination : Termination
  /-- Why the cluster could not be killed. -/
  teardownError : Option DeployError
  /-- How often the cluster was asked for its status. -/
  polls : Counter
  deriving DecidableEq, Repr, Inhabited

/-- What one deployment saw. -/
structure DeploymentReport where
  applicationId : ApplicationId
  manifest : Manifest
  outcome : JobOutcome
  termination : Termination
  /-- Why the cluster could not be killed. -/
  teardownError : Option DeployError
  deriving DecidableEq, Repr, Inhabited

/-- Whether the cluster may still be running, so that somebody has to look after it. -/
def DeploymentReport.requiresInspection (r : DeploymentReport) : Bool :=
  r.teardownError.isSome || !r.termination.isTerminal

/-- What the ledger keeps of a deployment. Times are seconds since 1970. -/
structure DeploymentRecord where
  applicationId : ApplicationId
  jobName : String
  stagingDir : String
  replication : Replication
  artifacts : List StagedArtifact
  outcome : Option JobOutcome
  termination : Option Termination
  teardownError : Option String
  /-- Why the deployment ended without a report. -/
  error : Option String
  startedAt : Nat
  finishedAt : Option Nat
  cleanedAt : Option Nat
  deriving DecidableEq, Repr, Inhabited

namespace DeploymentRecord

/-- Whether the cluster may still be running, so that somebody has to look after it. -/
def requiresInspection (r : DeploymentRecord) : Bool :=
  r.teardownError.isSome || r.termination == some .running

/-- The manifest that was recorded. -/
def manifest (r : DeploymentRecord) : Manifest :=
  ⟨r.applicationId, r.stagingDir, r.artifacts, r.replication⟩

end DeploymentRecord

end ClusterDeploy
