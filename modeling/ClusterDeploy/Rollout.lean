import ClusterDeploy.Launch
import ClusterDeploy.Supervisor

/-!
# Bringing up a cluster

From the request for a cluster to a job that runs on it.

## Main definitions

* `Rollout.createCluster`, `Rollout.submitJob` — the two steps.
* `Rollout.launch` — both; if the job cannot be submitted the cluster is killed.
* `Rollout.Launched`, `Rollout.Failure` — what comes of it.

## Implementation notes

No limit but the one in the request itself applies to the creation of a cluster, because it cleans
up after itself when it fails.
-/

namespace ClusterDeploy.Rollout

/-- A cluster with a job on it. -/
structure Launched where
  handle : ClusterHandle
  job : RunningJob
  deriving DecidableEq, Repr

/-- Why there is no cluster with a job on it, and what became of the cluster if there was one. -/
structure Failure where
  error : DeployError
  teardown : Option SupervisionReport
  deriving DecidableEq, Repr

/-- A failure of the platform while a cluster is brought up is a failure of the deployment. -/
def asDeploymentError (e : DeployError) : DeployError :=
  match e.kind with
  | .internal => e
  | .cancelled => e
  | _ => { e with kind := .deployment }

/-- Starts a cluster. A failure means that no cluster was left behind. -/
def createCluster (request : ClusterRequest) : Task (Except DeployError ClusterHandle) := do
  return (← Task.background .clusterCreation (some request.applicationId)
    (.platform (.createCluster request)) none).mapError asDeploymentError

/-- Hands a job to a cluster, but does not wait longer than a limit. -/
def submitJob (handle : ClusterHandle) (job : Job) (limit : Millis) :
    Task (Except DeployError RunningJob) := do
  return (← Task.bounded .submission (some handle.applicationId) limit
    (.platform (.submitJob handle job)) (some handle)).mapError asDeploymentError

/-- Starts a cluster and hands a job to it. If the job is not accepted the cluster is killed. -/
def launch (config : Config) (job : Job) (m : Manifest) (supervisor : Supervisor) :
    Task (Except Failure Launched) := do
  match ← createCluster (Launch.request config job m) with
  | .error e => return .error ⟨e, none⟩
  | .ok handle =>
    match ← submitJob handle job config.askTimeout with
    | .ok running => return .ok ⟨handle, running⟩
    | .error e => return .error ⟨e, some (← supervisor.terminateNow handle)⟩

end ClusterDeploy.Rollout
