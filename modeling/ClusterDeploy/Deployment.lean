import ClusterDeploy.Rollout
import ClusterDeploy.Watcher

/-!
# Deployments

A deployment runs one job on a cluster of its own: it reserves an application id, stages the
artifacts, creates the cluster, submits the job, waits for its outcome and sees the cluster to its
end. What it does is recorded in a ledger, if there is one.

## Main definitions

* `DeploymentRequest`, `DeploymentRequest.entries` — a job and the files that its cluster starts
  from.
* `Deployment.run` — a deployment from start to end.
* `Deployment.cleanup` — deletes the staging directory of an application.

## Implementation notes

A job that failed is an outcome, and a cluster that could not be killed is part of the report;
failures are for deployments without an outcome. Once there is a cluster it is killed and its
connection closed on every path that ends with a failure. A deployment that cannot be recorded does
not start; that its end cannot be recorded changes nothing.
-/

namespace ClusterDeploy

/-- A job and the files that its cluster starts from. -/
structure DeploymentRequest where
  job : Job
  /-- The local path of the distribution. -/
  bundle : String
  /-- The local paths of the libraries. -/
  libraries : List String
  deriving DecidableEq, Repr, Inhabited

/-- The artifacts of a request: the bundle, then the libraries, then the jars of the job. -/
def DeploymentRequest.entries (r : DeploymentRequest) : List ArtifactEntry :=
  .ofPath .bundle r.bundle ::
    r.libraries.map (.ofPath .library) ++ r.job.jars.map (.ofPath .userJar)

namespace Deployment

/-- Tells the ledger something, if there is one. -/
def record (hasLedger : Bool) (application : ApplicationId) (call : Ledger.Call) :
    Task (Except DeployError Unit) := do
  if hasLedger then
    return (← Task.background .ledger (some application) (.ledger call) none).map fun _ => ()
  else return .ok ()

/-- Records the end of a deployment without a report, and gives the failure that ended it. -/
def abort {α : Type} (hasLedger : Bool) (application : ApplicationId) (e : DeployError)
    (teardown : Option SupervisionReport) : Task (Except DeployError α) := do
  let _ ← record hasLedger application
    (.recordAborted application e (teardown.map (·.termination)) (teardown.bind (·.teardownError)))
  return .error e

/-- Reserves an application id. -/
def allocate (config : Config) : Task (Except DeployError ApplicationId) :=
  Task.bounded .allocation none config.askTimeout (.platform .newApplication) none

/-- Waits for the outcome of the job on a cluster and sees the cluster to its end. -/
def finish (hasLedger : Bool) (config : Config) (application : ApplicationId) (m : Manifest)
    (supervisor : Supervisor) (launched : Rollout.Launched) :
    Task (Except DeployError DeploymentReport) := do
  if ← Task.isCancelled then
    let teardown ← supervisor.terminateNow launched.handle
    abort hasLedger application (Task.cancelledError application .submission) (some teardown)
  else
    match ← Watcher.awaitOutcome application launched.job config.resultTimeout
        (some launched.handle) with
    | .error e =>
      let teardown ← supervisor.terminateNow launched.handle
      abort hasLedger application e (some teardown)
    | .ok outcome =>
      let supervision ← supervisor.conclude launched.handle
      let report : DeploymentReport :=
        ⟨application, m, outcome, supervision.termination, supervision.teardownError⟩
      let _ ← record hasLedger application (.recordCompleted report)
      return .ok report

/-- Brings up the cluster of staged artifacts and sees it to its end. -/
def launch (hasLedger : Bool) (config : Config) (job : Job) (application : ApplicationId)
    (m : Manifest) : Task (Except DeployError DeploymentReport) := do
  let supervisor := Supervisor.ofConfig config
  match ← Rollout.launch config job m supervisor with
  | .error failure => abort hasLedger application failure.error failure.teardown
  | .ok launched => finish hasLedger config application m supervisor launched

/-- Runs a deployment from start to end. -/
def run (hasLedger : Bool) (config : Config) (request : DeploymentRequest) :
    Task (Except DeployError DeploymentReport) := do
  match ← allocate config with
  | .error e => return .error e
  | .ok application =>
    match ← Task.stage application config.stagingPrefix request.entries config.replication with
    | .error e => return .error e
    | .ok m =>
      if ← Task.isCancelled then return .error (Task.cancelledError application .staging)
      else
        match ← record hasLedger m.applicationId (.recordStarted request.job.name m) with
        | .error e => return .error e
        | .ok () => launch hasLedger config request.job application m

/-- Deletes the staging directory of an application and tells the ledger; tells whether there was
anything in it. -/
def cleanup (hasLedger : Bool) (application : ApplicationId) (label : String) :
    Task (Except DeployError Bool) := do
  match ← Task.remove application label with
  | .error e => return .error e
  | .ok removed =>
    return (← record hasLedger application (.markCleaned application)).map fun _ => removed

end Deployment

end ClusterDeploy
