import ClusterDeploy.Report

/-!
# What deployments tell the ledger

The ledger keeps the history of deployments, so that clusters and staging directories that were left
behind can be found later.

## Main definitions

* `Ledger.Call`, `Ledger.Call.Value` — what a deployment tells the ledger, and what it answers.
-/

namespace ClusterDeploy.Ledger

/-- What a deployment tells the ledger. -/
inductive Call where
  /-- The artifacts are staged and the cluster is about to be created. -/
  | recordStarted (jobName : String) (manifest : Manifest)
  /-- The deployment ended with a report. -/
  | recordCompleted (report : DeploymentReport)
  /-- The deployment ended with a failure; there is no termination if there was no cluster. -/
  | recordAborted (application : ApplicationId) (error : DeployError)
      (termination : Option Termination) (teardownError : Option DeployError)
  /-- The staging directory is gone; the answer tells whether the deployment was known. -/
  | markCleaned (application : ApplicationId)
  deriving DecidableEq, Repr

/-- The answers to a call. -/
abbrev Call.Value : Call → Type
  | .recordStarted _ _ => Unit
  | .recordCompleted _ => Unit
  | .recordAborted _ _ _ _ => Unit
  | .markCleaned _ => Bool

end ClusterDeploy.Ledger
