import ClusterDeploy.Text.Utf8

/-!
# Jobs

The job that runs on a cluster, and how it ended. The job graph and the cause of a failure are bytes
that nothing here looks into.

## Main definitions

* `Job` — what is submitted.
* `JobOutcome` — how the job ended.
* `RunningJob` — a submitted job whose end has not been seen yet.
-/

namespace ClusterDeploy

/-- A job to run. -/
structure Job where
  id : String
  name : String
  parallelism : UInt32
  payload : Bytes
  /-- Local paths of the job's own jars. -/
  jars : List String
  deriving DecidableEq, Repr, Inhabited

/-- How a job ended. The cause of a failure is kept as the cluster gave it. -/
inductive JobOutcome where
  | succeeded
  | failed (cause : Bytes)
  deriving DecidableEq, Repr, Inhabited

namespace JobOutcome

/-- Whether the job did its work. -/
def isSuccess : JobOutcome → Bool
  | .succeeded => true
  | .failed _ => false

/-- The text form of an outcome, less the cause. -/
def name : JobOutcome → String
  | .succeeded => "succeeded"
  | .failed _ => "failed"

/-- The cause of a failure. -/
def cause? : JobOutcome → Option Bytes
  | .succeeded => none
  | .failed cause => some cause

end JobOutcome

end ClusterDeploy
