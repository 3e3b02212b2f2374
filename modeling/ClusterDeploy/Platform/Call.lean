import ClusterDeploy.Cluster
import ClusterDeploy.Error
import ClusterDeploy.Job

/-!
# The platform

The platform manages the resources of the nodes. It gives out application ids, starts clusters,
takes jobs for them and kills them.

## Main definitions

* `Platform.Call`, `Platform.Call.Value` — what can be asked of the platform, and what it answers.
* `RunningJob` — a submitted job whose end has not been seen yet.

## Implementation notes

Closing the connection to a cluster is no call: it always works, and nobody waits for it.
-/

namespace ClusterDeploy

/-- Where the outcome of a job comes from that runs on a simulated platform. -/
inductive JobSource where
  /-- The outcome is fixed. -/
  | ready (outcome : JobOutcome)
  /-- The outcome is delivered by hand to the ticket with this number. -/
  | held (ticket : Nat)
  deriving DecidableEq, Repr

/-- A submitted job whose end has not been seen yet. -/
inductive RunningJob where
  /-- A job whose result is asked for again and again at a URL. -/
  | polled (id resultUrl : String) (interval : Millis)
  /-- A job whose outcome is known or delivered after a delay. -/
  | simulated (application : ApplicationId) (id : String) (delay : Millis) (source : JobSource)
  deriving DecidableEq, Repr

/-- The id under which a job was submitted. -/
def RunningJob.id : RunningJob → String
  | .polled id _ _ => id
  | .simulated _ id _ _ => id

namespace Platform

/-- What can be asked of the platform. -/
inductive Call where
  /-- Reserve an application id. -/
  | newApplication
  /-- Start a cluster and wait until it accepts work. -/
  | createCluster (request : ClusterRequest)
  /-- Hand a job to a cluster. -/
  | submitJob (handle : ClusterHandle) (job : Job)
  /-- Ask whether a cluster is still running. -/
  | queryStatus (handle : ClusterHandle)
  /-- Kill a cluster. -/
  | forceKill (handle : ClusterHandle)
  deriving DecidableEq, Repr

/-- The answers to a call. -/
abbrev Call.Value : Call → Type
  | .newApplication => ApplicationId
  | .createCluster _ => ClusterHandle
  | .submitJob _ _ => RunningJob
  | .queryStatus _ => ApplicationStatus
  | .forceKill _ => Unit

end Platform

end ClusterDeploy
