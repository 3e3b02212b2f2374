import ClusterDeploy.Artifact
import ClusterDeploy.Duration

/-!
# Clusters

What is asked of the resource manager, and what it answers.

## Main definitions

* `ClusterSpecification`, `ClusterRequest` — what to start.
* `ClusterHandle` — the connection to a cluster that is up.
* `ApplicationStatus` — what the resource manager says of an application.
* `Termination` — what became of a cluster in the end.
-/

namespace ClusterDeploy

/-- The resources of a cluster. -/
structure ClusterSpecification where
  masterMemoryMb : UInt64
  workerMemoryMb : UInt64
  slotsPerWorker : UInt32
  workerCount : UInt32
  deriving DecidableEq, Repr, Inhabited

/-- All that is needed to start a cluster for an application. -/
structure ClusterRequest where
  applicationId : ApplicationId
  name : String
  specification : ClusterSpecification
  stagingDir : String
  artifacts : List StagedArtifact
  systemClasspath : List String
  userClasspath : List String
  startupTimeout : Millis
  deriving DecidableEq, Repr, Inhabited

/-- The connection to a cluster that is up. -/
structure ClusterHandle where
  applicationId : ApplicationId
  endpoint : String
  deriving DecidableEq, Repr, Inhabited

/-- What the resource manager says of an application. -/
inductive ApplicationStatus where
  | running | finished
  deriving DecidableEq, Repr, Inhabited

/-- What became of a cluster in the end. -/
inductive Termination where
  /-- The cluster may still be running. -/
  | running
  /-- The cluster shut down by itself. -/
  | finished
  /-- The cluster was killed. -/
  | killed
  deriving DecidableEq, Repr, Inhabited

namespace Termination

/-- Whether the cluster is known to be gone. -/
def isTerminal : Termination → Bool
  | .running => false
  | .finished => true
  | .killed => true

/-- The text form of what became of a cluster. -/
def name : Termination → String
  | .running => "running"
  | .finished => "finished"
  | .killed => "killed"

/-- Reads what became of a cluster. -/
def parse (text : String) : Option Termination :=
  if text = "running" then some .running
  else if text = "finished" then some .finished
  else if text = "killed" then some .killed
  else none

end Termination

end ClusterDeploy
