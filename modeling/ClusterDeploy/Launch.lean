import ClusterDeploy.Cluster
import ClusterDeploy.Config
import ClusterDeploy.Job

/-!
# What to launch

From a configuration, a job and the manifest of its staged artifacts to the request for a cluster.

## Main definitions

* `Launch.specification` — the resources: enough workers for the job's parallelism.
* `Launch.classpath` — the system classpath and the user classpath.
* `Launch.request` — the request for the cluster.

## Implementation notes

Names are sorted by their code points, which is also the order of their UTF-8 bytes. The bundle
comes last on the system classpath under every policy.
-/

namespace ClusterDeploy.Launch

/-- The least number of workers whose slots carry a parallelism of at least one. -/
def workerCount (parallelism slots : UInt32) : UInt32 :=
  let wanted := max parallelism.toNat 1
  let each := max slots.toNat 1
  UInt32.ofNat ((wanted + each - 1) / each)

/-- The resources that a job gets. -/
def specification (config : Config) (job : Job) : ClusterSpecification where
  masterMemoryMb := config.masterMemory.mebibytes
  workerMemoryMb := config.workerMemory.mebibytes
  slotsPerWorker := max config.slotsPerWorker 1
  workerCount := workerCount job.parallelism config.slotsPerWorker

/-- The names of the artifacts with a given role. -/
def names (m : Manifest) (role : ArtifactRole) : List String :=
  (m.withRole role).map fun a => a.entry.remoteName

/-- Names in ascending order. -/
def sortNames (names : List String) : List String :=
  names.mergeSort fun a b => decide (a ≤ b)

/-- The two classpaths of a cluster. -/
structure Classpath where
  system : List String
  user : List String
  deriving DecidableEq, Repr

/-- Splits the artifacts of a manifest into the two classpaths. -/
def classpath (policy : ClasspathInclusion) (m : Manifest) : Classpath :=
  let libraries := sortNames (names m .library)
  let jars := names m .userJar
  let bundles := names m .bundle
  match policy with
  | .disabled => ⟨libraries ++ bundles, jars⟩
  | .first => ⟨jars ++ libraries ++ bundles, []⟩
  | .last => ⟨libraries ++ jars ++ bundles, []⟩
  | .order => ⟨sortNames (libraries ++ jars) ++ bundles, []⟩

/-- The request for the cluster of a job. -/
def request (config : Config) (job : Job) (m : Manifest) : ClusterRequest where
  applicationId := m.applicationId
  name := job.name
  specification := specification config job
  stagingDir := m.stagingDir
  artifacts := m.artifacts
  systemClasspath := (classpath config.classpathInclusion m).system
  userClasspath := (classpath config.classpathInclusion m).user
  startupTimeout := config.startupTimeout

end ClusterDeploy.Launch
