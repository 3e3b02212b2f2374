import ClusterDeploy.Deployment
import ClusterDeploy.Rehearsal.Play

/-!
# Sessions

A rehearsal in steps: some drive parts of a deployment, others call the collaborators themselves or
change the world behind their backs. What one step leaves behind the next one finds.

## Main definitions

* `Rehearsal.Session` — the world, and the connections, jobs and manifest that are kept.
* `Rehearsal.rehearse` — runs a step.
* `Session.stage`, `Session.deploy` and others — the steps.

## Implementation notes

A step is not over before the threads that nobody waits for are.
-/

namespace ClusterDeploy.Rehearsal

/-- The state of a session. -/
structure Session where
  world : World
  /-- The connections that are kept, by application. -/
  guards : List (ApplicationId × ClusterHandle)
  /-- The jobs that are kept, by id. -/
  jobs : List (String × RunningJob)
  /-- The manifest of the last staging. -/
  staged : Option Manifest
  /-- Whether deployments are given the ledger. -/
  hasLedger : Bool

/-- A computation on a session. -/
abbrev Step (α : Type) := StateM Session α

/-- Runs a step in the world. -/
def rehearse {α : Type} (d : Disturbance) (run : Run α) : Step α := do
  let s ← get
  let before : World :=
    { s.world with
      log := []
      peer := { s.world.peer with received := [] }
      clock := 0
      disturbance := d
      cancelled := d.cancelledBefore
      left := false
      held := none
      delivered := none }
  let (result, after) := run.run before
  let ((), settled) := (settleUpTo none).run after
  set { s with world := settled }
  return result

/-- Continues a step in the world without starting a new one. -/
def continueStep {α : Type} (run : Run α) : Step α := do
  let s ← get
  let (result, world) := run.run s.world
  set { s with world := world }
  return result

/-- Runs a task as a step. -/
def playStep {α : Type} (d : Disturbance) (task : Task α) : Step (Played α) :=
  rehearse d (play task)

namespace Session

/-! ## What is kept -/

/-- Keeps a connection to a cluster. One that is kept for the same application is dropped. -/
def keepGuard (handle : ClusterHandle) : Step Unit := do
  let s ← get
  let id := handle.applicationId
  set { s with guards := (id, handle) :: s.guards.filter fun entry => entry.1 != id }
  match s.guards.find? fun entry => entry.1 == id with
  | some (_, old) => do
    let _ ← continueStep (finishThread (dropGuard s.world.backends old))
  | none => return ()

/-- The connection that is kept for an application. -/
def guard? (id : ApplicationId) : Step (Option ClusterHandle) := do
  return ((← get).guards.find? fun entry => entry.1 == id).map (·.2)

/-- Gives away the connection that is kept for an application. -/
def takeGuard (id : ApplicationId) : Step (Option ClusterHandle) := do
  let handle ← guard? id
  modify fun s => { s with guards := s.guards.filter fun entry => entry.1 != id }
  return handle

/-- Keeps a job. One that is kept under the same id is forgotten. -/
def keepJob (job : RunningJob) : Step Unit := do
  let s ← get
  set { s with jobs := (job.id, job) :: s.jobs.filter fun entry => entry.1 != job.id }
  match s.jobs.find? fun entry => entry.1 == job.id with
  | some (_, old) => continueStep (perform (.dropJob old))
  | none => return ()

/-- Gives away the job that is kept under an id. -/
def takeJob (id : String) : Step (Option RunningJob) := do
  let s ← get
  set { s with jobs := s.jobs.filter fun entry => entry.1 != id }
  return (s.jobs.find? fun entry => entry.1 == id).map (·.2)

/-- Does something with the result of a task that was not left. -/
def onSuccess {α ε : Type} (played : Played (Except ε α)) (act : α → Step Unit) : Step Unit :=
  match played with
  | .over (.ok a) => act a
  | _ => return ()

/-! ## Staging -/

/-- Stages artifacts and remembers the manifest. -/
def stage (application : ApplicationId) (label : String) (entries : List ArtifactEntry)
    (factor : Option UInt16) : Step (Played (Except DeployError Manifest)) := do
  let played ← playStep .none (Task.stage application label entries factor)
  onSuccess played fun m => modify fun s => { s with staged := some m }
  return played

/-- Checks that the artifacts of a manifest are still there. -/
def verify (m : Manifest) : Step (Played (Except DeployError Unit)) :=
  playStep .none (Task.verify m)

/-- Deletes a staging directory. -/
def remove (application : ApplicationId) (label : String) :
    Step (Played (Except DeployError Bool)) :=
  playStep .none (Task.remove application label)

/-- Deletes a staging directory and tells the ledger. -/
def cleanup (application : ApplicationId) (label : String) :
    Step (Played (Except DeployError Bool)) := do
  playStep .none (Deployment.cleanup (← get).hasLedger application label)

/-! ## Clusters -/

/-- Creates a cluster and keeps the connection. -/
def createCluster (request : ClusterRequest) :
    Step (Played (Except DeployError ClusterHandle)) := do
  let played ← playStep .none (Rollout.createCluster request)
  onSuccess played keepGuard
  return played

/-- Hands a job to a cluster and keeps the job. -/
def submitJob (handle : ClusterHandle) (job : Job) (limit : Millis) :
    Step (Played (Except DeployError RunningJob)) := do
  let played ← playStep .none (Rollout.submitJob handle job limit)
  onSuccess played keepJob
  return played

/-- Creates a cluster, hands a job to it, and keeps the connection and the job. -/
def launch (config : Config) (job : Job) (m : Manifest) :
    Step (Played (Except Rollout.Failure Rollout.Launched)) := do
  let played ← playStep .none (Rollout.launch config job m (.ofConfig config))
  onSuccess played fun launched => do
    keepGuard launched.handle
    keepJob launched.job
  return played

/-- Sees a cluster to its end. -/
def conclude (supervisor : Supervisor) (handle : ClusterHandle) : Step (Played SupervisionReport) :=
  playStep .none (supervisor.conclude handle)

/-- Kills a cluster. -/
def terminateNow (supervisor : Supervisor) (handle : ClusterHandle) :
    Step (Played SupervisionReport) :=
  playStep .none (supervisor.terminateNow handle)

/-- Drops a connection to a cluster. -/
def dropConnection (handle : ClusterHandle) : Step Unit :=
  rehearse .none do
    let _ ← finishThread (dropGuard (← get).backends handle)

/-! ## Jobs and deployments -/

/-- Waits for the outcome of a job as a deployment does. -/
def awaitOutcome (d : Disturbance) (application : ApplicationId) (job : RunningJob)
    (timeout : Option Millis) : Step (Played (Except DeployError JobOutcome)) :=
  playStep d (Watcher.awaitOutcome application job timeout none)

/-- Waits for the outcome of a job, with no regard to any cancellation. -/
def waitForJob (d : Disturbance) (job : RunningJob) :
    Step (Played (Except DeployError JobOutcome)) :=
  rehearse d do
    match ← playWatch job none none false with
    | .inl (.resolved result) => return .over result
    | .inl _ => return .pending
    | .inr left => return left.cast fun _ => .pending

/-- Runs a deployment and remembers its manifest. -/
def deploy (d : Disturbance) (config : Config) (request : DeploymentRequest) :
    Step (Played (Except DeployError DeploymentReport)) := do
  let played ← playStep d (Deployment.run (← get).hasLedger config request)
  onSuccess played fun report => modify fun s => { s with staged := some report.manifest }
  return played

/-! ## Collaborators themselves -/

/-- Runs a thread as a step. -/
def runStep {α : Type} (thread : Backends → Thread α) : Step (Option α) :=
  rehearse .none do finishThread (thread (← get).backends)

/-- Calls the storage. -/
def callStorage (call : Storage.Call) : Step (Option (Except DeployError call.Value)) :=
  runStep fun b => storageThread b call

/-- Calls the platform. -/
def callPlatform (call : Platform.Call) : Step (Option (Except DeployError call.Value)) :=
  runStep fun b => platformThread b call

/-- Closes a connection. -/
def callRelease (handle : ClusterHandle) : Step (Option Unit) :=
  runStep fun b => releaseThread b handle

/-- Looks at or changes the world behind the back of everybody. -/
def inspect {α : Type} (run : Run α) : Step α :=
  rehearse .none run

/-- Looks at or changes the storage in memory. -/
def onStorage {α : Type} (f : MemoryStorage → α × MemoryStorage) : Step α :=
  inspect (modifyGet fun w =>
    let (result, storage) := f w.storage
    (result, { w with storage }))

/-- Looks at or changes the simulated platform. -/
def onPlatform {α : Type} (f : SimulatedPlatform → α × SimulatedPlatform) : Step α :=
  inspect (modifyGet fun w =>
    let (result, platform) := f w.platform
    (result, { w with platform }))

/-- Runs a computation on the ledger. -/
def onLedger {α : Type} (operation : String) (a : Int → Ledger.Action α) :
    Step (Except DeployError α) :=
  inspect (modifyGet fun w =>
    let (result, files) := w.files.onLedger w.ledgerPath operation (a w.wallClock)
    (result, { w with files }))

/-- Looks at or changes the local files, among them the ledger. -/
def onFiles {α : Type} (f : String → FileSystem → α × FileSystem) : Step α :=
  inspect (modifyGet fun w =>
    let (result, files) := f w.ledgerPath w.files
    (result, { w with files }))

/-- Sets the clock on the wall. -/
def setClock (time : Int) : Step Unit :=
  inspect (modify fun w => { w with wallClock := time })

end Session

end ClusterDeploy.Rehearsal
