import ClusterDeploy.Attempt
import ClusterDeploy.Counter
import ClusterDeploy.Platform.Call

/-!
# A simulated platform

A platform that follows a script: what it refuses, how its jobs end, and when its clusters shut
down.

## Main definitions

* `PlatformScript` — the script.
* `SimulatedPlatform` — the platform and all that it saw.
* `SimulatedPlatform.answer` — what it does when it is called.
* `SimulatedPlatform.completeJob`, `SimulatedPlatform.jobResult?` — jobs whose outcome is delivered
  by hand.

## Implementation notes

A job whose outcome is delivered by hand waits with a ticket. The platform knows for each
application the ticket of the job that was submitted last; a job whose ticket was replaced never
gets an outcome and fails. The delays of the script are not part of this module: whoever runs the
calls has to wait.
-/

namespace ClusterDeploy

/-- How a simulated platform behaves. -/
structure PlatformScript where
  rejectClusters : Option String
  rejectSubmissions : Option String
  /-- How jobs end; nothing means that their outcome is delivered by hand. -/
  jobOutcome : Option JobOutcome
  jobDelay : Millis
  startupDelay : Millis
  submissionDelay : Millis
  statusDelay : Millis
  /-- How many polls say that the cluster is running; nothing means all. -/
  finishAfterPolls : Option Counter
  statusFailure : Option String
  killFailure : Option String
  deriving DecidableEq, Repr, Inhabited

/-- The script of a platform where all goes well and at once. -/
def PlatformScript.default : PlatformScript where
  rejectClusters := none
  rejectSubmissions := none
  jobOutcome := some .succeeded
  jobDelay := 0
  startupDelay := 0
  submissionDelay := 0
  statusDelay := 0
  finishAfterPolls := some 0
  statusFailure := none
  killFailure := none

/-- How long the platform waits before it does what a call asks for. -/
def PlatformScript.delay (script : PlatformScript) : Platform.Call → Millis
  | .createCluster _ => script.startupDelay
  | .submitJob _ _ => script.submissionDelay
  | .queryStatus _ => script.statusDelay
  | _ => 0

/-- How often a platform was called. -/
structure PlatformCounts where
  newApplication : Counter
  createCluster : Counter
  submitJob : Counter
  queryStatus : Counter
  forceKill : Counter
  release : Counter
  deriving DecidableEq, Repr, Inhabited

/-- What a platform saw of one application. -/
structure SimulatedApplication where
  launched : Bool
  finished : Bool
  /-- The ids of the jobs in the order of their submission. -/
  submittedJobs : List String
  polls : Counter
  kills : Counter
  releases : Counter
  deriving DecidableEq, Repr, Inhabited

/-- A simulated platform. -/
structure SimulatedPlatform where
  clusterTimestamp : UInt64
  script : PlatformScript
  nextSequence : UInt32
  counts : PlatformCounts
  applications : List (ApplicationId × SimulatedApplication)
  /-- The requests for clusters, in order. -/
  requests : List ClusterRequest
  nextTicket : Nat
  /-- The tickets that wait for an outcome, by application. -/
  pending : List (ApplicationId × Nat)
  /-- The outcomes that were delivered, by ticket. -/
  delivered : List (Nat × JobOutcome)
  /-- The tickets of jobs for which nobody waits any more. -/
  dropped : List Nat
  deriving DecidableEq, Repr, Inhabited

namespace SimulatedPlatform

/-- A platform that has not been called yet. -/
def start (clusterTimestamp : UInt64) (script : PlatformScript) : SimulatedPlatform where
  clusterTimestamp := clusterTimestamp
  script := script
  nextSequence := 0
  counts := ⟨0, 0, 0, 0, 0, 0⟩
  applications := []
  requests := []
  nextTicket := 0
  pending := []
  delivered := []
  dropped := []

/-! ## Applications -/

/-- An application of which nothing has been seen yet. -/
def newApplication : SimulatedApplication :=
  ⟨false, false, [], 0, 0, 0⟩

/-- What was seen of an application. -/
def application? (p : SimulatedPlatform) (id : ApplicationId) : Option SimulatedApplication :=
  (p.applications.find? fun entry => entry.1 == id).map (·.2)

/-- Notes what is seen of an application. -/
def setApplication (p : SimulatedPlatform) (id : ApplicationId) (a : SimulatedApplication) :
    SimulatedPlatform :=
  { p with applications := (id, a) :: p.applications.filter fun entry => entry.1 != id }

/-- A failure of the platform that names an application. -/
def failure (id : ApplicationId) (message : String) : DeployError :=
  { DeployError.ofKind .deployment message with application := some id }

/-! ## Calls -/

/-- Reserves an application id. -/
def allocate (p : SimulatedPlatform) : Except DeployError ApplicationId × SimulatedPlatform :=
  let sequence := p.nextSequence + 1
  let id : ApplicationId := ⟨p.clusterTimestamp, sequence⟩
  let counted :=
    { p with
      nextSequence := sequence
      counts := { p.counts with newApplication := p.counts.newApplication + 1 } }
  (.ok id, counted.setApplication id newApplication)

/-- Starts a cluster for an application that was allocated. -/
def createCluster (p : SimulatedPlatform) (request : ClusterRequest) :
    Except DeployError ClusterHandle × SimulatedPlatform :=
  let counted :=
    { p with
      counts := { p.counts with createCluster := p.counts.createCluster + 1 }
      requests := p.requests ++ [request] }
  let id := request.applicationId
  match p.script.rejectClusters, p.application? id with
  | some message, _ => (.error (failure id message), counted)
  | none, none => (.error (failure id "application was never allocated"), counted)
  | none, some a =>
    (.ok ⟨id, s!"memory://{id.display}"⟩, counted.setApplication id { a with launched := true })

/-- Takes a job. -/
def submitJob (p : SimulatedPlatform) (handle : ClusterHandle) (job : Job) :
    Except DeployError RunningJob × SimulatedPlatform :=
  let id := handle.applicationId
  let counted := { p with counts := { p.counts with submitJob := p.counts.submitJob + 1 } }
  match p.script.rejectSubmissions with
  | some message => (.error (failure id message), counted)
  | none =>
    let noted := match p.application? id with
      | some a => counted.setApplication id { a with submittedJobs := a.submittedJobs ++ [job.id] }
      | none => counted
    match p.script.jobOutcome with
    | some outcome => (.ok (.simulated id job.id p.script.jobDelay (.ready outcome)), noted)
    | none =>
      let ticket := p.nextTicket
      (.ok (.simulated id job.id p.script.jobDelay (.held ticket)),
        { noted with
          nextTicket := ticket + 1
          pending := (id, ticket) :: noted.pending.filter fun entry => entry.1 != id })

/-- What is seen of an application at one more poll. -/
def poll (script : PlatformScript) (a : SimulatedApplication) : SimulatedApplication :=
  let polls := a.polls + 1
  let finishes := match script.finishAfterPolls with
    | some running => decide (running < polls)
    | none => false
  { a with
    polls := polls
    finished := a.finished || (script.statusFailure.isNone && finishes) }

/-- Says whether a cluster has finished. -/
def queryStatus (p : SimulatedPlatform) (handle : ClusterHandle) :
    Except DeployError ApplicationStatus × SimulatedPlatform :=
  let id := handle.applicationId
  let a := poll p.script ((p.application? id).getD newApplication)
  let counted := { p with counts := { p.counts with queryStatus := p.counts.queryStatus + 1 } }
  let result := match p.script.statusFailure with
    | some message => .error (failure id message)
    | none => .ok (if a.finished then .finished else .running)
  (result, counted.setApplication id a)

/-- Kills a cluster. -/
def forceKill (p : SimulatedPlatform) (handle : ClusterHandle) :
    Except DeployError Unit × SimulatedPlatform :=
  let id := handle.applicationId
  let a := (p.application? id).getD newApplication
  let counted := { p with counts := { p.counts with forceKill := p.counts.forceKill + 1 } }
  let killed := { a with kills := a.kills + 1 }
  match p.script.killFailure with
  | some message => (.error (failure id message), counted.setApplication id killed)
  | none => (.ok (), counted.setApplication id { killed with finished := true })

/-- What the platform does when it is called. -/
def answer (p : SimulatedPlatform) :
    (call : Platform.Call) → Except DeployError call.Value × SimulatedPlatform
  | .newApplication => p.allocate
  | .createCluster request => p.createCluster request
  | .submitJob handle job => p.submitJob handle job
  | .queryStatus handle => p.queryStatus handle
  | .forceKill handle => p.forceKill handle

/-- Closes the connection to a cluster. -/
def release (p : SimulatedPlatform) (handle : ClusterHandle) : SimulatedPlatform :=
  let id := handle.applicationId
  let a := (p.application? id).getD newApplication
  let counted := { p with counts := { p.counts with release := p.counts.release + 1 } }
  counted.setApplication id { a with releases := a.releases + 1 }

/-! ## Outcomes that are delivered by hand -/

/-- Delivers the outcome of the job that was submitted last for an application; tells whether
somebody gets it. -/
def completeJob (p : SimulatedPlatform) (id : ApplicationId) (outcome : JobOutcome) :
    Bool × SimulatedPlatform :=
  match p.pending.find? fun entry => entry.1 == id with
  | none => (false, p)
  | some (_, ticket) =>
    let taken := { p with pending := p.pending.filter fun entry => entry.1 != id }
    if p.dropped.contains ticket then (false, taken)
    else (true, { taken with delivered := (ticket, outcome) :: p.delivered })

/-- Notes that nobody waits for a job any more. -/
def dropJob (p : SimulatedPlatform) : RunningJob → SimulatedPlatform
  | .simulated _ _ _ (.held ticket) => { p with dropped := ticket :: p.dropped }
  | _ => p

/-- What a job that was taken by the platform gives after its delay, if it gives anything yet. -/
def jobResult? (p : SimulatedPlatform) (application : ApplicationId) (id : String) :
    JobSource → Option (Except DeployError JobOutcome)
  | .ready outcome => some (.ok outcome)
  | .held ticket =>
    match p.delivered.find? fun entry => entry.1 == ticket with
    | some (_, outcome) => some (.ok outcome)
    | none =>
      if p.pending.any fun entry => entry.2 == ticket then none
      else some (.error (failure application s!"result channel for job {id} closed"))

end SimulatedPlatform

end ClusterDeploy
