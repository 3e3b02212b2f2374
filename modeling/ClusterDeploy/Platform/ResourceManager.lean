import ClusterDeploy.Failure
import ClusterDeploy.Http.Exchange
import ClusterDeploy.Platform.Call
import ClusterDeploy.Storage.Call

/-!
# The resource manager

The platform behind the REST interface of a resource manager. A cluster publishes an interface of
its own, to which jobs are submitted and from which their results are read.

## Main definitions

* `ResourceManager` — where the resource manager is, and what it is told with each cluster.
* `ResourceManager.newApplication`, `ResourceManager.createCluster`, `ResourceManager.submitJob`,
  `ResourceManager.queryStatus`, `ResourceManager.forceKill` — the operations.
* `ResourceManager.awaitRunning` — waits until a cluster is up.
* `ResourceManager.submission` — the document that asks for a cluster.

## Implementation notes

A cluster that does not come up is killed. It is also killed if the request for it was not answered,
because the resource manager may have accepted it all the same. The time that a cluster takes to
come up is noticed after each report; two reports lie at least a millisecond apart.
-/

namespace ClusterDeploy

/-- The address of a resource manager, and what it is told with each cluster. -/
structure ResourceManager where
  url : String
  /-- What the paths of artifacts are relative to. -/
  storageUri : String
  applicationType : String
  queue : Option String
  launchCommand : String
  /-- How long to wait between two reports of a cluster that comes up. -/
  startupPollInterval : Millis
  /-- How long to wait between two looks at the result of a job. -/
  resultPollInterval : Millis
  deriving DecidableEq, Repr

namespace ResourceManager

/-- The usual settings for a resource manager. -/
def ofUrl (url storageUri : String) : ResourceManager where
  url := url
  storageUri := storageUri
  applicationType := "jobcluster"
  queue := none
  launchCommand := "./bin/jobcluster-master 1> <LOG_DIR>/master.out 2> <LOG_DIR>/master.err"
  startupPollInterval := 500
  resultPollInterval := 500

/-- A program that asks the resource manager and may fail. -/
abbrev Program (α : Type) := ExceptT DeployError Http.Client α

/-- The URL of a part of the interface. -/
def clusterUrl (rm : ResourceManager) (part : String) : String :=
  s!"{Storage.withoutSlashes rm.url}/ws/v1/cluster{part}"

/-! ## Failures -/

/-- A failure of the platform. -/
def failure (message : String) : DeployError :=
  .ofKind .deployment message

/-- The failure of a request that was answered with a status that is no success. -/
def statusFailure (operation : String) (status : Nat) (body : Option Bytes) : DeployError :=
  let said := (body.map Http.bodyText).getD ""
  failure s!"{operation} failed with HTTP {status}: {said}"

/-- The failure of a request that was not answered. -/
def transportFailure (operation : String) : DeployError :=
  failure s!"{operation} failed: no answer"

/-- The value in an answer. -/
def readResponse {α : Type} (read : Json.Reader α) (operation : String) :
    Http.Response → Except DeployError α
  | .none => .error (transportFailure operation)
  | .failure status body => .error (statusFailure operation status body)
  | .success none => .error (failure s!"{operation} body unreadable: cut short")
  | .success (some body) =>
    match Http.readBody read body with
    | some value => .ok value
    | none => .error (failure s!"{operation} returned unexpected JSON: another document")

/-! ## Documents -/

/-- What the resource manager reports of an application. -/
structure ApplicationReport where
  state : String
  trackingUrl : Option String
  diagnostics : Option String
  deriving DecidableEq, Repr

/-- The report in a document. -/
def reportReader : Json.Reader ApplicationReport :=
  Json.record ["app"] fun
    | depth, [slot] =>
      Json.required (Json.record ["state", "trackingUrl", "diagnostics"] fun
        | depth, [stateSlot, urlSlot, diagnosticsSlot] => do
          let state ← Json.required Json.text depth stateSlot
          let trackingUrl ← Json.optional Json.text depth urlSlot
          let diagnostics ← Json.optional Json.text depth diagnosticsSlot
          return ⟨state, trackingUrl, diagnostics⟩
        | _, _ => none) depth slot
    | _, _ => none

/-- Whether a state is one that an application does not leave. -/
def isFinal (state : String) : Bool :=
  state = "FINISHED" || state = "FAILED" || state = "KILLED"

/-- An object, with its members in ascending order. -/
def object (members : List (String × Json)) : Json :=
  .object (Json.membersOf members)

/-- A whole number. -/
def number (n : Nat) : Json :=
  .number (.natural n)

/-- An artifact as a local resource of the cluster. -/
def localResource (rm : ResourceManager) (a : StagedArtifact) : Json :=
  object [
    ("key", .string a.entry.remoteName),
    ("value", object [
      ("resource", .string (Storage.withoutSlashes rm.storageUri ++ a.remotePath)),
      ("type", .string "FILE"),
      ("visibility", .string "APPLICATION"),
      ("size", number a.len.toNat),
      ("timestamp", number a.modificationTime.toNat)])]

/-- The separator of the names on a classpath. -/
def classpathSeparator : String := ":"

/-- The environment of a cluster. -/
def environment (request : ClusterRequest) : List (String × String) :=
  let spec := request.specification
  [("JOBCLUSTER_STAGING_DIR", request.stagingDir),
    ("JOBCLUSTER_CLASSPATH", classpathSeparator.intercalate request.systemClasspath),
    ("JOBCLUSTER_USER_CLASSPATH", classpathSeparator.intercalate request.userClasspath),
    ("JOBCLUSTER_WORKER_MEMORY_MB", String.ofList (Text.decimal spec.workerMemoryMb.toNat)),
    ("JOBCLUSTER_SLOTS_PER_WORKER", String.ofList (Text.decimal spec.slotsPerWorker.toNat)),
    ("JOBCLUSTER_WORKER_COUNT", String.ofList (Text.decimal spec.workerCount.toNat))]

/-- The document that asks for a cluster. -/
def submission (rm : ResourceManager) (request : ClusterRequest) : Json :=
  let entry (key value : String) : Json := object [("key", .string key), ("value", .string value)]
  let queue := rm.queue.toList.map fun name => ("queue", Json.string name)
  object (queue ++ [
    ("application-id", .string request.applicationId.display),
    ("application-name", .string request.name),
    ("application-type", .string rm.applicationType),
    ("am-container-spec", object [
      ("local-resources", object [("entry", .array (request.artifacts.map rm.localResource))]),
      ("environment", object [
        ("entry", .array ((environment request).map fun (key, value) => entry key value))]),
      ("commands", object [("command", .string rm.launchCommand)])]),
    ("resource", object [
      ("memory", number request.specification.masterMemoryMb.toNat),
      ("vCores", number 1)]),
    ("max-app-attempts", number 1),
    ("unmanaged-AM", .bool false),
    ("keep-containers-across-application-attempts", .bool false)])

/-- The content of a request that is a document. -/
def contentOf (doc : Json) : Http.Content :=
  ⟨"application/json", Utf8.encode doc.compact⟩

/-! ## Operations -/

/-- Reserves an application id. -/
def newApplication (rm : ResourceManager) : Program ApplicationId := do
  let text ← ExceptT.mk do
    return readResponse (Json.only "application-id" Json.text) "new application"
      (← Http.send "POST" (rm.clusterUrl "/apps/new-application") [] none)
  match ApplicationId.parse text with
  | some id => return id
  | none =>
    throw (failure s!"resource manager returned malformed application id '{text}'")

/-- Asks that an application be killed. -/
def kill (rm : ResourceManager) (id : ApplicationId) : Program Unit := do
  let operation := "kill application"
  let content := contentOf (object [("state", .string "KILLED")])
  match ← ExceptT.lift (Http.send "PUT" (rm.clusterUrl s!"/apps/{id.display}/state") []
      (some content)) with
  | .success _ => return ()
  | .failure status body => throw (statusFailure operation status body)
  | .none => throw (transportFailure operation)

/-- What a report says about a cluster that comes up. -/
inductive Startup where
  /-- The cluster accepts work at a URL. -/
  | running (url : String)
  /-- The cluster will not come up any more. -/
  | stopped
  /-- The cluster is not up yet. -/
  | starting
  deriving DecidableEq, Repr

/-- What a report says about a cluster that comes up. -/
def ApplicationReport.startup (report : ApplicationReport) : Startup :=
  if report.state = "RUNNING" then
    match report.trackingUrl.filter (· != "") with
    | some url => .running url
    | none => .starting
  else if isFinal report.state then .stopped
  else .starting

/-- The failure of a cluster that stopped before it was up. -/
def stoppedError (id : ApplicationId) (report : ApplicationReport) : DeployError :=
  failure (s!"cluster {id.display} stopped during startup in state {report.state}: " ++
    report.diagnostics.getD "")

/-- The failure of a cluster that was not up in time. -/
def lateError (request : ClusterRequest) (report : ApplicationReport) : DeployError :=
  failure (s!"cluster {request.applicationId.display} did not start within " ++
    s!"{request.startupTimeout}ms (last state {report.state})")

/-- Waits until a cluster is up and gives the URL of its interface; `remaining` is the time that it
may still take. -/
def awaitRunning (rm : ResourceManager) (request : ClusterRequest) (remaining : Millis) :
    Http.Client (Except DeployError String) := do
  let (took, response) ←
    Http.sendTimed "GET" (rm.clusterUrl s!"/apps/{request.applicationId.display}") [] none
  match readResponse reportReader "application report" response with
  | .error e => return .error e
  | .ok report =>
    match report.startup with
    | .running url => return .ok url
    | .stopped => return .error (stoppedError request.applicationId report)
    | .starting =>
      if _hleft : remaining - took = 0 then return .error (lateError request report)
      else
        let span := max 1 rm.startupPollInterval
        Dialogue.question (Q := Http.Question) (A := Http.Answer) (.pause span)
        awaitRunning rm request (remaining - took - span)
termination_by remaining
decreasing_by
  have hspan : 0 < max 1 rm.startupPollInterval :=
    Nat.lt_of_lt_of_le Nat.zero_lt_one (Nat.le_max_left _ _)
  exact Nat.lt_of_lt_of_le (Nat.sub_lt (Nat.pos_of_ne_zero _hleft) hspan) (Nat.sub_le _ _)

/-- Starts a cluster and waits until it is up. A cluster that does not come up is killed. -/
def createCluster (rm : ResourceManager) (request : ClusterRequest) : Program ClusterHandle := do
  let id := request.applicationId
  let operation := "submit application"
  match ← ExceptT.lift (Http.send "POST" (rm.clusterUrl "/apps") []
      (some (contentOf (rm.submission request)))) with
  | .failure status body => throw (statusFailure operation status body)
  | .none =>
    let _ ← ExceptT.lift (rm.kill id).run
    throw (transportFailure operation)
  | .success _ =>
    match ← ExceptT.lift (rm.awaitRunning request request.startupTimeout) with
    | .ok url => return ⟨id, Storage.withoutSlashes url⟩
    | .error e =>
      let _ ← ExceptT.lift (rm.kill id).run
      throw e

/-- The URL of the result of a job. -/
def resultUrl (endpoint jobId : String) : String :=
  s!"{endpoint}/jobs/{jobId}/execution-result"

/-- Hands a job to a cluster. -/
def submitJob (rm : ResourceManager) (handle : ClusterHandle) (job : Job) : Program RunningJob := do
  let parameters := [("jobId", job.id), ("jobName", job.name),
    ("parallelism", String.ofList (Text.decimal job.parallelism.toNat))]
  let _ ← ExceptT.mk do
    return readResponse (Json.only "jobUrl" Json.text) "submit job"
      (← Http.send "POST" s!"{handle.endpoint}/jobs" parameters
        (some ⟨"application/octet-stream", job.payload⟩))
  return .polled job.id (resultUrl handle.endpoint job.id) rm.resultPollInterval

/-- Says whether a cluster has finished. -/
def queryStatus (rm : ResourceManager) (handle : ClusterHandle) : Program ApplicationStatus := do
  let state ← ExceptT.mk do
    return readResponse (Json.only "state" Json.text) "application state"
      (← Http.send "GET" (rm.clusterUrl s!"/apps/{handle.applicationId.display}/state") [] none)
  return if isFinal state then .finished else .running

/-- Kills a cluster. -/
def forceKill (rm : ResourceManager) (handle : ClusterHandle) : Program Unit :=
  ExceptT.mk do
    return (← (rm.kill handle.applicationId).run).mapError fun e => { e with kind := .teardown }

/-- What the platform does when it is called. -/
def answer (rm : ResourceManager) : (call : Platform.Call) → Program call.Value
  | .newApplication => rm.newApplication
  | .createCluster request => rm.createCluster request
  | .submitJob handle job => rm.submitJob handle job
  | .queryStatus handle => rm.queryStatus handle
  | .forceKill handle => rm.forceKill handle

end ResourceManager

end ClusterDeploy
