import ClusterDeploy.CommandLine.Help
import ClusterDeploy.CommandLine.Settings
import ClusterDeploy.Deployment
import ClusterDeploy.Failure
import ClusterDeploy.Platform.ResourceManager
import ClusterDeploy.Storage.WebHdfs
import ClusterDeploy.Time.Calendar

/-!
# The program

What the commands do: deploying, verifying and cleaning up, and showing the history of deployments.

## Main definitions

* `CommandLine.Question`, `CommandLine.Program` — what the program needs of the world.
* `CommandLine.Output` — what the program leaves behind: its exit status and what it wrote.
* `CommandLine.execute` — the program.
* `CommandLine.historyLine`, `CommandLine.reportLines` — what is written of a deployment.

## Implementation notes

The report of a deployment is written whenever there is one, also if the program then fails. A time
after the year 9999 cannot be written, and the program stops there.
-/

namespace ClusterDeploy.CommandLine

/-- Where the collaborators are. -/
structure Connection where
  storage : WebHdfs
  platform : ResourceManager
  ledger : String
  deriving DecidableEq, Repr

/-- What the program asks. -/
inductive Question where
  | readFile (path : String)
  /-- Bring the layout of a ledger up to date. -/
  | migrate (ledger : String)
  | deployment (ledger : String) (application : ApplicationId)
  | listRecent (ledger : String) (limit : Nat)
  | listRequiringInspection (ledger : String)
  | deploy (connection : Connection) (config : Config) (request : DeploymentRequest)
  | verify (connection : Connection) (manifest : Manifest)
  | cleanup (connection : Connection) (application : ApplicationId) (label : String)

/-- The answers to a question. -/
abbrev Answer : Question → Type
  | .readFile _ => Except FileFault Bytes
  | .migrate _ => Except DeployError Unit
  | .deployment _ _ => Except DeployError (Option DeploymentRecord)
  | .listRecent _ _ => Except DeployError (List DeploymentRecord)
  | .listRequiringInspection _ => Except DeployError (List DeploymentRecord)
  | .deploy _ _ _ => Except DeployError DeploymentReport
  | .verify _ _ => Except DeployError Unit
  | .cleanup _ _ _ => Except DeployError Bool

/-- A program with what it needs of the world. -/
abbrev Program (α : Type) := Dialogue Question Answer α

/-- Asks a question. -/
def ask (q : Question) : Program (Answer q) :=
  Dialogue.question q

/-! ## Output -/

/-- How the program ends. -/
inductive Exit where
  | success
  /-- The program failed and says why. -/
  | failure (message : String)
  /-- The arguments make no sense. -/
  | usage
  /-- The program broke off. -/
  | crash
  deriving DecidableEq, Repr

/-- The exit status. -/
def Exit.status : Exit → Nat
  | .success => 0
  | .failure _ => 1
  | .usage => 2
  | .crash => 101

/-- What the program leaves behind. -/
structure Output where
  lines : List String
  exit : Exit
  deriving DecidableEq, Repr

/-- What the program writes to its output. -/
def Output.text (o : Output) : String :=
  String.join (o.lines.map (· ++ "\n"))

/-- The first line of a text that ends a line. A carriage return before the end does not count. -/
def firstLine (text : String) : String :=
  let line := text.toList.takeWhile (· != '\n')
  String.ofList (if line.getLast? == some '\r' then line.dropLast else line)

/-- The first line of what the program writes about its failure. -/
def Output.errorLine? (o : Output) : Option String :=
  match o.exit with
  | .failure message => some (firstLine s!"Error: {message}")
  | _ => none

/-- The program fails. -/
def fail (lines : List String) (message : String) : Output :=
  ⟨lines, .failure message⟩

/-! ## Settings -/

/-- The pairs in the file of settings, if one is named. -/
def readSettings : Option String → Program (Except String (List (String × String)))
  | none => return .ok []
  | some path => do
    match ← ask (.readFile path) with
    | .error _ => return .error s!"failed to read config {path}"
    | .ok content =>
      if (Utf8.decode? content).isNone then return .error s!"failed to read config {path}"
      else match fileEntries content with
        | none => return .error s!"config {path} is not a JSON object"
        | some entries => return .ok entries

/-- The configuration that the command line asks for. -/
def resolveSettings (inv : Invocation) : Program (Except String Config) := do
  match ← readSettings inv.config with
  | .error message => return .error message
  | .ok fileEntries =>
    match defineEntries inv.defines with
    | .error define => return .error s!"override '{define}' is not of the form key=value"
    | .ok defined =>
      return (Config.resolve (fileEntries ++ defined)).mapError DeployError.display

/-- Where the command line says that the collaborators are. -/
def connection (inv : Invocation) : Connection where
  storage := ⟨inv.namenodeUrl, inv.user⟩
  platform :=
    { ResourceManager.ofUrl inv.resourceManagerUrl inv.storageUri with queue := inv.queue }
  ledger := inv.ledger

/-! ## Deploying -/

/-- The payload of the job, if a file is named. -/
def readPayload : Option String → Program (Except String Bytes)
  | none => return .ok []
  | some path => do
    return (← ask (.readFile path)).mapError fun _ => s!"failed to read payload {path}"

/-- The request for the deployment that the arguments ask for. -/
def requestOf (a : DeployArguments) (payload : Bytes) : DeploymentRequest where
  job := ⟨a.jobId.getD a.name, a.name, a.parallelism, payload, a.jars⟩
  bundle := a.bundle
  libraries := a.libraries

/-- What is written of a deployment. -/
def reportLines (r : DeploymentReport) : List String :=
  [s!"application:  {r.applicationId.display}",
    s!"staging dir:  {r.manifest.stagingDir}",
    s!"replication:  {r.manifest.replication.factor.toNat} ({r.manifest.replication.source})",
    s!"outcome:      {r.outcome.name}",
    s!"termination:  {r.termination.name}"]

/-- How the program ends after a deployment: badly if the cluster could not be killed or the job
failed. -/
def reportExit (r : DeploymentReport) : Exit :=
  match r.teardownError, r.outcome.failure? with
  | some e, _ => .failure e.display
  | none, some failure => .failure s!"job failed: {failure.outermost.display}"
  | none, none => .success

/-- Deploys a job. -/
def deploy (c : Connection) (config : Config) (a : DeployArguments) : Program Output := do
  match ← readPayload a.payload with
  | .error message => return fail [] message
  | .ok payload =>
    match ← ask (.deploy c config (requestOf a payload)) with
    | .error e => return fail [] e.display
    | .ok report => return ⟨reportLines report, reportExit report⟩

/-! ## History -/

/-- What has become of a deployment, in a word. -/
def stateWord (r : DeploymentRecord) : String :=
  match r.outcome, r.error with
  | some outcome, _ => outcome.name
  | none, some _ => "aborted"
  | none, none => "in-flight"

/-- What is written of a recorded deployment, if its time can be written. -/
def historyLine (r : DeploymentRecord) : Option String :=
  (Calendar.display? r.startedAt).map fun time =>
    let cluster := match r.termination with
      | some termination => s!"  cluster {termination.name}"
      | none => ""
    let cleaned := if r.cleanedAt.isSome then "  cleaned" else ""
    let inspect := if r.requiresInspection then "  INSPECT" else ""
    s!"{r.applicationId.display}  {time}  {r.jobName}  {stateWord r}" ++
      cluster ++ cleaned ++ inspect

/-- What is written of recorded deployments. -/
def historyOutput : List DeploymentRecord → Output
  | [] => ⟨[], .success⟩
  | r :: rest =>
    match historyLine r with
    | none => ⟨[], .crash⟩
    | some line =>
      let output := historyOutput rest
      { output with lines := line :: output.lines }

/-- Shows the history of deployments. -/
def history (ledger : String) (limit : Nat) (inspect : Bool) : Program Output := do
  let records ←
    if inspect then ask (.listRequiringInspection ledger) else ask (.listRecent ledger limit)
  match records with
  | .error e => return fail [] e.display
  | .ok records => return historyOutput records

/-! ## Commands -/

/-- Checks the artifacts of a recorded deployment. -/
def verify (c : Connection) (application : ApplicationId) : Program Output := do
  match ← ask (.deployment c.ledger application) with
  | .error e => return fail [] e.display
  | .ok none => return fail [] s!"no deployment recorded for {application.display}"
  | .ok (some record) =>
    match ← ask (.verify c record.manifest) with
    | .error e => return fail [] e.display
    | .ok () => return ⟨[s!"{application.display}: staged artifacts intact"], .success⟩

/-- Deletes the staging directory of a deployment. -/
def cleanup (c : Connection) (config : Config) (application : ApplicationId) : Program Output := do
  match ← ask (.cleanup c application config.stagingPrefix) with
  | .error e => return fail [] e.display
  | .ok true => return ⟨[s!"{application.display}: staging directory removed"], .success⟩
  | .ok false => return ⟨[s!"{application.display}: nothing to remove"], .success⟩

/-- Does what was asked for. -/
def perform (inv : Invocation) : Program Output := do
  match ← resolveSettings inv with
  | .error message => return fail [] message
  | .ok config =>
    match ← ask (.migrate inv.ledger) with
    | .error _ => return fail [] s!"failed to migrate ledger {inv.ledger}"
    | .ok () =>
      let c := connection inv
      match inv.command with
      | .deploy arguments => deploy c config arguments
      | .verify application => verify c application
      | .cleanup application => cleanup c config application
      | .history limit inspect => history inv.ledger limit inspect

/-- The version of the program. -/
def versionLine : String := "jobcluster 0.1.0"

/-- The program. -/
def execute (arguments : List String) (env : List (String × String)) : Program Output :=
  match parse arguments env with
  | .ok inv => perform inv
  | .error .usage => return ⟨[], .usage⟩
  | .error .version => return ⟨[versionLine], .success⟩
  | .error (.help topic) => return ⟨[helpText env topic], .success⟩

end ClusterDeploy.CommandLine
