import ClusterDeploy.Http.Exchange
import ClusterDeploy.Task

/-!
# Calls in a rehearsal

In a rehearsal the calls of a deployment to its collaborators are noted, and rules may disturb them.

## Main definitions

* `Rehearsal.Call` — a call to one of the collaborators.
* `Rehearsal.Call.name`, `Rehearsal.Call.entry` — its name, and how it is noted.
* `Rehearsal.Rule` — what is to happen when a call is made.
* `Rehearsal.Peer` — an HTTP server that follows a script.
-/

namespace ClusterDeploy.Rehearsal

/-- A call to one of the collaborators. -/
inductive Call where
  | storage (call : Storage.Call)
  | platform (call : Platform.Call)
  | release (handle : ClusterHandle)
  | ledger (call : Ledger.Call)
  deriving DecidableEq, Repr

namespace Call

/-- The name of a call. -/
def name : Call → String
  | .storage .homeDirectory => "home_directory"
  | .storage .defaultReplication => "default_replication"
  | .storage (.upload _ _) => "upload"
  | .storage (.setReplication _ _) => "set_replication"
  | .storage (.stat _) => "stat"
  | .storage (.deleteRecursive _) => "delete_recursive"
  | .platform .newApplication => "new_application"
  | .platform (.createCluster _) => "create_cluster"
  | .platform (.submitJob _ _) => "submit_job"
  | .platform (.queryStatus _) => "query_status"
  | .platform (.forceKill _) => "force_kill"
  | .release _ => "release"
  | .ledger (.recordStarted _ _) => "record_started"
  | .ledger (.recordCompleted _) => "record_completed"
  | .ledger (.recordAborted _ _ _ _) => "record_aborted"
  | .ledger (.markCleaned _) => "mark_cleaned"

/-- What is noted of a call beside its name. -/
def arguments : Call → List String
  | .storage (.upload localPath remotePath) => [localPath, remotePath]
  | .storage (.setReplication path factor) => [path, String.ofList (Text.decimal factor.toNat)]
  | .storage (.stat path) => [path]
  | .storage (.deleteRecursive path) => [path]
  | .storage .homeDirectory => []
  | .storage .defaultReplication => []
  | .platform .newApplication => []
  | .platform (.createCluster request) => [request.applicationId.display]
  | .platform (.submitJob handle job) => [handle.applicationId.display, job.id]
  | .platform (.queryStatus handle) => [handle.applicationId.display]
  | .platform (.forceKill handle) => [handle.applicationId.display]
  | .release handle => [handle.applicationId.display]
  | .ledger (.recordStarted jobName m) => [m.applicationId.display, jobName]
  | .ledger (.recordCompleted report) => [report.applicationId.display]
  | .ledger (.recordAborted application _ termination _) =>
    [application.display, (termination.map Termination.name).getD "none"]
  | .ledger (.markCleaned application) => [application.display]

/-- How a call is noted. -/
def entry (c : Call) : String :=
  String.ofList (Text.trimEnd (" ".intercalate (c.name :: c.arguments)).toList)

end Call

/-! ## Rules -/

/-- How a rule makes a call end. -/
inductive Verdict where
  /-- The call goes on. -/
  | proceed
  /-- The call dies. -/
  | die
  /-- The call fails. -/
  | fail (error : DeployError)
  deriving DecidableEq, Repr

/-- What is to happen when a call is made. -/
structure Rule where
  /-- The name of the call. -/
  call : String
  /-- The number of the call in the rehearsal; nothing means every one. -/
  nth : Option Nat
  delay : Millis
  deleteFile : Option String
  writeFile : Option (String × Bytes)
  verdict : Verdict
  deriving DecidableEq, Repr

/-- Whether a rule is for the call with a name and a number. -/
def Rule.isFor (r : Rule) (name : String) (number : Nat) : Bool :=
  r.call == name && r.nth.all (· == number)

/-! ## The server -/

/-- An answer of the server, and how long it takes. -/
structure ScriptedReply where
  delay : Millis
  reply : Http.Reply
  deriving DecidableEq, Repr

/-- An HTTP server that follows a script. -/
structure Peer where
  script : List ScriptedReply
  /-- The requests since the start of a step, the last one first. -/
  received : List Http.Request
  deriving DecidableEq, Repr

/-- The answer when the script has come to its end. -/
def Peer.exhausted : Millis × Http.Reply :=
  (0, .answered 599 (some (Utf8.encode "no scripted response")))

/-- The server gets a request. -/
def Peer.exchange (p : Peer) (request : Http.Request) : (Millis × Http.Reply) × Peer :=
  match p.script with
  | [] => (exhausted, { p with received := request :: p.received })
  | next :: rest => ((next.delay, next.reply), ⟨rest, request :: p.received⟩)

end ClusterDeploy.Rehearsal
