import ClusterDeploy.Digest.Sha256
import ClusterDeploy.Platform.JobResult
import ClusterDeploy.Platform.Simulated
import ClusterDeploy.Rehearsal.Call
import ClusterDeploy.Storage.WebHdfs

/-!
# Threads

The work of an operation, down to the single acts that a rehearsal knows: noting a call, waiting,
changing a file, asking a simulated collaborator or the HTTP server.

## Main definitions

* `Rehearsal.Act`, `Rehearsal.Thread` — acts, and programs made of them.
* `Rehearsal.Backends` — who the collaborators are.
* `Rehearsal.guarded` — a call that is noted and that rules may disturb.
* `Rehearsal.dropGuard` — the end of a cluster whose connection nobody holds any more.
* `Rehearsal.workThread`, `Rehearsal.discard` — an operation, and a result that nobody gets.

## Implementation notes

When a call is noted it may turn out that the deployment is left at this very moment. Then the
thread first does what leaving the deployment does to the cluster, and goes on with its own work.
-/

namespace ClusterDeploy.Rehearsal

/-- What comes of noting a call: the rules for it, and the connection that is dropped now. -/
structure Entry where
  rules : List Rule
  dropped : Option ClusterHandle

/-- An act of a thread. -/
inductive Act where
  /-- Note a call. -/
  | enter (call : Call)
  | sleep (span : Millis)
  | removeFile (path : String)
  | writeFile (path : String) (content : Bytes)
  | readFile (path : String)
  | isFile (path : String)
  /-- Ask the storage in memory. -/
  | storage (call : Storage.Call)
  /-- Ask the simulated platform. -/
  | platform (call : Platform.Call)
  | release (handle : ClusterHandle)
  | dropJob (job : RunningJob)
  | ledger (call : Ledger.Call)
  | exchange (request : Http.Request)

/-- What comes of an act. -/
abbrev Act.Answer : Act → Type
  | .enter _ => Entry
  | .sleep _ => Unit
  | .removeFile _ => Unit
  | .writeFile _ _ => Unit
  | .readFile _ => Except FileFault Bytes
  | .isFile _ => Bool
  | .storage call => Except DeployError call.Value
  | .platform call => Except DeployError call.Value
  | .release _ => Unit
  | .dropJob _ => Unit
  | .ledger call => Except DeployError call.Value
  | .exchange _ => Millis × Http.Reply

/-- A program made of acts. -/
abbrev Thread (α : Type) := Dialogue Act Act.Answer α

/-- One act. -/
def act (a : Act) : Thread a.Answer :=
  Dialogue.question a

/-- Who the storage is. -/
inductive StorageBackend where
  | memory
  | webHdfs (client : WebHdfs)

/-- Who the platform is. -/
inductive PlatformBackend where
  | simulated (script : PlatformScript)
  | resourceManager (client : ResourceManager)

/-- Who the collaborators are. -/
structure Backends where
  storage : StorageBackend
  platform : PlatformBackend

/-! ## Collaborators -/

/-- What a client asks of the server, as acts. -/
def answerClient : (q : Http.Question) → Thread (Http.Answer q)
  | .exchange request => do
    let (took, reply) ← act (.exchange request)
    act (.sleep took)
    return (took, reply)
  | .pause span => act (.sleep span)

/-- A client as a thread. -/
def clientThread {α : Type} (client : Http.Client α) : Thread α :=
  client.run answerClient

/-- The content of the local file that a call uploads. -/
def uploaded : Storage.Call → Thread (Except FileFault Bytes)
  | .upload localPath _ => act (.readFile localPath)
  | _ => return .ok []

/-- A call to the storage itself. -/
def storageThread (b : Backends) (call : Storage.Call) : Thread (Except DeployError call.Value) :=
  match b.storage with
  | .memory => act (.storage call)
  | .webHdfs client => do
    let content ← uploaded call
    clientThread (client.answer content call).run

/-- A call to the platform itself. -/
def platformThread (b : Backends) (call : Platform.Call) : Thread (Except DeployError call.Value) :=
  match b.platform with
  | .simulated script => do
    act (.sleep (script.delay call))
    act (.platform call)
  | .resourceManager client => clientThread (client.answer call).run

/-- Closing a connection itself. A resource manager does not hear of it. -/
def releaseThread (b : Backends) (handle : ClusterHandle) : Thread Unit :=
  match b.platform with
  | .simulated _ => act (.release handle)
  | .resourceManager _ => return ()

/-! ## Calls under rules -/

/-- What one rule does; tells how the call ends if it does not go on. -/
def applyRule (r : Rule) : Thread (Option Mishap) := do
  act (.sleep r.delay)
  match r.deleteFile with
  | some path => act (.removeFile path)
  | none => pure ()
  match r.writeFile with
  | some (path, content) => act (.writeFile path content)
  | none => pure ()
  match r.verdict with
  | .proceed => return none
  | .die => return some .died
  | .fail e => return some (.failed e)

/-- What rules do, one after the other, until one ends the call. -/
def applyRules : List Rule → Thread (Option Mishap)
  | [] => return none
  | r :: rest => do
    match ← applyRule r with
    | some mishap => return some mishap
    | none => applyRules rest

/-- A call that was noted, under its rules. -/
def underRules {α : Type} (rules : List Rule) (go : Thread (Except DeployError α)) :
    Thread (Attempt α) := do
  match ← applyRules rules with
  | some mishap => return .error mishap
  | none => return (← go).mapError .failed

/-- The end of a cluster whose connection nobody holds any more: it is killed, whether that works or
not, and the connection is closed. -/
def dropGuard (b : Backends) (handle : ClusterHandle) : Thread Unit := do
  let kill : Platform.Call := .forceKill handle
  let killEntry ← act (.enter (.platform kill))
  let _ ← underRules killEntry.rules (platformThread b kill)
  let releaseEntry ← act (.enter (.release handle))
  let _ ← applyRules releaseEntry.rules
  releaseThread b handle

/-- A call that is noted and that rules may disturb. -/
def guarded {α : Type} (b : Backends) (call : Call) (go : Thread (Except DeployError α)) :
    Thread (Attempt α) := do
  let entry ← act (.enter call)
  match entry.dropped with
  | some handle => dropGuard b handle
  | none => pure ()
  underRules entry.rules go

/-- Closing a connection, which is noted and cannot fail. -/
def guardedRelease (b : Backends) (handle : ClusterHandle) : Thread Unit := do
  let entry ← act (.enter (.release handle))
  let _ ← applyRules entry.rules
  releaseThread b handle

/-! ## Operations -/

/-- What work in the background asks, as acts. -/
def answerWork (b : Backends) : (q : Work.Question) → Thread (Work.Answer q)
  | .storage call => guarded b (.storage call) (storageThread b call)
  | .platform call => guarded b (.platform call) (platformThread b call)
  | .ledger call => guarded b (.ledger call) (act (.ledger call))
  | .isFile path => act (.isFile path)
  | .digest path => do
    return (← act (.readFile path)).map Sha256.hex

/-- Work in the background as a thread. -/
def workThread {α : Type} (b : Backends) (w : Work α) : Thread (Attempt α) :=
  w.run.run (answerWork b)

/-- What becomes of the result of an operation that nobody gets: a cluster is killed, and a job is
left alone. -/
def discard (b : Backends) : (op : Operation) → Attempt op.Value → Thread Unit
  | .platform (.createCluster _), .ok handle => dropGuard b handle
  | .platform (.submitJob _ _), .ok job => act (.dropJob job)
  | _, _ => return ()

end ClusterDeploy.Rehearsal
