import ClusterDeploy.Staging

/-!
# Tasks

A task is a program that drives a deployment. It has operations done in the background and waits for
them, and it may be left at every point where it waits. Then the connection to a cluster that it
holds at that point is all that is left of it.

## Main definitions

* `Operation`, `Operation.work` — what can be done in the background.
* `Ending` — how long a bounded operation takes, and its result.
* `Task.Question`, `Task.Answer`, `Task` — programs that drive deployments.
* `Task.background`, `Task.bounded` — has an operation done, for as long as it takes or within a
  limit.

## Implementation notes

An operation that takes as long as its limit is too late. An operation that is too late runs on, but
nobody learns of its result. Every question at which a task waits carries the connection to a
cluster that the task holds then.
-/

namespace ClusterDeploy

/-- What can be done in the background. -/
inductive Operation where
  | platform (call : Platform.Call)
  | ledger (call : Ledger.Call)
  | stage (application : ApplicationId) (label : String) (entries : List ArtifactEntry)
      (factor : Option UInt16)
  | verify (manifest : Manifest)
  | remove (application : ApplicationId) (label : String)
  deriving DecidableEq, Repr

namespace Operation

/-- The results of an operation. -/
abbrev Value : Operation → Type
  | .platform call => call.Value
  | .ledger call => call.Value
  | .stage _ _ _ _ => Manifest
  | .verify _ => Unit
  | .remove _ _ => Bool

/-- The work that an operation is. -/
def work : (op : Operation) → Work op.Value
  | .platform call => Work.platform call
  | .ledger call => Work.ledger call
  | .stage application label entries factor => Staging.stage application label entries factor
  | .verify manifest => Staging.verify manifest
  | .remove application label => Staging.remove application label

end Operation

/-- How long an operation takes, and its result. -/
inductive Ending (α : Type) where
  | ended (took : Millis) (result : Attempt α)
  | endless

namespace Ending

variable {α : Type}

/-- The result of an operation, if there is one within a limit. -/
def within (limit : Millis) : Ending α → Option (Attempt α)
  | .ended took result => if took < limit then some result else none
  | .endless => none

/-- How long somebody waits for an operation who waits no longer than a limit. -/
def elapsed (limit : Millis) : Ending α → Millis
  | .ended took _ => min took limit
  | .endless => limit

end Ending

/-- What came of waiting for a job. -/
inductive Watched where
  | cancelled
  | expired
  | resolved (result : Except DeployError JobOutcome)

namespace Task

/-- What a task asks. -/
inductive Question where
  /-- Have an operation done, however long it takes. -/
  | background (op : Operation) (held : Option ClusterHandle)
  /-- Have an operation done, but do not wait longer than a limit. -/
  | bounded (op : Operation) (limit : Millis) (held : Option ClusterHandle)
  /-- Wait for the end of a job, a timeout or a cancellation. -/
  | watch (job : RunningJob) (timeout : Option Millis) (held : Option ClusterHandle)
  /-- Wait for a span of time. -/
  | pause (span : Millis) (held : Option ClusterHandle)
  /-- Whether the deployment is cancelled. -/
  | isCancelled
  /-- Close the connection to a cluster. -/
  | release (handle : ClusterHandle)

/-- The answers to a question. -/
abbrev Answer : Question → Type
  | .background op _ => Attempt op.Value
  | .bounded op _ _ => Ending op.Value
  | .watch _ _ _ => Watched
  | .pause _ _ => Unit
  | .isCancelled => Bool
  | .release _ => Unit

end Task

/-- A program that drives a deployment. -/
abbrev Task (α : Type) := Dialogue Task.Question Task.Answer α

namespace Task

/-- Asks a question. -/
def ask (q : Question) : Task (Answer q) :=
  Dialogue.question q

/-- Has an operation done. A failure names the stage and the application. -/
def background (stage : Stage) (application : Option ApplicationId) (op : Operation)
    (held : Option ClusterHandle) : Task (Except DeployError op.Value) := do
  return (← ask (.background op held)).settle stage application

/-- The failure of an operation that did not end within its limit. -/
def timeoutError (stage : Stage) (application : Option ApplicationId) (limit : Millis) :
    DeployError :=
  ⟨application, some stage, .timeout, s!"{stage.name} did not complete within {limit}ms"⟩

/-- The result of an operation as seen by somebody who waits no longer than a limit. -/
def settleWithin {α : Type} (stage : Stage) (application : Option ApplicationId) (limit : Millis)
    (ending : Ending α) : Except DeployError α :=
  match ending.within limit with
  | some result => result.settle stage application
  | none => .error (timeoutError stage application limit)

/-- Has an operation done, but does not wait longer than a limit. -/
def bounded (stage : Stage) (application : Option ApplicationId) (limit : Millis) (op : Operation)
    (held : Option ClusterHandle) : Task (Except DeployError op.Value) := do
  return settleWithin stage application limit (← ask (.bounded op limit held))

/-- Whether the deployment is cancelled. -/
def isCancelled : Task Bool :=
  ask .isCancelled

/-- The failure of a deployment that was cancelled. -/
def cancelledError (application : ApplicationId) (stage : Stage) : DeployError :=
  ⟨some application, some stage, .cancelled, "deployment cancelled by caller"⟩

/-! ## Staging -/

/-- A failure of the storage while staging is a failure of staging. -/
def asStagingError (e : DeployError) : DeployError :=
  match e.kind with
  | .storageFailure => { e with kind := .staging }
  | _ => e

/-- Has an operation on the staging directory of an application done. -/
def staging (application : ApplicationId) (op : Operation) :
    Task (Except DeployError op.Value) := do
  return (← background .staging (some application) op none).mapError asStagingError

/-- Copies the artifacts of an application. -/
def stage (application : ApplicationId) (label : String) (entries : List ArtifactEntry)
    (factor : Option UInt16) : Task (Except DeployError Manifest) :=
  staging application (.stage application label entries factor)

/-- Checks that the artifacts of a manifest are still there. -/
def verify (m : Manifest) : Task (Except DeployError Unit) :=
  staging m.applicationId (.verify m)

/-- Deletes the staging directory of an application. -/
def remove (application : ApplicationId) (label : String) : Task (Except DeployError Bool) :=
  staging application (.remove application label)

end Task

end ClusterDeploy
