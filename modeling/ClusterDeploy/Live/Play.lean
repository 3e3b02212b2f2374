import ClusterDeploy.CommandLine.Program
import ClusterDeploy.Digest.Sha256
import ClusterDeploy.Live.Files
import ClusterDeploy.Live.Network
import ClusterDeploy.Platform.JobResult
import Std.Time.DateTime.Timestamp

/-!
# Playing a task

Running a task for real: with collaborators behind the network, on local files and in real time.

## Main definitions

* `Live.Stage` — who the collaborators are, how patient one is with them, and whether the user has
  interrupted the program.
* `Live.perform` — does an operation.
* `Live.play` — runs a task.

## Implementation notes

An operation that is too late runs on in its own thread. If it creates a cluster nobody waits for,
the cluster is killed.
-/

namespace ClusterDeploy.Live

/-- How long to wait for an answer of the storage. -/
def storageLimit : Millis := 30000

/-- Who the collaborators are, and what else a task meets. -/
structure Stage where
  connection : CommandLine.Connection
  /-- How long to wait for an answer of the platform. -/
  platformLimit : Millis
  /-- Whether the user has interrupted the program. -/
  isInterrupted : IO Bool

/-- The time, in milliseconds since 1970. -/
def now : IO Int := do
  return (← Std.Time.Timestamp.now).toMillisecondsSinceUnixEpoch.toInt

/-! ## Collaborators -/

/-- What a client asks of a server. -/
def answerClient (limit : Millis) : (q : Http.Question) → IO (Http.Answer q)
  | .exchange request => do
    let start ← IO.monoMsNow
    let reply ← exchange limit request
    return ((← IO.monoMsNow) - start, reply)
  | .pause span => pause span

/-- Runs a client that may fail. -/
def runClient {α : Type} (limit : Millis) (client : ExceptT DeployError Http.Client α) :
    IO (Attempt α) := do
  return (← client.run.run (answerClient limit)).mapError .failed

/-- The content of the local file that a call uploads. -/
def uploaded : Storage.Call → IO (Except FileFault Bytes)
  | .upload localPath _ => readFile localPath
  | _ => return .ok []

/-- What work in the background asks. -/
def answerWork (s : Stage) : (q : Work.Question) → IO (Work.Answer q)
  | .storage call => do
    let content ← uploaded call
    runClient storageLimit (s.connection.storage.answer content call)
  | .platform call => runClient s.platformLimit (s.connection.platform.answer call)
  | .ledger call => do
    let result ← onLedger s.connection.ledger call.operation (call.action (← now))
    return result.mapError .failed
  | .isFile path => isFile path
  | .digest path => do
    return (← readFile path).map Sha256.hex

/-! ## Operations -/

/-- Does an operation. -/
def perform (s : Stage) (op : Operation) : IO (Attempt op.Value) :=
  op.work.run.run (answerWork s)

/-- What came of a thread: it dies with an error of the system. -/
def resultOf {α : Type} : Except IO.Error (Attempt α) → Attempt α
  | .ok result => result
  | .error _ => .error .died

/-- What becomes of the result of an operation that nobody gets: a cluster is killed. -/
def discard (s : Stage) : (op : Operation) → Attempt op.Value → IO Unit
  | .platform (.createCluster _), .ok handle => do
    let _ ← perform s (.platform (.forceKill handle))
  | _, _ => return ()

/-- Does an operation, but waits no longer than a limit. -/
def performWithin (s : Stage) (op : Operation) (limit : Millis) : IO (Ending op.Value) := do
  let start ← IO.monoMsNow
  let thread ← IO.asTask (perform s op) .dedicated
  if ← waitUntil (some (start + limit)) (IO.hasFinished thread) then
    return .ended ((← IO.monoMsNow) - start) (resultOf (← IO.wait thread))
  else
    let _ ← IO.mapTask (fun result => discard s op (resultOf result)) thread
    return .endless

/-! ## Jobs -/

/-- Looks at the result of a job again and again, until there is one or the thread is cancelled. -/
partial def poll (s : Stage) (url : String) (interval : Millis) (polling : JobResult.Polling) :
    IO (Except DeployError JobOutcome) := do
  match ← (JobResult.look url polling).run (answerClient s.platformLimit) with
  | .inl result => return result
  | .inr next =>
    let stop := (← IO.monoMsNow) + interval
    if ← waitUntil (some stop) IO.checkCanceled then
      return .error (.ofKind .internal "nobody waits for the job")
    else poll s url interval next

/-- Waits for the end of a job, a timeout or a cancellation. -/
def watch (s : Stage) (url : String) (interval : Millis) (timeout : Option Millis) :
    IO Watched := do
  let stop := timeout.map ((← IO.monoMsNow) + ·)
  let thread ← IO.asTask (poll s url interval .start) .dedicated
  let isOver ← waitUntil stop do
    return (← s.isInterrupted) || (← IO.hasFinished thread)
  if ← s.isInterrupted then
    IO.cancel thread
    return .cancelled
  else if isOver then
    match ← IO.wait thread with
    | .ok result => return .resolved result
    | .error e => return .resolved (.error (.ofKind .internal e.toString))
  else
    IO.cancel thread
    return .expired

/-! ## Tasks -/

/-- What a task asks. -/
def answerTask (s : Stage) : (q : Task.Question) → IO (Task.Answer q)
  | .background op _ => perform s op
  | .bounded op limit _ => performWithin s op limit
  | .watch (.polled _ url interval) timeout _ => watch s url interval timeout
  | .watch (.simulated _ _ _ _) _ _ =>
    return .resolved (.error (.ofKind .internal "a simulated job has no result"))
  | .pause span _ => pause span
  | .isCancelled => s.isInterrupted
  | .release _ => return ()

/-- Runs a task. -/
def play {α : Type} (s : Stage) (task : Task α) : IO α :=
  task.run (answerTask s)

end ClusterDeploy.Live
