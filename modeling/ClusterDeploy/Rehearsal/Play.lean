import ClusterDeploy.Rehearsal.World
import ClusterDeploy.Watcher

/-!
# Playing a task

Running a task in the world of a rehearsal, until it is over or left.

## Main definitions

* `Rehearsal.Played` — the end of a task: a result, or the task was left.
* `Rehearsal.playOperation` — has an operation done.
* `Rehearsal.playWatch` — waits for the end of a job.
* `Rehearsal.play` — runs a task.

## Implementation notes

A task is left where it waits. The connection to a cluster that it holds there is dropped at once;
an operation that is under way runs on, and a cluster that it creates is dropped when it is there.
If the task is to be left while it closes a connection, it is left where it waits next.
-/

namespace ClusterDeploy.Rehearsal

/-- The end of a task. -/
inductive Played (α : Type) where
  | over (result : α)
  /-- The deployment was left by the caller. -/
  | abandoned
  /-- The task still waited at the horizon. -/
  | pending

/-- How a task ends that is left now. -/
def World.departure {α : Type} (w : World) : Played α :=
  if w.left || w.leaveTime < w.horizon then .abandoned else .pending

/-- Leaves a task that holds a connection. -/
def leave {α : Type} (held : Option ClusterHandle) : Run (Played α) := do
  let w ← get
  match held with
  | some handle =>
    set { w with left := true, held := none }
    let _ ← finishThread (dropGuard w.backends handle)
  | none => set { w with left := true }
  return w.departure

/-- Whether a task that is about to wait is to be left instead. -/
def World.mustLeave (w : World) : Bool :=
  w.left || w.leaveTime ≤ w.clock

/-- Has an operation done: how it ends, unless the task is left meanwhile. -/
def playOperation (op : Operation) (limit : Option Millis) (held : Option ClusterHandle) :
    Run (Ending op.Value ⊕ Played Unit) := do
  let w ← get
  if w.mustLeave then return .inr (← leave held)
  set { w with held := held }
  let start := w.clock
  let late := limit.map (start + ·)
  let stop := match late with
    | some time => min time w.leaveTime
    | none => w.leaveTime
  let b := w.backends
  match ← runThread (some stop) (workThread b op.work) with
  | .over time result =>
    modify fun w => { w with clock := max w.clock time }
    let wasLeft := (← get).left
    if wasLeft || late.any (· ≤ time) then
      let _ ← finishThread (discard b op result)
    if wasLeft then return .inr (← get).departure
    else return .inl (.ended (time - start) result)
  | .asleep wake rest =>
    let behind := rest.bind (discard b op)
    modify fun w => { w with inFlight := w.inFlight ++ [(wake, behind)] }
    if (← get).left then return .inr (← get).departure
    advanceClock stop
    if late.any (· ≤ w.leaveTime) then return .inl .endless
    else return .inr (← leave held)

/-! ## Waiting for jobs -/

/-- What a simulated job gives and when, if it gives anything as things stand. -/
def simulatedResult (application : ApplicationId) (id : String) (delay : Millis)
    (source : JobSource) : Run (Option (Millis × Except DeployError JobOutcome)) := do
  let w ← get
  let ready := w.clock + delay
  match w.platform.jobResult? application id source with
  | some result => return some (ready, result)
  | none =>
    match w.disturbance.delivery, w.delivered, source with
    | some d, none, .held ticket =>
      if w.platform.pending.any fun entry => entry == (d.application, ticket) then
        return some (max ready d.time, .ok d.outcome)
      else return none
    | _, _, _ => return none

/-- Looks at the result of a job again and again before a limit; `bound` is more than the number of
times that this can happen. -/
def polledResult (url : String) (interval limit : Millis) :
    Nat → JobResult.Polling → Millis → Run (Option (Millis × Except DeployError JobOutcome))
  | 0, _, _ => return none
  | bound + 1, polling, time => do
    if limit ≤ time then return none
    modify fun w => { w with clock := max w.clock time }
    match ← runThread (some limit) (clientThread (JobResult.look url polling)) with
    | .asleep wake rest =>
      modify fun w => { w with inFlight := w.inFlight ++ [(wake, rest.bind fun _ => .done ())] }
      return none
    | .over answered (.inl result) => return some (answered, result)
    | .over answered (.inr next) =>
      polledResult url interval limit bound next (answered + interval)

/-- What a job gives and when, if that is before a limit. A script that has come to its end gives
nothing but failures, of which a few in a row end the polling. -/
def jobResult (limit : Millis) :
    RunningJob → Run (Option (Millis × Except DeployError JobOutcome))
  | .simulated application id delay source => simulatedResult application id delay source
  | .polled _ url interval => do
    let w ← get
    polledResult url interval limit (w.peer.script.length + JobResult.maxErrors + 1) .start w.clock

/-- The earliest of some times. -/
def earliest (times : List (Option Millis)) : Option Millis :=
  times.foldl (fun a b => match a, b with
    | some x, some y => some (min x y)
    | some x, none => some x
    | none, y => y) none

/-- Waits for the end of a job, a timeout or a cancellation, unless the task is left meanwhile. -/
def playWatch (job : RunningJob) (timeout : Option Millis) (held : Option ClusterHandle)
    (isCancellable : Bool) : Run (Watched ⊕ Played Unit) := do
  let w ← get
  if w.mustLeave then return .inr (← leave held)
  let expiry := timeout.map (w.clock + ·)
  let cancellation := if isCancellable then w.cancelTime else none
  let limit := (earliest [some w.leaveTime, expiry, cancellation]).getD w.horizon
  let result ← jobResult limit job
  match Watcher.Race.verdict ⟨result, expiry, cancellation⟩ with
  | some (time, watched) =>
    if w.leaveTime ≤ time then
      advanceClock w.leaveTime
      perform (.dropJob job)
      return .inr (← leave held)
    else
      advanceClock time
      perform (.dropJob job)
      return .inl watched
  | none =>
    advanceClock w.leaveTime
    perform (.dropJob job)
    return .inr (← leave held)

/-! ## Tasks -/

/-- The end of a task that was left, as the end of the task of which it is a part. -/
def Played.cast {α β : Type} (fallback : α → Played β) : Played α → Played β
  | .over result => fallback result
  | .abandoned => .abandoned
  | .pending => .pending

/-- Runs a task. -/
def play {α : Type} : Task α → Run (Played α)
  | Dialogue.done result => return .over result
  | Dialogue.ask (.background op held) next => do
    match ← playOperation op none held with
    | .inl (.ended _ result) => play (next result)
    | .inl .endless => return .pending
    | .inr left => return left.cast fun _ => .pending
  | Dialogue.ask (.bounded op limit held) next => do
    match ← playOperation op (some limit) held with
    | .inl ending => play (next ending)
    | .inr left => return left.cast fun _ => .pending
  | Dialogue.ask (.watch job timeout held) next => do
    match ← playWatch job timeout held true with
    | .inl watched => play (next watched)
    | .inr left => return left.cast fun _ => .pending
  | Dialogue.ask (.pause span held) next => do
    let w ← get
    if w.mustLeave then return ← leave held
    else if w.leaveTime ≤ w.clock + span then
      advanceClock w.leaveTime
      leave held
    else
      advanceClock (w.clock + span)
      play (next ())
  | Dialogue.ask .isCancelled next => do
    let w ← get
    play (next w.isCancelled)
  | Dialogue.ask (.release handle) next => do
    modify fun w => { w with held := none }
    let _ ← finishThread (guardedRelease (← get).backends handle)
    play (next ())

end ClusterDeploy.Rehearsal
