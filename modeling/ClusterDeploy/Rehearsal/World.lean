import ClusterDeploy.Files.LedgerFile
import ClusterDeploy.Rehearsal.Thread
import ClusterDeploy.Storage.Memory

/-!
# The world of a rehearsal

Everything that a rehearsed deployment can see or change, and what happens to it from outside while
it runs.

## Main definitions

* `Rehearsal.World` — the state of a rehearsal.
* `Rehearsal.Disturbance` — a cancellation, the leaving of a deployment or the end of a job at a
  time or at a call.
* `Rehearsal.perform` — what the acts of threads do to the world.
* `Rehearsal.advanceClock`, `Rehearsal.runThread`, `Rehearsal.settle` — the passing of time.

## Implementation notes

Time is virtual unless the rehearsal asks for real time. In virtual time nothing that a thread does
takes any time. In real time a thread that outlives the patience of its caller runs on, and what it
does happens when its time has come.
-/

namespace ClusterDeploy.Rehearsal

/-- When something happens from outside. -/
inductive Moment where
  /-- At a time after the start of a step. -/
  | at (time : Millis)
  /-- When a call with this name is made. -/
  | on (call : String)
  deriving DecidableEq, Repr

/-- The delivery of the outcome of a job. -/
structure Delivery where
  application : ApplicationId
  time : Millis
  outcome : JobOutcome
  deriving DecidableEq, Repr

/-- What happens from outside while a step runs. -/
structure Disturbance where
  cancelledBefore : Bool
  cancel : Option Moment
  leave : Option Moment
  delivery : Option Delivery
  deriving DecidableEq, Repr

/-- Nothing happens from outside. -/
def Disturbance.none : Disturbance :=
  ⟨false, .none, .none, .none⟩

/-- The state of a rehearsal. -/
structure World where
  files : FileSystem
  peer : Peer
  backends : Backends
  storage : MemoryStorage
  platform : SimulatedPlatform
  ledgerPath : String
  /-- Milliseconds since 1970. -/
  wallClock : Int
  realTime : Bool
  rules : List Rule
  /-- How often each call was made. -/
  callCounts : List (String × Nat)
  /-- The calls since the start of the step, the last one first. -/
  log : List String
  /-- The time since the start of the step. -/
  clock : Millis
  disturbance : Disturbance
  cancelled : Bool
  /-- Whether the deployment of the step was left. -/
  left : Bool
  /-- The connection that the deployment holds while it waits. -/
  held : Option ClusterHandle
  /-- Whether somebody got the outcome that was delivered, once it was delivered. -/
  delivered : Option Bool
  /-- Threads that run on although nobody waits for them, with the times when they go on. -/
  inFlight : List (Millis × Thread Unit)

/-- A computation on the world. -/
abbrev Run (α : Type) := StateM World α

/-! ## Acts -/

/-- How often a call was made before. -/
def World.callCount (w : World) (name : String) : Nat :=
  ((w.callCounts.find? fun entry => entry.1 == name).map (·.2)).getD 0

/-- Notes a call: it may be the one at which the deployment is cancelled or left. -/
def enter (call : Call) : Run Entry := do
  let w ← get
  let name := call.name
  let number := w.callCount name + 1
  let leaves := !w.left && w.disturbance.leave == some (Moment.on name)
  set { w with
    callCounts := (name, number) :: w.callCounts.filter fun entry => entry.1 != name
    log := call.entry :: w.log
    cancelled := w.cancelled || w.disturbance.cancel == some (Moment.on name)
    left := w.left || leaves
    held := if leaves then none else w.held }
  return {
    rules := w.rules.filter fun r => r.isFor name number
    dropped := if leaves then w.held else none }

/-- What an act does to the world. Waiting is not among the acts that change it. -/
def perform : (a : Act) → Run a.Answer
  | .enter call => enter call
  | .sleep _ => return ()
  | .removeFile path => modify fun w => { w with files := w.files.removeFile path }
  | .writeFile path content => modify fun w => { w with files := w.files.write path content }
  | .readFile path => return (← get).files.read path
  | .isFile path => return (← get).files.isFile path
  | .storage call => modifyGet fun w =>
    let (result, storage) := w.storage.answer w.files call
    (result, { w with storage })
  | .platform call => modifyGet fun w =>
    let (result, platform) := w.platform.answer call
    (result, { w with platform })
  | .release handle => modify fun w => { w with platform := w.platform.release handle }
  | .dropJob job => modify fun w => { w with platform := w.platform.dropJob job }
  | .ledger call => modifyGet fun w =>
    let (result, files) := w.files.onLedger w.ledgerPath call.operation (call.action w.wallClock)
    (result, { w with files })
  | .exchange request => modifyGet fun w =>
    let (answer, peer) := w.peer.exchange request
    (answer, { w with peer })

/-! ## Threads -/

/-- How far a thread has come. -/
inductive Progress (α : Type) where
  /-- It is over. -/
  | over (time : Millis) (result : α)
  /-- It sleeps until a time and goes on then. -/
  | asleep (wake : Millis) (rest : Thread α)

/-- Runs a thread from a time on, as long as it does not sleep until the limit or longer. `pass` is
what happens to the world while the thread sleeps up to a time. -/
def runFrom {α : Type} (pass : Millis → Run Unit) (limit : Option Millis) :
    Thread α → Millis → Run (Progress α)
  | .done a, now => return .over now a
  | .ask (.sleep span) next, now => do
    if !(← get).realTime || span = 0 then runFrom pass limit (next ()) now
    else if limit.any (· ≤ now + span) then return .asleep (now + span) (next ())
    else
      pass (now + span)
      runFrom pass limit (next ()) (now + span)
  | .ask a next, now => do
    let answer ← perform a
    runFrom pass limit (next answer) now

/-- Runs a thread that nobody waits for up to a time. -/
def runBehind (time : Option Millis) (thread : Millis × Thread Unit) : Run Unit := do
  if time.any (· < thread.1) then
    modify fun w => { w with inFlight := w.inFlight ++ [thread] }
  else
    match ← runFrom (fun _ => return ()) (time.map (· + 1)) thread.2 thread.1 with
    | .over _ () => return ()
    | .asleep wake rest => modify fun w => { w with inFlight := w.inFlight ++ [(wake, rest)] }

/-- Runs all threads that nobody waits for up to a time. -/
def settleUpTo (time : Option Millis) : Run Unit := do
  let threads := (← get).inFlight.mergeSort fun a b => a.1 ≤ b.1
  modify fun w => { w with inFlight := [] }
  threads.forM (runBehind time)

/-- Runs a thread from now on; the threads that nobody waits for run beside it. -/
def runThread {α : Type} (limit : Option Millis) (thread : Thread α) : Run (Progress α) := do
  let now := (← get).clock
  runFrom (fun time => settleUpTo (some time)) limit thread now

/-- Runs a thread from now on to its end. -/
def finishThread {α : Type} (thread : Thread α) : Run (Option α) := do
  match ← runThread none thread with
  | .over time result =>
    modify fun w => { w with clock := time }
    return some result
  | .asleep _ _ => return none

/-! ## Time -/

/-- Delivers the outcome of a job if its time has come. -/
def deliverUpTo (time : Millis) : Run Unit := modify fun w =>
  match w.disturbance.delivery, w.delivered with
  | some d, none =>
    if d.time ≤ time then
      let (received, platform) := w.platform.completeJob d.application d.outcome
      { w with platform, delivered := some received }
    else w
  | _, _ => w

/-- Lets time pass. -/
def advanceClock (time : Millis) : Run Unit := do
  deliverUpTo time
  settleUpTo (some time)
  modify fun w => { w with clock := max w.clock time }

/-- The time at which every step that still waits is left: in real time nobody waits for long. -/
def World.horizon (w : World) : Millis :=
  if w.realTime then 2000 else 1000000000

/-- The time at which the deployment is left. -/
def World.leaveTime (w : World) : Millis :=
  match w.disturbance.leave with
  | some (.at time) => min time w.horizon
  | _ => w.horizon

/-- Whether the deployment is cancelled at the present time. -/
def World.isCancelled (w : World) : Bool :=
  w.cancelled || match w.disturbance.cancel with
    | some (.at time) => time ≤ w.clock
    | _ => false

/-- The time at which the deployment is cancelled, as far as it is known. -/
def World.cancelTime (w : World) : Option Millis :=
  if w.isCancelled then some w.clock
  else match w.disturbance.cancel with
    | some (.at time) => some time
    | _ => none

end ClusterDeploy.Rehearsal
