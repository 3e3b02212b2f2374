import ClusterDeploy.Config
import ClusterDeploy.Task

/-!
# The end of a cluster

When its job is over a cluster shuts down by itself. The supervisor asks for its status until it
has, or until a deadline, and then kills it. In any case it closes the connection.

## Main definitions

* `Supervisor` — how often to ask, for how long, and how long to wait for an answer.
* `Supervisor.pollUntil` — asks until the cluster has finished or the deadline has come.
* `Supervisor.conclude` — waits for the end of a cluster and kills it if need be.
* `Supervisor.terminateNow` — kills a cluster without waiting.

## Implementation notes

No status is waited for beyond the deadline, so a call that hangs cannot delay the kill. At the
deadline itself the status is asked for once more, although there is no time left for an answer. If
no time is to pass between two polls, a burst of them fits in one moment, and then a millisecond
passes.
-/

namespace ClusterDeploy

/-- How often a cluster is asked for its status, for how long, and how long to wait for an answer.
-/
structure Supervisor where
  pollInterval : Millis
  deadline : Millis
  callTimeout : Millis
  deriving DecidableEq, Repr, Inhabited

namespace Supervisor

/-- The supervisor that a configuration asks for. -/
def ofConfig (c : Config) : Supervisor :=
  ⟨c.terminationPollInterval, c.terminationDeadline, c.askTimeout⟩

/-- Whether a status was answered in time and says that the cluster has finished. -/
def sawFinished (limit : Millis) (ending : Ending ApplicationStatus) : Bool :=
  match ending.within limit with
  | some (.ok .finished) => true
  | _ => false

/-- How many polls follow each other in one moment if no time is to pass between them. -/
def burst : Nat := 100000

/-- Asks for the status of a cluster until it has finished or no time remains: whether it has
finished, and how often it was asked. There is room for some more polls in the present moment. -/
def pollUntil (s : Supervisor) (h : ClusterHandle) (remaining : Millis) (room : Nat)
    (polls : Counter) : Task (Bool × Counter) := do
  let limit := min s.callTimeout remaining
  let ending ← Task.ask (.bounded (.platform (.queryStatus h)) limit (some h))
  if sawFinished limit ending then return (true, polls + 1)
  let left := remaining - ending.elapsed limit
  if hleft : left = 0 then return (false, polls + 1)
  else if hroom : s.pollInterval = 0 ∧ 0 < room then
    Task.ask (.pause 0 (some h))
    pollUntil s h left (room - 1) (polls + 1)
  else
    let span := max 1 (min s.pollInterval left)
    Task.ask (.pause span (some h))
    pollUntil s h (left - span) burst (polls + 1)
termination_by (remaining, room)
decreasing_by
  · exact Prod.Lex.right' _ (Nat.sub_le _ _) (Nat.sub_lt hroom.2 Nat.zero_lt_one)
  · have hspan : 0 < max 1 (min s.pollInterval left) :=
      Nat.lt_of_lt_of_le Nat.zero_lt_one (Nat.le_max_left _ _)
    exact Prod.Lex.left _ _
      (Nat.lt_of_lt_of_le (Nat.sub_lt (Nat.pos_of_ne_zero hleft) hspan) (Nat.sub_le _ _))

/-- The failure to kill a cluster. -/
def teardownError (application : ApplicationId) (e : DeployError) : DeployError :=
  { e with
    kind := .teardown
    message := s!"failed to kill cluster {application.display}; manual inspection required: " ++
      e.message }

/-- Kills a cluster: what became of it, and why it could not be killed. -/
def kill (s : Supervisor) (h : ClusterHandle) : Task (Termination × Option DeployError) := do
  match ← Task.bounded .termination (some h.applicationId) s.callTimeout
      (.platform (.forceKill h)) (some h) with
  | .ok () => return (.killed, none)
  | .error e => return (.running, some (teardownError h.applicationId e))

/-- Waits for the end of a cluster, kills it if it does not come, and closes the connection. -/
def conclude (s : Supervisor) (h : ClusterHandle) : Task SupervisionReport := do
  let (finished, polls) ← s.pollUntil h s.deadline burst 0
  let (termination, teardownError) ← if finished then pure (.finished, none) else s.kill h
  Task.ask (.release h)
  return ⟨termination, teardownError, polls⟩

/-- Kills a cluster without waiting for its end and closes the connection. -/
def terminateNow (s : Supervisor) (h : ClusterHandle) : Task SupervisionReport := do
  let (termination, teardownError) ← s.kill h
  Task.ask (.release h)
  return ⟨termination, teardownError, 0⟩

end Supervisor

end ClusterDeploy
