import ClusterDeploy.Task

/-!
# Waiting for a job

The result of a job is waited for until it comes, until a timeout, or until the deployment is
cancelled.

## Main definitions

* `Watcher.Race` — when a cancellation, a timeout and the end of a job come.
* `Watcher.Race.look` — what is found by somebody who looks at a moment.
* `Watcher.Race.verdict` — what is found by somebody who waits, and when.
* `Watcher.outcome` — what it means for the deployment.
* `Watcher.awaitOutcome` — waits for the outcome of a job.

## Implementation notes

Whoever waits sleeps until the first of the three comes, and looks then. A look is biased: it is
first at the cancellation, then at the timeout and then at the job, so of what happens at the same
moment a cancellation counts before a timeout, and both count before the end of the job.
-/

namespace ClusterDeploy.Watcher

/-- When a cancellation, a timeout and the end of a job come, if they ever do. -/
structure Race where
  job : Option (Millis × Except DeployError JobOutcome)
  timeout : Option Millis
  cancellation : Option Millis

namespace Race

/-- What is found by somebody who looks at a moment, first at the cancellation, then at the timeout
and then at the job. -/
def look (race : Race) (moment : Millis) : Option Watched :=
  if race.cancellation.any (· ≤ moment) then some .cancelled
  else if race.timeout.any (· ≤ moment) then some .expired
  else (race.job.filter (·.1 ≤ moment)).map (.resolved ·.2)

/-- When somebody wakes up who sleeps until the first of the three comes. -/
def wake (race : Race) : Option Millis :=
  ([race.cancellation, race.timeout, race.job.map (·.1)].filterMap id).min?

/-- What is found by somebody who waits, and when. Nothing is found if none of the three comes. -/
def verdict (race : Race) : Option (Millis × Watched) := do
  let moment ← race.wake
  let watched ← race.look moment
  return (moment, watched)

end Race

/-- The failure of a job that gave no result in time. -/
def expiredError (application : ApplicationId) (jobId : String) (timeout : Millis) : DeployError :=
  ⟨some application, some .resultWait, .timeout,
    s!"job {jobId} produced no result within {timeout}ms"⟩

/-- What came of waiting for a job, for the deployment. A job that failed has an outcome too. -/
def outcome (application : ApplicationId) (jobId : String) (timeout : Option Millis) :
    Watched → Except DeployError JobOutcome
  | .cancelled => .error (Task.cancelledError application .resultWait)
  | .expired => .error (expiredError application jobId (timeout.getD 0))
  | .resolved (.ok outcome) => .ok outcome
  | .resolved (.error e) => .error (e.attributeTo (some application) .resultWait)

/-- Waits for the outcome of a job. -/
def awaitOutcome (application : ApplicationId) (job : RunningJob) (timeout : Option Millis)
    (held : Option ClusterHandle) : Task (Except DeployError JobOutcome) := do
  return outcome application job.id timeout (← Task.ask (.watch job timeout held))

end ClusterDeploy.Watcher
