import ClusterDeploy.Error

/-!
# Attempts

What can come of an operation that runs in the background: a value, a failure, or nothing at all
because the operation died.

## Main definitions

* `Mishap`, `Attempt` — how an operation goes wrong, and its result.
* `Attempt.settle` — the result as seen from the deployment, which knows the stage and the
  application.
-/

namespace ClusterDeploy

/-- How an operation in the background goes wrong. -/
inductive Mishap where
  /-- It failed and said why. -/
  | failed (error : DeployError)
  /-- It died without a result. -/
  | died
  deriving DecidableEq, Repr, Inhabited

/-- The result of an operation in the background. -/
abbrev Attempt (α : Type) := Except Mishap α

namespace Attempt

variable {α : Type}

/-- The failure that stands for an operation that died. -/
def deathError (stage : Stage) (application : Option ApplicationId) : DeployError :=
  ⟨application, some stage, .internal, s!"{stage.name} join failure: the operation died"⟩

/-- The result as seen from the deployment: a failure names the stage and the application, and a
death is a failure too. -/
def settle (stage : Stage) (application : Option ApplicationId) :
    Attempt α → Except DeployError α
  | .ok a => .ok a
  | .error (.failed e) => .error (e.attributeTo application stage)
  | .error .died => .error (deathError stage application)

end Attempt

end ClusterDeploy
