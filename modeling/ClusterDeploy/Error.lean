import ClusterDeploy.Application

/-!
# Errors of a deployment

An error says what kind of failure it is, at which stage of which application it arose, and what was
wrong in words. The layer in which a failure arises may not know the application or the stage; the
layers above fill in what is missing and never replace what is there.

## Main definitions

* `Stage`, `ErrorKind`, `DeployError`.
* `DeployError.attributeTo` — fills in the application and the stage.
* `DeployError.display` — the kind and the message.
-/

namespace ClusterDeploy

/-- The stages of a deployment. -/
inductive Stage where
  | configuration | allocation | staging | clusterCreation | submission | resultWait | termination
  | ledger
  deriving DecidableEq, Repr, Inhabited

/-- The name of a stage in messages. -/
def Stage.name : Stage → String
  | .configuration => "Configuration"
  | .allocation => "Allocation"
  | .staging => "Staging"
  | .clusterCreation => "ClusterCreation"
  | .submission => "Submission"
  | .resultWait => "ResultWait"
  | .termination => "Termination"
  | .ledger => "Ledger"

/-- The kinds of failure. -/
inductive ErrorKind where
  | configuration | staging | deployment | teardown | timeout | cancelled | storageFailure
  | internal
  deriving DecidableEq, Repr, Inhabited

/-- The name of a kind of failure in messages. -/
def ErrorKind.name : ErrorKind → String
  | .configuration => "Configuration"
  | .staging => "Staging"
  | .deployment => "Deployment"
  | .teardown => "Teardown"
  | .timeout => "Timeout"
  | .cancelled => "Cancelled"
  | .storageFailure => "StorageFailure"
  | .internal => "Internal"

/-- A failure, with as much as is known of where it arose. -/
structure DeployError where
  application : Option ApplicationId
  stage : Option Stage
  kind : ErrorKind
  message : String
  deriving DecidableEq, Repr, Inhabited

namespace DeployError

/-- A failure of which neither the application nor the stage is known yet. -/
def ofKind (kind : ErrorKind) (message : String) : DeployError :=
  ⟨none, none, kind, message⟩

/-- Fills in the application and the stage where the failure does not name its own. -/
def attributeTo (e : DeployError) (application : Option ApplicationId) (stage : Stage) :
    DeployError :=
  { e with
    application := e.application.or application
    stage := e.stage.or (some stage) }

/-- The kind and the message of a failure. -/
def display (e : DeployError) : String :=
  s!"{e.kind.name}: {e.message}"

end DeployError

end ClusterDeploy
