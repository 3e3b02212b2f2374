import ClusterDeploy.Attempt
import ClusterDeploy.Dialogue
import ClusterDeploy.Files.Fault
import ClusterDeploy.Ledger.Call
import ClusterDeploy.Platform.Call
import ClusterDeploy.Storage.Call

/-!
# Work in the background

An operation of a deployment is work that runs in the background. It asks its collaborators, which
are the storage, the platform and the ledger, and looks at local files. A call may fail, and then
the work may go on, and it may die, and the work with it.

## Main definitions

* `Work.Question`, `Work.Answer`, `Work` — programs that run in the background.
* `Work.storage`, `Work.platform`, `Work.ledger` — calls.
* `Work.isFile`, `Work.digest` — local files.
-/

namespace ClusterDeploy

namespace Work

/-- What work in the background asks. -/
inductive Question where
  | storage (call : Storage.Call)
  | platform (call : Platform.Call)
  | ledger (call : Ledger.Call)
  /-- Whether there is a local file at a path. -/
  | isFile (path : String)
  /-- The digest of a local file. -/
  | digest (path : String)
  deriving DecidableEq, Repr

/-- The answers to a question. -/
abbrev Answer : Question → Type
  | .storage call => Attempt call.Value
  | .platform call => Attempt call.Value
  | .ledger call => Attempt call.Value
  | .isFile _ => Bool
  | .digest _ => Except FileFault String

end Work

/-- A program that runs in the background. -/
abbrev Work (α : Type) := ExceptT Mishap (Dialogue Work.Question Work.Answer) α

namespace Work

/-- Asks a question. -/
def ask (q : Question) : Work (Answer q) :=
  ExceptT.lift (Dialogue.question q)

/-- Calls the storage. -/
def storage (call : Storage.Call) : Work call.Value :=
  ExceptT.mk (Dialogue.question (Q := Question) (A := Answer) (.storage call))

/-- Calls the platform. -/
def platform (call : Platform.Call) : Work call.Value :=
  ExceptT.mk (Dialogue.question (Q := Question) (A := Answer) (.platform call))

/-- Calls the ledger. -/
def ledger (call : Ledger.Call) : Work call.Value :=
  ExceptT.mk (Dialogue.question (Q := Question) (A := Answer) (.ledger call))

/-- Whether there is a local file at a path. -/
def isFile (path : String) : Work Bool :=
  ask (.isFile path)

/-- The digest of a local file. -/
def digest (path : String) : Work (Except FileFault String) :=
  ask (.digest path)

/-- Gives up with a failure. -/
def fail {α : Type} (error : DeployError) : Work α :=
  throw (.failed error)

end Work

end ClusterDeploy
