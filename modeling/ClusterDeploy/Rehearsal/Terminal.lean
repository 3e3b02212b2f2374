import ClusterDeploy.CommandLine.Program
import ClusterDeploy.Rehearsal.Session

/-!
# The program in a rehearsal

Running the program in the world of a session: on its local files and against its HTTP server.

## Main definitions

* `Rehearsal.Session.runProgram` — runs the program as a step.

## Implementation notes

The program has a clock of its own, which stands still, and its time is real. Its calls are not
noted, and no rules disturb them.
-/

namespace ClusterDeploy.Rehearsal

/-- The clock of the program. -/
def programClock : Int := 1790000000000

/-- The world of the program, from the world of the session. -/
def World.forProgram (w : World) : World :=
  { w with wallClock := programClock, realTime := true, rules := [] }

/-- The same world with other collaborators. -/
def World.connect (w : World) (c : CommandLine.Connection) : World :=
  { w with
    backends := ⟨.webHdfs c.storage, .resourceManager c.platform⟩
    ledgerPath := c.ledger
    clock := 0
    left := false
    held := none }

/-- Plays a task against some collaborators. -/
def playFor {α : Type} (c : CommandLine.Connection) (task : Task (Except DeployError α)) :
    Run (Except DeployError α) := do
  modify fun w => w.connect c
  match ← play task with
  | .over result => return result
  | _ => return .error (.ofKind .internal "the program was left")

/-- Does something with the local files. -/
def onFiles {α : Type} (f : FileSystem → α × FileSystem) : Run α :=
  modifyGet fun w =>
    let (result, files) := f w.files
    (result, { w with files })

/-- What the program asks, in the world of the program. -/
def answerProgram : (q : CommandLine.Question) → Run (CommandLine.Answer q)
  | .readFile path => return (← get).files.read path
  | .migrate ledger => onFiles fun files => files.migrateLedger ledger Ledger.latestVersion
  | .deployment ledger application =>
    onFiles fun files => files.onLedger ledger "deployment" (Ledger.deployment application)
  | .listRecent ledger limit => onFiles fun files => files.listRecent ledger limit
  | .listRequiringInspection ledger =>
    onFiles fun files =>
      files.onLedger ledger "list_requiring_inspection" Ledger.listRequiringInspection
  | .deploy c config request => playFor c (Deployment.run true config request)
  | .verify c m => playFor c (Task.verify m)
  | .cleanup c application label => playFor c (Deployment.cleanup true application label)

/-- Runs the program as a step. -/
def Session.runProgram (arguments : List String) (env : List (String × String)) :
    Step CommandLine.Output :=
  rehearse .none do
    let w ← get
    set w.forProgram
    let output ← (CommandLine.execute arguments env).run answerProgram
    settleUpTo none
    modify fun after => { w with files := after.files, peer := after.peer }
    return output

end ClusterDeploy.Rehearsal
