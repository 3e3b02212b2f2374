import ClusterDeploy.Live.Play
import Std.Internal.UV.Signal

/-!
# The command line

The program as it is started: it is given the arguments and the environment, and what it asks is
answered by the files, the network and the clock of the machine.

## Main definitions

* `Live.answerProgram` — what the program asks.
* `main` — starts the program.
-/

namespace ClusterDeploy.Live

/-- The signal of an interrupt. -/
def interruptSignal : Int32 := 2

/-- Listens for interrupts; the result tells whether there was one since. A further one does
nothing. -/
def listenForInterrupt : IO (IO Bool) := do
  let signal ← Std.Internal.UV.Signal.mk interruptSignal true
  let interrupt := (← signal.next).result?
  return IO.hasFinished interrupt

/-- A stage for tasks that do not ask whether they are interrupted. -/
def uninterrupted (connection : CommandLine.Connection) : Stage :=
  ⟨connection, storageLimit, return false⟩

/-- What the program asks. -/
def answerProgram : (q : CommandLine.Question) → IO (CommandLine.Answer q)
  | .readFile path => readFile path
  | .migrate ledger =>
    onLedger ledger "apply_migration" (Ledger.applyMigration Ledger.latestVersion)
  | .deployment ledger application => onLedger ledger "deployment" (Ledger.deployment application)
  | .listRecent ledger limit => onLedger ledger "list_recent" (Ledger.listRecent limit)
  | .listRequiringInspection ledger =>
    onLedger ledger "list_requiring_inspection" Ledger.listRequiringInspection
  | .deploy connection config request => do
    let stage : Stage := ⟨connection, config.askTimeout, ← listenForInterrupt⟩
    play stage (Deployment.run true config request)
  | .verify connection m => play (uninterrupted connection) (Task.verify m)
  | .cleanup connection application label =>
    play (uninterrupted connection) (Deployment.cleanup true application label)

/-- The variables of the environment that the program looks at. -/
def environment : IO (List (String × String)) := do
  let found ← (CommandLine.Switch.all.filterMap (·.environmentName?)).mapM fun name => do
    return (← IO.getEnv name).map (name, ·)
  return found.filterMap id

/-- Says on the error output how the program ends. -/
def sayExit : CommandLine.Exit → IO Unit
  | .success => return ()
  | .failure message => IO.eprintln s!"Error: {message}"
  | .usage => IO.eprintln "error: the arguments make no sense; try --help"
  | .crash => IO.eprintln "error: a time cannot be written"

end ClusterDeploy.Live

/-- Starts the program. -/
def main (args : List String) : IO UInt32 := do
  let env ← ClusterDeploy.Live.environment
  let output ← (ClusterDeploy.CommandLine.execute args env).run ClusterDeploy.Live.answerProgram
  IO.print output.text
  ClusterDeploy.Live.sayExit output.exit
  return UInt32.ofNat output.exit.status
