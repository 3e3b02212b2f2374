import ClusterDeploy.CommandLine.Arguments
import ClusterDeploy.Text.Terminal

/-!
# Help

What the program writes about itself.

## Main definitions

* `CommandLine.Switch.summary`, `CommandLine.CommandName.summary` — what options and commands are
  for.
* `CommandLine.helpText` — the help about a topic.

## Implementation notes

The help is made for a terminal, which shows the spellings of options in bold, but it is written
without control sequences. The values of environment variables are part of it, and what they have of
control sequences is taken out too. The lines of such a value stand below each other.
-/

namespace ClusterDeploy.CommandLine

/-- The name of the program. -/
def programName : String := "jobcluster"

/-! ## Options -/

namespace Switch

/-- What an option is for. -/
def summary : Switch → String
  | .config => "JSON object of configuration keys, applied before `-D` overrides"
  | .define => "Configuration override, `key=value`. Later values win"
  | .ledger => "Deployment ledger database"
  | .namenodeUrl => "Namenode HTTP address"
  | .storageUri => "Filesystem URI staged paths resolve against"
  | .resourceManagerUrl => "Resource manager web address"
  | .name => "Job name shown on the cluster"
  | .jobId => "Job identifier; defaults to the name"
  | .bundle => "Cluster distribution bundle"
  | .jar => "User jar the job's code lives in"
  | .payload => "Serialized job graph"
  | .inspect => "Only deployments whose cluster may still be running"
  | .help => "Print help"
  | .version => "Print version"
  | .user | .queue | .library | .parallelism | .limit => ""

/-- What stands for the value of an option. -/
def placeholder? : Switch → Option String
  | .config => some "CONFIG"
  | .define => some "KEY=VALUE"
  | .ledger => some "LEDGER"
  | .namenodeUrl => some "NAMENODE_URL"
  | .storageUri => some "STORAGE_URI"
  | .resourceManagerUrl => some "RESOURCE_MANAGER_URL"
  | .user => some "USER"
  | .queue => some "QUEUE"
  | .name => some "NAME"
  | .jobId => some "JOB_ID"
  | .bundle => some "BUNDLE"
  | .library => some "LIBRARIES"
  | .jar => some "JARS"
  | .parallelism => some "PARALLELISM"
  | .payload => some "PAYLOAD"
  | .limit => some "LIMIT"
  | .inspect | .help | .version => none

/-- How an option is written. -/
def usage (s : Switch) : String :=
  let short := match s.short?, s.long? with
    | some c, some _ => Terminal.bold s!"-{c}" ++ ", "
    | some c, none => Terminal.bold s!"-{c}"
    | none, _ => "    "
  let long := match s.long? with
    | some word => Terminal.bold s!"--{word}"
    | none => ""
  let value := match s.placeholder? with
    | some word => s!" <{word}>"
    | none => ""
  short ++ long ++ value

/-- The environment variable of an option with its value, and the value without any. -/
def origins (env : List (String × String)) (s : Switch) : List String :=
  let inVariable := match s.environmentName? with
    | some variableName =>
      let value := (variableValue? env s).getD ""
      [s!"[env: {variableName}={value}]"]
    | none => []
  let otherwise := match s.default? with
    | some value => [s!"[default: {value}]"]
    | none => []
  inVariable ++ otherwise

/-- The blanks before what is written about an option. -/
def margin : String :=
  "          "

/-- What is written about an option. -/
def helpLines (env : List (String × String)) (s : Switch) : List String :=
  let said := if s.summary = "" then [] else [s.summary]
  let lines := Text.splitAt '\n' (" ".intercalate (said ++ s.origins env)).toList
  s!"  {s.usage}" :: lines.map fun line => margin ++ String.ofList line

end Switch

/-! ## Commands -/

namespace CommandName

/-- What a command is for. -/
def summary : CommandName → String
  | .deploy => "Stage artifacts, run the job on a fresh cluster and tear it down"
  | .verify => "Check that a recorded deployment's staged files are still intact"
  | .cleanup => "Delete a deployment's staging directory"
  | .history => "Show recorded deployments"

/-- What follows the name of a command. -/
def usage : CommandName → String
  | .deploy => "[OPTIONS] --name <NAME> --bundle <BUNDLE>"
  | .verify => "[OPTIONS] <APPLICATION_ID>"
  | .cleanup => "[OPTIONS] <APPLICATION_ID>"
  | .history => "[OPTIONS]"

/-- The options of a command, in the order in which they are described. -/
def switches : CommandName → List Switch
  | .deploy => [.config, .name, .define, .jobId, .bundle, .ledger, .library, .namenodeUrl, .jar,
      .storageUri, .parallelism, .resourceManagerUrl, .payload, .user, .queue, .help]
  | .verify => Switch.shared ++ [.help]
  | .cleanup => Switch.shared ++ [.help]
  | .history => [.config, .limit, .define, .inspect, .ledger, .namenodeUrl, .storageUri,
      .resourceManagerUrl, .user, .queue, .help]

end CommandName

/-- What the command that asks for help is for. -/
def helpSummary : String := "Print this message or the help of the given subcommand(s)"

/-- The lines about the commands. -/
def commandLines : List String :=
  let line (name summary : String) : String :=
    "  " ++ name ++ String.ofList (List.replicate (7 - name.length) ' ') ++ "  " ++ summary
  CommandName.all.map (fun c => line c.text c.summary) ++ [line "help" helpSummary]

/-- The lines about some options. -/
def optionLines (env : List (String × String)) (switches : List Switch) : List String :=
  "Options:" :: switches.flatMap (Switch.helpLines env)

/-- The lines about the argument of a command that is no option. -/
def argumentLines : CommandName → List String
  | .verify | .cleanup => ["Arguments:", "  <APPLICATION_ID>  ", ""]
  | .deploy | .history => []

/-- The lines of the help about a topic. -/
def helpLines (env : List (String × String)) : Topic → List String
  | .program =>
    [s!"Usage: {programName} [OPTIONS] <COMMAND>", "", "Commands:"] ++ commandLines ++ [""] ++
      optionLines env (Switch.shared ++ [.help, .version])
  | .command c =>
    [c.summary, "", s!"Usage: {programName} {c.text} {c.usage}", ""] ++ argumentLines c ++
      optionLines env c.switches
  | .help =>
    [helpSummary, "", s!"Usage: {programName} help [COMMAND]...", "", "Arguments:",
      "  [COMMAND]...  Print help for the subcommand(s)"]

/-- The help about a topic. -/
def helpText (env : List (String × String)) (topic : Topic) : String :=
  Terminal.plain ("\n".intercalate (helpLines env topic))

end ClusterDeploy.CommandLine
