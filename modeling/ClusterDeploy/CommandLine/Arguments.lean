import ClusterDeploy.Application
import ClusterDeploy.Text.Numeral

/-!
# Command lines

The arguments of the program, and the environment variables that stand in for some of them.

## Main definitions

* `CommandLine.Switch` — the options, with their spellings.
* `CommandLine.Command`, `CommandLine.Invocation` — what was asked for.
* `CommandLine.parse` — reads the arguments.

## Implementation notes

Some options may stand before or after the name of the command. If such an option stands on both
sides, what stands after the name counts, also for an option that may be repeated. An option that
takes a value takes the next argument, unless that looks like an option itself. Arguments are
checked from left to right, so a call for help counts only if nothing before it makes no sense. But
a value that is an argument of its own is checked no sooner than the next option or value comes up,
and the last one before the name of the command after all that follows the name.
-/

namespace ClusterDeploy.CommandLine

/-- The options. -/
inductive Switch where
  | config | define | ledger | namenodeUrl | storageUri | resourceManagerUrl | user | queue
  | name | jobId | bundle | library | jar | parallelism | payload
  | limit | inspect
  | help | version
  deriving DecidableEq, Repr

/-- The names of the commands. -/
inductive CommandName where
  | deploy | verify | cleanup | history
  deriving DecidableEq, Repr

namespace CommandName

/-- All commands. -/
def all : List CommandName :=
  [.deploy, .verify, .cleanup, .history]

/-- How the name of a command is written. -/
def text : CommandName → String
  | .deploy => "deploy"
  | .verify => "verify"
  | .cleanup => "cleanup"
  | .history => "history"

/-- Reads the name of a command. -/
def ofText? (text : String) : Option CommandName :=
  all.find? fun c => c.text == text

end CommandName

namespace Switch

/-- All options. -/
def all : List Switch :=
  [.config, .define, .ledger, .namenodeUrl, .storageUri, .resourceManagerUrl, .user, .queue, .name,
    .jobId, .bundle, .library, .jar, .parallelism, .payload, .limit, .inspect, .help, .version]

/-- The long spelling of an option. -/
def long? : Switch → Option String
  | .config => some "config"
  | .define => none
  | .ledger => some "ledger"
  | .namenodeUrl => some "namenode-url"
  | .storageUri => some "storage-uri"
  | .resourceManagerUrl => some "resource-manager-url"
  | .user => some "user"
  | .queue => some "queue"
  | .name => some "name"
  | .jobId => some "job-id"
  | .bundle => some "bundle"
  | .library => some "library"
  | .jar => some "jar"
  | .parallelism => some "parallelism"
  | .payload => some "payload"
  | .limit => some "limit"
  | .inspect => some "inspect"
  | .help => some "help"
  | .version => some "version"

/-- The short spelling of an option. -/
def short? : Switch → Option Char
  | .config => some 'c'
  | .define => some 'D'
  | .help => some 'h'
  | .version => some 'V'
  | _ => none

/-- The environment variable that stands in for an option. -/
def environmentName? : Switch → Option String
  | .ledger => some "JOBCLUSTER_LEDGER"
  | .namenodeUrl => some "JOBCLUSTER_NAMENODE_URL"
  | .storageUri => some "JOBCLUSTER_STORAGE_URI"
  | .resourceManagerUrl => some "JOBCLUSTER_RESOURCE_MANAGER_URL"
  | .user => some "JOBCLUSTER_USER"
  | .queue => some "JOBCLUSTER_QUEUE"
  | _ => none

/-- The value of an option that is not given. -/
def default? : Switch → Option String
  | .ledger => some "jobcluster.sqlite3"
  | .namenodeUrl => some "http://localhost:9870"
  | .storageUri => some "hdfs://localhost:8020"
  | .resourceManagerUrl => some "http://localhost:8088"
  | .parallelism => some "1"
  | .limit => some "20"
  | _ => none

/-- The options that may stand before or after the name of the command. -/
def shared : List Switch :=
  [.config, .define, .ledger, .namenodeUrl, .storageUri, .resourceManagerUrl, .user, .queue]

/-- Whether an option takes no value. -/
def isFlag : Switch → Bool
  | .inspect | .help | .version => true
  | _ => false

/-- Whether an option may be given more than once. -/
def isRepeatable : Switch → Bool
  | .define | .library | .jar => true
  | _ => false

/-- Whether the value of an option is a path, which may not be empty. -/
def isPath : Switch → Bool
  | .config | .ledger | .bundle | .library | .jar | .payload => true
  | _ => false

/-- Whether an option may stand at a place: before the name of the command, or after it. -/
def isAllowed (place : Option CommandName) (s : Switch) : Bool :=
  match s with
  | .help => true
  | .version => place.isNone
  | .name | .jobId | .bundle | .library | .jar | .parallelism | .payload => place == some .deploy
  | .limit | .inspect => place == some .history
  | _ => shared.contains s

end Switch

/-- The number of workers that a text asks for. -/
def readParallelism (text : String) : Option UInt32 :=
  match Text.readSigned Text.signedBound text.toList with
  | some (.ofNat n) => if n < UInt32.size then some (UInt32.ofNat n) else none
  | _ => none

/-- The number of deployments that a text asks for. -/
def readLimit (text : String) : Option Nat :=
  Text.readUnsigned UInt64.size text.toList

/-- Whether a text can be the value of an option. -/
def Switch.accepts (s : Switch) (value : String) : Bool :=
  match s with
  | .parallelism => (readParallelism value).isSome
  | .limit => (readLimit value).isSome
  | _ => !s.isPath || value != ""

/-- What help can be asked about. -/
inductive Topic where
  | program
  | command (name : CommandName)
  | help
  deriving DecidableEq, Repr

/-- Why there is nothing to do. -/
inductive Refusal where
  /-- The arguments make no sense. -/
  | usage
  /-- The version was asked for. -/
  | version
  /-- Help was asked for. -/
  | help (topic : Topic)
  deriving DecidableEq, Repr

/-! ## Scanning -/

/-- What stands at one place: options with their values, other arguments, and the last option with
its value if that was not checked yet. -/
structure Given where
  switches : List (Switch × String)
  others : List String
  unchecked : Option (Switch × String)
  deriving Repr

/-- An argument, taken apart. -/
inductive Token where
  /-- An option, with the value that is attached to it. -/
  | switch (s : Switch) (attached : Option String)
  /-- The end of the options. -/
  | terminator
  /-- Any other argument. -/
  | other
  /-- An option that is not known. -/
  | unknown
  deriving Repr

/-- Takes an argument apart. -/
def tokenOf (argument : String) : Token :=
  match argument.toList with
  | ['-', '-'] => .terminator
  | '-' :: '-' :: rest =>
    let name := String.ofList (rest.takeWhile (· != '='))
    let attached := match rest.dropWhile (· != '=') with
      | [] => none
      | _ :: value => some (String.ofList value)
    match Switch.all.find? fun s => s.long? == some name with
    | some s => .switch s attached
    | none => .unknown
  | '-' :: c :: rest =>
    match Switch.all.find? fun s => s.short? == some c with
    | some s =>
      let value := match rest with
        | '=' :: value => value
        | _ => rest
      .switch s (if s.isFlag || rest.isEmpty then none else some (String.ofList value))
    | none => .unknown
  | _ => .other

/-- Whether an argument looks like an option, so that it is no value. -/
def looksLikeSwitch (argument : String) : Bool :=
  match argument.toList with
  | '-' :: _ :: _ => true
  | _ => false

/-- Adds an option with its value. -/
def Given.add (g : Given) (s : Switch) (value : String) : Except Refusal Given :=
  if !s.isRepeatable && g.switches.any fun entry => entry.1 == s then .error .usage
  else if s.accepts value then .ok { g with switches := g.switches ++ [(s, value)] }
  else .error .usage

/-- Checks the option that was not checked yet. -/
def Given.settle (g : Given) : Except Refusal Given :=
  match g.unchecked with
  | none => .ok g
  | some (s, value) => { g with unchecked := none }.add s value

/-- Adds an argument that is no option. Only the id of an application can be one. -/
def Given.addOther (g : Given) (place : CommandName) (argument : String) : Except Refusal Given :=
  let isExpected := match place with
    | .verify | .cleanup => g.others.isEmpty && (ApplicationId.parse argument).isSome
    | .deploy | .history => false
  if isExpected then .ok { g with others := g.others ++ [argument] } else .error .usage

/-- Takes in an option, with the rest of the arguments, which may begin with its value. Gives the
arguments that are left. -/
def Given.take (g : Given) (s : Switch) (attached : Option String) (rest : List String) :
    Except Refusal (Given × List String) :=
  if s.isFlag then
    match attached with
    | none => (g.add s "").map fun g' => (g', rest)
    | some _ => .error .usage
  else
    match attached, rest with
    | some value, _ => (g.add s value).map fun g' => (g', rest)
    | none, value :: rest =>
      if looksLikeSwitch value then .error .usage
      else .ok ({ g with unchecked := some (s, value) }, rest)
    | none, [] => .error .usage

/-- What help is asked for by an option at a place. -/
def topicAt : Option CommandName → Topic
  | none => .program
  | some name => .command name

/-- Reads what stands at one place: up to the first argument that is no option before the name of
the command, and up to the end after it. Gives the arguments that are left. `bound` is the number of
arguments at least. -/
def scan (place : Option CommandName) : Nat → Given → List String →
    Except Refusal (Given × List String)
  | 0, g, rest => .ok (g, rest)
  | _, g, [] => .ok (g, [])
  | bound + 1, g, argument :: rest =>
    match tokenOf argument with
    | .unknown => .error .usage
    | .terminator =>
      match place with
      | none => .error .usage
      | some name =>
        (rest.foldlM (fun (given : Given) => given.addOther name) g).map fun g' => (g', [])
    | .other =>
      match place with
      | none => .ok (g, argument :: rest)
      | some name => do
        scan place bound (← (← g.settle).addOther name argument) rest
    | .switch s attached => do
      if !s.isAllowed place then throw .usage
      let settled ← g.settle
      if s = .help && attached.isNone then throw (.help (topicAt place))
      if s = .version && attached.isNone then throw .version
      let (g', left) ← settled.take s attached rest
      scan place bound g' left

/-! ## Invocations -/

/-- What a deployment is asked to run. -/
structure DeployArguments where
  name : String
  jobId : Option String
  bundle : String
  libraries : List String
  jars : List String
  parallelism : UInt32
  payload : Option String
  deriving DecidableEq, Repr

/-- The commands. -/
inductive Command where
  | deploy (arguments : DeployArguments)
  | verify (application : ApplicationId)
  | cleanup (application : ApplicationId)
  | history (limit : Nat) (inspect : Bool)
  deriving DecidableEq, Repr

/-- What was asked for. -/
structure Invocation where
  config : Option String
  defines : List String
  ledger : String
  namenodeUrl : String
  storageUri : String
  resourceManagerUrl : String
  user : Option String
  queue : Option String
  command : Command
  deriving DecidableEq, Repr

/-- The values of an option at a place. -/
def Given.values (g : Given) (s : Switch) : List String :=
  (g.switches.filter fun entry => entry.1 == s).map (·.2)

/-- The values of an option at the place that counts. -/
def valuesAt (before after : Given) (s : Switch) : List String :=
  if (after.values s).isEmpty then before.values s else after.values s

/-- The value of the environment variable of an option. -/
def variableValue? (env : List (String × String)) (s : Switch) : Option String :=
  s.environmentName?.bind fun name => (env.find? fun entry => entry.1 == name).map (·.2)

/-- The value of an option, from the arguments or from its environment variable. Each place where
the option does not stand looks at the variable, whose value must make sense then. -/
def value? (env : List (String × String)) (before after : Given) (s : Switch) :
    Except Refusal (Option String) :=
  let isEverywhere := !(before.values s).isEmpty && !(after.values s).isEmpty
  let inVariable := variableValue? env s
  if !isEverywhere && inVariable.any fun value => !s.accepts value then .error .usage
  else .ok ((valuesAt before after s).head?.or inVariable)

/-- The value of an option that has one in any case. -/
def settled (s : Switch) (value : Option String) : String :=
  value.getD (s.default?.getD "")

/-- What a value has to be. -/
def need {α : Type} : Option α → Except Refusal α
  | some a => .ok a
  | none => .error .usage

/-- Reads what follows the name of a command. -/
def commandOf (name : CommandName) (g : Given) : Except Refusal Command := do
  match name with
  | .deploy =>
    let jobName ← need (g.values .name).head?
    let bundle ← need (g.values .bundle).head?
    return .deploy {
      name := jobName
      jobId := (g.values .jobId).head?
      bundle
      libraries := g.values .library
      jars := g.values .jar
      parallelism := ← need (readParallelism (settled .parallelism (g.values .parallelism).head?))
      payload := (g.values .payload).head? }
  | .verify => return .verify (← need (g.others.head?.bind ApplicationId.parse))
  | .cleanup => return .cleanup (← need (g.others.head?.bind ApplicationId.parse))
  | .history =>
    let limit ← need (readLimit (settled .limit (g.values .limit).head?))
    return .history limit (!(g.values .inspect).isEmpty)

/-- What the command that asks for help is about. -/
def topicOf : List String → Except Refusal Topic
  | [] => .ok .program
  | [name] => if name = "help" then .ok .help else (need (CommandName.ofText? name)).map .command
  | _ => .error .usage

/-- Reads the arguments. -/
def parse (arguments : List String) (env : List (String × String)) : Except Refusal Invocation := do
  let nothing : Given := ⟨[], [], none⟩
  let (before, rest) ← scan none arguments.length nothing arguments
  match rest with
  | [] => throw .usage
  | word :: rest =>
    if word = "help" then throw (.help (← topicOf rest))
    let name ← need (CommandName.ofText? word)
    let (after, _) ← scan (some name) rest.length nothing rest
    let after ← after.settle
    let before ← before.settle
    let value := value? env before after
    let ledger ← value .ledger
    let namenodeUrl ← value .namenodeUrl
    let storageUri ← value .storageUri
    let resourceManagerUrl ← value .resourceManagerUrl
    let user ← value .user
    let queue ← value .queue
    let config ← value .config
    let command ← commandOf name after
    return {
      config
      defines := valuesAt before after .define
      ledger := settled .ledger ledger
      namenodeUrl := settled .namenodeUrl namenodeUrl
      storageUri := settled .storageUri storageUri
      resourceManagerUrl := settled .resourceManagerUrl resourceManagerUrl
      user
      queue
      command }

end ClusterDeploy.CommandLine
