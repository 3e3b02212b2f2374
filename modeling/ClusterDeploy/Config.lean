import ClusterDeploy.Duration
import ClusterDeploy.Error
import ClusterDeploy.MemorySize

/-!
# Configuration

A configuration is made from pairs of a key and a value, which are applied in order over the
defaults. Unknown keys do not matter; the first value that cannot be used fails the whole
resolution, even if a later pair would have replaced it.

## Main definitions

* `ClasspathInclusion` — whether and where the job's own jars go on the system classpath.
* `Config`, `Config.default` — the settings of a deployment.
* `Setting`, `Setting.key`, `Setting.ofKey?` — the known keys.
* `Change`, `Setting.read` — a value for one setting, and its reading.
* `Config.resolve` — the configuration that a list of pairs gives.

## Implementation notes

Reading a pair and applying it are two steps: what a pair means depends on that pair alone. The
replication factor and the result timeout have the spellings "" and "-1" for "not set".
-/

namespace ClusterDeploy

/-- Whether the job's own jars go on the cluster's system classpath, and where. -/
inductive ClasspathInclusion where
  | disabled | first | last | order
  deriving DecidableEq, Repr, Inhabited

namespace ClasspathInclusion

/-- The text form of a policy. -/
def name : ClasspathInclusion → String
  | .disabled => "DISABLED"
  | .first => "FIRST"
  | .last => "LAST"
  | .order => "ORDER"

/-- Whether the policy puts user jars on the system classpath. -/
def includesUserArtifacts (policy : ClasspathInclusion) : Bool :=
  policy != .disabled

/-- Reads a policy; blanks around it and the case of ASCII letters do not count. -/
def parse (text : String) : Option ClasspathInclusion :=
  let word := String.ofList ((Text.trim text.toList).map Char.toUpper)
  if word = "DISABLED" then some .disabled
  else if word = "FIRST" then some .first
  else if word = "LAST" then some .last
  else if word = "ORDER" then some .order
  else none

end ClasspathInclusion

/-- The settings of a deployment. -/
structure Config where
  masterMemory : MemorySize
  workerMemory : MemorySize
  slotsPerWorker : UInt32
  /-- The copies of each staged file; nothing leaves the choice to the storage. -/
  replication : Option UInt16
  /-- How long a call to the platform may take. -/
  askTimeout : Millis
  classpathInclusion : ClasspathInclusion
  terminationPollInterval : Millis
  terminationDeadline : Millis
  startupTimeout : Millis
  stagingPrefix : String
  /-- How long to wait for the job's result; nothing waits until the job ends. -/
  resultTimeout : Option Millis
  deriving DecidableEq, Repr, Inhabited

/-- The settings where nothing else is asked for. -/
def Config.default : Config where
  masterMemory := .ofMebibytes 1600
  workerMemory := .ofMebibytes 1728
  slotsPerWorker := 1
  replication := none
  askTimeout := 10000
  classpathInclusion := .disabled
  terminationPollInterval := 100
  terminationDeadline := 10000
  startupTimeout := 60000
  stagingPrefix := "jobcluster"
  resultTimeout := none

/-! ## Keys -/

/-- The known settings. -/
inductive Setting where
  | masterMemory | workerMemory | slotsPerWorker | replication | askTimeout | classpathInclusion
  | terminationPollInterval | terminationDeadline | startupTimeout | stagingPrefix | resultTimeout
  deriving DecidableEq, Repr, Inhabited

namespace Setting

/-- The key of a setting. -/
def key : Setting → String
  | .masterMemory => "jobmanager.memory.process.size"
  | .workerMemory => "taskmanager.memory.process.size"
  | .slotsPerWorker => "taskmanager.numberOfTaskSlots"
  | .replication => "yarn.file-replication"
  | .askTimeout => "akka.ask.timeout"
  | .classpathInclusion => "yarn.classpath.include-user-jar"
  | .terminationPollInterval => "deployment.termination.poll-interval"
  | .terminationDeadline => "deployment.termination.deadline"
  | .startupTimeout => "deployment.startup.timeout"
  | .stagingPrefix => "deployment.staging.prefix"
  | .resultTimeout => "deployment.result.timeout"

/-- All settings. -/
def all : List Setting :=
  [.masterMemory, .workerMemory, .slotsPerWorker, .replication, .askTimeout, .classpathInclusion,
    .terminationPollInterval, .terminationDeadline, .startupTimeout, .stagingPrefix,
    .resultTimeout]

/-- The setting with a given key, which has to be spelt exactly. -/
def ofKey? (key : String) : Option Setting :=
  all.find? fun s => s.key == key

end Setting

/-! ## Values -/

/-- A value for one setting. -/
inductive Change where
  | masterMemory (size : MemorySize)
  | workerMemory (size : MemorySize)
  | slotsPerWorker (n : UInt32)
  | replication (factor : Option UInt16)
  | askTimeout (time : Millis)
  | classpathInclusion (policy : ClasspathInclusion)
  | terminationPollInterval (time : Millis)
  | terminationDeadline (time : Millis)
  | startupTimeout (time : Millis)
  | stagingPrefix (name : String)
  | resultTimeout (time : Option Millis)
  deriving DecidableEq, Repr

/-- Why a value cannot be used. -/
inductive ValueFault where
  | memory (fault : MemorySize.Fault)
  | memoryTooSmall
  | duration (fault : Quantity.Fault)
  | durationZero
  | notAnInteger
  | notPositive (n : Int)
  | factorNotAnInteger
  | factorNotPositive (n : Int)
  | unknownInclusion
  | notASegment
  deriving DecidableEq, Repr

/-- What is said about a value that cannot be used. -/
def ValueFault.message (value : String) : ValueFault → String
  | .memory fault => MemorySize.message value fault
  | .memoryTooSmall => s!"memory size '{value}' must be at least one mebibyte"
  | .duration fault => Duration.message value fault
  | .durationZero => s!"duration '{value}' must be greater than zero"
  | .notAnInteger => s!"expected an integer but got '{value}'"
  | .notPositive n => s!"expected a positive integer but got '{n}'"
  | .factorNotAnInteger => s!"expected an integer replication factor but got '{value}'"
  | .factorNotPositive n => s!"replication factor must be positive but got '{n}'"
  | .unknownInclusion => s!"expected one of DISABLED, FIRST, LAST, ORDER but got '{value}'"
  | .notASegment => s!"staging prefix '{value}' must be a single non-empty path segment"

namespace Value

/-- Reads a memory size of at least one mebibyte. -/
def memory (value : String) : Except ValueFault MemorySize :=
  match MemorySize.parse value with
  | .error fault => .error (.memory fault)
  | .ok size => if size.mebibytes = 0 then .error .memoryTooSmall else .ok size

/-- Reads a positive 32-bit number. -/
def count (value : String) : Except ValueFault UInt32 :=
  match Text.readSigned Text.signedBound (Text.trim value.toList) with
  | none => .error .notAnInteger
  | some n =>
    if 0 < n ∧ n < UInt32.size then .ok (UInt32.ofNat n.toNat) else .error (.notPositive n)

/-- Whether a value is one of the two spellings of "not set". -/
def isUnset (value : String) : Bool :=
  let word := String.ofList (Text.trim value.toList)
  word == "" || word == "-1"

/-- Reads a replication factor. -/
def replication (value : String) : Except ValueFault (Option UInt16) :=
  if isUnset value then .ok none
  else match Text.readSigned Text.signedBound (Text.trim value.toList) with
    | none => .error .factorNotAnInteger
    | some n =>
      if 0 < n ∧ n < UInt16.size then .ok (some (UInt16.ofNat n.toNat))
      else .error (.factorNotPositive n)

/-- Reads a duration longer than nothing. -/
def duration (value : String) : Except ValueFault Millis :=
  match Duration.parse value with
  | .error fault => .error (.duration fault)
  | .ok time => if time = 0 then .error .durationZero else .ok time

/-- Reads a duration longer than nothing, or that there is none. -/
def optionalDuration (value : String) : Except ValueFault (Option Millis) :=
  if isUnset value then .ok none else (duration value).map some

/-- Reads a policy for the classpath. -/
def inclusion (value : String) : Except ValueFault ClasspathInclusion :=
  match ClasspathInclusion.parse value with
  | none => .error .unknownInclusion
  | some policy => .ok policy

/-- Reads the name of a directory, less the dots at its start. -/
def segment (value : String) : Except ValueFault String :=
  let name := (Text.trim value.toList).dropWhile (· == '.')
  if name.isEmpty || name.contains '/' then .error .notASegment else .ok (String.ofList name)

end Value

/-- Reads a value for a setting. -/
def Setting.read (setting : Setting) (value : String) : Except ValueFault Change :=
  match setting with
  | .masterMemory => (Value.memory value).map .masterMemory
  | .workerMemory => (Value.memory value).map .workerMemory
  | .slotsPerWorker => (Value.count value).map .slotsPerWorker
  | .replication => (Value.replication value).map .replication
  | .askTimeout => (Value.duration value).map .askTimeout
  | .classpathInclusion => (Value.inclusion value).map .classpathInclusion
  | .terminationPollInterval => (Value.duration value).map .terminationPollInterval
  | .terminationDeadline => (Value.duration value).map .terminationDeadline
  | .startupTimeout => (Value.duration value).map .startupTimeout
  | .stagingPrefix => (Value.segment value).map .stagingPrefix
  | .resultTimeout => (Value.optionalDuration value).map .resultTimeout

/-! ## Resolution -/

namespace Config

/-- Puts a value into a configuration. -/
def apply (c : Config) : Change → Config
  | .masterMemory size => { c with masterMemory := size }
  | .workerMemory size => { c with workerMemory := size }
  | .slotsPerWorker n => { c with slotsPerWorker := n }
  | .replication factor => { c with replication := factor }
  | .askTimeout time => { c with askTimeout := time }
  | .classpathInclusion policy => { c with classpathInclusion := policy }
  | .terminationPollInterval time => { c with terminationPollInterval := time }
  | .terminationDeadline time => { c with terminationDeadline := time }
  | .startupTimeout time => { c with startupTimeout := time }
  | .stagingPrefix name => { c with stagingPrefix := name }
  | .resultTimeout time => { c with resultTimeout := time }

/-- The error about a value for a key. -/
def valueError (key value : String) (fault : ValueFault) : DeployError where
  application := none
  stage := some .configuration
  kind := .configuration
  message := s!"invalid value for '{key}': {fault.message value}"

/-- Reads one pair: nothing if the key is unknown. -/
def readPair (key value : String) : Except DeployError (Option Change) :=
  match Setting.ofKey? key with
  | none => .ok none
  | some setting =>
    match setting.read value with
    | .ok change => .ok (some change)
    | .error fault => .error (valueError key value fault)

/-- Applies one pair. -/
def set (c : Config) (pair : String × String) : Except DeployError Config :=
  match readPair pair.1 pair.2 with
  | .error e => .error e
  | .ok none => .ok c
  | .ok (some change) => .ok (c.apply change)

/-- Applies pairs in order, up to the first that cannot be used. -/
def setAll (c : Config) : List (String × String) → Except DeployError Config
  | [] => .ok c
  | pair :: rest =>
    match c.set pair with
    | .error e => .error e
    | .ok c' => c'.setAll rest

/-- The configuration that a list of pairs gives over the defaults. -/
def resolve (overrides : List (String × String)) : Except DeployError Config :=
  Config.default.setAll overrides

end Config

end ClusterDeploy
