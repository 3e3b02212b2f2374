import ClusterDeploy.Error
import ClusterDeploy.Files.Fault
import ClusterDeploy.Text.Blank

/-!
# The shared storage

The storage that the nodes of a cluster share holds the files that clusters start from, each with a
number of copies. This module says what can be asked of it and how the staging directories are laid
out.

## Main definitions

* `FileStatus` — what the storage says of a file.
* `Storage.Call`, `Storage.Call.Value` — what can be asked, and what the answers are.
* `Storage.stagingDir`, `Storage.remotePath` — the directory of an application and the paths in it.
-/

namespace ClusterDeploy

/-- What the storage says of a file. -/
structure FileStatus where
  len : UInt64
  replication : UInt16
  modificationTime : UInt64
  deriving DecidableEq, Repr, Inhabited

namespace Storage

/-- What can be asked of the storage. -/
inductive Call where
  /-- The home directory of the user. -/
  | homeDirectory
  /-- The number of copies of a file that is written without asking for one. -/
  | defaultReplication
  /-- Write a local file to a path, in the place of the file that is there. -/
  | upload (localPath remotePath : String)
  /-- Change the number of copies of a file. -/
  | setReplication (remotePath : String) (factor : UInt16)
  /-- The status of a file, if there is one. -/
  | stat (remotePath : String)
  /-- Delete a file or a directory with all that is in it; tells whether there was any. -/
  | deleteRecursive (remotePath : String)
  deriving DecidableEq, Repr

/-- The answers to a call. -/
abbrev Call.Value : Call → Type
  | .homeDirectory => String
  | .defaultReplication => UInt16
  | .upload _ _ => Unit
  | .setReplication _ _ => Unit
  | .stat _ => Option FileStatus
  | .deleteRecursive _ => Bool

/-- A text without slashes at its end. -/
def withoutSlashes (path : String) : String :=
  String.ofList (Text.dropTrailing '/' path.toList)

/-- The staging directory of an application. -/
def stagingDir (home label : String) (application : ApplicationId) : String :=
  s!"{withoutSlashes home}/.{label}/{application.display}"

/-- The path of a name in a staging directory. -/
def remotePath (stagingDir remoteName : String) : String :=
  s!"{withoutSlashes stagingDir}/{remoteName}"

/-- A failure of the storage. -/
def failure (message : String) : DeployError :=
  .ofKind .storageFailure message

/-- The failure of an upload whose local file cannot be read. -/
def unreadable (localPath : String) (fault : FileFault) : DeployError :=
  failure s!"failed to read local file '{localPath}': {fault.message}"

end Storage

end ClusterDeploy
