import ClusterDeploy.Application
import ClusterDeploy.Text.Utf8

/-!
# Artifacts

The local files that a cluster starts from, and what became of them in the shared storage.

## Main definitions

* `ArtifactRole`, `ArtifactEntry` — a local file to stage, and what it is for.
* `Replication` — the number of copies of each staged file, and who chose it.
* `StagedArtifact`, `Manifest` — what staging did.
* `Manifest.artifact?`, `Manifest.withRole`, `Manifest.bundle?` — looking things up in a manifest.
-/

namespace ClusterDeploy

/-- What an artifact is for. -/
inductive ArtifactRole where
  /-- The distribution that the cluster's master is started from. -/
  | bundle
  /-- A library that goes with the bundle. -/
  | library
  /-- A jar of the job itself. -/
  | userJar
  deriving DecidableEq, Repr, Inhabited

/-- The text form of a role. -/
def ArtifactRole.name : ArtifactRole → String
  | .bundle => "bundle"
  | .library => "library"
  | .userJar => "user_jar"

/-- Reads a role. -/
def ArtifactRole.parse (text : String) : Option ArtifactRole :=
  if text = "bundle" then some .bundle
  else if text = "library" then some .library
  else if text = "user_jar" then some .userJar
  else none

/-- A local file to stage, and the name that it gets in the staging directory. -/
structure ArtifactEntry where
  localPath : String
  remoteName : String
  role : ArtifactRole
  deriving DecidableEq, Repr, Inhabited

/-- An entry that keeps the name of its file. -/
def ArtifactEntry.ofPath (role : ArtifactRole) (path : String) : ArtifactEntry :=
  ⟨path, Text.fileName path, role⟩

/-- The number of copies of each staged file, and who chose it. -/
inductive Replication where
  | configured (factor : UInt16)
  | storageDefault (factor : UInt16)
  deriving DecidableEq, Repr, Inhabited

namespace Replication

/-- The number of copies. -/
def factor : Replication → UInt16
  | .configured n => n
  | .storageDefault n => n

/-- Whether the number was asked for. -/
def isConfigured : Replication → Bool
  | .configured _ => true
  | .storageDefault _ => false

/-- The text form of who chose the number. -/
def source : Replication → String
  | .configured _ => "configured"
  | .storageDefault _ => "storage_default"

/-- Puts the two parts together again. -/
def ofParts (source : String) (factor : UInt16) : Option Replication :=
  if source = "configured" then some (.configured factor)
  else if source = "storage_default" then some (.storageDefault factor)
  else none

end Replication

/-- An artifact in the shared storage. -/
structure StagedArtifact where
  entry : ArtifactEntry
  remotePath : String
  sha256 : String
  len : UInt64
  modificationTime : UInt64
  deriving DecidableEq, Repr, Inhabited

/-- What staging did: every artifact in the order in which it was asked for. -/
structure Manifest where
  applicationId : ApplicationId
  stagingDir : String
  artifacts : List StagedArtifact
  replication : Replication
  deriving DecidableEq, Repr, Inhabited

namespace Manifest

/-- The first artifact with a given name. -/
def artifact? (m : Manifest) (remoteName : String) : Option StagedArtifact :=
  m.artifacts.find? fun a => a.entry.remoteName == remoteName

/-- The artifacts with a given role. -/
def withRole (m : Manifest) (role : ArtifactRole) : List StagedArtifact :=
  m.artifacts.filter fun a => a.entry.role == role

/-- The first bundle. -/
def bundle? (m : Manifest) : Option StagedArtifact :=
  (m.withRole .bundle).head?

end Manifest

end ClusterDeploy
