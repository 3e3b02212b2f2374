import ClusterDeploy.Ledger.Fault
import ClusterDeploy.Ledger.Table

/-!
# The layout of the ledger

The layout of the tables has versions. Each version is put in place by one step and taken back by
another, and the database remembers which steps were made.

## Main definitions

* `Access` — what may be done with the database.
* `Action` — a computation on the database that may fail; what it did before it failed stays, unless
  it is a `transaction`.
* `change` — the only way in which a computation changes the database.
* `SchemaVersion`, `schemaVersions`, `latestVersion` — the versions of the layout.
* `currentVersion`, `applyMigration` — where the layout stands, and moving it.

## Implementation notes

Every step runs in a transaction together with the note that it was made, so a failed step leaves
the layout at the version before it. Migrating to the version where the layout stands makes all
steps again, which puts back tables that were lost: a table that is there is left alone, and so is a
column.
-/

namespace ClusterDeploy.Ledger

/-- What may be done with a database. -/
inductive Access where
  | reading
  | writing
  deriving DecidableEq, Repr, Inhabited

/-- A computation on the database that may fail. What it did before it failed stays. -/
abbrev Action (α : Type) := ReaderT Access (ExceptT Fault (StateM Database)) α

/-- Runs a computation on a database. -/
def Action.runOn {α : Type} (a : Action α) (access : Access) (db : Database) :
    Except Fault α × Database :=
  ((a.run access).run db).run

/-- A computation that leaves the database as it was if it fails. -/
def transaction {α : Type} (a : Action α) : Action α := fun access db =>
  match a.runOn access db with
  | (.ok value, db') => (.ok value, db')
  | (.error fault, _) => (.error fault, db)

/-- A reading as a computation on the database. -/
def ofReading {α : Type} (reading : Except Fault α) : Action α := fun _ db =>
  (reading, db)

/-- Changes the database, which fails if it may only be read. -/
def change (f : Database → Database) : Action Unit := do
  match ← read with
  | .reading => throw .cannotWrite
  | .writing => modify f

/-! ## Tables -/

/-- The name of the table of deployments. -/
def deploymentsName : String := "deployments"

/-- The name of the table of artifacts. -/
def artifactsName : String := "staged_artifacts"

/-- The table of deployments, which has to be there. -/
def getDeployments : Action DeploymentTable := do
  match (← get).deployments with
  | some table => return table
  | none => throw (.noSuchTable deploymentsName)

/-- The rows of the table of artifacts, which has to be there. -/
def getArtifacts : Action (List ArtifactRow) := do
  match (← get).artifacts with
  | some rows => return rows
  | none => throw (.noSuchTable artifactsName)

/-- Replaces the table of deployments. -/
def setDeployments (table : DeploymentTable) : Action Unit :=
  change fun db => { db with deployments := some table }

/-- Replaces the rows of the table of artifacts. -/
def setArtifacts (rows : List ArtifactRow) : Action Unit :=
  change fun db => { db with artifacts := some rows }

/-! ## Versions -/

/-- A version of the layout: its number, its name, and the steps to it and back from it. -/
structure SchemaVersion where
  number : Int
  name : String
  up : Action Unit
  down : Action Unit

/-- Makes the tables and the index that are missing. -/
def createTables : Action Unit := do
  let db ← get
  if db.deployments.isNone || db.artifacts.isNone || !db.startIndex then
    change fun db =>
      { db with
        deployments := db.deployments <|> some ⟨false, []⟩
        artifacts := db.artifacts <|> some []
        startIndex := true }

/-- Removes the tables; their index goes with them. -/
def dropTables : Action Unit :=
  change fun db => { db with deployments := none, artifacts := none, startIndex := false }

/-- Adds the column for the time of the cleanup, unless it is there. -/
def addCleanedAt : Action Unit := do
  let table ← getDeployments
  if !table.hasCleanedAt then setDeployments { table with hasCleanedAt := true }

/-- Removes the column for the time of the cleanup. -/
def dropCleanedAt : Action Unit := do
  let table ← getDeployments
  if table.hasCleanedAt then
    setDeployments ⟨false, table.rows.map fun row => { row with cleanedAt := .null }⟩
  else throw (.noSuchColumn s!"\"{DeploymentColumn.cleanedAt.name}\"")

/-- The versions of the layout in ascending order. -/
def schemaVersions : List SchemaVersion :=
  [⟨1, "initial_deployment_ledger", createTables, dropTables⟩,
    ⟨2, "add_cleanup_tracking", addCleanedAt, dropCleanedAt⟩]

/-- The version with a number, if there is one. -/
def schemaVersion? (number : Int) : Option SchemaVersion :=
  schemaVersions.find? fun version => version.number == number

/-- The greatest number of a version. -/
def latestVersion : Int :=
  (schemaVersions.getLast?.map SchemaVersion.number).getD 0

/-- The versions after a given one. -/
def plannedVersions (current : Int) : List SchemaVersion :=
  schemaVersions.filter fun version => current < version.number

/-- The version with a number, which has to be defined. -/
def definedVersion (number : Int) : Action SchemaVersion :=
  match schemaVersion? number with
  | some version => return version
  | none => throw (.undefinedVersion number)

/-! ## Migrations -/

/-- Makes the table of versions if it is missing. -/
def ensureVersions : Action Unit := do
  if (← get).versions.isNone then change fun db => { db with versions := some [] }

/-- The greatest of the versions that were put in place, or zero if there is none. -/
def greatestVersion : List Int → Int
  | [] => 0
  | v :: rest => rest.foldl max v

/-- The version at which the layout stands. -/
def readVersion : Action Int := do
  return greatestVersion ((← get).versions.getD [])

/-- The version at which the layout stands. -/
def currentVersion : Action Int := do
  ensureVersions
  readVersion

/-- The layout has to be in place. -/
def ensureReady : Action Unit := do
  ensureVersions
  if (← readVersion) ≤ 0 then throw .notInitialized

/-- Puts one version in place and notes it. -/
def stepUp (number : Int) : Action Unit := do
  let version ← definedVersion number
  transaction do
    version.up
    change fun db => { db with versions := db.versions.map (· ++ [number]) }

/-- Takes one version back and forgets it. -/
def stepDown (number : Int) : Action Unit := do
  let version ← definedVersion number
  transaction do
    version.down
    change fun db => { db with versions := db.versions.map (·.filter (· != number)) }

/-- Puts the next `count` versions after a given one in place. -/
def climb : Nat → Int → Action Unit
  | 0, _ => return ()
  | count + 1, current => do
    stepUp (current + 1)
    climb count (current + 1)

/-- Takes the last `count` versions back, from a given one downwards. -/
def descend : Nat → Int → Action Unit
  | 0, _ => return ()
  | count + 1, current => do
    stepDown current
    descend count (current - 1)

/-- Makes the next `count` steps after a given version again, without noting them. -/
def repair : Nat → Int → Action Unit
  | 0, _ => return ()
  | count + 1, current => do
    (← definedVersion (current + 1)).up
    repair count (current + 1)

/-- Whether the layout can be moved to a version. -/
def isTarget (target : Int) : Bool :=
  0 ≤ target && target ≤ latestVersion

/-- Moves the layout to a version. -/
def applyMigration (target : Int) : Action Unit := do
  if !isTarget target then throw (.invalidTarget target)
  ensureVersions
  let current ← readVersion
  if target = current then repair target.toNat 0
  else if current < target then climb (target - current).toNat current
  else descend (current - target).toNat current

end ClusterDeploy.Ledger
