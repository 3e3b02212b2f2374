import ClusterDeploy.Ledger.Store

/-!
# Tampering with a ledger

Changes to the database of a ledger that no operation would make.

## Main definitions

* `Rehearsal.Tampering` — the changes.
* `Rehearsal.Tampering.action` — makes a change; gives the number of rows if it is one of rows.
-/

namespace ClusterDeploy.Rehearsal

open Ledger

/-- A change to the database of a ledger. -/
inductive Tampering where
  /-- Put a value into a column of the row of an application. -/
  | setDeployment (application : String) (column : DeploymentColumn) (value : Cell)
  /-- Put a value into a column of the artifacts of an application, or of one of them. -/
  | setArtifact (application : String) (remoteName : Option String) (column : ArtifactColumn)
      (value : Cell)
  | dropArtifacts
  | dropTables
  | forgetVersions
  | addVersion (version : Int)
  deriving DecidableEq, Repr

namespace Tampering

/-- The name of the table of versions. -/
def versionsName : String := "jobcluster_schema_migrations"

/-- The rows with some of them changed, and how many were changed. -/
def changeRows {α : Type} (concerns : α → Bool) (change : α → α) (rows : List α) : List α × Nat :=
  (rows.map fun row => if concerns row then change row else row, rows.countP concerns)

/-- Makes a change; gives the number of rows if it is one of rows. -/
def action : Tampering → Action (Option Nat)
  | .setDeployment application column value => do
    let table ← getDeployments
    if column = .cleanedAt ∧ !table.hasCleanedAt then throw (.noSuchColumn column.name)
    let stored := column.affinity.store value
    let (rows, count) := changeRows (fun row => row.isOf application)
      (fun row => row.set stored column) table.rows
    if 0 < count ∧ stored.isNull ∧ column.isMandatory then
      throw (.missingValue s!"{deploymentsName}.{column.name}")
    if 0 < count ∧ column = .applicationId ∧ stored ≠ .text application ∧ !stored.isNull ∧
        table.rows.any fun row => row.applicationId == stored then
      throw (.notUnique s!"{deploymentsName}.{column.name}")
    setDeployments { table with rows := rows }
    return some count
  | .setArtifact application remoteName column value => do
    let all ← getArtifacts
    let stored := column.affinity.store value
    let concerns (row : ArtifactRow) : Bool :=
      row.isOf application && remoteName.all fun name => row.remoteName == .text name
    let (rows, count) := changeRows concerns (fun row => row.set stored column) all
    if 0 < count ∧ stored.isNull then throw (.missingValue s!"{artifactsName}.{column.name}")
    let key (row : ArtifactRow) : Cell × Cell := (row.applicationId, row.remoteName)
    if !((rows.map key).Nodup : Bool) then throw (.notUnique artifactKey)
    setArtifacts rows
    return some count
  | .dropArtifacts => do
    change fun db => { db with artifacts := none }
    return none
  | .dropTables => do
    Ledger.dropTables
    return none
  | .forgetVersions => do
    match (← get).versions with
    | none => throw (.noSuchTable versionsName)
    | some versions =>
      change fun db => { db with versions := some [] }
      return some versions.length
  | .addVersion version => do
    match (← get).versions with
    | none => throw (.noSuchTable versionsName)
    | some versions =>
      if versions.contains version then throw (.notUnique s!"{versionsName}.version")
      change fun db => { db with versions := some (versions ++ [version]) }
      return none

end Tampering

end ClusterDeploy.Rehearsal
