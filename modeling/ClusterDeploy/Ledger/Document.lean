import ClusterDeploy.Json.Value
import ClusterDeploy.Ledger.Table

/-!
# Ledgers as documents

The whole of a ledger as one JSON document, in the form in which it is kept in a file.

## Main definitions

* `Ledger.Cell.toJson`, `Ledger.Database.toJson` — what is written.
* `Ledger.Cell.ofJson?`, `Ledger.Database.ofJson?` — what is read.
* `Ledger.Database.toBytes`, `Ledger.Database.ofBytes?` — the content of a file.

## Main results

* `Ledger.Database.ofJson?_toJson` — what is written is read again.

## Implementation notes

A row is an array of its cells in the order of the columns. Bytes, and real numbers with their exact
parts, are objects with one member.
-/

namespace ClusterDeploy.Ledger

/-! ## Whole numbers and lists -/

/-- A whole number as a value. -/
def jsonOfInt : Int → Json
  | .ofNat n => .number (.natural n)
  | .negSucc n => .number (.negative (n + 1))

/-- The whole number that a value is. -/
def intOfJson? : Json → Option Int
  | .number (.natural n) => some n
  | .number (.negative n) => some (-(n : Int))
  | _ => none

/-- A whole number is read back from its document. -/
theorem intOfJson?_jsonOfInt (i : Int) : intOfJson? (jsonOfInt i) = some i := by
  cases i <;> rfl

/-- The items of an array, each of which has to be read. -/
def listOfJson? {α : Type} (read : Json → Option α) : Json → Option (List α)
  | .array items => items.mapM read
  | _ => none

/-- A list is read back from its document if its elements are. -/
theorem listOfJson?_map {α : Type} {read : Json → Option α} {write : α → Json}
    (h : ∀ a, read (write a) = some a) (l : List α) :
    listOfJson? read (.array (l.map write)) = some l := by
  simp only [listOfJson?]
  induction l with
  | nil => rfl
  | cons a rest ih => simp [h, ih]

/-- A value that may be null. -/
def optionOfJson? {α : Type} (read : Json → Option α) : Json → Option (Option α)
  | .null => some none
  | value => (read value).map some

/-! ## Cells -/

/-- A byte as a value. -/
def jsonOfByte (b : UInt8) : Json :=
  .number (.natural b.toNat)

/-- The byte that a value is. -/
def byteOfJson? : Json → Option UInt8
  | .number (.natural n) => if n < 256 then some (UInt8.ofNat n) else none
  | _ => none

/-- A byte is read back from its document. -/
theorem byteOfJson?_jsonOfByte (b : UInt8) : byteOfJson? (jsonOfByte b) = some b := by
  simp [byteOfJson?, jsonOfByte, b.toNat_lt]

/-- A cell as a value. -/
def Cell.toJson : Cell → Json
  | .null => .null
  | .integer i => jsonOfInt i
  | .real f =>
    .object [("real",
      .array [.bool f.negative, .number (.natural f.mantissa), jsonOfInt f.exponent])]
  | .infinite negative => .object [("real", .array [.bool negative])]
  | .text s => .string s
  | .blob b => .object [("bytes", .array (b.map jsonOfByte))]

/-- The cell that a value is. -/
def Cell.ofJson? : Json → Option Cell
  | .null => some .null
  | .string s => some (.text s)
  | .object [("real", .array [.bool negative, .number (.natural mantissa), exponent])] =>
    (intOfJson? exponent).map fun e => .real ⟨negative, mantissa, e⟩
  | .object [("real", .array [.bool negative])] => some (.infinite negative)
  | .object [("bytes", bytes)] => (listOfJson? byteOfJson? bytes).map .blob
  | value => (intOfJson? value).map .integer

/-- A cell is read back from its document. -/
theorem Cell.ofJson?_toJson (c : Cell) : Cell.ofJson? c.toJson = some c := by
  cases c with
  | null => rfl
  | integer i => cases i <;> rfl
  | real f => simp [Cell.toJson, Cell.ofJson?, intOfJson?_jsonOfInt]
  | infinite negative => rfl
  | text s => rfl
  | blob b => simp [Cell.toJson, Cell.ofJson?, listOfJson?_map byteOfJson?_jsonOfByte]

/-! ## Rows -/

/-- The row of the table of deployments with these cells. -/
def DeploymentRow.ofCells : List Cell → Option DeploymentRow
  | [id, job, dir, factor, source, outcome, payload, termination, teardown, error, started,
      finished, cleaned] =>
    some ⟨id, job, dir, factor, source, outcome, payload, termination, teardown, error, started,
      finished, cleaned⟩
  | _ => none

/-- The row of the table of artifacts with these cells. -/
def ArtifactRow.ofCells : List Cell → Option ArtifactRow
  | [id, position, name, role, localPath, remotePath, sha256, len, time] =>
    some ⟨id, position, name, role, localPath, remotePath, sha256, len, time⟩
  | _ => none

/-- A row of the table of deployments as a value. -/
def DeploymentRow.toJson (row : DeploymentRow) : Json :=
  .array ((DeploymentColumn.all.map row.get).map Cell.toJson)

/-- The row of the table of deployments that a value is. -/
def DeploymentRow.ofJson? (value : Json) : Option DeploymentRow :=
  (listOfJson? Cell.ofJson? value).bind DeploymentRow.ofCells

/-- The row of a deployment is read back from its document. -/
theorem DeploymentRow.ofJson?_toJson (row : DeploymentRow) :
    DeploymentRow.ofJson? row.toJson = some row := by
  simp only [DeploymentRow.ofJson?, DeploymentRow.toJson, listOfJson?_map Cell.ofJson?_toJson]
  rfl

/-- A row of the table of artifacts as a value. -/
def ArtifactRow.toJson (row : ArtifactRow) : Json :=
  .array ((ArtifactColumn.all.map row.get).map Cell.toJson)

/-- The row of the table of artifacts that a value is. -/
def ArtifactRow.ofJson? (value : Json) : Option ArtifactRow :=
  (listOfJson? Cell.ofJson? value).bind ArtifactRow.ofCells

/-- The row of an artifact is read back from its document. -/
theorem ArtifactRow.ofJson?_toJson (row : ArtifactRow) :
    ArtifactRow.ofJson? row.toJson = some row := by
  simp only [ArtifactRow.ofJson?, ArtifactRow.toJson, listOfJson?_map Cell.ofJson?_toJson]
  rfl

/-! ## Tables -/

/-- The table of deployments as a value. -/
def DeploymentTable.toJson (table : DeploymentTable) : Json :=
  .object [
    ("hasCleanedAt", .bool table.hasCleanedAt),
    ("rows", .array (table.rows.map DeploymentRow.toJson))]

/-- The table of deployments that a value is. -/
def DeploymentTable.ofJson? : Json → Option DeploymentTable
  | .object [("hasCleanedAt", .bool hasCleanedAt), ("rows", rows)] =>
    (listOfJson? DeploymentRow.ofJson? rows).map (DeploymentTable.mk hasCleanedAt)
  | _ => none

/-- The table of the deployments is read back from its document. -/
theorem DeploymentTable.ofJson?_toJson (table : DeploymentTable) :
    DeploymentTable.ofJson? table.toJson = some table := by
  simp [DeploymentTable.ofJson?, DeploymentTable.toJson,
    listOfJson?_map DeploymentRow.ofJson?_toJson]

/-- A value, or null. -/
def jsonOfOption {α : Type} (write : α → Json) : Option α → Json
  | none => .null
  | some a => write a

/-- A ledger as a value. -/
def Database.toJson (db : Database) : Json :=
  .object [
    ("artifacts", jsonOfOption (fun rows => .array (rows.map ArtifactRow.toJson)) db.artifacts),
    ("deployments", jsonOfOption DeploymentTable.toJson db.deployments),
    ("startIndex", .bool db.startIndex),
    ("versions", jsonOfOption (fun versions => .array (versions.map jsonOfInt)) db.versions)]

/-- The ledger that a value is. -/
def Database.ofJson? : Json → Option Database
  | .object [("artifacts", artifacts), ("deployments", deployments),
      ("startIndex", .bool startIndex), ("versions", versions)] => do
    let artifacts ← optionOfJson? (listOfJson? ArtifactRow.ofJson?) artifacts
    let deployments ← optionOfJson? DeploymentTable.ofJson? deployments
    let versions ← optionOfJson? (listOfJson? intOfJson?) versions
    return ⟨versions, deployments, artifacts, startIndex⟩
  | _ => none

/-- What is written is read again. -/
theorem Database.ofJson?_toJson (db : Database) : Database.ofJson? db.toJson = some db := by
  obtain ⟨versions, deployments, artifacts, startIndex⟩ := db
  have hartifacts : optionOfJson? (listOfJson? ArtifactRow.ofJson?)
      (jsonOfOption (fun rows => .array (rows.map ArtifactRow.toJson)) artifacts) =
        some artifacts := by
    cases artifacts <;>
      simp [optionOfJson?, jsonOfOption, listOfJson?_map ArtifactRow.ofJson?_toJson]
  have hdeployments : optionOfJson? DeploymentTable.ofJson?
      (jsonOfOption DeploymentTable.toJson deployments) = some deployments := by
    cases deployments with
    | none => rfl
    | some table =>
      have h := DeploymentTable.ofJson?_toJson table
      simp only [DeploymentTable.toJson] at h
      simp [optionOfJson?, jsonOfOption, DeploymentTable.toJson, h]
  have hversions : optionOfJson? (listOfJson? intOfJson?)
      (jsonOfOption (fun versions => .array (versions.map jsonOfInt)) versions) =
        some versions := by
    cases versions <;> simp [optionOfJson?, jsonOfOption, listOfJson?_map intOfJson?_jsonOfInt]
  simp [Database.toJson, Database.ofJson?, hartifacts, hdeployments, hversions]

/-! ## Files -/

/-- The content of the file of a ledger. -/
def Database.toBytes (db : Database) : Bytes :=
  Utf8.encode db.toJson.compact

/-- The ledger in a file. An empty file is an empty ledger. -/
def Database.ofBytes? (content : Bytes) : Option Database :=
  if content.isEmpty then some .empty else (Json.parse content).bind Database.ofJson?

end ClusterDeploy.Ledger
