import ClusterDeploy.Ledger.Store
import Mathlib.Tactic.Lemma

set_option relaxedAutoImplicit false
set_option autoImplicit false

/-!
# Running computations on the ledger

The equations of `Action.runOn` for programs written with `do`, and for the steps that such programs
are made of.

## Main definitions

* `Ledger.Database.version`, `Ledger.Database.opened` — where the layout of a database stands, and
  the database after somebody asked for that.
* `Ledger.Holds` — a database with the latest layout, and what is in its tables.

## Main results

* `Ledger.runOn_bind` — computations in sequence.
* `Ledger.runOn_bind_eq_ok_iff`, `Ledger.runOn_updateRow_eq_ok_iff` — what a computation did that
  gave a value, whatever the layout.
* `Ledger.runOn_mapM` — a computation for each element of a list that changes nothing.
-/

namespace ClusterDeploy.Ledger

/-- The version at which the layout of a database stands. -/
def Database.version (db : Database) : Int :=
  greatestVersion (db.versions.getD [])

/-- A database after somebody asked for its version: there is a table of versions. -/
def Database.opened (db : Database) : Database :=
  { db with versions := some (db.versions.getD []) }

variable {α β : Type} {access : Access} {db db' : Database}

/-! ## Steps -/

/-- A value leaves the database as it is. -/
@[simp]
lemma runOn_pure (a : α) : (pure a : Action α).runOn access db = (.ok a, db) :=
  rfl

/-- Computations in sequence: the second one runs if the first one gave a value. -/
lemma runOn_bind (p : Action α) (f : α → Action β) :
    (p >>= f).runOn access db =
      match p.runOn access db with
      | (.ok a, db') => (f a).runOn access db'
      | (.error fault, db') => (.error fault, db') := by
  change (match p.runOn access db with
    | (r, db') => ExceptT.bindCont (fun a => (f a).run access) r db') = _
  rcases p.runOn access db with ⟨_ | _, _⟩
  · rfl
  · rfl

/-- A computation after one that gave a value. -/
lemma runOn_bind_of_ok {p : Action α} {f : α → Action β} {a : α} {db' : Database}
    (hp : p.runOn access db = (.ok a, db')) :
    (p >>= f).runOn access db = (f a).runOn access db' := by
  rw [runOn_bind, hp]

/-- The database itself can be looked at. -/
@[simp]
lemma runOn_get : (get : Action Database).runOn access db = (.ok db, db) :=
  rfl

/-- What is read from rows leaves the database as it is. -/
lemma runOn_ofReading (reading : Except Fault α) :
    (ofReading reading).runOn access db = (reading, db) :=
  rfl

/-- A computation that fails in a transaction leaves the database as it was. -/
lemma runOn_transaction (p : Action α) :
    (transaction p).runOn access db =
      match p.runOn access db with
      | (.ok a, db') => (.ok a, db')
      | (.error fault, _) => (.error fault, db) :=
  rfl

/-- Computations that change nothing, one after the other. -/
lemma runOn_mapM {f : α → Action β} {g : α → β} {l : List α}
    (hf : ∀ a ∈ l, (f a).runOn access db = (.ok (g a), db)) :
    (l.mapM f).runOn access db = (.ok (l.map g), db) := by
  induction l with
  | nil => rfl
  | cons a l ih =>
    obtain ⟨ha, hl⟩ := List.forall_mem_cons.1 hf
    rw [List.mapM_cons, runOn_bind, ha]
    simp only [runOn_bind, ih hl, runOn_pure, List.map_cons]

/-- Readings that all succeed, one after the other. -/
lemma mapM_eq_ok {f : α → Except Fault β} {g : α → β} {l : List α}
    (hf : ∀ a ∈ l, f a = .ok (g a)) : l.mapM f = .ok (l.map g) := by
  induction l with
  | nil => rfl
  | cons a l ih =>
    obtain ⟨ha, hl⟩ := List.forall_mem_cons.1 hf
    rw [List.mapM_cons, ha, ih hl]
    rfl

/-! ## Tables that are there -/

/-- The table of the deployments is found if it is there. -/
lemma runOn_getDeployments {table : DeploymentTable} (h : db.deployments = some table) :
    getDeployments.runOn access db = (.ok table, db) := by
  unfold getDeployments
  rw [runOn_bind, runOn_get]
  simp [h]

/-- The rows of the deployments are found if they can be read. -/
lemma runOn_getReadable {rows : List DeploymentRow} (h : db.deployments = some ⟨true, rows⟩) :
    getReadable.runOn access db = (.ok ⟨true, rows⟩, db) := by
  unfold getReadable
  rw [runOn_bind, runOn_getDeployments h]
  rfl

/-- The rows of the artifacts are found if their table is there. -/
lemma runOn_getArtifacts {rows : List ArtifactRow} (h : db.artifacts = some rows) :
    getArtifacts.runOn access db = (.ok rows, db) := by
  unfold getArtifacts
  rw [runOn_bind, runOn_get]
  simp [h]

/-- Nothing is done about the table of versions if it is there. -/
lemma runOn_ensureVersions {numbers : List Int} (h : db.versions = some numbers) :
    ensureVersions.runOn access db = (.ok (), db) := by
  unfold ensureVersions
  rw [runOn_bind, runOn_get]
  simp [h]

/-- Who may write makes the table of versions if it is missing. -/
lemma runOn_ensureVersions_writing : ensureVersions.runOn .writing db = (.ok (), db.opened) := by
  rcases db with ⟨_ | numbers, _, _, _⟩
  · rfl
  · rfl

/-- The version that is read is that of the database. -/
lemma runOn_readVersion : readVersion.runOn access db = (.ok db.version, db) :=
  rfl

/-- A database with a version is ready. -/
lemma runOn_ensureReady {numbers : List Int} (h : db.versions = some numbers)
    (hpos : 0 < db.version) : ensureReady.runOn access db = (.ok (), db) := by
  unfold ensureReady
  rw [runOn_bind_of_ok (runOn_ensureVersions h), runOn_bind_of_ok runOn_readVersion,
    if_neg (Int.not_le.2 hpos)]
  rfl

/-! ## What computations did that gave a value -/

/-- A sequence gives a value if its parts do. -/
lemma runOn_bind_eq_ok_iff {p : Action α} {f : α → Action β} {b : β} :
    (p >>= f).runOn access db = (.ok b, db') ↔
      ∃ a db₁, p.runOn access db = (.ok a, db₁) ∧ (f a).runOn access db₁ = (.ok b, db') := by
  rw [runOn_bind]
  rcases p.runOn access db with ⟨fault | a, db₁⟩
  · constructor
    · exact fun h => nomatch (Prod.mk.inj h).1
    · rintro ⟨_, _, h, -⟩
      exact nomatch (Prod.mk.inj h).1
  · constructor
    · exact fun h => ⟨a, db₁, rfl, h⟩
    · rintro ⟨_, _, ⟨⟩, h⟩
      exact h

/-- A value is all that comes of it. -/
lemma runOn_pure_eq_ok_iff {a b : α} :
    (pure a : Action α).runOn access db = (.ok b, db') ↔ b = a ∧ db' = db := by
  constructor
  · rintro ⟨⟩
    exact ⟨rfl, rfl⟩
  · rintro ⟨rfl, rfl⟩
    rfl

/-- What is read from rows is all that comes of it. -/
lemma runOn_ofReading_eq_ok_iff {reading : Except Fault α} {a : α} :
    (ofReading reading).runOn access db = (.ok a, db') ↔ reading = .ok a ∧ db' = db := by
  rw [runOn_ofReading, Prod.mk.injEq, eq_comm (a := db)]

/-- A transaction gives a value exactly if what is done in it does. -/
lemma runOn_transaction_eq_ok_iff {p : Action α} {a : α} :
    (transaction p).runOn access db = (.ok a, db') ↔ p.runOn access db = (.ok a, db') := by
  rw [runOn_transaction]
  rcases p.runOn access db with ⟨fault | b, db₁⟩
  · constructor
    · exact fun h => nomatch (Prod.mk.inj h).1
    · exact fun h => nomatch (Prod.mk.inj h).1
  · rfl

/-- Only who may write changes the database. -/
lemma runOn_change_eq_ok_iff {f : Database → Database} {u : Unit} :
    (change f).runOn access db = (.ok u, db') ↔ access = .writing ∧ db' = f db := by
  cases access with
  | reading =>
    constructor
    · exact fun h => nomatch (Prod.mk.inj h).1
    · rintro ⟨⟨⟩, -⟩
  | writing =>
    constructor
    · rintro ⟨⟩
      exact ⟨rfl, rfl⟩
    · rintro ⟨-, rfl⟩
      rfl

/-- The table of the deployments is read exactly if it is there. -/
lemma runOn_getDeployments_eq_ok_iff {table : DeploymentTable} :
    getDeployments.runOn access db = (.ok table, db') ↔
      db.deployments = some table ∧ db' = db := by
  constructor
  · intro h
    rcases hdb : db.deployments with _ | table'
    · unfold getDeployments at h
      rw [runOn_bind, runOn_get] at h
      simp only [hdb] at h
      exact nomatch (Prod.mk.inj h).1
    · rw [runOn_getDeployments hdb] at h
      obtain ⟨⟨⟩, rfl⟩ := Prod.mk.inj h
      exact ⟨rfl, rfl⟩
  · rintro ⟨h, rfl⟩
    exact runOn_getDeployments h

/-- The rows of the artifacts are read exactly if their table is there. -/
lemma runOn_getArtifacts_eq_ok_iff {rows : List ArtifactRow} :
    getArtifacts.runOn access db = (.ok rows, db') ↔ db.artifacts = some rows ∧ db' = db := by
  constructor
  · intro h
    rcases hdb : db.artifacts with _ | rows'
    · unfold getArtifacts at h
      rw [runOn_bind, runOn_get] at h
      simp only [hdb] at h
      exact nomatch (Prod.mk.inj h).1
    · rw [runOn_getArtifacts hdb] at h
      obtain ⟨⟨⟩, rfl⟩ := Prod.mk.inj h
      exact ⟨rfl, rfl⟩
  · rintro ⟨h, rfl⟩
    exact runOn_getArtifacts h

/-- The table of deployments can be read if it has the column for the time of the cleanup. -/
lemma runOn_getReadable_eq_ok_iff {table : DeploymentTable} :
    getReadable.runOn access db = (.ok table, db') ↔
      db.deployments = some table ∧ table.hasCleanedAt = true ∧ db' = db := by
  unfold getReadable
  simp only [runOn_bind_eq_ok_iff, runOn_getDeployments_eq_ok_iff]
  constructor
  · rintro ⟨table', db₁, ⟨hdb, rfl⟩, h⟩
    by_cases hcolumn : table'.hasCleanedAt = true
    · rw [if_pos hcolumn, runOn_pure_eq_ok_iff] at h
      obtain ⟨rfl, rfl⟩ := h
      exact ⟨hdb, hcolumn, rfl⟩
    · rw [if_neg hcolumn] at h
      exact nomatch (Prod.mk.inj h).1
  · rintro ⟨hdb, hcolumn, rfl⟩
    exact ⟨table, _, ⟨hdb, rfl⟩, by rw [if_pos hcolumn]; rfl⟩

/-- Whoever may go on has opened a database with a layout. -/
lemma eq_opened_of_ensureReady (h : ensureReady.runOn access db = (.ok (), db')) :
    db' = db.opened ∧ 0 < db.version := by
  have hopened : ∀ {db₁}, ensureVersions.runOn access db = (.ok (), db₁) → db₁ = db.opened := by
    intro db₁ hrun
    cases access with
    | writing => exact (Prod.mk.inj (hrun.symm.trans runOn_ensureVersions_writing)).2
    | reading =>
      rcases db with ⟨_ | numbers, _, _, _⟩
      · exact nomatch (Prod.mk.inj hrun).1
      · exact (Prod.mk.inj hrun).2.symm
  unfold ensureReady at h
  obtain ⟨⟨⟩, db₁, hensure, h⟩ := runOn_bind_eq_ok_iff.1 h
  obtain rfl := hopened hensure
  rw [runOn_bind_of_ok runOn_readVersion] at h
  by_cases hpos : db.opened.version ≤ 0
  · rw [if_pos hpos] at h
    exact nomatch (Prod.mk.inj h).1
  · rw [if_neg hpos, runOn_pure_eq_ok_iff] at h
    exact ⟨h.2, Int.not_le.1 hpos⟩

/-! ## A database with the latest layout -/

/-- A database with the latest layout, and what is in its tables. -/
structure Holds (db : Database) (rows : List DeploymentRow) (artifacts : List ArtifactRow) :
    Prop where
  versions : ∃ numbers, db.versions = some numbers ∧ 0 < greatestVersion numbers
  deployments : db.deployments = some ⟨true, rows⟩
  artifacts : db.artifacts = some artifacts

namespace Holds

variable {rows : List DeploymentRow} {artifacts : List ArtifactRow}

/-- A database that holds rows is ready. -/
lemma runOn_ensureReady (h : Holds db rows artifacts) :
    ensureReady.runOn access db = (.ok (), db) := by
  obtain ⟨numbers, hnumbers, hpos⟩ := h.versions
  refine Ledger.runOn_ensureReady hnumbers ?_
  rwa [Database.version, hnumbers]

/-- The rows that a database holds can be read. -/
@[simp]
lemma runOn_getReadable (h : Holds db rows artifacts) :
    getReadable.runOn access db = (.ok ⟨true, rows⟩, db) :=
  Ledger.runOn_getReadable h.deployments

/-- The artifacts that a database holds are found. -/
@[simp]
lemma runOn_getArtifacts (h : Holds db rows artifacts) :
    getArtifacts.runOn access db = (.ok artifacts, db) :=
  Ledger.runOn_getArtifacts h.artifacts

/-- The rows after those of one application were changed. -/
def updated (id : ApplicationId) (change : DeploymentRow → DeploymentRow)
    (rows : List DeploymentRow) : List DeploymentRow :=
  rows.map fun row => if row.isOf id.display then change row else row

end Holds

/-- Only who may write changes the rows of an application, in whatever layout. -/
lemma runOn_updateRow_eq_ok_iff {id : ApplicationId} {f : DeploymentRow → DeploymentRow}
    {found : Bool} :
    (updateRow id f).runOn access db = (.ok found, db') ↔
      access = .writing ∧ ∃ table, db.deployments = some table ∧
        found = (table.rows.any fun row => row.isOf id.display) ∧
        db' = { db with deployments := some { table with
          rows := Holds.updated id f table.rows } } := by
  unfold updateRow setDeployments
  simp only [runOn_bind_eq_ok_iff, runOn_getDeployments_eq_ok_iff, runOn_change_eq_ok_iff,
    runOn_pure_eq_ok_iff]
  constructor
  · rintro ⟨table, db₁, ⟨hdb, rfl⟩, ⟨⟩, db₂, ⟨rfl, rfl⟩, rfl, rfl⟩
    exact ⟨rfl, table, hdb, rfl, rfl⟩
  · rintro ⟨rfl, table, hdb, rfl, rfl⟩
    exact ⟨table, _, ⟨hdb, rfl⟩, (), _, ⟨rfl, rfl⟩, rfl, rfl⟩

end ClusterDeploy.Ledger
